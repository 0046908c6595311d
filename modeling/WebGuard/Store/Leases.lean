import Mathlib.Data.List.MinMax
import Mathlib.Data.List.Sort
import Mathlib.Data.Prod.Lex
import Mathlib.Data.String.Basic
import WebGuard.Store.Submit

/-!
# Claims, leases and cancellation

`claim_next`, `claim_next_leased`, `renew_lease`, `recover_expired_leases` and
`request_cancellation` of `ScanJobStore`.

The `SET` clauses are functions on rows, so that what an operation writes has a name. Each
operation comes with a lemma that says what a committed call has done: nothing, or one row
replaced (`Store.Replaced`); for a recovery, every expired row replaced (`job_recover`).
-/

namespace WebGuard

open Relational Atomic List

/-! ## The SET clauses -/

namespace JobRow

def claim (r : JobRow) (moment revision : Nat) : JobRow :=
  { r with state := .running, startedAt := some moment, updatedAt := moment, revision := revision }

def claimLeased (r : JobRow) (moment revision : Nat) (workerId leaseToken : String)
    (expiresAt : Nat) : JobRow :=
  { r with
    state := .running, startedAt := some moment, updatedAt := moment, revision := revision,
    workerId := some workerId, leaseToken := some leaseToken, leaseExpiresAt := some expiresAt,
    heartbeatAt := some moment, attemptCount := r.attemptCount + 1 }

def renew (r : JobRow) (moment expiresAt revision : Nat) : JobRow :=
  { r with
    heartbeatAt := some moment, leaseExpiresAt := some expiresAt, updatedAt := moment,
    revision := revision }

/-- The lease columns set to `NULL`. -/
def release (r : JobRow) : JobRow :=
  { r with workerId := none, leaseToken := none, leaseExpiresAt := none, heartbeatAt := none }

def recoverCancelled (r : JobRow) (moment revision : Nat) : JobRow :=
  { r.release with
    state := .cancelled, completedAt := some moment, updatedAt := moment, revision := revision }

def recoverFailed (r : JobRow) (moment revision : Nat) : JobRow :=
  { r.release with
    state := .failed, completedAt := some moment, updatedAt := moment, revision := revision,
    errorCode := some "worker_lease_attempts_exhausted",
    errorMessage := some "The scan job exceeded the permitted worker recovery attempts." }

def requeue (r : JobRow) (moment revision : Nat) : JobRow :=
  { r.release with
    state := .queued, startedAt := none, updatedAt := moment, revision := revision }

def cancelQueued (r : JobRow) (moment revision : Nat) : JobRow :=
  { r with
    state := .cancelled, cancellationRequested := true, completedAt := some moment,
    updatedAt := moment, revision := revision }

def flagCancellation (r : JobRow) (moment revision : Nat) : JobRow :=
  { r with cancellationRequested := true, updatedAt := moment, revision := revision }

end JobRow

/-! ## One row replaced -/

/-- `s'` is `s` with the row `row` replaced by `row'`; only jobs and receipts may differ. -/
structure Store.Replaced (s s' : Store) (row row' : JobRow) : Prop where
  old : s.job row.jobId = some row
  job : ∀ j, s'.job j = if j = row.jobId then some row' else s.job j
  frame : s' = { s with scanJobs := s'.scanJobs, jobSafetyReceipts := s'.jobSafetyReceipts }

variable {s s' : Store} {row : JobRow} {jobId workerId leaseToken : String} {now : Nat}

theorem Store.replaced_of_updateJob {guard : JobRow → Bool} {f : JobRow → JobRow}
    {keeps : ∀ r, (f r).jobId = r.jobId ∧ (f r).idempotencyKey = r.idempotencyKey}
    (h : s.job jobId = some row) (hg : guard row = true) :
    s.Replaced (s.updateJob jobId guard f keeps).1 row (f row) := by
  have hid := jobId_of_job h
  refine ⟨by rw [hid]; exact h, ?_, rfl⟩
  intro j
  rw [job_updateJob_of_guard h hg, hid]

theorem Store.Replaced.withReceipts {s₁ : Store} {row' : JobRow} (h : s.Replaced s₁ row row')
    (hs' : s' = { s₁ with jobSafetyReceipts := s'.jobSafetyReceipts }) :
    s.Replaced s' row row' := by
  have hjobs : s'.scanJobs = s₁.scanJobs := by rw [hs']
  refine ⟨h.old, ?_, ?_⟩
  · intro j
    rw [← h.job j]
    unfold Store.job
    rw [hjobs]
  · rw [hjobs, hs', h.frame]

/-! ## `_select_claimable_row` -/

namespace Store

/-- Whether some running job is bound to the permit. -/
def permitRunning (s : Store) (permitId : String) : Bool :=
  s.scanJobs.rows.any fun r =>
    r.state == .running && (s.binding r.jobId).any (fun b => b.permitId == permitId)

/-- The scope condition; it applies once the identity service has created its table. -/
def scopeAuthorized (s : Store) (row : JobRow) : Bool :=
  match s.organizationAuthorizations with
  | none => true
  | some assignments =>
    match s.jobScopes.get? ScopeRow.jobId row.jobId with
    | none => true
    | some scope => assignments.contains (scope.organizationId, row.authorizationId)

/-- The permit condition: unbound, or bound to a permit in force under which nothing runs. -/
def permitClaimable (s : Store) (now : Nat) (row : JobRow) : Bool :=
  match s.binding row.jobId with
  | none => true
  | some binding =>
    (s.scanPermits.rows.any fun p =>
      p.permitId == binding.permitId && p.permitSha256 == binding.permitSha256
        && p.revokedAt.isNone && p.notBefore ≤ now && now < p.expiresAt)
      && !s.permitRunning binding.permitId

/-- The `WHERE` clause of the claim. -/
def claimable (s : Store) (now : Nat) (row : JobRow) : Bool :=
  row.state == .queued && !row.cancellationRequested && s.scopeAuthorized row
    && s.permitClaimable now row

/-- `_select_claimable_row`: `ORDER BY submitted_at, job_id LIMIT 1`. -/
def selectClaimableRow (s : Store) (now : Nat) : Option JobRow :=
  (s.scanJobs.rows.filter (s.claimable now)).argmin fun r => toLex (r.submittedAt, r.jobId)

theorem claimable_iff :
    s.claimable now row = true ↔
      row.state = .queued ∧ row.cancellationRequested = false ∧ s.scopeAuthorized row = true ∧
        s.permitClaimable now row = true := by
  simp [claimable, and_assoc]

theorem selectClaimableRow_spec (h : s.selectClaimableRow now = some row) :
    s.job row.jobId = some row ∧ s.claimable now row = true := by
  have hmem := argmin_mem (Option.mem_def.mpr h)
  rw [mem_filter] at hmem
  exact ⟨job_eq_some_iff.mpr ⟨hmem.1, rfl⟩, hmem.2⟩

end Store

/-! ## `claim_next` -/

def claimNextBody (now : Nat) (s : Store) : Answer (Option JobRow × Store) :=
  match s.selectClaimableRow now with
  | none => .ok (none, s)
  | some row =>
    let moment := noEarlierThan now row.submittedAt
    let updated := s.updateJob row.jobId
      (fun r => r.state == .queued && r.revision == row.revision)
      (fun r => r.claim moment (row.revision + 1)) (fun _ => ⟨rfl, rfl⟩)
    if updated.2 != 1 then .ok (none, s)
    else do
      let claimed ← found (updated.1.job row.jobId) .assertion
      return (some claimed, updated.1)

variable {claimed : Option JobRow}

theorem claimNextBody_ok (h : claimNextBody now s = .ok (claimed, s')) :
    (claimed = none ∧ s' = s) ∨
    ∃ row, s.selectClaimableRow now = some row ∧
      claimed = some (row.claim (noEarlierThan now row.submittedAt) (row.revision + 1)) ∧
      s.Replaced s' row (row.claim (noEarlierThan now row.submittedAt) (row.revision + 1)) := by
  unfold claimNextBody at h
  split at h
  · cases h
    exact Or.inl ⟨rfl, rfl⟩
  · next row hrow =>
    obtain ⟨hjob, hclaim⟩ := Store.selectClaimableRow_spec hrow
    obtain ⟨hstate, -⟩ := Store.claimable_iff.mp hclaim
    simp only [] at h
    split at h
    · cases h
      exact Or.inl ⟨rfl, rfl⟩
    · obtain ⟨read, hread, h⟩ := bind_ok h
      cases h
      have hguard : (row.state == .queued && row.revision == row.revision) = true := by
        simp [hstate]
      rw [found_eq_ok, Store.job_updateJob_of_guard hjob hguard, if_pos rfl] at hread
      exact Or.inr ⟨row, hrow, hread.symm, Store.replaced_of_updateJob hjob hguard⟩

def claimNext [Primitives] (now : Nat) (s : Store) : Answer (Option ScanJobRecord) × Store :=
  transaction (claimNextBody now)
    (fun claimed _ => claimed.elim (.ok none) (fun row => (recordFromRow row).map some)) s

/-! ## `claim_next_leased` -/

/-- `leaseToken` is the `uuid4` drawn for this claim. -/
def claimNextLeasedBody (now : Nat) (workerId : String) (leaseSeconds : Nat) (leaseToken : String)
    (s : Store) : Answer (Option JobRow × Store) := do
  let effectiveWorkerId ← checkWorkerId workerId
  let duration ← checkLeaseSeconds leaseSeconds
  match s.selectClaimableRow now with
  | none => return (none, s)
  | some row =>
    let moment := noEarlierThan now row.submittedAt
    let expiresAt ← addMicroseconds moment duration
    let updated := s.updateJob row.jobId
      (fun r => r.state == .queued && r.revision == row.revision)
      (fun r => r.claimLeased moment (row.revision + 1) effectiveWorkerId leaseToken expiresAt)
      (fun _ => ⟨rfl, rfl⟩)
    -- A lost race rolls back and answers as if nothing were claimable.
    if updated.2 != 1 then return (none, s)
    else
      let claimed ← found (updated.1.job row.jobId) .assertion
      return (some claimed, updated.1)

theorem claimNextLeasedBody_ok {leaseSeconds : Nat}
    (h : claimNextLeasedBody now workerId leaseSeconds leaseToken s = .ok (claimed, s')) :
    (claimed = none ∧ s' = s) ∨
    ∃ row worker expiresAt, s.selectClaimableRow now = some row ∧
      checkWorkerId workerId = .ok worker ∧ noEarlierThan now row.submittedAt ≤ expiresAt ∧
      claimed = some (row.claimLeased (noEarlierThan now row.submittedAt) (row.revision + 1)
        worker leaseToken expiresAt) ∧
      s.Replaced s' row (row.claimLeased (noEarlierThan now row.submittedAt) (row.revision + 1)
        worker leaseToken expiresAt) := by
  unfold claimNextLeasedBody at h
  obtain ⟨worker, hworker, h⟩ := bind_ok h
  obtain ⟨duration, -, h⟩ := bind_ok h
  split at h
  · cases h
    exact Or.inl ⟨rfl, rfl⟩
  · next row hrow =>
    obtain ⟨hjob, hclaim⟩ := Store.selectClaimableRow_spec hrow
    obtain ⟨hstate, -⟩ := Store.claimable_iff.mp hclaim
    obtain ⟨expiresAt, hexpires, h⟩ := bind_ok h
    simp only [] at h
    split at h
    · cases h
      exact Or.inl ⟨rfl, rfl⟩
    · obtain ⟨read, hread, h⟩ := bind_ok h
      cases h
      have hguard : (row.state == .queued && row.revision == row.revision) = true := by
        simp [hstate]
      rw [found_eq_ok, Store.job_updateJob_of_guard hjob hguard, if_pos rfl] at hread
      have hle : noEarlierThan now row.submittedAt ≤ expiresAt := by
        rw [addMicroseconds_eq_ok hexpires]
        exact Nat.le_add_right _ _
      exact Or.inr ⟨row, worker, expiresAt, hrow, hworker, hle, hread.symm,
        Store.replaced_of_updateJob hjob hguard⟩

def claimNextLeased [Primitives] (now : Nat) (workerId : String) (leaseSeconds : Nat)
    (leaseToken : String) (s : Store) : Answer (Option LeasedScanJob) × Store :=
  transaction (claimNextLeasedBody now workerId leaseSeconds leaseToken)
    (fun claimed _ => claimed.elim (.ok none) (fun row => (leaseFromRow row).map some)) s

/-! ## `renew_lease` -/

def leaseLost : Failure := .jobStore "job_lease_lost" "The worker lease is no longer current."

def leaseExpired : Failure := .jobStore "job_lease_expired" "The worker lease has expired."

def requireActiveLease (row : JobRow) (workerId leaseToken : String) (now : Nat) : Answer Unit := do
  ensure (row.state == .running && row.workerId == some workerId
    && row.leaseToken == some leaseToken) leaseLost
  ensure (row.leaseExpiresAt.any (now < ·)) leaseExpired

theorem requireActiveLease_eq_ok {u : Unit} :
    requireActiveLease row workerId leaseToken now = .ok u ↔
      row.state = .running ∧ row.workerId = some workerId ∧ row.leaseToken = some leaseToken ∧
        ∃ e, row.leaseExpiresAt = some e ∧ now < e := by
  unfold requireActiveLease
  rw [bind_ok_iff]
  simp [Option.any_eq_true, and_assoc]

def renewLeaseBody (jobId workerId leaseToken : String) (now leaseSeconds : Nat) (s : Store) :
    Answer (JobRow × Store) := do
  let effectiveWorkerId ← checkWorkerId workerId
  let duration ← checkLeaseSeconds leaseSeconds
  let row ← found (s.job jobId) jobNotFound
  requireActiveLease row effectiveWorkerId leaseToken now
  let moment := noEarlierThan now row.submittedAt
  let expiresAt ← addMicroseconds moment duration
  let updated := s.updateJob jobId
    (fun r => r.state == .running && r.revision == row.revision
      && r.workerId == some effectiveWorkerId && r.leaseToken == some leaseToken)
    (fun r => r.renew moment expiresAt (row.revision + 1)) (fun _ => ⟨rfl, rfl⟩)
  ensure (updated.2 == 1) leaseLost
  let renewed ← found (updated.1.job jobId) .assertion
  return (renewed, updated.1)

theorem renewLeaseBody_ok {leaseSeconds : Nat} {renewed : JobRow}
    (h : renewLeaseBody jobId workerId leaseToken now leaseSeconds s = .ok (renewed, s')) :
    ∃ row worker expiresAt, row.jobId = jobId ∧ checkWorkerId workerId = .ok worker ∧
      requireActiveLease row worker leaseToken now = .ok () ∧
      renewed = row.renew (noEarlierThan now row.submittedAt) expiresAt (row.revision + 1) ∧
      s.Replaced s' row
        (row.renew (noEarlierThan now row.submittedAt) expiresAt (row.revision + 1)) := by
  unfold renewLeaseBody at h
  obtain ⟨worker, hworker, h⟩ := bind_ok h
  obtain ⟨duration, -, h⟩ := bind_ok h
  obtain ⟨row, hrow, h⟩ := bind_ok h
  obtain ⟨_, hactive, h⟩ := bind_ok h
  obtain ⟨expiresAt, -, h⟩ := bind_ok h
  obtain ⟨_, -, h⟩ := bind_ok h
  obtain ⟨read, hread, h⟩ := bind_ok h
  cases h
  rw [found_eq_ok] at hrow
  obtain ⟨hstate, hholder, htoken, -⟩ := requireActiveLease_eq_ok.mp hactive
  have hguard : (row.state == .running && row.revision == row.revision
      && row.workerId == some worker && row.leaseToken == some leaseToken) = true := by
    simp [hstate, hholder, htoken]
  rw [found_eq_ok, Store.job_updateJob_of_guard hrow hguard, if_pos rfl] at hread
  exact ⟨row, worker, expiresAt, Store.jobId_of_job hrow, hworker, hactive,
    (Option.some.inj hread).symm, Store.replaced_of_updateJob hrow hguard⟩

def renewLease [Primitives] (jobId workerId leaseToken : String) (now leaseSeconds : Nat)
    (s : Store) :
    Answer LeasedScanJob × Store :=
  transaction (renewLeaseBody jobId workerId leaseToken now leaseSeconds)
    (fun renewed _ => leaseFromRow renewed) s

/-! ## `recover_expired_leases` -/

structure LeaseRecoverySummary where
  requeued : Nat := 0
  cancelled : Nat := 0
  failed : Nat := 0
  deriving DecidableEq

/-- One turn of the recovery loop. -/
def recoverRow (now limit : Nat) (progress : Store × LeaseRecoverySummary) (row : JobRow) :
    Store × LeaseRecoverySummary :=
  let (s, summary) := progress
  let revision := row.revision + 1
  let moment := noEarlierThan now row.submittedAt
  -- `lease_token = NULL` holds of no row.
  let guard := fun r : JobRow => r.state == .running && r.revision == row.revision
    && row.leaseToken.isSome && r.leaseToken == row.leaseToken
  if row.cancellationRequested then
    let updated := s.updateJob row.jobId guard (fun r => r.recoverCancelled moment revision)
      (fun _ => ⟨rfl, rfl⟩)
    (updated.1, { summary with cancelled := summary.cancelled + updated.2 })
  else if limit ≤ row.attemptCount then
    let updated := s.updateJob row.jobId guard (fun r => r.recoverFailed moment revision)
      (fun _ => ⟨rfl, rfl⟩)
    (updated.1, { summary with failed := summary.failed + updated.2 })
  else
    let updated := s.updateJob row.jobId guard (fun r => r.requeue moment revision)
      (fun _ => ⟨rfl, rfl⟩)
    (updated.1, { summary with requeued := summary.requeued + updated.2 })

/-- Running under a lease that has run out at `now`. -/
def JobRow.leaseExpired (row : JobRow) (now : Nat) : Bool :=
  row.state == .running && row.leaseExpiresAt.any (· ≤ now)

/-- The rows a recovery works on, `ORDER BY lease_expires_at, job_id`. -/
def Store.expiredRows (s : Store) (now : Nat) : List JobRow :=
  (s.scanJobs.rows.filter (fun r => r.leaseExpired now)).insertionSort
    (fun a b => toLex (a.leaseExpiresAt.getD 0, a.jobId) ≤ toLex (b.leaseExpiresAt.getD 0, b.jobId))

def recoverExpiredLeasesBody (now maximumAttempts : Nat) (s : Store) :
    Answer (LeaseRecoverySummary × Store) := do
  let limit ← checkMaximumAttempts maximumAttempts
  let (s', summary) := (s.expiredRows now).foldl (recoverRow now limit) (s, {})
  return (summary, s')

/-- What a recovery makes of a row it works on. -/
def JobRow.recovered (row : JobRow) (now limit : Nat) : JobRow :=
  if row.leaseToken.isSome then
    if row.cancellationRequested then
      row.recoverCancelled (noEarlierThan now row.submittedAt) (row.revision + 1)
    else if limit ≤ row.attemptCount then
      row.recoverFailed (noEarlierThan now row.submittedAt) (row.revision + 1)
    else row.requeue (noEarlierThan now row.submittedAt) (row.revision + 1)
  else row

theorem JobRow.leaseExpired_iff :
    row.leaseExpired now = true ↔
      row.state = .running ∧ ∃ expires, row.leaseExpiresAt = some expires ∧ expires ≤ now := by
  unfold JobRow.leaseExpired
  rw [Bool.and_eq_true, beq_iff_eq, Option.any_eq_true]
  simp

theorem JobRow.recovered_cases (htoken : row.leaseToken.isSome = true) (now limit : Nat) :
    (row.cancellationRequested = true ∧ row.recovered now limit
      = row.recoverCancelled (noEarlierThan now row.submittedAt) (row.revision + 1)) ∨
    (row.cancellationRequested = false ∧ limit ≤ row.attemptCount ∧ row.recovered now limit
      = row.recoverFailed (noEarlierThan now row.submittedAt) (row.revision + 1)) ∨
    (row.cancellationRequested = false ∧ row.attemptCount < limit ∧ row.recovered now limit
      = row.requeue (noEarlierThan now row.submittedAt) (row.revision + 1)) := by
  unfold JobRow.recovered
  rw [if_pos htoken]
  split
  · next hflag => exact Or.inl ⟨hflag, rfl⟩
  · next hflag =>
    rw [Bool.not_eq_true] at hflag
    split
    · next hlimit => exact Or.inr (Or.inl ⟨hflag, hlimit, rfl⟩)
    · next hlimit => exact Or.inr (Or.inr ⟨hflag, Nat.lt_of_not_le hlimit, rfl⟩)

theorem recoverRow_frame (now limit : Nat) (progress : Store × LeaseRecoverySummary)
    (row : JobRow) :
    (recoverRow now limit progress row).1
      = { progress.1 with scanJobs := (recoverRow now limit progress row).1.scanJobs } := by
  unfold recoverRow
  simp only []
  split
  · rfl
  · split <;> rfl

theorem job_recoverRow {limit : Nat} {progress : Store × LeaseRecoverySummary}
    (h : progress.1.job row.jobId = some row) (hrunning : row.state = .running) (j : String) :
    (recoverRow now limit progress row).1.job j
      = if j = row.jobId then some (row.recovered now limit) else progress.1.job j := by
  unfold recoverRow JobRow.recovered
  cases htoken : row.leaseToken with
  | none =>
    -- Each branch compares the token with NULL, so none of them updates the row.
    simp only [Option.isSome_none, Bool.and_false, Bool.false_and, Bool.false_eq_true, if_false]
    split
    · rw [Store.job_updateJob]
      simp [h]
    · split <;> · rw [Store.job_updateJob]; simp [h]
  | some token =>
    simp only [Option.isSome_some, Bool.and_true, if_true]
    have hguard : (row.state == .running && row.revision == row.revision
        && row.leaseToken == some token) = true := by
      simp [hrunning, htoken]
    split
    · rw [Store.job_updateJob_of_guard h hguard]
    · split <;> rw [Store.job_updateJob_of_guard h hguard]

theorem job_foldl_recoverRow (now limit : Nat) (rows : List JobRow)
    (progress : Store × LeaseRecoverySummary) (hnodup : (rows.map JobRow.jobId).Nodup)
    (hrows : ∀ r ∈ rows, progress.1.job r.jobId = some r ∧ r.state = .running) (j : String) :
    (rows.foldl (recoverRow now limit) progress).1.job j
      = if j ∈ rows.map JobRow.jobId then (progress.1.job j).map (fun r => r.recovered now limit)
        else progress.1.job j := by
  induction rows generalizing progress with
  | nil => simp
  | cons row rest ih =>
    rw [map_cons, nodup_cons] at hnodup
    obtain ⟨hnot, hrest⟩ := hnodup
    have hstep : ∀ k, (recoverRow now limit progress row).1.job k
        = if k = row.jobId then some (row.recovered now limit) else progress.1.job k :=
      job_recoverRow (hrows row (by simp)).1 (hrows row (by simp)).2
    -- The rows still to do are as they were selected: this turn wrote another key.
    have hlater : ∀ r ∈ rest,
        (recoverRow now limit progress row).1.job r.jobId = some r ∧ r.state = .running := by
      intro r hr
      have hne : r.jobId ≠ row.jobId := by
        intro he
        exact hnot (he ▸ mem_map_of_mem hr)
      rw [hstep, if_neg hne]
      exact hrows r (by simp [hr])
    rw [foldl_cons, ih _ hrest hlater, hstep]
    by_cases hj : j = row.jobId
    · subst hj
      rw [if_neg hnot, if_pos rfl, if_pos (by simp), (hrows row (by simp)).1, Option.map_some]
    · simp [hj]

theorem foldl_recoverRow_frame (now limit : Nat) (rows : List JobRow)
    (progress : Store × LeaseRecoverySummary) :
    (rows.foldl (recoverRow now limit) progress).1
      = { progress.1 with
          scanJobs := (rows.foldl (recoverRow now limit) progress).1.scanJobs } := by
  induction rows generalizing progress with
  | nil => rfl
  | cons row rest ih =>
    rw [foldl_cons, ih]
    rw [recoverRow_frame]

theorem Store.mem_expiredRows :
    row ∈ s.expiredRows now ↔ row ∈ s.scanJobs.rows ∧ row.leaseExpired now = true := by
  unfold Store.expiredRows
  rw [mem_insertionSort, mem_filter]

theorem Store.expiredRows_nodup (s : Store) (now : Nat) :
    ((s.expiredRows now).map JobRow.jobId).Nodup := by
  unfold Store.expiredRows
  have hperm := (perm_insertionSort
    (fun a b : JobRow =>
      toLex (a.leaseExpiresAt.getD 0, a.jobId) ≤ toLex (b.leaseExpiresAt.getD 0, b.jobId))
    (s.scanJobs.rows.filter (fun r => r.leaseExpired now))).map JobRow.jobId
  refine hperm.nodup_iff.mpr ?_
  have hsub := (filter_sublist (p := fun r : JobRow => r.leaseExpired now)
    (l := s.scanJobs.rows)).map JobRow.jobId
  exact hsub.nodup (s.scanJobs.unique JobRow.jobId (by simp))

theorem job_recover {maximumAttempts : Nat} {summary : LeaseRecoverySummary}
    (h : recoverExpiredLeasesBody now maximumAttempts s = .ok (summary, s')) :
    1 ≤ maximumAttempts ∧ s' = { s with scanJobs := s'.scanJobs } ∧
      ∀ j, s'.job j = (s.job j).map
        (fun r => if r.leaseExpired now = true then r.recovered now maximumAttempts else r) := by
  unfold recoverExpiredLeasesBody at h
  obtain ⟨limit, hlimit, hloop⟩ := bind_ok h
  obtain ⟨hsame, hrange⟩ := checkMaximumAttempts_eq_ok.mp hlimit
  rw [hsame] at hloop
  cases hloop
  refine ⟨hrange.1, foldl_recoverRow_frame now maximumAttempts _ _, ?_⟩
  intro j
  rw [job_foldl_recoverRow now maximumAttempts _ _ (s.expiredRows_nodup now)]
  · split
    · next hj =>
      obtain ⟨r, hr, rfl⟩ := mem_map.mp hj
      obtain ⟨hmem, hexpired⟩ := Store.mem_expiredRows.mp hr
      rw [Store.job_eq_some_iff.mpr ⟨hmem, rfl⟩, Option.map_some, Option.map_some, if_pos hexpired]
    · next hj =>
      cases hrow : s.job j with
      | none => simp
      | some r =>
        have hlive : ¬ r.leaseExpired now = true := by
          intro hexpired
          obtain ⟨hmem, hid⟩ := Store.job_eq_some_iff.mp hrow
          exact hj (mem_map.mpr ⟨r, Store.mem_expiredRows.mpr ⟨hmem, hexpired⟩, hid⟩)
        simp [hlive]
  · intro r hr
    obtain ⟨hmem, hexpired⟩ := Store.mem_expiredRows.mp hr
    exact ⟨Store.job_eq_some_iff.mpr ⟨hmem, rfl⟩, (JobRow.leaseExpired_iff.mp hexpired).1⟩

def recoverExpiredLeases (now maximumAttempts : Nat) (s : Store) :
    Answer LeaseRecoverySummary × Store :=
  transaction (recoverExpiredLeasesBody now maximumAttempts) (fun summary _ => .ok summary) s

/-! ## `get` and `is_cancellation_requested` -/

def Store.get [Primitives] (s : Store) (jobId : String) : Answer ScanJobRecord := do
  let row ← found (s.job jobId) jobNotFound
  recordFromRow row

def Store.isCancellationRequested [Primitives] (s : Store) (jobId : String) : Answer Bool :=
  (s.get jobId).map (fun record => record.cancellationRequested)

/-! ## `request_cancellation` -/

/-- The left answer is the record of a terminal job, built before the commit. -/
def requestCancellationBody [Primitives] (jobId : String) (now : Nat) (s : Store) :
    Answer ((ScanJobRecord ⊕ JobRow) × Store) := do
  let row ← found (s.job jobId) jobNotFound
  let record ← recordFromRow row
  if record.state.isTerminal then return (.inl record, s)
  else
    let revision := record.revision + 1
    let guard := fun r : JobRow => r.revision == record.revision
    let s' :=
      if record.state == .queued then
        (s.updateJob jobId guard (fun r => r.cancelQueued now revision) (fun _ => ⟨rfl, rfl⟩)).1
      else
        (s.updateJob jobId guard (fun r => r.flagCancellation now revision)
          (fun _ => ⟨rfl, rfl⟩)).1
    let updated ← found (s'.job jobId) .assertion
    return (.inr updated, s')

theorem requestCancellationBody_ok [Primitives] {answer : ScanJobRecord ⊕ JobRow}
    (h : requestCancellationBody jobId now s = .ok (answer, s')) :
    ∃ row record, row.jobId = jobId ∧ s.job jobId = some row ∧ recordFromRow row = .ok record ∧
      ((row.state.isTerminal = true ∧ answer = .inl record ∧ s' = s) ∨
       (row.state = .queued ∧ answer = .inr (row.cancelQueued now (row.revision + 1)) ∧
          s.Replaced s' row (row.cancelQueued now (row.revision + 1))) ∨
       (row.state = .running ∧ answer = .inr (row.flagCancellation now (row.revision + 1)) ∧
          s.Replaced s' row (row.flagCancellation now (row.revision + 1)))) := by
  unfold requestCancellationBody at h
  obtain ⟨row, hrow, h⟩ := bind_ok h
  obtain ⟨record, hrecord, h⟩ := bind_ok h
  rw [found_eq_ok] at hrow
  obtain ⟨-, hstate, hrevision, -, -⟩ := recordFromRow_keeps hrecord
  refine ⟨row, record, Store.jobId_of_job hrow, hrow, hrecord, ?_⟩
  rw [← hrevision]
  have hguard : (row.revision == record.revision) = true := by simp [hrevision]
  rw [hstate] at h
  split at h
  · next hterminal =>
    cases h
    exact Or.inl ⟨hterminal, rfl, rfl⟩
  · next hterminal =>
    obtain ⟨read, hread, h⟩ := bind_ok h
    cases h
    rw [found_eq_ok] at hread
    cases hq : row.state with
    | queued =>
      simp only [hq, BEq.rfl, if_true] at hread ⊢
      rw [Store.job_updateJob_of_guard hrow hguard, if_pos rfl] at hread
      exact Or.inr (Or.inl ⟨trivial, by rw [Option.some.inj hread],
        Store.replaced_of_updateJob hrow hguard⟩)
    | running =>
      have hne : (ScanJobState.running == ScanJobState.queued) = false := rfl
      simp only [hq, hne, Bool.false_eq_true, if_false] at hread ⊢
      rw [Store.job_updateJob_of_guard hrow hguard, if_pos rfl] at hread
      exact Or.inr (Or.inr ⟨trivial, by rw [Option.some.inj hread],
        Store.replaced_of_updateJob hrow hguard⟩)
    | _ => simp [hq, ScanJobState.isTerminal] at hterminal

def requestCancellation [Primitives] (jobId : String) (now : Nat) (s : Store) :
    Answer ScanJobRecord × Store :=
  transaction (requestCancellationBody jobId now)
    (fun answer _ => answer.elim .ok recordFromRow) s

end WebGuard
