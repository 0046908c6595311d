import WebGuard.Postgres.Submit

/-!
# The PostgreSQL repository, call by call

The methods of `PostgresJobRepository` with the functions of `webguard_control` that they call,
each run to its end before the next begins.

The functions of the schema `webguard_control` are in the namespace `Control`. A method runs its
function in one transaction and builds its answer after the commit.

* Identifiers are values of type `uuid`, in their canonical form, and a text parameter has no
  character that the driver refuses.
* A column of type `integer` that would pass its range is an error of the database, and so is an
  instant beyond the years of a `datetime`, which the driver refuses to load.
* `scan_records` is left out: no function here reads it.
-/

namespace WebGuard

open Relational Atomic List JobRow

/-! ## The tables -/

/-- `scan_jobs`, which has a column for the tenant. -/
structure PgJobRow extends JobRow where
  organizationId : Option String := none
  deriving DecidableEq

namespace PgJobRow

/-- The column `job_id`. -/
def id (r : PgJobRow) : String := r.toJobRow.jobId

/-- The column `idempotency_key`. -/
def key (r : PgJobRow) : String := r.toJobRow.idempotencyKey

end PgJobRow

structure PgStore where
  scanJobs : Table PgJobRow [PgJobRow.id, PgJobRow.key]
  scanPermits : Table PermitRow [PermitRow.permitId]
  jobPermits : Table JobPermitRow [JobPermitRow.jobId]
  scanSchedules : Table ScheduleRow [ScanScheduleRecordFields.scheduleId]
  schedulePermits : Table SchedulePermitRow [SchedulePermitRow.scheduleId]
  jobSafetyReceipts : Table SafetyReceiptRow [SafetyReceiptRow.jobId]
  organizationAuthorizations : List (String × String)
  organizations : List String
  principals : List String

abbrev PgAnswer (α : Type) := Except PgFailure α

/-- What the method raises by itself. -/
def raising {α : Type} (answer : Answer α) : PgAnswer α := answer.mapError .raised

theorem raising_eq_ok {α : Type} {answer : Answer α} {a : α} :
    raising answer = .ok a ↔ answer = .ok a := by
  cases answer <;> simp [raising, Atomic.mapError_ok, Atomic.mapError_error]

/-- An error of the driver that `normalize` has no class for. -/
def databaseFailed : PgFailure :=
  .database "database_unavailable" "The database operation failed unexpectedly."

/-- The range of `integer`. -/
def isInteger (n : Nat) : Bool := n < 2147483648

/-- The `integer` columns of a row of `scan_jobs`. -/
def JobRow.integers (r : JobRow) : Bool := isInteger r.revision && isInteger r.attemptCount

variable {row : PgJobRow} {now : Nat} {summary : LeaseRecoverySummary} {limit : Int}

namespace PgStore

def empty : PgStore where
  scanJobs := .empty
  scanPermits := .empty
  jobPermits := .empty
  scanSchedules := .empty
  schedulePermits := .empty
  jobSafetyReceipts := .empty
  organizationAuthorizations := []
  organizations := []
  principals := []

def job (p : PgStore) (jobId : String) : Option PgJobRow := p.scanJobs.get? PgJobRow.id jobId

def binding (p : PgStore) (jobId : String) : Option JobPermitRow :=
  p.jobPermits.get? JobPermitRow.jobId jobId

def schedule (p : PgStore) (scheduleId : String) : Option ScheduleRow :=
  p.scanSchedules.get? ScanScheduleRecordFields.scheduleId scheduleId

theorem job_eq_some_iff {p : PgStore} {jobId : String} :
    p.job jobId = some row ↔ row ∈ p.scanJobs.rows ∧ row.id = jobId :=
  Table.get?_eq_some_iff (by simp)

theorem id_of_job {p : PgStore} {jobId : String} (h : p.job jobId = some row) :
    row.id = jobId := (job_eq_some_iff.mp h).2

/-- The rows of a statement, looked at as the columns that the two stores share. -/
def updatedJobs (p : PgStore) (jobId : String) (guard : JobRow → Bool) (f : JobRow → JobRow)
    (keeps : ∀ r, (f r).jobId = r.jobId ∧ (f r).idempotencyKey = r.idempotencyKey) :
    Table PgJobRow [PgJobRow.id, PgJobRow.key] × Nat :=
  p.scanJobs.update PgJobRow.id jobId (fun r => guard r.toJobRow)
    (fun r => { r with toJobRow := f r.toJobRow }) (by
      intro c hc r
      simp only [mem_cons, not_mem_nil, or_false] at hc
      rcases hc with rfl | rfl
      · exact (keeps r.toJobRow).1
      · exact (keeps r.toJobRow).2)

/-- `UPDATE scan_jobs SET f WHERE job_id = ... AND guard`, with the row count. -/
def updateJob (p : PgStore) (jobId : String) (guard : JobRow → Bool) (f : JobRow → JobRow)
    (keeps : ∀ r, (f r).jobId = r.jobId ∧ (f r).idempotencyKey = r.idempotencyKey) :
    PgAnswer (PgStore × Nat) :=
  if (p.job jobId).all (fun r => !guard r.toJobRow || (f r.toJobRow).integers) then
    let updated := p.updatedJobs jobId guard f keeps
    .ok ({ p with scanJobs := updated.1 }, updated.2)
  else .error databaseFailed

section UpdateJob

variable {p p' : PgStore} {jobId : String} {guard : JobRow → Bool} {f : JobRow → JobRow}
  {keeps : ∀ r, (f r).jobId = r.jobId ∧ (f r).idempotencyKey = r.idempotencyKey} {count : Nat}

theorem job_updatedJobs (j : String) :
    ({ p with scanJobs := (p.updatedJobs jobId guard f keeps).1 } : PgStore).job j
      = if j = jobId then
          (p.job jobId).map fun r =>
            if guard r.toJobRow = true then { r with toJobRow := f r.toJobRow } else r
        else p.job j := by
  simp only [updatedJobs, job]
  rw [Table.get?_update_self (by simp)]

theorem updateJob_eq_ok :
    p.updateJob jobId guard f keeps = .ok (p', count) ↔
      (∀ r, p.job jobId = some r → guard r.toJobRow = true → (f r.toJobRow).integers = true) ∧
        p' = { p with scanJobs := (p.updatedJobs jobId guard f keeps).1 } ∧
        count = (p.updatedJobs jobId guard f keeps).2 := by
  unfold updateJob
  have hrange : (p.job jobId).all (fun r => !guard r.toJobRow || (f r.toJobRow).integers) = true ↔
      ∀ r, p.job jobId = some r → guard r.toJobRow = true → (f r.toJobRow).integers = true := by
    rw [Option.all_eq_true]
    refine forall_congr' fun r => imp_congr_right fun _ => ?_
    cases guard r.toJobRow <;> simp
  split
  · next h =>
    simp only [Except.ok.injEq, Prod.mk.injEq]
    constructor
    · rintro ⟨rfl, rfl⟩
      exact ⟨hrange.mp h, rfl, rfl⟩
    · rintro ⟨-, rfl, rfl⟩
      exact ⟨rfl, rfl⟩
  · next h =>
    rw [hrange] at h
    constructor
    · intro herror
      cases herror
    · intro hall
      exact absurd hall.1 h

theorem job_of_updateJob (h : p.updateJob jobId guard f keeps = .ok (p', count)) (j : String) :
    p'.job j = if j = jobId then
        (p.job jobId).map fun r =>
          if guard r.toJobRow = true then { r with toJobRow := f r.toJobRow } else r
      else p.job j := by
  obtain ⟨-, rfl, -⟩ := updateJob_eq_ok.mp h
  exact job_updatedJobs j

theorem updateJob_of_room (hrow : p.job jobId = some row)
    (hroom : guard row.toJobRow = true → (f row.toJobRow).integers = true) :
    ∃ p', p.updateJob jobId guard f keeps
        = .ok (p', if guard row.toJobRow = true then 1 else 0) ∧
      p' = { p with scanJobs := p'.scanJobs } := by
  have hcount : (p.updatedJobs jobId guard f keeps).2
      = if guard row.toJobRow = true then 1 else 0 := by
    unfold updatedJobs
    rw [Table.update_count (by simp) hrow]
  refine ⟨{ p with scanJobs := (p.updatedJobs jobId guard f keeps).1 }, ?_, rfl⟩
  refine updateJob_eq_ok.mpr ⟨?_, rfl, hcount.symm⟩
  intro r hr hg
  rw [hrow] at hr
  cases hr
  exact hroom hg

theorem updateJob_of_guard (hrow : p.job jobId = some row) (hg : guard row.toJobRow = true)
    (hroom : (f row.toJobRow).integers = true) :
    ∃ p', p.updateJob jobId guard f keeps = .ok (p', 1) ∧
      p' = { p with scanJobs := p'.scanJobs } ∧
      ∀ j, p'.job j
        = if j = jobId then some { row with toJobRow := f row.toJobRow } else p.job j := by
  obtain ⟨p', hupdate, hframe⟩ : ∃ p', p.updateJob jobId guard f keeps
      = .ok (p', if guard row.toJobRow = true then 1 else 0) ∧
        p' = { p with scanJobs := p'.scanJobs } := updateJob_of_room hrow (fun _ => hroom)
  rw [if_pos hg] at hupdate
  refine ⟨p', hupdate, hframe, ?_⟩
  intro j
  rw [job_of_updateJob hupdate, hrow, Option.map_some, if_pos hg]

end UpdateJob

end PgStore

/-! ## Arguments of the functions -/

/-- `btrim`, which takes blanks off both ends and no other white space. -/
def btrim (s : String) : String :=
  String.ofList ((s.toList.dropWhile (· == ' ')).reverse.dropWhile (· == ' ')).reverse

/-- The shape that the functions ask of a trimmed worker name. -/
def isWorkerName (s : String) : Bool :=
  !s.toList.isEmpty && s.toList.length ≤ 128
    && s.toList.all (fun c => 0x21 ≤ c.toNat && c.toNat ≤ 0x7E)

/-- `moment + make_interval(secs => ...)`, as far as the driver loads the sum. -/
def addInterval (moment : Nat) (duration : Int) : PgAnswer Nat :=
  if 0 ≤ (moment : Int) + duration ∧ (moment : Int) + duration < datetimeEnd then
    .ok ((moment : Int) + duration).toNat
  else .error databaseFailed

/-- `float(lease_seconds) if lease_seconds else DEFAULT_LEASE_SECONDS`. -/
def leaseDuration (leaseSeconds : Int) : Int :=
  if leaseSeconds = 0 then (defaultLeaseSeconds : Int) else leaseSeconds

/-- `int(maximum_attempts) if maximum_attempts else DEFAULT_MAXIMUM_ATTEMPTS`. -/
def attemptLimit (maximumAttempts : Int) : Int :=
  if maximumAttempts = 0 then (defaultMaximumAttempts : Int) else maximumAttempts

/-- `_lease_from_row`, on a row that was just written with its three lease columns. -/
def pgLeaseFromRow [Primitives] (row : JobRow) : Answer LeasedScanJob :=
  match row.workerId, row.leaseToken, row.leaseExpiresAt with
  | some workerId, some leaseToken, some expiresAt => do
    let record ← pgRecordFromRow row
    return { record, workerId, leaseToken, leaseExpiresAt := expiresAt,
             attemptCount := row.attemptCount }
  | _, _, _ => .error .assertion

/-! ## Claims -/

namespace PgStore

/-- The subquery of `NOT EXISTS`: a running job bound to the permit. -/
def permitRunning (p : PgStore) (permitId : String) : Bool :=
  p.scanJobs.rows.any fun r =>
    r.state == .running && (p.binding r.id).any (fun b => b.permitId == permitId)

/-- The `WHERE` clause of the claim. -/
def claimable (p : PgStore) (now : Nat) (r : PgJobRow) : Bool :=
  r.state == .queued && !r.cancellationRequested
    && r.organizationId.all (fun organization =>
      p.organizationAuthorizations.contains (organization, r.authorizationId))
    && (p.binding r.id).all (fun binding =>
      (p.scanPermits.rows.any fun permit =>
        permit.permitId == binding.permitId && permit.permitSha256 == binding.permitSha256
          && permit.revokedAt.isNone && permit.notBefore ≤ now && now < permit.expiresAt)
        && !p.permitRunning binding.permitId)

/-- `ORDER BY submitted_at, job_id LIMIT 1`; nobody else holds a lock. -/
def selectClaimable (p : PgStore) (now : Nat) : Option PgJobRow :=
  (p.scanJobs.rows.filter (p.claimable now)).argmin fun r => toLex (r.submittedAt, r.id)

theorem selectClaimable_spec {p : PgStore} (h : p.selectClaimable now = some row) :
    p.job row.id = some row ∧ row.state = .queued := by
  have hmem := argmin_mem (Option.mem_def.mpr h)
  rw [mem_filter] at hmem
  refine ⟨job_eq_some_iff.mpr ⟨hmem.1, rfl⟩, ?_⟩
  have hclaim := hmem.2
  unfold claimable at hclaim
  simp only [Bool.and_eq_true, beq_iff_eq] at hclaim
  exact hclaim.1.1.1

end PgStore

def Control.claimNextJob (workerId : String) (leaseSeconds : Int) (now : Nat) (leaseToken : String)
    (p : PgStore) : PgAnswer (Option PgJobRow × PgStore) :=
  let trimmed := btrim workerId
  if !isWorkerName trimmed then .error databaseFailed
  else
    match p.selectClaimable now with
    | none => .ok (none, p)
    | some row => do
      let moment := max now row.submittedAt
      let expiresAt ← addInterval moment leaseSeconds
      let (p', updated) ← p.updateJob row.id
        (fun r => r.state == .queued && r.revision == row.revision)
        (fun r => r.claimLeased moment (row.revision + 1) trimmed leaseToken expiresAt)
        (fun _ => ⟨rfl, rfl⟩)
      if updated != 1 then return (none, p') else return (p'.job row.id, p')

/-- `claim_next_leased`; the token is drawn by the function. -/
def PgStore.claimNextLeased [Primitives] (now : Nat) (workerId : String) (leaseSeconds : Int)
    (leaseToken : String) (p : PgStore) : PgAnswer (Option LeasedScanJob) × PgStore :=
  transaction
    (fun p => do
      let effectiveWorkerId ← raising (checkWorkerId workerId)
      Control.claimNextJob effectiveWorkerId (leaseDuration leaseSeconds) now leaseToken p)
    (fun claimed _ => claimed.elim (.ok none) fun r =>
      (raising (pgLeaseFromRow r.toJobRow)).map some) p

/-! ## Renewals -/

/-- The column `outcome` of `renew_lease`. -/
inductive RenewOutcome where
  | workerIdInvalid
  | notFound
  | leaseLost
  | leaseExpired
  | ok (row : PgJobRow)

def Control.renewLease (jobId workerId leaseToken : String) (now : Nat) (leaseSeconds : Int)
    (p : PgStore) : PgAnswer (RenewOutcome × PgStore) :=
  let trimmed := btrim workerId
  if !isWorkerName trimmed then .ok (.workerIdInvalid, p)
  else
    match p.job jobId with
    | none => .ok (.notFound, p)
    | some row =>
      if row.state != .running || row.workerId != some trimmed
          || row.leaseToken != some leaseToken then .ok (.leaseLost, p)
      else if row.leaseExpiresAt.all (· ≤ now) then .ok (.leaseExpired, p)
      else do
        let moment := max now row.submittedAt
        let expiresAt ← addInterval moment leaseSeconds
        let (p', updated) ← p.updateJob jobId
          (fun r => r.state == .running && r.revision == row.revision
            && r.workerId == some trimmed && r.leaseToken == some leaseToken)
          (fun r => r.renew moment expiresAt (row.revision + 1)) (fun _ => ⟨rfl, rfl⟩)
        if updated != 1 then return (.leaseLost, p')
        else
          match p'.job jobId with
          | some renewed => return (.ok renewed, p')
          | none => return (.leaseLost, p')

def PgStore.renewLease [Primitives] (jobId workerId leaseToken : String) (now : Nat)
    (leaseSeconds : Int) (p : PgStore) : PgAnswer LeasedScanJob × PgStore :=
  transaction
    (fun p => do
      let effectiveWorkerId ← raising (checkWorkerId workerId)
      Control.renewLease jobId effectiveWorkerId leaseToken now (leaseDuration leaseSeconds) p)
    (fun outcome _ =>
      match outcome with
      | .notFound => .error (.raised jobNotFound)
      | .leaseLost => .error (.raised WebGuard.leaseLost)
      | .workerIdInvalid => .error (.raised WebGuard.leaseLost)
      | .leaseExpired => .error (.raised WebGuard.leaseExpired)
      | .ok row => raising (pgLeaseFromRow row.toJobRow)) p

/-! ## Recovery -/

/-- One turn of the loop of `recover_expired_leases`. -/
def Control.recoverRow (now : Nat) (limit : Int) (progress : PgStore × LeaseRecoverySummary)
    (row : PgJobRow) : PgAnswer (PgStore × LeaseRecoverySummary) :=
  let (p, summary) := progress
  let moment := max now row.submittedAt
  -- `lease_token = NULL` holds of no row.
  let guard := fun r : JobRow => r.state == .running && r.revision == row.revision
    && row.leaseToken.isSome && r.leaseToken == row.leaseToken
  if row.cancellationRequested then do
    let (p', updated) ← p.updateJob row.id guard
      (fun r => r.recoverCancelled moment (r.revision + 1)) (fun _ => ⟨rfl, rfl⟩)
    return (p', { summary with cancelled := summary.cancelled + updated })
  else if limit ≤ row.attemptCount then do
    let (p', updated) ← p.updateJob row.id guard
      (fun r => r.recoverFailed moment (r.revision + 1)) (fun _ => ⟨rfl, rfl⟩)
    return (p', { summary with failed := summary.failed + updated })
  else do
    let (p', updated) ← p.updateJob row.id guard
      (fun r => r.requeue moment (r.revision + 1)) (fun _ => ⟨rfl, rfl⟩)
    return (p', { summary with requeued := summary.requeued + updated })

/-- The rows of the loop, `ORDER BY lease_expires_at, job_id`; nobody else holds a lock. -/
def PgStore.expiredRows (p : PgStore) (now : Nat) : List PgJobRow :=
  (p.scanJobs.rows.filter (fun r => r.toJobRow.leaseExpired now)).insertionSort
    (fun a b => toLex (a.leaseExpiresAt.getD 0, a.id) ≤ toLex (b.leaseExpiresAt.getD 0, b.id))

def Control.recoverExpiredLeases (now : Nat) (maximumAttempts : Int) (p : PgStore) :
    PgAnswer (LeaseRecoverySummary × PgStore) := do
  let (p', summary) ← (p.expiredRows now).foldlM (Control.recoverRow now maximumAttempts) (p, {})
  return (summary, p')

def PgStore.recoverExpiredLeases (now : Nat) (maximumAttempts : Int) (p : PgStore) :
    PgAnswer LeaseRecoverySummary × PgStore :=
  transaction (Control.recoverExpiredLeases now (attemptLimit maximumAttempts))
    (fun summary _ => .ok summary) p

variable {p p' : PgStore}

theorem PgStore.job_of_recoverUpdate {limit count : Nat} {f : JobRow → JobRow}
    {keeps : ∀ r, (f r).jobId = r.jobId ∧ (f r).idempotencyKey = r.idempotencyKey}
    (hrow : p.job row.id = some row) (hstate : row.state = .running)
    (hf : row.leaseToken.isSome = true → f row.toJobRow = row.toJobRow.recovered now limit)
    (h : p.updateJob row.id (fun r => r.state == .running && r.revision == row.revision
      && row.leaseToken.isSome && r.leaseToken == row.leaseToken) f keeps = .ok (p', count))
    (j : String) :
    p'.job j = if j = row.id then some { row with toJobRow := row.toJobRow.recovered now limit }
      else p.job j := by
  rw [job_of_updateJob h, hrow, Option.map_some]
  cases htoken : row.leaseToken with
  | none =>
    have hsame : row.toJobRow.recovered now limit = row.toJobRow := by
      unfold recovered
      rw [htoken]
      rfl
    simp [hsame]
  | some token =>
    have hrecovered := hf (by rw [htoken]; rfl)
    simp [hstate, hrecovered]

variable {summary' : LeaseRecoverySummary}

theorem Control.job_recoverRow (hrow : p.job row.id = some row) (hstate : row.state = .running)
    (h : Control.recoverRow now limit (p, summary) row = .ok (p', summary')) (j : String) :
    p'.job j = if j = row.id then
        some { row with toJobRow := row.toJobRow.recovered now limit.toNat }
      else p.job j := by
  unfold Control.recoverRow at h
  have hlimit : limit.toNat ≤ row.attemptCount ↔ limit ≤ (row.attemptCount : Int) :=
    Int.toNat_le
  simp only [] at h
  split at h
  · next hflag =>
    obtain ⟨⟨p₁, count⟩, hupdate, h⟩ := bind_ok h
    cases h
    refine PgStore.job_of_recoverUpdate hrow hstate ?_ hupdate j
    intro htoken
    simp [recovered, htoken, hflag, noEarlierThan_eq_max]
  · next hflag =>
    split at h
    · next hattempts =>
      obtain ⟨⟨p₁, count⟩, hupdate, h⟩ := bind_ok h
      cases h
      refine PgStore.job_of_recoverUpdate hrow hstate ?_ hupdate j
      intro htoken
      simp [recovered, htoken, hflag, hlimit.mpr hattempts, noEarlierThan_eq_max]
    · next hattempts =>
      obtain ⟨⟨p₁, count⟩, hupdate, h⟩ := bind_ok h
      cases h
      refine PgStore.job_of_recoverUpdate hrow hstate ?_ hupdate j
      intro htoken
      rw [← hlimit] at hattempts
      simp [recovered, htoken, hflag, hattempts, noEarlierThan_eq_max]

theorem Control.job_foldlM_recoverRow (rows : List PgJobRow) (hnodup : (rows.map PgJobRow.id).Nodup)
    (hrows : ∀ r ∈ rows, p.job r.id = some r ∧ r.state = .running)
    (h : rows.foldlM (Control.recoverRow now limit) (p, summary) = .ok (p', summary'))
    (j : String) :
    p'.job j = if j ∈ rows.map PgJobRow.id then
        (p.job j).map (fun r => { r with toJobRow := r.toJobRow.recovered now limit.toNat })
      else p.job j := by
  induction rows generalizing p summary with
  | nil =>
    cases h
    simp
  | cons row rest ih =>
    rw [map_cons, nodup_cons] at hnodup
    obtain ⟨hnot, hrest⟩ := hnodup
    rw [foldlM_cons] at h
    obtain ⟨⟨p₁, summary₁⟩, hturn, h⟩ := bind_ok h
    have hstep := Control.job_recoverRow (hrows row (by simp)).1 (hrows row (by simp)).2 hturn
    have hlater : ∀ r ∈ rest, p₁.job r.id = some r ∧ r.state = .running := by
      intro r hr
      have hne : r.id ≠ row.id := by
        intro he
        exact hnot (he ▸ mem_map_of_mem hr)
      rw [hstep, if_neg hne]
      exact hrows r (by simp [hr])
    rw [ih hrest hlater h, hstep]
    by_cases hj : j = row.id
    · subst hj
      rw [if_neg hnot, if_pos rfl, if_pos (by simp), (hrows row (by simp)).1, Option.map_some]
    · simp [hj]

theorem PgStore.mem_expiredRows {p : PgStore} :
    row ∈ p.expiredRows now ↔ p.job row.id = some row ∧ row.toJobRow.leaseExpired now = true := by
  unfold PgStore.expiredRows
  rw [mem_insertionSort, mem_filter, PgStore.job_eq_some_iff]
  simp

theorem PgStore.expiredRows_nodup (p : PgStore) (now : Nat) :
    ((p.expiredRows now).map PgJobRow.id).Nodup := by
  unfold PgStore.expiredRows
  have hperm := (perm_insertionSort
    (fun a b : PgJobRow =>
      toLex (a.leaseExpiresAt.getD 0, a.id) ≤ toLex (b.leaseExpiresAt.getD 0, b.id))
    (p.scanJobs.rows.filter (fun r => r.toJobRow.leaseExpired now))).map PgJobRow.id
  refine hperm.nodup_iff.mpr ?_
  have hsub := (filter_sublist (p := fun r : PgJobRow => r.toJobRow.leaseExpired now)
    (l := p.scanJobs.rows)).map PgJobRow.id
  exact hsub.nodup (p.scanJobs.unique PgJobRow.id (by simp))

theorem Control.job_recoverExpiredLeases
    (h : Control.recoverExpiredLeases now limit p = .ok (summary, p')) (j : String) :
    p'.job j = (p.job j).map (fun r => if r.toJobRow.leaseExpired now = true then
      { r with toJobRow := r.toJobRow.recovered now limit.toNat } else r) := by
  unfold Control.recoverExpiredLeases at h
  obtain ⟨⟨p₁, summary₁⟩, hloop, h⟩ := bind_ok h
  cases h
  rw [Control.job_foldlM_recoverRow _ (p.expiredRows_nodup now) ?_ hloop]
  · split
    · next hj =>
      obtain ⟨r, hr, rfl⟩ := mem_map.mp hj
      obtain ⟨hrow, hexpired⟩ := PgStore.mem_expiredRows.mp hr
      rw [hrow, Option.map_some, Option.map_some, if_pos hexpired]
    · next hj =>
      cases hrow : p.job j with
      | none => simp
      | some r =>
        have hlive : ¬ r.toJobRow.leaseExpired now = true := by
          intro hexpired
          have hid := PgStore.id_of_job hrow
          exact hj (mem_map.mpr ⟨r,
            PgStore.mem_expiredRows.mpr ⟨by rw [hid]; exact hrow, hexpired⟩, hid⟩)
        simp [hlive]
  · intro r hr
    obtain ⟨hrow, hexpired⟩ := PgStore.mem_expiredRows.mp hr
    exact ⟨hrow, (leaseExpired_iff.mp hexpired).1⟩

/-! ## Terminal transitions -/

/-- The column `outcome` of `terminal_transition`. -/
inductive TerminalOutcome where
  | receiptMetadataInvalid
  | safetyReceiptReferenceInvalid
  | safetyReceiptDigestInvalid
  | leaseCredentialsInvalid
  | workerIdInvalid
  | notFound
  | invalidState
  | leaseRequired
  | leaseLost
  | leaseExpired
  | transitionConflict
  | ok (row : PgJobRow)

/-- Neither empty nor absolute, and without a part `..`. -/
def isSafeReference (reference : String) : Bool :=
  !reference.toList.isEmpty && reference.toList.head? != some '/'
    && (reference.toList.splitOn '/').all (· != ['.', '.'])

/-- The checks of the arguments, which the function makes before it looks at the job. -/
def Control.terminalRefusal (w : TerminalWrite) : Option TerminalOutcome :=
  if w.safetyReceiptRef.isNone != w.safetyReceiptSha256.isNone then some .receiptMetadataInvalid
  else if !w.safetyReceiptRef.all isSafeReference then some .safetyReceiptReferenceInvalid
  else if !w.safetyReceiptSha256.all isSha256 then some .safetyReceiptDigestInvalid
  else if w.workerId.isNone != w.leaseToken.isNone then some .leaseCredentialsInvalid
  else if !w.workerId.all (fun name => isWorkerName (btrim name)) then some .workerIdInvalid
  else none

/-- The checks of the row, with the worker name already trimmed. -/
def Control.leaseRefusal (row : JobRow) (workerId leaseToken : Option String) (now : Nat) :
    Option TerminalOutcome :=
  if row.state != .running then some .invalidState
  else if row.leaseToken.isSome then
    if workerId.isNone || leaseToken.isNone then some .leaseRequired
    else if row.workerId != workerId || row.leaseToken != leaseToken then some .leaseLost
    else if row.leaseExpiresAt.all (· ≤ now) then some .leaseExpired
    else none
  else if workerId.isSome then some .leaseLost
  else none

/-- `INSERT INTO job_safety_receipts`, where a receipt is supplied. -/
def PgStore.insertReceipt (p : PgStore) (jobId : String) (w : TerminalWrite) (moment : Nat) :
    PgAnswer PgStore :=
  match w.safetyReceiptRef, w.safetyReceiptSha256 with
  | some reference, some sha =>
    match p.jobSafetyReceipts.insert
        { jobId, receiptRef := reference, receiptSha256 := sha, createdAt := moment } with
    | some t => .ok { p with jobSafetyReceipts := t }
    | none =>
      .error (databaseIntegrityError "The operation violates a uniqueness constraint.")
  | _, _ => .ok p

def Control.terminalTransition (jobId : String) (w : TerminalWrite) (now : Nat) (p : PgStore) :
    PgAnswer (TerminalOutcome × PgStore) :=
  match Control.terminalRefusal w with
  | some outcome => .ok (outcome, p)
  | none =>
    match p.job jobId with
    | none => .ok (.notFound, p)
    | some row =>
      let trimmed := w.workerId.map btrim
      match Control.leaseRefusal row.toJobRow trimmed w.leaseToken now with
      | some outcome => .ok (outcome, p)
      | none => do
        let moment := max now (row.startedAt.getD row.submittedAt)
        let (p₁, updated) ← p.updateJob jobId
          (fun r => r.state == .running && r.revision == row.revision
            && (trimmed.isNone || (r.workerId == trimmed && r.leaseToken == w.leaseToken)))
          (fun r => r.terminate w moment (row.revision + 1)) (fun _ => ⟨rfl, rfl⟩)
        if updated != 1 then
          return (if trimmed.isSome then .leaseLost else .transitionConflict, p₁)
        else
          let p₂ ← p₁.insertReceipt jobId w moment
          match p₂.job jobId with
          | some written => return (.ok written, p₂)
          | none => return (.notFound, p₂)

/-- What `_terminal_update` makes of an outcome. -/
def terminalAnswer [Primitives] : TerminalOutcome → Answer ScanJobRecord
  | .ok row => pgRecordFromRow row.toJobRow
  | .notFound => .error jobNotFound
  | .invalidState =>
    jobStoreError "job_state_transition_invalid"
      "Only running jobs can enter a terminal worker state."
  | .leaseRequired => .error WebGuard.leaseRequired
  | .leaseExpired => .error WebGuard.leaseExpired
  | .transitionConflict =>
    jobStoreError "job_state_transition_conflict"
      "The scan-job state changed before the transition completed."
  | .safetyReceiptReferenceInvalid =>
    jobStoreError "trustscan_safety_receipt_reference_invalid"
      "Safety receipt reference must be a safe relative path."
  | .safetyReceiptDigestInvalid =>
    jobStoreError "trustscan_safety_receipt_digest_invalid"
      "Safety receipt digest must be a lower-case SHA-256 value."
  | .leaseLost => .error WebGuard.leaseLost
  | .workerIdInvalid => .error WebGuard.leaseLost
  | .receiptMetadataInvalid => .error WebGuard.leaseLost
  | .leaseCredentialsInvalid => .error WebGuard.leaseLost

/-- The checks of `_terminal_update` itself, and the name it passes on. -/
def terminalWorker (w : TerminalWrite) : Answer (Option String) := do
  ensure (w.safetyReceiptRef.isSome == w.safetyReceiptSha256.isSome)
    (.jobStore "trustscan_safety_receipt_metadata_invalid"
      "Safety receipt reference and digest must be supplied together.")
  ensure (w.workerId.isSome == w.leaseToken.isSome)
    (.jobStore "job_lease_credentials_invalid"
      "worker_id and lease_token must be supplied together.")
  w.workerId.mapM checkWorkerId

namespace PgStore

def terminalUpdate [Primitives] (jobId : String) (w : TerminalWrite) (now : Nat) (p : PgStore) :
    PgAnswer ScanJobRecord × PgStore :=
  transaction
    (fun p => do
      let effectiveWorkerId ← raising (terminalWorker w)
      Control.terminalTransition jobId { w with workerId := effectiveWorkerId } now p)
    (fun outcome _ => raising (terminalAnswer outcome)) p

/-- `finish_result` without a credential, `finish_result_leased` with one. -/
def finishResult [Primitives] (jobId : String) (credential : Option Credential)
    (outcome : ScanOutcome) (receipt : ReceiptReference) (now : Nat) (p : PgStore) :
    PgAnswer ScanJobRecord × PgStore :=
  match outcome.resultStatus.finishedState with
  | none => (.error (.raised statusInvalid), p)
  | some state =>
    p.terminalUpdate jobId
      { state := state
        workerId := credential.map (·.workerId), leaseToken := credential.map (·.leaseToken)
        scanId := some outcome.scanId, resultStatus := some outcome.resultStatus
        reportRef := some outcome.reportRef, auditRef := some outcome.auditRef
        safetyReceiptRef := receipt.ref, safetyReceiptSha256 := receipt.sha256 } now

def failLeased [Primitives] (jobId : String) (credential : Credential)
    (errorCode errorMessage : String) (receipt : ReceiptReference) (now : Nat) (p : PgStore) :
    PgAnswer ScanJobRecord × PgStore :=
  p.terminalUpdate jobId
    { state := .failed
      workerId := some credential.workerId, leaseToken := some credential.leaseToken
      errorCode := some errorCode, errorMessage := some errorMessage
      safetyReceiptRef := receipt.ref, safetyReceiptSha256 := receipt.sha256 } now

/-- `cancel_running` without a credential, `cancel_running_leased` with one. -/
def cancelRunning [Primitives] (jobId : String) (credential : Option Credential) (now : Nat)
    (p : PgStore) : PgAnswer ScanJobRecord × PgStore :=
  p.terminalUpdate jobId
    { state := .cancelled
      workerId := credential.map (·.workerId), leaseToken := credential.map (·.leaseToken) } now

/-! ## Submission and cancellation -/

/-- `INSERT INTO scan_jobs`, whose tenant and submitter have to be given and to exist. -/
def insertJob [Primitives] (p : PgStore) (call : SubmitCall) : PgAnswer PgStore :=
  -- `except DatabaseIntegrityError` does not see the exceptions of the driver.
  if call.organizationId.isNone || call.submittedBy.isNone then
    .error (databaseIntegrityError "The operation violates a database constraint.")
  else
    match p.scanJobs.insert
        { toJobRow := call.job.row, organizationId := call.organizationId } with
    | none => .error (databaseIntegrityError "The operation violates a uniqueness constraint.")
    | some t =>
      if call.organizationId.any (p.organizations.contains ·)
          && call.submittedBy.any (p.principals.contains ·) then .ok { p with scanJobs := t }
      else .error (databaseIntegrityError "The operation references a row that does not exist.")

/-- The permit of a submission, checked and bound. -/
def bindPermit [Primitives] (p : PgStore) (call : SubmitCall) : PgAnswer PgStore :=
  match call.permitId, call.permitSha256 with
  | some permitId, some permitSha256 =>
    if (p.scanPermits.get? PermitRow.permitId permitId).any (fun r =>
        some r.organizationId == call.organizationId && r.permitSha256 == permitSha256) then
      match p.jobPermits.insert { jobId := call.jobId, permitId, permitSha256 } with
      | some t => .ok { p with jobPermits := t }
      | none =>
        .error (databaseIntegrityError "The operation violates a uniqueness constraint.")
    else
      raising (jobStoreError "trustscan_permit_not_found"
        "TrustScan permit was not found for this organization.")
  | _, _ => .ok p

/-- The row as `submit` compares it, with its binding. -/
def submitted (p : PgStore) (r : PgJobRow) : PgJob where
  row := r.toJobRow
  organizationId := r.organizationId
  binding := (p.binding r.id).map fun b => (b.permitId, b.permitSha256)

/-- `submit`: the left answer is a record that was there, the right one the new row. -/
def submitBody [Primitives] (call : SubmitCall) (p : PgStore) :
    PgAnswer ((ScanJobRecord ⊕ JobRow) × PgStore) := do
  raising (submitArguments call.organizationId call.submittedBy call.permitId call.permitSha256)
  match p.scanJobs.get? PgJobRow.key call.key with
  | some existing =>
    let record ← raising (call.existingAnswer (p.submitted existing))
    return (.inl record, p)
  | none =>
    let p₁ ← p.insertJob call
    let p₂ ← p₁.bindPermit call
    return (.inr call.job.row, p₂)

def submit [Primitives] (call : SubmitCall) (p : PgStore) :
    PgAnswer (ScanJobRecord × Bool) × PgStore :=
  transaction (submitBody call)
    (fun answer _ => answer.elim (fun record => .ok (record, false))
      fun row => (raising (pgRecordFromRow row)).map fun record => (record, true)) p

/-- The two updates of `request_cancellation`, which floor neither moment. -/
def cancelUpdate [Primitives] (p : PgStore) (jobId : String) (record : ScanJobRecord) (now : Nat) :
    PgAnswer (PgStore × Nat) :=
  if record.state == .queued then
    p.updateJob jobId (fun r => r.revision == record.revision)
      (fun r => r.cancelQueued now (r.revision + 1)) (fun _ => ⟨rfl, rfl⟩)
  else
    p.updateJob jobId (fun r => r.revision == record.revision)
      (fun r => r.flagCancellation now (r.revision + 1)) (fun _ => ⟨rfl, rfl⟩)

/-- The left answer is the record of a terminal job. -/
def requestCancellationBody [Primitives] (jobId : String) (now : Nat) (p : PgStore) :
    PgAnswer ((ScanJobRecord ⊕ Option PgJobRow) × PgStore) := do
  let row ← raising (found (p.job jobId) jobNotFound)
  let record ← raising (pgRecordFromRow row.toJobRow)
  if record.state.isTerminal then return (.inl record, p)
  else
    -- Nobody looks at the row count.
    let (p', _) ← p.cancelUpdate jobId record now
    return (.inr (p'.job jobId), p')

def requestCancellation [Primitives] (jobId : String) (now : Nat) (p : PgStore) :
    PgAnswer ScanJobRecord × PgStore :=
  transaction (requestCancellationBody jobId now)
    (fun answer _ => answer.elim .ok fun row =>
      raising (row.elim (.error jobNotFound) fun r => pgRecordFromRow r.toJobRow)) p

end PgStore

/-! ## The repository as a state machine -/

section

variable [Primitives]

/-- One call on the repository, or a change that somebody else makes to the tables it reads. -/
inductive PgOp where
  | administer (permits : Table PermitRow [PermitRow.permitId])
      (assignments : List (String × String)) (organizations principals : List String)
  | submit (call : SubmitCall) (hid : isCanonicalUuid call.jobId = true)
  | claimNextLeased (now : Nat) (workerId : String) (leaseSeconds : Int) (leaseToken : String)
  | renewLease (jobId workerId leaseToken : String) (now : Nat) (leaseSeconds : Int)
  | requestCancellation (jobId : String) (now : Nat)
  | recoverExpiredLeases (now : Nat) (maximumAttempts : Int)
  | finishResult (jobId : String) (credential : Option Credential) (outcome : ScanOutcome)
      (receipt : ReceiptReference) (now : Nat)
  | failLeased (jobId : String) (credential : Credential) (errorCode errorMessage : String)
      (receipt : ReceiptReference) (now : Nat)
  | cancelRunning (jobId : String) (credential : Option Credential) (now : Nat)

/-- The database after a call, whether it answered or raised. -/
def PgStore.apply (p : PgStore) : PgOp → PgStore
  | .administer permits assignments organizations principals =>
    { p with
      scanPermits := permits, organizationAuthorizations := assignments
      organizations := organizations, principals := principals }
  | .submit call _ => (p.submit call).2
  | .claimNextLeased now workerId leaseSeconds leaseToken =>
    (p.claimNextLeased now workerId leaseSeconds leaseToken).2
  | .renewLease jobId workerId leaseToken now leaseSeconds =>
    (p.renewLease jobId workerId leaseToken now leaseSeconds).2
  | .requestCancellation jobId now => (p.requestCancellation jobId now).2
  | .recoverExpiredLeases now maximumAttempts => (p.recoverExpiredLeases now maximumAttempts).2
  | .finishResult jobId credential outcome receipt now =>
    (p.finishResult jobId credential outcome receipt now).2
  | .failLeased jobId credential errorCode errorMessage receipt now =>
    (p.failLeased jobId credential errorCode errorMessage receipt now).2
  | .cancelRunning jobId credential now => (p.cancelRunning jobId credential now).2

/-- The database after a history of calls. -/
abbrev PgStore.run (p : PgStore) (ops : List PgOp) : PgStore := Runs.run PgStore.apply p ops

end

end WebGuard
