import WebGuard.Store.Refinement

/-!
# Cancellation and bounded retry

What a recovery of expired leases may do to a job, over whole runs.

Both are read off the lease machine: `Halting` and `Bounded` are its invariants.
-/

namespace WebGuard

open FencedLease Atomic Store JobRow Runs

section

variable [Primitives]

/-! ## A stop request is never lost -/

variable {row : JobRow} {s : Store} {j : String} {op : Op}

omit [Primitives] in
theorem JobRow.halting_iff :
    Halting row.lease ↔ row.cancellationRequested = true ∧ row.state ≠ .queued := by
  unfold Halting
  refine and_congr Iff.rfl (not_congr ?_)
  constructor
  · intro h
    cases hs : row.state with
    | queued => rfl
    | running =>
      simp only [lease, hs] at h
      split at h <;> simp at h
    | _ => simp [lease, hs] at h
  · exact row.lease_phase_of_queued

/-- The job was asked to stop and is not waiting to be claimed. -/
def Store.Halted (s : Store) (j : String) : Prop :=
  ∃ row, s.job j = some row ∧ Halting row.lease

theorem halted_apply (hcolumns : s.AllJobs JobRow.LeaseColumns) (h : s.Halted j) (op : Op) :
    (s.apply op).Halted j := by
  obtain ⟨row, hrow, hhalt⟩ := h
  obtain ⟨row', hrow', rfl | hstep⟩ := job_apply_isSome hrow op
  · exact ⟨row', hrow', hhalt⟩
  · obtain ⟨a, -, ha⟩ := hstep.refines (hcolumns j row hrow)
    exact ⟨row', hrow', hhalt.step ha⟩

theorem halted_run (hcolumns : s.AllJobs JobRow.LeaseColumns) (h : s.Halted j) (ops : List Op) :
    (s.run ops).AllJobs JobRow.LeaseColumns ∧ (s.run ops).Halted j := by
  refine run_induction
    (P := fun t : Store => t.AllJobs JobRow.LeaseColumns ∧ t.Halted j) ?_ ⟨hcolumns, h⟩ ops
  intro t op ht
  exact ⟨leaseColumns_apply ht.1 op, halted_apply ht.1 ht.2 op⟩

theorem claim_of_halted (h : s.Halted j)
    (hop : (∃ now, op = .claimNext now) ∨
      ∃ now workerId leaseSeconds leaseToken,
        op = .claimNextLeased now workerId leaseSeconds leaseToken) :
    (s.apply op).job j = s.job j := by
  obtain ⟨row, hrow, hhalt⟩ := h
  have hstate := (halting_iff.mp hhalt).2
  obtain ⟨row', hrow', rfl | hstep⟩ := job_apply_isSome hrow op
  · rw [hrow', hrow]
  · rcases hop with ⟨now, rfl⟩ | ⟨now, workerId, leaseSeconds, leaseToken, rfl⟩
    · cases hstep with
      | claim hclaim => exact absurd (claimable_iff.mp hclaim).1 hstate
      | terminate hop _ _ _ _ _ => simp [Op.terminalWrite] at hop
    · cases hstep with
      | claimLeased hclaim _ => exact absurd (claimable_iff.mp hclaim).1 hstate
      | terminate hop _ _ _ _ _ => simp [Op.terminalWrite] at hop

theorem requestCancellation_committed {now : Nat} (hrow : s.job j = some row)
    (hactive : row.state.isTerminal = false)
    (hcommitted : s.apply (.requestCancellation j now) ≠ s) :
    ∃ row', (s.apply (.requestCancellation j now)).job j = some row' ∧
      (row.state = .queued → row'.state = .cancelled) ∧ Halting row'.lease := by
  have hcommitted' : (requestCancellation j now s).2 ≠ s := hcommitted
  show ∃ row', (requestCancellation j now s).2.job j = some row' ∧ _
  unfold requestCancellation at hcommitted' ⊢
  rcases transaction_state (requestCancellationBody j now)
    (fun answer _ => answer.elim .ok recordFromRow) s with hsame | ⟨answer, hbody⟩
  · exact absurd hsame hcommitted'
  · obtain ⟨r, record, hid, hr, -, hcases⟩ := requestCancellationBody_ok hbody
    rw [hrow] at hr
    cases hr
    rcases hcases with ⟨hterminal, -⟩ | ⟨hstate, -, hreplaced⟩ | ⟨hstate, -, hreplaced⟩
    · rw [hterminal] at hactive
      simp at hactive
    · refine ⟨_, by rw [hreplaced.job, if_pos hid.symm], fun _ => rfl, ?_⟩
      exact halting_iff.mpr ⟨rfl, by simp [cancelQueued]⟩
    · refine ⟨_, by rw [hreplaced.job, if_pos hid.symm], ?_, ?_⟩
      · intro hqueued
        rw [hstate] at hqueued
        simp at hqueued
      · exact halting_iff.mpr ⟨rfl, by simp [flagCancellation, hstate]⟩

/-! ## What a recovery does -/

omit [Primitives] in
theorem recoverExpiredLeases_answers (now limit : Nat) (s : Store) :
    (∃ summary, (recoverExpiredLeases now limit s).1 = .ok summary) ↔ 1 ≤ limit ∧ limit ≤ 100 := by
  unfold recoverExpiredLeases
  constructor
  · rintro ⟨summary, h⟩
    obtain ⟨_, hbody, -⟩ := transaction_answer _ _ h
    obtain ⟨l, hl, -⟩ := bind_ok hbody
    exact (checkMaximumAttempts_eq_ok.mp hl).2
  · intro h
    have hbody : recoverExpiredLeasesBody now limit s = .ok _ :=
      bind_ok_iff.mpr ⟨limit, checkMaximumAttempts_eq_ok.mpr ⟨rfl, h⟩, rfl⟩
    rw [transaction_of_ok _ _ hbody]
    exact ⟨_, rfl⟩

theorem recovery_sorts (hcolumns : s.AllJobs JobRow.LeaseColumns) {now limit : Nat}
    (hlow : 1 ≤ limit) (hhigh : limit ≤ 100) (hrow : s.job j = some row) :
    ∃ row', (s.apply (.recoverExpiredLeases now limit)).job j = some row' ∧
      (row.leaseExpired now = false → row' = row) ∧
      (row.leaseExpired now = true →
        (row.cancellationRequested = true → row'.state = .cancelled) ∧
        (row.cancellationRequested = false → row.attemptCount < limit → row'.state = .queued) ∧
        (row.cancellationRequested = false → limit ≤ row.attemptCount →
          row'.state = .failed)) := by
  obtain ⟨summary, hanswer⟩ := (recoverExpiredLeases_answers now limit s).mpr ⟨hlow, hhigh⟩
  unfold recoverExpiredLeases at hanswer
  obtain ⟨_, hbody, -⟩ := transaction_answer _ _ hanswer
  obtain ⟨-, -, hjob⟩ := job_recover hbody
  have hafter := hjob j
  rw [hrow, Option.map_some] at hafter
  refine ⟨_, hafter, ?_, ?_⟩
  · intro hlive
    simp [hlive]
  · intro hexpired
    rw [if_pos hexpired]
    have htoken : row.leaseToken.isSome = true := by
      obtain ⟨-, expires, hexpires, -⟩ := leaseExpired_iff.mp hexpired
      rw [← (hcolumns j row hrow).expires, hexpires]
      rfl
    rcases recovered_cases htoken now limit with
      ⟨hflag, hcase⟩ | ⟨hflag, hl, hcase⟩ | ⟨hflag, hl, hcase⟩
    · rw [hcase, hflag]
      simp [recoverCancelled]
    · rw [hcase, hflag]
      simp [recoverFailed, hl]
    · rw [hcase, hflag]
      simp [requeue, hl]

/--
**Cancellation is never lost.**

The limits are those that a recovery accepts; with another one it raises and does nothing.
-/
theorem cancellation_never_lost (ops : List Op) (j : String) (now : Nat) (row : JobRow)
    (hrow : (empty.run ops).job j = some row) (hactive : row.state.isTerminal = false)
    (hcommitted : (empty.run ops).apply (.requestCancellation j now)
      ≠ empty.run ops) :
    (row.state = .queued → ∃ row',
      ((empty.run ops).apply (.requestCancellation j now)).job j = some row' ∧
        row'.state = .cancelled) ∧
    ∀ continuation s,
      s = ((empty.run ops).apply (.requestCancellation j now)).run continuation →
      (∀ now', (s.apply (.claimNext now')).job j = s.job j) ∧
      (∀ now' workerId leaseSeconds leaseToken,
        (s.apply (.claimNextLeased now' workerId leaseSeconds leaseToken)).job j = s.job j) ∧
      ∃ current, s.job j = some current ∧ current.state ≠ .queued ∧
        ∀ now' limit, 1 ≤ limit → limit ≤ 100 → current.leaseExpired now' = true →
          ∃ recovered, (s.apply (.recoverExpiredLeases now' limit)).job j = some recovered ∧
            recovered.state = .cancelled := by
  obtain ⟨row', hrow', hqueued, hhalt⟩ := requestCancellation_committed hrow hactive hcommitted
  refine ⟨fun h => ⟨row', hrow', hqueued h⟩, ?_⟩
  rintro continuation s rfl
  have hcolumns := leaseColumns_apply (leaseColumns_run ops) (.requestCancellation j now)
  obtain ⟨hcolumns', hhalted⟩ := halted_run hcolumns ⟨row', hrow', hhalt⟩ continuation
  refine ⟨?_, ?_, ?_⟩
  · intro now'
    exact claim_of_halted hhalted (Or.inl ⟨now', rfl⟩)
  · intro now' workerId leaseSeconds leaseToken
    exact claim_of_halted hhalted (Or.inr ⟨now', workerId, leaseSeconds, leaseToken, rfl⟩)
  · obtain ⟨current, hcurrent, hstop⟩ := hhalted
    obtain ⟨hflag, hstate⟩ := halting_iff.mp hstop
    refine ⟨current, hcurrent, hstate, ?_⟩
    intro now' limit hlow hhigh hexpired
    obtain ⟨recovered, hrecovered, -, hsorted⟩ := recovery_sorts hcolumns' hlow hhigh hcurrent
    exact ⟨recovered, hrecovered, (hsorted hexpired).1 hflag⟩

/-! ## Bounded retry -/

def Op.isLeaseClaim : Op → Bool
  | .claimNextLeased _ _ _ _ => true
  | _ => false

/-- The call lease-claims the job. -/
def leaseClaims (j : String) (s : Store) (op : Op) : Bool :=
  op.isLeaseClaim && (s.apply op).job j != s.job j

/-- The leases the job was claimed under so far. -/
def Store.attempts (s : Store) (j : String) : Nat := (s.job j).elim 0 JobRow.attemptCount

/-- The lease columns are sound, and the job has attempts left where it waits. -/
structure Store.RetryInvariant (limit : Nat) (j : String) (s : Store) : Prop where
  columns : s.AllJobs JobRow.LeaseColumns
  bounded : ∀ row, s.job j = some row → Bounded limit row.lease

/-- Every recovery uses the limit. -/
def UsesLimit (limit : Nat) (op : Op) : Prop :=
  ∀ now l, op = .recoverExpiredLeases now l → l = limit

theorem retryInvariant_apply {limit : Nat} (hlimit : 1 ≤ limit) (hs : s.RetryInvariant limit j)
    (hop : UsesLimit limit op) : (s.apply op).RetryInvariant limit j := by
  refine ⟨leaseColumns_apply hs.columns op, ?_⟩
  intro row' hrow'
  rcases job_apply s op j with hsame | ⟨-, -, request, hnew, -⟩ | ⟨row, r', hrow, hr', hstep⟩
  · exact hs.bounded row' (by rw [← hsame, hrow'])
  · rw [hnew] at hrow'
    cases hrow'
    exact ⟨Nat.zero_le _, fun _ => hlimit⟩
  · rw [hr'] at hrow'
    cases hrow'
    obtain ⟨a, hperforms, ha⟩ := hstep.refines (hs.columns j row hrow)
    refine (hs.bounded row hrow).step ha ?_
    rintro now l rfl
    cases hperforms
    exact hop _ _ rfl

theorem RowStep.attemptCount {row' : JobRow} (h : RowStep s op row row') :
    row'.attemptCount = row.attemptCount + (if op.isLeaseClaim = true then 1 else 0) := by
  cases h with
  | claimLeased hclaim hworker => rfl
  | @recover now limit _ hlimit hexpired htoken =>
    rcases recovered_cases htoken now limit with ⟨-, hrow⟩ | ⟨-, -, hrow⟩ | ⟨-, -, hrow⟩ <;>
      rw [hrow] <;> rfl
  | terminate hop hid hread hstate hworker hlease =>
    have hnot : op.isLeaseClaim = false := by
      cases op with
      | claimNextLeased => simp [Op.terminalWrite] at hop
      | _ => rfl
    rw [hnot]
    rfl
  | _ => rfl

theorem attempts_apply (s : Store) (op : Op) (j : String) :
    s.attempts j + (if leaseClaims j s op = true then 1 else 0) ≤ (s.apply op).attempts j := by
  unfold attempts leaseClaims
  rcases job_apply s op j with hsame | ⟨hnone, -, request, hnew, hop⟩ |
    ⟨row, row', hrow, hrow', hstep⟩
  · rw [hsame]
    simp
  · -- A lease-claim replaces rows, so the call that inserted this one is another.
    have hnot : op.isLeaseClaim = false := by
      cases hop <;> rfl
    rw [hnone, hnew, hnot]
    simp
  · rw [hrow, hrow', Option.elim_some, Option.elim_some, hstep.attemptCount]
    cases hclaim : op.isLeaseClaim <;> simp
    split <;> omega

/--
**Bounded crash retry.**

A recovery raises where its limit is above a hundred, and then does nothing. Otherwise it answers,
and sorts the rows.
-/
theorem bounded_retry (ops : List Op) (limit : Nat) (hlimit : 1 ≤ limit)
    (hops : ∀ op ∈ ops, UsesLimit limit op) (j : String) :
    occurrences apply (leaseClaims j) empty ops ≤ limit ∧
    ∀ before after now, ops = before ++ .recoverExpiredLeases now limit :: after →
      ((∃ summary, (recoverExpiredLeases now limit (empty.run before)).1 = .ok summary) ↔
        limit ≤ 100) ∧
      ∀ row, limit ≤ 100 → (empty.run before).job j = some row →
        ∃ row', ((empty.run before).apply (.recoverExpiredLeases now limit)).job j
            = some row' ∧
          (row.leaseExpired now = false → row' = row) ∧
          (row.leaseExpired now = true →
            (row.cancellationRequested = true → row'.state = .cancelled) ∧
            (row.cancellationRequested = false → row.attemptCount < limit →
              row'.state = .queued) ∧
            (row.cancellationRequested = false → limit ≤ row.attemptCount →
              row'.state = .failed)) := by
  constructor
  · have hempty : empty.RetryInvariant limit j :=
      ⟨allJobs_empty _, fun row h => by cases h⟩
    have halong : Runs.Along apply (fun _ op => UsesLimit limit op) empty ops :=
      along_of_forall hops
    -- Every lease-claim raises the attempt count, which the lease machine keeps under the limit.
    have hcount := occurrences_add_le (e := leaseClaims j) (P := Store.RetryInvariant limit j)
      (μ := fun s => s.attempts j) (fun s op hs hop => retryInvariant_apply hlimit hs hop)
      (fun s op _ _ => attempts_apply s op j) hempty halong
    have hend : (empty.run ops).RetryInvariant limit j :=
      along_induction (P := Store.RetryInvariant limit j)
        (fun s op hs hop => retryInvariant_apply hlimit hs hop) hempty halong
    have hle : (empty.run ops).attempts j ≤ limit := by
      unfold attempts
      cases hrow : (empty.run ops).job j with
      | none => exact Nat.zero_le _
      | some row => exact (hend.bounded row hrow).1
    have hzero : empty.attempts j = 0 := rfl
    simp only [hzero, Nat.zero_add] at hcount
    exact Nat.le_trans hcount hle
  · intro before after now _
    refine ⟨?_, ?_⟩
    · rw [recoverExpiredLeases_answers]
      exact and_iff_right hlimit
    · intro row hhigh hrow
      exact recovery_sorts (leaseColumns_run before) hlimit hhigh hrow

end

def queuedHistory : List (@Op samplePrimitives) :=
  letI := samplePrimitives
  [.submit sampleRequest sampleJobId none none none none]

/-- The queued job of that history is cancelled at once. -/
theorem cancellation_never_lost_queued :
    letI := samplePrimitives
    ∃ row, ((empty.run queuedHistory).apply (.requestCancellation sampleJobId 150)).job
        sampleJobId = some row ∧ row.state = .cancelled := by
  let _ := samplePrimitives
  refine (cancellation_never_lost queuedHistory sampleJobId 150
    (newJobRow sampleJobId sampleRequest 100) (by decide) (by decide) ?_).1 rfl
  intro hsame
  have hjob := congrArg (fun s : Store => (s.job sampleJobId).map state) hsame
  revert hjob
  decide

def crashHistory : List (@Op samplePrimitives) :=
  letI := samplePrimitives
  [.submit sampleRequest sampleJobId none none none none,
    .claimNextLeased 200 "worker-a" 1000000 "token-a",
    .recoverExpiredLeases 2000000 2,
    .claimNextLeased 2000000 "worker-b" 1000000 "token-b",
    .recoverExpiredLeases 4000000 2,
    .claimNextLeased 4000000 "worker-c" 1000000 "token-c"]

/-- In that history the job is lease-claimed twice, which is the bound. -/
theorem bounded_retry_crash :
    letI := samplePrimitives
    (∀ op ∈ crashHistory, UsesLimit 2 op) ∧
      occurrences apply (leaseClaims sampleJobId) empty crashHistory = 2 ∧
      occurrences apply (leaseClaims sampleJobId) empty crashHistory ≤ 2 := by
  let _ := samplePrimitives
  have hops : ∀ op ∈ crashHistory, UsesLimit 2 op := by
    intro op hop now l h
    simp only [crashHistory, List.mem_cons, List.not_mem_nil, or_false] at hop
    rcases hop with rfl | rfl | rfl | rfl | rfl | rfl <;> simp_all
  exact ⟨hops, by decide, (bounded_retry crashHistory 2 (by decide) hops sampleJobId).1⟩

end WebGuard
