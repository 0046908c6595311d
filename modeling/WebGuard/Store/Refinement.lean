import WebGuard.Lib.FencedLease
import WebGuard.Store.Operations

/-!
# Job rows refine the fenced lease

The abstract machine of `WebGuard.Lib.FencedLease` says what the lease columns are for. A job
row is one of its states (`JobRow.lease`), and every step of a row is one of its steps
(`RowStep.refines`), as long as the lease columns are set together and only while the job runs
(`JobRow.LeaseColumns`), which every reachable row keeps.
-/

namespace WebGuard

open FencedLease Store

/-- The abstract state of a row: holders and tokens are texts, outcomes are job states. -/
def JobRow.lease (row : JobRow) : State String String Nat ScanJobState where
  phase :=
    match row.state with
    | .queued => .waiting
    | .running =>
      match row.workerId, row.leaseToken, row.leaseExpiresAt with
      | some worker, some token, some expires => .held worker token expires
      | _, _, _ => .unleased
    | state => .closed state
  stopping := row.cancellationRequested
  attempts := row.attemptCount
  version := row.revision

/-- The lease columns are set together, and only while the job runs. -/
structure JobRow.LeaseColumns (row : JobRow) : Prop where
  worker : row.workerId.isSome = row.leaseToken.isSome
  expires : row.leaseExpiresAt.isSome = row.leaseToken.isSome
  running : row.leaseToken.isSome = true → row.state = .running

namespace JobRow

variable {row : JobRow}

theorem lease_phase_of_queued (h : row.state = .queued) : row.lease.phase = .waiting := by
  simp [lease, h]

theorem lease_phase_of_terminal (h : row.state.isTerminal = true) :
    row.lease.phase = .closed row.state := by
  cases hs : row.state <;> simp [lease, hs] <;> simp [hs, ScanJobState.isTerminal] at h

theorem lease_phase_of_unleased (h : row.state = .running) (htoken : row.leaseToken = none) :
    row.lease.phase = .unleased := by
  cases hworker : row.workerId <;> simp [lease, h, htoken, hworker]

variable {token : String}

theorem lease_phase_of_held {worker : String} {expires : Nat} (h : row.state = .running)
    (hworker : row.workerId = some worker) (htoken : row.leaseToken = some token)
    (hexpires : row.leaseExpiresAt = some expires) :
    row.lease.phase = .held worker token expires := by
  simp [lease, h, hworker, htoken, hexpires]

theorem LeaseColumns.exists_held (hc : row.LeaseColumns) (htoken : row.leaseToken = some token) :
    ∃ worker expires, row.workerId = some worker ∧ row.leaseExpiresAt = some expires ∧
      row.lease.phase = .held worker token expires := by
  have hsome : row.leaseToken.isSome = true := by rw [htoken]; rfl
  obtain ⟨worker, hworker⟩ := Option.isSome_iff_exists.mp (hc.worker.trans hsome)
  obtain ⟨expires, hexpires⟩ := Option.isSome_iff_exists.mp (hc.expires.trans hsome)
  exact ⟨worker, expires, hworker, hexpires,
    lease_phase_of_held (hc.running hsome) hworker htoken hexpires⟩

theorem LeaseColumns.leaseToken_of_not_running (hc : row.LeaseColumns)
    (h : row.state ≠ .running) : row.leaseToken = none := by
  rw [← Option.not_isSome_iff_eq_none]
  intro hsome
  exact h (hc.running hsome)

theorem LeaseColumns.spent_iff (hc : row.LeaseColumns) :
    Spent token row.lease ↔ row.leaseToken ≠ some token := by
  constructor
  · intro hspent htoken
    obtain ⟨worker, expires, -, -, hheld⟩ := hc.exists_held htoken
    exact hspent worker expires hheld
  · intro hne worker expires hheld
    have htoken : row.leaseToken = some token := by
      unfold lease at hheld
      simp only at hheld
      split at hheld
      · simp at hheld
      · split at hheld
        · next worker' token' expires' hw ht he =>
          rw [ht, (Phase.held.inj hheld).2.1]
        · simp at hheld
      · simp at hheld
    exact hne htoken

end JobRow

variable [Primitives]

/-- The abstract action a call asks for. -/
inductive Performs : Op → Action String String Nat ScanJobState → Prop where
  | start {now : Nat} : Performs (.claimNext now) .start
  | acquire {now leaseSeconds : Nat} {workerId leaseToken worker : String}
      (hworker : checkWorkerId workerId = .ok worker) :
      Performs (.claimNextLeased now workerId leaseSeconds leaseToken) (.acquire worker leaseToken)
  | extend {jobId workerId leaseToken worker : String} {now leaseSeconds : Nat}
      (hworker : checkWorkerId workerId = .ok worker) :
      Performs (.renewLease jobId workerId leaseToken now leaseSeconds)
        (.extend worker leaseToken now)
  | recover {now limit : Nat} :
      Performs (.recoverExpiredLeases now limit) (.recover now limit)
  | stop {jobId : String} {now : Nat} : Performs (.requestCancellation jobId now) .stop
  | closeLeased {op : Op} {jobId worker token : String} {w : TerminalWrite} {now : Nat}
      (hop : op.terminalWrite = some (jobId, w, now)) (htoken : w.leaseToken = some token)
      (hworker : w.workerId.mapM checkWorkerId = .ok (some worker)) :
      Performs op (.close (some (worker, token)) now w.state)
  | closeUnleased {op : Op} {jobId : String} {w : TerminalWrite} {now : Nat}
      (hop : op.terminalWrite = some (jobId, w, now)) (htoken : w.leaseToken = none) :
      Performs op (.close none now w.state)

variable {row' : JobRow} {s : Store} {op : Op} {row : JobRow}

omit [Primitives] in
theorem step_of_phase {a : Action String String Nat ScanJobState}
    {st : State String String Nat ScanJobState} (h : Step row.lease a st)
    (hphase : row'.lease.phase = st.phase) (hstopping : row'.cancellationRequested = st.stopping)
    (hattempts : row'.attemptCount = st.attempts) (hversion : row'.revision = st.version) :
    Step row.lease a row'.lease := by
  have heq : row'.lease = st := by
    cases st
    simp only at hphase hstopping hattempts hversion
    subst hphase hstopping hattempts hversion
    rfl
  rw [heq]
  exact h

theorem RowStep.refines (h : RowStep s op row row') (hc : row.LeaseColumns) :
    ∃ a, Performs op a ∧ Step row.lease a row'.lease := by
  cases h with
  | @claim now _ hclaim =>
    obtain ⟨hstate, hflag, -⟩ := claimable_iff.mp hclaim
    have hnone : row.leaseToken = none := hc.leaseToken_of_not_running (by simp [hstate])
    exact ⟨.start, .start, step_of_phase (.start (row.lease_phase_of_queued hstate) hflag)
      (JobRow.lease_phase_of_unleased rfl hnone) rfl rfl rfl⟩
  | @claimLeased now seconds expiresAt workerId token worker _ hclaim hworker =>
    obtain ⟨hstate, hflag, -⟩ := claimable_iff.mp hclaim
    exact ⟨.acquire worker token, .acquire hworker,
      step_of_phase (.acquire worker token expiresAt (row.lease_phase_of_queued hstate) hflag)
        (JobRow.lease_phase_of_held rfl rfl rfl rfl) rfl rfl rfl⟩
  | @renew jobId workerId token worker now seconds expiresAt _ hid hworker hactive =>
    obtain ⟨hstate, hholder, htoken, e, he, hlt⟩ := requireActiveLease_eq_ok.mp hactive
    exact ⟨.extend worker token now, .extend hworker,
      step_of_phase
        (.extend expiresAt (JobRow.lease_phase_of_held hstate hholder htoken he) hlt)
        (JobRow.lease_phase_of_held hstate hholder htoken rfl) rfl rfl rfl⟩
  | @recover now limit _ hlimit hexpired htoken =>
    obtain ⟨token, ht⟩ := Option.isSome_iff_exists.mp htoken
    obtain ⟨worker, e, hworker, he, hheld⟩ := hc.exists_held ht
    obtain ⟨-, e', he', hle⟩ := JobRow.leaseExpired_iff.mp hexpired
    rw [he] at he'
    cases he'
    refine ⟨.recover now limit, .recover, ?_⟩
    rcases JobRow.recovered_cases htoken now limit with
      ⟨hflag, hrow⟩ | ⟨hflag, hl, hrow⟩ | ⟨hflag, hl, hrow⟩
    · rw [hrow]
      exact step_of_phase (.recoverStopped .cancelled hheld hle hflag) rfl rfl rfl rfl
    · rw [hrow]
      exact step_of_phase (.recoverExhausted .failed hheld hle hflag hl) rfl rfl rfl rfl
    · rw [hrow]
      exact step_of_phase (.recoverRetry hheld hle hflag hl) rfl rfl rfl rfl
  | cancelQueued hid hread hstate =>
    exact ⟨.stop, .stop,
      step_of_phase (.stopWaiting .cancelled (row.lease_phase_of_queued hstate)) rfl rfl rfl rfl⟩
  | @flagCancellation jobId now _ record hid hread hstate =>
    refine ⟨.stop, .stop, ?_⟩
    -- A running row without a token was claimed without a lease.
    cases htoken : row.leaseToken with
    | none =>
      have hphase := JobRow.lease_phase_of_unleased hstate htoken
      exact step_of_phase (.stopUnleased hphase) rfl rfl rfl rfl
    | some token =>
      obtain ⟨worker, e, -, -, hheld⟩ := hc.exists_held htoken
      exact step_of_phase (.stopHeld hheld) rfl rfl rfl rfl
  | @terminate _ jobId w now _ record workerId hop hid hread hstate hworker hlease =>
    have hclosed : ∀ moment revision, (row.terminate w moment revision).lease.phase
        = .closed w.state := by
      intro moment revision
      have hterminal : (row.terminate w moment revision).state.isTerminal = true :=
        Op.isTerminal_of_terminalWrite hop
      exact JobRow.lease_phase_of_terminal hterminal
    rcases hlease with ⟨worker, token, rfl, htoken, hactive⟩ | ⟨rfl, htoken, hnone⟩
    · obtain ⟨-, hholder, hheld, e, he, hlt⟩ := requireActiveLease_eq_ok.mp hactive
      exact ⟨.close (some (worker, token)) now w.state, .closeLeased hop htoken hworker,
        step_of_phase
          (.closeHeld w.state (JobRow.lease_phase_of_held hstate hholder hheld he) hlt)
          (hclosed _ _) rfl rfl rfl⟩
    · exact ⟨.close none now w.state, .closeUnleased hop htoken,
        step_of_phase (.closeUnleased w.state (JobRow.lease_phase_of_unleased hstate hnone))
          (hclosed _ _) rfl rfl rfl⟩

/-! ## The lease columns -/

theorem leaseColumns_newJobRow (jobId : String) (request : ScanJobRequest) (updatedAt : Nat) :
    (newJobRow jobId request updatedAt).LeaseColumns :=
  ⟨rfl, rfl, by simp [newJobRow]⟩

theorem RowStep.leaseColumns (h : RowStep s op row row') (hc : row.LeaseColumns) :
    row'.LeaseColumns := by
  have hreleased : ∀ r : JobRow, r.workerId = none → r.leaseToken = none →
      r.leaseExpiresAt = none → r.LeaseColumns := by
    intro r hw ht he
    exact ⟨by simp [hw, ht], by simp [he, ht], by simp [ht]⟩
  cases h with
  | claim hclaim => exact ⟨hc.worker, hc.expires, fun _ => rfl⟩
  | claimLeased hclaim hworker => exact ⟨rfl, rfl, fun _ => rfl⟩
  | renew hid hworker hactive =>
    obtain ⟨hstate, hholder, htoken, -⟩ := requireActiveLease_eq_ok.mp hactive
    refine ⟨hc.worker, ?_, hc.running⟩
    show true = row.leaseToken.isSome
    rw [htoken]
    rfl
  | @recover now limit _ hlimit hexpired htoken =>
    rcases JobRow.recovered_cases htoken now limit with ⟨-, hrow⟩ | ⟨-, -, hrow⟩ | ⟨-, -, hrow⟩
    all_goals
      rw [hrow]
      exact hreleased _ rfl rfl rfl
  | cancelQueued hid hread hstate =>
    have hnone : row.leaseToken = none := hc.leaseToken_of_not_running (by simp [hstate])
    refine ⟨hc.worker, hc.expires, ?_⟩
    intro htoken
    have htoken' : row.leaseToken.isSome = true := htoken
    rw [hnone] at htoken'
    simp at htoken'
  | flagCancellation hid hread hstate => exact ⟨hc.worker, hc.expires, hc.running⟩
  | terminate hop hid hread hstate hworker hlease => exact hreleased _ rfl rfl rfl

/-! ## Invariants of rows -/

/-- Every row of the store satisfies `P`. -/
def Store.AllJobs (P : JobRow → Prop) (s : Store) : Prop := ∀ j row, s.job j = some row → P row

omit [Primitives] in
theorem Store.allJobs_empty (P : JobRow → Prop) : empty.AllJobs P := by
  intro j row h
  cases h

theorem Store.AllJobs.apply {P : JobRow → Prop} (hs : s.AllJobs P)
    (hnew : ∀ j request, s.job j = none → isCanonicalUuid j = true →
      Inserts s op request → P (newJobRow j request request.submittedAt))
    (hstep : ∀ j row row', s.job j = some row → P row → RowStep s op row row' → P row') :
    (s.apply op).AllJobs P := by
  intro j row h
  rcases job_apply s op j with hsame | ⟨hnone, hid, request, hrow, hop⟩ | ⟨r, r', hr, hr', hrowStep⟩
  · exact hs j row (by rw [← hsame, h])
  · have hP := hnew j request hnone hid hop
    rw [hrow] at h
    cases h
    exact hP
  · rw [hr'] at h
    cases h
    exact hstep j r row hr (hs j r hr) hrowStep

theorem leaseColumns_apply (hs : s.AllJobs JobRow.LeaseColumns) (op : Op) :
    (s.apply op).AllJobs JobRow.LeaseColumns := by
  refine hs.apply ?_ ?_
  · intro j request _ _ _
    exact leaseColumns_newJobRow j request request.submittedAt
  · intro j row row' _ hc hstep
    exact hstep.leaseColumns hc

theorem leaseColumns_run (ops : List Op) : (empty.run ops).AllJobs JobRow.LeaseColumns :=
  Runs.run_induction (P := Store.AllJobs JobRow.LeaseColumns)
    (fun _ op hs => leaseColumns_apply hs op) (allJobs_empty _) ops

end WebGuard
