import WebGuard.Lib.Run
import WebGuard.Store.Terminal
import WebGuard.Store.Schedules

/-!
# The store as a state machine

The calls that workers, coordinators, operators and clients make on one database, and what each
can do to the job table.

SQLite runs one writing transaction at a time, so a concurrent history is a list of calls and a
state is reached by running the list (`Store.run`). The tokens and identifiers that the store
draws with `uuid4` are arguments of the calls.

`effect` is the inversion lemma of the development: whatever the call, the job table is as
before, has one new queued row, has one row replaced by a `RowStep`, or went through a recovery.
The properties of whole runs are proved from it and never unfold a call.
-/

namespace WebGuard

open Relational Atomic Store

section

variable [Primitives]

/-- One call on the store. -/
inductive Op where
  | createScanPermit (permit : PermitRow)
  | revokeScanPermitScoped (permitId organizationId revokedBy : String) (now : Nat)
  /-- The identity service creates or rewrites its table. -/
  | assignAuthorizations (assignments : Option (List (String × String)))
  | submit (request : ScanJobRequest) (jobId : String)
      (organizationId submittedBy permitId permitSha256 : Option String)
  | claimNext (now : Nat)
  | claimNextLeased (now : Nat) (workerId : String) (leaseSeconds : Nat) (leaseToken : String)
  | renewLease (jobId workerId leaseToken : String) (now leaseSeconds : Nat)
  | recoverExpiredLeases (now maximumAttempts : Nat)
  | requestCancellation (jobId : String) (now : Nat)
  | finishResult (jobId : String) (credential : Option Credential) (outcome : ScanOutcome)
      (receipt : ReceiptReference) (now : Nat)
  | complete (jobId : String) (state : ScanJobState) (outcome : ScanOutcome) (now : Nat)
  | fail (jobId : String) (credential : Option Credential) (errorCode errorMessage : String)
      (receipt : ReceiptReference) (now : Nat)
  | cancelRunning (jobId : String) (credential : Option Credential) (now : Nat)
  | createSchedule (scheduleId : String) (request : ScheduleRequest)
      (permitId permitSha256 : Option String) (now : Nat)
  /-- Pause, and the writing half of resume with whatever its reading half computed. -/
  | setScheduleState (scheduleId organizationId : String) (state : ScanScheduleState) (now : Nat)
      (nextRunAt : Option Nat)
  | enqueueDueSchedule (request : EnqueueRequest) (jobId : String) (now : Nat)
  | blockDueSchedule (scheduleId : String) (expectedRevision : Nat) (errorCode : String)
      (now : Nat)

/-- The database after a call, whether it answered or raised. -/
def Store.apply (s : Store) : Op → Store
  | .createScanPermit permit => (createScanPermit permit s).2
  | .revokeScanPermitScoped permitId organizationId revokedBy now =>
    (revokeScanPermitScoped permitId organizationId revokedBy now s).2
  | .assignAuthorizations assignments => { s with organizationAuthorizations := assignments }
  | .submit request jobId organizationId submittedBy permitId permitSha256 =>
    (submit request jobId organizationId submittedBy permitId permitSha256 s).2
  | .claimNext now => (claimNext now s).2
  | .claimNextLeased now workerId leaseSeconds leaseToken =>
    (claimNextLeased now workerId leaseSeconds leaseToken s).2
  | .renewLease jobId workerId leaseToken now leaseSeconds =>
    (renewLease jobId workerId leaseToken now leaseSeconds s).2
  | .recoverExpiredLeases now maximumAttempts => (recoverExpiredLeases now maximumAttempts s).2
  | .requestCancellation jobId now => (requestCancellation jobId now s).2
  | .finishResult jobId credential outcome receipt now =>
    (finishResult jobId credential outcome receipt now s).2
  | .complete jobId state outcome now => (complete jobId state outcome now s).2
  | .fail jobId credential errorCode errorMessage receipt now =>
    (fail jobId credential errorCode errorMessage receipt now s).2
  | .cancelRunning jobId credential now => (cancelRunning jobId credential now s).2
  | .createSchedule scheduleId request permitId permitSha256 now =>
    (createSchedule scheduleId request permitId permitSha256 now s).2
  | .setScheduleState scheduleId organizationId state now nextRunAt =>
    (setScheduleState scheduleId organizationId state now nextRunAt s).2
  | .enqueueDueSchedule request jobId now => (enqueueDueSchedule request jobId now s).2
  | .blockDueSchedule scheduleId expectedRevision errorCode now =>
    (blockDueSchedule scheduleId expectedRevision errorCode now s).2

/-- The database after a history of calls. -/
abbrev Store.run (s : Store) (ops : List Op) : Store := Runs.run apply s ops

/-! ## Terminal calls -/

/-- The write a terminal call makes; `none` where its arguments are refused at once. -/
def Op.terminalWrite : Op → Option (String × TerminalWrite × Nat)
  | .finishResult jobId credential outcome receipt now =>
    outcome.resultStatus.finishedState.map fun state =>
      (jobId,
        { state := state
          workerId := credential.map (·.workerId), leaseToken := credential.map (·.leaseToken)
          scanId := some outcome.scanId, resultStatus := some outcome.resultStatus
          reportRef := some outcome.reportRef, auditRef := some outcome.auditRef
          safetyReceiptRef := receipt.ref, safetyReceiptSha256 := receipt.sha256 }, now)
  | .complete jobId state outcome now =>
    if outcome.resultStatus.finishedState = some state
        ∧ (state = .completed ∨ state = .completedWithErrors) then
      some (jobId,
        { state := state, scanId := some outcome.scanId
          resultStatus := some outcome.resultStatus
          reportRef := some outcome.reportRef, auditRef := some outcome.auditRef }, now)
    else none
  | .fail jobId credential errorCode errorMessage receipt now =>
    some (jobId,
      { state := .failed
        workerId := credential.map (·.workerId), leaseToken := credential.map (·.leaseToken)
        errorCode := some errorCode, errorMessage := some errorMessage
        safetyReceiptRef := receipt.ref, safetyReceiptSha256 := receipt.sha256 }, now)
  | .cancelRunning jobId credential now =>
    some (jobId,
      { state := .cancelled
        workerId := credential.map (·.workerId), leaseToken := credential.map (·.leaseToken) }, now)
  | _ => none

variable {op : Op} {jobId : String} {now : Nat} {s : Store} {row : JobRow}

theorem Op.isTerminal_of_terminalWrite {w : TerminalWrite}
    (h : op.terminalWrite = some (jobId, w, now)) : w.state.isTerminal = true := by
  unfold terminalWrite at h
  split at h
  · obtain ⟨state, hstate, h⟩ := Option.map_eq_some_iff.mp h
    cases h
    exact ScanStatus.isTerminal_of_finishedState hstate
  · split at h
    · next hstate =>
      cases h
      exact ScanStatus.isTerminal_of_finishedState hstate.1
    · simp at h
  · cases h
    rfl
  · cases h
    rfl
  · simp at h

/-! ## Steps of a row -/

/-- What a call can do to a row that is there. -/
inductive RowStep (s : Store) : Op → JobRow → JobRow → Prop where
  | claim {now : Nat} {row : JobRow} (hclaim : s.claimable now row = true) :
      RowStep s (.claimNext now) row
        (row.claim (noEarlierThan now row.submittedAt) (row.revision + 1))
  | claimLeased {now leaseSeconds expiresAt : Nat} {workerId leaseToken worker : String}
      {row : JobRow} (hclaim : s.claimable now row = true)
      (hworker : checkWorkerId workerId = .ok worker) :
      RowStep s (.claimNextLeased now workerId leaseSeconds leaseToken) row
        (row.claimLeased (noEarlierThan now row.submittedAt) (row.revision + 1) worker leaseToken
          expiresAt)
  | renew {jobId workerId leaseToken worker : String} {now leaseSeconds expiresAt : Nat}
      {row : JobRow} (hid : row.jobId = jobId) (hworker : checkWorkerId workerId = .ok worker)
      (hactive : requireActiveLease row worker leaseToken now = .ok ()) :
      RowStep s (.renewLease jobId workerId leaseToken now leaseSeconds) row
        (row.renew (noEarlierThan now row.submittedAt) expiresAt (row.revision + 1))
  | recover {now limit : Nat} {row : JobRow} (hlimit : 1 ≤ limit)
      (hexpired : row.leaseExpired now = true) (htoken : row.leaseToken.isSome = true) :
      RowStep s (.recoverExpiredLeases now limit) row (row.recovered now limit)
  | cancelQueued {jobId : String} {now : Nat} {row : JobRow} {record : ScanJobRecord}
      (hid : row.jobId = jobId) (hread : recordFromRow row = .ok record)
      (hstate : row.state = .queued) :
      RowStep s (.requestCancellation jobId now) row (row.cancelQueued now (row.revision + 1))
  | flagCancellation {jobId : String} {now : Nat} {row : JobRow} {record : ScanJobRecord}
      (hid : row.jobId = jobId) (hread : recordFromRow row = .ok record)
      (hstate : row.state = .running) :
      RowStep s (.requestCancellation jobId now) row (row.flagCancellation now (row.revision + 1))
  | terminate {op : Op} {jobId : String} {w : TerminalWrite} {now : Nat} {row : JobRow}
      {record : ScanJobRecord} {workerId : Option String}
      (hop : op.terminalWrite = some (jobId, w, now)) (hid : row.jobId = jobId)
      (hread : recordFromRow row = .ok record) (hstate : row.state = .running)
      (hworker : w.workerId.mapM checkWorkerId = .ok workerId)
      (hlease : TerminalLease row workerId w.leaseToken now) :
      RowStep s op row
        (row.terminate w (noEarlierThan now (row.startedAt.getD row.submittedAt))
          (row.revision + 1))

/-- The calls that insert a job, and the request they insert it for. -/
inductive Inserts (s : Store) : Op → ScanJobRequest → Prop where
  | submit {request : ScanJobRequest} {jobId : String}
      {organizationId submittedBy permitId permitSha256 : Option String} :
      Inserts s (.submit request jobId organizationId submittedBy permitId permitSha256) request
  | enqueue {enqueue : EnqueueRequest} {jobId : String} {now : Nat} {row : ScheduleRow}
      {target : String} {request : ScanJobRequest}
      (hrow : s.schedule enqueue.scheduleId = some row)
      (hread : Primitives.canonicalizeOwnedTargetUrl row.target = .ok target)
      (hrequest : Primitives.canonicalizeOwnedTargetUrl target = .ok request.target) :
      Inserts s (.enqueueDueSchedule enqueue jobId now) request

/-- What a call does to the job table. -/
inductive Effect (s : Store) (op : Op) (s' : Store) : Prop where
  | same (hjobs : s'.scanJobs = s.scanJobs) (hbindings : s'.jobPermits = s.jobPermits)
  | inserted {jobId : String} {request : ScanJobRequest} (hid : isCanonicalUuid jobId = true)
      (hop : Inserts s op request) (h : s.Inserted s' (newJobRow jobId request request.submittedAt))
  | replaced {row row' : JobRow} (h : s.Replaced s' row row') (hstep : RowStep s op row row')
  | recovered {now limit : Nat} (hop : op = .recoverExpiredLeases now limit) (hlimit : 1 ≤ limit)
      (hframe : s' = { s with scanJobs := s'.scanJobs })
      (hjob : ∀ j, s'.job j = (s.job j).map
        (fun r => if r.leaseExpired now = true then r.recovered now limit else r))

theorem Effect.refl (s : Store) (op : Op) : Effect s op s := .same rfl rfl

/-! ## The inversion lemma -/

theorem effect_of_transaction {α β : Type} {body : Store → Answer (β × Store)}
    {finish : β → Store → Answer α} (h : ∀ b s', body s = .ok (b, s') → Effect s op s') :
    Effect s op (transaction body finish s).2 := by
  exact transaction_keeps (P := Effect s op) (.refl s op) h

theorem effect_terminal {w : TerminalWrite} (hop : op.terminalWrite = some (jobId, w, now)) :
    Effect s op (terminalUpdate jobId w now s).2 := by
  refine effect_of_transaction ?_
  intro written s' h
  obtain ⟨row, record, workerId, hid, hread, hstate, hworker, hlease, -, hreplaced⟩ :=
    terminalUpdateBody_ok h
  exact .replaced hreplaced (.terminate hop hid hread hstate hworker hlease)

theorem effect_finishResult {credential : Option Credential} {outcome : ScanOutcome}
    {receipt : ReceiptReference} :
    Effect s (.finishResult jobId credential outcome receipt now)
      (finishResult jobId credential outcome receipt now s).2 := by
  unfold finishResult
  split
  · exact Effect.refl s _
  · next state hstate => exact effect_terminal (by simp [Op.terminalWrite, hstate])

theorem effect_complete {state : ScanJobState} {outcome : ScanOutcome} :
    Effect s (.complete jobId state outcome now) (complete jobId state outcome now s).2 := by
  unfold complete
  split
  · exact Effect.refl s _
  · next hstate =>
    split
    · exact Effect.refl s _
    · next hstatus =>
      simp only [bne_iff_ne, ne_eq, not_not] at hstatus
      have hcompleted : state = .completed ∨ state = .completedWithErrors := by
        cases state <;> simp_all
      unfold finishResult
      rw [hstatus]
      exact effect_terminal (by simp [Op.terminalWrite, hstatus, hcompleted])

theorem effect (s : Store) (op : Op) : Effect s op (s.apply op) := by
  cases op with
  | createScanPermit permit =>
    refine effect_of_transaction ?_
    intro row s' h
    obtain ⟨t, ht, h⟩ := bind_ok h
    cases h
    rw [found_eq_ok] at ht
    unfold insertPermit at ht
    obtain ⟨permits, -, rfl⟩ := Option.map_eq_some_iff.mp ht
    exact .same rfl rfl
  | revokeScanPermitScoped permitId organizationId revokedBy now =>
    refine effect_of_transaction ?_
    intro row s' h
    obtain ⟨_, -, h⟩ := bind_ok h
    obtain ⟨_, -, h⟩ := bind_ok h
    cases h
    exact .same rfl rfl
  | assignAuthorizations assignments => exact .same rfl rfl
  | submit request jobId organizationId submittedBy permitId permitSha256 =>
    rcases submit_state request jobId organizationId submittedBy permitId permitSha256 s
      with h | ⟨hid, h⟩
    · show Effect s _ (submit request jobId organizationId submittedBy permitId permitSha256 s).2
      rw [h]
      exact Effect.refl s _
    · exact .inserted hid .submit h
  | claimNext now =>
    refine effect_of_transaction ?_
    intro claimed s' h
    rcases claimNextBody_ok h with ⟨-, rfl⟩ | ⟨row, hselect, -, hreplaced⟩
    · exact Effect.refl _ _
    · exact .replaced hreplaced (.claim (selectClaimableRow_spec hselect).2)
  | claimNextLeased now workerId leaseSeconds leaseToken =>
    refine effect_of_transaction ?_
    intro claimed s' h
    rcases claimNextLeasedBody_ok h with
      ⟨-, rfl⟩ | ⟨row, worker, expiresAt, hselect, hworker, -, -, hreplaced⟩
    · exact Effect.refl _ _
    · exact .replaced hreplaced (.claimLeased (selectClaimableRow_spec hselect).2 hworker)
  | renewLease jobId workerId leaseToken now leaseSeconds =>
    refine effect_of_transaction ?_
    intro renewed s' h
    obtain ⟨row, worker, expiresAt, hid, hworker, hactive, -, hreplaced⟩ := renewLeaseBody_ok h
    exact .replaced hreplaced (.renew hid hworker hactive)
  | recoverExpiredLeases now maximumAttempts =>
    refine effect_of_transaction ?_
    intro summary s' h
    obtain ⟨hlimit, hframe, hjob⟩ := job_recover h
    exact .recovered rfl hlimit hframe hjob
  | requestCancellation jobId now =>
    refine effect_of_transaction ?_
    intro answer s' h
    obtain ⟨row, record, hid, -, hread, h⟩ := requestCancellationBody_ok h
    rcases h with ⟨-, -, rfl⟩ | ⟨hstate, -, hreplaced⟩ | ⟨hstate, -, hreplaced⟩
    · exact Effect.refl _ _
    · exact .replaced hreplaced (.cancelQueued hid hread hstate)
    · exact .replaced hreplaced (.flagCancellation hid hread hstate)
  | finishResult jobId credential outcome receipt now => exact effect_finishResult
  | complete jobId state outcome now => exact effect_complete
  | fail jobId credential errorCode errorMessage receipt now => exact effect_terminal rfl
  | cancelRunning jobId credential now => exact effect_terminal rfl
  | createSchedule scheduleId request permitId permitSha256 now =>
    refine effect_of_transaction ?_
    intro record s' h
    obtain ⟨-, -, -, hjobs, hbindings, -⟩ := createScheduleBody_ok h
    exact .same hjobs hbindings
  | setScheduleState scheduleId organizationId state now nextRunAt =>
    refine effect_of_transaction ?_
    intro read s' h
    obtain ⟨row, -, hrescheduled⟩ := setScheduleStateBody_ok h
    rw [hrescheduled.frame]
    exact .same rfl rfl
  | enqueueDueSchedule request jobId now =>
    refine effect_of_transaction ?_
    intro answer s' h
    rcases enqueueDueScheduleBody_ok h with ⟨-, rfl⟩ | ⟨row, record, jobRequest, next, -, henqueued⟩
    · exact Effect.refl _ _
    · have hinserted := henqueued.job
      rw [← henqueued.submittedAt] at hinserted
      obtain ⟨target, hread, hrequest⟩ := henqueued.target
      exact .inserted henqueued.canonical (.enqueue henqueued.old hread hrequest) hinserted
  | blockDueSchedule scheduleId expectedRevision errorCode now =>
    refine effect_of_transaction ?_
    intro answer s' h
    rcases blockDueScheduleBody_ok h with ⟨-, rfl⟩ | ⟨row, -, -, -, hrescheduled⟩
    · exact Effect.refl _ _
    · rw [hrescheduled.frame]
      exact .same rfl rfl

/-! ## The effect on one job -/

theorem job_apply (s : Store) (op : Op) (j : String) :
    (s.apply op).job j = s.job j ∨
    (s.job j = none ∧ isCanonicalUuid j = true ∧
      ∃ request, (s.apply op).job j = some (newJobRow j request request.submittedAt) ∧
        Inserts s op request) ∨
    ∃ row row', s.job j = some row ∧ (s.apply op).job j = some row' ∧ RowStep s op row row' := by
  cases effect s op with
  | same hjobs hbindings =>
    refine Or.inl ?_
    unfold job
    rw [hjobs]
  | @inserted jobId request hid hop h =>
    by_cases hj : j = jobId
    · subst hj
      have hnew := h.job j
      rw [newJobRow_jobId, if_pos rfl] at hnew
      exact Or.inr (Or.inl ⟨h.fresh, hid, request, hnew, hop⟩)
    · have hother := h.job j
      rw [newJobRow_jobId, if_neg hj] at hother
      exact Or.inl hother
  | @replaced row row' h hstep =>
    by_cases hj : j = row.jobId
    · subst hj
      have hnew := h.job row.jobId
      rw [if_pos rfl] at hnew
      exact Or.inr (Or.inr ⟨row, row', h.old, hnew, hstep⟩)
    · have hother := h.job j
      rw [if_neg hj] at hother
      exact Or.inl hother
  | @recovered now limit hop hlimit hframe hjob =>
    rw [hjob j]
    cases hrow : s.job j with
    | none => exact Or.inl rfl
    | some row =>
      rw [Option.map_some]
      by_cases hexpired : row.leaseExpired now = true
      · rw [if_pos hexpired]
        -- An expired row without a token meets no `UPDATE` of the loop.
        by_cases htoken : row.leaseToken.isSome = true
        · exact Or.inr (Or.inr ⟨row, _, rfl, rfl, hop ▸ .recover hlimit hexpired htoken⟩)
        · refine Or.inl ?_
          unfold JobRow.recovered
          rw [if_neg htoken]
      · rw [if_neg hexpired]
        exact Or.inl rfl

theorem binding_apply {j : String} (h : s.job j = some row) (op : Op) :
    (s.apply op).binding j = s.binding j := by
  cases effect s op with
  | same hjobs hbindings =>
    unfold binding
    rw [hbindings]
  | @inserted jobId request hid hop hinserted =>
    refine hinserted.binding j ?_
    rw [newJobRow_jobId]
    rintro rfl
    have hfresh := hinserted.fresh
    rw [newJobRow_jobId, h] at hfresh
    simp at hfresh
  | replaced hreplaced hstep => rw [hreplaced.frame]; rfl
  | recovered hop hlimit hframe hjob => rw [hframe]; rfl

theorem job_apply_isSome {j : String} (h : s.job j = some row) (op : Op) :
    ∃ row', (s.apply op).job j = some row' ∧ (row' = row ∨ RowStep s op row row') := by
  rcases job_apply s op j with hsame | ⟨hnone, -⟩ | ⟨r, row', hr, hrow', hstep⟩
  · exact ⟨row, by rw [hsame, h], Or.inl rfl⟩
  · rw [hnone] at h
    simp at h
  · rw [hr] at h
    cases h
    exact ⟨row', hrow', Or.inr hstep⟩

/-! ## The calls of workers -/

/-- The calls that write jobs and receipts only. -/
def Op.onJobs : Op → Bool
  | .claimNext .. | .claimNextLeased .. | .renewLease .. | .recoverExpiredLeases .. => true
  | .requestCancellation .. | .finishResult .. | .complete .. => true
  | .fail .. | .cancelRunning .. => true
  | _ => false

structure Store.JobsWritten (s s' : Store) : Prop where
  frame : s' = { s with scanJobs := s'.scanJobs, jobSafetyReceipts := s'.jobSafetyReceipts }

omit [Primitives] in
theorem Store.Replaced.jobsWritten {s' : Store} {row' : JobRow} (h : s.Replaced s' row row') :
    s.JobsWritten s' := ⟨h.frame⟩

theorem jobsWritten_terminal (s : Store) (jobId : String) (w : TerminalWrite) (now : Nat) :
    s.JobsWritten (terminalUpdate jobId w now s).2 := by
  refine transaction_keeps (P := s.JobsWritten) ⟨rfl⟩ ?_
  intro written s' h
  obtain ⟨_, _, _, -, -, -, -, -, -, hreplaced⟩ := terminalUpdateBody_ok h
  exact hreplaced.jobsWritten

theorem jobsWritten_finishResult (s : Store) (jobId : String) (credential : Option Credential)
    (outcome : ScanOutcome) (receipt : ReceiptReference) (now : Nat) :
    s.JobsWritten (finishResult jobId credential outcome receipt now s).2 := by
  unfold finishResult
  split
  · exact ⟨rfl⟩
  · exact jobsWritten_terminal s _ _ _

theorem jobsWritten_apply (s : Store) (hop : op.onJobs = true) : s.JobsWritten (s.apply op) := by
  cases op with
  | claimNext now =>
    refine transaction_keeps (P := s.JobsWritten) ⟨rfl⟩ ?_
    intro claimed s' h
    rcases claimNextBody_ok h with ⟨-, rfl⟩ | ⟨row, -, -, hreplaced⟩
    · exact ⟨rfl⟩
    · exact hreplaced.jobsWritten
  | claimNextLeased now workerId leaseSeconds leaseToken =>
    refine transaction_keeps (P := s.JobsWritten) ⟨rfl⟩ ?_
    intro claimed s' h
    rcases claimNextLeasedBody_ok h with ⟨-, rfl⟩ | ⟨_, _, _, -, -, -, -, hreplaced⟩
    · exact ⟨rfl⟩
    · exact hreplaced.jobsWritten
  | renewLease jobId workerId leaseToken now leaseSeconds =>
    refine transaction_keeps (P := s.JobsWritten) ⟨rfl⟩ ?_
    intro renewed s' h
    obtain ⟨_, _, _, -, -, -, -, hreplaced⟩ := renewLeaseBody_ok h
    exact hreplaced.jobsWritten
  | recoverExpiredLeases now maximumAttempts =>
    refine transaction_keeps (P := s.JobsWritten) ⟨rfl⟩ ?_
    intro summary s' h
    obtain ⟨-, hframe, -⟩ := job_recover h
    rw [hframe]
    exact ⟨rfl⟩
  | requestCancellation jobId now =>
    refine transaction_keeps (P := s.JobsWritten) ⟨rfl⟩ ?_
    intro answer s' h
    obtain ⟨_, _, -, -, -, h⟩ := requestCancellationBody_ok h
    rcases h with ⟨-, -, rfl⟩ | ⟨-, -, hreplaced⟩ | ⟨-, -, hreplaced⟩
    · exact ⟨rfl⟩
    · exact hreplaced.jobsWritten
    · exact hreplaced.jobsWritten
  | finishResult jobId credential outcome receipt now => exact jobsWritten_finishResult s _ _ _ _ _
  | complete jobId state outcome now =>
    show s.JobsWritten (complete jobId state outcome now s).2
    unfold complete
    split
    · exact ⟨rfl⟩
    split
    · exact ⟨rfl⟩
    · exact jobsWritten_finishResult s _ _ _ _ _
  | fail jobId credential errorCode errorMessage receipt now => exact jobsWritten_terminal s _ _ _
  | cancelRunning jobId credential now => exact jobsWritten_terminal s _ _ _
  | _ => cases hop

end

/-! ## A sample history

The values that the witnesses and counterexamples run on. The two parameters are fixed to what
the functions they stand for answer on these inputs.
-/

@[reducible] def samplePrimitives : Primitives where
  canonicalizeOwnedTargetUrl := fun target => .ok target
  sha256Hex := fun _ => "4bf6a0a034483222498f8788cd180ca682aed08b3b590268109b7bea3537cfbb"

def sampleRequestFields : ScanJobRequestFields where
  idempotencyKey := "submit-0001"
  target := "https://example.com/"
  authorizationId := "6f1d2c3b-4a59-4e68-8b77-0c1d2e3f4a5b"
  authorizationSha256 := "0123456789abcdef0123456789abcdef0123456789abcdef0123456789abcdef"
  mode := .singlePage
  submittedAt := 100

def sampleRequest : @ScanJobRequest samplePrimitives :=
  letI := samplePrimitives
  { toScanJobRequestFields := sampleRequestFields
    built := ⟨sampleRequestFields, by decide⟩ }

def sampleJobId : String := "00000000-0000-4000-8000-000000000001"

def otherJobId : String := "00000000-0000-4000-8000-000000000002"

def sampleScheduleId : String := "00000000-0000-4000-8000-000000000003"

def sampleOrganizationId : String := "00000000-0000-4000-8000-00000000000a"

def samplePrincipalId : String := "00000000-0000-4000-8000-00000000000b"

def samplePermit : PermitRow where
  permitId := "00000000-0000-4000-8000-00000000000c"
  organizationId := sampleOrganizationId
  authorizationId := "6f1d2c3b-4a59-4e68-8b77-0c1d2e3f4a5b"
  authorizationSha256 := "0123456789abcdef0123456789abcdef0123456789abcdef0123456789abcdef"
  target := "https://example.com/"
  issuedBy := samplePrincipalId
  issuedAt := 0
  notBefore := 0
  expiresAt := 10000000000
  permitSha256 := "fedcba9876543210fedcba9876543210fedcba9876543210fedcba9876543210"

end WebGuard
