import WebGuard.Properties.Fencing
import WebGuard.Worker.RunOnce

/-!
# Worker runs under storage faults

Two properties of a run of `run_once`, over every list of inputs: whatever the database, the
executor, the monitor and the other parties do, and in whatever order.

* At most one terminal write of the worker is committed. The retries cannot add a second one: a
  write that was committed before its error reached the worker left a terminal row, which no
  call changes again.
* What the run logs is what the store holds, as long as the executor hands over no failed or
  cancelled report. It may: the result write then stores a failed or cancelled job, and the run
  logs `job_completed` for it (`completed_event_of_failed_report`).
-/

namespace WebGuard

open Atomic Worker Store

section

variable [Primitives]

/-! ## Steps on the store -/

variable (c : RunState) (error : Raised)

@[simp] theorem afterMonitorFailure_store :
    (afterMonitorFailure c error).store = c.store := by
  unfold afterMonitorFailure
  split
  · rfl
  · split <;> rfl

@[simp] theorem afterMonitorFailure_control :
    (afterMonitorFailure c error).control = c.control := by
  unfold afterMonitorFailure
  split
  · rfl
  · split <;> rfl

@[simp] theorem afterMonitorFailure_events :
    (afterMonitorFailure c error).events = c.events := by
  unfold afterMonitorFailure
  split
  · rfl
  · split <;> rfl

theorem step_store (w : Worker) (c : RunState) (i : Input) :
    (w.step c i).store = c.store ∨ ∃ op, (w.step c i).store = c.store.apply op := by
  cases i with
  | environment op => exact Or.inr ⟨op, rfl⟩
  | recover now fault =>
    have hcall := attempt_state Raised.store fault
      (recoverExpiredLeases now w.maximumAttempts) c.store
    simp only [step]
    split
    · split <;> next heq =>
        rw [heq] at hcall
        exact hcall.imp id fun h => ⟨.recoverExpiredLeases now w.maximumAttempts, h⟩
    · exact Or.inl rfl
  | claim now leaseToken fault =>
    have hcall := attempt_state Raised.store fault
      (claimNextLeased now w.workerId w.leaseSeconds leaseToken) c.store
    simp only [step]
    split
    · split <;> next heq =>
        rw [heq] at hcall
        exact hcall.imp id fun h => ⟨.claimNextLeased now w.workerId w.leaseSeconds leaseToken, h⟩
    · exact Or.inl rfl
  | monitorCheck fault =>
    refine Or.inl ?_
    simp only [step]
    split
    · split <;> simp
    · rfl
  | monitorRenew now fault =>
    simp only [step]
    split
    · next lease hlease hmonitoring =>
      have hcall := attempt_state Raised.store fault
        (renewLease lease.record.jobId lease.workerId lease.leaseToken now w.leaseSeconds) c.store
      split <;> next heq =>
        rw [heq] at hcall
        simp only [afterMonitorFailure_store]
        exact hcall.imp id fun h =>
          ⟨.renewLease lease.record.jobId lease.workerId lease.leaseToken now w.leaseSeconds, h⟩
    · exact Or.inl rfl
  | execute execution =>
    refine Or.inl ?_
    simp only [step]
    split <;> rfl
  | proceed =>
    refine Or.inl ?_
    simp only [step]
    split <;> rfl
  | persist now fault =>
    simp only [step]
    split
    · next lease write number hcontrol =>
      have hcall := attempt_state Raised.store fault (write.call lease now) c.store
      split <;> next heq =>
        rw [heq, write.call_state] at hcall
        exact hcall.imp id fun h => ⟨write.op lease now, h⟩
    · exact Or.inl rfl

variable {c : RunState} {w : Worker} {row : JobRow} {write : WorkerWrite} {lease : LeasedScanJob}

theorem terminal_step {j : String} (h : c.store.job j = some row)
    (hterminal : row.state.isTerminal = true) (i : Input) :
    (w.step c i).store.job j = some row := by
  rcases step_store w c i with hsame | ⟨op, hop⟩
  · rw [hsame, h]
  · rw [hop]
    exact terminal_apply h hterminal op

/-! ## What a terminal write leaves -/

/-- The row shows the outcome that was written. -/
def WorkerWrite.Shows (write : WorkerWrite) (row : JobRow) : Prop :=
  match write with
  | .finishResult outcome _ =>
    outcome.resultStatus.finishedState = some row.state ∧ row.scanId = some outcome.scanId
  | .fail code _ _ => row.state = .failed ∧ row.errorCode = some code
  | .cancel => row.state = .cancelled

omit [Primitives] in
theorem WorkerWrite.Shows.isTerminal (h : write.Shows row) : row.state.isTerminal = true := by
  cases write with
  | finishResult outcome receipt => exact ScanStatus.isTerminal_of_finishedState h.1
  | fail code message receipt => rw [h.1]; rfl
  | cancel => rw [show row.state = .cancelled from h]; rfl

theorem WorkerWrite.call_shows (write : WorkerWrite) (lease : LeasedScanJob) (now : Nat)
    (s : Store) :
    (write.call lease now s).2 = s ∨
      ∃ row, (write.call lease now s).2.job lease.record.jobId = some row ∧ write.Shows row := by
  cases write with
  | finishResult outcome receipt =>
    simp only [call, WebGuard.finishResult]
    split
    · exact Or.inl rfl
    · next state hstate =>
      refine (terminalUpdate_state _ _ _ _).imp id ?_
      rintro ⟨row, moment, revision, hrow⟩
      exact ⟨_, hrow, hstate, rfl⟩
  | fail code message receipt =>
    refine (terminalUpdate_state _ _ _ _).imp id ?_
    rintro ⟨row, moment, revision, hrow⟩
    exact ⟨_, hrow, rfl, rfl⟩
  | cancel =>
    refine (terminalUpdate_state _ _ _ _).imp id ?_
    rintro ⟨row, moment, revision, hrow⟩
    exact ⟨_, hrow, rfl⟩

theorem WorkerWrite.shows_of_answer {now : Nat} {s : Store} {record : ScanJobRecord}
    (h : (write.call lease now s).1 = .ok record) :
    ∃ row, (write.call lease now s).2.job lease.record.jobId = some row ∧ write.Shows row := by
  cases write with
  | finishResult outcome receipt =>
    simp only [call, WebGuard.finishResult] at h ⊢
    split at h
    · cases h
    · next state hstate =>
      obtain ⟨row, moment, revision, hrow⟩ := terminalUpdate_answer h
      exact ⟨_, hrow, hstate, rfl⟩
  | fail code message receipt =>
    obtain ⟨row, moment, revision, hrow⟩ := terminalUpdate_answer h
    exact ⟨_, hrow, rfl, rfl⟩
  | cancel =>
    obtain ⟨row, moment, revision, hrow⟩ := terminalUpdate_answer h
    exact ⟨_, hrow, rfl⟩

/-! ## One commit at most -/

/-- The step commits a terminal write of the worker. -/
def commitsTerminalWrite (w : Worker) (c : RunState) (i : Input) : Bool :=
  match c.control, i with
  | .persisting lease _ _, .persist _ _ =>
    (w.step c i).store.job lease.record.jobId != c.store.job lease.record.jobId
  | _, _ => false

/-- The run has claimed its job, or has ended. -/
def Control.pastClaim : Control → Bool
  | .starting => false
  | .claiming => false
  | _ => true

/-- The run is past its claim, and a job it still works on is terminal. -/
structure RunState.Settled (c : RunState) : Prop where
  claimed : c.control.pastClaim = true
  terminal : ∀ lease, leaseOf c.control = some lease →
    ∃ row, c.store.job lease.record.jobId = some row ∧ row.state.isTerminal = true

theorem afterExecution_control (c : RunState) (lease : LeasedScanJob) (execution : Execution) :
    (afterExecution c lease execution).pastClaim = true ∧
      ∀ lease', leaseOf (afterExecution c lease execution) = some lease' →
        lease' = lease := by
  cases execution <;> simp only [afterExecution] <;> repeat' split
  all_goals simp_all [Control.pastClaim, leaseOf]

theorem afterFailure_control (w : Worker) (lease : LeasedScanJob) (write : WorkerWrite)
    (number : Nat) (error : Raised) :
    (w.afterFailure lease write number error).1.pastClaim = true ∧
      ∀ lease', leaseOf (w.afterFailure lease write number error).1 = some lease' →
        lease' = lease := by
  simp only [afterFailure]
  repeat' split
  all_goals simp_all [Control.pastClaim, leaseOf]

theorem control_step (h : c.control.pastClaim = true) (i : Input) :
    (w.step c i).control.pastClaim = true ∧
      ∀ lease, leaseOf (w.step c i).control = some lease →
        leaseOf c.control = some lease := by
  have hsame : ∀ control, control = c.control → control.pastClaim = true ∧
      ∀ lease, leaseOf control = some lease → leaseOf c.control = some lease := by
    rintro control rfl
    exact ⟨h, fun lease hlease => hlease⟩
  cases i with
  | environment op => exact hsame _ rfl
  | recover now fault =>
    simp only [step]
    split
    · next hcontrol =>
      rw [hcontrol] at h
      cases h
    · exact hsame _ rfl
  | claim now leaseToken fault =>
    simp only [step]
    split
    · next hcontrol =>
      rw [hcontrol] at h
      cases h
    · exact hsame _ rfl
  | monitorCheck fault =>
    refine hsame _ ?_
    simp only [step]
    split
    · split <;> simp
    · rfl
  | monitorRenew now fault =>
    refine hsame _ ?_
    simp only [step]
    split
    · split <;> simp
    · rfl
  | execute execution =>
    simp only [step]
    split
    · next lease hcontrol =>
      rw [hcontrol]
      exact ⟨rfl, fun lease' hlease => hlease⟩
    · exact hsame _ rfl
  | proceed =>
    simp only [step]
    split
    · next lease execution hcontrol =>
      rw [hcontrol]
      obtain ⟨hpast, hlease⟩ := afterExecution_control c lease execution
      exact ⟨hpast, fun lease' h' => by rw [hlease lease' h']; rfl⟩
    · exact hsame _ rfl
  | persist now fault =>
    simp only [step]
    split
    · next lease write number hcontrol =>
      rw [hcontrol]
      split
      · exact ⟨rfl, fun lease' h' => by cases h'⟩
      · next error s heq =>
        obtain ⟨hpast, hlease⟩ := afterFailure_control w lease write number error
        exact ⟨hpast, fun lease' h' => by rw [hlease lease' h']; rfl⟩
    · exact hsame _ rfl

theorem settled_step (h : c.Settled) (i : Input) : (w.step c i).Settled := by
  obtain ⟨hpast, hlease⟩ := control_step (w := w) h.claimed i
  refine ⟨hpast, ?_⟩
  intro lease hworking
  obtain ⟨row, hrow, hterminal⟩ := h.terminal lease (hlease lease hworking)
  exact ⟨row, terminal_step hrow hterminal i, hterminal⟩

theorem settled_of_commits {i : Input} (h : commitsTerminalWrite w c i = true) :
    (w.step c i).Settled := by
  unfold commitsTerminalWrite at h
  split at h
  · next lease write number now fault hcontrol =>
    have hpast : c.control.pastClaim = true := by rw [hcontrol]; rfl
    obtain ⟨hpast', hlease⟩ := control_step (w := w) hpast (.persist now fault)
    refine ⟨hpast', ?_⟩
    intro lease' hworking
    have hsame := hlease lease' hworking
    rw [hcontrol] at hsame
    cases hsame
    have hstore : (w.step c (.persist now fault)).store
        = (attempt .store fault (write.call lease now) c.store).2 := by
      simp only [step, hcontrol]
      split <;> next heq => rw [heq]
    rw [bne_iff_ne, hstore] at h
    rw [hstore]
    -- The row changed, so the call reached the store, and what it commits is terminal.
    rcases attempt_state Raised.store fault (write.call lease now) c.store with hidle | hcall
    · rw [hidle] at h
      exact absurd rfl h
    · rw [hcall] at h ⊢
      rcases write.call_shows lease now c.store with hidle | ⟨row, hrow, hshows⟩
      · rw [hidle] at h
        exact absurd rfl h
      · exact ⟨row, hrow, hshows.isTerminal⟩
  · cases h

theorem not_commits_of_settled (h : c.Settled) (i : Input) :
    commitsTerminalWrite w c i = false := by
  unfold commitsTerminalWrite
  split
  · next lease write number now fault hcontrol =>
    obtain ⟨row, hrow, hterminal⟩ := h.terminal lease (by rw [hcontrol]; rfl)
    rw [terminal_step hrow hterminal, hrow]
    simp
  · rfl

/-! ## Reports -/

/-- The outcome that the event reports is the one in the store. -/
def Event.Persisted (s : Store) : Event → Prop
  | .jobCompleted j scanId =>
    ∃ row, s.job j = some row ∧ (row.state = .completed ∨ row.state = .completedWithErrors) ∧
      row.scanId = some scanId
  | .jobFailed j code =>
    ∃ row, s.job j = some row ∧ row.state = .failed ∧ row.errorCode = some code
  | _ => True

/-- The report of a scan that neither failed nor was cancelled. -/
def ScanOutcome.Succeeded (outcome : ScanOutcome) : Prop :=
  outcome.resultStatus ≠ .failed ∧ outcome.resultStatus ≠ .cancelled

/-- An executor that returns hands over such a report. -/
def Execution.Succeeds : Execution → Prop
  | .returned outcome _ => outcome.Succeeded
  | _ => True

def WorkerWrite.Succeeds : WorkerWrite → Prop
  | .finishResult outcome _ => outcome.Succeeded
  | _ => True

def Input.Succeeds : Input → Prop
  | .execute execution => execution.Succeeds
  | _ => True

/-- So is every result that the run still carries. -/
def Control.Succeeds : Control → Prop
  | .ended _ execution => execution.Succeeds
  | .persisting _ write _ => write.Succeeds
  | _ => True

/-- What is carried through a run whose executor succeeds. -/
structure RunState.Truthful (c : RunState) : Prop where
  control : c.control.Succeeds
  events : ∀ event ∈ c.events, event.Persisted c.store

theorem persisted_step {event : Event} (h : event.Persisted c.store) (i : Input) :
    event.Persisted (w.step c i).store := by
  cases event with
  | jobCompleted j scanId =>
    obtain ⟨row, hrow, hstate, hscan⟩ := h
    have hterminal : row.state.isTerminal = true := by
      rcases hstate with hstate | hstate <;> rw [hstate] <;> rfl
    exact ⟨row, terminal_step hrow hterminal i, hstate, hscan⟩
  | jobFailed j code =>
    obtain ⟨row, hrow, hstate, hcode⟩ := h
    have hterminal : row.state.isTerminal = true := by rw [hstate]; rfl
    exact ⟨row, terminal_step hrow hterminal i, hstate, hcode⟩
  | _ => trivial

omit [Primitives] in
theorem ScanOutcome.Succeeded.completed {outcome : ScanOutcome} {state : ScanJobState}
    (h : outcome.Succeeded) (hstate : outcome.resultStatus.finishedState = some state) :
    state = .completed ∨ state = .completedWithErrors := by
  obtain ⟨hfailed, hcancelled⟩ := h
  cases hstatus : outcome.resultStatus <;>
    simp_all [ScanStatus.finishedState]

theorem WorkerWrite.Shows.persisted {s : Store} (h : write.Shows row)
    (hrow : s.job lease.record.jobId = some row) (hsucceeds : write.Succeeds) :
    ∀ event ∈ write.events lease, event.Persisted s := by
  intro event hevent
  cases write with
  | finishResult outcome receipt =>
    simp only [events, List.mem_singleton] at hevent
    subst hevent
    exact ⟨row, hrow, ScanOutcome.Succeeded.completed hsucceeds h.1, h.2⟩
  | fail code message receipt =>
    simp only [events, List.mem_singleton] at hevent
    subst hevent
    exact ⟨row, hrow, h.1, h.2⟩
  | cancel => simp [events] at hevent

theorem afterExecution_succeeds {execution : Execution} (h : execution.Succeeds) :
    (afterExecution c lease execution).Succeeds := by
  cases execution <;> simp only [afterExecution] <;> repeat' split
  all_goals first | exact h | trivial

theorem afterFailure_succeeds (h : write.Succeeds) (w : Worker) (lease : LeasedScanJob)
    (number : Nat) (error : Raised) (s : Store) :
    (w.afterFailure lease write number error).1.Succeeds ∧
      ∀ event ∈ (w.afterFailure lease write number error).2, event.Persisted s := by
  simp only [afterFailure]
  repeat' split
  all_goals
    refine ⟨?_, ?_⟩
    · first | exact h | trivial
    · intro event hevent
      first
        | (simp only [List.mem_singleton] at hevent; subst hevent; trivial)
        | simp at hevent

theorem truthful_step (h : c.Truthful) {i : Input} (hi : i.Succeeds) : (w.step c i).Truthful := by
  have hkept : ∀ event ∈ c.events, event.Persisted (w.step c i).store :=
    fun event hevent => persisted_step (h.events event hevent) i
  cases i with
  | environment op => exact ⟨h.control, hkept⟩
  | recover now fault =>
    simp only [step] at hkept ⊢
    split
    · next hcontrol =>
      rw [hcontrol] at hkept
      simp only at hkept
      split <;> next heq =>
        rw [heq] at hkept
        exact ⟨trivial, hkept⟩
    · exact h
  | claim now leaseToken fault =>
    simp only [step] at hkept ⊢
    split
    · next hcontrol =>
      rw [hcontrol] at hkept
      simp only at hkept
      split <;> next heq =>
        rw [heq] at hkept
        refine ⟨trivial, ?_⟩
        simpa [Event.Persisted, or_imp, forall_and] using hkept
    · exact h
  | monitorCheck fault =>
    simp only [step]
    split
    · split
      · exact ⟨by simpa using h.control, by simpa using h.events⟩
      · exact ⟨by simpa using h.control, by simpa using h.events⟩
      · exact ⟨h.control, h.events⟩
    · exact h
  | monitorRenew now fault =>
    simp only [step] at hkept ⊢
    split
    · next lease hlease hmonitoring =>
      rw [hlease, hmonitoring] at hkept
      simp only at hkept
      split <;> next heq =>
        rw [heq] at hkept
        exact ⟨by simpa using h.control, by simpa using hkept⟩
    · exact h
  | execute execution =>
    simp only [step]
    split
    · exact ⟨hi, h.events⟩
    · exact h
  | proceed =>
    simp only [step]
    split
    · next lease execution hcontrol =>
      have hcarried := h.control
      rw [hcontrol] at hcarried
      exact ⟨afterExecution_succeeds hcarried, h.events⟩
    · exact h
  | persist now fault =>
    simp only [step] at hkept ⊢
    split
    · next lease write number hcontrol =>
      have hcarried := h.control
      rw [hcontrol] at hcarried hkept
      simp only at hkept
      split
      · -- The call answered, so the row shows the write.
        next record s heq =>
        rw [heq] at hkept
        obtain ⟨hanswer, hstate⟩ := attempt_answer (congrArg Prod.fst heq)
        rw [heq] at hstate
        obtain ⟨row, hrow, hshows⟩ := WorkerWrite.shows_of_answer hanswer
        rw [← hstate] at hrow
        refine ⟨trivial, ?_⟩
        intro event hevent
        rcases List.mem_append.mp hevent with hold | hnew
        · exact hkept event hold
        · exact hshows.persisted hrow hcarried event hnew
      · next error s heq =>
        rw [heq] at hkept
        obtain ⟨hnext, hevents⟩ := afterFailure_succeeds hcarried w lease number error s
        refine ⟨hnext, ?_⟩
        intro event hevent
        rcases List.mem_append.mp hevent with hold | hnew
        · exact hkept event hold
        · exact hevents event hnew
    · exact h

/--
**A worker run commits one terminal write at most, and reports what it persisted.**

The second half is for runs whose executor, where it returns, hands over neither a failed nor a
cancelled report.
-/
theorem worker_run_safe (w : Worker) (s : Store) (inputs : List Input) :
    Runs.occurrences w.step (commitsTerminalWrite w) { store := s } inputs ≤ 1 ∧
    ((∀ i ∈ inputs, i.Succeeds) →
      ∀ event ∈ (w.runOnce s inputs).events, event.Persisted (w.runOnce s inputs).store) := by
  refine ⟨?_, ?_⟩
  · exact Runs.occurrences_le_one (fun c i h => settled_of_commits h)
      (fun c i h => settled_step h i) (fun c i h => not_commits_of_settled h i) _ inputs
  · intro hinputs
    have hstart : RunState.Truthful { store := s } := ⟨trivial, by simp⟩
    exact (Runs.along_induction (P := RunState.Truthful)
      (fun c i h hi => truthful_step h hi) hstart
      (Runs.along_of_forall (G := Input.Succeeds) hinputs)).events

end

theorem sampleWorker_positive : 1 ≤ 3 := by decide

def sampleWorker : Worker where
  workerId := "worker-a"
  leaseSeconds := 1000000
  maximumAttempts := 3
  terminalPersistenceMaximumAttempts := 3
  positive := sampleWorker_positive

def sampleOutcome (status : ScanStatus) : ScanOutcome where
  scanId := "00000000-0000-4000-8000-00000000000d"
  resultStatus := status
  reportRef := "reports/scan.json"
  auditRef := "audits/scan.json"

def retriedRun (status : ScanStatus) : List (@Input samplePrimitives) :=
  letI := samplePrimitives
  [.environment (.submit sampleRequest sampleJobId none none none none),
    .recover 150 none, .claim 200 "token-a" none,
    .execute (.returned (sampleOutcome status) {}), .proceed,
    .persist 300 (some (.before .database)), .persist 400 none]

/-- With the report of a completed scan the run logs what the store holds. -/
theorem worker_run_safe_retried :
    letI := samplePrimitives
    .jobCompleted sampleJobId (sampleOutcome .completed).scanId
        ∈ (sampleWorker.runOnce empty (retriedRun .completed)).events ∧
      ∀ event ∈ (sampleWorker.runOnce empty (retriedRun .completed)).events,
        event.Persisted (sampleWorker.runOnce empty (retriedRun .completed)).store := by
  let _ := samplePrimitives
  refine ⟨by decide, (worker_run_safe sampleWorker empty _).2 ?_⟩
  intro i hi
  simp only [retriedRun, List.mem_cons, List.not_mem_nil, or_false] at hi
  rcases hi with rfl | rfl | rfl | rfl | rfl | rfl | rfl <;>
    simp [Input.Succeeds, Execution.Succeeds, ScanOutcome.Succeeded, sampleOutcome]

/-- With the report of a failed scan it logs `job_completed` for a job stored as failed. -/
theorem completed_event_of_failed_report :
    letI := samplePrimitives
    ¬ ∀ (w : Worker) (s : Store) (inputs : List Input),
      ∀ event ∈ (w.runOnce s inputs).events, event.Persisted (w.runOnce s inputs).store := by
  let _ := samplePrimitives
  intro hall
  have hlogged : .jobCompleted sampleJobId (sampleOutcome .failed).scanId
      ∈ (sampleWorker.runOnce empty (retriedRun .failed)).events := by
    decide
  have hfailed : ((sampleWorker.runOnce empty (retriedRun .failed)).store.job
      sampleJobId).map JobRow.state = some .failed := by
    decide
  obtain ⟨row, hrow, hstate, -⟩ := hall _ _ _ _ hlogged
  rw [hrow] at hfailed
  rcases hstate with hstate | hstate <;> rw [Option.map_some, hstate] at hfailed <;> cases hfailed

end WebGuard
