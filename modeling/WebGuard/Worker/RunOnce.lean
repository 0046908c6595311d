import WebGuard.Store.Operations

/-!
# One run of the worker

`ScanJobWorker.run_once`: recover, claim, execute under a heartbeat, and write the outcome, with
retries where the database is away.

Nothing between two store calls of the worker is atomic with them. So the run is a machine: its
control point (`Control`), the flags its two threads share, the database, and the events it has
logged. One input is one thing that happens: a store call of the worker with the fault the
connection meets, a call of the monitor thread, the end of the executor, or a call of anybody
else. The order of the inputs is arbitrary, so every interleaving and every fault pattern is a
list of inputs.
-/

namespace WebGuard

open Atomic

/-! ## What the worker sees -/

/-- An exception that reaches the worker. -/
inductive Raised where
  /-- `DatabaseError`. -/
  | database
  /-- Raised by the store itself. -/
  | store (failure : Failure)
  /-- Any other exception. -/
  | other
  deriving DecidableEq

def staleLeaseCodes : List String :=
  ["job_lease_expired", "job_lease_lost", "job_lease_required"]

/-- The exception is a `JobStoreError`. -/
def Raised.isJobStoreError : Raised → Bool
  | .store (.jobStore _ _) => true
  | _ => false

def Raised.isStaleLeaseError : Raised → Bool
  | .store (.jobStore code _) => staleLeaseCodes.contains code
  | _ => false

/-- How `executor.execute` ends. -/
inductive Execution where
  | returned (outcome : ScanOutcome) (receipt : ReceiptReference)
  /-- `JobExecutionError`. -/
  | jobExecutionError (code message : String) (receipt : ReceiptReference)
  | raised (error : Raised)
  deriving DecidableEq

/-- The events of the run that name a job, and those of the retries. -/
inductive Event where
  | jobClaimed (jobId : String)
  | jobCompleted (jobId scanId : String)
  | jobFailed (jobId errorCode : String)
  | terminalPersistenceRetry (attempt : Nat)
  | terminalPersistenceExhausted (attempt : Nat)
  deriving DecidableEq

section

variable [Primitives]

/-! ## The terminal writes of the worker -/

/-- `_finish_result`, `_fail` and `_cancel`. -/
inductive WorkerWrite where
  | finishResult (outcome : ScanOutcome) (receipt : ReceiptReference)
  | fail (code message : String) (receipt : ReceiptReference)
  | cancel
  deriving DecidableEq

namespace WorkerWrite

/-- The store call of the write, under the lease. -/
def call (write : WorkerWrite) (lease : LeasedScanJob) (now : Nat) :
    Store → Answer ScanJobRecord × Store :=
  match write with
  | .finishResult outcome receipt =>
    WebGuard.finishResult lease.record.jobId (some ⟨lease.workerId, lease.leaseToken⟩) outcome
      receipt now
  | .fail code message receipt =>
    WebGuard.fail lease.record.jobId (some ⟨lease.workerId, lease.leaseToken⟩) code message
      receipt now
  | .cancel => cancelRunning lease.record.jobId (some ⟨lease.workerId, lease.leaseToken⟩) now

/-- The same call as an operation of the store. -/
def op (write : WorkerWrite) (lease : LeasedScanJob) (now : Nat) : Op :=
  match write with
  | .finishResult outcome receipt =>
    .finishResult lease.record.jobId (some ⟨lease.workerId, lease.leaseToken⟩) outcome receipt now
  | .fail code message receipt =>
    .fail lease.record.jobId (some ⟨lease.workerId, lease.leaseToken⟩) code message receipt now
  | .cancel => .cancelRunning lease.record.jobId (some ⟨lease.workerId, lease.leaseToken⟩) now

theorem call_state (write : WorkerWrite) (lease : LeasedScanJob) (now : Nat) (s : Store) :
    (write.call lease now s).2 = s.apply (write.op lease now) := by
  cases write <;> rfl

/-- What is logged once the write has answered; a cancellation is not logged. -/
def events (write : WorkerWrite) (lease : LeasedScanJob) : List Event :=
  match write with
  | .finishResult outcome _ => [.jobCompleted lease.record.jobId outcome.scanId]
  | .fail code _ _ => [.jobFailed lease.record.jobId code]
  | .cancel => []

end WorkerWrite

/-- The write of the last handler. -/
def internalError : WorkerWrite :=
  .fail "worker_internal_error" "The scanner worker encountered an unexpected internal error." {}

/-! ## The machine -/

/-- Where `run_once` stands. -/
inductive Control where
  | starting
  | claiming
  | executing (lease : LeasedScanJob)
  /-- The executor is back, or an exception is on its way to the last handler. -/
  | ended (lease : LeasedScanJob) (execution : Execution)
  /-- Inside `_persist_terminal_state`, before the attempt of that number. -/
  | persisting (lease : LeasedScanJob) (write : WorkerWrite) (attempt : Nat)
  | returned (processed : Bool)
  | raised (error : Raised)

/-- The state shared by `run_once`, its monitor thread and everybody else. -/
structure RunState where
  store : Store
  control : Control := .starting
  /-- The cancellation token is set. -/
  cancelled : Bool := false
  /-- `lease_lost` is set. -/
  leaseLost : Bool := false
  /-- The monitor thread runs. -/
  monitoring : Bool := false
  events : List Event := []

/-- The configuration that `_validate_configuration` let pass. -/
structure Worker where
  workerId : String
  leaseSeconds : Nat
  maximumAttempts : Nat
  terminalPersistenceMaximumAttempts : Nat
  positive : 1 ≤ terminalPersistenceMaximumAttempts

/-- One thing that happens. -/
inductive Input where
  | environment (op : Op)
  | recover (now : Nat) (fault : Option (Fault Raised))
  | claim (now : Nat) (leaseToken : String) (fault : Option (Fault Raised))
  /-- The monitor asks for a cancellation; a read has nothing to commit. -/
  | monitorCheck (fault : Option Raised)
  | monitorRenew (now : Nat) (fault : Option (Fault Raised))
  | execute (execution : Execution)
  /-- `stop_monitor`, and what follows it up to the first store call. -/
  | proceed
  | persist (now : Nat) (fault : Option (Fault Raised))

namespace Worker

/-- The handler of `run_once` that the end of the executor leads to. -/
def afterExecution (c : RunState) (lease : LeasedScanJob) : Execution → Control
  | .returned outcome receipt =>
    if c.leaseLost then .returned true else .persisting lease (.finishResult outcome receipt) 1
  | .jobExecutionError code message receipt =>
    if c.leaseLost then .returned true
    else if c.cancelled || code == "job_cancelled_before_execution" then
      .persisting lease .cancel 1
    else .persisting lease (.fail code message receipt) 1
  | .raised error =>
    -- A `JobStoreError` passes through, whatever the flag says.
    if error.isJobStoreError then .raised error
    else if c.leaseLost then .returned true
    else .persisting lease internalError 1

/--
What an exception out of a terminal write leads to.

A `DatabaseError` is retried, a stale lease swallowed and any other `JobStoreError` passed on.
What is left reaches the last handler of `run_once` only from the result write, since the other
two writes are made inside a handler themselves.
-/
def afterFailure (w : Worker) (lease : LeasedScanJob) (write : WorkerWrite) (attempt : Nat)
    (error : Raised) : Control × List Event :=
  if error = .database then
    if w.terminalPersistenceMaximumAttempts ≤ attempt then
      (.returned true, [.terminalPersistenceExhausted attempt])
    else (.persisting lease write (attempt + 1), [.terminalPersistenceRetry attempt])
  else if error.isStaleLeaseError then (.returned true, [])
  else if error.isJobStoreError then (.raised error, [])
  else
    match write with
    | .finishResult _ _ => (.ended lease (.raised error), [])
    | _ => (.raised error, [])

/-- An exception in the monitor: lost lease, skipped cycle, or the end of the thread. -/
def afterMonitorFailure (c : RunState) (error : Raised) : RunState :=
  if error.isJobStoreError then { c with leaseLost := true, cancelled := true, monitoring := false }
  else if error = .database then c
  else { c with monitoring := false }

/-- The lease that the run works under. -/
def leaseOf : Control → Option LeasedScanJob
  | .executing lease => some lease
  | .ended lease _ => some lease
  | .persisting lease _ _ => some lease
  | _ => none

/-- One step of the machine; an input that does not fit the control point changes nothing. -/
def step (w : Worker) (c : RunState) : Input → RunState
  | .environment op => { c with store := c.store.apply op }
  | .recover now fault =>
    match c.control with
    | .starting =>
      match attempt .store fault (recoverExpiredLeases now w.maximumAttempts) c.store with
      | (.ok _, s) => { c with store := s, control := .claiming }
      | (.error error, s) => { c with store := s, control := .raised error }
    | _ => c
  | .claim now leaseToken fault =>
    match c.control with
    | .claiming =>
      match attempt .store fault (claimNextLeased now w.workerId w.leaseSeconds leaseToken)
          c.store with
      | (.ok none, s) => { c with store := s, control := .returned false }
      | (.ok (some lease), s) =>
        { c with
          store := s, control := .executing lease, monitoring := true
          cancelled := lease.record.cancellationRequested
          events := c.events ++ [.jobClaimed lease.record.jobId] }
      | (.error error, s) => { c with store := s, control := .raised error }
    | _ => c
  | .monitorCheck fault =>
    -- `join` gives the monitor up after a second, so a cycle can end later than the executor.
    match leaseOf c.control, c.monitoring with
    | some lease, true =>
      match fault, c.store.isCancellationRequested lease.record.jobId with
      | some error, _ => afterMonitorFailure c error
      | none, .error failure => afterMonitorFailure c (.store failure)
      | none, .ok requested => { c with cancelled := c.cancelled || requested }
    | _, _ => c
  | .monitorRenew now fault =>
    match leaseOf c.control, c.monitoring with
    | some lease, true =>
      match attempt .store fault
          (renewLease lease.record.jobId lease.workerId lease.leaseToken now w.leaseSeconds)
          c.store with
      | (.ok _, s) => { c with store := s }
      | (.error error, s) => afterMonitorFailure { c with store := s } error
    | _, _ => c
  | .execute execution =>
    match c.control with
    | .executing lease => { c with control := .ended lease execution }
    | _ => c
  | .proceed =>
    match c.control with
    | .ended lease execution => { c with control := afterExecution c lease execution }
    | _ => c
  | .persist now fault =>
    match c.control with
    | .persisting lease write number =>
      match attempt .store fault (write.call lease now) c.store with
      | (.ok _, s) =>
        { c with store := s, control := .returned true, events := c.events ++ write.events lease }
      | (.error error, s) =>
        { c with
          store := s
          control := (w.afterFailure lease write number error).1
          events := c.events ++ (w.afterFailure lease write number error).2 }
    | _ => c

/-- The run after a list of inputs. -/
abbrev runOnce (w : Worker) (s : Store) (inputs : List Input) : RunState :=
  Runs.run w.step { store := s } inputs

end Worker

end

end WebGuard
