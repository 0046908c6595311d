import WebGuard.Postgres.Moves

/-!
# Scan records beside the jobs

`create_scan` and `complete_scan` of `PostgresScanRepository`, and the `UPDATE scan_records` that
`terminal_transition` and `recover_expired_leases` make in the transaction that fails or cancels a
job. The job statements are those of `WebGuard.Postgres.Jobs`; a desk runs them beside the table of
scan records, statement by statement, and for an `UPDATE` of several records row by row.

`create_scan` inserts a record for whatever job it is given, and `complete_scan` updates a record
whatever it holds: neither looks at the job, nor at `completed_at`. The foreign key of the record
takes a lock that an `UPDATE` of the job's state does not conflict with.

Of the columns, those are modelled that one of these statements writes or tests.
-/

namespace WebGuard

open Mvcc

/-- A row of `scan_records`. -/
structure ScanRecordRow where
  scanId : String
  organizationId : String
  jobId : String
  status : ScanStatus
  startedAt : Nat
  completedAt : Option Nat := none
  reportRef : Option String := none
  findingCount : Nat := 0
  deriving DecidableEq

/-- The arguments of `complete_scan`. -/
structure CompleteScan where
  scanId : String
  organizationId : String
  status : ScanStatus
  reportRef : Option String
  findingCount : Nat
  now : Nat

/-- `UPDATE scan_records ... WHERE job_id = ? AND completed_at IS NULL`, for a job that ended. -/
structure Reconcile where
  jobId : String
  status : ScanStatus
  moment : Nat

namespace ScanRecordRow

/-- The row that `create_scan` inserts. -/
def created (scanId organizationId jobId : String) (now : Nat) : ScanRecordRow where
  scanId := scanId
  organizationId := organizationId
  jobId := jobId
  status := .running
  startedAt := now

/-- The `SET` clause of `complete_scan`. -/
def complete (r : ScanRecordRow) (c : CompleteScan) : ScanRecordRow :=
  { r with
    status := c.status, completedAt := some c.now, reportRef := c.reportRef,
    findingCount := c.findingCount }

/-- The `SET` clause of the reconciliation. -/
def reconcile (r : ScanRecordRow) (e : Reconcile) : ScanRecordRow :=
  { r with status := e.status, completedAt := r.completedAt.or (some e.moment) }

end ScanRecordRow

def CompleteScan.statement (c : CompleteScan) : Update String ScanRecordRow where
  key := c.scanId
  guard := fun r => r.organizationId == c.organizationId
  set := fun r => r.complete c

/-- The reconciliation at one record; a record that changed meanwhile is looked at again. -/
def Reconcile.statement (e : Reconcile) (scanId : String) : Update String ScanRecordRow where
  key := scanId
  guard := fun r => r.jobId == e.jobId && r.completedAt.isNone
  set := fun r => r.reconcile e

/-- The scan status of a job state that a worker function reconciles records with. -/
def ScanJobState.reconciled : ScanJobState → Option ScanStatus
  | .failed => some .failed
  | .cancelled => some .cancelled
  | _ => none

/-- What a session is doing with scan records. -/
inductive RecordWork where
  | none
  /-- `create_scan`: the row is inserted, the commit comes next. -/
  | inserting (record : ScanRecordRow)
  /-- `complete_scan`: the `UPDATE` comes next. -/
  | completing (scan : CompleteScan)
  | completed
  /-- The job was updated, and the `UPDATE` of its records comes next. -/
  | reconciling (e : Reconcile)
  /-- Inside that `UPDATE`, with the records it has yet to try. -/
  | touching (e : Reconcile) (rest : List String)

structure ScanDesk (T : Type) where
  cluster : Cluster T
  records : Database String ScanRecordRow T
  work : T → RecordWork
  /-- The reconciliation that a terminal transition will make, if its `UPDATE` meets the job. -/
  plan : T → Option Reconcile

namespace ScanDesk

variable {T : Type} [DecidableEq T]

def empty : ScanDesk T where
  cluster := Cluster.empty
  records := Database.empty
  work := fun _ => .none
  plan := fun _ => none

def turn (s : ScanDesk T) (t : T) (next : RecordWork) : ScanDesk T :=
  { s with work := fun t' => if t' = t then next else s.work t' }

def expect (s : ScanDesk T) (t : T) (next : Option Reconcile) : ScanDesk T :=
  { s with plan := fun t' => if t' = t then next else s.plan t' }

/-- A session that is in no transaction. -/
def free (s : ScanDesk T) (t : T) : Bool :=
  match s.work t, s.cluster.session t with
  | .none, .idle => true
  | _, _ => false

/-- The records that the `UPDATE` finds in its snapshot. -/
def openRecords (s : ScanDesk T) (t : T) (jobId : String) : List String :=
  s.records.keys.filter fun k =>
    (s.records.view t k).any fun r => r.jobId == jobId && r.completedAt.isNone

/-- The reconciliation that a terminal transition asks for, from the row it has read. -/
def planned (s : ScanDesk T) (t : T) (jobId : String) (write : PgTerminalWrite) (now : Nat) :
    Option Reconcile :=
  match write.toTerminalWrite.state.reconciled, s.cluster.db.view t jobId with
  | some status, some job =>
    some
      { jobId, status
        moment := noEarlierThan now (job.row.startedAt.getD job.row.submittedAt) }
  | _, _ => none

/-- The reconciliation that the statement a session is about to make calls for. -/
def due (s : ScanDesk T) (t : T) : Option Reconcile :=
  match s.cluster.session t with
  | .updating u =>
    if s.cluster.db.available t u.key && (s.cluster.db.view t u.key).any (fun job =>
      u.guard job.row) then s.plan t
    else none
  | .recovering now limit (jobId :: _) =>
    if s.cluster.db.available t jobId then
      (s.cluster.db.view t jobId).bind fun job =>
        if job.row.leaseExpired now && job.row.leaseToken.isSome then
          (job.row.recovered now limit).state.reconciled.map fun status =>
            { jobId, status, moment := noEarlierThan now job.row.submittedAt }
        else none
    else none
  | _ => none

/-- The next statement of a session. -/
def advance (s : ScanDesk T) (t : T) : ScanDesk T :=
  match s.work t with
  | .inserting _ => s
  | .completed => s
  | .completing c =>
    if s.records.available t c.scanId then
      { s with records := (s.records.update t c.statement).1 }.turn t .completed
    else s
  | .reconciling e => s.turn t (.touching e (s.openRecords t e.jobId))
  | .touching _ [] => s.turn t .none
  | .touching e (k :: rest) =>
    if s.records.available t k then
      { s with records := (s.records.update t (e.statement k)).1 }.turn t (.touching e rest)
    else s
  | .none =>
    { s with cluster := s.cluster.advance t }.turn t
      (match s.due t with
        | some e => .reconciling e
        | none => .none)

section

variable [Primitives]

/-- One step of one session, or of somebody outside. -/
inductive Input (T : Type) where
  /-- A statement, or the beginning or end of a transaction, on the jobs. -/
  | job (input : PgInput T)
  | createScan (t : T) (scanId organizationId jobId : String) (now : Nat)
  | completeScan (t : T) (scan : CompleteScan)

/-- The end of a transaction that has nothing left to do. -/
def commit (s : ScanDesk T) (t : T) : ScanDesk T :=
  match s.work t with
  | .inserting record =>
    { s with records := s.records.insert record.scanId record }.turn t .none
  | .completed => { s with records := s.records.commit t }.turn t .none
  | .none =>
    match s.cluster.session t with
    | .claimed _ =>
      { s with cluster := s.cluster.step (.commit t), records := s.records.commit t }
    | .finished =>
      { s with cluster := s.cluster.step (.commit t), records := s.records.commit t }
    | _ => s
  | _ => s

def step (s : ScanDesk T) : Input T → ScanDesk T
  | .createScan t scanId organizationId jobId now =>
    -- The foreign key asks for the job, the primary key for a new identifier.
    if s.free t && (s.cluster.db.committed jobId).isSome
        && (s.records.committed scanId).isNone then
      s.turn t (.inserting (.created scanId organizationId jobId now))
    else s
  | .completeScan t scan => if s.free t then s.turn t (.completing scan) else s
  | .job (.advance t) => s.advance t
  | .job (.commit t) => s.commit t
  | .job (.abort t) =>
    ({ s with cluster := s.cluster.step (.abort t), records := s.records.abort t }.turn t
      .none).expect t none
  | .job (.terminalUpdate t jobId write now) =>
    if s.free t then
      { s with cluster := s.cluster.step (.terminalUpdate t jobId write now) }.expect t
        (s.planned t jobId write now)
    else s
  | .job input =>
    match Cluster.owner input with
    | some t =>
      if s.free t then { s with cluster := s.cluster.step input }.expect t none else s
    | none => { s with cluster := s.cluster.step input }

/-- The desk after a list of inputs. -/
abbrev run (s : ScanDesk T) (inputs : List (Input T)) : ScanDesk T := Runs.run step s inputs

end

end ScanDesk

end WebGuard
