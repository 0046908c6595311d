import WebGuard.Lib.Run
import WebGuard.Lib.UniqueInsert
import WebGuard.Postgres.Jobs

/-!
# Submissions on PostgreSQL

`submit` of `PostgresJobRepository`, statement by statement: the lookup of the key, the `INSERT`,
the check of the permit with its binding, and the last `SELECT` with the end of the `with` block.
Other sessions run between the statements; the unique indexes on `job_id` and `idempotency_key`
are all that orders two inserts.

The `INSERT` stands in a `try` whose handler is for `DatabaseIntegrityError`. The driver raises
its own exception there, `psycopg.errors.UniqueViolation`, and it is translated where the
connection context ends (`normalize`), outside that `try`.

Identifiers are values of the column type `uuid`, in their canonical form. The columns that decide
an answer are written once, so the lookup, with the reads of the scope and the binding that follow
it, is one step.
-/

namespace WebGuard

open UniqueInsert

/-- What a call of the repository raises. -/
inductive PgFailure where
  | raised (failure : Failure)
  /-- A `DatabaseError` of `db_errors.py`. -/
  | database (code message : String)
  deriving DecidableEq

/-- The failure is a `JobStoreError`. -/
def PgFailure.IsJobStoreError (failure : PgFailure) : Prop :=
  ∃ code message, failure = .raised (.jobStore code message)

/-- `normalize` of an integrity error of the driver. -/
def databaseIntegrityError (message : String) : PgFailure :=
  .database "database_integrity_violation" message

/-- Two rows of `scan_jobs` that one of the unique indexes keeps apart. -/
def PgJob.clash (a b : PgJob) : Bool :=
  a.row.jobId == b.row.jobId || a.row.idempotencyKey == b.row.idempotencyKey

variable [Primitives]

/-- `_record_from_row`; whatever a constructor raises becomes one error of the store. -/
def pgRecordFromRow (row : JobRow) : Answer ScanJobRecord :=
  match recordFromRow row with
  | .ok record => .ok record
  | .error _ => .error persistedStateInvalid

/-- The arguments of `submit`; `jobId` is the caller's or the `uuid4` drawn in its place. -/
structure SubmitCall where
  request : ScanJobRequest
  jobId : String
  organizationId : Option String := none
  submittedBy : Option String := none
  permitId : Option String := none
  permitSha256 : Option String := none

namespace SubmitCall

def key (call : SubmitCall) : String := call.request.idempotencyKey

/-- `permit_id` and `permit_sha256`, which the argument check has found together. -/
def binding (call : SubmitCall) : Option (String × String) :=
  match call.permitId, call.permitSha256 with
  | some permitId, some permitSha256 => some (permitId, permitSha256)
  | _, _ => none

/-- The rows that the call inserts into `scan_jobs` and `job_permits`. -/
def job (call : SubmitCall) : PgJob where
  row := newJobRow call.jobId call.request call.request.submittedAt
  organizationId := call.organizationId
  binding := call.binding

/-- The answer to a key that is already in use. -/
def existingAnswer (call : SubmitCall) (existing : PgJob) : Answer ScanJobRecord := do
  let record ← pgRecordFromRow existing.row
  ensure (existing.row.requestFingerprint == call.request.fingerprint)
    (idempotencyConflict "The idempotency key was already used for a different request.")
  ensure (call.organizationId.all fun organization =>
      existing.organizationId == some organization)
    (idempotencyConflict "The idempotency key was already used outside this organization.")
  ensure (call.permitId.all fun permitId =>
      existing.binding.any fun b => b.1 == permitId && some b.2 == call.permitSha256)
    (idempotencyConflict
      "The idempotency key was already used with a different TrustScan permit.")
  return record

end SubmitCall

/-- Where a session stands: the statement that comes next. -/
inductive SubmitSession where
  | idle
  | lookup (call : SubmitCall)
  | insert (call : SubmitCall)
  | bindPermit (call : SubmitCall)
  | reread (call : SubmitCall)

/-- What a call has come to: a record, with whether it was created, or an exception. -/
abbrev SubmitOutcome := Except PgFailure (ScanJobRecord × Bool)

structure SubmitDesk (T : Type) where
  jobs : Heap PgJob T
  permits : List PermitRow
  organizations : List String
  principals : List String
  session : T → SubmitSession
  /-- The calls that have ended, with what their callers got. -/
  outcomes : List (SubmitCall × SubmitOutcome)

/-- One step of one session, or of somebody outside. -/
inductive SubmitInput (T : Type) where
  | administer (permits : List PermitRow) (organizations principals : List String)
  | submit (t : T) (call : SubmitCall)
  | advance (t : T)
  /-- The process of the session dies; its caller gets nothing. -/
  | crash (t : T)

namespace SubmitDesk

variable {T : Type} [DecidableEq T]

def empty : SubmitDesk T where
  jobs := .empty
  permits := []
  organizations := []
  principals := []
  session := fun _ => .idle
  outcomes := []

def enter (s : SubmitDesk T) (t : T) (next : SubmitSession) : SubmitDesk T :=
  { s with session := fun t' => if t' = t then next else s.session t' }

/-- The call ends, with its transaction. -/
def finish (s : SubmitDesk T) (t : T) (call : SubmitCall) (outcome : SubmitOutcome) :
    SubmitDesk T :=
  { s.enter t .idle with outcomes := (call, outcome) :: s.outcomes }

/-- An exception leaves the `with` block: the transaction is rolled back. -/
def raise (s : SubmitDesk T) (t : T) (call : SubmitCall) (failure : PgFailure) : SubmitDesk T :=
  { s with jobs := s.jobs.abort t }.finish t call (.error failure)

/-- The organisation and the principal are given, as the columns ask, and are there. -/
def referenced (s : SubmitDesk T) (call : SubmitCall) : Bool :=
  call.organizationId.any (s.organizations.contains ·)
    && call.submittedBy.any (s.principals.contains ·)

/-- The `SELECT` by key, and the answer from the row it finds. -/
def lookup (s : SubmitDesk T) (t : T) (call : SubmitCall) : SubmitDesk T :=
  match s.jobs.committed.find? (fun job => job.row.idempotencyKey == call.key) with
  | some existing =>
    match call.existingAnswer existing with
    | .ok record => s.finish t call (.ok (record, false))
    | .error failure => s.raise t call (.raised failure)
  | none => s.enter t (.insert call)

/-- The `INSERT INTO scan_jobs`. -/
def insert (s : SubmitDesk T) (t : T) (call : SubmitCall) : SubmitDesk T :=
  if call.organizationId.isNone || call.submittedBy.isNone then
    s.raise t call (databaseIntegrityError "The operation violates a database constraint.")
  else
    match s.jobs.tryInsert PgJob.clash t call.job with
    | .violation =>
      s.raise t call (databaseIntegrityError "The operation violates a uniqueness constraint.")
    | .waits => s
    | .inserted =>
      if s.referenced call then
        { s with jobs := s.jobs.push t call.job }.enter t (.bindPermit call)
      else
        s.raise t call
          (databaseIntegrityError "The operation references a row that does not exist.")

/-- The permit is looked up, and the binding inserted; the job carries it from the start. -/
def bindPermit (s : SubmitDesk T) (t : T) (call : SubmitCall) : SubmitDesk T :=
  if call.binding.all (fun b => s.permits.any fun p =>
      p.permitId == b.1 && some p.organizationId == call.organizationId && p.permitSha256 == b.2)
  then s.enter t (.reread call)
  else
    s.raise t call (.raised (.jobStore "trustscan_permit_not_found"
      "TrustScan permit was not found for this organization."))

/-- The last `SELECT` and the commit; the row is decoded after it. -/
def reread (s : SubmitDesk T) (t : T) (call : SubmitCall) : SubmitDesk T :=
  { s with jobs := s.jobs.commit t }.finish t call
    (match pgRecordFromRow call.job.row with
      | .ok record => .ok (record, true)
      | .error failure => .error (.raised failure))

def step (s : SubmitDesk T) : SubmitInput T → SubmitDesk T
  | .administer permits organizations principals =>
    { s with permits := permits, organizations := organizations, principals := principals }
  | .submit t call =>
    match s.session t with
    | .idle =>
      match submitArguments call.organizationId call.submittedBy call.permitId
        call.permitSha256 with
      | .ok () => s.enter t (.lookup call)
      | .error failure => s.finish t call (.error (.raised failure))
    | _ => s
  | .advance t =>
    match s.session t with
    | .idle => s
    | .lookup call => s.lookup t call
    | .insert call => s.insert t call
    | .bindPermit call => s.bindPermit t call
    | .reread call => s.reread t call
  | .crash t => { s with jobs := s.jobs.abort t }.enter t .idle

/-- The desk after a list of inputs. -/
abbrev run (s : SubmitDesk T) (inputs : List (SubmitInput T)) : SubmitDesk T :=
  Runs.run step s inputs

end SubmitDesk

end WebGuard
