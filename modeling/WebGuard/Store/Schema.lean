import WebGuard.Lib.Table
import WebGuard.Contracts.ScanSchedules

/-!
# The job database

The tables of `ScanJobStore` that its job, lease and schedule operations read or write, with
their keys, and the functions that turn a row back into a contract value.

Columns that hold an enumeration or a boolean have that type here: every statement of the store
writes such a column from a value of the enumeration. The columns of `scan_permits` that only
the permit document needs are left out.

SQLite takes the write lock at `BEGIN IMMEDIATE`, so a call is one step on the whole database.
-/

namespace WebGuard

open Relational

/-! ## Rows -/

/-- `scan_jobs`. -/
structure JobRow where
  jobId : String
  idempotencyKey : String
  requestFingerprint : String
  target : String
  authorizationId : String
  authorizationSha256 : String
  mode : ScanJobMode
  submittedAt : Nat
  state : ScanJobState
  updatedAt : Nat
  revision : Nat
  cancellationRequested : Bool
  startedAt : Option Nat := none
  completedAt : Option Nat := none
  scanId : Option String := none
  resultStatus : Option ScanStatus := none
  reportRef : Option String := none
  auditRef : Option String := none
  errorCode : Option String := none
  errorMessage : Option String := none
  workerId : Option String := none
  leaseToken : Option String := none
  leaseExpiresAt : Option Nat := none
  heartbeatAt : Option Nat := none
  attemptCount : Nat := 0
  deriving DecidableEq

/-- `job_scopes`. -/
structure ScopeRow where
  jobId : String
  organizationId : String
  submittedBy : String
  deriving DecidableEq

/-- `scan_permits`. -/
structure PermitRow where
  permitId : String
  organizationId : String
  authorizationId : String
  authorizationSha256 : String
  target : String
  issuedBy : String
  issuedAt : Nat
  notBefore : Nat
  expiresAt : Nat
  permitSha256 : String
  revokedAt : Option Nat := none
  revokedBy : Option String := none
  deriving DecidableEq

/-- `job_permits`. -/
structure JobPermitRow where
  jobId : String
  permitId : String
  permitSha256 : String
  deriving DecidableEq

/-- `schedule_permits`. -/
structure SchedulePermitRow where
  scheduleId : String
  permitId : String
  permitSha256 : String
  deriving DecidableEq

/-- `job_safety_receipts`. -/
structure SafetyReceiptRow where
  jobId : String
  receiptRef : String
  receiptSha256 : String
  createdAt : Nat
  deriving DecidableEq

/-- `scan_schedules`; its columns are the fields of the contract record. -/
abbrev ScheduleRow := ScanScheduleRecordFields

/-! ## The database -/

structure Store where
  scanJobs : Table JobRow [JobRow.jobId, JobRow.idempotencyKey]
  jobScopes : Table ScopeRow [ScopeRow.jobId]
  scanPermits : Table PermitRow [PermitRow.permitId, PermitRow.permitSha256]
  jobPermits : Table JobPermitRow [JobPermitRow.jobId]
  scanSchedules : Table ScheduleRow [ScanScheduleRecordFields.scheduleId]
  schedulePermits : Table SchedulePermitRow [SchedulePermitRow.scheduleId]
  jobSafetyReceipts : Table SafetyReceiptRow [SafetyReceiptRow.jobId]
  /-- `organization_authorizations` of the identity service, `none` where the table is missing. -/
  organizationAuthorizations : Option (List (String × String))

/-- What a call raises instead of answering. -/
inductive Failure where
  /-- `JobStoreError`. -/
  | jobStore (code message : String)
  /-- An error of the contract classes, passed through. -/
  | contract (error : ContractError)
  /-- `OverflowError` of date arithmetic. -/
  | overflow
  /-- A failed `assert`. -/
  | assertion
  deriving DecidableEq

abbrev Answer (α : Type) := Except Failure α

def jobStoreError {α : Type} (code message : String) : Answer α := .error (.jobStore code message)

/-- `if row is None: raise ...`. -/
def found {α : Type} (row : Option α) (failure : Failure) : Answer α :=
  match row with
  | some a => .ok a
  | none => .error failure

@[simp] theorem found_eq_ok {α : Type} {row : Option α} {failure : Failure} {a : α} :
    found row failure = .ok a ↔ row = some a := by
  cases row <;> simp [found]

/-- `if not condition: raise ...`. -/
def ensure (condition : Bool) (failure : Failure) : Answer Unit :=
  if condition then .ok () else .error failure

@[simp] theorem ensure_eq_ok {condition : Bool} {failure : Failure} {u : Unit} :
    ensure condition failure = .ok u ↔ condition = true := by
  cases condition <;> simp [ensure]

/-- A contract constructor called by the store. -/
def checked {α : Type} (value : Checked α) : Answer α := value.mapError .contract

@[simp] theorem checked_eq_ok {α : Type} {value : Checked α} {a : α} :
    checked value = .ok a ↔ value = .ok a := by
  cases value <;> simp [checked, Atomic.mapError_ok, Atomic.mapError_error]

/-- `moment + timedelta(...)`. -/
def addMicroseconds (moment duration : Nat) : Answer Nat :=
  if moment + duration < datetimeEnd then .ok (moment + duration) else .error .overflow

theorem addMicroseconds_eq_ok {moment duration later : Nat}
    (h : addMicroseconds moment duration = .ok later) : later = moment + duration := by
  unfold addMicroseconds at h
  split at h
  · exact (Except.ok.inj h).symm
  · simp at h

variable {row : JobRow}

namespace Store

def empty : Store where
  scanJobs := .empty
  jobScopes := .empty
  scanPermits := .empty
  jobPermits := .empty
  scanSchedules := .empty
  schedulePermits := .empty
  jobSafetyReceipts := .empty
  organizationAuthorizations := none

/-- `SELECT * FROM scan_jobs WHERE job_id = ?`. -/
def job (s : Store) (jobId : String) : Option JobRow := s.scanJobs.get? JobRow.jobId jobId

/-- The permit a job is bound to. -/
def binding (s : Store) (jobId : String) : Option JobPermitRow :=
  s.jobPermits.get? JobPermitRow.jobId jobId

/-- `SELECT * FROM scan_schedules WHERE schedule_id = ?`. -/
def schedule (s : Store) (scheduleId : String) : Option ScheduleRow :=
  s.scanSchedules.get? ScanScheduleRecordFields.scheduleId scheduleId

theorem job_eq_some_iff {s : Store} {jobId : String} :
    s.job jobId = some row ↔ row ∈ s.scanJobs.rows ∧ row.jobId = jobId :=
  Table.get?_eq_some_iff (by simp)

theorem jobId_of_job {s : Store} {jobId : String} (h : s.job jobId = some row) :
    row.jobId = jobId := (job_eq_some_iff.mp h).2

theorem scheduleId_of_schedule {s : Store} {scheduleId : String} {row : ScheduleRow}
    (h : s.schedule scheduleId = some row) : row.scheduleId = scheduleId :=
  Table.column_of_get? h

/-! ## INSERT

A foreign key is checked with the insert, as `PRAGMA foreign_keys = ON` asks.
-/

def insertJob (s : Store) (row : JobRow) : Option Store :=
  (s.scanJobs.insert row).map fun t => { s with scanJobs := t }

def insertScope (s : Store) (row : ScopeRow) : Option Store :=
  if (s.job row.jobId).isSome then
    (s.jobScopes.insert row).map fun t => { s with jobScopes := t }
  else none

def insertJobPermit (s : Store) (row : JobPermitRow) : Option Store :=
  if (s.job row.jobId).isSome && (s.scanPermits.get? PermitRow.permitId row.permitId).isSome then
    (s.jobPermits.insert row).map fun t => { s with jobPermits := t }
  else none

def insertPermit (s : Store) (row : PermitRow) : Option Store :=
  (s.scanPermits.insert row).map fun t => { s with scanPermits := t }

def insertSchedule (s : Store) (row : ScheduleRow) : Option Store :=
  (s.scanSchedules.insert row).map fun t => { s with scanSchedules := t }

def insertSchedulePermit (s : Store) (row : SchedulePermitRow) : Option Store :=
  if (s.schedule row.scheduleId).isSome
      && (s.scanPermits.get? PermitRow.permitId row.permitId).isSome then
    (s.schedulePermits.insert row).map fun t => { s with schedulePermits := t }
  else none

def insertSafetyReceipt (s : Store) (row : SafetyReceiptRow) : Option Store :=
  if (s.job row.jobId).isSome then
    (s.jobSafetyReceipts.insert row).map fun t => { s with jobSafetyReceipts := t }
  else none

/-! ## UPDATE -/

/-- `UPDATE scan_jobs SET f WHERE job_id = ? AND guard`, with the row count. -/
def updateJob (s : Store) (jobId : String) (guard : JobRow → Bool) (f : JobRow → JobRow)
    (keeps : ∀ r, (f r).jobId = r.jobId ∧ (f r).idempotencyKey = r.idempotencyKey) :
    Store × Nat :=
  let result := s.scanJobs.update JobRow.jobId jobId guard f (by
    intro c hc r
    simp only [List.mem_cons, List.not_mem_nil, or_false] at hc
    rcases hc with rfl | rfl
    · exact (keeps r).1
    · exact (keeps r).2)
  ({ s with scanJobs := result.1 }, result.2)

/-- An update that leaves the schedule's identifier leaves every unique column of the table. -/
theorem keepsScheduleId (f : ScheduleRow → ScheduleRow)
    (keeps : ∀ r, (f r).scheduleId = r.scheduleId) :
    ∀ c ∈ [ScanScheduleRecordFields.scheduleId], ∀ r, c (f r) = c r := by
  intro c hc r
  simp only [List.mem_cons, List.not_mem_nil, or_false] at hc
  rw [hc]
  exact keeps r

/-- `UPDATE scan_schedules SET f WHERE schedule_id = ? AND guard`, with the row count. -/
def updateSchedule (s : Store) (scheduleId : String) (guard : ScheduleRow → Bool)
    (f : ScheduleRow → ScheduleRow) (keeps : ∀ r, (f r).scheduleId = r.scheduleId) :
    Store × Nat :=
  let result := s.scanSchedules.update ScanScheduleRecordFields.scheduleId scheduleId guard f
    (keepsScheduleId f keeps)
  ({ s with scanSchedules := result.1 }, result.2)

section UpdateJob

variable {s : Store} {jobId : String} {guard : JobRow → Bool} {f : JobRow → JobRow}
  {keeps : ∀ r, (f r).jobId = r.jobId ∧ (f r).idempotencyKey = r.idempotencyKey}

theorem job_updateJob (j : String) :
    (s.updateJob jobId guard f keeps).1.job j
      = if j = jobId then (s.job jobId).map (fun r => if guard r = true then f r else r)
        else s.job j := by
  simp only [updateJob, job]
  rw [Table.get?_update_self (by simp)]

theorem job_updateJob_of_guard (h : s.job jobId = some row) (hg : guard row = true) (j : String) :
    (s.updateJob jobId guard f keeps).1.job j = if j = jobId then some (f row) else s.job j := by
  rw [job_updateJob, h, Option.map_some, if_pos hg]

theorem updateJob_count (h : s.job jobId = some row) :
    (s.updateJob jobId guard f keeps).2 = if guard row = true then 1 else 0 := by
  unfold updateJob
  rw [Table.update_count (by simp) h]

end UpdateJob

section UpdateSchedule

variable {s : Store} {scheduleId : String} {guard : ScheduleRow → Bool}
  {f : ScheduleRow → ScheduleRow} {keeps : ∀ r, (f r).scheduleId = r.scheduleId}

theorem schedule_updateSchedule (j : String) :
    (s.updateSchedule scheduleId guard f keeps).1.schedule j
      = if j = scheduleId then
          (s.schedule scheduleId).map (fun r => if guard r = true then f r else r)
        else s.schedule j := by
  simp only [updateSchedule, schedule]
  rw [Table.get?_update_self (by simp)]

theorem updateSchedule_count :
    (s.updateSchedule scheduleId guard f keeps).2 = 1 ↔
      ∃ r, s.schedule scheduleId = some r ∧ guard r = true := by
  simp only [updateSchedule, schedule]
  rw [Table.update_count_eq_one (by simp)]

end UpdateSchedule

end Store

/-! ## Rows read back -/

def persistedStateInvalid : Failure :=
  .jobStore "job_store_persisted_state_invalid" "Persisted job-store state is invalid."

def jobNotFound : Failure := .jobStore "job_not_found" "Scan job was not found."

/-- The columns a `ScanJobRequest` is rebuilt from. -/
def JobRow.requestFields (row : JobRow) : ScanJobRequestFields where
  idempotencyKey := row.idempotencyKey
  target := row.target
  authorizationId := row.authorizationId
  authorizationSha256 := row.authorizationSha256
  mode := row.mode
  submittedAt := row.submittedAt

variable [Primitives]

/-- The fields a `ScanJobRecord` is rebuilt from, for the request already rebuilt. -/
def JobRow.recordFields (row : JobRow) (request : ScanJobRequest) : ScanJobRecordFields where
  jobId := row.jobId
  request := request
  state := row.state
  updatedAt := row.updatedAt
  revision := row.revision
  cancellationRequested := row.cancellationRequested
  startedAt := row.startedAt
  completedAt := row.completedAt
  scanId := row.scanId
  resultStatus := row.resultStatus
  reportRef := row.reportRef
  auditRef := row.auditRef
  errorCode := row.errorCode
  errorMessage := row.errorMessage

/--
`_record_from_row`.

An error of the request is turned into one of the store; an error of the record is passed
through.
-/
def recordFromRow (row : JobRow) : Answer ScanJobRecord :=
  match ScanJobRequest.new row.requestFields with
  | .error _ => .error persistedStateInvalid
  | .ok request => checked (ScanJobRecord.new (row.recordFields request))

theorem recordFromRow_keeps {record : ScanJobRecord} (h : recordFromRow row = .ok record) :
    record.jobId = row.jobId ∧ record.state = row.state ∧ record.revision = row.revision ∧
      record.startedAt = row.startedAt ∧ record.request.submittedAt = row.submittedAt := by
  unfold recordFromRow at h
  split at h
  · simp at h
  · next request hrequest =>
    rw [checked_eq_ok, ScanJobRecord.new_eq_ok] at h
    rw [ScanJobRequest.new_eq_ok, ScanJobRequestFields.postInit_eq_ok] at hrequest
    obtain ⟨hid, hreq, hstate, -, hrev, -, hstarted, -, -⟩ := ScanJobRecordFields.postInit_keeps h
    refine ⟨hid, hstate, hrev, hstarted, ?_⟩
    rw [hreq]
    exact hrequest.2.2.2.2.2.2.2

structure LeasedScanJob where
  record : ScanJobRecord
  workerId : String
  leaseToken : String
  leaseExpiresAt : Nat
  attemptCount : Nat

def leaseFromRow (row : JobRow) : Answer LeasedScanJob :=
  match row.workerId, row.leaseToken, row.leaseExpiresAt with
  | some workerId, some leaseToken, some expiresAt => do
    let record ← recordFromRow row
    return { record, workerId, leaseToken, leaseExpiresAt := expiresAt,
             attemptCount := row.attemptCount }
  | _, _, _ =>
    jobStoreError "job_lease_metadata_invalid"
      "The running job does not contain complete lease metadata."

def scheduleFromRow (row : ScheduleRow) : Answer ScanScheduleRecord :=
  checked (ScanScheduleRecord.new row)

/-! ## Arguments -/

/-- `_worker_id`: the cleaned name, of 1 to 128 visible ASCII characters. -/
def checkWorkerId (value : String) : Answer String :=
  let result := strip value
  if result.toList.isEmpty || 128 < result.toList.length
      || result.toList.any (fun c => c.toNat < 33 || 126 < c.toNat) then
    jobStoreError "job_worker_id_invalid"
      "worker_id must contain 1 to 128 visible ASCII characters."
  else .ok result

/-- `_lease_seconds`, with the duration in microseconds. -/
def checkLeaseSeconds (duration : Nat) : Answer Nat :=
  if 100000 ≤ duration && duration ≤ 3600 * second then .ok duration
  else
    jobStoreError "job_lease_duration_invalid" "lease_seconds must be from 0.1 to 3600 seconds."

/-- `_maximum_attempts`. -/
def checkMaximumAttempts (value : Nat) : Answer Nat :=
  if 1 ≤ value && value ≤ 100 then .ok value
  else jobStoreError "job_maximum_attempts_invalid" "maximum_attempts must be from 1 to 100."

omit [Primitives] in
theorem checkMaximumAttempts_eq_ok {value limit : Nat} :
    checkMaximumAttempts value = .ok limit ↔ limit = value ∧ 1 ≤ value ∧ value ≤ 100 := by
  unfold checkMaximumAttempts
  split
  · next h =>
    rw [Bool.and_eq_true, decide_eq_true_eq, decide_eq_true_eq] at h
    simp [h, eq_comm]
  · next h =>
    rw [Bool.and_eq_true, decide_eq_true_eq, decide_eq_true_eq] at h
    simp [h, jobStoreError]

end WebGuard
