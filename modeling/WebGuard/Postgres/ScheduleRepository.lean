import WebGuard.Postgres.Repository
import WebGuard.Store.Schedules
import WebGuard.Lib.PgNumeric

/-!
# Schedules on PostgreSQL

`enqueue_due_schedule` and `block_due_schedule` of `PostgresScheduleRepository`, with the functions
of `webguard_control` that they call, each run to its end before the next begins.

The function of an enqueue inserts the job, binds its permit and advances the schedule. The
method reads the shape of the request before it and builds both records after it; the errors of
the contract classes pass through, where the job methods wrap them.
-/

namespace WebGuard

open Relational Atomic

namespace PgStore

/-- `UPDATE scan_schedules SET f WHERE schedule_id = ... AND guard`, with the row count. -/
def updateSchedule (p : PgStore) (scheduleId : String) (guard : ScheduleRow → Bool)
    (f : ScheduleRow → ScheduleRow) (keeps : ∀ r, (f r).scheduleId = r.scheduleId) :
    PgAnswer (PgStore × Nat) :=
  if (p.schedule scheduleId).all (fun r => !guard r || isInteger (f r).revision) then
    let updated := p.scanSchedules.update ScanScheduleRecordFields.scheduleId scheduleId guard f
      (Store.keepsScheduleId f keeps)
    .ok ({ p with scanSchedules := updated.1 }, updated.2)
  else .error databaseFailed

/-- `INSERT INTO job_permits`. -/
def insertJobPermit (p : PgStore) (row : JobPermitRow) : PgAnswer PgStore :=
  match p.jobPermits.insert row with
  | none => .error (databaseIntegrityError "The operation violates a uniqueness constraint.")
  | some t =>
    if (p.scanPermits.get? PermitRow.permitId row.permitId).isSome then
      .ok { p with jobPermits := t }
    else .error (databaseIntegrityError "The operation references a row that does not exist.")

end PgStore

/-! ## Blocking -/

/-- A parameter of type `integer`; the function takes no larger number. -/
def integerParameter (n : Nat) : PgAnswer Unit :=
  if isInteger n then .ok () else .error databaseFailed

def Control.blockDueSchedule (scheduleId : String) (expectedRevision : Nat) (errorCode : String)
    (now : Nat) (p : PgStore) : PgAnswer (Option ScheduleRow × PgStore) := do
  integerParameter expectedRevision
  let (p', updated) ← p.updateSchedule scheduleId
    (fun r => r.revision == expectedRevision && r.state == .active)
    (fun r => scheduleBlocked r errorCode now) (scheduleBlocked_keeps errorCode now)
  if updated != 1 then return (none, p') else return (p'.schedule scheduleId, p')

def PgStore.blockDueSchedule [Primitives] (scheduleId : String) (expectedRevision : Nat)
    (errorCode : String) (now : Nat) (p : PgStore) :
    PgAnswer (Option ScanScheduleRecord) × PgStore :=
  transaction (Control.blockDueSchedule scheduleId expectedRevision errorCode now)
    (fun answer _ => answer.elim (.ok none) fun row => (raising (scheduleFromRow row)).map some) p

/-! ## Enqueueing -/

/-- The column `outcome` of `enqueue_due_schedule`. -/
inductive EnqueueOutcome where
  | notDue
  | authorizationNotAssigned
  | bindingChanged
  | permitInvalid
  | raced
  | scheduleConflict
  | ok (schedule : ScheduleRow) (job : PgJobRow)

/-- The decimals of `extract(epoch FROM …) / v_interval_seconds`; the epoch has six. -/
def Control.intervalsScale (elapsed intervalSeconds : Nat) : Nat :=
  PgNumeric.divisionScale (elapsed / second) intervalSeconds 6

/-- The next run; the quotient is a `numeric` and the cast to `integer` rounds it. -/
def Control.nextRunAt (scheduledFor intervalSeconds now : Nat) : Nat :=
  let interval := intervalMicroseconds intervalSeconds
  if scheduledFor + interval ≤ now then
    scheduledFor + interval * (PgNumeric.toInteger (now - scheduledFor) interval
      (Control.intervalsScale (now - scheduledFor) intervalSeconds) + 1)
  else scheduledFor + interval

/-- The row that the function inserts into `scan_jobs`. -/
def Control.enqueuedJob (request : EnqueueRequest) (schedule : ScheduleRow) (jobId : String)
    (requestFingerprint : String) (now : Nat) : PgJobRow where
  jobId := jobId
  idempotencyKey := scheduleKey request.scheduleId schedule.nextRunAt
  requestFingerprint := requestFingerprint
  target := schedule.target
  authorizationId := schedule.authorizationId
  authorizationSha256 := request.authorizationSha256
  mode := schedule.mode
  submittedAt := now
  state := .queued
  updatedAt := now
  revision := 0
  cancellationRequested := false
  organizationId := some schedule.organizationId

/-- The checks of the function, in their order. -/
def Control.enqueueRefusal (request : EnqueueRequest) (schedule : ScheduleRow) (now : Nat)
    (p : PgStore) : Option EnqueueOutcome :=
  if schedule.state != .active || schedule.revision != request.expectedRevision
      || now < schedule.nextRunAt then some .notDue
  else if !p.organizationAuthorizations.contains
      (schedule.organizationId, schedule.authorizationId) then some .authorizationNotAssigned
  else if !(p.schedulePermits.get? SchedulePermitRow.scheduleId request.scheduleId).any (fun b =>
      b.permitId == request.permitId && b.permitSha256 == request.permitSha256) then
    some .bindingChanged
  else if !(p.scanPermits.get? PermitRow.permitId request.permitId).any (fun permit =>
      permit.organizationId == schedule.organizationId
        && permit.permitSha256 == request.permitSha256 && permit.revokedAt.isNone
        && permit.notBefore ≤ now && now < permit.expiresAt) then some .permitInvalid
  else none

/-- `webguard_control.enqueue_due_schedule`; `jobId` is drawn by the function. -/
def Control.enqueueDueSchedule (request : EnqueueRequest) (now : Nat)
    (requestFingerprint jobId : String) (p : PgStore) : PgAnswer (EnqueueOutcome × PgStore) := do
  integerParameter request.expectedRevision
  match p.schedule request.scheduleId with
  | none => return (.notDue, p)
  | some schedule =>
    match Control.enqueueRefusal request schedule now p with
    | some outcome => return (outcome, p)
    | none =>
      -- `EXCEPTION WHEN unique_violation` takes a used key and a used identifier alike.
      match p.scanJobs.insert
          (Control.enqueuedJob request schedule jobId requestFingerprint now) with
      | none => return (.raced, p)
      | some jobs =>
        let p₁ ← { p with scanJobs := jobs }.insertJobPermit
          { jobId, permitId := request.permitId, permitSha256 := request.permitSha256 }
        let nextRunAt := Control.nextRunAt schedule.nextRunAt schedule.intervalSeconds now
        let (p₂, updated) ← p₁.updateSchedule request.scheduleId
          (fun r => r.revision == request.expectedRevision && r.state == .active)
          (fun r => scheduleAdvanced r request.authorizationSha256 jobId now nextRunAt)
          (fun _ => rfl)
        if updated != 1 then return (.scheduleConflict, p₂)
        else
          match p₂.schedule request.scheduleId, p₂.job jobId with
          | some schedule, some job =>
            if schedule.nextRunAt < datetimeEnd then return (.ok schedule job, p₂)
            else .error databaseFailed
          | _, _ => .error databaseFailed

section

variable [Primitives]

/-- `_job_record_from_row`, which wraps no error. -/
def jobRecordFromRow (row : JobRow) : Answer ScanJobRecord := do
  let request ← checked (ScanJobRequest.new row.requestFields)
  checked (ScanJobRecord.new (row.recordFields request))

/-- What `enqueue_due_schedule` makes of an outcome. -/
def enqueueAnswer : EnqueueOutcome → Answer (Option (ScanScheduleRecord × ScanJobRecord))
  | .bindingChanged =>
    jobStoreError "trustscan_schedule_binding_changed"
      "TrustScan schedule permit binding changed before enqueue."
  | .scheduleConflict => .error enqueueConflict
  | .ok schedule job => do
    let scheduleRecord ← scheduleFromRow schedule
    let jobRecord ← jobRecordFromRow job.toJobRow
    return some (scheduleRecord, jobRecord)
  | .notDue => .ok none
  | .authorizationNotAssigned => .ok none
  | .permitInvalid => .ok none
  | .raced => .ok none

/-- The request that is built for its fingerprint only. -/
def fingerprintFields (request : EnqueueRequest) (shape : ScheduleRow) (now : Nat) :
    ScanJobRequestFields where
  idempotencyKey := "schedule:" ++ request.scheduleId ++ ":fingerprint-only"
  target := shape.target
  authorizationId := shape.authorizationId
  authorizationSha256 := request.authorizationSha256
  mode := shape.mode
  submittedAt := now

def PgStore.enqueueDueScheduleBody (request : EnqueueRequest) (jobId : String) (now : Nat)
    (p : PgStore) : PgAnswer (Option EnqueueOutcome × PgStore) :=
  match p.schedule request.scheduleId with
  | none => .ok (none, p)
  | some shape => do
    let jobRequest ← raising (checked (ScanJobRequest.new (fingerprintFields request shape now)))
    let (outcome, p') ← Control.enqueueDueSchedule request now jobRequest.fingerprint jobId p
    return (some outcome, p')

def PgStore.enqueueDueSchedule (request : EnqueueRequest) (jobId : String) (now : Nat)
    (p : PgStore) : PgAnswer (Option (ScanScheduleRecord × ScanJobRecord)) × PgStore :=
  transaction (PgStore.enqueueDueScheduleBody request jobId now)
    (fun outcome _ => outcome.elim (.ok none) fun o => raising (enqueueAnswer o)) p

end

end WebGuard
