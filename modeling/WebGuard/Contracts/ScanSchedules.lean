import WebGuard.Contracts.ScanJobs

/-!
# Recurring scan-schedule contracts

`ScanScheduleRecord` of `scan_schedules.py`, in the same shape as the job contracts: raw fields,
the check, and the structure of the fields that passed it. `record_type` and `schema_version`
are constants that no caller of this development sets, so they are left out.
-/

namespace WebGuard

open Atomic

inductive ScanScheduleState where
  | active
  | paused
  deriving DecidableEq

/-- `_interval`: from one hour to 365 days, in seconds. -/
def scheduleInterval (value : Nat) : Checked Nat := do
  require (3600 ≤ value && value ≤ 31536000) "scan_schedule_interval_invalid"
    "interval_seconds must be from 3600 to 31536000."
  return value

/-- `scan_schedules._sha256`, whose message is not that of the job contracts. -/
def scheduleSha256 (value : String) : Checked String := do
  require (isSha256 value) "scan_schedule_sha256_invalid"
    "authorization_sha256 must be a lower-case SHA-256 digest."
  return value

variable [Primitives]

open Primitives

structure ScanScheduleRecordFields where
  scheduleId : String
  organizationId : String
  createdBy : String
  name : String
  target : String
  authorizationId : String
  authorizationSha256 : String
  mode : ScanJobMode
  intervalSeconds : Nat
  state : ScanScheduleState
  createdAt : Nat
  updatedAt : Nat
  nextRunAt : Nat
  revision : Nat := 0
  lastEnqueuedAt : Option Nat := none
  lastJobId : Option String := none
  lastErrorCode : Option String := none
  lastErrorAt : Option Nat := none
  deriving DecidableEq

def ScanScheduleRecordFields.postInit (raw : ScanScheduleRecordFields) :
    Checked ScanScheduleRecordFields := do
  let scheduleId ← canonicalUuid "scan_schedule" raw.scheduleId "schedule_id"
  let organizationId ← canonicalUuid "scan_schedule" raw.organizationId "organization_id"
  let createdBy ← canonicalUuid "scan_schedule" raw.createdBy "created_by"
  let name ← requiredText "scan_schedule" raw.name "name" 120
  let target ← canonicalizeOwnedTargetUrl raw.target
  let authorizationId ← canonicalUuid "scan_schedule" raw.authorizationId "authorization_id"
  let authorizationSha256 ← scheduleSha256 raw.authorizationSha256
  let intervalSeconds ← scheduleInterval raw.intervalSeconds
  require (raw.createdAt ≤ raw.updatedAt) "scan_schedule_timestamp_order_invalid"
    "updated_at cannot be earlier than created_at."
  let lastJobId ← raw.lastJobId.mapM (canonicalUuid "scan_schedule" · "last_job_id")
  let lastErrorCode ← errorCode "scan_schedule" raw.lastErrorCode "last_error_code"
  require (lastErrorCode.isSome == raw.lastErrorAt.isSome) "scan_schedule_error_projection_invalid"
    "last_error_code and last_error_at must be set together."
  return { raw with
    scheduleId := scheduleId, organizationId := organizationId, createdBy := createdBy,
    name := name, target := target, authorizationId := authorizationId,
    authorizationSha256 := authorizationSha256, intervalSeconds := intervalSeconds,
    lastJobId := lastJobId, lastErrorCode := lastErrorCode }

/-- A schedule whose fields came out of the check. -/
structure ScanScheduleRecord extends ScanScheduleRecordFields where
  built : ∃ raw, ScanScheduleRecordFields.postInit raw = .ok toScanScheduleRecordFields
  deriving DecidableEq

/-- `ScanScheduleRecord(...)`. -/
def ScanScheduleRecord.new (raw : ScanScheduleRecordFields) : Checked ScanScheduleRecord :=
  match h : raw.postInit with
  | .ok fields => .ok { toScanScheduleRecordFields := fields, built := ⟨raw, h⟩ }
  | .error e => .error e

theorem ScanScheduleRecord.new_eq_ok {raw : ScanScheduleRecordFields}
    {record : ScanScheduleRecord} :
    ScanScheduleRecord.new raw = .ok record ↔
      raw.postInit = .ok record.toScanScheduleRecordFields := by
  unfold ScanScheduleRecord.new
  split
  · next fields h =>
    cases record
    simp [h]
  · next e h => simp [h]

/-- What the check asks of a schedule, and what it returns. -/
structure ScanScheduleRecordFields.Accepts (raw fields : ScanScheduleRecordFields) : Prop where
  scheduleId : isCanonicalUuid raw.scheduleId = true
  organizationId : isCanonicalUuid raw.organizationId = true
  createdBy : isCanonicalUuid raw.createdBy = true
  name : requiredText "scan_schedule" raw.name "name" 120 = .ok fields.name
  target : canonicalizeOwnedTargetUrl raw.target = .ok fields.target
  authorizationId : isCanonicalUuid raw.authorizationId = true
  authorizationSha256 : isSha256 raw.authorizationSha256 = true
  intervalSeconds : 3600 ≤ raw.intervalSeconds ∧ raw.intervalSeconds ≤ 31536000
  updatedAt : raw.createdAt ≤ raw.updatedAt
  lastJobId : raw.lastJobId.mapM (canonicalUuid "scan_schedule" · "last_job_id")
    = .ok fields.lastJobId
  lastErrorCode : errorCode "scan_schedule" raw.lastErrorCode "last_error_code"
    = .ok fields.lastErrorCode
  lastErrorAt : fields.lastErrorCode.isSome = raw.lastErrorAt.isSome
  stored : fields = { raw with
    name := fields.name, target := fields.target, lastJobId := fields.lastJobId,
    lastErrorCode := fields.lastErrorCode }

variable {raw fields : ScanScheduleRecordFields}

theorem ScanScheduleRecordFields.postInit_eq_ok :
    raw.postInit = .ok fields ↔ raw.Accepts fields := by
  unfold postInit scheduleSha256 scheduleInterval
  simp only [bind_ok_iff, canonicalUuid_eq_ok, require_eq_ok, Bool.and_eq_true, decide_eq_true_eq,
    beq_iff_eq]
  constructor
  · rintro ⟨_, ⟨rfl, hid⟩, _, ⟨rfl, horganization⟩, _, ⟨rfl, hcreatedBy⟩, _, hname, _, htarget,
      _, ⟨rfl, hauthorization⟩, _, ⟨_, hsha, hshaRest⟩, _, ⟨_, hinterval, hintervalRest⟩,
      _, horder, _, hjob, _, hcode, _, herror, h⟩
    cases hshaRest
    cases hintervalRest
    cases h
    exact ⟨hid, horganization, hcreatedBy, hname, htarget, hauthorization, hsha, hinterval, horder,
      hjob, hcode, herror, rfl⟩
  · intro h
    refine ⟨_, ⟨rfl, h.scheduleId⟩, _, ⟨rfl, h.organizationId⟩, _, ⟨rfl, h.createdBy⟩, _, h.name,
      _, h.target, _, ⟨rfl, h.authorizationId⟩, _, ⟨(), h.authorizationSha256, rfl⟩,
      _, ⟨(), h.intervalSeconds, rfl⟩, (), h.updatedAt, _, h.lastJobId, _, h.lastErrorCode, (),
      h.lastErrorAt, ?_⟩
    rw [h.stored]
    rfl

theorem ScanScheduleRecordFields.postInit_keeps (h : raw.postInit = .ok fields) :
    fields.scheduleId = raw.scheduleId ∧ fields.state = raw.state ∧
      fields.revision = raw.revision ∧ fields.nextRunAt = raw.nextRunAt ∧
      fields.intervalSeconds = raw.intervalSeconds ∧
      3600 ≤ raw.intervalSeconds ∧
      canonicalizeOwnedTargetUrl raw.target = .ok fields.target := by
  have haccepts := postInit_eq_ok.mp h
  refine ⟨?_, ?_, ?_, ?_, ?_, haccepts.intervalSeconds.1, haccepts.target⟩ <;> rw [haccepts.stored]

end WebGuard
