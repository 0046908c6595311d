import WebGuard.Contracts.Text
import WebGuard.Contracts.Time

/-!
# Scan-job contracts

`ScanJobRequest` and `ScanJobRecord` of `scan_jobs.py`. Each is a frozen dataclass whose
`__post_init__` checks and normalises the fields it was given, so a value of either class has
passed its checks. Here the raw fields are one structure, `postInit` is the check, and the
class itself is the structure of the fields that came out of some `postInit`.

Two functions from other modules enter as parameters. `canonicalize_owned_target_url` rests on
`urlsplit` and IDNA, `hashlib.sha256` is a digest; no result below assumes anything of either.
-/

namespace WebGuard

open Atomic

/-- The functions the job contracts take from elsewhere. -/
class Primitives where
  /-- `owned_targets.canonicalize_owned_target_url`, with its own error codes. -/
  canonicalizeOwnedTargetUrl : String → Checked String
  /-- `hashlib.sha256(text.encode("utf-8")).hexdigest()`. -/
  sha256Hex : String → String

inductive ScanJobMode where
  | singlePage
  | crawl
  deriving DecidableEq

def ScanJobMode.value : ScanJobMode → String
  | .singlePage => "single_page"
  | .crawl => "crawl"

inductive ScanJobState where
  | queued
  | running
  | completed
  | completedWithErrors
  | failed
  | cancelled
  deriving DecidableEq

def ScanJobState.isTerminal : ScanJobState → Bool
  | .queued | .running => false
  | .completed | .completedWithErrors | .failed | .cancelled => true

/-- Lifecycle state of one scan execution (`scans.py`). -/
inductive ScanStatus where
  | queued
  | running
  | completed
  | completedWithErrors
  | failed
  | cancelled
  deriving DecidableEq

/--
The job state a scan status finishes a job with.

The table `expected_result_state` of the contract and `state_by_status` of the store.
-/
def ScanStatus.finishedState : ScanStatus → Option ScanJobState
  | .completed => some .completed
  | .completedWithErrors => some .completedWithErrors
  | .failed => some .failed
  | .cancelled => some .cancelled
  | .queued | .running => none

theorem ScanStatus.isTerminal_of_finishedState {status : ScanStatus} {state : ScanJobState}
    (h : status.finishedState = some state) : state.isTerminal = true := by
  cases status <;> simp [finishedState] at h <;> subst h <;> rfl

variable [Primitives]

open Primitives

/-! ## `ScanJobRequest` -/

structure ScanJobRequestFields where
  idempotencyKey : String
  target : String
  authorizationId : String
  authorizationSha256 : String
  mode : ScanJobMode
  submittedAt : Nat
  deriving DecidableEq

def ScanJobRequestFields.postInit (raw : ScanJobRequestFields) : Checked ScanJobRequestFields := do
  let key ← WebGuard.idempotencyKey raw.idempotencyKey
  let target ← canonicalizeOwnedTargetUrl raw.target
  let authorizationId ← canonicalUuid "scan_job" raw.authorizationId "authorization_id"
  let authorizationSha256 ← sha256 "scan_job" raw.authorizationSha256 "authorization_sha256"
  return { raw with
    idempotencyKey := key, target := target, authorizationId := authorizationId,
    authorizationSha256 := authorizationSha256 }

/-- A request whose fields came out of the check. -/
structure ScanJobRequest extends ScanJobRequestFields where
  built : ∃ raw, ScanJobRequestFields.postInit raw = .ok toScanJobRequestFields
  deriving DecidableEq

/-- `ScanJobRequest(...)`. -/
def ScanJobRequest.new (raw : ScanJobRequestFields) : Checked ScanJobRequest :=
  match h : raw.postInit with
  | .ok fields => .ok { toScanJobRequestFields := fields, built := ⟨raw, h⟩ }
  | .error e => .error e

theorem ScanJobRequest.new_eq_ok {raw : ScanJobRequestFields} {request : ScanJobRequest} :
    ScanJobRequest.new raw = .ok request ↔ raw.postInit = .ok request.toScanJobRequestFields := by
  unfold ScanJobRequest.new
  split
  · next fields h =>
    cases request
    simp [h]
  · next e h => simp [h]

/-- The canonical JSON of the fields a fingerprint covers: keys sorted, no blanks. -/
def jsonText (s : String) : String :=
  let escape : Char → List Char := fun c =>
    if c == '"' then ['\\', '"'] else if c == '\\' then ['\\', '\\']
    else if c == '\n' then ['\\', 'n'] else if c == '\r' then ['\\', 'r']
    else if c == '\t' then ['\\', 't'] else if c.toNat == 8 then ['\\', 'b']
    else if c.toNat == 12 then ['\\', 'f']
    else if c.toNat < 32 then
      ['\\', 'u', '0', '0', if c.toNat < 16 then '0' else '1', (Nat.digitChar (c.toNat % 16))]
    else [c]
  String.ofList (['"'] ++ s.toList.flatMap escape ++ ['"'])

def ScanJobRequestFields.fingerprint (r : ScanJobRequestFields) : String :=
  sha256Hex ("\x7b\"authorization_id\":" ++ jsonText r.authorizationId
    ++ ",\"authorization_sha256\":" ++ jsonText r.authorizationSha256
    ++ ",\"mode\":" ++ jsonText r.mode.value
    ++ ",\"target\":" ++ jsonText r.target ++ "\x7d")

theorem ScanJobRequestFields.postInit_eq_ok {raw fields : ScanJobRequestFields} :
    raw.postInit = .ok fields ↔
      WebGuard.idempotencyKey raw.idempotencyKey = .ok fields.idempotencyKey ∧
      canonicalizeOwnedTargetUrl raw.target = .ok fields.target ∧
      isCanonicalUuid raw.authorizationId = true ∧ fields.authorizationId = raw.authorizationId ∧
      isSha256 raw.authorizationSha256 = true ∧
      fields.authorizationSha256 = raw.authorizationSha256 ∧
      fields.mode = raw.mode ∧ fields.submittedAt = raw.submittedAt := by
  unfold postInit
  constructor
  · intro h
    obtain ⟨key, hkey, h⟩ := bind_ok h
    obtain ⟨target, htarget, h⟩ := bind_ok h
    obtain ⟨auth, hauth, h⟩ := bind_ok h
    obtain ⟨sha, hsha, h⟩ := bind_ok h
    rw [canonicalUuid_eq_ok] at hauth
    rw [sha256_eq_ok] at hsha
    cases h
    exact ⟨hkey, htarget, hauth.2, hauth.1, hsha.2, hsha.1, rfl, rfl⟩
  · rintro ⟨hkey, htarget, hauth, hauth', hsha, hsha', hmode, hat⟩
    rw [bind_ok_iff]
    refine ⟨_, hkey, ?_⟩
    rw [bind_ok_iff]
    refine ⟨_, htarget, ?_⟩
    rw [bind_ok_iff]
    refine ⟨_, canonicalUuid_eq_ok.mpr ⟨hauth', hauth⟩, ?_⟩
    rw [bind_ok_iff]
    refine ⟨_, sha256_eq_ok.mpr ⟨hsha', hsha⟩, ?_⟩
    cases fields
    simp_all [pure, Except.pure]

theorem ScanJobRequest.accepted_again (r : ScanJobRequest) :
    (∃ fields, r.toScanJobRequestFields.postInit = .ok fields) ↔
      ∃ target, canonicalizeOwnedTargetUrl r.target = .ok target := by
  obtain ⟨raw, hraw⟩ := r.built
  rw [ScanJobRequestFields.postInit_eq_ok] at hraw
  constructor
  · rintro ⟨fields, h⟩
    rw [ScanJobRequestFields.postInit_eq_ok] at h
    exact ⟨_, h.2.1⟩
  · rintro ⟨target, ht⟩
    refine ⟨{ r.toScanJobRequestFields with target := target }, ?_⟩
    rw [ScanJobRequestFields.postInit_eq_ok]
    refine ⟨idempotencyKey_of_ok hraw.1, ht, ?_, rfl, ?_, rfl, rfl, rfl⟩
    · rw [hraw.2.2.2.1]
      exact hraw.2.2.1
    · rw [hraw.2.2.2.2.2.1]
      exact hraw.2.2.2.2.1

/-! ## `ScanJobRecord` -/

structure ScanJobRecordFields where
  jobId : String
  request : ScanJobRequest
  state : ScanJobState
  updatedAt : Nat
  revision : Nat := 0
  cancellationRequested : Bool := false
  startedAt : Option Nat := none
  completedAt : Option Nat := none
  scanId : Option String := none
  resultStatus : Option ScanStatus := none
  reportRef : Option String := none
  auditRef : Option String := none
  errorCode : Option String := none
  errorMessage : Option String := none
  deriving DecidableEq

namespace ScanJobRecordFields

/-- Some, or all, of the four columns that describe a scan result. -/
def hasAnyResult (r : ScanJobRecordFields) : Bool :=
  r.scanId.isSome || r.resultStatus.isSome || r.reportRef.isSome || r.auditRef.isSome

def hasAllResult (r : ScanJobRecordFields) : Bool :=
  r.scanId.isSome && r.resultStatus.isSome && r.reportRef.isSome && r.auditRef.isSome

def hasAnyError (r : ScanJobRecordFields) : Bool := r.errorCode.isSome || r.errorMessage.isSome

def hasAllError (r : ScanJobRecordFields) : Bool := r.errorCode.isSome && r.errorMessage.isSome

def validateStateProjection (r : ScanJobRecordFields) : Checked Unit :=
  match r.state with
  | .queued =>
    require (!(r.startedAt.isSome || r.completedAt.isSome || r.hasAnyResult || r.hasAnyError))
      "scan_job_queued_projection_invalid"
      "Queued jobs cannot contain execution or result metadata."
  | .running => do
    require (r.startedAt.isSome && r.completedAt.isNone) "scan_job_running_projection_invalid"
      "Running jobs require started_at and cannot have completed_at."
    require (!(r.hasAnyResult || r.hasAnyError)) "scan_job_running_projection_invalid"
      "Running jobs cannot contain terminal result metadata."
  | state => do
    require r.completedAt.isSome "scan_job_terminal_timestamp_missing"
      "Terminal jobs require completed_at."
    require (!r.hasAnyResult || r.hasAllResult) "scan_job_result_projection_invalid"
      "Result-backed jobs require complete scan and artifact metadata."
    require (!r.hasAnyError || r.hasAllError) "scan_job_error_projection_invalid"
      "Service failures require both error_code and error_message."
    require (!(r.hasAllResult && r.hasAllError)) "scan_job_terminal_projection_conflict"
      "A terminal job cannot contain both a scan result and a service error."
    if r.hasAllResult then
      require r.startedAt.isSome "scan_job_result_start_missing"
        "Result-backed jobs require started_at."
      require (r.resultStatus.bind ScanStatus.finishedState == some state)
        "scan_job_result_status_mismatch" "Job state and scan result status do not match."
    else if state == .failed then
      require (r.startedAt.isSome && r.hasAllError) "scan_job_failed_projection_invalid"
        "Service-failed jobs require started_at and controlled error metadata."
    else if state == .cancelled then
      require (!r.hasAnyError) "scan_job_cancelled_error_invalid"
        "Cancelled jobs cannot contain service error metadata."
    else
      invalid "scan_job_terminal_projection_invalid"
        "Completed job states require result-backed metadata."

def postInit (raw : ScanJobRecordFields) : Checked ScanJobRecordFields := do
  let submittedAt := raw.request.submittedAt
  let jobId ← canonicalUuid "scan_job" raw.jobId "job_id"
  require (submittedAt ≤ raw.updatedAt) "scan_job_timestamp_order_invalid"
    "updated_at cannot precede submitted_at."
  require (raw.startedAt.all (submittedAt ≤ ·)) "scan_job_timestamp_order_invalid"
    "started_at cannot precede submitted_at."
  require (raw.completedAt.all ((raw.startedAt.getD submittedAt) ≤ ·))
    "scan_job_timestamp_order_invalid" "completed_at cannot precede the job start boundary."
  let scanId ← raw.scanId.mapM (canonicalUuid "scan_job" · "scan_id")
  let reportRef ← raw.reportRef.mapM (artifactReference "scan_job" · "report_ref")
  let auditRef ← raw.auditRef.mapM (artifactReference "scan_job" · "audit_ref")
  let errorCode ← WebGuard.errorCode "scan_job" raw.errorCode "error_code"
  let errorMessage ← optionalText "scan_job" raw.errorMessage "error_message" 2048
  let record := { raw with
    jobId := jobId, scanId := scanId, reportRef := reportRef, auditRef := auditRef,
    errorCode := errorCode, errorMessage := errorMessage }
  record.validateStateProjection
  return record

/--
The conditions under which the constructor accepts the fields.

The normalisation of a text keeps whether the text is there, so the projection of the raw fields
decides.
-/
structure Wellformed (raw : ScanJobRecordFields) : Prop where
  jobId : isCanonicalUuid raw.jobId = true
  updatedAt : raw.request.submittedAt ≤ raw.updatedAt
  startedAt : ∀ t, raw.startedAt = some t → raw.request.submittedAt ≤ t
  completedAt : ∀ t, raw.completedAt = some t → raw.startedAt.getD raw.request.submittedAt ≤ t
  scanId : ∀ v, raw.scanId = some v → isCanonicalUuid v = true
  reportRef : ∀ v, raw.reportRef = some v →
    ∃ c, artifactReference "scan_job" v "report_ref" = .ok c
  auditRef : ∀ v, raw.auditRef = some v → ∃ c, artifactReference "scan_job" v "audit_ref" = .ok c
  errorCode : ∃ c, WebGuard.errorCode "scan_job" raw.errorCode "error_code" = .ok c
  errorMessage : ∃ c, optionalText "scan_job" raw.errorMessage "error_message" 2048 = .ok c
  projection : raw.validateStateProjection = .ok ()

theorem validateStateProjection_congr {r r' : ScanJobRecordFields} (hstate : r.state = r'.state)
    (hstarted : r.startedAt = r'.startedAt) (hcompleted : r.completedAt = r'.completedAt)
    (hstatus : r.resultStatus = r'.resultStatus) (hscan : r.scanId.isSome = r'.scanId.isSome)
    (hreport : r.reportRef.isSome = r'.reportRef.isSome)
    (haudit : r.auditRef.isSome = r'.auditRef.isSome)
    (hcode : r.errorCode.isSome = r'.errorCode.isSome)
    (hmessage : r.errorMessage.isSome = r'.errorMessage.isSome) :
    r.validateStateProjection = r'.validateStateProjection := by
  have hany : r.hasAnyResult = r'.hasAnyResult := by
    simp only [hasAnyResult, hscan, hstatus, hreport, haudit]
  have hall : r.hasAllResult = r'.hasAllResult := by
    simp only [hasAllResult, hscan, hstatus, hreport, haudit]
  have hanyError : r.hasAnyError = r'.hasAnyError := by
    simp only [hasAnyError, hcode, hmessage]
  have hallError : r.hasAllError = r'.hasAllError := by
    simp only [hasAllError, hcode, hmessage]
  unfold validateStateProjection
  rw [hstate, hstarted, hcompleted, hstatus, hany, hall, hanyError, hallError]

theorem postInit_isOk (raw : ScanJobRecordFields) :
    (∃ fields, raw.postInit = .ok fields) ↔ raw.Wellformed := by
  constructor
  · rintro ⟨fields, h⟩
    unfold postInit at h
    -- The checks in the order of the constructor.
    obtain ⟨jobId, hjob, h⟩ := bind_ok h
    obtain ⟨_, hupdated, h⟩ := bind_ok h
    obtain ⟨_, hstarted, h⟩ := bind_ok h
    obtain ⟨_, hcompleted, h⟩ := bind_ok h
    obtain ⟨scanId, hscan, h⟩ := bind_ok h
    obtain ⟨reportRef, hreport, h⟩ := bind_ok h
    obtain ⟨auditRef, haudit, h⟩ := bind_ok h
    obtain ⟨code, hcode, h⟩ := bind_ok h
    obtain ⟨message, hmessage, h⟩ := bind_ok h
    obtain ⟨u, hprojection, -⟩ := bind_ok h
    rw [canonicalUuid_eq_ok] at hjob
    rw [require_eq_ok] at hupdated hstarted hcompleted
    refine ⟨hjob.2, by simpa using hupdated, ?_, ?_, ?_, mapM_isOk.mp ⟨_, hreport⟩,
      mapM_isOk.mp ⟨_, haudit⟩, ⟨_, hcode⟩, ⟨_, hmessage⟩, ?_⟩
    · intro t ht
      simpa [ht] using hstarted
    · intro t ht
      simpa [ht] using hcompleted
    · intro v hv
      obtain ⟨c, hc⟩ := mapM_isOk.mp ⟨_, hscan⟩ v hv
      exact (canonicalUuid_eq_ok.mp hc).2
    · rw [← hprojection]
      -- The projection asks only which of the texts are there, and the checks keep that.
      exact validateStateProjection_congr rfl rfl rfl rfl (isSome_of_mapM hscan).symm
        (isSome_of_mapM hreport).symm (isSome_of_mapM haudit).symm (isSome_of_errorCode hcode).symm
        (isSome_of_optionalText hmessage).symm
  · intro hw
    obtain ⟨scanId, hscan⟩ :
        ∃ c, raw.scanId.mapM (canonicalUuid "scan_job" · "scan_id") = .ok c := by
      refine mapM_isOk.mpr ?_
      intro v hv
      exact ⟨v, canonicalUuid_eq_ok.mpr ⟨rfl, hw.scanId v hv⟩⟩
    obtain ⟨reportRef, hreport⟩ := mapM_isOk.mpr hw.reportRef
    obtain ⟨auditRef, haudit⟩ := mapM_isOk.mpr hw.auditRef
    obtain ⟨code, hcode⟩ := hw.errorCode
    obtain ⟨message, hmessage⟩ := hw.errorMessage
    refine ⟨{ raw with
      scanId := scanId, reportRef := reportRef, auditRef := auditRef, errorCode := code,
      errorMessage := message }, ?_⟩
    unfold postInit
    refine bind_ok_iff.mpr ⟨_, canonicalUuid_eq_ok.mpr ⟨rfl, hw.jobId⟩, ?_⟩
    refine bind_ok_iff.mpr ⟨(), ?_, ?_⟩
    · exact require_eq_ok.mpr (by simpa using hw.updatedAt)
    refine bind_ok_iff.mpr ⟨(), ?_, ?_⟩
    · have hstarted := hw.startedAt
      cases hs : raw.startedAt with
      | none => rfl
      | some t => exact require_eq_ok.mpr (by simpa using hstarted t hs)
    refine bind_ok_iff.mpr ⟨(), ?_, ?_⟩
    · have hcompleted := hw.completedAt
      cases hs : raw.completedAt with
      | none => rfl
      | some t => exact require_eq_ok.mpr (by simpa using hcompleted t hs)
    refine bind_ok_iff.mpr ⟨_, hscan, ?_⟩
    refine bind_ok_iff.mpr ⟨_, hreport, ?_⟩
    refine bind_ok_iff.mpr ⟨_, haudit, ?_⟩
    refine bind_ok_iff.mpr ⟨_, hcode, ?_⟩
    refine bind_ok_iff.mpr ⟨_, hmessage, ?_⟩
    refine bind_ok_iff.mpr ⟨(), ?_, rfl⟩
    rw [← hw.projection]
    exact validateStateProjection_congr rfl rfl rfl rfl (isSome_of_mapM hscan)
      (isSome_of_mapM hreport) (isSome_of_mapM haudit) (isSome_of_errorCode hcode)
      (isSome_of_optionalText hmessage)

theorem postInit_keeps {raw fields : ScanJobRecordFields} (h : raw.postInit = .ok fields) :
    fields.jobId = raw.jobId ∧ fields.request = raw.request ∧ fields.state = raw.state ∧
      fields.updatedAt = raw.updatedAt ∧ fields.revision = raw.revision ∧
      fields.cancellationRequested = raw.cancellationRequested ∧
      fields.startedAt = raw.startedAt ∧ fields.completedAt = raw.completedAt ∧
      fields.resultStatus = raw.resultStatus := by
  unfold postInit at h
  obtain ⟨jobId, hjob, h⟩ := bind_ok h
  obtain ⟨_, -, h⟩ := bind_ok h
  obtain ⟨_, -, h⟩ := bind_ok h
  obtain ⟨_, -, h⟩ := bind_ok h
  obtain ⟨scanId, -, h⟩ := bind_ok h
  obtain ⟨reportRef, -, h⟩ := bind_ok h
  obtain ⟨auditRef, -, h⟩ := bind_ok h
  obtain ⟨code, -, h⟩ := bind_ok h
  obtain ⟨message, -, h⟩ := bind_ok h
  obtain ⟨_, -, h⟩ := bind_ok h
  cases h
  exact ⟨(canonicalUuid_eq_ok.mp hjob).1, rfl, rfl, rfl, rfl, rfl, rfl, rfl, rfl⟩

end ScanJobRecordFields

/-- A record whose fields came out of the check. -/
structure ScanJobRecord extends ScanJobRecordFields where
  built : ∃ raw, ScanJobRecordFields.postInit raw = .ok toScanJobRecordFields
  deriving DecidableEq

/-- `ScanJobRecord(...)`. -/
def ScanJobRecord.new (raw : ScanJobRecordFields) : Checked ScanJobRecord :=
  match h : raw.postInit with
  | .ok fields => .ok { toScanJobRecordFields := fields, built := ⟨raw, h⟩ }
  | .error e => .error e

theorem ScanJobRecord.new_eq_ok {raw : ScanJobRecordFields} {record : ScanJobRecord} :
    ScanJobRecord.new raw = .ok record ↔ raw.postInit = .ok record.toScanJobRecordFields := by
  unfold ScanJobRecord.new
  split
  · next fields h =>
    cases record
    simp [h]
  · next e h => simp [h]

/-! ## What a state asks of the other fields -/

namespace ScanJobRecordFields

variable {r : ScanJobRecordFields}

/-- Neither a result nor an error. -/
structure Bare (r : ScanJobRecordFields) : Prop where
  scanId : r.scanId = none
  resultStatus : r.resultStatus = none
  reportRef : r.reportRef = none
  auditRef : r.auditRef = none
  errorCode : r.errorCode = none
  errorMessage : r.errorMessage = none

theorem bare_iff : r.Bare ↔ (r.hasAnyResult || r.hasAnyError) = false := by
  unfold hasAnyResult hasAnyError
  simp only [Bool.or_eq_false_iff, Option.isSome_eq_false_iff, Option.isNone_iff_eq_none]
  constructor
  · intro h
    exact ⟨⟨⟨⟨h.scanId, h.resultStatus⟩, h.reportRef⟩, h.auditRef⟩, h.errorCode, h.errorMessage⟩
  · rintro ⟨⟨⟨⟨h₁, h₂⟩, h₃⟩, h₄⟩, h₅, h₆⟩
    exact ⟨h₁, h₂, h₃, h₄, h₅, h₆⟩

theorem projection_queued (h : r.state = .queued) :
    r.validateStateProjection = .ok () ↔ r.startedAt = none ∧ r.completedAt = none ∧ r.Bare := by
  unfold validateStateProjection
  rw [h, bare_iff]
  simp only [require_eq_ok]
  cases r.startedAt <;> cases r.completedAt <;> simp

theorem projection_running (h : r.state = .running) :
    r.validateStateProjection = .ok () ↔
      r.startedAt.isSome = true ∧ r.completedAt = none ∧ r.Bare := by
  unfold validateStateProjection
  rw [h, bare_iff]
  simp only [bind_ok_iff, require_eq_ok]
  cases r.startedAt <;> cases r.completedAt <;> simp

theorem projection_cancelled (h : r.state = .cancelled) (hc : r.completedAt.isSome = true)
    (hb : r.Bare) : r.validateStateProjection = .ok () := by
  have hnone := bare_iff.mp hb
  rw [Bool.or_eq_false_iff] at hnone
  have hall : r.hasAllResult = false := by simp [hasAllResult, hb.scanId]
  have hallError : r.hasAllError = false := by simp [hasAllError, hb.errorCode]
  unfold validateStateProjection
  rw [h]
  simp [hc, hnone.1, hnone.2, hall, hallError, require, bind, Except.bind]

theorem projection_failed (h : r.state = .failed) (hc : r.completedAt.isSome = true)
    (hs : r.startedAt.isSome = true) (hany : r.hasAnyResult = false)
    (herror : r.hasAllError = true) : r.validateStateProjection = .ok () := by
  have hall : r.hasAllResult = false := by
    simp only [hasAnyResult, Bool.or_eq_false_iff] at hany
    simp [hasAllResult, hany]
  unfold validateStateProjection
  rw [h]
  simp [hc, hs, hany, hall, herror, require, bind, Except.bind]

theorem projection_result {status : ScanStatus} (hstatus : r.resultStatus = some status)
    (hstate : status.finishedState = some r.state) (hc : r.completedAt.isSome = true)
    (hs : r.startedAt.isSome = true) (hall : r.hasAllResult = true)
    (hanyError : r.hasAnyError = false) : r.validateStateProjection = .ok () := by
  have hallError : r.hasAllError = false := by
    simp only [hasAnyError, Bool.or_eq_false_iff] at hanyError
    simp [hasAllError, hanyError]
  unfold validateStateProjection
  cases hr : r.state <;> rw [hr] at hstate
  · cases status <;> simp [ScanStatus.finishedState] at hstate
  · cases status <;> simp [ScanStatus.finishedState] at hstate
  all_goals
    simp [hc, hs, hall, hanyError, hallError, hstatus, hstate, require, bind, Except.bind]

end ScanJobRecordFields

end WebGuard
