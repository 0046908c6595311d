import WebGuard.Contracts.ScanResults

/-!
# Documents of scan results

`to_dict` of the values of `scans.py`, and `load_scan_result` of `report_loader.py`, which gives every
field to the constructors again and compares what they make of them with the document.
-/

namespace WebGuard.ScanReports

open PyJson UrlParse StandardLibrary FindingContract
open ScanPermits (textList member)

/-! ## Writing -/

def statuses : List ScanStatus :=
  [.queued, .running, .completed, .completedWithErrors, .failed, .cancelled]

def statusValue : ScanStatus → PyText
  | .queued => ofString "queued"
  | .running => ofString "running"
  | .completed => ofString "completed"
  | .completedWithErrors => ofString "completed_with_errors"
  | .failed => ofString "failed"
  | .cancelled => ofString "cancelled"

variable {φ : Type}

def SkippedCheck.toDict (check : SkippedCheck) : List (PyText × Json PyText φ) :=
  [(ofString "check_id", .str check.checkId), (ofString "reason", .str check.reason)]

/-- `completion_percent`, or `None` when nothing was planned. -/
def ScanCoverage.completionPercent [ReportLibrary φ] (coverage : ScanCoverage) : Json PyText φ :=
  if coverage.plannedChecks.isEmpty then .null
  else .float (ReportLibrary.percent coverage.executedChecks.length coverage.plannedChecks.length)

def ScanCoverage.toDict [ReportLibrary φ] (coverage : ScanCoverage) :
    List (PyText × Json PyText φ) :=
  [(ofString "planned_checks", textList coverage.plannedChecks),
    (ofString "executed_checks", textList coverage.executedChecks),
    (ofString "skipped_checks", .arr (coverage.skippedChecks.map fun c => .obj c.toDict)),
    (ofString "unaccounted_checks", textList coverage.unaccountedChecks),
    (ofString "completion_percent", coverage.completionPercent),
    (ofString "requests_attempted", .int coverage.requestsAttempted),
    (ofString "requests_succeeded", .int coverage.requestsSucceeded)]

def ScanError.toDict (error : ScanError) : List (PyText × Json PyText φ) :=
  [(ofString "code", .str error.code), (ofString "message", .str error.message),
    (ofString "stage", .str error.stage), (ofString "retryable", .bool error.retryable)]

def AttemptRecord.toDict [ReportLibrary φ] (attempt : AttemptRecord φ) :
    List (PyText × Json PyText φ) :=
  [(ofString "attempt_number", .int attempt.attemptNumber),
    (ofString "started_at", .str (zuluText attempt.startedAt)),
    (ofString "completed_at", .str (zuluText attempt.completedAt)),
    (ofString "duration_milliseconds",
      .int (ReportLibrary.milliseconds φ (attempt.completedAt - attempt.startedAt))),
    (ofString "outcome", .str attempt.outcome.value),
    (ofString "connected_address", nullable attempt.connectedAddress),
    (ofString "http_status", attempt.httpStatus.elim .null .int),
    (ofString "error_code", nullable attempt.errorCode),
    (ofString "retryable", attempt.retryable.elim .null .bool),
    (ofString "retry_scheduled", .bool attempt.retryScheduled),
    (ofString "backoff_seconds", .float attempt.backoffSeconds)]

/-- The members of a report that both schema versions have. -/
def ScanResult.commonDict [PyFloat φ] [ReportLibrary φ] (digest : List Char → PyText)
    (version : PyText) (result : ScanResult φ) : List (PyText × Json PyText φ) :=
  [(ofString "schema_version", .str version),
    (ofString "scan_id", .str result.scanId),
    (ofString "scan_type", .str result.scanType),
    (ofString "status", .str (statusValue result.status)),
    (ofString "target", .str result.target),
    (ofString "engine", .str result.engine),
    (ofString "engine_version", .str result.engineVersion),
    (ofString "started_at", .str (zuluText result.startedAt)),
    (ofString "completed_at", nullable (result.completedAt.map zuluText)),
    (ofString "coverage", .obj result.coverage.toDict),
    (ofString "finding_count", .int result.findings.length),
    (ofString "findings", .arr (result.findings.map fun f => .obj (f.toDict digest))),
    (ofString "error_count", .int result.errors.length),
    (ofString "errors", .arr (result.errors.map fun e => .obj e.toDict)),
    (ofString "connected_addresses", textList result.connectedAddresses),
    (ofString "http_statuses", .arr (result.httpStatuses.map .int))]

def ScanResult.toDict [PyFloat φ] [ReportLibrary φ] (digest : List Char → PyText)
    (result : ScanResult φ) : List (PyText × Json PyText φ) :=
  result.commonDict digest (ofString "1.1") ++
    [(ofString "request_attempt_count", .int result.requestAttempts.length),
      (ofString "request_attempts", .arr (result.requestAttempts.map fun a => .obj a.toDict))]

def ScanResult.legacyProjection [PyFloat φ] [ReportLibrary φ] (digest : List Char → PyText)
    (result : ScanResult φ) : List (PyText × Json PyText φ) :=
  result.commonDict digest (ofString "1.0")

/-! ## Reading -/

def legacyKeys : List PyText :=
  [ofString "schema_version", ofString "scan_id", ofString "scan_type", ofString "status",
    ofString "target", ofString "engine", ofString "engine_version", ofString "started_at",
    ofString "completed_at", ofString "coverage", ofString "finding_count", ofString "findings",
    ofString "error_count", ofString "errors", ofString "connected_addresses",
    ofString "http_statuses"]

def rootKeys : List PyText :=
  legacyKeys ++ [ofString "request_attempt_count", ofString "request_attempts"]

def coverageKeys : List PyText :=
  [ofString "planned_checks", ofString "executed_checks", ofString "skipped_checks",
    ofString "unaccounted_checks", ofString "completion_percent", ofString "requests_attempted",
    ofString "requests_succeeded"]

def skippedCheckKeys : List PyText := [ofString "check_id", ofString "reason"]

def errorKeys : List PyText :=
  [ofString "code", ofString "message", ofString "stage", ofString "retryable"]

def attemptKeys : List PyText :=
  [ofString "attempt_number", ofString "started_at", ofString "completed_at",
    ofString "duration_milliseconds", ofString "outcome", ofString "connected_address",
    ofString "http_status", ofString "error_code", ofString "retryable",
    ofString "retry_scheduled", ofString "backoff_seconds"]

/-- `_integer`. -/
def reportInteger (value : Json PyText φ) (path : String) : Checked Int :=
  match value with
  | .int n => .ok n
  | _ => invalid "scan_report_integer_required" (path ++ " must be an integer.")

/-- `_optional_integer`. -/
def reportOptionalInteger (value : Json PyText φ) (path : String) : Checked (Option Int) :=
  match value with
  | .null => .ok none
  | value => (reportInteger value path).map some

/-- `_boolean`. -/
def reportBoolean (value : Json PyText φ) (path : String) : Checked Bool :=
  match value with
  | .bool b => .ok b
  | _ => invalid "scan_report_boolean_required" (path ++ " must be boolean.")

/-- `_optional_boolean`. -/
def reportOptionalBoolean (value : Json PyText φ) (path : String) : Checked (Option Bool) :=
  match value with
  | .null => .ok none
  | value => (reportBoolean value path).map some

/-- `_number`; an integer may be too large for a float. -/
def reportNumber [PyFloat φ] (value : Json PyText φ) (path : String) : Checked φ :=
  match value with
  | .float x => .ok x
  | .int n =>
    match PyFloat.ofInt n with
    | some x => .ok x
    | none => invalid "OverflowError" "int too large to convert to float"
  | _ => invalid "scan_report_number_required" (path ++ " must be a number.")

/-- `_integer_list`. -/
def reportIntegerList (value : Json PyText φ) (path : String) : Checked (List Int) := do
  eachItem reportInteger path 0 (← reportList value path)

section

variable [LowerTable] [StandardLibrary] [UnicodeTables] [TimeReader]

/-- `_optional_timestamp`. -/
def reportOptionalTimestamp (value : Json PyText φ) (path : String) : Checked (Option Nat) :=
  match value with
  | .null => .ok none
  | value => (reportTimestamp value path).map some

section

omit [StandardLibrary] [UnicodeTables] [TimeReader]

def loadSkippedCheck (value : Json PyText φ) (path : String) : Checked SkippedCheck := do
  let data ← strictObject value path skippedCheckKeys
  let checkId ← reportText (member "check_id" data) (path ++ ".check_id")
  let reason ← reportText (member "reason" data) (path ++ ".reason")
  SkippedCheck.postInit { checkId, reason }

def loadCoverage [PyFloat φ] [ReportLibrary φ] [DecidableEq φ] (value : Json PyText φ) :
    Checked ScanCoverage := do
  let data ← strictObject value "coverage" coverageKeys
  let skippedChecks ← eachItem loadSkippedCheck "coverage.skipped_checks" 0
    (← reportList (member "skipped_checks" data) "coverage.skipped_checks")
  let plannedChecks ← reportTextList (member "planned_checks" data) "coverage.planned_checks"
  let executedChecks ← reportTextList (member "executed_checks" data) "coverage.executed_checks"
  let requestsAttempted ← reportInteger (member "requests_attempted" data)
    "coverage.requests_attempted"
  let requestsSucceeded ← reportInteger (member "requests_succeeded" data)
    "coverage.requests_succeeded"
  let coverage ← ScanCoverage.postInit
    { plannedChecks, executedChecks, skippedChecks, requestsAttempted, requestsSucceeded }
  require (pyEq (.obj coverage.toDict) (.obj data)) "scan_report_coverage_inconsistent"
    "coverage contains incorrect derived values or non-canonical ordering."
  return coverage

def loadError (value : Json PyText φ) (path : String) : Checked ScanError := do
  let data ← strictObject value path errorKeys
  let code ← reportText (member "code" data) (path ++ ".code")
  let message ← reportText (member "message" data) (path ++ ".message")
  let stage ← reportText (member "stage" data) (path ++ ".stage")
  let retryable ← reportBoolean (member "retryable" data) (path ++ ".retryable")
  ScanError.postInit { code, message, stage, retryable }

end

variable [PyFloat φ] [ReportLibrary φ] [DecidableEq φ]

def loadAttempt (value : Json PyText φ) (path : String) : Checked (AttemptRecord φ) := do
  let data ← strictObject value path attemptKeys
  let attemptNumber ← reportInteger (member "attempt_number" data) (path ++ ".attempt_number")
  let startedAt ← reportTimestamp (member "started_at" data) (path ++ ".started_at")
  let completedAt ← reportTimestamp (member "completed_at" data) (path ++ ".completed_at")
  let outcome ← reportEnum RequestAttemptOutcome.all RequestAttemptOutcome.value
    (member "outcome" data) (path ++ ".outcome")
  let connectedAddress ← reportOptionalText (member "connected_address" data)
    (path ++ ".connected_address")
  let httpStatus ← reportOptionalInteger (member "http_status" data) (path ++ ".http_status")
  let errorCode ← reportOptionalText (member "error_code" data) (path ++ ".error_code")
  let retryable ← reportOptionalBoolean (member "retryable" data) (path ++ ".retryable")
  let retryScheduled ← reportBoolean (member "retry_scheduled" data) (path ++ ".retry_scheduled")
  let backoffSeconds ← reportNumber (member "backoff_seconds" data) (path ++ ".backoff_seconds")
  let attempt ← AttemptRecord.postInit
    { attemptNumber, startedAt, completedAt, outcome, connectedAddress, httpStatus, errorCode,
      retryable, retryScheduled, backoffSeconds }
  require (pyEq (.obj attempt.toDict) (.obj data)) "scan_report_attempt_inconsistent"
    (path ++ " contains an incorrect duration or non-canonical value.")
  return attempt

variable (digest : List Char → PyText)

/-- The findings of a report; `index` is that of the first. -/
def loadFindings : Nat → List (Json PyText φ) → Checked (List NormalizedFinding)
  | _, [] => .ok []
  | index, value :: rest => do
    let finding ← loadFinding digest value index
    let others ← loadFindings (index + 1) rest
    return finding :: others

omit [LowerTable] [StandardLibrary] [UnicodeTables] [TimeReader] [PyFloat φ] [ReportLibrary φ]
  [DecidableEq φ] in
/-- A member that counts the items of a list. -/
def checkCount (value : Json PyText φ) (name : String) (count : Nat) (code message : String) :
    Checked Unit := do
  require ((← reportInteger value name) = (count : Int)) code message

/-- The attempts of a report of version 1.1. -/
def loadAttempts (root : List (PyText × Json PyText φ)) : Checked (List (AttemptRecord φ)) := do
  eachItem loadAttempt "request_attempts" 0
    (← reportList (member "request_attempts" root) "request_attempts")

/-- `ScanResult(...)` of the members of a report. -/
def loadRoot (root : List (PyText × Json PyText φ)) (findings : List NormalizedFinding)
    (errors : List ScanError) (requestAttempts : List (AttemptRecord φ)) :
    Checked (ScanResult φ) := do
  let scanId ← reportText (member "scan_id" root) "scan_id"
  let scanType ← reportText (member "scan_type" root) "scan_type"
  let status ← reportEnum statuses statusValue (member "status" root) "status"
  let target ← reportText (member "target" root) "target"
  let engine ← reportText (member "engine" root) "engine"
  let engineVersion ← reportText (member "engine_version" root) "engine_version"
  let startedAt ← reportTimestamp (member "started_at" root) "started_at"
  let completedAt ← reportOptionalTimestamp (member "completed_at" root) "completed_at"
  let coverage ← loadCoverage (member "coverage" root)
  let connectedAddresses ← reportTextList (member "connected_addresses" root)
    "connected_addresses"
  let httpStatuses ← reportIntegerList (member "http_statuses" root) "http_statuses"
  ScanResult.postInit digest
    { scanId, scanType, status, target, engine, engineVersion, startedAt, coverage, completedAt,
      findings, errors, connectedAddresses, httpStatuses, requestAttempts }

/-- The body of `load_scan_result`; `current` says whether the schema version is the current one. -/
def loadVersion (current : Bool) (value : Json PyText φ) : Checked (ScanResult φ) := do
  let root ← strictObject value "report" (if current then rootKeys else legacyKeys)
  let findings ← loadFindings digest 0 (← reportList (member "findings" root) "findings")
  let errors ← eachItem loadError "errors" 0 (← reportList (member "errors" root) "errors")
  let attempts ← if current then loadAttempts root else pure []
  checkCount (member "finding_count" root) "finding_count" findings.length
    "scan_report_finding_count_mismatch" "finding_count does not match findings."
  checkCount (member "error_count" root) "error_count" errors.length
    "scan_report_error_count_mismatch" "error_count does not match errors."
  if current then
    checkCount (member "request_attempt_count" root) "request_attempt_count" attempts.length
      "scan_report_attempt_count_mismatch" "request_attempt_count does not match request_attempts."
  else pure ()
  let result ← loadRoot digest root findings errors attempts
  let canonical := if current then result.toDict digest else result.legacyProjection digest
  require (pyEq (.obj canonical) (.obj root)) "scan_report_non_canonical"
    "The scan report contains inconsistent derived values or non-canonical ordering."
  return result

/-- The codes of the errors that the loader raises itself. -/
def loaderCodes : List String :=
  ["scan_schema_version_unsupported", "scan_report_object_required", "scan_report_fields_invalid",
    "scan_report_list_required", "scan_report_text_required", "scan_report_integer_required",
    "scan_report_boolean_required", "scan_report_number_required",
    "scan_report_timestamp_invalid", "scan_report_enum_invalid",
    "scan_report_coverage_inconsistent", "finding_schema_version_unsupported",
    "scan_report_finding_inconsistent", "scan_report_attempt_inconsistent",
    "scan_report_finding_count_mismatch", "scan_report_error_count_mismatch",
    "scan_report_attempt_count_mismatch", "scan_report_non_canonical"]

/-- The `except` clauses: an error of the contract, and a `ValueError`, become errors of the loader. -/
def asReportError (error : ContractError) : ContractError :=
  if loaderCodes.contains error.code || error.code = "OverflowError" then error
  else if error.code = "ValueError" then
    ⟨"scan_report_malformed", "The scan report is malformed: " ++ error.message⟩
  else
    ⟨"scan_report_contract_invalid", "The scan report violates the contract: " ++ error.message⟩

def loadScanResult (value : Json PyText φ) : Checked (ScanResult φ) :=
  Except.mapError asReportError do
    let root ← match value with
      | .obj members => pure members
      | _ => invalid "scan_report_object_required" "report must be a JSON object."
    let version ← reportText (member "schema_version" root) "schema_version"
    if version = ofString "1.1" then loadVersion digest true value
    else if version = ofString "1.0" then loadVersion digest false value
    else
      invalid "scan_schema_version_unsupported"
        ("Unsupported scan report schema_version " ++ UnicodeTables.quoted version
          ++ ". Supported versions are 1.0, 1.1.")

end

end WebGuard.ScanReports
