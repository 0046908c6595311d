import WebGuard.Contracts.FindingLoader

/-!
# Scan results

The contract of `scans.py`: coverage, errors, request attempts and the result of one scan, with what
their constructors make of the values they are given. The texts come from anywhere, so they are code
points.

The percentage of a coverage and the duration of an attempt are computed with floats, and the order
of addresses with their integers. Those are parameters (`ReportLibrary`).
-/

namespace WebGuard.ScanReports

open PyJson UrlParse StandardLibrary FindingContract
open ScanPermits (sortedSet)

class ReportLibrary (φ : Type) where
  /-- `round(executed / planned * 100, 2)`. -/
  percent : Nat → Nat → φ
  /-- `int(elapsed.total_seconds() * 1000)`, of microseconds. -/
  milliseconds : Nat → Nat
  /-- `int(ipaddress.ip_address(text))`. -/
  addressValue : Text → Nat
  /-- `str(uuid.UUID(text))` of a text that is not spelled so. -/
  uuid : PyText → Option PyText
  uuid_canonical : ∀ {text canonical : PyText}, uuid text = some canonical →
    isCanonicalUuid (String.ofList (characters canonical)) = true

/-! ## Values -/

structure SkippedCheck where
  checkId : PyText
  reason : PyText
  deriving DecidableEq

structure ScanCoverage where
  plannedChecks : List PyText
  executedChecks : List PyText
  skippedChecks : List SkippedCheck
  requestsAttempted : Int
  requestsSucceeded : Int
  deriving DecidableEq

structure ScanError where
  code : PyText
  message : PyText
  stage : PyText
  retryable : Bool
  deriving DecidableEq

inductive RequestAttemptOutcome where
  | succeeded
  | failed
  deriving DecidableEq

def RequestAttemptOutcome.all : List RequestAttemptOutcome := [.succeeded, .failed]

def RequestAttemptOutcome.value : RequestAttemptOutcome → PyText
  | .succeeded => ofString "succeeded"
  | .failed => ofString "failed"

structure AttemptRecord (φ : Type) where
  attemptNumber : Int
  startedAt : Nat
  completedAt : Nat
  outcome : RequestAttemptOutcome
  connectedAddress : Option PyText
  httpStatus : Option Int
  errorCode : Option PyText
  retryable : Option Bool
  retryScheduled : Bool
  backoffSeconds : φ
  deriving DecidableEq

structure ScanResult (φ : Type) where
  scanId : PyText
  scanType : PyText
  status : ScanStatus
  target : PyText
  engine : PyText
  engineVersion : PyText
  startedAt : Nat
  coverage : ScanCoverage
  completedAt : Option Nat
  findings : List NormalizedFinding
  errors : List ScanError
  connectedAddresses : List PyText
  httpStatuses : List Int
  requestAttempts : List (AttemptRecord φ)
  deriving DecidableEq

/-! ## Fields -/

section

variable [LowerTable] [StandardLibrary] [UnicodeTables]

/-- `_identifier`. -/
def identifierField (value : PyText) (name : String) : Checked PyText := do
  let cleaned := LowerTable.lower (← boundedText value name 128)
  require (isRuleId cleaned) (name ++ "_invalid")
    (name ++ " must use lowercase letters, digits, dots, underscores, or hyphens.")
  return cleaned

def canonicalTarget (target : PyText) : Checked PyText := do
  let candidate ← boundedText target "target" 4096
  require (!candidate.contains 92) "target_invalid" "target cannot contain backslashes."
  match urlsplit (characters candidate) with
  | none => invalid "target_invalid" "target is malformed."
  | some parsed =>
    let scheme := lower parsed.scheme
    require ((scheme = http || scheme = https) && parsed.hostname.isSome
        && parsed.userinfo = (none, none) && parsed.query.isEmpty && parsed.fragment.isEmpty)
      "target_invalid" "target must be an HTTP(S) URL without credentials, query, or fragment."
    match parsed.port with
    | none => invalid "target_invalid" "target contains an invalid port."
    | some configured =>
      let hostname := assetHost candidate parsed
      require (!hostname.isEmpty) "target_invalid" "target does not contain a usable hostname."
      let path := urlPath candidate parsed
      return assetText scheme hostname (portOr scheme configured)
        ++ if path.isEmpty then [47] else path

def targetOrigin (canonicalTarget : PyText) : Checked PyText :=
  match urlsplit (characters canonicalTarget) with
  | none => invalid "ValueError" "Invalid URL"
  | some parsed =>
    let hostname := if parsed.hostname.isSome
      then hostnameOf (hostOf (netlocOf canonicalTarget parsed)) else []
    match parsed.port with
    | none => invalid "ValueError" "Invalid port"
    | some configured => .ok (assetText parsed.scheme hostname (portOr parsed.scheme configured))

/-! ## Constructors -/

/-- `__post_init__` of `SkippedCheck`. -/
def SkippedCheck.postInit (raw : SkippedCheck) : Checked SkippedCheck := do
  let checkId ← identifierField raw.checkId "check_id"
  let reason ← boundedText raw.reason "skip_reason" 2048
  return { checkId, reason }

/-- `checks.issubset(planned)`. -/
def subset (checks planned : List PyText) : Bool := checks.all planned.contains

/-- `__post_init__` of `ScanCoverage`. -/
def ScanCoverage.postInit (raw : ScanCoverage) : Checked ScanCoverage := do
  require (0 ≤ raw.requestsAttempted) "requests_attempted_invalid"
    "requests_attempted must be a non-negative integer."
  require (0 ≤ raw.requestsSucceeded && raw.requestsSucceeded ≤ raw.requestsAttempted)
    "requests_succeeded_invalid"
    "requests_succeeded must be between zero and requests_attempted."
  let planned := sortedSet (← raw.plannedChecks.mapM (identifierField · "planned_check_id"))
  let executed := sortedSet (← raw.executedChecks.mapM (identifierField · "executed_check_id"))
  require (subset executed planned) "executed_check_not_planned"
    "Every executed check must appear in planned_checks."
  let skipped := raw.skippedChecks.map SkippedCheck.checkId
  require (skipped.Nodup) "skipped_check_duplicate" "A check cannot be skipped more than once."
  require (subset skipped planned) "skipped_check_not_planned"
    "Every skipped check must appear in planned_checks."
  require (skipped.all (!executed.contains ·)) "check_executed_and_skipped"
    "A check cannot be both executed and skipped."
  return { raw with
    plannedChecks := planned
    executedChecks := executed
    skippedChecks := raw.skippedChecks.insertionSort fun a b => a.checkId ≤ b.checkId }

def ScanCoverage.unaccountedChecks (coverage : ScanCoverage) : List PyText :=
  coverage.plannedChecks.filter fun checkId =>
    !coverage.executedChecks.contains checkId
      && !(coverage.skippedChecks.map SkippedCheck.checkId).contains checkId

/-- `__post_init__` of `ScanError`. -/
def ScanError.postInit (raw : ScanError) : Checked ScanError := do
  let code ← identifierField raw.code "error_code"
  let stage ← identifierField raw.stage "error_stage"
  let message ← boundedText raw.message "error_message" 4096
  return { raw with code, message, stage }

/-- The order of a dataclass with `order=True`. -/
def ScanError.le (a b : ScanError) : Bool :=
  a.code < b.code || (a.code = b.code && (a.message < b.message || (a.message = b.message
    && (a.stage < b.stage || (a.stage = b.stage && (!a.retryable || b.retryable))))))

/-- `sorted(set(errors))`. -/
def sortedErrors (errors : List ScanError) : List ScanError :=
  errors.dedup.insertionSort (fun a b => a.le b = true)

/-- The address of an attempt, as it is stored. -/
def attemptAddress (value : Option PyText) : Checked (Option PyText) :=
  match value with
  | none => .ok none
  | some text =>
    let refused := invalid "request_attempt_connected_address_invalid"
      "connected_address must be a valid IP address."
    match boundedText text "request_attempt_connected_address" 128 with
    | .error _ => refused
    | .ok cleaned =>
      match ipAddress (characters cleaned) with
      | none => refused
      | some address => .ok (some (codePoints address.compressed))

variable {φ : Type} [PyFloat φ]

/-- A float from zero to an hour. -/
def backoffInRange (backoff : φ) : Bool :=
  PyFloat.isFinite backoff && 0 ≤ PyFloat.value backoff && PyFloat.value backoff ≤ 3600

/-- The fields that go with an outcome. -/
def AttemptRecord.checkOutcome (attempt : AttemptRecord φ) : Checked Unit :=
  match attempt.outcome with
  | .succeeded => do
    require (attempt.connectedAddress.isSome && attempt.httpStatus.isSome)
      "request_attempt_success_metadata_required"
      "Successful attempts require an address and HTTP status."
    require (attempt.errorCode.isNone && attempt.retryable.isNone)
      "request_attempt_success_error_invalid"
      "Successful attempts cannot contain error metadata."
    require (!attempt.retryScheduled && PyFloat.value attempt.backoffSeconds = 0)
      "request_attempt_success_retry_invalid" "Successful attempts cannot schedule a retry."
  | .failed => do
    require (attempt.errorCode.isSome && attempt.retryable.isSome)
      "request_attempt_failure_error_required" "Failed attempts require error_code and retryable."
    require (!attempt.retryScheduled || attempt.retryable = some true)
      "request_attempt_retry_not_allowed" "A non-retryable failure cannot schedule a retry."
    require (attempt.retryScheduled || PyFloat.value attempt.backoffSeconds = 0)
      "request_attempt_backoff_without_retry"
      "backoff_seconds must be zero when no retry is scheduled."

/-- A status code that HTTP has. -/
def isStatusCode (status : Int) : Bool := 100 ≤ status && status ≤ 599

/-- The error code of an attempt, as it is stored. -/
def attemptErrorCode (value : Option PyText) : Checked (Option PyText) :=
  match value with
  | none => .ok none
  | some code => (identifierField code "request_attempt_error_code").map some

/-- `__post_init__` of `RequestAttempt`. -/
def AttemptRecord.postInit (raw : AttemptRecord φ) : Checked (AttemptRecord φ) := do
  require (1 ≤ raw.attemptNumber) "request_attempt_number_invalid"
    "attempt_number must be a positive integer."
  require (raw.startedAt ≤ raw.completedAt) "request_attempt_time_invalid"
    "Request attempt completion cannot precede its start."
  let connectedAddress ← attemptAddress raw.connectedAddress
  require (raw.httpStatus.all isStatusCode) "request_attempt_http_status_invalid"
    "http_status must be an integer from 100 to 599."
  let errorCode ← attemptErrorCode raw.errorCode
  require (backoffInRange raw.backoffSeconds) "request_attempt_backoff_invalid"
    "backoff_seconds must be between 0 and 3600 seconds."
  let attempt := { raw with connectedAddress, errorCode }
  attempt.checkOutcome
  return attempt

/-! ## The result -/

variable [ReportLibrary φ]

omit [LowerTable] [StandardLibrary] [UnicodeTables] [PyFloat φ] in
variable (φ) in
/-- `str(uuid.UUID(_required_text(scan_id, "scan_id", 64)))`. -/
def scanIdField (value : PyText) : Checked PyText :=
  let refused := invalid "scan_id_invalid" "scan_id must be a valid UUID."
  match boundedText value "scan_id" 64 with
  | .error _ => refused
  | .ok cleaned =>
    if isCanonicalUuid (String.ofList (characters cleaned)) then .ok cleaned
    else (ReportLibrary.uuid φ cleaned).elim refused .ok

def isTerminal (status : ScanStatus) : Bool :=
  status = .completed || status = .completedWithErrors || status = .failed || status = .cancelled

/-- The times that go with a status. -/
def checkTimes (status : ScanStatus) (startedAt : Nat) (completedAt : Option Nat) :
    Checked Unit := do
  require (!isTerminal status || completedAt.isSome) "completed_at_required"
    "Terminal scan statuses require completed_at."
  require (isTerminal status || completedAt.isNone) "completed_at_not_allowed"
    "Non-terminal scan statuses cannot have completed_at."
  require (completedAt.all (startedAt ≤ ·)) "completed_at_before_started_at"
    "completed_at cannot be earlier than started_at."

/-- The findings of one origin; `seen` has the fingerprints of those before. -/
def checkFindings (fingerprint : NormalizedFinding → PyText) (origin : PyText) :
    List PyText → List NormalizedFinding → Checked Unit
  | _, [] => .ok ()
  | seen, finding :: rest => do
    require (finding.identity.asset = origin) "finding_asset_mismatch"
      "Every finding must belong to the scan target origin."
    require (!seen.contains (fingerprint finding)) "finding_duplicate"
      "A scan result cannot contain duplicate finding fingerprints."
    checkFindings fingerprint origin (fingerprint finding :: seen) rest

/-- The errors and the coverage that go with a status. -/
def checkStatus (status : ScanStatus) (coverage : ScanCoverage) (errors : List ScanError) :
    Checked Unit := do
  require (!((status = .completed || status = .completedWithErrors)
      && !coverage.unaccountedChecks.isEmpty)) "terminal_coverage_incomplete"
    "Completed scans must account for every planned check."
  require (!(status = .completed && !errors.isEmpty)) "completed_scan_has_errors"
    "A completed scan cannot contain errors."
  require (!((status = .completedWithErrors || status = .failed) && errors.isEmpty))
    "scan_errors_required" "This scan status requires at least one error."

/-- An address of the result, as it is stored. -/
def addressField (value : PyText) : Checked PyText :=
  match ipAddress (characters value) with
  | none => invalid "connected_address_invalid"
      ("Invalid connected address " ++ UnicodeTables.quoted value ++ ".")
  | some address => .ok (codePoints address.compressed)

def statusField (value : Int) : Checked Int := do
  require (isStatusCode value) "http_status_invalid"
    "HTTP status codes must be integers from 100 to 599."
  return value

/-- The attempts of a result, in the order of their numbers. -/
def checkAttempts (status : ScanStatus) (coverage : ScanCoverage) (startedAt : Nat)
    (completedAt : Option Nat) (addresses : List PyText) (statuses : List Int)
    (attempts : List (AttemptRecord φ)) : Checked Unit := do
  require (attempts.map AttemptRecord.attemptNumber
      = (List.range attempts.length).map fun n => ((n + 1 : Nat) : Int))
    "request_attempt_sequence_invalid" "Request attempts must be uniquely numbered from one."
  require ((attempts.length : Int) = coverage.requestsAttempted) "request_attempt_count_mismatch"
    "Request attempt history must match requests_attempted."
  require (((attempts.filter (·.outcome = .succeeded)).length : Int) = coverage.requestsSucceeded)
    "request_attempt_success_count_mismatch"
    "Request attempt history must match requests_succeeded."
  attempts.forM fun attempt => do
    require (startedAt ≤ attempt.startedAt) "request_attempt_before_scan"
      "Request attempts cannot begin before the scan."
    require (completedAt.all (attempt.completedAt ≤ ·)) "request_attempt_after_scan"
      "Request attempts cannot finish after the scan."
  require (!(isTerminal status && attempts.getLast?.any AttemptRecord.retryScheduled))
    "request_attempt_terminal_retry_invalid" "A terminal scan cannot end with a scheduled retry."
  let attemptAddresses := attempts.filterMap AttemptRecord.connectedAddress
  let attemptStatuses := attempts.filterMap AttemptRecord.httpStatus
  require (attemptAddresses.all addresses.contains && addresses.all attemptAddresses.contains)
    "request_attempt_address_mismatch" "Attempt addresses must match connected_addresses."
  require (attemptStatuses.all statuses.contains && statuses.all attemptStatuses.contains)
    "request_attempt_status_mismatch" "Attempt statuses must match http_statuses."

variable (φ) in
/-- The order of stored addresses: by version, then by value. -/
def addressLe (a b : PyText) : Bool :=
  let version := fun text : PyText => (ipAddress (characters text)).any IpAddress.isIPv6
  let value := fun text : PyText => ReportLibrary.addressValue φ (characters text)
  (!version a && version b) || (version a = version b && value a ≤ value b)

variable [DecidableEq φ] (digest : List Char → PyText)

/-- `__post_init__` of `ScanResult`. -/
def ScanResult.postInit (raw : ScanResult φ) : Checked (ScanResult φ) := do
  let fingerprint := fun finding : NormalizedFinding => finding.identity.fingerprint φ digest
  let scanId ← scanIdField φ raw.scanId
  let target ← canonicalTarget raw.target
  let origin ← targetOrigin target
  checkTimes raw.status raw.startedAt raw.completedAt
  checkFindings fingerprint origin [] raw.findings
  let errors := sortedErrors raw.errors
  checkStatus raw.status raw.coverage errors
  let addresses := (← raw.connectedAddresses.mapM addressField).dedup
  let statuses := (← raw.httpStatuses.mapM statusField).dedup
  let attempts := raw.requestAttempts.insertionSort fun a b => a.attemptNumber ≤ b.attemptNumber
  if attempts.isEmpty then pure () else
    checkAttempts raw.status raw.coverage raw.startedAt raw.completedAt addresses statuses attempts
  let scanType ← identifierField raw.scanType "scan_type"
  let engine ← identifierField raw.engine "engine"
  let engineVersion ← boundedText raw.engineVersion "engine_version" 64
  return { raw with
    scanId, scanType, target, engine, engineVersion, errors
    findings := raw.findings.insertionSort fun a b => fingerprint a ≤ fingerprint b
    connectedAddresses := addresses.insertionSort (addressLe φ · ·)
    httpStatuses := statuses.insertionSort (· ≤ ·)
    requestAttempts := attempts }

end

end WebGuard.ScanReports
