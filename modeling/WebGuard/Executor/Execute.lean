import WebGuard.Executor.Artifacts
import WebGuard.Safety.Engine

/-!
# One execution of a job

`ScanJobExecutor.execute`: the checks that admit the job, the scan record, the audit document of
the owned target, the scan itself, and what is stored of its end.

What the executor asks others is an input (`ExecutionContext`): the repositories, the permit and
target validation, the scanner with its three detection passes, the signer, the clock, and the
identifier that `uuid4` draws. None of these is written by `execute`; what it does write is the
`World`.
-/

namespace WebGuard

open Interrupt Program

/-- The code and the message of an exception that carries both. -/
structure CodedError where
  code : String
  message : String

/-- A `ValueError`; only some have a code. -/
structure ValueError where
  code : Option String
  text : String

/-- What `execute` reads of an owned-target authorization. -/
structure AuthorizationView where
  fingerprint : String
  target : String

/-- One operation of a report: a page, or the whole of a single-page scan. -/
structure ReportOperation where
  asset : String
  path : String
  status : ScanStatus
  plannedChecks : List String
  executedChecks : List String
  skippedChecks : List String
  deriving DecidableEq

/-- A `WebGuardReport`, as far as it is stored. -/
structure Report where
  status : ScanStatus
  findings : List Finding
  operations : List ReportOperation
  /-- `to_json()`. -/
  document : String
  deriving DecidableEq

/-- How the scanner and the three detection passes after it end. -/
inductive ScannerEnd where
  | report (report : Report)
  /-- `TrustScanRuntimeSafetyError`. -/
  | safetyError (code message : String)
  | raised (exception : String)

section

variable [Primitives]

/-- The answers that one execution gets from everybody it asks. -/
structure ExecutionContext where
  record : ScanJobRecordFields
  /-- The cancellation token, at the start and after the preflight. -/
  cancelledAtStart : Bool := false
  cancelledAfterPreflight : Bool := false
  authorization : Except CodedError AuthorizationView
  /-- The first field of `get_scope`. -/
  scope : Option String
  /-- The assignment checker, where there is one; it may fail. -/
  assignment : Option (Except Unit Bool)
  binding : Option (String × String)
  /-- The fingerprint of the permit that `get_scan_permit_scoped` finds. -/
  permit : Except CodedError String
  /-- `validate_permit_use`. -/
  permitUse : Except CodedError Unit
  /-- `validate_target_url`. -/
  target : Except ValueError Unit
  scanId : String
  /-- `validate_owned_target_preflight`, with the JSON of its audit record. -/
  preflight : Except ValueError String
  /-- The answer of the organization resolver; none also where there is no resolver. -/
  organization : Option String
  scanner : ScannerEnd
  /-- `safety.signed_receipt`, by termination reason. -/
  signedReceipt : TerminationReason → Except String ArtifactSettings.SignedReceipt
  /-- The readings of the clock, in the order they are taken. -/
  clock : Nat → Nat

namespace ExecutionContext

variable (c : ExecutionContext)

/-- What the checks hand on: the organization of the scope, and the audit document. -/
structure Admission where
  scope : String
  auditDocument : String

def fromCoded {α : Type} : Except CodedError α → Except ExecutionError α
  | .ok a => .ok a
  | .error e => .error (jobError e.code e.message)

def fromValue {α : Type} (code : String) : Except ValueError α → Except ExecutionError α
  | .ok a => .ok a
  | .error e => .error (jobError (e.code.getD code) e.text)

def demand (condition : Bool) (code message : String) : Except ExecutionError Unit :=
  if condition then .ok () else .error (jobError code message)

def cancelledBeforeExecution (cancelled : Bool) : Except ExecutionError Unit :=
  demand (!cancelled) "job_cancelled_before_execution"
    "The job was cancelled before scanner execution."

/-- The authorization assignment, where a checker is configured. -/
def checkAssignment : Except ExecutionError Unit :=
  match c.assignment with
  | none => .ok ()
  | some (.error _) =>
    .error (jobError "authorization_assignment_check_failed"
      "Unable to verify the organization authorization assignment.")
  | some (.ok assigned) =>
    demand assigned "authorization_not_assigned"
      "The authorization is no longer assigned to this organization."

/-- The checks of `execute` before it writes anything. -/
def admitted : Except ExecutionError Admission := do
  demand (c.record.state == .running) "job_not_running" "Only a running job can be executed."
  cancelledBeforeExecution c.cancelledAtStart
  let authorization ← fromCoded c.authorization
  demand (authorization.fingerprint == c.record.request.authorizationSha256)
    "authorization_changed_after_submission"
    "The server-side authorization changed after the job was submitted."
  demand (authorization.target == c.record.request.target) "authorization_target_mismatch"
    "The job target no longer matches the server-side authorization."
  match c.scope with
  | none =>
    .error (jobError "trustscan_job_scope_missing"
      "The service job does not contain organization scope metadata.")
  | some scope =>
    c.checkAssignment
    match c.binding with
    | none =>
      .error (jobError "trustscan_permit_missing"
        "The service job is not bound to a TrustScan permit.")
    | some (_, fingerprint) =>
      let permit ← fromCoded c.permit
      demand (permit == fingerprint) "trustscan_permit_binding_changed"
        "The job TrustScan permit fingerprint does not match the persisted permit."
      fromCoded c.permitUse
      fromValue "target_validation_failed" c.target
      let auditDocument ← fromValue "owned_target_preflight_failed" c.preflight
      cancelledBeforeExecution c.cancelledAfterPreflight
      return { scope, auditDocument }

/-! ## Where the artifacts lie -/

/-- `relative_directory`. -/
def jobDirectory (organization : Option String) (jobId : String) : ArtifactPath :=
  match organization with
  | none => ["jobs", jobId]
  | some organizationId => ["organizations", organizationId, "jobs", jobId]

def auditName : String := "authorization-audit.json"

def reportName : String := "report.json"

def safetyReceiptName : String := "trustscan-safety-receipt.json"

def directory : ArtifactPath := jobDirectory c.organization c.record.jobId

def auditPath : ArtifactPath := c.directory ++ [auditName]

def reportPath : ArtifactPath := c.directory ++ [reportName]

def safetyReceiptPath : ArtifactPath := c.directory ++ [safetyReceiptName]

/-! ## What is recorded of a report -/

/-- The status of one planned check. -/
def checkStatus (o : ReportOperation) (checkId : String) : CoverageStatus :=
  if o.executedChecks.contains checkId then .completed
  else if o.skippedChecks.contains checkId then .blocked
  else if o.status = .failed then .unreachable
  else .completed

/-- `_record_coverage_for_report`, for the checks of one operation. -/
def recordChecks (scope : String) (o : ReportOperation) : List String → Job Unit
  | [] => pure ()
  | checkId :: rest => do
    recordCoverage ⟨scope, o.asset, o.path, checkId⟩ (checkStatus o checkId) c.scanId (c.clock 1)
    recordChecks scope o rest

def recordCoverageForReport (scope : String) : List ReportOperation → Job Unit
  | [] => pure ()
  | o :: rest => do
    c.recordChecks scope o o.plannedChecks
    recordCoverageForReport scope rest

/-- The loop over the findings of the report; each reads the clock again. -/
def recordFindings (scope : String) : Nat → List Finding → Job Unit
  | _, [] => pure ()
  | reading, f :: rest => do
    recordFinding scope c.scanId f (c.clock reading)
    recordFindings scope (reading + 1) rest

/-- The records of a finished scan, for a job that belongs to an organization. -/
def recordReport (scope : String) (report : Report) : Job Unit :=
  match c.organization with
  | none => pure ()
  | some _ => do
    c.recordFindings scope 3 report.findings
    c.recordCoverageForReport scope report.operations
    completeScan
      { scanId := c.scanId, organizationId := scope, status := report.status,
        reportRef := some (asPosix c.reportPath), findingCount := report.findings.length,
        now := c.clock 2 }

end ExecutionContext

structure JobExecutionOutcome where
  report : Report
  reportRef : String
  auditRef : String
  safetyReceiptRef : String
  safetyReceiptSha256 : String
  deriving DecidableEq

namespace ArtifactSettings

open ExecutionContext

variable (e : ArtifactSettings) (c : ExecutionContext)

/-- The scan record of a job that belongs to an organization. -/
def registerScan (scope : String) : Job Unit :=
  match c.organization with
  | none => pure ()
  | some _ => createScan (.created c.scanId scope c.record.jobId (c.clock 0))

/-- The artifact directory, and the directory of the job in it. -/
def prepareDirectories (directory : ArtifactPath) : Job Unit := do
  e.preparePrivateDirectory []
  e.preparePrivateDirectory directory

/-- The receipt of the run, written for one termination reason. -/
def storeReceipt (reason : TerminationReason) (between : Job Unit) : Job String := do
  let receipt ← ofExcept ((c.signedReceipt reason).mapError .raised)
  between
  writeSignedSafetyReceipt receipt c.safetyReceiptPath

/-- What follows the scanner. -/
def concludeExecution (scope : String) : Job JobExecutionOutcome :=
  match c.scanner with
  | .raised exception => raise (.raised exception)
  | .safetyError code message => do
    let digest ← storeReceipt c .safetyBlocked (pure ())
    raise (.job code message ⟨some (asPosix c.safetyReceiptPath), some digest⟩)
  | .report report => do
    let digest ← storeReceipt c (.finished report.status)
      (e.putArtifact c.reportPath (report.document ++ "\n"))
    c.recordReport scope report
    return {
      report := report
      reportRef := asPosix c.reportPath
      auditRef := asPosix c.auditPath
      safetyReceiptRef := asPosix c.safetyReceiptPath
      safetyReceiptSha256 := digest }

def execute : Job JobExecutionOutcome := do
  let admission ← ofExcept c.admitted
  registerScan c admission.scope
  e.prepareDirectories c.directory
  e.writeOwnedTargetDocument c.directory auditName admission.auditDocument
  e.concludeExecution c admission.scope

end ArtifactSettings

end

end WebGuard
