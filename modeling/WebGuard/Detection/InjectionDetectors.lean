import WebGuard.Detection.DetectorRuns

/-!
# Detectors of injections

`sqli_error_detector.py` and `xss_reflected_detector.py`, and the registry that has both. Each asks
for its budget first and then takes up one candidate after the other: what is wrong with a template
is noted as the failure of its candidate, any other error ends the run.

The candidates are request templates, as everything that the executor gives to a detector of the
registry.
-/

namespace WebGuard.ActiveDetection

open PyJson UrlParse StandardLibrary FindingContract RequestTemplates
open Pagination (Interpreter)

/-- `part in text`. -/
def hasPart (text part : PyText) : Bool := text.tails.any part.isPrefixOf

/-- What happens around the probes of a detector. Candidates, and the requests of a candidate, come
by their positions. -/
structure ProbeSurroundings where
  cancelled : Nat → Bool
  exchange : Nat → Nat → MutatedRequest → Exchange
  /-- `uuid4().hex[:16]`. -/
  marker : Nat → PyText
  now : Nat → Nat

/-- What `except RequestTemplateError` makes of the requests of a candidate. -/
def orTemplateError {α ρ : Type} (requests : Except Failure α)
    (classify : α → Except Failure (Probed ρ)) : Except Failure (Probed ρ) :=
  match requests with
  | .ok attempts => classify attempts
  | .error (.template (.template (.requestTemplate code _))) => .ok (.failed (ofString code))
  | .error failure => .error failure

/-! ## Error-based SQL injection -/

inductive SqliDetectionOutcome where
  | found (outcome : Outcome)
  | inconclusive
  deriving DecidableEq

structure SqliDetectorRunRecord where
  candidate : RequestTemplate
  outcome : SqliDetectionOutcome
  baselineUrl : Text
  diagnosticUrl : Text
  matchedSignature : Option PyText
  detectedAt : Nat

def databaseErrorSignatures : List PyText :=
  [ofString "unterminated quoted string", ofString "syntax error at or near",
    ofString "invalid input syntax for", ofString "pg_query(): query failed",
    ofString "you have an error in your sql syntax", ofString "warning: mysqli",
    ofString "warning: mysql_",
    ofString "check the manual that corresponds to your (mysql|mariadb) server version",
    ofString "unclosed quotation mark after the character string",
    ofString "incorrect syntax near", ofString "microsoft odbc sql server driver",
    ofString "system.data.sqlclient.sqlexception", ofString "sqlite3.operationalerror",
    ofString "sqlite_error", ofString "near \"'\": syntax error",
    ofString "unrecognized token:"]

def findSignature [LowerTable] (bodyText : PyText) : Option PyText :=
  databaseErrorSignatures.find? (hasPart (LowerTable.lower bodyText))

/-- `_classify`, of the texts and the statuses of the two responses. -/
def classifyTexts [LowerTable] (baselineText diagnosticText : PyText)
    (baselineStatus diagnosticStatus : Nat) : SqliDetectionOutcome × Option PyText :=
  let baselineSignature := findSignature baselineText
  let diagnosticSignature := findSignature diagnosticText
  if diagnosticSignature = none then (.inconclusive, none)
  else if baselineSignature = diagnosticSignature then (.inconclusive, none)
  else if baselineStatus ≠ diagnosticStatus then (.found .confirmed, diagnosticSignature)
  else (.found .probable, diagnosticSignature)

/-- `_classify`. -/
def classifySqli [LowerTable] (baseline diagnostic : ProbeResponse) :
    SqliDetectionOutcome × Option PyText :=
  classifyTexts (bodyText baseline.body) (bodyText diagnostic.body) baseline.status diagnostic.status

/-! ## Reflected cross-site scripting -/

inductive DetectionOutcome where
  | found (outcome : XssOutcome)
  | inconclusive
  deriving DecidableEq

structure DetectorRunRecord where
  candidate : RequestTemplate
  outcome : DetectionOutcome
  requestedUrl : Text
  marker : PyText
  detectedAt : Nat

def classifyReflection (marker bodyText : PyText) : DetectionOutcome :=
  let lt := ofString "<"
  let gt := ofString ">"
  let encodedLt := ofString "&lt;"
  let encodedGt := ofString "&gt;"
  if hasPart bodyText (lt ++ marker ++ gt) then .found .confirmed
  else if (hasPart bodyText (lt ++ marker) && !hasPart bodyText (encodedLt ++ marker))
      || (hasPart bodyText (marker ++ gt) && !hasPart bodyText (marker ++ encodedGt)) then
    .found .probable
  else if !hasPart bodyText marker then .inconclusive
  else if hasPart bodyText (encodedLt ++ marker ++ encodedGt) then .found .informational
  else .found .suspected

/-! ## The detectors -/

section

variable (φ : Type) [PyFloat φ] [NamedFloats φ] [UnicodeTables] [DigitTable] [StandardLibrary]
  [LowerTable]
variable (interpreter : Interpreter) (target : PyTarget) (context : ActiveDetectionContext)
  (surroundings : ProbeSurroundings)

/-- A request of a candidate with one value in place of its own. -/
def issueMutated (index request : Nat) (template : RequestTemplate) (value : PyText) :
    Except Failure ProbeAttempt := do
  let mutated ← (mutate φ interpreter defaultJsonMutationBudget template template.parameter
    value).mapError Failure.template
  issueRequest target mutated.url (surroundings.exchange index request mutated)

/-- The value of a template, or an empty one where it cannot be read. -/
def currentValue (template : RequestTemplate) : Except Failure PyText :=
  match getTemplateParameterValue φ interpreter template template.parameter with
  | .ok value => .ok value
  | .error (.template (.requestTemplate _ _)) => .ok []
  | .error failure => .error (.template failure)

/-- `_issue_templated_baseline_and_diagnostic`. -/
def issueBaselineAndDiagnostic (index : Nat) (template : RequestTemplate) :
    Except Failure (ProbeAttempt × Option ProbeAttempt) := do
  let current ← currentValue φ interpreter template
  let baselineValue := if current.isEmpty then ofString "1" else current
  let baseline ← issueMutated φ interpreter target surroundings index 0 template baselineValue
  if !baseline.response.isOk then return (baseline, none)
  let diagnostic ←
    issueMutated φ interpreter target surroundings index 1 template (ofString "'")
  return (baseline, some diagnostic)

/-- The finding of an outcome that is reported. -/
def sqliFinding (index : Nat) (template : RequestTemplate) (url : Text) :
    SqliDetectionOutcome → Except Failure (Option NormalizedFinding)
  | .inconclusive => .ok none
  | .found outcome => do
    let finding ← Sighting.buildFinding target {
      advisory := sqliAdvisory outcome
      url := url
      method := template.method
      parameter := template.parameter
      provenance := context.provenance "active.sqli.error"
        ++ ofString (". Matched signature category: database-engine error output "
          ++ "(signature text not retained). Outcome: " ++ outcome.value ++ ".")
      detectedAt := surroundings.now index }
    return some finding

/-- A turn of the loop of `run_sqli_error_detector`. -/
def probeSqli (index : Nat) (template : RequestTemplate) :
    Except Failure (Probed SqliDetectorRunRecord) :=
  orTemplateError (issueBaselineAndDiagnostic φ interpreter target surroundings index template)
    fun attempts =>
      match attempts.1.response, attempts.2.map ProbeAttempt.response with
      | .error errorCode, _ => .ok (.failed (probeErrorCode errorCode))
      | .ok _, none => .ok (.failed (probeErrorCode []))
      | .ok _, some (.error errorCode) => .ok (.failed (probeErrorCode errorCode))
      | .ok baseline, some (.ok diagnostic) => do
        let diagnosticUrl := (attempts.2.map ProbeAttempt.requestedUrl).getD []
        let (outcome, matchedSignature) := classifySqli baseline diagnostic
        let finding ← sqliFinding target context surroundings index template diagnosticUrl outcome
        return Probed.recorded {
          candidate := template
          outcome
          baselineUrl := attempts.1.requestedUrl
          diagnosticUrl
          matchedSignature
          detectedAt := surroundings.now index } finding

/-- `_REQUESTS_PER_CANDIDATE`. -/
def sqliRequestsPerCandidate : Nat := 2

def newMarker (index : Nat) : PyText := ofString "wgxss" ++ surroundings.marker index

/-- `_issue_templated_probe`; a JSON body is not probed. -/
def issueXssProbe (index : Nat) (template : RequestTemplate) : Except Failure ProbeAttempt :=
  if template.contentType = ContentType.json then
    .error (.template (.template (.requestTemplate "xss_json_body_not_supported"
      ("Reflected-XSS evidence semantics do not apply to a JSON request/response body; this "
      ++ "detector only probes GET query/form and POST form parameters."))))
  else
    issueMutated φ interpreter target surroundings index 0 template
      (ofString "<" ++ newMarker surroundings index ++ ofString ">")

/-- The finding of an outcome that is reported. -/
def xssFinding (index : Nat) (template : RequestTemplate) (url : Text) :
    DetectionOutcome → Except Failure (Option NormalizedFinding)
  | .inconclusive => .ok none
  | .found outcome => do
    let finding ← Sighting.buildFinding target {
      advisory := xssAdvisory outcome
      url := url
      method := template.method
      parameter := template.parameter
      provenance := context.provenance "active.xss.reflected" ++ ofString ". Marker: "
        ++ newMarker surroundings index ++ ofString (". Outcome: " ++ outcome.value ++ ".")
      detectedAt := surroundings.now index }
    return some finding

/-- A turn of the loop of `run_reflected_xss_detector`. -/
def probeXss (index : Nat) (template : RequestTemplate) :
    Except Failure (Probed DetectorRunRecord) :=
  orTemplateError (issueXssProbe φ interpreter target surroundings index template) fun attempt =>
    match attempt.response with
    | .error errorCode => .ok (.failed (probeErrorCode errorCode))
    | .ok response => do
      let outcome := classifyReflection (newMarker surroundings index) (bodyText response.body)
      let finding ← xssFinding target context surroundings index template attempt.requestedUrl
        outcome
      return Probed.recorded {
        candidate := template
        outcome
        requestedUrl := attempt.requestedUrl
        marker := newMarker surroundings index
        detectedAt := surroundings.now index } finding

/-! ## The registry -/

/-- A detector of `ACTIVE_DETECTOR_REGISTRY`. -/
inductive Detector where
  | sqliError
  | xssReflected
  deriving DecidableEq

def activeDetectorRegistry (checkId : PyText) : Option Detector :=
  if checkId = ofString "active.xss.reflected" then some .xssReflected
  else if checkId = ofString "active.sqli.error" then some .sqliError
  else none

/-- What a detector asks of the budget for each candidate. -/
def Detector.requestsPerCandidate : Detector → Nat
  | .sqliError => sqliRequestsPerCandidate
  | .xssReflected => 1

/-- A run of a detector whose turns are known: the candidates that it takes up, and its findings. -/
def runBudgeted {ρ : Type} (policy : ActiveDetectionPolicy) (requestsPerCandidate : Nat)
    (probe : Nat → RequestTemplate → Except Failure (Probed ρ))
    (candidates : List RequestTemplate) :
    List RequestTemplate × Except Failure (DetectorRunResult ρ) :=
  match enforceProbeBudget candidates.length policy requestsPerCandidate with
  | .error failure => ([], .error failure)
  | .ok _ => probeCandidates surroundings.cancelled probe .empty 0 candidates

def runSqliErrorDetector (policy : ActiveDetectionPolicy) (candidates : List RequestTemplate) :
    List RequestTemplate × Except Failure (DetectorRunResult SqliDetectorRunRecord) :=
  runBudgeted surroundings policy sqliRequestsPerCandidate
    (probeSqli φ interpreter target context surroundings) candidates

def runReflectedXssDetector (policy : ActiveDetectionPolicy) (candidates : List RequestTemplate) :
    List RequestTemplate × Except Failure (DetectorRunResult DetectorRunRecord) :=
  runBudgeted surroundings policy 1 (probeXss φ interpreter target context surroundings) candidates

/-- A detector on the candidates: those that it takes up, and its findings. -/
def Detector.run (policy : ActiveDetectionPolicy) (candidates : List RequestTemplate) :
    Detector → List RequestTemplate × Except Failure (List NormalizedFinding)
  | .sqliError =>
    (runSqliErrorDetector φ interpreter target context surroundings policy candidates).map id
      (·.map DetectorRunResult.findings)
  | .xssReflected =>
    (runReflectedXssDetector φ interpreter target context surroundings policy candidates).map id
      (·.map DetectorRunResult.findings)

/-- The error that ends a run of a detector within its budget, when nobody cancels it. -/
def Detector.firstFailure (candidates : List RequestTemplate) : Detector → Option Failure
  | .sqliError => ActiveDetection.firstFailure
    (probeSqli φ interpreter target context surroundings) 0 candidates
  | .xssReflected => ActiveDetection.firstFailure
    (probeXss φ interpreter target context surroundings) 0 candidates

end

end WebGuard.ActiveDetection
