import WebGuard.Contracts.ScanLoader

/-!
# Comparisons of reports

The contract of `reporting.py`: the comparison of two reports, what it is written as, and
`load_report_comparison`, which puts every finding into a report of its own and gives that to the
loader of reports. `build_report_comparison` of `professional_report.py` makes a comparison by the
fingerprints of the two reports.
-/

namespace WebGuard.ReportComparisons

open PyJson UrlParse StandardLibrary FindingContract
open ScanPermits (sortedSet member)

/-! ## Values -/

inductive FindingDisposition where
  | new
  | remaining
  | fixed
  deriving DecidableEq

def FindingDisposition.text : FindingDisposition → String
  | .new => "new"
  | .remaining => "remaining"
  | .fixed => "fixed"

structure ComparedFinding where
  disposition : FindingDisposition
  finding : NormalizedFinding
  presentationChanged : Bool
  deriving DecidableEq

structure ReportComparison where
  baselineScanId : PyText
  currentScanId : PyText
  target : PyText
  baselineCompletedAt : Nat
  currentCompletedAt : Nat
  generatedAt : Nat
  newFindings : List ComparedFinding
  remainingFindings : List ComparedFinding
  fixedFindings : List ComparedFinding
  deriving DecidableEq

/-- The arguments of `ReportComparison(...)`; a loaded document may have anything for a text. -/
structure ComparisonInput (φ : Type) where
  baselineScanId : Json PyText φ
  currentScanId : Json PyText φ
  target : Json PyText φ
  baselineCompletedAt : Nat
  currentCompletedAt : Nat
  generatedAt : Nat
  newFindings : List ComparedFinding
  remainingFindings : List ComparedFinding
  fixedFindings : List ComparedFinding

/-- What a comparison reads of a report, of one page or of a crawl. -/
structure ReportView where
  scanId : PyText
  target : PyText
  completedAt : Option Nat
  findings : List NormalizedFinding
  deriving DecidableEq

def viewOf {φ : Type} (result : ScanReports.ScanResult φ) : ReportView where
  scanId := result.scanId
  target := result.target
  completedAt := result.completedAt
  findings := result.findings

/-! ## Constructors -/

/-- `__post_init__` of `ComparedFinding`. -/
def ComparedFinding.postInit (raw : ComparedFinding) : Checked ComparedFinding := do
  require (raw.disposition = .remaining || !raw.presentationChanged)
    "presentation_changed_disposition_invalid"
    "Only remaining findings can record presentation changes."
  return raw

/-- `_text`. -/
def comparisonText {φ : Type} (value : Json PyText φ) (name : String) (maximum : Nat) :
    Checked PyText :=
  match value with
  | .str text => boundedText text name maximum
  | _ => invalid (name ++ "_invalid") (name ++ " must be text.")

section

variable {φ : Type} (fingerprint : NormalizedFinding → PyText)

/-- A fingerprint that was not seen before; `seen` has those that were. -/
def addFingerprint (seen : List PyText) (item : ComparedFinding) : Checked (List PyText) := do
  require (!seen.contains (fingerprint item.finding)) "comparison_fingerprint_duplicate"
    "A finding fingerprint can appear only once."
  return fingerprint item.finding :: seen

/-- A group in the order of its fingerprints, and the fingerprints seen up to its end. -/
def orderGroup (name : String) (expected : FindingDisposition) (values : List ComparedFinding)
    (seen : List PyText) : Checked (List ComparedFinding × List PyText) := do
  require (values.all (·.disposition = expected)) (name ++ "_disposition_invalid")
    ("Every item in " ++ name ++ " must have disposition " ++ expected.text ++ ".")
  let ordered := values.insertionSort fun a b => fingerprint a.finding ≤ fingerprint b.finding
  let seen ← ordered.foldlM (addFingerprint fingerprint) seen
  return (ordered, seen)

/-- `__post_init__` of `ReportComparison`. -/
def ComparisonInput.postInit (raw : ComparisonInput φ) : Checked ReportComparison := do
  let baselineScanId ← comparisonText raw.baselineScanId "baseline_scan_id" 64
  let currentScanId ← comparisonText raw.currentScanId "current_scan_id" 64
  require (baselineScanId ≠ currentScanId) "comparison_scan_ids_equal"
    "Baseline and current scan IDs must be different."
  let target ← comparisonText raw.target "target" 4096
  require (raw.baselineCompletedAt ≤ raw.currentCompletedAt) "comparison_scan_order_invalid"
    "Current scan must not complete before the baseline scan."
  require (raw.currentCompletedAt ≤ raw.generatedAt) "comparison_generated_at_invalid"
    "generated_at must not precede the current scan completion."
  let (newFindings, seen) ← orderGroup fingerprint "new_findings" .new raw.newFindings []
  let (remainingFindings, seen) ←
    orderGroup fingerprint "remaining_findings" .remaining raw.remainingFindings seen
  let (fixedFindings, _) ← orderGroup fingerprint "fixed_findings" .fixed raw.fixedFindings seen
  return {
    baselineScanId, currentScanId, target, newFindings, remainingFindings, fixedFindings
    baselineCompletedAt := raw.baselineCompletedAt
    currentCompletedAt := raw.currentCompletedAt
    generatedAt := raw.generatedAt }

/-! ## `build_report_comparison` -/

/-- What a report shows of a finding. -/
structure Presentation where
  title : PyText
  description : PyText
  severity : Severity
  confidence : Confidence
  remediation : PyText
  identifiers : List ExternalIdentifier
  evidence : List Evidence
  references : List PyText
  tags : List PyText
  deriving DecidableEq

def presentationSignature (finding : NormalizedFinding) : Presentation where
  title := finding.title
  description := finding.description
  severity := finding.severity
  confidence := finding.confidence
  remediation := finding.remediation
  identifiers := finding.identifiers
  evidence := finding.evidence
  references := finding.references
  tags := finding.tags

def completedAt (report : ReportView) : Checked Nat :=
  match report.completedAt with
  | some t => .ok t
  | none =>
    invalid "report_not_complete"
      "Professional reporting requires a terminal report with completed_at."

/-- `{item.fingerprint: item for item in findings}[key]`; the last item of a key counts. -/
def byFingerprint (findings : List NormalizedFinding) (key : PyText) : Option NormalizedFinding :=
  findings.reverse.find? (fingerprint · = key)

/-- The sorted keys of the findings that pass a test. -/
def sortedKeys (findings : List NormalizedFinding) (keep : PyText → Bool) : List PyText :=
  sortedSet ((findings.map fingerprint).filter keep)

/-- A finding of one report for each of the keys. -/
def itemsOf (disposition : FindingDisposition) (findings : List NormalizedFinding)
    (changed : NormalizedFinding → Bool) (keys : List PyText) : Checked (List ComparedFinding) :=
  (keys.filterMap (byFingerprint fingerprint findings)).mapM fun finding =>
    ComparedFinding.postInit ⟨disposition, finding, changed finding⟩

/-- Whether the two reports present a finding differently. -/
def presentedOtherwise (baseline : List NormalizedFinding) (finding : NormalizedFinding) : Bool :=
  match byFingerprint fingerprint baseline (fingerprint finding) with
  | some before => decide (presentationSignature finding ≠ presentationSignature before)
  | none => false

/-- `build_report_comparison`; `now` is the clock. -/
def buildReportComparison (baseline current : ReportView) (generatedAt : Option Nat) (now : Nat) :
    Checked ReportComparison := do
  require (baseline.target = current.target) "comparison_target_mismatch"
    "Baseline and current reports must have the same canonical target."
  let baselineCompleted ← completedAt baseline
  let currentCompleted ← completedAt current
  require (baselineCompleted ≤ currentCompleted) "comparison_scan_order_invalid"
    "Current report must not complete before the baseline report."
  let generated := generatedAt.getD now
  require (currentCompleted ≤ generated) "comparison_generated_at_invalid"
    "generated_at must not precede current report completion."
  let inBaseline := fun key => (baseline.findings.map fingerprint).contains key
  let inCurrent := fun key => (current.findings.map fingerprint).contains key
  let newFindings ← itemsOf fingerprint .new current.findings (fun _ => false)
    (sortedKeys fingerprint current.findings (!inBaseline ·))
  let fixedFindings ← itemsOf fingerprint .fixed baseline.findings (fun _ => false)
    (sortedKeys fingerprint baseline.findings (!inCurrent ·))
  let remainingFindings ← itemsOf fingerprint .remaining current.findings
    (presentedOtherwise fingerprint baseline.findings)
    (sortedKeys fingerprint current.findings inBaseline)
  let input : ComparisonInput Empty :=
    { baselineScanId := .str baseline.scanId
      currentScanId := .str current.scanId
      target := .str current.target
      baselineCompletedAt := baselineCompleted
      currentCompletedAt := currentCompleted
      generatedAt := generated
      newFindings, remainingFindings, fixedFindings }
  input.postInit fingerprint

end

/-! ## Writing -/

variable {φ : Type}

def ComparedFinding.toDict [PyFloat φ] (digest : List Char → PyText) (item : ComparedFinding) :
    List (PyText × Json PyText φ) :=
  [(ofString "disposition", .str (ofString item.disposition.text)),
    (ofString "presentation_changed", .bool item.presentationChanged),
    (ofString "finding", .obj (item.finding.toDict digest))]

/-- The counts of the groups, and of the findings that are presented differently. -/
def ReportComparison.summary (comparison : ReportComparison) : List (PyText × Json PyText φ) :=
  [(ofString "new", .int comparison.newFindings.length),
    (ofString "remaining", .int comparison.remainingFindings.length),
    (ofString "fixed", .int comparison.fixedFindings.length),
    (ofString "changed",
      .int (comparison.remainingFindings.filter ComparedFinding.presentationChanged).length)]

def comparisonType : PyText := ofString "finding_comparison"

def ReportComparison.toDict [PyFloat φ] (digest : List Char → PyText)
    (comparison : ReportComparison) : List (PyText × Json PyText φ) :=
  let group := fun items : List ComparedFinding => Json.arr (items.map fun i => .obj (i.toDict digest))
  [(ofString "comparison_type", .str comparisonType),
    (ofString "schema_version", .str (ofString "1.0")),
    (ofString "baseline_scan_id", .str comparison.baselineScanId),
    (ofString "current_scan_id", .str comparison.currentScanId),
    (ofString "target", .str comparison.target),
    (ofString "baseline_completed_at", .str (zuluText comparison.baselineCompletedAt)),
    (ofString "current_completed_at", .str (zuluText comparison.currentCompletedAt)),
    (ofString "generated_at", .str (zuluText comparison.generatedAt)),
    (ofString "summary", .obj comparison.summary),
    (ofString "new_findings", group comparison.newFindings),
    (ofString "remaining_findings", group comparison.remainingFindings),
    (ofString "fixed_findings", group comparison.fixedFindings)]

/-! ## Reading -/

def comparisonKeys : List PyText :=
  [ofString "comparison_type", ofString "schema_version", ofString "baseline_scan_id",
    ofString "current_scan_id", ofString "target", ofString "baseline_completed_at",
    ofString "current_completed_at", ofString "generated_at", ofString "summary",
    ofString "new_findings", ofString "remaining_findings", ofString "fixed_findings"]

def summaryKeys : List PyText :=
  [ofString "new", ofString "remaining", ofString "fixed", ofString "changed"]

def itemKeys : List PyText :=
  [ofString "disposition", ofString "presentation_changed", ofString "finding"]

/-- `_strict_object` of `reporting.py`. -/
def comparisonObject (value : Json PyText φ) (name : String) (expected : List PyText) :
    Checked (List (PyText × Json PyText φ)) :=
  match value with
  | .obj members =>
    let keys := members.map Prod.fst
    if expected.all keys.contains && keys.all expected.contains then .ok members
    else invalid (name ++ "_fields_invalid") (name ++ " contains missing or unexpected fields.")
  | _ => invalid (name ++ "_invalid") (name ++ " must be a JSON object.")

def parseTimestamp [TimeReader] (value : Json PyText φ) (name : String) : Checked Nat :=
  match value with
  | .str text =>
    match TimeReader.fromIsoFormat (withOffsets text) with
    | none => invalid (name ++ "_invalid") (name ++ " must be an ISO 8601 timestamp.")
    | some .naive => invalid (name ++ "_invalid") (name ++ " must be timezone-aware.")
    | some (.aware t) => .ok t
  | _ => invalid (name ++ "_invalid") (name ++ " must be an ISO 8601 timestamp.")

/-- The time that every finding is put at. -/
def loaderTime : PyText := ofString "2026-01-01T00:00:00Z"

/-- The report that a finding is put into, to be loaded with it. -/
def syntheticReport (asset : PyText) (value : Json PyText φ) : List (PyText × Json PyText φ) :=
  [(ofString "schema_version", .str (ofString "1.1")),
    (ofString "scan_id", .str (ofString "00000000-0000-4000-8000-000000000001")),
    (ofString "scan_type", .str (ofString "report-comparison-loader")),
    (ofString "status", .str (ofString "completed")),
    (ofString "target", .str (asset.rdropWhile (· = 47) ++ [47])),
    (ofString "engine", .str (ofString "webguard-native")),
    (ofString "engine_version", .str (ofString "0.1.0")),
    (ofString "started_at", .str loaderTime),
    (ofString "completed_at", .str loaderTime),
    (ofString "coverage", .obj
      [(ofString "planned_checks", .arr []),
        (ofString "executed_checks", .arr []),
        (ofString "skipped_checks", .arr []),
        (ofString "unaccounted_checks", .arr []),
        (ofString "completion_percent", .null),
        (ofString "requests_attempted", .int 0),
        (ofString "requests_succeeded", .int 0)]),
    (ofString "finding_count", .int 1),
    (ofString "findings", .arr [value]),
    (ofString "error_count", .int 0),
    (ofString "errors", .arr []),
    (ofString "connected_addresses", .arr []),
    (ofString "http_statuses", .arr []),
    (ofString "request_attempt_count", .int 0),
    (ofString "request_attempts", .arr [])]

section

variable [PyFloat φ] [DecidableEq φ] [ScanReports.ReportLibrary φ] [LowerTable] [StandardLibrary]
  [UnicodeTables] [TimeReader] (digest : List Char → PyText)

omit [PyFloat φ] [DecidableEq φ] [ScanReports.ReportLibrary φ] [LowerTable] [StandardLibrary]
  [UnicodeTables] [TimeReader] in
/-- The first finding of a loaded report; any exception becomes an error. -/
def firstFinding (answer : Checked (ScanReports.ScanResult φ)) : Checked NormalizedFinding :=
  match answer.toOption.bind (·.findings.head?) with
  | some loaded => .ok loaded
  | none =>
    invalid "comparison_finding_invalid" "Comparison contains an invalid normalized finding."

def loadNormalizedFinding (value : Json PyText φ) : Checked NormalizedFinding := do
  let finding ← comparisonObject value "finding" findingKeys
  let identity ← comparisonObject (member "identity" finding) "finding.identity" identityKeys
  match member "asset" identity with
  | .str asset =>
    firstFinding (ScanReports.loadScanResult digest (.obj (syntheticReport asset value)))
  | _ => invalid "comparison_finding_invalid" "Comparison finding asset must be text."

/-- An item of a group. -/
def loadItem (name : String) (disposition : FindingDisposition) (value : Json PyText φ)
    (path : String) : Checked ComparedFinding := do
  let data ← comparisonObject value path itemKeys
  require (pyEq (member "disposition" data) (.str (ofString disposition.text)))
    (name ++ "_disposition_invalid") (path ++ " has an invalid disposition.")
  let finding ← loadNormalizedFinding digest (member "finding" data)
  match member "presentation_changed" data with
  | .bool presentationChanged => ComparedFinding.postInit { disposition, finding, presentationChanged }
  | _ => invalid "presentation_changed_invalid" "presentation_changed must be boolean."

def loadGroup (value : Json PyText φ) (name : String) (disposition : FindingDisposition) :
    Checked (List ComparedFinding) :=
  match value with
  | .arr items => eachItem (loadItem digest name disposition) name 0 items
  | _ => invalid (name ++ "_invalid") (name ++ " must be a JSON array.")

omit [PyFloat φ] [DecidableEq φ] [ScanReports.ReportLibrary φ] [LowerTable] [StandardLibrary]
  [UnicodeTables] [TimeReader] in
/-- A count of the summary. -/
def checkSummaryItem (item : PyText × Json PyText φ) : Checked Unit :=
  match item.2 with
  | .int _ => .ok ()
  | _ =>
    invalid "comparison_summary_invalid"
      ("summary." ++ String.ofList (characters item.1) ++ " must be an integer.")

/-- `ReportComparison(...)` of the members of a document. -/
def loadComparison (data : List (PyText × Json PyText φ)) : Checked ReportComparison := do
  let baselineCompletedAt ← parseTimestamp (member "baseline_completed_at" data)
    "baseline_completed_at"
  let currentCompletedAt ← parseTimestamp (member "current_completed_at" data)
    "current_completed_at"
  let generatedAt ← parseTimestamp (member "generated_at" data) "generated_at"
  let newFindings ← loadGroup digest (member "new_findings" data) "new_findings" .new
  let remainingFindings ← loadGroup digest (member "remaining_findings" data) "remaining_findings"
    .remaining
  let fixedFindings ← loadGroup digest (member "fixed_findings" data) "fixed_findings" .fixed
  let input : ComparisonInput φ :=
    { baselineScanId := member "baseline_scan_id" data
      currentScanId := member "current_scan_id" data
      target := member "target" data
      baselineCompletedAt, currentCompletedAt, generatedAt
      newFindings, remainingFindings, fixedFindings }
  input.postInit fun finding => finding.identity.fingerprint φ digest

def loadReportComparison (value : Json PyText φ) : Checked ReportComparison := do
  let data ← comparisonObject value "comparison" comparisonKeys
  require (pyEq (member "comparison_type" data) (.str comparisonType)) "comparison_type_invalid"
    "Unsupported comparison_type."
  require (pyEq (member "schema_version" data) (.str (ofString "1.0")))
    "comparison_schema_version_unsupported" "Unsupported comparison schema_version."
  let summary ← comparisonObject (member "summary" data) "summary" summaryKeys
  summary.forM checkSummaryItem
  let comparison ← loadComparison digest data
  require (pyEq (.obj summary) (.obj comparison.summary)) "comparison_summary_mismatch"
    "Comparison summary does not match finding groups."
  return comparison

end

end WebGuard.ReportComparisons
