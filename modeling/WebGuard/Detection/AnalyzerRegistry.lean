import WebGuard.Contracts.ScanResults

/-!
# Passive analysers

`analyzer_registry.py`: the analysers with the checks they own, the validation of a registry, and
the pipeline that runs the analysers of a registry over one response.

An analyser runs at most once in a pipeline, so its function is the answer that it gives to the
target and the response of the run. What the interpreter checks of functions and exception types has
no counterpart here.
-/

namespace WebGuard.Analyzers

open PyJson FindingContract UnicodeTables
open ScanPermits (sortedSet)
open ScanReports (SkippedCheck ScanError sortedErrors)

/-! ## Failures -/

inductive PipelineFailure where
  /-- `AnalyzerRegistryError`. -/
  | registry (code message : String)
  /-- `AnalyzerOutputError`. -/
  | output (code message : String)
  /-- `ScanContractValidationError`. -/
  | contract (e : ContractError)
  /-- An exception of an analyser that is not of its declared type. -/
  | surfaced
  deriving DecidableEq

/-- What an analyser answers. -/
inductive AnalyzerAnswer where
  /-- A tuple; a value that is no finding is `none`. -/
  | returned (items : List (Option NormalizedFinding))
  | returnedOther
  /-- The declared exception, with its `code` and `message` where they are texts. -/
  | controlled (code message : Option PyText)
  | raised
  deriving DecidableEq

def orRegistry (condition : Bool) (code message : String) : Except PipelineFailure Unit :=
  if condition then .ok () else .error (.registry code message)

def orOutput (condition : Bool) (code message : String) : Except PipelineFailure Unit :=
  if condition then .ok () else .error (.output code message)

/-! ## Analysers -/

def isLowerLetter (n : Nat) : Bool := 97 ≤ n && n ≤ 122

def isIdentifierCharacter (n : Nat) : Bool :=
  isLowerLetter n || (48 ≤ n && n ≤ 57) || n = 46 || n = 95 || n = 45

/-- `[a-z][a-z0-9._-]*`, matched in full. -/
def isIdentifier : PyText → Bool
  | [] => false
  | n :: rest => isLowerLetter n && rest.all isIdentifierCharacter

/-- `text.startswith(f"{front}.")`. -/
def isBelow (front text : PyText) : Bool := (front ++ [46]).isPrefixOf text

/-- The rule of a finding is a check, or is below it. -/
def belongsTo (checkId ruleId : PyText) : Bool := ruleId = checkId || isBelow checkId ruleId

/-- One of two checks is below the other. -/
def overlaps (left right : PyText) : Bool := isBelow right left || isBelow left right

/-- Some check overlaps with one behind it. -/
def hasOverlap : List PyText → Bool
  | [] => false
  | left :: rest => rest.any (overlaps left) || hasOverlap rest

structure AnalyzerFields where
  analyzerId : PyText
  checks : List PyText
  findingNamespace : PyText
  analyze : AnalyzerAnswer
  deriving DecidableEq

section

variable [LowerTable]

def identifier (value : PyText) (name : String) (maximum : Nat) :
    Except PipelineFailure PyText := do
  let cleaned := LowerTable.lower (stripText value)
  orRegistry (!cleaned.isEmpty && cleaned.length ≤ maximum && isIdentifier cleaned)
    (name ++ "_invalid")
    (name ++ " must use lowercase letters, digits, dots, underscores, or hyphens.")
  return cleaned

/-- `__post_init__` of `PassiveAnalyzer`. -/
def AnalyzerFields.postInit (raw : AnalyzerFields) : Except PipelineFailure AnalyzerFields := do
  let analyzerId ← identifier raw.analyzerId "analyzer_id" 96
  let findingNamespace ← identifier raw.findingNamespace "analyzer_finding_namespace" 128
  orRegistry (!raw.checks.isEmpty) "analyzer_checks_invalid" "checks must be a non-empty tuple."
  let checks ← raw.checks.mapM (identifier · "analyzer_check_id" 128)
  orRegistry (checks.all (isBelow findingNamespace)) "analyzer_check_namespace_mismatch"
    "Every owned check must be inside finding_namespace."
  orRegistry checks.Nodup "analyzer_check_duplicate"
    "An analyser cannot own the same check more than once."
  orRegistry (!hasOverlap checks) "analyzer_check_overlap"
    "An analyser cannot own overlapping check IDs."
  return { raw with analyzerId, findingNamespace, checks := checks.insertionSort (· ≤ ·) }

structure PassiveAnalyzer extends AnalyzerFields where
  built : ∃ raw, AnalyzerFields.postInit raw = .ok toAnalyzerFields

end

/-! ## Registries -/

section

variable [UnicodeTables]

/-- One check in the loop of `validate_analyzer_registry`; `owned` has those before it. -/
def registerCheck (owned : List PyText) (checkId : PyText) :
    Except PipelineFailure (List PyText) := do
  orRegistry (!owned.contains checkId) "analyzer_check_owner_duplicate"
    ("Check " ++ quoted checkId ++ " is owned by more than one analyser.")
  orRegistry (!owned.any (overlaps checkId)) "analyzer_check_owner_overlap"
    "Registered analysers cannot own overlapping check IDs."
  return owned ++ [checkId]

/-- One analyser in the loop; the state is the analyser IDs and the checks. -/
def registerAnalyzer (state : List PyText × List PyText) (analyzer : AnalyzerFields) :
    Except PipelineFailure (List PyText × List PyText) := do
  orRegistry (!state.1.contains analyzer.analyzerId) "analyzer_id_duplicate"
    "Analyser IDs must be unique."
  let owned ← analyzer.checks.foldlM registerCheck state.2
  return (state.1 ++ [analyzer.analyzerId], owned)

def validateAnalyzerRegistry (analyzers : List AnalyzerFields) :
    Except PipelineFailure (List AnalyzerFields) := do
  orRegistry (!analyzers.isEmpty) "analyzer_registry_empty"
    "At least one passive analyser must be registered."
  let _ ← analyzers.foldlM registerAnalyzer ([], [])
  return analyzers

def registeredChecks (analyzers : List AnalyzerFields) :
    Except PipelineFailure (List PyText) := do
  let registry ← validateAnalyzerRegistry analyzers
  return (registry.flatMap AnalyzerFields.checks).insertionSort (· ≤ ·)

end

/-! ## The pipeline -/

structure AnalyzerPipelineResult where
  findings : List NormalizedFinding
  errors : List ScanError
  executedChecks : List PyText
  skippedChecks : List SkippedCheck
  deriving DecidableEq

/-- What `execute_analyzers` collects; `skippedById` is a dict and has its keys in order. -/
structure PipelineState where
  findings : List NormalizedFinding
  errors : List ScanError
  executedChecks : List PyText
  skippedById : List (PyText × SkippedCheck)
  fingerprints : List PyText

def PipelineState.skippedIds (state : PipelineState) : List PyText :=
  state.skippedById.map Prod.fst

/-- `skipped[key] = value`. -/
def setSkipped (key : PyText) (value : SkippedCheck) (skipped : List (PyText × SkippedCheck)) :
    List (PyText × SkippedCheck) :=
  if (skipped.map Prod.fst).contains key then
    skipped.map fun item => if item.1 = key then (key, value) else item
  else skipped ++ [(key, value)]

def activeChecks (state : PipelineState) (analyzer : AnalyzerFields) : List PyText :=
  analyzer.checks.filter (!state.skippedIds.contains ·)

/-- One item in the loop over the checks that are skipped beforehand. -/
def preSkip (allChecks : List PyText) (skipped : List (PyText × SkippedCheck))
    (item : SkippedCheck) : Except PipelineFailure (List (PyText × SkippedCheck)) := do
  orRegistry (allChecks.contains item.checkId) "analyzer_pre_skip_unregistered"
    "Every pre-skipped check must be registered."
  orRegistry (!(skipped.map Prod.fst).contains item.checkId) "analyzer_pre_skip_duplicate"
    "A check cannot be pre-skipped more than once."
  return setSkipped item.checkId item skipped

section

variable [UnicodeTables]

def validateFindingOwnership (analyzer : AnalyzerFields) (finding : NormalizedFinding)
    (skippedCheckIds : List PyText) : Except PipelineFailure Unit := do
  orOutput (belongsTo analyzer.findingNamespace finding.identity.ruleId)
    "analyzer_finding_unowned" ("Analyser " ++ quoted analyzer.analyzerId
      ++ " returned a finding outside its registered namespace.")
  orOutput (!skippedCheckIds.any (belongsTo · finding.identity.ruleId))
    "analyzer_finding_for_skipped_check" ("Analyser " ++ quoted analyzer.analyzerId
      ++ " returned a finding for a skipped check.")

/-- One item in the loop over the findings of an analyser. -/
def collectFinding (fingerprint : NormalizedFinding → PyText) (analyzer : AnalyzerFields)
    (state : PipelineState) (item : Option NormalizedFinding) :
    Except PipelineFailure PipelineState :=
  match item with
  | none =>
    .error (.output "analyzer_finding_type_invalid" ("Analyser "
      ++ quoted analyzer.analyzerId ++ " returned an invalid finding value."))
  | some finding => do
    validateFindingOwnership analyzer finding state.skippedIds
    orOutput (!state.fingerprints.contains (fingerprint finding)) "analyzer_finding_duplicate"
      "The analyser pipeline produced a duplicate finding fingerprint."
    return { state with
      findings := state.findings ++ [finding]
      fingerprints := state.fingerprints ++ [fingerprint finding] }

def controlledErrorMetadata (analyzer : AnalyzerFields) (code message : Option PyText) :
    Except PipelineFailure (PyText × PyText) := do
  let code := code.getD []
  orOutput (!(stripText code).isEmpty) "analyzer_controlled_error_code_invalid"
    ("Analyser " ++ quoted analyzer.analyzerId
      ++ " raised a controlled error without a usable code.")
  let message := message.getD []
  orOutput (!(stripText message).isEmpty) "analyzer_controlled_error_message_invalid"
    ("Analyser " ++ quoted analyzer.analyzerId
      ++ " raised a controlled error without a usable message.")
  return (code, message)

/-- `is_retryable_error` of the stage of analysis: every policy there says no. -/
def isRetryableAnalysisError (_code : PyText) : Bool := false

variable [LowerTable]

def orContract {α : Type} (result : Checked α) : Except PipelineFailure α :=
  result.mapError .contract

/-- One check that an analyser did not come to. -/
def skipCheck (reason : PyText) (skipped : List (PyText × SkippedCheck)) (checkId : PyText) :
    Except PipelineFailure (List (PyText × SkippedCheck)) := do
  let item ← orContract (SkippedCheck.postInit { checkId, reason })
  return setSkipped checkId item skipped

/-- An analyser that raised its declared exception. -/
def failAnalyzer (analyzer : AnalyzerFields) (state : PipelineState) (code message : Option PyText) :
    Except PipelineFailure PipelineState := do
  let (code, message) ← controlledErrorMetadata analyzer code message
  let error ← orContract (ScanError.postInit
    { code, message, stage := ofString "analysis." ++ analyzer.analyzerId,
      retryable := isRetryableAnalysisError code })
  let reason := ofString ("Analyser " ++ quoted analyzer.analyzerId
    ++ " did not complete because controlled error " ++ quoted code ++ " occurred.")
  let skippedById ← (activeChecks state analyzer).foldlM (skipCheck reason) state.skippedById
  return { state with errors := state.errors ++ [error], skippedById }

/-- One analyser in the loop of `execute_analyzers`. -/
def runAnalyzer (fingerprint : NormalizedFinding → PyText) (state : PipelineState)
    (analyzer : AnalyzerFields) : Except PipelineFailure PipelineState :=
  if (activeChecks state analyzer).isEmpty then .ok state
  else
    match analyzer.analyze with
    | .raised => .error .surfaced
    | .controlled code message => failAnalyzer analyzer state code message
    | .returnedOther =>
      .error (.output "analyzer_findings_type_invalid"
        ("Analyser " ++ quoted analyzer.analyzerId ++ " must return a tuple."))
    | .returned items => do
      let collected ← items.foldlM (collectFinding fingerprint analyzer) state
      return { collected with
        executedChecks := collected.executedChecks ++ activeChecks state analyzer }

/-- The result of what was collected. -/
def PipelineState.result (fingerprint : NormalizedFinding → PyText) (state : PipelineState) :
    AnalyzerPipelineResult where
  findings := state.findings.insertionSort fun a b => fingerprint a ≤ fingerprint b
  errors := sortedErrors state.errors
  executedChecks := sortedSet state.executedChecks
  skippedChecks :=
    (state.skippedById.map Prod.snd).insertionSort fun a b => a.checkId ≤ b.checkId

def executeAnalyzers (fingerprint : NormalizedFinding → PyText) (analyzers : List AnalyzerFields)
    (preSkippedChecks : List SkippedCheck) : Except PipelineFailure AnalyzerPipelineResult := do
  let registry ← validateAnalyzerRegistry analyzers
  let allChecks ← registeredChecks registry
  let skippedById ← preSkippedChecks.foldlM (preSkip allChecks) []
  let state ← registry.foldlM (runAnalyzer fingerprint) ⟨[], [], [], skippedById, []⟩
  return state.result fingerprint

end

end WebGuard.Analyzers
