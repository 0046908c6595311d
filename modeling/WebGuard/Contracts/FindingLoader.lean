import WebGuard.Contracts.Findings
import WebGuard.Contracts.IsoFormat
import WebGuard.Contracts.PermitLoader
import WebGuard.Lib.JsonEquality

/-!
# Documents of findings

The fingerprint of a finding, `to_dict`, and `_load_finding` of `report_loader.py`, which gives every
field to the constructors again and compares what they make of them with the document.
-/

namespace WebGuard.FindingContract

open PyJson UrlParse StandardLibrary
open ScanPermits (sortedSet textList member Interpreter)

variable {φ : Type}

/-! ## Writing -/

/-- A text, or `None`. -/
def nullable (value : Option PyText) : Json PyText φ := value.elim .null .str

/-- The members that the fingerprint is made of. -/
def FindingIdentity.payloadDict (identity : FindingIdentity) : List (PyText × Json PyText φ) :=
  [(ofString "fingerprint_version", .str (ofString "1")),
    (ofString "rule_id", .str identity.ruleId),
    (ofString "asset", .str identity.asset),
    (ofString "path", .str identity.path),
    (ofString "method", .str identity.method),
    (ofString "parameter", .str (identity.parameter.getD []))]

section

variable (φ) [PyFloat φ]

/-- The canonical payload, which is ASCII. -/
def FindingIdentity.payload (identity : FindingIdentity) : List Char :=
  render .ascii (sortKeys (.obj (identity.payloadDict (φ := φ))))

/-- `fingerprint`; `digest` is SHA-256 with the digest in hexadecimal. -/
def FindingIdentity.fingerprint (digest : List Char → PyText) (identity : FindingIdentity) :
    PyText := digest (identity.payload φ)

end

/-- `detected_at.isoformat().replace("+00:00", "Z")`. -/
def zuluText (t : Nat) : PyText :=
  (secondsText (t / 1000000)
    ++ (if t % 1000000 = 0 then [] else '.' :: digits 6 (t % 1000000)) ++ ['Z']).map Char.toNat

def FindingIdentity.toDict (identity : FindingIdentity) : List (PyText × Json PyText φ) :=
  [(ofString "rule_id", .str identity.ruleId),
    (ofString "asset", .str identity.asset),
    (ofString "path", .str identity.path),
    (ofString "method", .str identity.method),
    (ofString "parameter", nullable identity.parameter)]

def ExternalIdentifier.toDict (identifier : ExternalIdentifier) : List (PyText × Json PyText φ) :=
  [(ofString "namespace", .str identifier.nameSpace), (ofString "value", .str identifier.value)]

def Evidence.toDict (evidence : Evidence) : List (PyText × Json PyText φ) :=
  [(ofString "summary", .str evidence.summary),
    (ofString "artifact_reference", nullable evidence.artifactReference)]

/-- The members of `to_dict`, with a fingerprint. -/
def NormalizedFinding.dictWith (finding : NormalizedFinding) (fingerprint : PyText) :
    List (PyText × Json PyText φ) :=
  [(ofString "schema_version", .str (ofString "1.0")),
    (ofString "fingerprint", .str fingerprint),
    (ofString "identity", .obj finding.identity.toDict),
    (ofString "source", .str finding.source),
    (ofString "source_rule_id", nullable finding.sourceRuleId),
    (ofString "title", .str finding.title),
    (ofString "description", .str finding.description),
    (ofString "severity", .str finding.severity.value),
    (ofString "confidence", .str finding.confidence.value),
    (ofString "remediation", .str finding.remediation),
    (ofString "detected_at", .str (zuluText finding.detectedAt)),
    (ofString "identifiers", .arr (finding.identifiers.map fun i => .obj i.toDict)),
    (ofString "evidence", .arr (finding.evidence.map fun e => .obj e.toDict)),
    (ofString "references", textList finding.references),
    (ofString "tags", textList finding.tags)]

def NormalizedFinding.toDict [PyFloat φ] (digest : List Char → PyText) (finding : NormalizedFinding) :
    List (PyText × Json PyText φ) :=
  finding.dictWith (finding.identity.fingerprint φ digest)

/-! ## Reading -/

def identityKeys : List PyText :=
  [ofString "rule_id", ofString "asset", ofString "path", ofString "method", ofString "parameter"]

def identifierKeys : List PyText := [ofString "namespace", ofString "value"]

def evidenceKeys : List PyText := [ofString "summary", ofString "artifact_reference"]

def findingKeys : List PyText :=
  [ofString "schema_version", ofString "fingerprint", ofString "identity", ofString "source",
    ofString "source_rule_id", ofString "title", ofString "description", ofString "severity",
    ofString "confidence", ofString "remediation", ofString "detected_at", ofString "identifiers",
    ofString "evidence", ofString "references", ofString "tags"]

/-- Keys in a message. -/
def listed (keys : List PyText) : String :=
  ", ".intercalate (keys.map fun key => String.ofList (characters key))

def strictObject (value : Json PyText φ) (path : String) (expected : List PyText) :
    Checked (List (PyText × Json PyText φ)) :=
  match value with
  | .obj members =>
    let keys := members.map Prod.fst
    let missing := sortedSet (expected.filter (!keys.contains ·))
    let unexpected := sortedSet (keys.filter (!expected.contains ·))
    if missing.isEmpty && unexpected.isEmpty then .ok members
    else
      let details := (if missing.isEmpty then [] else ["missing: " ++ listed missing])
        ++ if unexpected.isEmpty then [] else ["unexpected: " ++ listed unexpected]
      invalid "scan_report_fields_invalid"
        (path ++ " has invalid fields (" ++ "; ".intercalate details ++ ").")
  | _ => invalid "scan_report_object_required" (path ++ " must be a JSON object.")

/-- `_list`. -/
def reportList (value : Json PyText φ) (path : String) : Checked (List (Json PyText φ)) :=
  match value with
  | .arr items => .ok items
  | _ => invalid "scan_report_list_required" (path ++ " must be a JSON array.")

/-- `_text` of the loader. -/
def reportText (value : Json PyText φ) (path : String) : Checked PyText :=
  match value with
  | .str text => .ok text
  | _ => invalid "scan_report_text_required" (path ++ " must be text.")

/-- `_optional_text` of the loader. -/
def reportOptionalText (value : Json PyText φ) (path : String) : Checked (Option PyText) :=
  match value with
  | .null => .ok none
  | value => (reportText value path).map some

/-- `path[index]`. -/
def itemPath (path : String) (index : Nat) : String := path ++ "[" ++ toString index ++ "]"

/-- What a loop over the items of a list makes of them; `index` is that of the first. -/
def eachItem {α : Type} (load : Json PyText φ → String → Checked α) (path : String) :
    Nat → List (Json PyText φ) → Checked (List α)
  | _, [] => .ok []
  | index, item :: rest => do
    let first ← load item (itemPath path index)
    let others ← eachItem load path (index + 1) rest
    return first :: others

/-- `_text_list`. -/
def reportTextList (value : Json PyText φ) (path : String) : Checked (List PyText) := do
  eachItem reportText path 0 (← reportList value path)

/-- `_enum`, of the values of an enumeration. -/
def reportEnum {α : Type} [UnicodeTables] (all : List α) (valueOf : α → PyText)
    (value : Json PyText φ) (path : String) : Checked α := do
  let text ← reportText value path
  match all.find? (valueOf · = text) with
  | some a => .ok a
  | none =>
    invalid "scan_report_enum_invalid"
      (path ++ " contains unsupported value " ++ UnicodeTables.quoted text ++ ".")

/-- `text.replace("Z", "+00:00")`. -/
def withOffsets (text : PyText) : PyText :=
  text.flatMap fun n => if n = 90 then ofString "+00:00" else [n]

/-- What `datetime.fromisoformat` makes of a text without looking at its spelling. -/
inductive ParsedTime where
  | aware (t : Nat)
  | naive

/-- `datetime.fromisoformat`; `none` is a `ValueError`. -/
class TimeReader where
  fromIsoFormat : PyText → Option ParsedTime

/-- `_timestamp`. -/
def reportTimestamp [TimeReader] (value : Json PyText φ) (path : String) : Checked Nat := do
  let text ← reportText value path
  match TimeReader.fromIsoFormat (withOffsets text) with
  | none =>
    invalid "scan_report_timestamp_invalid" (path ++ " must be a valid ISO 8601 timestamp.")
  | some .naive =>
    invalid "scan_report_timestamp_invalid" (path ++ " must include a timezone offset.")
  | some (.aware t) => .ok t

section

variable [LowerTable] [StandardLibrary] [UnicodeTables] [TimeReader]

def loadIdentifier (value : Json PyText φ) (path : String) : Checked ExternalIdentifier := do
  let data ← strictObject value path identifierKeys
  let nameSpace ← reportText (member "namespace" data) (path ++ ".namespace")
  let value ← reportText (member "value" data) (path ++ ".value")
  ExternalIdentifier.postInit { nameSpace, value }

def loadEvidence (value : Json PyText φ) (path : String) : Checked Evidence := do
  let data ← strictObject value path evidenceKeys
  let summary ← reportText (member "summary" data) (path ++ ".summary")
  let artifactReference ← reportOptionalText (member "artifact_reference" data)
    (path ++ ".artifact_reference")
  Evidence.postInit { summary, artifactReference }

/-- `FindingIdentity(...)` of the members of a document. -/
def loadIdentity (data : List (PyText × Json PyText φ)) (path : String) :
    Checked FindingIdentity := do
  let ruleId ← reportText (member "rule_id" data) (path ++ ".identity.rule_id")
  let asset ← reportText (member "asset" data) (path ++ ".identity.asset")
  let urlPath ← reportText (member "path" data) (path ++ ".identity.path")
  let method ← reportText (member "method" data) (path ++ ".identity.method")
  let parameter ← reportOptionalText (member "parameter" data) (path ++ ".identity.parameter")
  FindingIdentity.postInit { ruleId, asset, path := urlPath, method, parameter }

/-- The arguments of `NormalizedFinding(...)`, as the loader computes them. -/
def findingInput (data : List (PyText × Json PyText φ)) (path : String)
    (identityData : List (PyText × Json PyText φ)) (identifiers : List ExternalIdentifier)
    (evidence : List Evidence) : Checked NormalizedFinding := do
  let identity ← loadIdentity identityData path
  let source ← reportText (member "source" data) (path ++ ".source")
  let sourceRuleId ← reportOptionalText (member "source_rule_id" data) (path ++ ".source_rule_id")
  let title ← reportText (member "title" data) (path ++ ".title")
  let description ← reportText (member "description" data) (path ++ ".description")
  let severity ← reportEnum Severity.all Severity.value (member "severity" data)
    (path ++ ".severity")
  let confidence ← reportEnum Confidence.all Confidence.value (member "confidence" data)
    (path ++ ".confidence")
  let remediation ← reportText (member "remediation" data) (path ++ ".remediation")
  let detectedAt ← reportTimestamp (member "detected_at" data) (path ++ ".detected_at")
  let references ← reportTextList (member "references" data) (path ++ ".references")
  let tags ← reportTextList (member "tags" data) (path ++ ".tags")
  return { identity, source, title, description, severity, confidence, remediation, detectedAt,
           sourceRuleId, identifiers, evidence, references, tags }

/-- The finding of a document, before it is compared with it. -/
def buildFinding (value : Json PyText φ) (path : String) : Checked NormalizedFinding := do
  let data ← strictObject value path findingKeys
  let schema ← reportText (member "schema_version" data) (path ++ ".schema_version")
  require (schema = ofString "1.0") "finding_schema_version_unsupported"
    (path ++ ".schema_version must be '1.0'.")
  let identityData ← strictObject (member "identity" data) (path ++ ".identity") identityKeys
  let identifiers ← eachItem loadIdentifier (path ++ ".identifiers") 0
    (← reportList (member "identifiers" data) (path ++ ".identifiers"))
  let evidence ← eachItem loadEvidence (path ++ ".evidence") 0
    (← reportList (member "evidence" data) (path ++ ".evidence"))
  let raw ← findingInput data path identityData identifiers evidence
  raw.postInit

variable [PyFloat φ] [DecidableEq φ] (digest : List Char → PyText)

def loadFinding (value : Json PyText φ) (index : Nat) : Checked NormalizedFinding := do
  let path := itemPath "findings" index
  let finding ← buildFinding value path
  require (pyEq (.obj (finding.toDict digest)) value) "scan_report_finding_inconsistent"
    (path ++ " contains an invalid fingerprint, derived field, or non-canonical value.")
  return finding

end

/-- The hooks of the report loader: a key that is there twice and a constant are refused. -/
def reportHooks (interpreter : Interpreter) : Hooks Unit φ where
  pairs members := if (members.map Prod.fst).Nodup then .ok (.obj members) else .error ()
  constant _ := .error ()
  recursionLimit := interpreter.recursionLimit
  maximumDigits := interpreter.maximumDigits

/-- A finding that is written, as bytes of UTF-8, and loaded again; nothing for an exception. -/
def reloadFinding (φ : Type) [PyFloat φ] [DecidableEq φ] [LowerTable] [StandardLibrary]
    [UnicodeTables] [TimeReader] (digest : List Char → PyText) (interpreter : Interpreter)
    (index : Nat) (finding : NormalizedFinding) : Option NormalizedFinding := do
  let document ← dumps (φ := φ) .utf8 (.obj (finding.toDict digest))
  let value ← (loads (reportHooks interpreter) document).toOption
  (loadFinding (φ := φ) digest value index).toOption

end WebGuard.FindingContract
