import WebGuard.Contracts.PyText
import WebGuard.Contracts.ScanPermits
import WebGuard.Crawler.Urls

/-!
# Findings

The contract of `findings.py`: the identity of a finding, the finding, and what its constructors make
of the texts they are given. A text is stripped, and some are put into another case after their
length was checked.

The host of an asset is stored as `urlsplit` answers with it, so it can hold anything that is not a
delimiter. It is computed on code points here.
-/

namespace WebGuard.FindingContract

open PyJson UrlParse StandardLibrary
open ScanPermits (sortedSet)

/-- `str.lower` of a text with any code points. -/
class LowerTable where
  lower : PyText → PyText
  lower_ascii : ∀ text : PyText, (∀ n ∈ text, n < 128) →
    lower text = text.map fun n => if 65 ≤ n ∧ n ≤ 90 then n + 32 else n

/-! ## Values -/

inductive Severity where
  | informational
  | low
  | medium
  | high
  | critical
  deriving DecidableEq

def Severity.all : List Severity := [.informational, .low, .medium, .high, .critical]

def Severity.value : Severity → PyText
  | .informational => ofString "informational"
  | .low => ofString "low"
  | .medium => ofString "medium"
  | .high => ofString "high"
  | .critical => ofString "critical"

inductive Confidence where
  | low
  | medium
  | high
  | confirmed
  deriving DecidableEq

def Confidence.all : List Confidence := [.low, .medium, .high, .confirmed]

def Confidence.value : Confidence → PyText
  | .low => ofString "low"
  | .medium => ofString "medium"
  | .high => ofString "high"
  | .confirmed => ofString "confirmed"

structure ExternalIdentifier where
  nameSpace : PyText
  value : PyText
  deriving DecidableEq

structure Evidence where
  summary : PyText
  artifactReference : Option PyText
  deriving DecidableEq

structure FindingIdentity where
  ruleId : PyText
  asset : PyText
  path : PyText
  method : PyText
  parameter : Option PyText
  deriving DecidableEq

/-- `NormalizedFinding`; `detected_at` is the instant. -/
structure NormalizedFinding where
  identity : FindingIdentity
  source : PyText
  title : PyText
  description : PyText
  severity : Severity
  confidence : Confidence
  remediation : PyText
  detectedAt : Nat
  sourceRuleId : Option PyText
  identifiers : List ExternalIdentifier
  evidence : List Evidence
  references : List PyText
  tags : List PyText
  deriving DecidableEq

/-! ## Fields -/

/-- `_optional_text`. -/
def optionalBounded (value : Option PyText) (name : String) (maximum : Nat) :
    Checked (Option PyText) :=
  match value with
  | none => .ok none
  | some text => (boundedText text name maximum).map some

def isLowerOrDigit (n : Nat) : Bool := (97 ≤ n && n ≤ 122) || (48 ≤ n && n ≤ 57)

/-- What may follow in a rule id; `inside` says that a letter or a digit comes before. -/
def isRuleIdRest (inside : Bool) : PyText → Bool
  | [] => inside
  | n :: rest =>
    if isLowerOrDigit n then isRuleIdRest true rest
    else (n = 46 || n = 95 || n = 45) && inside && isRuleIdRest false rest

/-- `^[a-z0-9]+(?:[._-][a-z0-9]+)*$`, matched in full. -/
def isRuleId (text : PyText) : Bool := isRuleIdRest false text

/-- `^[A-Z]+$`, matched in full. -/
def isMethod (text : PyText) : Bool := !text.isEmpty && text.all fun n => 65 ≤ n && n ≤ 90

def ruleIdField [LowerTable] (value : PyText) : Checked PyText := do
  let ruleId := LowerTable.lower (← boundedText value "rule_id" 128)
  require (isRuleId ruleId) "rule_id_invalid"
    "rule_id must use lowercase letters, digits, dots, underscores, or hyphens."
  return ruleId

/-- The host in a network location without user information, as code points. -/
def hostOf (netloc : PyText) : PyText :=
  if netloc.contains 91 then ((netloc.dropWhile (· ≠ 91)).drop 1).takeWhile (· ≠ 93)
  else netloc.takeWhile (· ≠ 58)

/-- `hostname`; a zone is not put into lower case. -/
def hostnameOf [LowerTable] (host : PyText) : PyText :=
  if host.contains 37 then
    LowerTable.lower (host.takeWhile (· ≠ 37)) ++ 37 :: (host.dropWhile (· ≠ 37)).drop 1
  else LowerTable.lower host

/-- What `urlsplit` takes for the network location, as code points. -/
def netlocOf (url : PyText) (parsed : SplitResult) : PyText :=
  (((url.dropWhile (· ≤ 32)).filter fun n => n ≠ 9 && n ≠ 10 && n ≠ 13).drop
    (parsed.scheme.length + 3)).take parsed.netloc.length

/-- `parsed_asset.hostname.lower().rstrip(".")`. -/
def assetHost [LowerTable] (asset : PyText) (parsed : SplitResult) : PyText :=
  ((LowerTable.lower (hostnameOf (hostOf (netlocOf asset parsed)))).reverse.dropWhile
    (· = 46)).reverse

/-- The canonical asset: `scheme://host`, with the port when it is not the default one. -/
def assetText (scheme : Text) (host : PyText) (port : Nat) : PyText :=
  codePoints (scheme ++ "://".toList) ++ (if host.contains 58 then 91 :: host ++ [93] else host)
    ++ if port = defaultPort scheme then [] else codePoints (':' :: Nat.toDigits 10 port)

def assetField [LowerTable] [StandardLibrary] (value : PyText) : Checked PyText := do
  let asset ← boundedText value "asset" 2048
  match urlsplit (characters asset) with
  | none => invalid "ValueError" "Invalid URL"
  | some parsed =>
    let scheme := lower parsed.scheme
    require ((scheme = http || scheme = https) && parsed.hostname.isSome
        && parsed.userinfo = (none, none) && (parsed.path.isEmpty || parsed.path = ['/'])
        && parsed.query.isEmpty && parsed.fragment.isEmpty) "asset_invalid"
      "asset must be an HTTP(S) origin without credentials, path, query, or fragment."
    match parsed.port with
    | none => invalid "asset_invalid" "asset contains an invalid port."
    | some configured =>
      return assetText scheme (assetHost asset parsed) (portOr scheme configured)

def pathField [StandardLibrary] (value : PyText) : Checked PyText := do
  let path ← boundedText value "path" 4096
  require (path.head? = some 47) "path_invalid" "path must begin with '/'."
  match urlsplit (characters path) with
  | none => invalid "ValueError" "Invalid URL"
  | some parsed =>
    require (parsed.scheme.isEmpty && parsed.netloc.isEmpty && parsed.query.isEmpty
        && parsed.fragment.isEmpty) "path_invalid"
      "path cannot contain a scheme, authority, query, or fragment."
    return path

def methodField [UnicodeTables] (value : PyText) : Checked PyText := do
  let method := UnicodeTables.upper (← boundedText value "method" 32)
  require (isMethod method) "method_invalid" "method must contain only ASCII letters."
  return method

section

variable [LowerTable] [StandardLibrary] [UnicodeTables]

/-- `__post_init__` of `ExternalIdentifier`. -/
def ExternalIdentifier.postInit (raw : ExternalIdentifier) : Checked ExternalIdentifier := do
  let nameSpace := UnicodeTables.upper (← boundedText raw.nameSpace "identifier_namespace" 32)
  let value ← boundedText raw.value "identifier_value" 256
  return { nameSpace, value }

/-- `__post_init__` of `Evidence`. -/
def Evidence.postInit (raw : Evidence) : Checked Evidence := do
  let summary ← boundedText raw.summary "evidence_summary" 4096
  let artifactReference ← optionalBounded raw.artifactReference "artifact_reference" 256
  return { summary, artifactReference }

/-- `__post_init__` of `FindingIdentity`. -/
def FindingIdentity.postInit (raw : FindingIdentity) : Checked FindingIdentity := do
  let ruleId ← ruleIdField raw.ruleId
  let asset ← assetField raw.asset
  let path ← pathField raw.path
  let method ← methodField raw.method
  let parameter ← optionalBounded raw.parameter "parameter" 512
  return { ruleId, asset, path, method, parameter }

/-- The order of a dataclass with `order=True`. -/
def ExternalIdentifier.le (a b : ExternalIdentifier) : Bool :=
  a.nameSpace < b.nameSpace || (a.nameSpace = b.nameSpace && a.value ≤ b.value)

/-- `sorted(set(identifiers))`. -/
def sortedIdentifiers (identifiers : List ExternalIdentifier) : List ExternalIdentifier :=
  identifiers.dedup.insertionSort (fun a b => a.le b = true)

/-- A reference, after it was stripped. -/
def checkReference (reference : PyText) : Checked Unit :=
  match urlsplit (characters reference) with
  | none => invalid "ValueError" "Invalid URL"
  | some parsed =>
    require (parsed.scheme = https && parsed.hostname.isSome && parsed.userinfo = (none, none))
      "reference_invalid" "references must be absolute HTTPS URLs without embedded credentials."

def tagField (value : PyText) : Checked PyText := do
  return LowerTable.lower (← boundedText value "tag" 64)

def sourceField (value : PyText) : Checked PyText := do
  return LowerTable.lower (← boundedText value "source" 128)

/-- `__post_init__` of `NormalizedFinding`. -/
def NormalizedFinding.postInit (raw : NormalizedFinding) : Checked NormalizedFinding := do
  let identifiers := sortedIdentifiers raw.identifiers
  let references := sortedSet (← raw.references.mapM (boundedText · "reference" 2048))
  let tags := sortedSet (← raw.tags.mapM tagField)
  require (identifiers.length ≤ 64 && raw.evidence.length ≤ 32 && references.length ≤ 64
      && tags.length ≤ 64) "collection_too_large"
    "The finding contains too many identifiers, evidence items, references, or tags."
  references.forM checkReference
  let source ← sourceField raw.source
  let sourceRuleId ← optionalBounded raw.sourceRuleId "source_rule_id" 256
  let title ← boundedText raw.title "title" 256
  let description ← boundedText raw.description "description" 16384
  let remediation ← boundedText raw.remediation "remediation" 16384
  return { raw with source, sourceRuleId, title, description, remediation, identifiers, references,
                    tags }

end

end WebGuard.FindingContract
