import Mathlib.Data.List.Infix
import WebGuard.Detection.AuthorizationResources

/-!
# The attack surface of a site

What `attack_surface.py` makes of a place that it discovers: a candidate, its safety class and its
identifier, as long as it is on the origin of the target. What is refused is recorded with the
reason.

The text of an endpoint can hold a lone surrogate if it comes out of a JSON document, so it is code
points; the URL functions see characters. The digest of bytes, `sha256`, is a parameter.
-/

namespace WebGuard.AttackSurface

open PyJson UrlParse StandardLibrary
open FindingContract (LowerTable)
open ActiveDetection (canonicalEndpoint joinBars)

/-- What ends discovery without a result. -/
inductive DiscoveryFailure where
  /-- `ValueError` of `urlsplit`, `urljoin` or a port. -/
  | url
  /-- `UnicodeEncodeError`. -/
  | encoding
  /-- `RecursionError` of `json.loads`. -/
  | recursion
  /-- `ValueError` of an integer that is too long. -/
  | digits
  /-- Raised by a request or its hooks. -/
  | request (failure : ActiveDetection.Failure)
  deriving DecidableEq

/-! ## Values -/

inductive InputLocation where
  | query
  | path
  | form
  | jsonBody
  | header
  deriving DecidableEq

namespace InputLocation

def value : InputLocation → String
  | query => "query"
  | path => "path"
  | form => "form"
  | jsonBody => "json_body"
  | header => "header"

/-- The name of the member. -/
def name : InputLocation → String
  | query => "QUERY"
  | path => "PATH"
  | form => "FORM"
  | jsonBody => "JSON_BODY"
  | header => "HEADER"

def repr (location : InputLocation) : String :=
  "<InputLocation." ++ location.name ++ ": '" ++ location.value ++ "'>"

end InputLocation

inductive DiscoveryMethod where
  | getForm
  | postForm
  | queryParameter
  | linkParameter
  | jsonApiMarkup
  | scriptReference
  | openapiDocument
  | graphqlIndicator
  | sitemap
  | robotsTxt
  | crawlDiscovered
  deriving DecidableEq

inductive SafetyClassification where
  | safeToProbe
  | requiresExplicitActiveAuthorization
  | potentiallyStateChanging
  | unsupported
  deriving DecidableEq

def stateChangingKeywords : List PyText :=
  ["delete", "remove", "purchase", "buy", "checkout", "payment", "pay", "transfer",
    "change-password", "reset-password", "register", "create-user", "logout", "signout",
    "sign-out", "upload", "admin", "destroy", "cancel", "unsubscribe"].map ofString

/-- `any(keyword in text for keyword in _STATE_CHANGING_KEYWORDS)`. -/
def hasKeyword (text : PyText) : Bool := stateChangingKeywords.any fun keyword => keyword <:+: text

def classifySafety [LowerTable] (method path : PyText) (fieldNames : List PyText) :
    SafetyClassification :=
  if method = ofString "GET" then .safeToProbe
  else if hasKeyword (LowerTable.lower (path ++ 32 :: List.intercalate [32] fieldNames)) then
    .potentiallyStateChanging
  else .requiresExplicitActiveAuthorization

/-! ## Candidates -/

/-- The fields of an `AttackSurfaceCandidate` that are given to its constructor. -/
structure CandidateFields where
  endpoint : PyText
  method : PyText
  inputLocation : InputLocation
  parameter : PyText
  baselineValue : PyText
  contentType : PyText
  sourcePage : Text
  discoveryMethod : DiscoveryMethod
  safety : SafetyClassification
  jsonBodyTemplate : PyText := []
  deriving DecidableEq

variable [StandardLibrary]

/-- `AttackSurfaceCandidate`; its endpoint can be split. -/
structure AttackSurfaceCandidate extends CandidateFields where
  parsed : SplitResult
  candidateId : PyText
  splits : urlsplit (characters endpoint) = some parsed

namespace CandidateFields

variable [UnicodeTables]

/-- The text that a candidate is told apart by. -/
def identityKey (fields : CandidateFields) (parsed : SplitResult) : PyText :=
  joinBars [canonicalEndpoint parsed (ActiveDetection.rootedPath parsed),
    UnicodeTables.upper fields.method, fields.contentType, ofString fields.inputLocation.value,
    fields.parameter]

/-- Whether the identity key can be encoded: nothing of a query or a fragment is in it. -/
def hasEncodableKey (fields : CandidateFields) : Bool :=
  isEncodable (fields.endpoint.takeWhile fun n => n ≠ 63 && n ≠ 35)
    && isEncodable (UnicodeTables.upper fields.method) && isEncodable fields.contentType
    && isEncodable fields.parameter

/-- `__post_init__` of `AttackSurfaceCandidate`. -/
def postInit (sha256 : List Nat → PyText) (fields : CandidateFields) :
    Except DiscoveryFailure AttackSurfaceCandidate :=
  match h : urlsplit (characters fields.endpoint) with
  | none => .error .url
  | some parsed =>
    if fields.hasEncodableKey then
      .ok { fields with
        parsed
        candidateId := sha256 ((fields.identityKey parsed).flatMap utf8Bytes)
        splits := h }
    else .error .encoding

end CandidateFields

/-- A reason why something is no candidate. -/
structure SkippedSurfaceItem where
  reason : String
  detail : PyText
  deriving DecidableEq

structure AttackSurfaceBudget where
  maximumEndpoints : Nat := 40
  maximumParametersPerEndpoint : Nat := 10
  maximumForms : Nat := 10
  maximumApiDefinitions : Nat := 3
  maximumScriptResources : Nat := 5
  maximumResponseBytes : Nat := 2 * 1024 * 1024
  maximumLinks : Nat := 100

/-- `AttackSurfaceDiscoveryResult`, without the time. -/
structure DiscoveryResult where
  candidates : List AttackSurfaceCandidate
  skipped : List SkippedSurfaceItem
  truncated : Bool

/-! ## Origins -/

/-- The origin of a URL that was taken apart; `none` is the exception of the port. -/
def onOrigin (target : PyTarget) (parsed : SplitResult) : Option Bool :=
  parsed.port.map fun port =>
    parsed.scheme = target.scheme && lower (parsed.hostname.getD []) = target.hostname
      && port.getD (defaultPort parsed.scheme) = target.port

/-- `_same_origin`: a URL without a scheme and a network location passes. -/
def sameOrigin (target : PyTarget) (url : Text) : Except DiscoveryFailure Bool :=
  match urlsplit url with
  | none => .error .url
  | some parsed =>
    if parsed.scheme.isEmpty && parsed.netloc.isEmpty then .ok true
    else
      match onOrigin target parsed with
      | none => .error .url
      | some same => .ok same

def originBaseUrl (target : PyTarget) : Text :=
  target.scheme ++ "://".toList ++ target.hostname
    ++ (if target.port = defaultPort target.scheme then []
      else ':' :: Nat.toDigits 10 target.port) ++ ['/']

/-- `urljoin`, with its exception. -/
def joined (base url : Text) : Except DiscoveryFailure Text :=
  match urljoin base url with
  | none => .error .url
  | some absolute => .ok absolute

/-! ## Queries -/

section

omit [StandardLibrary]

/-- `name.replace("+", " ")`, unquoted. -/
def unquotePlus (text : Text) : Text := unquote (text.map fun c => if c = '+' then ' ' else c)

/-- `parse_qsl(query, keep_blank_values=True)`. -/
def parseQsl (query : Text) : List (Text × Text) :=
  ((split '&' query).filter (!·.isEmpty)).map fun pair =>
    let (name, _, value) := partition '=' pair
    (unquotePlus name, unquotePlus value)

/-- `parsed_result[name].append(value)`, in a dictionary. -/
def appendValue (name value : Text) : List (Text × List Text) → List (Text × List Text)
  | [] => [(name, [value])]
  | (n, values) :: rest =>
    if n = name then (n, values ++ [value]) :: rest else (n, values) :: appendValue name value rest

/-- `parse_qs(query, keep_blank_values=True)`. -/
def parseQs (query : Text) : List (Text × List Text) :=
  (parseQsl query).foldl (fun params pair => appendValue pair.1 pair.2 params) []

/-- The candidate of a query parameter: a link's or a sitemap's. -/
def queryCandidate (parsed : SplitResult) (sourcePage : Text) (discoveryMethod : DiscoveryMethod)
    (parameter : Text × List Text) : CandidateFields where
  endpoint := canonicalEndpoint parsed (ActiveDetection.rootedPath parsed)
  method := ofString "GET"
  inputLocation := .query
  parameter := codePoints parameter.1
  baselineValue := codePoints (parameter.2.head?.getD [])
  contentType := []
  sourcePage := sourcePage
  discoveryMethod := discoveryMethod
  safety := .safeToProbe

end

end WebGuard.AttackSurface
