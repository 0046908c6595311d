import WebGuard.Api.Pagination
import WebGuard.Detection.JsonParameters
import WebGuard.Lib.Atomic
import WebGuard.Lib.JsonSpaced

/-!
# Mutated requests

`mutate` of `request_template.py`, and the request that `execute_baseline` sends of a template. A
JSON body is changed in the document that it reads as, the other parameters in a dictionary.

`deepcopy` and the walks over a document are not limited by the interpreter here: the default budget
ends at a depth of six.
-/

namespace WebGuard.RequestTemplates

open PyJson UrlParse UnicodeTables
open Pagination (Interpreter plainHooks)

/-- What ends `mutate`. -/
inductive MutationFailure where
  /-- Raised by a function of request templates. -/
  | template (failure : TemplateFailure)
  /-- `UnicodeEncodeError`. -/
  | encoding
  /-- `ValueError` of `urlsplit`. -/
  | url
  /-- `KeyError`, `IndexError` or `TypeError` of a lookup. -/
  | lookup
  deriving DecidableEq

/-- `RequestTemplateError`. -/
def refuseTemplate {α : Type} (code message : String) : Except MutationFailure α :=
  .error (.template (.requestTemplate code message))

/-! ## Templates -/

namespace ContentType

def none : PyText := []
def formUrlencoded : PyText := ofString "application/x-www-form-urlencoded"
def json : PyText := ofString "application/json"

end ContentType

structure RequestTemplate where
  endpoint : Text
  method : PyText
  contentType : PyText
  parameter : PyText
  queryParameters : List (PyText × PyText)
  formParameters : List (PyText × PyText)
  jsonBody : PyText
  sourceCandidateId : PyText
  deriving DecidableEq

/-- `RequestTemplate(...)`. -/
def RequestTemplate.postInit [UnicodeTables] (template : RequestTemplate) :
    Except MutationFailure RequestTemplate :=
  if (stripText (codePoints template.endpoint)).isEmpty then
    refuseTemplate "request_template_endpoint_invalid"
      "A request template requires a non-empty endpoint."
  else if (stripText template.method).isEmpty then
    refuseTemplate "request_template_method_invalid"
      "A request template requires a non-empty method."
  else .ok { template with method := upper template.method }

structure MutatedRequest where
  url : Text
  method : PyText
  contentType : PyText
  body : List Nat
  parameter : PyText
  sourceCandidateId : PyText
  deriving DecidableEq

/-! ## Dictionaries of texts -/

/-- `fields[name] = value`: a name that is there keeps its place. -/
def assign (name value : PyText) : List (PyText × PyText) → List (PyText × PyText)
  | [] => [(name, value)]
  | (n, v) :: rest => if n = name then (n, value) :: rest else (n, v) :: assign name value rest

/-- `dict(pairs)`. -/
def dictionary (pairs : List (PyText × PyText)) : List (PyText × PyText) :=
  pairs.foldl (fun fields pair => assign pair.1 pair.2 fields) []

/-- `text.encode("utf-8")`. -/
def encoded (text : PyText) : Except MutationFailure (List Nat) :=
  match encodeUtf8 text with
  | some bytes => .ok bytes
  | none => .error .encoding

/-- `urlencode(fields)`. -/
def urlencoded (fields : List (PyText × PyText)) : Except MutationFailure PyText :=
  if fields.all fun field => isEncodable field.1 && isEncodable field.2 then
    .ok (urlencode fields)
  else .error .encoding

/-! ## JSON bodies -/

section

variable {φ : Type} [UnicodeTables]

mutual

def validateJsonDepth (maximumDepth depth : Nat) (node : Json PyText φ) :
    Except MutationFailure Unit :=
  if maximumDepth < depth then
    refuseTemplate "json_document_too_deep"
      "The JSON document exceeds the configured depth limit."
  else
    match node with
    | .obj members => validateMemberDepths maximumDepth (depth + 1) members
    | .arr items => validateItemDepths maximumDepth (depth + 1) items
    | _ => .ok ()

def validateMemberDepths (maximumDepth depth : Nat) (members : List (PyText × Json PyText φ)) :
    Except MutationFailure Unit :=
  match members with
  | [] => .ok ()
  | (_, value) :: rest => do
    validateJsonDepth maximumDepth depth value
    validateMemberDepths maximumDepth depth rest

def validateItemDepths (maximumDepth depth : Nat) (items : List (Json PyText φ)) :
    Except MutationFailure Unit :=
  match items with
  | [] => .ok ()
  | value :: rest => do
    validateJsonDepth maximumDepth depth value
    validateItemDepths maximumDepth depth rest

end

def loadBoundedJsonDocument [PyFloat φ] (interpreter : Interpreter) (budget : JsonMutationBudget)
    (text : PyText) : Except MutationFailure (Json PyText φ) := do
  let bytes ← encoded text
  if budget.maximumDocumentBytes < bytes.length then
    refuseTemplate "json_document_too_large"
      "The JSON document exceeds the configured size limit."
  else
    match loads (plainHooks interpreter) (characters text) with
    | .error _ =>
      refuseTemplate "json_document_malformed" "The JSON document could not be parsed."
    | .ok document => do
      validateJsonDepth budget.maximumDepth 0 document
      return document

/-- The error for a segment that is not in its node. -/
def segmentMissing {α : Type} : JsonSegment → Except MutationFailure α
  | .name text => refuseTemplate "json_path_not_found"
      ("JSON path segment " ++ quoted text ++ " was not found in the document.")
  | .index n => refuseTemplate "json_path_not_found"
      ("JSON array index " ++ toString n ++ " is out of range.")

/-- The assignment that ends `_set_json_value`. -/
def setSegment (value : Json PyText φ) (segment : JsonSegment) (node : Json PyText φ) :
    Except MutationFailure (Json PyText φ) :=
  match segment, node with
  | .name text, .obj members =>
    if (lookup text members).isSome then .ok (.obj (insertMember text value members))
    else segmentMissing segment
  | .index n, .arr items =>
    if n < items.length then .ok (.arr (items.set n value)) else segmentMissing segment
  | _, _ => segmentMissing segment

/-- `_set_json_value`, with each node rebuilt around the one that changes. -/
def setJsonValue (value : Json PyText φ) :
    List JsonSegment → Json PyText φ → Except MutationFailure (Json PyText φ)
  | [], _ => .error .lookup
  | [segment], node => setSegment value segment node
  | segment :: next :: rest, node =>
    match segment, node with
    | .name text, .obj members =>
      match lookup text members with
      | some child => do
        let changed ← setJsonValue value (next :: rest) child
        return .obj (insertMember text changed members)
      | none => .error .lookup
    | .index n, .arr items =>
      match items[n]? with
      | some child => do
        let changed ← setJsonValue value (next :: rest) child
        return .arr (items.set n changed)
      | none => .error .lookup
    -- An index of a text is one of its characters, in which nothing can be set.
    | .index n, .str text =>
      match text[n]? with
      | some character => setJsonValue value (next :: rest) (.str [character])
      | none => .error .lookup
    | _, _ => .error .lookup

mutual

/-- `repr(value)`. -/
def pyRepr [PyFloat φ] [NamedFloats φ] : Json PyText φ → String
  | .null => "None"
  | .bool true => "True"
  | .bool false => "False"
  | .int n => toString n
  | .float x =>
    match NamedFloats.constant x with
    | some .nan => "nan"
    | some .infinity => "inf"
    | some .negativeInfinity => "-inf"
    | none => String.ofList (PyFloat.repr x)
  | .str text => quoted text
  | .arr items => "[" ++ String.intercalate ", " (itemReprs items) ++ "]"
  | .obj members => "\x7b" ++ String.intercalate ", " (memberReprs members) ++ "\x7d"

def itemReprs [PyFloat φ] [NamedFloats φ] : List (Json PyText φ) → List String
  | [] => []
  | item :: rest => pyRepr item :: itemReprs rest

def memberReprs [PyFloat φ] [NamedFloats φ] : List (PyText × Json PyText φ) → List String
  | [] => []
  | (key, value) :: rest =>
    (quoted key ++ ": " ++ pyRepr value) :: memberReprs rest

end

/-- `"" if value is None else str(value)`. -/
def parameterText [PyFloat φ] [NamedFloats φ] : Json PyText φ → PyText
  | .null => []
  | .str text => text
  | value => ofString (pyRepr value)

end

/-! ## `mutate` -/

section

variable (φ : Type) [PyFloat φ] [NamedFloats φ] [UnicodeTables] [DigitTable] [StandardLibrary]
  (interpreter : Interpreter)

/-- The document, the segments of a path in it and the value that is there. -/
def openParameter (budget : JsonMutationBudget) (text parameter : PyText) :
    Except MutationFailure (Json PyText φ × List JsonSegment × Json PyText φ) := do
  let document ← loadBoundedJsonDocument interpreter budget text
  let segments ← (parseJsonParameterPath interpreter.maximumDigits parameter).mapError
    MutationFailure.template
  let value ← (getJsonValue document segments).mapError MutationFailure.template
  return (document, segments, value)

/-- `mutate`, of a template with a JSON body. -/
def mutateJson (budget : JsonMutationBudget) (template : RequestTemplate)
    (parameter replacement : PyText) : Except MutationFailure MutatedRequest := do
  if template.jsonBody.isEmpty then
    refuseTemplate "request_template_missing_json_body" "This template has no JSON body to mutate."
  else
    let (document, segments, _) ← openParameter φ interpreter budget template.jsonBody parameter
    let mutatedDocument ← setJsonValue (.str replacement) segments document
    let bodyText := codePoints (spaced mutatedDocument)
    let body ← encoded bodyText
    if budget.maximumDocumentBytes < body.length then
      refuseTemplate "json_document_too_large"
        "The mutated JSON document exceeds the configured size limit."
    else
      return ⟨template.endpoint, template.method, ContentType.json, body, parameter,
        template.sourceCandidateId⟩

/-- The dictionary of the parameters, when it has the one that is looked for. -/
def declaredFields (kind : String) (pairs : List (PyText × PyText)) (parameter : PyText) :
    Except MutationFailure (List (PyText × PyText)) :=
  if parameter ∈ (dictionary pairs).map Prod.fst then .ok (dictionary pairs)
  else
    refuseTemplate "request_template_parameter_not_found"
      (kind ++ " parameter " ++ quoted parameter
        ++ " is not present on this template.")

/-- `mutate`, of a template with a form. -/
def mutateForm (template : RequestTemplate) (parameter replacement : PyText) :
    Except MutationFailure MutatedRequest := do
  let fields ← declaredFields "Form" template.formParameters parameter
  let bodyText ← urlencoded (assign parameter replacement fields)
  let body ← encoded bodyText
  return ⟨template.endpoint, template.method, ContentType.formUrlencoded, body, parameter,
    template.sourceCandidateId⟩

/-- `urlsplit(endpoint)`. -/
def splitEndpoint (endpoint : Text) : Except MutationFailure SplitResult :=
  match urlsplit endpoint with
  | some parts => .ok parts
  | none => .error .url

/-- `f"{parsed.scheme}://{parsed.netloc}{parsed.path or '/'}?{query}"`. -/
def urlWithQuery (parts : SplitResult) (query : Text) : Text :=
  parts.scheme ++ "://".toList ++ parts.netloc
    ++ (if parts.path.isEmpty then ['/'] else parts.path) ++ '?' :: query

/-- `mutate`, of a template without a body. -/
def mutateQuery (template : RequestTemplate) (parameter replacement : PyText) :
    Except MutationFailure MutatedRequest := do
  let params ← declaredFields "Query" template.queryParameters parameter
  let parsed ← splitEndpoint template.endpoint
  let query ← urlencoded (assign parameter replacement params)
  return ⟨urlWithQuery parsed (characters query), template.method, ContentType.none, [], parameter,
    template.sourceCandidateId⟩

def mutate (budget : JsonMutationBudget) (template : RequestTemplate)
    (parameter replacement : PyText) : Except MutationFailure MutatedRequest :=
  if template.contentType = ContentType.json then
    mutateJson φ interpreter budget template parameter replacement
  else if template.contentType = ContentType.formUrlencoded then
    mutateForm template parameter replacement
  else mutateQuery template parameter replacement

/-- `fields[parameter]`. -/
def fieldValue (fields : List (PyText × PyText)) (parameter : PyText) :
    Except MutationFailure PyText :=
  match fields.lookup parameter with
  | some value => .ok value
  | none => .error .lookup

def getTemplateParameterValue (template : RequestTemplate) (parameter : PyText) :
    Except MutationFailure PyText :=
  if template.contentType = ContentType.json then
    if template.jsonBody.isEmpty then
      refuseTemplate "request_template_missing_json_body" "This template has no JSON body to read."
    else do
      let (_, _, value) ←
        openParameter φ interpreter defaultJsonMutationBudget template.jsonBody parameter
      return parameterText value
  else if template.contentType = ContentType.formUrlencoded then do
    let fields ← declaredFields "Form" template.formParameters parameter
    fieldValue fields parameter
  else do
    let params ← declaredFields "Query" template.queryParameters parameter
    fieldValue params parameter

/-! ## The baseline -/

def templateBaselineBody (template : RequestTemplate) : Except MutationFailure (List Nat) :=
  if template.contentType = ContentType.json then
    if template.jsonBody.isEmpty then .ok [] else encoded template.jsonBody
  else if template.contentType = ContentType.formUrlencoded then do
    let bodyText ← urlencoded (dictionary template.formParameters)
    encoded bodyText
  else .ok []

def templateBaselineUrl (template : RequestTemplate) : Except MutationFailure Text :=
  if template.contentType = ContentType.json
      ∨ template.contentType = ContentType.formUrlencoded then
    .ok template.endpoint
  else if template.queryParameters.isEmpty then .ok template.endpoint
  else do
    let parsed ← splitEndpoint template.endpoint
    let query ← urlencoded (dictionary template.queryParameters)
    return urlWithQuery parsed (characters query)

end

end WebGuard.RequestTemplates
