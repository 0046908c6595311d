import WebGuard.Detection.PageDiscovery

/-!
# Discovery of a site

`discover_site_attack_surface`: `sitemap.xml`, `robots.txt` and the well-known places of an OpenAPI
document, one after the other.

What comes of a request and the polls for a cancellation are inputs. An example of a document lies
seven levels below its root, so `json.dumps` does not reach the limit of the interpreter that
`json.loads` has kept.
-/

namespace WebGuard.AttackSurface

open PyJson UrlParse StandardLibrary
open FindingContract (LowerTable)
open ActiveDetection (Exchange ProbeResponse)
open Pagination (Interpreter plainHooks)
open RequestTemplates (JsonMutationBudget defaultJsonMutationBudget enumerateJsonParameterPaths)

/-! ## Sitemaps -/

def locStart : List Nat := ofString "<loc>"

def locEnd : List Nat := ofString "</loc>"

/-- What is behind a `<loc>`. -/
def locAt (rest : List Nat) : Option (List Nat) :=
  let run := rest.takeWhile (· ≠ 60)
  if !run.isEmpty && locEnd.isPrefixOf (rest.drop run.length) then some run else none

/-- `re.findall(rb"<loc>([^<]+)</loc>", body)`, after so many bytes. -/
def locsFrom : Nat → List Nat → List (List Nat)
  | _, [] => []
  | skip + 1, _ :: rest => locsFrom skip rest
  | 0, byte :: rest =>
    match if locStart.isPrefixOf (byte :: rest) then locAt ((byte :: rest).drop 5) else none with
    | some loc => loc :: locsFrom (4 + loc.length + 6) rest
    | none => locsFrom 0 rest

/-- The texts of the `<loc>` elements of a sitemap. -/
def sitemapUrls (body : List Nat) : List Text :=
  (locsFrom 0 body).map fun loc => decodeUtf8 loc.length loc

/-! ## Lines -/

/-- The line boundaries of `str.splitlines`. -/
def isLineBreak (c : Char) : Bool :=
  let n := c.toNat
  (10 ≤ n && n ≤ 13) || (28 ≤ n && n ≤ 30) || n = 0x85 || n = 0x2028 || n = 0x2029

/-- `str.splitlines`; the first argument is the line so far, backwards. -/
def linesFrom : Text → Text → List Text
  | [], [] => []
  | line, [] => [line.reverse]
  | line, c :: rest =>
    if isLineBreak c then
      -- A carriage return and a line feed are one boundary.
      match rest with
      | d :: others =>
        if c.toNat = 13 && d.toNat = 10 then line.reverse :: linesFrom [] others
        else line.reverse :: linesFrom [] (d :: others)
      | [] => [line.reverse]
    else linesFrom (c :: line) rest

/-- The path of a `Disallow:` or an `Allow:` line. -/
def robotsPath [StandardLibrary] (line : Text) : Option Text :=
  let visible := stripped line
  let lowered := lower visible
  if "disallow:".toList.isPrefixOf lowered || "allow:".toList.isPrefixOf lowered then
    let path := stripped (partition ':' visible).2.2
    if path.isEmpty || path = ['/'] then none else some path
  else none

/-- The paths that a `robots.txt` names. -/
def robotsPaths [StandardLibrary] (body : List Nat) : List Text :=
  (linesFrom [] (decodeUtf8 body.length body)).filterMap robotsPath

/-! ## OpenAPI documents -/

def openapiWellKnownPaths : List Text :=
  ["/openapi.json", "/swagger.json", "/v2/api-docs", "/swagger/v1/swagger.json",
    "/api-docs"].map (·.toList)

/-- The text of a URL that a path was joined to. The characters have a noncharacter where the path
has a lone surrogate; which one it was is lost, so this is exact for one surrogate only, `U+D800`. -/
def withSurrogates (path : PyText) (absolute : Text) : PyText :=
  if isEncodable path then codePoints absolute
  else absolute.map fun c => if c.toNat = 0xFFFF then 0xD800 else c.toNat

section

variable {φ : Type}

/-- `node.get(key)`, if it is a dictionary. -/
def memberObject (key : String) (node : Json PyText φ) : Option (List (PyText × Json PyText φ)) :=
  match node with
  | .obj members =>
    match lookup (ofString key) members with
    | some (.obj inner) => some inner
    | _ => none
  | _ => none

/-- `schema_type == name`. -/
def hasType (members : List (PyText × Json PyText φ)) (name : String) : Bool :=
  match lookup (ofString "type") members with
  | some (.str text) => text = ofString name
  | _ => false

/-- `_synthesize_example_from_schema`, within so many levels. -/
def synthesizeExample : Nat → Json PyText φ → Json PyText φ
  | 0, _ => .null
  | levels + 1, .obj members =>
    match lookup (ofString "example") members with
    | some value => value
    | none =>
      match memberObject "properties" (.obj members) with
      | some properties =>
        .obj ((properties.take 20).map fun property =>
          (property.1, synthesizeExample levels property.2))
      | none =>
        if hasType members "object" then .obj []
        else if hasType members "string" then .str (ofString "sample")
        else if hasType members "integer" || hasType members "number" then .int 1
        else if hasType members "boolean" then .bool false
        else if hasType members "array" then .arr []
        else .str []
  | _ + 1, _ => .null

/-- The example of the JSON body of an operation. -/
def bodyExample (operation : Json PyText φ) : List (PyText × Json PyText φ) :=
  match memberObject "requestBody" operation with
  | none => []
  | some requestBody =>
    match memberObject "content" (.obj requestBody) with
    | none => []
    | some content =>
      match memberObject "application/json" (.obj content) with
      | none => []
      | some jsonContent =>
        match memberObject "example" (.obj jsonContent) with
        | some given => given
        | none =>
          match memberObject "schema" (.obj jsonContent) with
          | none => []
          | some schema =>
            match synthesizeExample 5 (.obj schema) with
            | .obj members => members
            | _ => []

/-- The limits of `_enumerate_json_leaf_paths`. -/
def leafBudget (budget : AttackSurfaceBudget) : JsonMutationBudget :=
  { defaultJsonMutationBudget with
    maximumParameterPaths := budget.maximumParametersPerEndpoint
    maximumArrayIndex := 10 }

/-- The methods of operations. -/
def operationMethods : List PyText := ["GET", "POST", "PUT", "PATCH", "DELETE"].map ofString

variable [LowerTable] (budget : AttackSurfaceBudget) (documentUrl : Text)

/-- The candidate of an operation. -/
def operationCandidate (endpoint path method : PyText) : CandidateFields where
  endpoint := endpoint
  method := method
  inputLocation := .path
  parameter := []
  baselineValue := []
  contentType := ofString "application/json"
  sourcePage := documentUrl
  discoveryMethod := .openapiDocument
  safety := classifySafety method path []

/-- `_extract_json_body_candidates`. -/
def jsonBodyCandidates [PyFloat φ] [NamedFloats φ] (endpoint method : PyText)
    (operation : Json PyText φ) : List CandidateFields :=
  let members := bodyExample operation
  let bodyText := codePoints (spaced (.obj members))
  let paths := enumerateJsonParameterPaths (leafBudget budget) (.obj members)
  if members.isEmpty || budget.maximumResponseBytes < bodyText.length then []
  else
    paths.map fun path =>
      { endpoint
        method
        inputLocation := .jsonBody
        parameter := path
        baselineValue := []
        contentType := ofString "application/json"
        sourcePage := documentUrl
        discoveryMethod := .openapiDocument
        safety := classifySafety method endpoint paths
        jsonBodyTemplate := bodyText }

/-- The candidates of the operations of a path. -/
def operationCandidates [PyFloat φ] [NamedFloats φ] [UnicodeTables] (endpoint path : PyText)
    (operations : List (PyText × Json PyText φ)) : List CandidateFields :=
  operations.flatMap fun operation =>
    let upperMethod := UnicodeTables.upper operation.1
    if operationMethods.contains upperMethod then
      operationCandidate documentUrl endpoint path upperMethod ::
        jsonBodyCandidates budget documentUrl endpoint upperMethod operation.2
    else []

end

/-! ## The site -/

variable [StandardLibrary] [UnicodeTables] (sha256 : List Nat → PyText)

/-- A loop that makes candidates and appends them. -/
def extendAll : List CandidateFields → Collected → Except DiscoveryFailure Collected
  | [], collected => .ok collected
  | fields :: rest, collected =>
    match fields.postInit sha256 with
    | .error failure => .error failure
    | .ok candidate =>
      extendAll rest { collected with candidates := collected.candidates ++ [candidate] }

variable (target : PyTarget)

/-- A URL that is on the origin of the target goes on, another one is skipped. -/
def onlySameOrigin (text : PyText) (url : Text)
    (next : Collected → Except DiscoveryFailure Collected) (collected : Collected) :
    Except DiscoveryFailure Collected :=
  match sameOrigin target url with
  | .error failure => .error failure
  | .ok false => .ok (collected.skip "off_origin" text)
  | .ok true => next collected

/-- One round of the loop over the URLs of a sitemap. -/
def addLoc (url : Text) : Collected → Except DiscoveryFailure Collected :=
  onlySameOrigin target (codePoints url) url fun collected =>
    match urlsplit url with
    | none => .error .url
    | some parsed =>
      -- Without a query there are no parameters.
      extendAll sha256 ((parseQs parsed.query).map (queryCandidate parsed url .sitemap)) collected

/-- `urljoin(_origin_base_url(target), path.lstrip("/"))`. -/
def originUrl (path : Text) : Except DiscoveryFailure Text :=
  joined (originBaseUrl target) (path.dropWhile (· = '/'))

/-- The candidate of a path in `robots.txt`. -/
def robotsCandidate (absolute : Text) : CandidateFields where
  endpoint := codePoints absolute
  method := ofString "GET"
  inputLocation := .path
  parameter := []
  baselineValue := []
  contentType := []
  sourcePage := "/robots.txt".toList
  discoveryMethod := .robotsTxt
  safety := .unsupported

/-- One round of the loop over the paths of `robots.txt`. -/
def addRobotsPath (path : Text) (collected : Collected) : Except DiscoveryFailure Collected :=
  match originUrl target path with
  | .error failure => .error failure
  | .ok absolute =>
    onlySameOrigin target (codePoints absolute) absolute
      (extendAll sha256 [robotsCandidate absolute]) collected

variable (φ : Type) [PyFloat φ] [NamedFloats φ] [LowerTable] (interpreter : Interpreter)
  (budget : AttackSurfaceBudget)

variable {φ} in
/-- One round of the loop over the paths of an OpenAPI document. -/
def addOpenapiPath (documentUrl : Text) (entry : PyText × Json PyText φ) (collected : Collected) :
    Except DiscoveryFailure Collected :=
  match entry.2 with
  | .obj operations =>
    match joined documentUrl (characters entry.1) with
    | .error failure => .error failure
    | .ok absolute =>
      let endpoint := withSurrogates entry.1 absolute
      onlySameOrigin target endpoint absolute
        (extendAll sha256 (operationCandidates budget documentUrl endpoint entry.1 operations))
        collected
  | _ => .ok collected

/-- `_extract_openapi_candidates`. -/
def addOpenapiDocument (documentUrl : Text) (body : List Nat) (collected : Collected) :
    Except DiscoveryFailure Collected :=
  let url := codePoints documentUrl
  if budget.maximumResponseBytes < body.length then
    .ok (collected.skip "response_too_large" url)
  else
    match loads (plainHooks (φ := φ) interpreter) (decodeUtf8 body.length body) with
    | .error .recursion => .error .recursion
    | .error .digits => .error .digits
    | .error _ => .ok (collected.skip "malformed_openapi_document" url)
    | .ok (.obj document) =>
      match memberObject "paths" (.obj document) with
      | some paths =>
        collectAll (addOpenapiPath sha256 target budget documentUrl)
          (paths.take budget.maximumEndpoints) collected
      | none => .ok (collected.skip "openapi_no_paths" url)
    | .ok _ => .ok (collected.skip "malformed_openapi_document" url)

/-! ## Requests -/

/-- What happens around the requests: the sitemap's is the first, that of `robots.txt` the second. -/
structure SiteSurroundings where
  cancelled : Nat → Bool
  exchange : Nat → Exchange

/-- An error of active detection, as it leaves discovery. -/
def failureOf : ActiveDetection.Failure → DiscoveryFailure
  | .url => .url
  | .encoding => .encoding
  | failure => .request failure

/-- `_fetch`; a request that fails is nothing. -/
def fetchPath (path : Text) (exchange : Exchange) : Except DiscoveryFailure (Option ProbeResponse) :=
  match originUrl target path with
  | .error failure => .error failure
  | .ok url =>
    match ActiveDetection.requireSameOrigin target url with
    | .error failure => .error (failureOf failure)
    | .ok () =>
      match exchange with
      | .answered response => .ok (some response)
      | .failed _ => .ok none
      | .raised failure => .error (.request failure)

/-- A file of the site: what is done with its body, and the reason if there is none. -/
def addFile (path : Text) (reason : String) (exchange : Exchange)
    (next : List Nat → Collected → Except DiscoveryFailure Collected) (collected : Collected) :
    Except DiscoveryFailure Collected :=
  match fetchPath target path exchange with
  | .error failure => .error failure
  | .ok (some response) =>
    if response.status = 200 then next (response.body.take budget.maximumResponseBytes) collected
    else .ok (collected.skip reason (codePoints path))
  | .ok none => .ok (collected.skip reason (codePoints path))

/-- The sitemap. -/
def addSitemap (exchange : Exchange) : Collected → Except DiscoveryFailure Collected :=
  addFile target budget "/sitemap.xml".toList "sitemap_unavailable" exchange fun body =>
    collectAll (addLoc sha256 target) (sitemapUrls body)

/-- `robots.txt`. -/
def addRobots (exchange : Exchange) : Collected → Except DiscoveryFailure Collected :=
  addFile target budget "/robots.txt".toList "robots_unavailable" exchange fun body =>
    collectAll (addRobotsPath sha256 target) (robotsPaths body)

/-- The loop over the well-known paths, with the number of the request and of the documents so
far. -/
def addOpenapi (surroundings : SiteSurroundings) :
    Nat → Nat → List Text → Collected → Except DiscoveryFailure Collected
  | _, _, [], collected => .ok collected
  | place, fetched, path :: rest, collected =>
    if surroundings.cancelled place then .ok (collected.skip "cancelled" (codePoints path))
    else if budget.maximumApiDefinitions ≤ fetched then
      .ok (collected.skip "max_api_definitions_reached" (codePoints path))
    else
      match fetchPath target path (surroundings.exchange place) with
      | .error failure => .error failure
      | .ok none => addOpenapi surroundings (place + 1) fetched rest collected
      | .ok (some response) =>
        if response.status = 200 then
          match originUrl target path with
          | .error failure => .error failure
          | .ok documentUrl =>
            match addOpenapiDocument sha256 target φ interpreter budget documentUrl response.body
              collected with
            | .error failure => .error failure
            | .ok added => addOpenapi surroundings (place + 1) (fetched + 1) rest added
        else addOpenapi surroundings (place + 1) fetched rest collected

/-- The de-duplication of a pass, which ends with as many candidates as there may be. -/
def dedupe (maximumEndpoints : Nat) : List AttackSurfaceCandidate → Collected → Collected
  | [], collected => collected
  | candidate :: rest, collected =>
    if (collected.candidates.map (·.candidateId)).contains candidate.candidateId then
      dedupe maximumEndpoints rest (collected.skip "duplicate" candidate.endpoint)
    else
      let added := { collected with candidates := collected.candidates ++ [candidate] }
      if maximumEndpoints ≤ added.candidates.length then
        added.skip "max_endpoints_reached" candidate.endpoint
      else dedupe maximumEndpoints rest added

/-- The result of a whole pass. -/
def Collected.deduped (collected : Collected) (maximumEndpoints : Nat) : DiscoveryResult :=
  let pass := dedupe maximumEndpoints collected.candidates { skipped := collected.skipped }
  { candidates := pass.candidates
    skipped := pass.skipped
    truncated := pass.candidates.length < collected.candidates.length }

def discoverSiteAttackSurface (surroundings : SiteSurroundings) :
    Except DiscoveryFailure DiscoveryResult :=
  if surroundings.cancelled 0 then
    .ok { candidates := [], skipped := [⟨"cancelled", ofString "sitemap"⟩], truncated := true }
  else
    match addSitemap sha256 target budget (surroundings.exchange 0) {} with
    | .error failure => .error failure
    | .ok sitemap =>
      if surroundings.cancelled 1 then
        let collected := sitemap.skip "cancelled" (ofString "robots")
        .ok { collected.result with truncated := true }
      else
        match addRobots sha256 target budget (surroundings.exchange 1) sitemap with
        | .error failure => .error failure
        | .ok robots =>
          (addOpenapi sha256 target φ interpreter budget surroundings 2 0 openapiWellKnownPaths
            robots).map fun collected => collected.deduped budget.maximumEndpoints

/-! ## Several passes -/

section

omit [UnicodeTables]

/-- The loop of `merge_attack_surface_results` over the candidates of a result. -/
def mergeInto (maximumEndpoints : Nat) : List AttackSurfaceCandidate → Collected → Collected
  | [], collected => collected
  | candidate :: rest, collected =>
    if (collected.candidates.map (·.candidateId)).contains candidate.candidateId then
      mergeInto maximumEndpoints rest (collected.skip "duplicate" candidate.endpoint)
    else if maximumEndpoints ≤ collected.candidates.length then
      mergeInto maximumEndpoints rest
        ({ collected with truncated := true }.skip "max_endpoints_reached" candidate.endpoint)
    else
      mergeInto maximumEndpoints rest
        { collected with candidates := collected.candidates ++ [candidate] }

/-- One result of `merge_attack_surface_results`. -/
def mergeResult (maximumEndpoints : Nat) (collected : Collected) (result : DiscoveryResult) :
    Collected :=
  mergeInto maximumEndpoints result.candidates
    { collected with
      skipped := collected.skipped ++ result.skipped
      truncated := collected.truncated || result.truncated }

def mergeAttackSurfaceResults (results : List DiscoveryResult) (budget : AttackSurfaceBudget) :
    DiscoveryResult :=
  (results.foldl (mergeResult budget.maximumEndpoints) {}).result

end

end WebGuard.AttackSurface
