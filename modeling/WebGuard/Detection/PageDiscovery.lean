import WebGuard.Crawler.Fetch
import WebGuard.Detection.AttackSurface

/-!
# Discovery on a page

`discover_page_attack_surface`: the candidates of the forms, the links and the scripts of a page
that is there already. Nothing is requested.

What `HTMLParser` reports of a text, or the name of its exception, is a parameter. A page has a URL
of characters, since it was requested.
-/

namespace WebGuard.AttackSurface

open PyJson UrlParse StandardLibrary
open FindingContract (LowerTable)

/-! ## The parser -/

/-- What `HTMLParser.feed` reports. -/
inductive HtmlEvent where
  | startTag (tag : StartTag)
  | endTag (tag : Text)
  | data (text : Text)

structure FormState where
  method : PyText
  action : Text
  fields : List PyText
  deriving DecidableEq

/-- The state of `_SurfaceHtmlParser`; a form beyond the limit is `none` in the stack. -/
structure SurfaceHtmlParser where
  forms : List FormState := []
  links : List Text := []
  scriptText : List Text := []
  formStack : List (Option Nat) := []
  inScript : Bool := false
  deriving DecidableEq

def injectableInputTypes : List Text :=
  ["text", "search", "email", "url", "tel", ""].map (·.toList)

def injectableTags : List Text := ["textarea", "select"].map (·.toList)

section

variable [StandardLibrary]

/-- An attribute in the dictionary of a tag, where the last one of a name stays. -/
def attributeValue (name : Text) (attrs : List (Text × Option Text)) : Option Text :=
  (attrs.reverse.find? fun attr => !attr.1.isEmpty && lower attr.1 = name).map (·.2.getD [])

/-- Whether a tag in a form is a field of it. -/
def isField (tagName : Text) (attrs : List (Text × Option Text)) : Bool :=
  if tagName = "input".toList then
    injectableInputTypes.contains
      (lower ((attributeValue "type".toList attrs).getD "text".toList))
  else injectableTags.contains tagName

/-- `attributes.get("method") or "GET"`, in upper case. -/
def formMethod [UnicodeTables] (attrs : List (Text × Option Text)) : PyText :=
  let method := (attributeValue "method".toList attrs).getD []
  UnicodeTables.upper (if method.isEmpty then ofString "GET" else codePoints method)

namespace SurfaceHtmlParser

variable [UnicodeTables] (budget : AttackSurfaceBudget) (parser : SurfaceHtmlParser)

/-- `form.fields.append(name)`. -/
def appendField (index : Nat) (name : PyText) : SurfaceHtmlParser :=
  { parser with
    forms := parser.forms.modify index fun form => { form with fields := form.fields ++ [name] } }

def handleStarttag (tag : StartTag) : SurfaceHtmlParser :=
  let tagName := lower tag.tag
  if tagName = "script".toList then { parser with inScript := true }
  else if tagName = ['a'] && parser.links.length < budget.maximumLinks then
    let href := (attributeValue "href".toList tag.attrs).getD []
    if href.isEmpty then parser else { parser with links := parser.links ++ [href] }
  else if tagName = "form".toList then
    if budget.maximumForms ≤ parser.forms.length then
      { parser with formStack := none :: parser.formStack }
    else
      { parser with
        forms := parser.forms ++ [
          { method := formMethod tag.attrs
            action := (attributeValue "action".toList tag.attrs).getD []
            fields := [] }]
        formStack := some parser.forms.length :: parser.formStack }
  else
    match parser.formStack with
    | some index :: _ =>
      let name := stripText (codePoints ((attributeValue "name".toList tag.attrs).getD []))
      if !name.isEmpty && isField tagName tag.attrs then parser.appendField index name else parser
    | _ => parser

def handleEndtag (tag : Text) : SurfaceHtmlParser :=
  let lowered := lower tag
  if lowered = "script".toList then { parser with inScript := false }
  else if lowered = "form".toList then { parser with formStack := parser.formStack.drop 1 }
  else parser

/-- The handler of what is reported. -/
def handle : HtmlEvent → SurfaceHtmlParser
  | .startTag tag => parser.handleStarttag budget tag
  | .endTag tag => parser.handleEndtag tag
  | .data text =>
    if parser.inScript then { parser with scriptText := parser.scriptText ++ [text] } else parser

end SurfaceHtmlParser

end

/-! ## Literals in scripts -/

def isLiteralCharacter (c : Char) : Bool :=
  isAsciiLetter c || isAsciiDigit c || c = '_' || c = '-' || c = '/'

def isQuote (c : Char) : Bool := c.toNat = 34 || c.toNat = 39

def literalFronts : List Text := ["/api/", "/rest/", "/graphql"].map (·.toList)

/-- The literal that is behind an opening quote. -/
def literalAt (text : Text) : Option Text :=
  match literalFronts.find? (·.isPrefixOf text) with
  | none => none
  | some front =>
    let rest := text.drop front.length
    let run := rest.takeWhile isLiteralCharacter
    if run.length ≤ 128 && (rest.drop run.length).head?.any isQuote then some (front ++ run)
    else none

/-- `_SCRIPT_ENDPOINT_LITERAL.findall`, after so many characters. -/
def literalsFrom : Nat → Text → List Text
  | _, [] => []
  | skip + 1, _ :: rest => literalsFrom skip rest
  | 0, c :: rest =>
    match if isQuote c then literalAt rest else none with
    | some literal => literal :: literalsFrom (literal.length + 1) rest
    | none => literalsFrom 0 rest

/-- `_SCRIPT_ENDPOINT_LITERAL.findall(text)`. -/
def findLiterals (text : Text) : List Text := literalsFrom 0 text

/-- `"graphql" in literal.lower()`. -/
def mentionsGraphql [StandardLibrary] (literal : Text) : Bool := "graphql".toList <:+: lower literal

/-! ## Collecting -/

variable [StandardLibrary]

/-- The lists of a discovery that is running. -/
structure Collected where
  candidates : List AttackSurfaceCandidate := []
  skipped : List SkippedSurfaceItem := []
  truncated : Bool := false

namespace Collected

variable (collected : Collected)

/-- `skipped.append(SkippedSurfaceItem(reason, detail))`. -/
def skip (reason : String) (detail : PyText) : Collected :=
  { collected with skipped := collected.skipped ++ [⟨reason, detail⟩] }

/-- `_add`; `false` stops the loop that has called it. -/
def add (maximumEndpoints : Nat) (candidate : AttackSurfaceCandidate) : Collected × Bool :=
  if maximumEndpoints ≤ collected.candidates.length then
    ({ collected with truncated := true }, false)
  else if (collected.candidates.map (·.candidateId)).contains candidate.candidateId then
    (collected.skip "duplicate" candidate.endpoint, true)
  else ({ collected with candidates := collected.candidates ++ [candidate] }, true)

/-- What discovery returns. -/
def result : DiscoveryResult where
  candidates := collected.candidates
  skipped := collected.skipped
  truncated := collected.truncated

end Collected

section

variable [UnicodeTables] (sha256 : List Nat → PyText)

/-- A loop that makes candidates and adds them. -/
def addAll (maximumEndpoints : Nat) :
    List CandidateFields → Collected → Except DiscoveryFailure Collected
  | [], collected => .ok collected
  | fields :: rest, collected =>
    match fields.postInit sha256 with
    | .error failure => .error failure
    | .ok candidate =>
      let added := collected.add maximumEndpoints candidate
      if added.2 then addAll maximumEndpoints rest added.1 else .ok added.1

/-! ## The page -/

def formUrlencoded : PyText := ofString "application/x-www-form-urlencoded"

/-- The candidate of a field of a form. -/
def formCandidate [LowerTable] (form : FormState) (actionUrl pageUrl : Text) (path : Text)
    (fields : List PyText) (fieldName : PyText) : CandidateFields where
  endpoint := codePoints actionUrl
  method := form.method
  inputLocation := .form
  parameter := fieldName
  baselineValue := []
  contentType := if form.method = ofString "GET" then [] else formUrlencoded
  sourcePage := pageUrl
  discoveryMethod := if form.method = ofString "GET" then .getForm else .postForm
  safety := classifySafety form.method (codePoints path) fields

/-- The candidate of a literal in a script. -/
def literalCandidate (literal absolute pageUrl : Text) : CandidateFields where
  endpoint := codePoints absolute
  method := ofString "GET"
  inputLocation := .path
  parameter := []
  baselineValue := []
  contentType := ofString "application/json"
  sourcePage := pageUrl
  discoveryMethod := if mentionsGraphql literal then .graphqlIndicator else .scriptReference
  safety := .unsupported

variable [LowerTable] (target : PyTarget) (budget : AttackSurfaceBudget) (pageUrl : Text)

/-- One round of the loop over the forms. -/
def addForm (form : FormState) (collected : Collected) : Except DiscoveryFailure Collected :=
  match joined pageUrl (if form.action.isEmpty then pageUrl else form.action) with
  | .error failure => .error failure
  | .ok actionUrl =>
    match sameOrigin target actionUrl with
    | .error failure => .error failure
    | .ok false => .ok (collected.skip "off_origin" (codePoints actionUrl))
    | .ok true =>
      let fields := form.fields.take budget.maximumParametersPerEndpoint
      match urlsplit actionUrl with
      | none => if fields.isEmpty then .ok collected else .error .url
      | some parsed =>
        addAll sha256 budget.maximumEndpoints
          (fields.map (formCandidate form actionUrl pageUrl parsed.path fields)) collected

/-- One round of the loop over the links. -/
def addLink (href : Text) (collected : Collected) : Except DiscoveryFailure Collected :=
  match joined pageUrl href with
  | .error failure => .error failure
  | .ok absolute =>
    match sameOrigin target absolute with
    | .error failure => .error failure
    | .ok false => .ok (collected.skip "off_origin" (codePoints absolute))
    | .ok true =>
      match urlsplit absolute with
      | none => .error .url
      | some parsed =>
        -- Without a query there are no parameters.
        addAll sha256 budget.maximumEndpoints
          (((parseQs parsed.query).take budget.maximumParametersPerEndpoint).map
            (queryCandidate parsed pageUrl .linkParameter)) collected

/-- One round of the loop over the literals. -/
def addLiteral (literal : Text) (collected : Collected) : Except DiscoveryFailure Collected :=
  match joined pageUrl literal with
  | .error failure => .error failure
  | .ok absolute =>
    match sameOrigin target absolute with
    | .error failure => .error failure
    | .ok false => .ok (collected.skip "off_origin" (codePoints absolute))
    | .ok true =>
      addAll sha256 budget.maximumEndpoints [literalCandidate literal absolute pageUrl] collected

/-- A loop, whose rounds can fail. -/
def collectAll {α : Type} (round : α → Collected → Except DiscoveryFailure Collected) :
    List α → Collected → Except DiscoveryFailure Collected
  | [], collected => .ok collected
  | item :: rest, collected =>
    match round item collected with
    | .error failure => .error failure
    | .ok added => collectAll round rest added

/-- The literals that are looked at. -/
def scriptLiterals (parser : SurfaceHtmlParser) : List Text :=
  (findLiterals (parser.scriptText.flatten.take budget.maximumResponseBytes)).take
    budget.maximumScriptResources

/-- The loops over what the parser has collected. -/
def collectPage (parser : SurfaceHtmlParser) : Except DiscoveryFailure Collected := do
  let forms ← collectAll (addForm sha256 target budget pageUrl) parser.forms {}
  let links ← collectAll (addLink sha256 target budget pageUrl) parser.links forms
  collectAll (addLiteral sha256 target budget pageUrl) (scriptLiterals budget parser) links

/-- What the parser has collected when it has been fed. -/
def parsePage (events : List HtmlEvent) : SurfaceHtmlParser :=
  events.foldl (fun parser event => parser.handle budget event) {}

def discoverPageAttackSurface (feed : Text → Except String (List HtmlEvent))
    (htmlBody : List Nat) : Except DiscoveryFailure DiscoveryResult :=
  if budget.maximumResponseBytes < htmlBody.length then
    .ok {
      candidates := []
      skipped := [⟨"response_too_large", ofString (toString htmlBody.length ++ " bytes exceeds "
        ++ toString budget.maximumResponseBytes ++ ".")⟩]
      truncated := true }
  else
    match feed (decodeUtf8 htmlBody.length htmlBody) with
    | .error name =>
      .ok { candidates := [], skipped := [⟨"malformed_html", ofString name⟩], truncated := false }
    | .ok events =>
      (collectPage sha256 target budget pageUrl (parsePage budget events)).map Collected.result

end

end WebGuard.AttackSurface
