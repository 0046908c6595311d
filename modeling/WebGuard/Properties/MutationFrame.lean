import WebGuard.Detection.EncodedFields
import WebGuard.Detection.JsonUpdates
import WebGuard.Properties.ParameterGrammar
import WebGuard.Properties.PermitCodec

/-!
# What a mutation changes

A template describes a request with all of its parameters, those of the query of its endpoint
included. A mutated request is to be the one that the template with another value of one parameter
describes.
-/

namespace WebGuard.RequestTemplates

open PyJson UrlParse Atomic List
open Pagination (Interpreter plainHooks)
open ScanPermits (oneFloat oneFloat_laws asciiTables asciiLibrary)

/-! ## Requests -/

/-- What is sent. -/
structure SentRequest where
  url : Text
  method : PyText
  contentType : PyText
  body : List Nat
  deriving DecidableEq

def MutatedRequest.request (mutated : MutatedRequest) : SentRequest :=
  ⟨mutated.url, mutated.method, mutated.contentType, mutated.body⟩

/-- The query of an endpoint, in front of further parameters. -/
def ownQuery (parts : SplitResult) : Text :=
  if parts.query.isEmpty then [] else parts.query ++ ['&']

section

variable [StandardLibrary]

/-- The request that a template describes. -/
def described (template : RequestTemplate) : Except MutationFailure SentRequest :=
  if template.contentType = ContentType.json then do
    let body ← encoded template.jsonBody
    return ⟨template.endpoint, template.method, template.contentType, body⟩
  else if template.contentType = ContentType.formUrlencoded then do
    let text ← urlencoded template.formParameters
    let body ← encoded text
    return ⟨template.endpoint, template.method, template.contentType, body⟩
  else if template.queryParameters.isEmpty then
    .ok ⟨template.endpoint, template.method, template.contentType, []⟩
  else do
    let parts ← splitEndpoint template.endpoint
    let query ← urlencoded template.queryParameters
    return ⟨urlWithQuery parts (ownQuery parts ++ characters query), template.method,
      template.contentType, []⟩

/-- The request that `execute_baseline` sends. -/
def baselineRequest (template : RequestTemplate) : Except MutationFailure SentRequest := do
  let url ← templateBaselineUrl template
  let body ← templateBaselineBody template
  return ⟨url, template.method, template.contentType, body⟩

end

/-! ## The frame -/

section

variable (φ : Type) [PyFloat φ] [UnicodeTables] [DigitTable] (interpreter : Interpreter)

variable {φ} in
/-- Documents that differ in what is at one place. -/
structure ReplacedAt (segments : List JsonSegment) (value : PyText)
    (document changed : Json PyText φ) : Prop where
  value : ∃ text, getJsonValue changed segments = .ok (.str text) ∧
    (isEncodable value = true → text = value)
  others : ∀ other, ¬ segments <+: other → ¬ other <+: segments →
    getJsonValue changed other = getJsonValue document other

/-- Templates that differ in the value of one parameter. -/
inductive OneValueApart (parameter value : PyText) (template : RequestTemplate) :
    RequestTemplate → Prop
  | query {after : List (PyText × PyText)} (hjson : template.contentType ≠ ContentType.json)
      (hform : template.contentType ≠ ContentType.formUrlencoded)
      (h : Replaced parameter value template.queryParameters after) :
      OneValueApart parameter value template { template with queryParameters := after }
  | form {after : List (PyText × PyText)}
      (hform : template.contentType = ContentType.formUrlencoded)
      (h : Replaced parameter value template.formParameters after) :
      OneValueApart parameter value template { template with formParameters := after }
  | json {document changed : Json PyText φ} {segments : List JsonSegment} {body : PyText}
      (hjson : template.contentType = ContentType.json)
      (hdocument : loads (plainHooks interpreter) (characters template.jsonBody) = .ok document)
      (hpath : parseJsonParameterPath interpreter.maximumDigits parameter = .ok segments)
      (hchanged : loads (plainHooks interpreter) (characters body) = .ok changed)
      (h : ReplacedAt segments value document changed) :
      OneValueApart parameter value template { template with jsonBody := body }

variable [NamedFloats φ] [StandardLibrary]

/-- The template has the parameter. -/
def Declares (template : RequestTemplate) (parameter : PyText) : Prop :=
  ∃ value, getTemplateParameterValue φ interpreter template parameter = .ok value

/-- A mutation changes the value of the parameter and nothing else, and takes it back. -/
structure KeepsFrame (template : RequestTemplate) (parameter : PyText) : Prop where
  frame : ∀ value mutated, (value.all (· < 0x110000)) = true →
    mutate φ interpreter defaultJsonMutationBudget template parameter value = .ok mutated →
    ∃ changed, OneValueApart φ interpreter parameter value template changed ∧
      described changed = .ok mutated.request
  restored : ∃ value mutated,
    getTemplateParameterValue φ interpreter template parameter = .ok value ∧
    mutate φ interpreter defaultJsonMutationBudget template parameter value = .ok mutated ∧
    described template = .ok mutated.request ∧ baselineRequest template = .ok mutated.request

/-- No name is there twice, and `urlencode` takes every text. -/
def PlainFields (fields : List (PyText × PyText)) : Prop :=
  (fields.map Prod.fst).Nodup ∧
    ∀ field ∈ fields, isEncodable field.1 = true ∧ isEncodable field.2 = true

/-- The templates that a mutation is faithful to. -/
structure Faithful (template : RequestTemplate) (parameter : PyText) : Prop where
  json : template.contentType = ContentType.json →
    ∃ (document : Json PyText φ) (segments : List JsonSegment) (text : PyText),
      openParameter φ interpreter defaultJsonMutationBudget template.jsonBody parameter
        = .ok (document, segments, .str text) ∧
      template.jsonBody = codePoints (spaced document)
  form : template.contentType = ContentType.formUrlencoded → PlainFields template.formParameters
  query : template.contentType ≠ ContentType.json →
    template.contentType ≠ ContentType.formUrlencoded →
    template.contentType = ContentType.none ∧ PlainFields template.queryParameters ∧
      ∃ parts, urlsplit template.endpoint = some parts ∧ parts.query = []

end

/-! ## Parameters of a document -/

variable {segments : List JsonSegment} {budget : JsonMutationBudget} {text : PyText}
  {pairs : List (PyText × PyText)} {parts : SplitResult}

section

variable {φ : Type} [PyFloat φ] [UnicodeTables] [DigitTable] {interpreter : Interpreter}

theorem segments_ne_nil {limit : Nat} {path : PyText}
    (h : parseJsonParameterPath limit path = .ok segments) : segments ≠ [] := by
  cases parse_eq_ok.mp h with
  | name => exact cons_ne_nil _ _
  | index => exact cons_ne_nil _ _

/-- What is known of a document that was read. -/
structure Opened (interpreter : Interpreter) (budget : JsonMutationBudget) (text : PyText)
    (document : Json PyText φ) : Prop where
  loads : loads (plainHooks interpreter) (characters text) = .ok document
  size : ∃ bytes, encoded text = .ok bytes ∧ bytes.length ≤ budget.maximumDocumentBytes

omit [UnicodeTables] [DigitTable] in
theorem opened_of_load {document : Json PyText φ}
    (h : loadBoundedJsonDocument interpreter budget text = .ok document) :
    Opened interpreter budget text document := by
  unfold loadBoundedJsonDocument at h
  obtain ⟨bytes, hbytes, h⟩ := bind_ok h
  split at h
  · cases h
  · next hsize =>
    split at h
    · cases h
    · next found hfound =>
      obtain ⟨-, -, h⟩ := bind_ok h
      cases h
      exact ⟨hfound, bytes, hbytes, by omega⟩

/-- The value that a parameter names in a document. -/
theorem openParameter_eq_ok {parameter : PyText} {document value : Json PyText φ} :
    openParameter φ interpreter budget text parameter = .ok (document, segments, value) ↔
      loadBoundedJsonDocument interpreter budget text = .ok document ∧
        parseJsonParameterPath interpreter.maximumDigits parameter = .ok segments ∧
        getJsonValue document segments = .ok value := by
  unfold openParameter
  simp only [bind_ok_iff, mapError_ok_iff]
  constructor
  · rintro ⟨_, hload, _, hparse, _, hget, heq⟩
    cases heq
    exact ⟨hload, hparse, hget⟩
  · rintro ⟨hload, hparse, hget⟩
    exact ⟨document, hload, segments, hparse, value, hget, rfl⟩

end

/-! ## JSON bodies -/

section

variable {φ : Type} [PyFloat φ] [NamedFloats φ] [UnicodeTables] [DigitTable]
  {interpreter : Interpreter}

omit [NamedFloats φ] [UnicodeTables] [DigitTable] in
theorem hookless_plainHooks : Hookless (plainHooks (φ := φ) interpreter) :=
  ⟨fun _ => rfl, fun _ => rfl⟩

/-- The text that a document with a text set in it is read with. -/
def readText (value : PyText) : PyText := joinSurrogates (value.flatMap Mode.ascii.units)

omit [UnicodeTables] [DigitTable] in
theorem loads_replaceAt (laws : FloatLaws φ) {document changed : Json PyText φ} {value : PyText}
    (hvalue : value.all (· < 0x110000) = true)
    (hloads : ∃ text, loads (plainHooks interpreter) text = .ok document)
    (h : replaceAt (.str value) segments document = some changed) :
    ∃ other, replaceAt (.str (readText value)) segments document = some other ∧
      loads (plainHooks interpreter) (spaced changed) = .ok other ∧
      spaced other = spaced changed := by
  obtain ⟨text, hloads⟩ := hloads
  have hwritten : spaced (.str value : Json PyText φ)
      = spaced (.str (readText value) : Json PyText φ) := by
    rw [spaced, spaced, readText, renderText_joinSurrogates hvalue]
  obtain ⟨other, hother, hspaced⟩ := spaced_replaceAt hwritten h
  have hunits : ∀ n ∈ value.flatMap Mode.ascii.units, n < 0x110000 := by
    intro n hn
    have hadmits := admits_ascii hvalue n hn
    simp only [Mode.admits, decide_eq_true_eq] at hadmits
    omega
  have hscanned := scanned_replaceAt (readsBack_joinSurrogates hunits)
    (loads_scanned hookless_plainHooks hloads) hother
  refine ⟨other, hother, ?_, hspaced.symm⟩
  rw [hspaced]
  exact loads_spaced laws hookless_plainHooks hscanned

omit [UnicodeTables] [DigitTable] in
theorem spaced_bytes (laws : FloatLaws φ) (document : Json PyText φ) :
    (∀ n ∈ codePoints (spaced document), n < 128) ∧
      encoded (codePoints (spaced document)) = .ok (codePoints (spaced document)) := by
  have hlt : ∀ n ∈ codePoints (spaced document), n < 128 := by
    intro n hn
    obtain ⟨c, hc, rfl⟩ := mem_map.mp hn
    exact spaced_ascii laws document c hc
  exact ⟨hlt, encoded_of_ascii hlt⟩

variable {template : RequestTemplate} {mutated : MutatedRequest}

/-- A mutated document has one value replaced. -/
theorem mutateJson_eq_ok (laws : FloatLaws φ) {parameter replacement : PyText} :
    mutateJson φ interpreter budget template parameter replacement = .ok mutated ↔
      ∃ (document : Json PyText φ) (segments : List JsonSegment) (old changed : Json PyText φ),
        template.jsonBody ≠ [] ∧
        openParameter φ interpreter budget template.jsonBody parameter
          = .ok (document, segments, old) ∧
        replaceAt (.str replacement) segments document = some changed ∧
        (codePoints (spaced changed)).length ≤ budget.maximumDocumentBytes ∧
        mutated = ⟨template.endpoint, template.method, ContentType.json,
          codePoints (spaced changed), parameter, template.sourceCandidateId⟩ := by
  have hset : ∀ {document old changed : Json PyText φ} {segments : List JsonSegment},
      openParameter φ interpreter budget template.jsonBody parameter
        = .ok (document, segments, old) →
      (setJsonValue (.str replacement) segments document = .ok changed ↔
        replaceAt (.str replacement) segments document = some changed) := fun hopen =>
    setJsonValue_eq_ok (segments_ne_nil (openParameter_eq_ok.mp hopen).2.1)
  unfold mutateJson
  constructor
  · intro h
    split at h
    · cases h
    · next hbody =>
      obtain ⟨⟨document, segments, old⟩, hopen, h⟩ := bind_ok h
      obtain ⟨changed, hchanged, h⟩ := bind_ok h
      obtain ⟨body, hencoded, h⟩ := bind_ok h
      rw [(spaced_bytes laws changed).2] at hencoded
      cases hencoded
      split at h
      · cases h
      · next hsize =>
        cases h
        exact ⟨document, segments, old, changed, by simpa using hbody, hopen,
          (hset hopen).mp hchanged, by omega, rfl⟩
  · rintro ⟨document, segments, old, changed, hbody, hopen, hchanged, hsize, rfl⟩
    rw [if_neg (by simpa using hbody), hopen, ok_bind]
    dsimp only
    rw [(hset hopen).mpr hchanged, ok_bind, (spaced_bytes laws changed).2, ok_bind,
      if_neg (by omega)]
    rfl

theorem json_frame [StandardLibrary] (laws : FloatLaws φ) {parameter value : PyText}
    (hjson : template.contentType = ContentType.json) (hvalue : value.all (· < 0x110000) = true)
    (h : mutateJson φ interpreter budget template parameter value = .ok mutated) :
    ∃ changed, OneValueApart φ interpreter parameter value template changed ∧
      described changed = .ok mutated.request := by
  obtain ⟨document, segments, old, changed, -, hopen, hchanged, -, rfl⟩ :=
    (mutateJson_eq_ok laws).mp h
  obtain ⟨hload, hparse, -⟩ := openParameter_eq_ok.mp hopen
  have hopened := opened_of_load hload
  obtain ⟨other, hother, hloads, -⟩ := loads_replaceAt laws hvalue ⟨_, hopened.loads⟩ hchanged
  have hreplaced : ReplacedAt segments value document other :=
    ⟨⟨readText value, getJsonValue_replaceAt hother,
      fun hencodable => joinSurrogates_written (readsBack_of_isEncodable hencodable)⟩,
      fun _ => getJsonValue_replaceAt_of_ne hother⟩
  have hbody : loads (plainHooks interpreter) (characters (codePoints (spaced changed)))
      = .ok other := by
    rw [characters_codePoints]
    exact hloads
  refine ⟨{ template with jsonBody := codePoints (spaced changed) },
    .json hjson hopened.loads hparse hbody hreplaced, ?_⟩
  unfold described
  dsimp only
  rw [if_pos hjson, (spaced_bytes laws changed).2, ok_bind, hjson]
  rfl

omit [DigitTable] in
theorem parameterText_lt {maximumDigits depth : Nat} {value : Json PyText φ}
    (h : Scanned maximumDigits depth value) :
    (parameterText value).all (· < 0x110000) = true := by
  have hstring : ∀ s : String, (ofString s).all (· < 0x110000) = true := by
    intro s
    have hreads : readsBack .ascii (ofString s) = true :=
      readsBack_of_isEncodable (isEncodable_ofString s)
    rw [readsBack, Bool.and_eq_true] at hreads
    exact hreads.2
  cases value with
  | null => rfl
  | str text =>
    have hreads : readsBack .ascii text = true := h
    rw [readsBack, Bool.and_eq_true] at hreads
    exact hreads.2
  | bool b | int n | float x | arr items | obj members => exact hstring _

theorem json_faithful [StandardLibrary] (laws : FloatLaws φ) {parameter : PyText}
    {document old : Json PyText φ} (hjson : template.contentType = ContentType.json)
    (hopen : openParameter φ interpreter budget template.jsonBody parameter
      = .ok (document, segments, old))
    (h : mutateJson φ interpreter budget template parameter (parameterText old) = .ok mutated)
    (hdescribed : described template = .ok mutated.request) :
    (∃ text, old = .str text) ∧ template.jsonBody = codePoints (spaced document) := by
  obtain ⟨document', segments', old', changed, -, hopen', hchanged, -, rfl⟩ :=
    (mutateJson_eq_ok laws).mp h
  rw [hopen] at hopen'
  cases hopen'
  obtain ⟨hload, -, hget⟩ := openParameter_eq_ok.mp hopen
  have hopened := opened_of_load hload
  obtain ⟨deeper, hscanned⟩ :=
    scanned_getJsonValue (loads_scanned hookless_plainHooks hopened.loads) hget
  obtain ⟨other, hother, hloads, hspaced⟩ :=
    loads_replaceAt laws (parameterText_lt hscanned) ⟨_, hopened.loads⟩ hchanged
  have hbody : template.jsonBody = codePoints (spaced changed) := by
    unfold described at hdescribed
    rw [if_pos hjson] at hdescribed
    obtain ⟨bytes, hbytes, hrequest⟩ := bind_ok hdescribed
    have hsame : bytes = codePoints (spaced changed) :=
      congrArg SentRequest.body (Except.ok.inj hrequest)
    rw [hsame] at hbytes
    exact ascii_of_encoded hbytes (spaced_bytes laws changed).1
  -- The document that is written is the one that was read.
  have hsame : document = other := by
    have hread := hopened.loads
    rw [hbody, characters_codePoints, hloads] at hread
    exact (Except.ok.inj hread).symm
  subst hsame
  rw [getJsonValue_replaceAt hother] at hget
  exact ⟨⟨_, (Except.ok.inj hget).symm⟩, by rw [hbody, hspaced]⟩

theorem json_restored [StandardLibrary] (laws : FloatLaws φ) {parameter : PyText}
    {document : Json PyText φ}
    (hjson : template.contentType = ContentType.json)
    (hopen : openParameter φ interpreter defaultJsonMutationBudget template.jsonBody parameter
      = .ok (document, segments, .str text))
    (hbody : template.jsonBody = codePoints (spaced document)) :
    ∃ mutated, mutateJson φ interpreter defaultJsonMutationBudget template parameter text
        = .ok mutated ∧
      described template = .ok mutated.request ∧ baselineRequest template = .ok mutated.request ∧
      template.jsonBody ≠ [] := by
  obtain ⟨hload, -, hget⟩ := openParameter_eq_ok.mp hopen
  obtain ⟨bytes, hbytes, hsize⟩ := (opened_of_load hload).size
  have hencoded := (spaced_bytes laws document).2
  have hne : template.jsonBody ≠ [] := by
    have hscanned := loads_scanned hookless_plainHooks (opened_of_load hload).loads
    obtain ⟨c, cs, htext, -⟩ :=
      (spells_spaced laws hookless_plainHooks document hscanned).begins
    rw [hbody, htext]
    exact cons_ne_nil _ _
  rw [hbody, hencoded] at hbytes
  cases hbytes
  refine ⟨_, (mutateJson_eq_ok laws).mpr ⟨document, segments, .str text, document, hne, hopen,
    replaceAt_self hget, hsize, rfl⟩, ?_, ?_, hne⟩
  · unfold described
    rw [if_pos hjson, hbody, hencoded, ok_bind, hjson]
    rfl
  · unfold baselineRequest templateBaselineUrl templateBaselineBody
    rw [if_pos (Or.inl hjson), ok_bind, if_pos hjson, if_neg (by simpa using hne), hbody,
      hencoded, ok_bind, hjson]
    rfl

end

/-! ## Encoded parameters -/

section

variable [UnicodeTables] {parameter value : PyText}

theorem declaredFields_eq_ok {kind : String} {fields : List (PyText × PyText)} :
    declaredFields kind pairs parameter = .ok fields ↔
      parameter ∈ (dictionary pairs).map Prod.fst ∧ fields = dictionary pairs := by
  unfold declaredFields
  split
  · next h => exact ⟨fun heq => ⟨h, (Except.ok.inj heq).symm⟩, fun heq => by rw [heq.2]⟩
  · next h =>
    constructor
    · intro heq
      cases heq
    · exact fun heq => absurd heq.1 h

theorem fieldValue_declared {kind : String}
    (h : (declaredFields kind pairs parameter >>= fun fields => fieldValue fields parameter)
      = .ok value) :
    parameter ∈ (dictionary pairs).map Prod.fst ∧
      (dictionary pairs).lookup parameter = some value := by
  obtain ⟨fields, hfields, h⟩ := bind_ok h
  obtain ⟨hmem, rfl⟩ := declaredFields_eq_ok.mp hfields
  unfold fieldValue at h
  split at h
  · next found hfound =>
    cases h
    exact ⟨hmem, hfound⟩
  · cases h

omit [UnicodeTables] in
theorem nodup_of_encoded {own : List Nat} (hmem : parameter ∈ (dictionary pairs).map Prod.fst)
    (hown : own = [] ∨ 38 ∈ own)
    (h : own ++ urlencode pairs = urlencode (assign parameter value (dictionary pairs))) :
    own = [] ∧ (pairs.map Prod.fst).Nodup := by
  have hcount := congrArg (count 38) h
  rw [count_append, count_urlencode, count_urlencode, length_assign hmem] at hcount
  have hle := length_dictionary_le pairs
  have hpos : 0 < (dictionary pairs).length := by
    have hnames := length_pos_of_mem hmem
    rwa [length_map] at hnames
  obtain rfl | hampersand := hown
  · rw [count_nil] at hcount
    exact ⟨rfl, names_nodup_of_length (by omega)⟩
  · have hone := count_pos_iff.mpr hampersand
    omega

variable {template : RequestTemplate} {mutated : MutatedRequest}

/-- A mutated form has one field assigned. -/
theorem mutateForm_eq_ok :
    mutateForm template parameter value = .ok mutated ↔
      parameter ∈ (dictionary template.formParameters).map Prod.fst ∧
      (∀ field ∈ assign parameter value (dictionary template.formParameters),
        isEncodable field.1 = true ∧ isEncodable field.2 = true) ∧
      mutated = ⟨template.endpoint, template.method, ContentType.formUrlencoded,
        urlencode (assign parameter value (dictionary template.formParameters)), parameter,
        template.sourceCandidateId⟩ := by
  unfold mutateForm
  simp only [bind_ok_iff, declaredFields_eq_ok, urlencoded_eq_ok]
  constructor
  · rintro ⟨fields, ⟨hmem, rfl⟩, text, ⟨hall, rfl⟩, body, hbody, heq⟩
    rw [encoded_of_ascii (urlencode_lt hall)] at hbody
    cases hbody
    cases heq
    exact ⟨hmem, hall, rfl⟩
  · rintro ⟨hmem, hall, rfl⟩
    exact ⟨_, ⟨hmem, rfl⟩, _, ⟨hall, rfl⟩, _, encoded_of_ascii (urlencode_lt hall), rfl⟩

variable [StandardLibrary]

omit [UnicodeTables] in
theorem splitEndpoint_eq_ok {endpoint : Text} :
    splitEndpoint endpoint = .ok parts ↔ urlsplit endpoint = some parts := by
  unfold splitEndpoint
  split
  · next found hfound => simp [hfound]
  · next hnone => simp [hnone]

/-- And a mutated query. -/
theorem mutateQuery_eq_ok :
    mutateQuery template parameter value = .ok mutated ↔
      parameter ∈ (dictionary template.queryParameters).map Prod.fst ∧
      ∃ parts, urlsplit template.endpoint = some parts ∧
      (∀ field ∈ assign parameter value (dictionary template.queryParameters),
        isEncodable field.1 = true ∧ isEncodable field.2 = true) ∧
      mutated = ⟨urlWithQuery parts
          (characters (urlencode (assign parameter value (dictionary template.queryParameters)))),
        template.method, ContentType.none, [], parameter, template.sourceCandidateId⟩ := by
  unfold mutateQuery
  simp only [bind_ok_iff, declaredFields_eq_ok, urlencoded_eq_ok, splitEndpoint_eq_ok]
  constructor
  · rintro ⟨fields, ⟨hmem, rfl⟩, parts, hparts, text, ⟨hall, rfl⟩, heq⟩
    cases heq
    exact ⟨hmem, parts, hparts, hall, rfl⟩
  · rintro ⟨hmem, parts, hparts, hall, rfl⟩
    exact ⟨_, ⟨hmem, rfl⟩, parts, hparts, _, ⟨hall, rfl⟩, rfl⟩

section

omit [UnicodeTables] [StandardLibrary]

theorem urlWithQuery_inj {query other : Text}
    (h : urlWithQuery parts query = urlWithQuery parts other) : query = other :=
  (cons.inj (append_cancel_left h)).2

theorem ownQuery_ampersand (parts : SplitResult) :
    codePoints (ownQuery parts) = [] ∧ parts.query = [] ∨ 38 ∈ codePoints (ownQuery parts) := by
  unfold ownQuery
  cases hquery : parts.query with
  | nil => exact Or.inl ⟨rfl, rfl⟩
  | cons c rest =>
    refine Or.inr (mem_map.mpr ⟨'&', ?_, rfl⟩)
    simp

theorem codePoints_ascii (h : ∀ n ∈ text, n < 128) : codePoints (characters text) = text := by
  refine codePoints_characters fun n hn => ⟨Char.ofNat n, ?_⟩
  have hscalar : isScalar n = true := by
    have hlt := h n hn
    simp only [isScalar, Bool.or_eq_true, decide_eq_true_eq]
    omega
  exact (toNat_ofNat_of_isScalar hscalar).symm

end

end

/-! ## Forms and queries -/

section

variable [StandardLibrary] [UnicodeTables] {template : RequestTemplate} {parameter value : PyText}
  {mutated : MutatedRequest}

omit [StandardLibrary] [UnicodeTables] in
theorem formUrlencoded_ne_json : ContentType.formUrlencoded ≠ ContentType.json := by
  decide

omit [UnicodeTables] in
theorem described_form (hform : template.contentType = ContentType.formUrlencoded)
    {request : SentRequest} :
    described template = .ok request ↔
      (∀ field ∈ template.formParameters,
        isEncodable field.1 = true ∧ isEncodable field.2 = true) ∧
      request = ⟨template.endpoint, template.method, ContentType.formUrlencoded,
        urlencode template.formParameters⟩ := by
  have hjson : template.contentType ≠ ContentType.json := fun h =>
    formUrlencoded_ne_json (hform.symm.trans h)
  unfold described
  rw [if_neg hjson, if_pos hform]
  simp only [bind_ok_iff, urlencoded_eq_ok]
  constructor
  · rintro ⟨text, ⟨hall, rfl⟩, body, hbody, heq⟩
    rw [encoded_of_ascii (urlencode_lt hall)] at hbody
    cases hbody
    cases heq
    exact ⟨hall, by rw [hform]⟩
  · rintro ⟨hall, rfl⟩
    exact ⟨_, ⟨hall, rfl⟩, _, encoded_of_ascii (urlencode_lt hall), by rw [hform]; rfl⟩

theorem form_frame (φ : Type) [PyFloat φ] [DigitTable] (interpreter : Interpreter)
    (hform : template.contentType = ContentType.formUrlencoded)
    (hfields : PlainFields template.formParameters)
    (h : mutateForm template parameter value = .ok mutated) :
    ∃ changed, OneValueApart φ interpreter parameter value template changed ∧
      described changed = .ok mutated.request := by
  obtain ⟨hmem, hall, rfl⟩ := mutateForm_eq_ok.mp h
  rw [dictionary_of_nodup hfields.1] at hmem hall ⊢
  let changed : RequestTemplate :=
    { template with formParameters := assign parameter value template.formParameters }
  have hchanged : changed.contentType = ContentType.formUrlencoded := hform
  exact ⟨changed, .form hform (replaced_assign hmem), (described_form hchanged).mpr ⟨hall, rfl⟩⟩

theorem form_faithful (hform : template.contentType = ContentType.formUrlencoded)
    (h : mutateForm template parameter value = .ok mutated)
    (hdescribed : described template = .ok mutated.request) :
    PlainFields template.formParameters := by
  obtain ⟨hmem, -, rfl⟩ := mutateForm_eq_ok.mp h
  obtain ⟨hall, hrequest⟩ := (described_form hform).mp hdescribed
  have hbody := congrArg SentRequest.body hrequest
  have hown : ([] : List Nat) = [] ∨ 38 ∈ ([] : List Nat) := Or.inl rfl
  exact ⟨(nodup_of_encoded hmem hown hbody.symm).2, hall⟩

theorem form_restored (hform : template.contentType = ContentType.formUrlencoded)
    (hfields : PlainFields template.formParameters)
    (hmem : parameter ∈ (dictionary template.formParameters).map Prod.fst)
    (hvalue : (dictionary template.formParameters).lookup parameter = some value) :
    ∃ mutated, mutateForm template parameter value = .ok mutated ∧
      described template = .ok mutated.request ∧
      baselineRequest template = .ok mutated.request := by
  have hdictionary := dictionary_of_nodup hfields.1
  have hassign := assign_lookup hvalue
  have hurlencoded := urlencoded_eq_ok.mpr ⟨hfields.2, rfl⟩
  refine ⟨_, mutateForm_eq_ok.mpr ⟨hmem, ?_, rfl⟩, (described_form hform).mpr ⟨hfields.2, ?_⟩, ?_⟩
  · rw [hassign, hdictionary]
    exact hfields.2
  · rw [hassign, hdictionary]
    rfl
  · have hjson : template.contentType ≠ ContentType.json := fun h =>
      formUrlencoded_ne_json (hform.symm.trans h)
    unfold baselineRequest templateBaselineUrl templateBaselineBody
    rw [if_pos (Or.inr hform), ok_bind, if_neg hjson, if_pos hform, hassign, hdictionary,
      hurlencoded, ok_bind, encoded_of_ascii (urlencode_lt hfields.2), ok_bind, hform]
    rfl

omit [UnicodeTables] in
theorem described_query (hjson : template.contentType ≠ ContentType.json)
    (hform : template.contentType ≠ ContentType.formUrlencoded)
    (hne : template.queryParameters ≠ []) {request : SentRequest} :
    described template = .ok request ↔
      ∃ parts, urlsplit template.endpoint = some parts ∧
      (∀ field ∈ template.queryParameters,
        isEncodable field.1 = true ∧ isEncodable field.2 = true) ∧
      request = ⟨urlWithQuery parts
          (ownQuery parts ++ characters (urlencode template.queryParameters)),
        template.method, template.contentType, []⟩ := by
  unfold described
  rw [if_neg hjson, if_neg hform, if_neg (by simpa using hne)]
  simp only [bind_ok_iff, urlencoded_eq_ok, splitEndpoint_eq_ok]
  constructor
  · rintro ⟨parts, hparts, text, ⟨hall, rfl⟩, heq⟩
    cases heq
    exact ⟨parts, hparts, hall, rfl⟩
  · rintro ⟨parts, hparts, hall, rfl⟩
    exact ⟨parts, hparts, _, ⟨hall, rfl⟩, rfl⟩

omit [StandardLibrary] [UnicodeTables] in
theorem ne_nil_of_declared (h : parameter ∈ (dictionary pairs).map Prod.fst) : pairs ≠ [] := by
  rintro rfl
  cases h

theorem query_frame (φ : Type) [PyFloat φ] [DigitTable] (interpreter : Interpreter)
    (hjson : template.contentType ≠ ContentType.json)
    (hform : template.contentType ≠ ContentType.formUrlencoded)
    (hnone : template.contentType = ContentType.none)
    (hfields : PlainFields template.queryParameters)
    (hparts : urlsplit template.endpoint = some parts) (hquery : parts.query = [])
    (h : mutateQuery template parameter value = .ok mutated) :
    ∃ changed, OneValueApart φ interpreter parameter value template changed ∧
      described changed = .ok mutated.request := by
  obtain ⟨hmem, found, hfound, hall, rfl⟩ := mutateQuery_eq_ok.mp h
  cases hparts.symm.trans hfound
  have hne := ne_nil_of_declared hmem
  rw [dictionary_of_nodup hfields.1] at hmem hall ⊢
  let changed : RequestTemplate :=
    { template with queryParameters := assign parameter value template.queryParameters }
  have hnonempty : changed.queryParameters ≠ [] := ne_nil_of_mem mem_assign
  have hchangedJson : changed.contentType ≠ ContentType.json := hjson
  have hown : ownQuery parts = [] := by
    unfold ownQuery
    rw [hquery]
    rfl
  refine ⟨changed, .query hjson hform (replaced_assign hmem),
    (described_query hchangedJson hform hnonempty).mpr ⟨parts, hparts, hall, ?_⟩⟩
  have hchangedNone : changed.contentType = ContentType.none := hnone
  rw [hown, hchangedNone]
  rfl

theorem query_faithful (hjson : template.contentType ≠ ContentType.json)
    (hform : template.contentType ≠ ContentType.formUrlencoded)
    (h : mutateQuery template parameter value = .ok mutated)
    (hdescribed : described template = .ok mutated.request) :
    template.contentType = ContentType.none ∧ PlainFields template.queryParameters ∧
      ∃ parts, urlsplit template.endpoint = some parts ∧ parts.query = [] := by
  obtain ⟨hmem, parts, hparts, hall, rfl⟩ := mutateQuery_eq_ok.mp h
  obtain ⟨found, hfound, hfields, hrequest⟩ :=
    (described_query hjson hform (ne_nil_of_declared hmem)).mp hdescribed
  cases hparts.symm.trans hfound
  have hurl := urlWithQuery_inj (congrArg SentRequest.url hrequest)
  have hcodes := congrArg codePoints hurl
  rw [codePoints_ascii (urlencode_lt hall)] at hcodes
  have hsplit : codePoints (ownQuery parts ++ characters (urlencode template.queryParameters))
      = codePoints (ownQuery parts) ++ urlencode template.queryParameters := by
    rw [codePoints, map_append, ← codePoints, ← codePoints,
      codePoints_ascii (urlencode_lt hfields)]
  rw [hsplit] at hcodes
  obtain ⟨hempty, hnodup⟩ :=
    nodup_of_encoded hmem ((ownQuery_ampersand parts).imp_left And.left) hcodes.symm
  have hquery : parts.query = [] := by
    obtain ⟨-, hquery⟩ | hampersand := ownQuery_ampersand parts
    · exact hquery
    · rw [hempty] at hampersand
      cases hampersand
  exact ⟨(congrArg SentRequest.contentType hrequest).symm, ⟨hnodup, hfields⟩, parts, hparts, hquery⟩

theorem query_restored (hjson : template.contentType ≠ ContentType.json)
    (hform : template.contentType ≠ ContentType.formUrlencoded)
    (hnone : template.contentType = ContentType.none)
    (hfields : PlainFields template.queryParameters)
    (hparts : urlsplit template.endpoint = some parts) (hquery : parts.query = [])
    (hmem : parameter ∈ (dictionary template.queryParameters).map Prod.fst)
    (hvalue : (dictionary template.queryParameters).lookup parameter = some value) :
    ∃ mutated, mutateQuery template parameter value = .ok mutated ∧
      described template = .ok mutated.request ∧
      baselineRequest template = .ok mutated.request := by
  have hdictionary := dictionary_of_nodup hfields.1
  have hassign := assign_lookup hvalue
  have hurlencoded := urlencoded_eq_ok.mpr ⟨hfields.2, rfl⟩
  have hne := ne_nil_of_declared hmem
  have hown : ownQuery parts = [] := by
    unfold ownQuery
    rw [hquery]
    rfl
  refine ⟨_, mutateQuery_eq_ok.mpr ⟨hmem, parts, hparts, ?_, rfl⟩,
    (described_query hjson hform hne).mpr ⟨parts, hparts, hfields.2, ?_⟩, ?_⟩
  · rw [hassign, hdictionary]
    exact hfields.2
  · rw [hassign, hdictionary, hown, hnone]
    rfl
  · unfold baselineRequest templateBaselineUrl templateBaselineBody
    rw [if_neg (by rw [not_or]; exact ⟨hjson, hform⟩), if_neg (by simpa using hne),
      splitEndpoint_eq_ok.mpr hparts, ok_bind, hassign, hdictionary, hurlencoded,
      if_neg hjson, if_neg hform, hnone]
    rfl

end

/-! ## The frame law -/

section

variable {φ : Type} [PyFloat φ] [NamedFloats φ] [UnicodeTables] [DigitTable] [StandardLibrary]
  {interpreter : Interpreter} {template : RequestTemplate} {parameter : PyText}

theorem keepsFrame_json (laws : FloatLaws φ)
    (hjson : template.contentType = ContentType.json) :
    KeepsFrame φ interpreter template parameter ↔
      ∃ (document : Json PyText φ) (segments : List JsonSegment) (text : PyText),
        openParameter φ interpreter defaultJsonMutationBudget template.jsonBody parameter
          = .ok (document, segments, .str text) ∧
        template.jsonBody = codePoints (spaced document) := by
  have hmutate : ∀ replacement,
      mutate φ interpreter defaultJsonMutationBudget template parameter replacement
        = mutateJson φ interpreter defaultJsonMutationBudget template parameter replacement :=
    fun _ => if_pos hjson
  constructor
  · rintro ⟨-, value, mutated, hvalue, hmutated, hdescribed, -⟩
    rw [hmutate] at hmutated
    unfold getTemplateParameterValue at hvalue
    rw [if_pos hjson] at hvalue
    split at hvalue
    · cases hvalue
    · obtain ⟨⟨document, segments, old⟩, hopen, heq⟩ := bind_ok hvalue
      cases heq
      obtain ⟨⟨text, rfl⟩, hbody⟩ := json_faithful laws hjson hopen hmutated hdescribed
      exact ⟨document, segments, text, hopen, hbody⟩
  · rintro ⟨document, segments, text, hopen, hbody⟩
    obtain ⟨mutated, hmutated, hdescribed, hbaseline, hne⟩ := json_restored laws hjson hopen hbody
    refine ⟨fun _ _ htext h => json_frame laws hjson htext (by rwa [hmutate] at h),
      text, mutated, ?_, by rwa [hmutate], hdescribed, hbaseline⟩
    unfold getTemplateParameterValue
    rw [if_pos hjson, if_neg (by simpa using hne), hopen]
    rfl

theorem keepsFrame_form (hform : template.contentType = ContentType.formUrlencoded)
    (h : Declares φ interpreter template parameter) :
    KeepsFrame φ interpreter template parameter ↔ PlainFields template.formParameters := by
  have hjson : template.contentType ≠ ContentType.json := fun heq =>
    formUrlencoded_ne_json (hform.symm.trans heq)
  have hmutate : ∀ replacement,
      mutate φ interpreter defaultJsonMutationBudget template parameter replacement
        = mutateForm template parameter replacement := fun _ => by
    rw [mutate, if_neg hjson, if_pos hform]
  constructor
  · rintro ⟨-, value, mutated, -, hmutated, hdescribed, -⟩
    rw [hmutate] at hmutated
    exact form_faithful hform hmutated hdescribed
  · intro hfields
    obtain ⟨value, hvalue⟩ := h
    have hread := hvalue
    rw [getTemplateParameterValue, if_neg hjson, if_pos hform] at hread
    obtain ⟨hmem, hlookup⟩ := fieldValue_declared hread
    obtain ⟨mutated, hmutated, hdescribed, hbaseline⟩ := form_restored hform hfields hmem hlookup
    exact ⟨fun _ _ _ h => form_frame φ interpreter hform hfields (by rwa [hmutate] at h),
      value, mutated, hvalue, by rwa [hmutate], hdescribed, hbaseline⟩

theorem keepsFrame_query (hjson : template.contentType ≠ ContentType.json)
    (hform : template.contentType ≠ ContentType.formUrlencoded)
    (h : Declares φ interpreter template parameter) :
    KeepsFrame φ interpreter template parameter ↔
      template.contentType = ContentType.none ∧ PlainFields template.queryParameters ∧
        ∃ parts, urlsplit template.endpoint = some parts ∧ parts.query = [] := by
  have hmutate : ∀ replacement,
      mutate φ interpreter defaultJsonMutationBudget template parameter replacement
        = mutateQuery template parameter replacement := fun _ => by
    rw [mutate, if_neg hjson, if_neg hform]
  constructor
  · rintro ⟨-, value, mutated, -, hmutated, hdescribed, -⟩
    rw [hmutate] at hmutated
    exact query_faithful hjson hform hmutated hdescribed
  · rintro ⟨hnone, hfields, parts, hparts, hquery⟩
    obtain ⟨value, hvalue⟩ := h
    have hread := hvalue
    rw [getTemplateParameterValue, if_neg hjson, if_neg hform] at hread
    obtain ⟨hmem, hlookup⟩ := fieldValue_declared hread
    obtain ⟨mutated, hmutated, hdescribed, hbaseline⟩ :=
      query_restored hjson hform hnone hfields hparts hquery hmem hlookup
    exact ⟨fun _ _ _ h => query_frame φ interpreter hjson hform hnone hfields hparts hquery
        (by rwa [hmutate] at h),
      value, mutated, hvalue, by rwa [hmutate], hdescribed, hbaseline⟩

/--
**When a mutation changes the value of one parameter only, and gives the request back.**

A dictionary has each name once, the query of the endpoint is not kept, and every value that is set
in a JSON body is a text.
-/
theorem mutation_frame_iff (laws : FloatLaws φ)
    (h : Declares φ interpreter template parameter) :
    KeepsFrame φ interpreter template parameter ↔ Faithful φ interpreter template parameter := by
  by_cases hjson : template.contentType = ContentType.json
  · have hform : template.contentType ≠ ContentType.formUrlencoded := fun hform =>
      formUrlencoded_ne_json (hform.symm.trans hjson)
    rw [keepsFrame_json laws hjson]
    exact ⟨fun hbody => ⟨fun _ => hbody, fun heq => absurd heq hform, fun hne => absurd hjson hne⟩,
      fun hfaithful => hfaithful.json hjson⟩
  · by_cases hform : template.contentType = ContentType.formUrlencoded
    · rw [keepsFrame_form hform h]
      exact ⟨fun hfields => ⟨fun heq => absurd heq hjson, fun _ => hfields,
          fun _ hne => absurd hform hne⟩,
        fun hfaithful => hfaithful.form hform⟩
    · rw [keepsFrame_query hjson hform h]
      exact ⟨fun hquery => ⟨fun heq => absurd heq hjson, fun heq => absurd heq hform,
          fun _ _ => hquery⟩,
        fun hfaithful => hfaithful.query hjson hform⟩

end

/-! ## Two queries -/

@[reducible] def unnamedFloats : @NamedFloats Unit oneFloat :=
  letI := oneFloat
  { constant _ := none
    ofConstant_constant _ _ h := by cases h
    isFinite_of_unnamed _ _ := rfl }

def cpython : Interpreter := ⟨1000, 4300, Pagination.cpython_room⟩

def searchTemplate (parameters : List (PyText × PyText)) : RequestTemplate where
  endpoint := "http://example.com/search".toList
  method := ofString "GET"
  contentType := ContentType.none
  parameter := ofString "q"
  queryParameters := parameters
  formParameters := []
  jsonBody := []
  sourceCandidateId := []

theorem search_keeps_frame :
    letI := oneFloat; letI := unnamedFloats; letI := asciiTables; letI := superscriptDigits
    letI := asciiLibrary
    KeepsFrame Unit cpython
      (searchTemplate [(ofString "q", ofString "hello"), (ofString "page", ofString "1")])
      (ofString "q") := by
  let _ := oneFloat
  let _ := unnamedFloats
  let _ := asciiTables
  let _ := superscriptDigits
  let _ := asciiLibrary
  refine (mutation_frame_iff oneFloat_laws ⟨ofString "hello", rfl⟩).mpr ⟨?_, ?_, ?_⟩
  · exact fun h => absurd h (by decide)
  · exact fun h => absurd h (by decide)
  · refine fun _ _ => ⟨rfl, ⟨by decide, by decide⟩, ?_⟩
    exact ⟨⟨"http".toList, "example.com".toList, "/search".toList, [], []⟩, by decide, rfl⟩

/-- A parameter that is not mutated loses its first value. -/
theorem repeated_parameter_lost :
    letI := oneFloat; letI := unnamedFloats; letI := asciiTables; letI := superscriptDigits
    letI := asciiLibrary
    letI template := searchTemplate [(ofString "q", ofString "hello"),
      (ofString "page", ofString "1"), (ofString "page", ofString "2")]
    Declares Unit cpython template (ofString "q") ∧
      (mutate Unit cpython defaultJsonMutationBudget template (ofString "q")
        (ofString "x")).map MutatedRequest.url
          = .ok "http://example.com/search?q=x&page=2".toList ∧
      ¬ KeepsFrame Unit cpython template (ofString "q") := by
  let _ := oneFloat
  let _ := unnamedFloats
  let _ := asciiTables
  let _ := superscriptDigits
  let _ := asciiLibrary
  refine ⟨⟨ofString "hello", rfl⟩, by decide, fun h => ?_⟩
  have hfields := (keepsFrame_query (by decide) (by decide) ⟨ofString "hello", rfl⟩).mp h
  exact absurd hfields.2.1.1 (by decide)

end WebGuard.RequestTemplates
