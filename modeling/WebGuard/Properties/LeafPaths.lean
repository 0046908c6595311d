import WebGuard.Detection.CandidateProjection
import WebGuard.Detection.FoundCandidates
import WebGuard.Properties.MutationFrame
import WebGuard.Properties.FindingIdentity
import WebGuard.Properties.ParameterRoundTrip
import WebGuard.Properties.Targets

/-!
# Paths of JSON bodies

`_enumerate_json_leaf_paths` of `attack_surface.py` is a copy of `enumerate_json_parameter_paths`. The
paths of an example become the parameters of candidates, and `mutate` reads them again: with a grammar
of its own, in the document that the candidate carries, and within limits of its own.
-/

namespace WebGuard.AttackSurface

open PyJson UrlParse Atomic List
open FindingContract (LowerTable asciiLower)
open Pagination (Interpreter plainHooks)
open RequestTemplates
open ScanPermits (oneFloat oneFloat_laws asciiTables)

variable {φ : Type}

/-! ## The copy of the walk -/

section

variable (maximumDepth maximumParameters maximumArrayIndex : Nat)

mutual

/-- `walk` of `_enumerate_json_leaf_paths`. -/
def walkLeafPaths (paths : List PyText) (front : PyText) (depth : Nat) (node : Json PyText φ) :
    List PyText :=
  if maximumParameters ≤ paths.length || maximumDepth < depth then paths
  else
    match node with
    | .obj members => walkLeafMembers paths front depth members
    | .arr items => walkLeafItems paths front depth 0 items
    | .null => paths
    | .bool _ | .int _ | .float _ | .str _ => if front.isEmpty then paths else paths ++ [front]

def walkLeafMembers (paths : List PyText) (front : PyText) (depth : Nat)
    (members : List (PyText × Json PyText φ)) : List PyText :=
  match members with
  | [] => paths
  | (key, value) :: rest =>
    if maximumParameters ≤ paths.length then paths
    else
      walkLeafMembers
        (walkLeafPaths paths (if front.isEmpty then key else front ++ 46 :: key) (depth + 1) value)
        front depth rest

def walkLeafItems (paths : List PyText) (front : PyText) (depth index : Nat)
    (items : List (Json PyText φ)) : List PyText :=
  match items with
  | [] => paths
  | value :: rest =>
    if maximumArrayIndex ≤ index || maximumParameters ≤ paths.length then paths
    else
      walkLeafItems
        (walkLeafPaths paths (front ++ 91 :: (indexText index ++ [93])) (depth + 1) value)
        front depth (index + 1) rest

end

def enumerateJsonLeafPaths (document : Json PyText φ) : List PyText :=
  walkLeafPaths maximumDepth maximumParameters maximumArrayIndex [] [] 0 document

end

section

variable (budget : JsonMutationBudget)

mutual

theorem walkLeafPaths_eq (node : Json PyText φ) (found : List (JsonLeaf φ)) (front : PyText)
    (address : List JsonSegment) (depth : Nat) :
    walkLeafPaths budget.maximumDepth budget.maximumParameterPaths budget.maximumArrayIndex
        (found.map (·.path)) front depth node =
      (walk budget found front address depth node).map (·.path) := by
  unfold walkLeafPaths walk isFull
  rw [length_map]
  split
  · rfl
  · match node with
    | .obj members => exact walkLeafMembers_eq members found front address depth
    | .arr items => exact walkLeafItems_eq items found front address depth 0
    | .null => rfl
    | .bool _ | .int _ | .float _ | .str _ =>
      dsimp only
      split
      · rfl
      · rw [map_append, map_singleton]

theorem walkLeafMembers_eq (members : List (PyText × Json PyText φ)) (found : List (JsonLeaf φ))
    (front : PyText) (address : List JsonSegment) (depth : Nat) :
    walkLeafMembers budget.maximumDepth budget.maximumParameterPaths budget.maximumArrayIndex
        (found.map (·.path)) front depth members =
      (walkMembers budget found front address depth members).map (·.path) := by
  match members with
  | [] => rfl
  | (key, value) :: rest =>
    unfold walkLeafMembers walkMembers isFull
    rw [length_map]
    simp only [decide_eq_true_eq]
    split
    · rfl
    · rw [walkLeafPaths_eq value found _ (address ++ [.name key]), walkLeafMembers_eq rest]
      rfl

theorem walkLeafItems_eq (items : List (Json PyText φ)) (found : List (JsonLeaf φ))
    (front : PyText) (address : List JsonSegment) (depth index : Nat) :
    walkLeafItems budget.maximumDepth budget.maximumParameterPaths budget.maximumArrayIndex
        (found.map (·.path)) front depth index items =
      (walkItems budget found front address depth index items).map (·.path) := by
  match items with
  | [] => rfl
  | value :: rest =>
    unfold walkLeafItems walkItems isFull
    rw [length_map]
    split
    · rfl
    · rw [walkLeafPaths_eq value found _ (address ++ [.index index]), walkLeafItems_eq rest]
      rfl

end

theorem enumerateJsonLeafPaths_eq (document : Json PyText φ) :
    enumerateJsonLeafPaths budget.maximumDepth budget.maximumParameterPaths
        budget.maximumArrayIndex document =
      enumerateJsonParameterPaths budget document :=
  walkLeafPaths_eq budget document [] [] [] 0

end

/-! ## Levels -/

mutual

/-- How many levels a value has below it. -/
def levels : Json PyText φ → Nat
  | .obj members => memberLevels members
  | .arr items => itemLevels items
  | .null | .bool _ | .int _ | .float _ | .str _ => 0

def memberLevels : List (PyText × Json PyText φ) → Nat
  | [] => 0
  | (_, value) :: rest => max (levels value + 1) (memberLevels rest)

def itemLevels : List (Json PyText φ) → Nat
  | [] => 0
  | value :: rest => max (levels value + 1) (itemLevels rest)

end

mutual

theorem validateJsonDepth_eq_ok (maximumDepth : Nat) (node : Json PyText φ) (depth : Nat) :
    validateJsonDepth maximumDepth depth node = .ok () ↔ depth + levels node ≤ maximumDepth := by
  unfold validateJsonDepth levels
  split
  next hdeep =>
    refine ⟨fun h => (nomatch h), fun h => absurd hdeep ?_⟩
    omega
  next hdepth =>
    have hdepth := Nat.le_of_not_lt hdepth
    match node with
    | .obj members => exact validateMemberDepths_eq_ok maximumDepth members depth hdepth
    | .arr items => exact validateItemDepths_eq_ok maximumDepth items depth hdepth
    | .null | .bool _ | .int _ | .float _ | .str _ => exact ⟨fun _ => hdepth, fun _ => rfl⟩

theorem validateMemberDepths_eq_ok (maximumDepth : Nat) (members : List (PyText × Json PyText φ))
    (depth : Nat) (h : depth ≤ maximumDepth) :
    validateMemberDepths maximumDepth (depth + 1) members = .ok () ↔
      depth + memberLevels members ≤ maximumDepth := by
  match members with
  | [] => exact ⟨fun _ => h, fun _ => rfl⟩
  | (_, value) :: rest =>
    unfold validateMemberDepths memberLevels
    rw [bind_ok_iff]
    simp only [exists_const, validateJsonDepth_eq_ok maximumDepth value,
      validateMemberDepths_eq_ok maximumDepth rest depth h]
    omega

theorem validateItemDepths_eq_ok (maximumDepth : Nat) (items : List (Json PyText φ))
    (depth : Nat) (h : depth ≤ maximumDepth) :
    validateItemDepths maximumDepth (depth + 1) items = .ok () ↔
      depth + itemLevels items ≤ maximumDepth := by
  match items with
  | [] => exact ⟨fun _ => h, fun _ => rfl⟩
  | value :: rest =>
    unfold validateItemDepths itemLevels
    rw [bind_ok_iff]
    simp only [exists_const, validateJsonDepth_eq_ok maximumDepth value,
      validateItemDepths_eq_ok maximumDepth rest depth h]
    omega

end

/-! ## Examples -/

section

variable {maximumDigits : Nat}

variable {depth : Nat} {node : Json PyText φ}

theorem scanned_mono {deeper : Nat} (hle : depth ≤ deeper) (h : Scanned maximumDigits depth node) :
    Scanned maximumDigits deeper node := by
  induction depth generalizing node deeper with
  | zero =>
    cases node with
    | obj members => exact absurd rfl h.1
    | arr items => exact absurd rfl h.1
    | null | bool b | int n | float x | str s => exact h
  | succ depth ih =>
    have hbelow : depth + 1 - 1 ≤ deeper - 1 := by omega
    cases node with
    | obj members =>
      refine ⟨by omega, h.2.1, scannedMembers_iff.mpr fun member hmember => ?_⟩
      have hscanned := scannedMembers_iff.mp h.2.2 member hmember
      exact ⟨hscanned.1, ih hbelow hscanned.2⟩
    | arr items =>
      refine ⟨by omega, scannedItems_iff.mpr fun item hitem => ?_⟩
      exact ih hbelow (scannedItems_iff.mp h.2 item hitem)
    | null | bool b | int n | float x | str s => exact h

theorem scanned_place [UnicodeTables] {value : Json PyText φ} {place : List JsonSegment}
    (h : Scanned maximumDigits depth node) (hget : getJsonValue node place = .ok value) :
    Scanned maximumDigits depth value := by
  induction place generalizing node with
  | nil =>
    cases hget
    exact h
  | cons segment rest ih =>
    obtain ⟨child, hchild, hget⟩ := getJsonValue_cons_eq_ok.mp hget
    exact ih (scanned_mono (Nat.sub_le depth 1) (scanned_child h hchild).1) hget

theorem scanned_memberObject {key : String} {inner : List (PyText × Json PyText φ)}
    (h : Scanned maximumDigits depth node) (hinner : memberObject key node = some inner) :
    Scanned maximumDigits (depth - 1) (.obj inner) := by
  unfold memberObject at hinner
  split at hinner
  next members =>
    split at hinner
    next found hfound =>
      cases hinner
      exact (scannedMembers_iff.mp h.2.2 _ (mem_of_lookup hfound)).2
    · cases hinner
  · cases hinner

theorem scanned_synthesizeExample (hdigits : 1 ≤ maximumDigits) (fuel : Nat)
    {schema : Json PyText φ} (h : Scanned maximumDigits depth schema) :
    Scanned maximumDigits depth (synthesizeExample fuel schema) := by
  induction fuel generalizing schema depth with
  | zero => trivial
  | succ fuel ih =>
    cases schema with
    | null | bool b | int n | float x | str s | arr items => trivial
    | obj members =>
      have hdepth := h.1
      unfold synthesizeExample
      split
      next value hvalue =>
        exact scanned_mono (Nat.sub_le depth 1)
          (scannedMembers_iff.mp h.2.2 _ (mem_of_lookup hvalue)).2
      next =>
      split
      next properties hproperties =>
        have hscanned := scanned_memberObject h hproperties
        refine ⟨hdepth, ?_, scannedMembers_iff.mpr fun member hmember => ?_⟩
        · rw [map_map]
          exact ((take_sublist 20 properties).map Prod.fst).nodup hscanned.2.1
        · obtain ⟨property, hproperty, rfl⟩ := mem_map.mp hmember
          have hentry := scannedMembers_iff.mp hscanned.2.2 property
            ((take_sublist 20 properties).subset hproperty)
          exact ⟨hentry.1, scanned_mono (Nat.sub_le (depth - 1) 1) (ih hentry.2)⟩
      next =>
      split_ifs
      · exact ⟨hdepth, nodup_nil, trivial⟩
      · exact readsBack_of_isEncodable (isEncodable_ofString "sample")
      · exact hdigits
      · trivial
      · exact ⟨hdepth, trivial⟩
      · exact readsBack_of_isEncodable rfl

theorem scanned_bodyExample (hdigits : 1 ≤ maximumDigits) {operation : Json PyText φ}
    (h : Scanned maximumDigits depth operation) (hne : bodyExample operation ≠ []) :
    Scanned maximumDigits depth (.obj (bodyExample operation)) := by
  unfold bodyExample at hne ⊢
  split at hne
  · exact absurd rfl hne
  next requestBody hrequest =>
  split at hne
  · exact absurd rfl hne
  next content hcontent =>
  split at hne
  · exact absurd rfl hne
  next jsonContent hjson =>
  have hscanned := scanned_memberObject (scanned_memberObject (scanned_memberObject h hrequest)
    hcontent) hjson
  split at hne
  next given hgiven =>
    exact scanned_mono (by omega) (scanned_memberObject hscanned hgiven)
  next hnone =>
  split at hne
  · exact absurd rfl hne
  next schema hschema =>
  split at hne
  next members hmembers =>
    have hexample := scanned_synthesizeExample hdigits 5 (scanned_memberObject hscanned hschema)
    rw [hmembers] at hexample
    exact scanned_mono (by omega) hexample
  · exact absurd rfl hne

end

/-! ## Acceptance -/

section

variable [PyFloat φ] [NamedFloats φ] [UnicodeTables] [DigitTable] {interpreter : Interpreter}

/-- The condition on a document, a path and a text that is to be set: the document is small and flat
enough, the path reads as a place at which it has a value, and with the text at this place it is still
small enough. -/
def Accepts (interpreter : Interpreter) (budget : JsonMutationBudget) (document : Json PyText φ)
    (path replacement : PyText) : Prop :=
  (spaced document).length ≤ budget.maximumDocumentBytes ∧
  levels document ≤ budget.maximumDepth ∧
  ∃ place old changed, IsLoosePath interpreter.maximumDigits place path ∧
    getJsonValue document place = .ok old ∧
    replaceAt (.str replacement) place document = some changed ∧
    (spaced changed).length ≤ budget.maximumDocumentBytes

variable {document : Json PyText φ}

/-- For a leaf whose keys are names, not empty and without dots and brackets, only the sizes count. -/
theorem accepts_iff_of_spelled {walked budget : JsonMutationBudget} (hdistinct : Distinct document)
    {leaf : JsonLeaf φ} (hmem : leaf ∈ documentLeaves walked document)
    (hkeys : ∀ segment ∈ leaf.address, Spelled interpreter.maximumDigits segment)
    (replacement : PyText) :
    Accepts interpreter budget document leaf.path replacement ↔
      (spaced document).length ≤ budget.maximumDocumentBytes ∧
      levels document ≤ budget.maximumDepth ∧
      ∃ changed, replaceAt (.str replacement) leaf.address document = some changed ∧
        (spaced changed).length ≤ budget.maximumDocumentBytes := by
  obtain ⟨hpath, hne, hfound⟩ := documentLeaves_found walked hdistinct hmem
  have hread : IsLoosePath interpreter.maximumDigits leaf.address leaf.path := by
    rw [hpath] at hne ⊢
    exact path_of_spelled (fun hnil => hne (by rw [hnil]; rfl)) hkeys
  refine and_congr_right fun _ => and_congr_right fun _ => ⟨?_, ?_⟩
  · rintro ⟨place, old, changed, hplace, -, hchanged, hsmall⟩
    have hsame := (parse_eq_ok.mpr hplace).symm.trans (parse_eq_ok.mpr hread)
    cases hsame
    exact ⟨changed, hchanged, hsmall⟩
  · rintro ⟨changed, hchanged, hsmall⟩
    exact ⟨leaf.address, leaf.value, changed, hread, hfound.value, hchanged, hsmall⟩

omit [UnicodeTables] [DigitTable] in
theorem loadBoundedJsonDocument_spaced (laws : FloatLaws φ) {budget : JsonMutationBudget}
    {document other : Json PyText φ}
    (h : Scanned interpreter.maximumDigits interpreter.recursionLimit document) :
    loadBoundedJsonDocument interpreter budget (codePoints (spaced document)) = .ok other ↔
      other = document ∧ (spaced document).length ≤ budget.maximumDocumentBytes ∧
        levels document ≤ budget.maximumDepth := by
  have hlength : (codePoints (spaced document)).length = (spaced document).length := length_map _
  have hload : loads (plainHooks interpreter) (characters (codePoints (spaced document))) =
      .ok document := by
    rw [characters_codePoints]
    exact loads_spaced laws hookless_plainHooks h
  unfold loadBoundedJsonDocument
  rw [(spaced_bytes laws document).2, ok_bind, hlength, hload]
  dsimp only
  split
  next hlarge =>
    refine ⟨fun h => (nomatch h), fun h => absurd hlarge ?_⟩
    omega
  next hsmall =>
    have hlevels := validateJsonDepth_eq_ok budget.maximumDepth document 0
    rw [Nat.zero_add] at hlevels
    rw [bind_ok_iff]
    constructor
    · rintro ⟨⟨⟩, hflat, hsame⟩
      exact ⟨(Except.ok.inj hsame).symm, Nat.le_of_not_lt hsmall, hlevels.mp hflat⟩
    · rintro ⟨rfl, -, hflat⟩
      exact ⟨(), hlevels.mpr hflat, rfl⟩

variable {template : RequestTemplate}

theorem mutateJson_accepts_iff (laws : FloatLaws φ) {budget : JsonMutationBudget}
    (hscanned : Scanned interpreter.maximumDigits interpreter.recursionLimit document)
    (hbody : template.jsonBody = codePoints (spaced document)) (parameter replacement : PyText) :
    (∃ mutated, mutateJson φ interpreter budget template parameter replacement = .ok mutated) ↔
      Accepts interpreter budget document parameter replacement := by
  have hload := @loadBoundedJsonDocument_spaced φ _ _ interpreter laws budget document
  have hne : codePoints (spaced document) ≠ [] := by
    obtain ⟨c, cs, hvalue, -⟩ := 
      (spells_spaced laws hookless_plainHooks document hscanned).begins
    rw [hvalue]
    exact cons_ne_nil _ _
  have hlength : ∀ value : Json PyText φ, (codePoints (spaced value)).length = (spaced value).length :=
    fun value => length_map _
  unfold Accepts
  simp only [mutateJson_eq_ok laws, openParameter_eq_ok, hbody, hload hscanned, hlength,
    parse_eq_ok]
  constructor
  · rintro ⟨mutated, _, place, old, changed, -, ⟨⟨rfl, hsize, hlevels⟩, hpath, hold⟩, hchanged,
      hsmall, -⟩
    exact ⟨hsize, hlevels, place, old, changed, hpath, hold, hchanged, hsmall⟩
  · rintro ⟨hsize, hlevels, place, old, changed, hpath, hold, hchanged, hsmall⟩
    exact ⟨_, document, place, old, changed, hne, ⟨⟨rfl, hsize, hlevels⟩, hpath, hold⟩, hchanged,
      hsmall, rfl⟩

variable [StandardLibrary] [LowerTable]

omit [DigitTable] [LowerTable] in
theorem jsonTemplate_of_build {candidate : AttackSurfaceCandidate}
    (hlocation : candidate.inputLocation = .jsonBody)
    (h : candidate.buildRequestTemplate = .ok template) :
    template.contentType = ContentType.json ∧ template.jsonBody = candidate.jsonBodyTemplate := by
  unfold AttackSurfaceCandidate.buildRequestTemplate AttackSurfaceCandidate.isQuery at h
  rw [hlocation] at h
  dsimp only at h
  rw [if_neg (by simp)] at h
  unfold RequestTemplate.postInit refuseTemplate at h
  split_ifs at h
  cases h
  exact ⟨rfl, rfl⟩

end

/-! ## Two examples -/

def keyedOperation (key : String) : Text :=
  ("\x7b\"requestBody\": \x7b\"content\": \x7b\"application/json\": \x7b\"example\": \x7b\""
    ++ key ++ "\": 1\x7d\x7d\x7d\x7d\x7d").toList

def MutationOf (key : String) (accepted : Bool) : Prop :=
  letI := oneFloat; letI := unnamedFloats; letI := asciiTables; letI := superscriptDigits
  letI := transitionLibrary; letI := asciiLower
  ∃ (root : Json PyText Unit) (candidate : AttackSurfaceCandidate) (template : RequestTemplate),
    loads (plainHooks cpython) (keyedOperation key) = .ok root ∧
    candidate.toCandidateFields ∈
      jsonBodyCandidates {} [] (ofString "https://h.com/orders") (ofString "POST") root ∧
    candidate.buildRequestTemplate = .ok template ∧
    candidate.parameter = ofString key ∧
    (mutate Unit cpython defaultJsonMutationBudget template candidate.parameter
      (ofString "x")).toBool = accepted

theorem mutationOf_of_run {key : String} {accepted : Bool}
    (h : letI := oneFloat; letI := unnamedFloats; letI := asciiTables; letI := superscriptDigits
      letI := transitionLibrary; letI := asciiLower
      (do
        let root ← (loads (φ := Unit) (plainHooks cpython) (keyedOperation key)).toOption
        let fields ← (jsonBodyCandidates {} [] (ofString "https://h.com/orders") (ofString "POST")
          root).head?
        let candidate ← (fields.postInit id).toOption
        let template ← candidate.buildRequestTemplate.toOption
        return (candidate.parameter, (mutate Unit cpython defaultJsonMutationBudget template
          candidate.parameter (ofString "x")).toBool)) = some (ofString key, accepted)) :
    MutationOf key accepted := by
  let _ := oneFloat
  let _ := unnamedFloats
  let _ := asciiTables
  let _ := superscriptDigits
  let _ := transitionLibrary
  let _ := asciiLower
  have htoOption : ∀ {ε α : Type} {x : Except ε α} {a : α}, x.toOption = some a → x = .ok a := by
    intro ε α x a hx
    cases x with
    | error e => cases hx
    | ok b => rw [Option.some.inj hx]
  obtain ⟨root, hroot, h⟩ := Option.bind_eq_some_iff.mp h
  obtain ⟨fields, hfields, h⟩ := Option.bind_eq_some_iff.mp h
  obtain ⟨candidate, hcandidate, h⟩ := Option.bind_eq_some_iff.mp h
  obtain ⟨template, htemplate, h⟩ := Option.bind_eq_some_iff.mp h
  obtain ⟨hparameter, haccepted⟩ := Prod.mk.inj (Option.some.inj h)
  refine ⟨root, candidate, template, htoOption hroot, ?_, htoOption htemplate, hparameter, haccepted⟩
  rw [(postInit_eq_ok (htoOption hcandidate)).1]
  exact mem_of_head? hfields

end WebGuard.AttackSurface
