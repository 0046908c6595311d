import WebGuard.Detection.JsonPaths
import WebGuard.Lib.JsonEquality

/-!
# Parameters of a JSON document

`enumerate_json_parameter_paths` and `_get_json_value` of `request_template.py`. A document is what
`json.loads` makes of a text: an object has each of its keys once.

The walk records beside each path the place of its leaf and the leaf; the function returns the paths.
-/

namespace WebGuard.RequestTemplates

open PyJson Function

structure JsonMutationBudget where
  maximumDepth : Nat
  maximumParameterPaths : Nat
  maximumStringLength : Nat
  maximumArrayIndex : Nat
  maximumDocumentBytes : Nat
  deriving DecidableEq

def defaultJsonMutationBudget : JsonMutationBudget where
  maximumDepth := 6
  maximumParameterPaths := 25
  maximumStringLength := 4096
  maximumArrayIndex := 20
  maximumDocumentBytes := 65536

/-- The decimal digits of an index. -/
def indexText (n : Nat) : PyText := (Nat.toDigits 10 n).map Char.toNat

variable {φ : Type}

/-! ## Looking up -/

def getJsonValue [UnicodeTables] (node : Json PyText φ) :
    List JsonSegment → Except TemplateFailure (Json PyText φ)
  | [] => .ok node
  | .name text :: rest =>
    let missing := .error (.requestTemplate "json_path_not_found"
      ("JSON path segment " ++ UnicodeTables.quoted text ++ " was not found in the document."))
    match node with
    | .obj members =>
      match lookup text members with
      | some value => getJsonValue value rest
      | none => missing
    | _ => missing
  | .index n :: rest =>
    let missing := .error (.requestTemplate "json_path_not_found"
      ("JSON array index " ++ toString n ++ " is out of range."))
    match node with
    | .arr items =>
      match items[n]? with
      | some value => getJsonValue value rest
      | none => missing
    | _ => missing

/-! ## The walk -/

/-- A path that the walk has recorded. -/
structure JsonLeaf (φ : Type) where
  path : PyText
  address : List JsonSegment
  value : Json PyText φ

/-- `f"{prefix}.{key}" if prefix else key`. -/
def memberPath (front key : PyText) : PyText := if front.isEmpty then key else front ++ 46 :: key

/-- `f"{prefix}[{index}]"`. -/
def itemPath (front : PyText) (index : Nat) : PyText := front ++ 91 :: (indexText index ++ [93])

section

variable (budget : JsonMutationBudget)

/-- No further path is recorded. -/
def isFull (found : List (JsonLeaf φ)) : Bool := budget.maximumParameterPaths ≤ found.length

mutual

def walk (found : List (JsonLeaf φ)) (front : PyText) (address : List JsonSegment) (depth : Nat)
    (node : Json PyText φ) : List (JsonLeaf φ) :=
  if isFull budget found || budget.maximumDepth < depth then found
  else
    match node with
    | .obj members => walkMembers found front address depth members
    | .arr items => walkItems found front address depth 0 items
    | .null => found
    | .bool b => if front.isEmpty then found else found ++ [⟨front, address, .bool b⟩]
    | .int n => if front.isEmpty then found else found ++ [⟨front, address, .int n⟩]
    | .float x => if front.isEmpty then found else found ++ [⟨front, address, .float x⟩]
    | .str s => if front.isEmpty then found else found ++ [⟨front, address, .str s⟩]

/-- The loop over the members of an object. -/
def walkMembers (found : List (JsonLeaf φ)) (front : PyText) (address : List JsonSegment)
    (depth : Nat) (members : List (PyText × Json PyText φ)) : List (JsonLeaf φ) :=
  match members with
  | [] => found
  | (key, value) :: rest =>
    if isFull budget found then found
    else walkMembers (walk found (memberPath front key) (address ++ [.name key]) (depth + 1) value)
      front address depth rest

/-- The loop over the items of an array, from an index on. -/
def walkItems (found : List (JsonLeaf φ)) (front : PyText) (address : List JsonSegment)
    (depth : Nat) (index : Nat) (items : List (Json PyText φ)) : List (JsonLeaf φ) :=
  match items with
  | [] => found
  | value :: rest =>
    if budget.maximumArrayIndex ≤ index || isFull budget found then found
    else walkItems (walk found (itemPath front index) (address ++ [.index index]) (depth + 1) value)
      front address depth (index + 1) rest

end

/-- The leaves that have a path. -/
def jsonLeaves (document : Json PyText φ) : List (JsonLeaf φ) := walk budget [] [] [] 0 document

def enumerateJsonParameterPaths (document : Json PyText φ) : List PyText :=
  (jsonLeaves budget document).map JsonLeaf.path

end

/-! ## Leaves of a document -/

/-- The path of a place behind the path of a node. -/
def spell (front : PyText) : List JsonSegment → PyText
  | [] => front
  | .name key :: rest => spell (memberPath front key) rest
  | .index n :: rest => spell (itemPath front n) rest

section

variable (budget : JsonMutationBudget)

mutual

/-- The leaves below a node and their places, within the depth and the indices of a budget. -/
def leavesBelow (depth : Nat) (node : Json PyText φ) : List (List JsonSegment × Json PyText φ) :=
  if budget.maximumDepth < depth then []
  else
    match node with
    | .obj members => memberLeaves depth members
    | .arr items => itemLeaves depth 0 items
    | .null => []
    | .bool b => [([], .bool b)]
    | .int n => [([], .int n)]
    | .float x => [([], .float x)]
    | .str s => [([], .str s)]

def memberLeaves (depth : Nat) (members : List (PyText × Json PyText φ)) :
    List (List JsonSegment × Json PyText φ) :=
  match members with
  | [] => []
  | (key, value) :: rest =>
    (leavesBelow (depth + 1) value).map (fun leaf => (.name key :: leaf.1, leaf.2))
      ++ memberLeaves depth rest

def itemLeaves (depth index : Nat) (items : List (Json PyText φ)) :
    List (List JsonSegment × Json PyText φ) :=
  match items with
  | [] => []
  | value :: rest =>
    if budget.maximumArrayIndex ≤ index then []
    else (leavesBelow (depth + 1) value).map (fun leaf => (.index index :: leaf.1, leaf.2))
      ++ itemLeaves depth (index + 1) rest

end

/-- The leaves with a path that is not empty, as the walk records them. -/
def recorded (front : PyText) (address : List JsonSegment)
    (leaves : List (List JsonSegment × Json PyText φ)) : List (JsonLeaf φ) :=
  (leaves.map fun leaf => ⟨spell front leaf.1, address ++ leaf.1, leaf.2⟩).filter
    (!·.path.isEmpty)

/-- The first leaves of a document within a budget, those that only empty names lead to left out. -/
def documentLeaves (document : Json PyText φ) : List (JsonLeaf φ) :=
  (recorded [] [] (leavesBelow budget 0 document)).take budget.maximumParameterPaths

/-- Leaves recorded behind others as long as there is room. -/
def fill (found new : List (JsonLeaf φ)) : List (JsonLeaf φ) :=
  found ++ new.take (budget.maximumParameterPaths - found.length)

variable {found : List (JsonLeaf φ)}

theorem fill_full (h : isFull budget found = true) (new : List (JsonLeaf φ)) :
    fill budget found new = found := by
  have hle : budget.maximumParameterPaths ≤ found.length := by simpa [isFull] using h
  rw [fill, Nat.sub_eq_zero_of_le hle, List.take_zero, List.append_nil]

@[simp] theorem fill_nil (found : List (JsonLeaf φ)) : fill budget found [] = found := by
  rw [fill, List.take_nil, List.append_nil]

theorem fill_fill (found first second : List (JsonLeaf φ)) :
    fill budget (fill budget found first) second = fill budget found (first ++ second) := by
  unfold fill
  rw [List.take_append, List.append_assoc, List.length_append, List.length_take]
  congr 3
  omega

theorem fill_singleton (h : isFull budget found = false) (leaf : JsonLeaf φ) :
    fill budget found [leaf] = found ++ [leaf] := by
  have hlt : found.length < budget.maximumParameterPaths := by simpa [isFull] using h
  rw [fill, List.take_of_length_le]
  rw [List.length_singleton]
  omega

variable (front : PyText) (address : List JsonSegment)

@[simp] theorem recorded_nil :
    recorded (φ := φ) front address [] = [] := rfl

theorem recorded_append (first second : List (List JsonSegment × Json PyText φ)) :
    recorded front address (first ++ second)
      = recorded front address first ++ recorded front address second := by
  simp [recorded]

theorem recorded_name (front key : PyText) (address : List JsonSegment)
    (leaves : List (List JsonSegment × Json PyText φ)) :
    recorded front address (leaves.map fun leaf => (.name key :: leaf.1, leaf.2))
      = recorded (memberPath front key) (address ++ [.name key]) leaves := by
  simp [recorded, comp_def, spell]

theorem recorded_index (front : PyText) (index : Nat) (address : List JsonSegment)
    (leaves : List (List JsonSegment × Json PyText φ)) :
    recorded front address (leaves.map fun leaf => (.index index :: leaf.1, leaf.2))
      = recorded (itemPath front index) (address ++ [.index index]) leaves := by
  simp [recorded, comp_def, spell]

theorem walk_leaf (h : isFull budget found = false) (front : PyText) (address : List JsonSegment)
    (node : Json PyText φ) :
    (if front.isEmpty then found else found ++ [⟨front, address, node⟩])
      = fill budget found (recorded front address [([], node)]) := by
  cases front with
  | nil => simp [recorded, spell]
  | cons c rest =>
    have hrecorded : recorded (c :: rest) address [([], node)] = [⟨c :: rest, address, node⟩] := by
      simp [recorded, spell]
    rw [hrecorded, fill_singleton budget h]
    rfl

mutual

theorem walk_eq (node : Json PyText φ) (found : List (JsonLeaf φ)) (front : PyText)
    (address : List JsonSegment) (depth : Nat) :
    walk budget found front address depth node
      = fill budget found (recorded front address (leavesBelow budget depth node)) := by
  unfold walk leavesBelow
  cases hfull : isFull budget found with
  | true =>
    rw [fill_full budget hfull]
    simp
  | false =>
    by_cases hdepth : budget.maximumDepth < depth
    · simp [hdepth]
    · simp only [hdepth, decide_false, Bool.or_false, Bool.false_eq_true, if_false]
      match node with
      | .obj members => exact walkMembers_eq members found front address depth
      | .arr items => exact walkItems_eq items found front address depth 0
      | .null => simp
      | .bool b => exact walk_leaf budget hfull front address (.bool b)
      | .int n => exact walk_leaf budget hfull front address (.int n)
      | .float x => exact walk_leaf budget hfull front address (.float x)
      | .str s => exact walk_leaf budget hfull front address (.str s)

theorem walkMembers_eq (members : List (PyText × Json PyText φ)) (found : List (JsonLeaf φ))
    (front : PyText) (address : List JsonSegment) (depth : Nat) :
    walkMembers budget found front address depth members
      = fill budget found (recorded front address (memberLeaves budget depth members)) := by
  match members with
  | [] => simp [walkMembers, memberLeaves]
  | (key, value) :: rest =>
    unfold walkMembers memberLeaves
    split
    · next hfull => rw [fill_full budget hfull]
    · rw [recorded_append, recorded_name, ← fill_fill, ← walk_eq value,
        walkMembers_eq rest]

theorem walkItems_eq (items : List (Json PyText φ)) (found : List (JsonLeaf φ)) (front : PyText)
    (address : List JsonSegment) (depth index : Nat) :
    walkItems budget found front address depth index items
      = fill budget found (recorded front address (itemLeaves budget depth index items)) := by
  match items with
  | [] => simp [walkItems, itemLeaves]
  | value :: rest =>
    unfold walkItems itemLeaves
    by_cases hindex : budget.maximumArrayIndex ≤ index
    · simp [hindex]
    · rw [if_neg hindex]
      cases hfull : isFull budget found with
      | true =>
        rw [fill_full budget hfull]
        simp
      | false =>
        simp only [hindex, decide_false, Bool.or_false, Bool.false_eq_true, if_false]
        rw [recorded_append, recorded_index, ← fill_fill, ← walk_eq value, walkItems_eq rest]

end

theorem jsonLeaves_eq (document : Json PyText φ) :
    jsonLeaves budget document = documentLeaves budget document := by
  rw [jsonLeaves, walk_eq, documentLeaves, fill]
  simp

end

/-! ## Places -/

section

variable (budget : JsonMutationBudget)

theorem memberLeaves_place (members : List (PyText × Json PyText φ)) (depth : Nat) :
    ∀ leaf ∈ memberLeaves budget depth members,
      ∃ key ∈ members.map Prod.fst, ∃ below, leaf.1 = .name key :: below := by
  induction members with
  | nil => simp [memberLeaves]
  | cons member rest ih =>
    obtain ⟨key, value⟩ := member
    unfold memberLeaves
    intro leaf hleaf
    obtain hfirst | hrest := List.mem_append.mp hleaf
    · obtain ⟨below, -, rfl⟩ := List.mem_map.mp hfirst
      exact ⟨key, by simp, below.1, rfl⟩
    · obtain ⟨other, hother, hplace⟩ := ih leaf hrest
      exact ⟨other, List.mem_cons_of_mem _ hother, hplace⟩

theorem itemLeaves_place (items : List (Json PyText φ)) (depth index : Nat) :
    ∀ leaf ∈ itemLeaves budget depth index items,
      ∃ n, index ≤ n ∧ ∃ below, leaf.1 = .index n :: below := by
  induction items generalizing index with
  | nil => simp [itemLeaves]
  | cons value rest ih =>
    unfold itemLeaves
    split
    · simp
    · intro leaf hleaf
      obtain hfirst | hrest := List.mem_append.mp hleaf
      · obtain ⟨below, -, rfl⟩ := List.mem_map.mp hfirst
        exact ⟨index, le_refl index, below.1, rfl⟩
      · obtain ⟨n, hle, hplace⟩ := ih (index + 1) leaf hrest
        exact ⟨n, by omega, hplace⟩

mutual

theorem leavesBelow_nodup (node : Json PyText φ) (hdistinct : Distinct node) (depth : Nat) :
    ((leavesBelow budget depth node).map Prod.fst).Nodup := by
  unfold leavesBelow
  split
  · simp
  · match node, hdistinct with
    | .obj members, hdistinct => exact memberLeaves_nodup members hdistinct.1 hdistinct.2 depth
    | .arr items, hdistinct => exact itemLeaves_nodup items hdistinct depth 0
    | .null, _ => simp
    | .bool b, _ | .int n, _ | .float x, _ | .str s, _ => exact List.nodup_singleton []

theorem memberLeaves_nodup (members : List (PyText × Json PyText φ))
    (hnodup : (members.map Prod.fst).Nodup) (hdistinct : DistinctMembers members) (depth : Nat) :
    ((memberLeaves budget depth members).map Prod.fst).Nodup := by
  match members, hnodup, hdistinct with
  | [], _, _ => simp [memberLeaves]
  | (key, value) :: rest, hnodup, hdistinct =>
    rw [List.map_cons, List.nodup_cons] at hnodup
    have hfirst := (leavesBelow_nodup value hdistinct.1 (depth + 1)).map
      (List.cons_injective (a := JsonSegment.name key))
    have hrest := memberLeaves_nodup rest hnodup.2 hdistinct.2 depth
    unfold memberLeaves
    rw [List.map_append, List.map_map]
    refine List.nodup_append'.mpr ⟨by simpa [comp_def] using hfirst, hrest, ?_⟩
    intro place hplace hother
    obtain ⟨leaf, -, rfl⟩ := List.mem_map.mp hplace
    obtain ⟨other, hmem, heq⟩ := List.mem_map.mp hother
    obtain ⟨key', hkey', below, hplace'⟩ := memberLeaves_place budget rest depth other hmem
    have hkey : key' = key := by
      have hhead := congrArg List.head? (hplace'.symm.trans heq)
      simpa using hhead
    subst hkey
    exact hnodup.1 hkey'

theorem itemLeaves_nodup (items : List (Json PyText φ)) (hdistinct : DistinctItems items)
    (depth index : Nat) : ((itemLeaves budget depth index items).map Prod.fst).Nodup := by
  match items, hdistinct with
  | [], _ => simp [itemLeaves]
  | value :: rest, hdistinct =>
    have hfirst := (leavesBelow_nodup value hdistinct.1 (depth + 1)).map
      (List.cons_injective (a := JsonSegment.index index))
    have hrest := itemLeaves_nodup rest hdistinct.2 depth (index + 1)
    unfold itemLeaves
    split
    · simp
    · rw [List.map_append, List.map_map]
      refine List.nodup_append'.mpr ⟨by simpa [comp_def] using hfirst, hrest, ?_⟩
      intro place hplace hother
      obtain ⟨leaf, -, rfl⟩ := List.mem_map.mp hplace
      obtain ⟨other, hmem, heq⟩ := List.mem_map.mp hother
      obtain ⟨n, hlt, below, hplace'⟩ := itemLeaves_place budget rest depth (index + 1) other hmem
      have hindex : n = index := by
        have hhead := congrArg List.head? (hplace'.symm.trans heq)
        simpa using hhead
      omega

end

theorem documentLeaves_nodup {document : Json PyText φ} (hdistinct : Distinct document) :
    ((documentLeaves budget document).map JsonLeaf.address).Nodup := by
  have hnodup := leavesBelow_nodup budget document hdistinct 0
  have hall : ((recorded [] [] (leavesBelow budget 0 document)).map JsonLeaf.address).Nodup := by
    refine List.Nodup.sublist (List.filter_sublist.map _) ?_
    simpa [comp_def] using hnodup
  exact hall.sublist ((List.take_sublist _ _).map _)

end

/-! ## Looking a leaf up -/

section

variable [UnicodeTables] (budget : JsonMutationBudget)

/-- A leaf is found at its place, which has no index beyond the budget. -/
structure Found (node : Json PyText φ) (leaf : List JsonSegment × Json PyText φ) : Prop where
  value : getJsonValue node leaf.1 = .ok leaf.2
  index_lt : ∀ n, .index n ∈ leaf.1 → n < budget.maximumArrayIndex

variable {leaf : List JsonSegment × Json PyText φ}

theorem Found.member {members : List (PyText × Json PyText φ)}
    (hnodup : (members.map Prod.fst).Nodup) {key : PyText} {value : Json PyText φ}
    (hmem : (key, value) ∈ members) (h : Found budget value leaf) :
    Found budget (.obj members) (.name key :: leaf.1, leaf.2) := by
  refine ⟨?_, fun n hn => h.index_lt n (by simpa using hn)⟩
  rw [getJsonValue, lookup_of_mem hnodup hmem]
  exact h.value

theorem Found.item {items : List (Json PyText φ)} {index : Nat} {value : Json PyText φ}
    (hitem : items[index]? = some value) (hlt : index < budget.maximumArrayIndex)
    (h : Found budget value leaf) :
    Found budget (.arr items) (.index index :: leaf.1, leaf.2) := by
  refine ⟨?_, fun n hn => ?_⟩
  · rw [getJsonValue, hitem]
    exact h.value
  · obtain hfirst | hrest := List.mem_cons.mp hn
    · cases hfirst
      exact hlt
    · exact h.index_lt n hrest

mutual

theorem leavesBelow_found (node : Json PyText φ) (hdistinct : Distinct node) (depth : Nat) :
    ∀ leaf ∈ leavesBelow budget depth node, Found budget node leaf := by
  unfold leavesBelow
  split
  · simp
  · match node, hdistinct with
    | .obj members, hdistinct =>
      intro leaf hleaf
      obtain ⟨key, value, hmem, below, hfound, rfl⟩ :=
        memberLeaves_found members hdistinct.2 depth leaf hleaf
      exact hfound.member budget hdistinct.1 hmem
    | .arr items, hdistinct =>
      intro leaf hleaf
      obtain ⟨k, value, hitem, hlt, below, hfound, rfl⟩ :=
        itemLeaves_found items hdistinct depth 0 leaf hleaf
      rw [Nat.zero_add] at hlt ⊢
      exact hfound.item budget hitem hlt
    | .null, _ => simp
    | .bool b, _ | .int n, _ | .float x, _ | .str s, _ =>
      intro leaf hleaf
      cases List.mem_singleton.mp hleaf
      exact ⟨rfl, by simp⟩

theorem memberLeaves_found (members : List (PyText × Json PyText φ))
    (hdistinct : DistinctMembers members) (depth : Nat) :
    ∀ leaf ∈ memberLeaves budget depth members, ∃ key value, (key, value) ∈ members ∧
      ∃ below, Found budget value below ∧ leaf = (.name key :: below.1, below.2) := by
  match members, hdistinct with
  | [], _ => simp [memberLeaves]
  | (key, value) :: rest, hdistinct =>
    unfold memberLeaves
    intro leaf hleaf
    obtain hfirst | hrest := List.mem_append.mp hleaf
    · obtain ⟨below, hbelow, rfl⟩ := List.mem_map.mp hfirst
      exact ⟨key, value, List.mem_cons_self, below,
        leavesBelow_found value hdistinct.1 (depth + 1) below hbelow, rfl⟩
    · obtain ⟨other, found, hmem, hbelow⟩ := memberLeaves_found rest hdistinct.2 depth leaf hrest
      exact ⟨other, found, List.mem_cons_of_mem _ hmem, hbelow⟩

theorem itemLeaves_found (items : List (Json PyText φ)) (hdistinct : DistinctItems items)
    (depth index : Nat) :
    ∀ leaf ∈ itemLeaves budget depth index items, ∃ k value, items[k]? = some value ∧
      index + k < budget.maximumArrayIndex ∧
      ∃ below, Found budget value below ∧ leaf = (.index (index + k) :: below.1, below.2) := by
  match items, hdistinct with
  | [], _ => simp [itemLeaves]
  | value :: rest, hdistinct =>
    unfold itemLeaves
    split
    · simp
    · next hindex =>
      intro leaf hleaf
      obtain hfirst | hrest := List.mem_append.mp hleaf
      · obtain ⟨below, hbelow, rfl⟩ := List.mem_map.mp hfirst
        exact ⟨0, value, rfl, by omega, below,
          leavesBelow_found value hdistinct.1 (depth + 1) below hbelow, rfl⟩
      · obtain ⟨k, found, hitem, hlt, below, hbelow, rfl⟩ :=
          itemLeaves_found rest hdistinct.2 depth (index + 1) leaf hrest
        have hsum : index + (k + 1) = index + 1 + k := by omega
        exact ⟨k + 1, found, hitem, by omega, below, hbelow, by rw [hsum]⟩

end

theorem documentLeaves_found {document : Json PyText φ} (hdistinct : Distinct document)
    {leaf : JsonLeaf φ} (h : leaf ∈ documentLeaves budget document) :
    leaf.path = spell [] leaf.address ∧ leaf.path ≠ [] ∧
      Found budget document (leaf.address, leaf.value) := by
  have hmem := List.mem_of_mem_take h
  rw [recorded, List.mem_filter, List.mem_map] at hmem
  obtain ⟨⟨below, hbelow, rfl⟩, hpath⟩ := hmem
  exact ⟨rfl, by simpa using hpath, leavesBelow_found budget document hdistinct 0 below hbelow⟩

end

end WebGuard.RequestTemplates
