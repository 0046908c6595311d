import WebGuard.Lib.JsonCanonical

/-!
# Equality of JSON values

Python's `==` on what `json.loads` answers with. The members of an object have no order, and a
boolean, an integer and a float are equal if they have the same value. Loaded values have no NaN.
-/

namespace PyJson

variable {ε φ : Type} [PyFloat φ] [DecidableEq φ]

/-- The value of a number; an infinite float has none. -/
def numeric : Json PyText φ → Option (Except φ ℚ)
  | .bool b => some (.ok (if b then 1 else 0))
  | .int n => some (.ok n)
  | .float x => some (if PyFloat.isFinite x then .ok (PyFloat.value x) else .error x)
  | _ => none

def sameNumber (a b : Json PyText φ) : Bool :=
  match numeric a, numeric b with
  | some (.ok p), some (.ok q) => p = q
  | some (.error x), some (.error y) => x = y
  | _, _ => false

mutual

/-- `a == b`. -/
def pyEq : Json PyText φ → Json PyText φ → Bool
  | .null, .null => true
  | .str s, .str t => s = t
  | .arr items, .arr others => pyEqItems items others
  | .obj members, .obj others => members.length = others.length && pyEqMembers members others
  | a, b => sameNumber a b

def pyEqItems : List (Json PyText φ) → List (Json PyText φ) → Bool
  | [], [] => true
  | item :: rest, other :: others => pyEq item other && pyEqItems rest others
  | _, _ => false

def pyEqMembers : List (PyText × Json PyText φ) → List (PyText × Json PyText φ) → Bool
  | [], _ => true
  | (key, value) :: rest, others =>
    (match lookup key others with
      | some other => pyEq value other
      | none => false) && pyEqMembers rest others

end

alias pyEq_str_str := pyEq.eq_2

variable {b : Json PyText φ}

@[simp] theorem pyEq_str {s : PyText} : pyEq (.str s) b = true ↔ b = .str s := by
  cases b with
  | str t =>
    rw [pyEq_str_str, decide_eq_true_eq, Json.str.injEq]
    exact eq_comm
  | _ => simp [pyEq, sameNumber, numeric]

@[simp] theorem pyEq_null : pyEq (.null : Json PyText φ) b = true ↔ b = .null := by
  cases b <;> simp [pyEq, sameNumber, numeric]

theorem pyEq_arr {items : List (Json PyText φ)} :
    pyEq (.arr items) b = true ↔ ∃ others, b = .arr others ∧ pyEqItems items others = true := by
  cases b <;> simp [pyEq, sameNumber, numeric]

theorem pyEqMembers_iff {members others : List (PyText × Json PyText φ)} :
    pyEqMembers members others = true ↔
      ∀ member ∈ members, ∃ other, lookup member.1 others = some other ∧
        pyEq member.2 other = true := by
  induction members with
  | nil => simp [pyEqMembers]
  | cons member rest ih =>
    obtain ⟨key, value⟩ := member
    rw [pyEqMembers, Bool.and_eq_true, ih, List.forall_mem_cons]
    cases lookup key others with
    | none => simp
    | some other => simp

/-- Equal objects have equal members. -/
theorem pyEq_obj {members : List (PyText × Json PyText φ)} :
    pyEq (.obj members) b = true ↔ ∃ others, b = .obj others ∧ members.length = others.length ∧
      ∀ member ∈ members, ∃ other, lookup member.1 others = some other ∧
        pyEq member.2 other = true := by
  cases b with
  | obj others => simp [pyEq, pyEqMembers_iff]
  | _ => simp [pyEq, sameNumber, numeric]

/-! ## Spellings -/

section

variable {φ : Type}

/-- A value as it was written down, or as it comes out of a document with its keys sorted. -/
structure Spelling (φ : Type) where
  value : Json PyText φ → Json PyText φ
  members : List (PyText × Json PyText φ) → List (PyText × Json PyText φ)
  null : value .null = .null
  bool : ∀ b, value (.bool b) = .bool b
  int : ∀ n, value (.int n) = .int n
  float : ∀ x, value (.float x) = .float x
  str : ∀ s, value (.str s) = .str s
  arr : ∀ items, value (.arr items) = .arr (items.map value)
  obj : ∀ object, value (.obj object) = .obj (members object)
  keys : ∀ object, ((members object).map Prod.fst).Perm (object.map Prod.fst)
  mem : ∀ {object key v}, (key, v) ∈ object → (key, value v) ∈ members object

namespace Spelling

/-- The value as it is. -/
def plain : Spelling φ where
  value v := v
  members object := object
  null := rfl
  bool _ := rfl
  int _ := rfl
  float _ := rfl
  str _ := rfl
  arr items := by rw [List.map_id']
  obj _ := rfl
  keys _ := List.Perm.refl _
  mem h := h

/-- The value with its keys sorted. -/
def sorted : Spelling φ where
  value := sortKeys
  members object := byKey (sortMembers object)
  null := rfl
  bool _ := rfl
  int _ := rfl
  float _ := rfl
  str _ := rfl
  arr items := by rw [sortKeys, sortItems_eq_map]
  obj _ := by rw [sortKeys]
  keys := keys_byKey_sortMembers
  mem := by
    intro object key v h
    rw [(perm_byKey _).mem_iff, sortMembers_eq_map]
    exact List.mem_map_of_mem (f := fun member => (member.1, sortKeys member.2)) h

theorem lookup (σ : Spelling φ) {object : List (PyText × Json PyText φ)}
    (hnodup : (object.map Prod.fst).Nodup) {key : PyText} {v : Json PyText φ}
    (h : (key, v) ∈ object) : PyJson.lookup key (σ.members object) = some (σ.value v) :=
  lookup_of_mem ((σ.keys object).nodup_iff.mpr hnodup) (σ.mem h)

theorem length_members (σ : Spelling φ) (object : List (PyText × Json PyText φ)) :
    (σ.members object).length = object.length := by
  simpa using (σ.keys object).length_eq

end Spelling

mutual

/-- No object in the value has a key twice. -/
def Distinct : Json PyText φ → Prop
  | .arr items => DistinctItems items
  | .obj object => (object.map Prod.fst).Nodup ∧ DistinctMembers object
  | _ => True

def DistinctItems : List (Json PyText φ) → Prop
  | [] => True
  | item :: rest => Distinct item ∧ DistinctItems rest

def DistinctMembers : List (PyText × Json PyText φ) → Prop
  | [] => True
  | (_, v) :: rest => Distinct v ∧ DistinctMembers rest

end

theorem distinct_map {α : Type} {write : α → Json PyText φ} {items : List α}
    (h : ∀ a ∈ items, Distinct (write a)) : Distinct (.arr (items.map write)) := by
  show DistinctItems _
  induction items with
  | nil => trivial
  | cons a rest ih =>
    rw [List.forall_mem_cons] at h
    exact ⟨h.1, ih h.2⟩

variable [PyFloat φ] [DecidableEq φ]

mutual

theorem pyEq_spelled (σ : Spelling φ) : ∀ v : Json PyText φ, Distinct v → pyEq v (σ.value v) = true
  | .null, _ => by rw [σ.null, pyEq]
  | .bool b, _ => by simp [σ.bool, pyEq, sameNumber, numeric]
  | .int n, _ => by simp [σ.int, pyEq, sameNumber, numeric]
  | .float x, _ => by
    rw [σ.float]
    cases hfinite : PyFloat.isFinite x <;> simp [pyEq, sameNumber, numeric, hfinite]
  | .str s, _ => by rw [σ.str, pyEq_str]
  | .arr items, h => by
    rw [σ.arr, pyEq_arr]
    exact ⟨_, rfl, pyEqItems_spelled σ items h⟩
  | .obj object, h => by
    rw [σ.obj, pyEq_obj]
    refine ⟨_, rfl, (σ.length_members object).symm, fun member hmember => ?_⟩
    exact ⟨_, σ.lookup h.1 hmember, pyEqMembers_spelled σ object h.2 member hmember⟩

theorem pyEqItems_spelled (σ : Spelling φ) : ∀ items : List (Json PyText φ), DistinctItems items →
    pyEqItems items (items.map σ.value) = true
  | [], _ => rfl
  | item :: rest, h => by
    rw [List.map_cons, pyEqItems, pyEq_spelled σ item h.1, pyEqItems_spelled σ rest h.2]
    rfl

theorem pyEqMembers_spelled (σ : Spelling φ) :
    ∀ object : List (PyText × Json PyText φ), DistinctMembers object →
      ∀ member ∈ object, pyEq member.2 (σ.value member.2) = true
  | [], _ => by simp
  | (_, v) :: rest, h =>
    List.forall_mem_cons.mpr ⟨pyEq_spelled σ v h.1, pyEqMembers_spelled σ rest h.2⟩

end

end

end PyJson
