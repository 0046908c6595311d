import WebGuard.Lib.JsonCanonical
import Mathlib.Algebra.BigOperators.Group.List.Basic

/-!
# How long a document gets

`Json.cost` bounds the length of a value that is written with `ensure_ascii=False`: a code point
takes six characters at most, as an escape. A character takes four bytes at most.
-/

namespace PyJson

open List

variable {φ : Type} [PyFloat φ]

mutual

/-- A bound for the length of a written value. -/
def Json.cost : Json PyText φ → Nat
  | .null => 4
  | .bool _ => 5
  | .int n => decimalLength n + 1
  | .float x => (PyFloat.repr x).length
  | .str s => 6 * s.length + 2
  | .arr items => costItems items + 2
  | .obj members => costMembers members + 2

def costItems : List (Json PyText φ) → Nat
  | [] => 0
  | item :: rest => item.cost + 1 + costItems rest

def costMembers : List (PyText × Json PyText φ) → Nat
  | [] => 0
  | (key, value) :: rest => 6 * key.length + 4 + value.cost + costMembers rest

end

theorem length_escapeUnit_le (mode : Mode) (n : Nat) : (escapeUnit mode n).length ≤ 6 := by
  unfold escapeUnit unicodeEscape
  split_ifs <;> simp

theorem length_renderText_le (text : PyText) :
    (renderText .utf8 text).length ≤ 6 * text.length + 2 := by
  have hunits : ∀ units : List Nat, (units.flatMap (escapeUnit .utf8)).length ≤ 6 * units.length := by
    intro units
    induction units with
    | nil => simp
    | cons n rest ih =>
      have hn := length_escapeUnit_le .utf8 n
      rw [flatMap_cons, length_append, length_cons]
      omega
  have htext := hunits text
  rw [renderText, flatMap_units_utf8]
  simp only [length_append, length_cons, length_nil]
  omega

theorem length_renderInt_le (n : Int) : (renderInt n).length ≤ decimalLength n + 1 := by
  unfold renderInt decimalLength
  split <;> simp

mutual

theorem length_render_le : ∀ value : Json PyText φ, (render .utf8 value).length ≤ value.cost
  | .null => le_rfl
  | .bool true => Nat.le_succ 4
  | .bool false => le_rfl
  | .int n => length_renderInt_le n
  | .float x => le_rfl
  | .str s => length_renderText_le s
  | .arr items => by
    have hitems := length_renderItems_le items
    rw [render, Json.cost, length_cons]
    omega
  | .obj members => by
    have hmembers := length_renderMembers_le members
    rw [render, Json.cost, length_cons]
    omega

theorem length_renderItems_le :
    ∀ items : List (Json PyText φ), (renderItems .utf8 items).length ≤ costItems items + 1
  | [] => by simp [renderItems, costItems]
  | item :: rest => by
    have hitem := length_render_le item
    have hrest := length_renderMoreItems_le rest
    rw [renderItems, costItems, length_append]
    omega

theorem length_renderMoreItems_le :
    ∀ items : List (Json PyText φ), (renderMoreItems .utf8 items).length ≤ costItems items + 1
  | [] => by simp [renderMoreItems, costItems]
  | item :: rest => by
    have hitem := length_render_le item
    have hrest := length_renderMoreItems_le rest
    rw [renderMoreItems, costItems, length_append, length_cons]
    omega

theorem length_renderMembers_le : ∀ members : List (PyText × Json PyText φ),
    (renderMembers .utf8 members).length ≤ costMembers members + 1
  | [] => by simp [renderMembers, costMembers]
  | (key, value) :: rest => by
    have hkey := length_renderText_le key
    have hvalue := length_render_le value
    have hrest := length_renderMoreMembers_le rest
    rw [renderMembers, costMembers, length_append, length_append, length_cons]
    omega

theorem length_renderMoreMembers_le : ∀ members : List (PyText × Json PyText φ),
    (renderMoreMembers .utf8 members).length ≤ costMembers members + 1
  | [] => by simp [renderMoreMembers, costMembers]
  | (key, value) :: rest => by
    have hkey := length_renderText_le key
    have hvalue := length_render_le value
    have hrest := length_renderMoreMembers_le rest
    rw [renderMoreMembers, costMembers, length_append, length_append, length_cons,
      length_cons]
    omega

end

/-! ## Sorting -/

theorem costMembers_eq_sum (members : List (PyText × Json PyText φ)) :
    costMembers members
      = (members.map fun member => 6 * member.1.length + 4 + member.2.cost).sum := by
  induction members with
  | nil => rfl
  | cons member rest ih => rw [costMembers, ih, map_cons, sum_cons]

mutual

theorem cost_sortKeys : ∀ value : Json PyText φ, (sortKeys value).cost = value.cost
  | .null => rfl
  | .bool _ => rfl
  | .int _ => rfl
  | .float _ => rfl
  | .str _ => rfl
  | .arr items => by rw [sortKeys, Json.cost, Json.cost, costItems_sortItems items]
  | .obj members => by
    rw [sortKeys, Json.cost, Json.cost, ← costMembers_sortMembers members, costMembers_eq_sum,
      costMembers_eq_sum, ((perm_byKey _).map _).sum_eq]

theorem costItems_sortItems :
    ∀ items : List (Json PyText φ), costItems (sortItems items) = costItems items
  | [] => rfl
  | item :: rest => by
    rw [sortItems, costItems, costItems, cost_sortKeys item, costItems_sortItems rest]

theorem costMembers_sortMembers :
    ∀ members : List (PyText × Json PyText φ), costMembers (sortMembers members) = costMembers members
  | [] => rfl
  | (_, value) :: rest => by
    rw [sortMembers, costMembers, costMembers, cost_sortKeys value, costMembers_sortMembers rest]

end

theorem size_utf8Encode_le (text : List Char) : text.utf8Encode.size ≤ 4 * text.length := by
  induction text with
  | nil => simp
  | cons c rest ih =>
    have hc := c.utf8Size_le_four
    rw [utf8Encode_cons, ByteArray.size_append, length_cons, utf8Encode_singleton,
      size_toByteArray, String.length_utf8EncodeChar]
    omega

theorem size_of_dumps {value : Json PyText φ} {document : List Char}
    (h : dumps .utf8 value = some document) : document.utf8Encode.size ≤ 4 * value.cost := by
  have hlength := length_render_le (sortKeys value)
  have hdocument := size_utf8Encode_le document
  rw [cost_sortKeys, ← dumps_eq_some h] at hlength
  omega

end PyJson
