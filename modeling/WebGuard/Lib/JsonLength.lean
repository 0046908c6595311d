import Mathlib.Algebra.BigOperators.Group.List.Basic
import WebGuard.Lib.JsonLine

/-!
# The length of an ASCII document

How many characters `json.dumps` writes with `ensure_ascii`: a code point is itself, or an escape of
two or six characters, or two escapes for one above the basic plane.
-/

namespace PyJson

open List

variable {φ : Type} [PyFloat φ]

/-- The characters that a code point is written with. -/
def pointLength (n : Nat) : Nat :=
  if Mode.verbatim .ascii n then 1
  else if n = 34 ∨ n = 92 ∨ n = 10 ∨ n = 13 ∨ n = 9 ∨ n = 12 ∨ n = 8 then 2
  else if n < 0x10000 then 6
  else 12

/-- The characters that a text is written with, without its quotation marks. -/
def escapedLength (text : PyText) : Nat := (text.map pointLength).sum

@[simp] theorem escapedLength_nil : escapedLength [] = 0 := rfl

@[simp] theorem escapedLength_cons (n : Nat) (text : PyText) :
    escapedLength (n :: text) = pointLength n + escapedLength text := by
  rw [escapedLength, map_cons, sum_cons, escapedLength]

theorem escapedLength_of_verbatim {text : PyText}
    (h : ∀ n ∈ text, Mode.verbatim .ascii n = true) : escapedLength text = text.length := by
  induction text with
  | nil => rfl
  | cons n rest ih =>
    rw [escapedLength_cons, ih fun m hm => h m (mem_cons_of_mem n hm), pointLength,
      if_pos (h n mem_cons_self), length_cons, Nat.add_comm]

theorem length_escapeUnit (n : Nat) :
    (escapeUnit .ascii n).length = if Mode.verbatim .ascii n then 1
      else if n = 34 ∨ n = 92 ∨ n = 10 ∨ n = 13 ∨ n = 9 ∨ n = 12 ∨ n = 8 then 2 else 6 := by
  unfold escapeUnit unicodeEscape
  split_ifs <;> simp_all

theorem length_units (n : Nat) :
    ((Mode.units .ascii n).flatMap (escapeUnit .ascii)).length = pointLength n := by
  unfold Mode.units pointLength
  by_cases h : n < 0x10000
  · simp only [h, if_true, flatMap_cons, flatMap_nil, append_nil]
    exact length_escapeUnit n
  · have hplane : Mode.verbatim .ascii n = false := by
      simp [Mode.verbatim]
      omega
    have hescape : ¬(n = 34 ∨ n = 92 ∨ n = 10 ∨ n = 13 ∨ n = 9 ∨ n = 12 ∨ n = 8) := by omega
    have hsurrogate : ∀ m, 0xD800 ≤ m → (escapeUnit .ascii m).length = 6 := by
      intro m hm
      have hverbatim : Mode.verbatim .ascii m = false := by
        simp [Mode.verbatim]
        omega
      rw [length_escapeUnit, hverbatim, if_neg (by simp), if_neg (by omega)]
    simp only [h, if_false, hplane, hescape, flatMap_cons, flatMap_nil, append_nil,
      length_append, Bool.false_eq_true]
    rw [hsurrogate _ (by omega), hsurrogate _ (by omega)]

/-- The length of a text. -/
theorem length_renderText_ascii (text : PyText) :
    (renderText .ascii text).length = escapedLength text + 2 := by
  have hunits : ((text.flatMap (Mode.units .ascii)).flatMap (escapeUnit .ascii)).length
      = escapedLength text := by
    induction text with
    | nil => rfl
    | cons n rest ih =>
      rw [flatMap_cons, flatMap_append, length_append, length_units, ih,
        escapedLength_cons]
  rw [renderText]
  simp only [cons_append, length_cons, length_append, length_nil, hunits]

variable (members : List (PyText × Json PyText φ))

/-- The characters of the members of an object, each with a comma. -/
def membersLength : Nat :=
  (members.map fun member => escapedLength member.1 + 4 + (render .ascii member.2).length).sum

theorem length_renderMoreMembers :
    (renderMoreMembers .ascii members).length = membersLength members + 1 := by
  induction members with
  | nil => rfl
  | cons member rest ih =>
    rw [renderMoreMembers, membersLength, map_cons, sum_cons]
    simp only [cons_append, length_cons, length_append, length_renderText_ascii, ih]
    rw [membersLength]
    omega

/-- The length of an object does not depend on the order of its members. -/
theorem length_render_obj :
    (render .ascii (.obj members)).length
      = membersLength members + if members.isEmpty then 2 else 1 := by
  cases members with
  | nil => rfl
  | cons member rest =>
    rw [render, renderMembers, membersLength, map_cons, sum_cons]
    simp only [length_cons, length_append, length_renderText_ascii,
      length_renderMoreMembers, isEmpty_cons, Bool.false_eq_true, if_false]
    rw [membersLength]
    omega

variable {members : List (PyText × Json PyText φ)} {text : List Char}

theorem membersLength_perm {others : List (PyText × Json PyText φ)} (h : members.Perm others) :
    membersLength members = membersLength others :=
  (h.map _).sum_eq

/-! ## The characters -/

/-- Every character is ASCII. -/
def AsciiText (text : List Char) : Prop := ∀ c ∈ text, c.toNat < 128

theorem asciiText_cons {c : Char} :
    AsciiText (c :: text) ↔ c.toNat < 128 ∧ AsciiText text := forall_mem_cons

theorem asciiText_append {behind : List Char} :
    AsciiText (text ++ behind) ↔ AsciiText text ∧ AsciiText behind := forall_mem_append

theorem asciiText_of_all (h : (text.all fun c => c.toNat < 128) = true) : AsciiText text := by
  simpa [AsciiText] using h

theorem Printable.ascii (h : Printable text) : AsciiText text := by
  intro c hc
  have hle := (h c hc).2
  omega

theorem renderText_ascii (text : PyText) : AsciiText (renderText .ascii text) :=
  (renderText_printable text).ascii

theorem renderMoreMembers_ascii (h : ∀ member ∈ members, AsciiText (render .ascii member.2)) :
    AsciiText (renderMoreMembers .ascii members) := by
  induction members with
  | nil =>
    rw [renderMoreMembers]
    exact asciiText_of_all (by decide)
  | cons member rest ih =>
    rw [renderMoreMembers]
    simp only [cons_append, asciiText_cons, asciiText_append]
    exact ⟨by decide, ⟨renderText_ascii member.1, by decide, h member mem_cons_self⟩,
      ih fun other hother => h other (mem_cons_of_mem member hother)⟩

/-- Its characters are ASCII if those of its values are. -/
theorem render_obj_ascii (h : ∀ member ∈ members, AsciiText (render .ascii member.2)) :
    AsciiText (render .ascii (.obj members)) := by
  rw [render, asciiText_cons]
  refine ⟨by decide, ?_⟩
  cases members with
  | nil =>
    rw [renderMembers]
    exact asciiText_of_all (by decide)
  | cons member rest =>
    rw [renderMembers]
    simp only [asciiText_cons, asciiText_append]
    exact ⟨⟨renderText_ascii member.1, by decide, h member mem_cons_self⟩,
      renderMoreMembers_ascii fun other hother => h other (mem_cons_of_mem member hother)⟩

end PyJson
