import WebGuard.Lib.JsonLength
import WebGuard.Lib.JsonScanned

/-!
# `json.dumps` without arguments

An ASCII document with a space behind each comma and each colon; a float that is not finite is
written with its name.
-/

namespace PyJson

/-- The floats that have a name, with the text that is written of them. -/
class NamedFloats (φ : Type) [PyFloat φ] where
  constant : φ → Option Constant
  ofConstant_constant : ∀ x c, constant x = some c → PyFloat.ofConstant c = x
  isFinite_of_unnamed : ∀ x, constant x = none → PyFloat.isFinite x = true

def Constant.text : Constant → List Char
  | .nan => ['N', 'a', 'N']
  | .infinity => ['I', 'n', 'f', 'i', 'n', 'i', 't', 'y']
  | .negativeInfinity => ['-', 'I', 'n', 'f', 'i', 'n', 'i', 't', 'y']

variable {ε φ : Type} [PyFloat φ] [NamedFloats φ]

/-- The text of a float. -/
def floatText (x : φ) : List Char :=
  match NamedFloats.constant x with
  | some c => c.text
  | none => PyFloat.repr x

mutual

/-- `json.dumps(value)`. -/
def spaced : Json PyText φ → List Char
  | .null => "null".toList
  | .bool true => "true".toList
  | .bool false => "false".toList
  | .int n => renderInt n
  | .float x => floatText x
  | .str s => renderText .ascii s
  | .arr items => '[' :: spacedItems items
  | .obj members => '\x7b' :: spacedMembers members

/-- What is behind the opening bracket. -/
def spacedItems : List (Json PyText φ) → List Char
  | [] => [']']
  | item :: rest => spaced item ++ spacedMoreItems rest

def spacedMoreItems : List (Json PyText φ) → List Char
  | [] => [']']
  | item :: rest => ',' :: ' ' :: spaced item ++ spacedMoreItems rest

/-- What is behind the opening brace. -/
def spacedMembers : List (PyText × Json PyText φ) → List Char
  | [] => ['\x7d']
  | (key, value) :: rest =>
    renderText .ascii key ++ ':' :: ' ' :: spaced value ++ spacedMoreMembers rest

def spacedMoreMembers : List (PyText × Json PyText φ) → List Char
  | [] => ['\x7d']
  | (key, value) :: rest =>
    ',' :: ' ' :: renderText .ascii key ++ ':' :: ' ' :: spaced value ++ spacedMoreMembers rest

end

/-! ## Values -/

variable {hooks : Hooks ε φ}

theorem scanOnce_constant (h : Hookless hooks) {x : φ} {c : Constant}
    (hname : NamedFloats.constant x = some c) (fuel depth : Nat) (rest : List Char) :
    scanOnce hooks (fuel + 1) depth (c.text ++ rest) = .ok (.float x, rest) := by
  have hconstant : hooked (hooks.constant c) rest = .ok (.float x, rest) := by
    rw [h.constant, NamedFloats.ofConstant_constant x c hname]
    rfl
  rw [← hconstant]
  unfold scanOnce
  cases c with
  | nan => simp [Constant.text, after]
  | infinity => simp [Constant.text, after]
  | negativeInfinity => simp [Constant.text, after]

theorem Constant.begins (c : Constant) : Begins c.text := by
  cases c with
  | nan => exact ⟨_, _, rfl, rfl, by decide, by decide⟩
  | infinity => exact ⟨_, _, rfl, rfl, by decide, by decide⟩
  | negativeInfinity => exact ⟨_, _, rfl, rfl, by decide, by decide⟩

theorem spells_floatText (laws : FloatLaws φ) (h : Hookless hooks) {mode : Mode} {gap : List Char}
    {depth : Nat} (x : φ) : Spells hooks mode gap depth (.float x) (floatText x) := by
  unfold floatText
  cases hname : NamedFloats.constant x with
  | some c => exact .leaf c.begins fun fuel rest _ => scanOnce_constant h hname fuel depth rest
  | none => exact spells_float laws (NamedFloats.isFinite_of_unnamed x hname)

mutual

theorem spells_spaced (laws : FloatLaws φ) (h : Hookless hooks) :
    ∀ (value : Json PyText φ) {depth : Nat}, Scanned hooks.maximumDigits depth value →
      Spells hooks .ascii [' '] depth value (spaced value)
  | .null, _, _ => spells_null
  | .bool true, _, _ => spells_true
  | .bool false, _, _ => spells_false
  | .int _, _, hscanned => spells_int hscanned
  | .float x, _, _ => spells_floatText laws h x
  | .str _, _, hscanned => spells_text hscanned
  | .arr [], _, hscanned => spells_brackets hscanned.1
  | .arr (item :: items), _, hscanned =>
    .arr hscanned.1 (spellsItems_spaced laws h (item :: items) (by simp) hscanned.2)
  | .obj [], _, hscanned => spells_braces h.keepsPairs hscanned.1
  | .obj (member :: members), _, hscanned =>
    .obj hscanned.1 hscanned.2.1
      (spellsMembers_spaced laws h (member :: members) (by simp) hscanned.2.2)

theorem spellsItems_spaced (laws : FloatLaws φ) (h : Hookless hooks) :
    ∀ (items : List (Json PyText φ)) {depth : Nat}, items ≠ [] →
      ScannedItems hooks.maximumDigits depth items →
      SpellsItems hooks .ascii [' '] depth items (spacedItems items)
  | [], _, hne, _ => absurd rfl hne
  | [item], _, _, hscanned => .last _ (spells_spaced laws h item hscanned.1)
  | item :: next :: items, _, _, hscanned =>
    .more item _ _ _ (spells_spaced laws h item hscanned.1)
      (spellsItems_spaced laws h (next :: items) (by simp) hscanned.2)

theorem spellsMembers_spaced (laws : FloatLaws φ) (h : Hookless hooks) :
    ∀ (members : List (PyText × Json PyText φ)) {depth : Nat}, members ≠ [] →
      ScannedMembers hooks.maximumDigits depth members →
      SpellsMembers hooks .ascii [' '] depth members (spacedMembers members)
  | [], _, hne, _ => absurd rfl hne
  | [(key, value)], _, _, hscanned => by
    have hlast := SpellsMembers.last key value _ hscanned.1
      (spells_spaced laws h value hscanned.2.1)
    simpa [spacedMembers, spacedMoreMembers] using hlast
  | (key, value) :: (nextKey, next) :: members, _, _, hscanned => by
    have hmore := SpellsMembers.more key value _ _ _ hscanned.1
      (spells_spaced laws h value hscanned.2.1)
      (spellsMembers_spaced laws h ((nextKey, next) :: members) (by simp) hscanned.2.2)
    simpa [spacedMembers, spacedMoreMembers] using hmore

end

/-- A value that was read is written as a document that is read as the value. -/
theorem loads_spaced (laws : FloatLaws φ) (h : Hookless hooks) {value : Json PyText φ}
    (hscanned : Scanned hooks.maximumDigits hooks.recursionLimit value) :
    loads hooks (spaced value) = .ok value :=
  (spells_spaced laws h value hscanned).loads (by simp [isWhitespace]) h.keepsPairs

/-! ## The characters -/

omit [PyFloat φ] [NamedFloats φ] in
theorem Constant.text_ascii (c : Constant) : AsciiText c.text := by
  cases c with
  | nan => exact asciiText_of_all (by decide)
  | infinity => exact asciiText_of_all (by decide)
  | negativeInfinity => exact asciiText_of_all (by decide)

theorem floatText_ascii (laws : FloatLaws φ) (x : φ) : AsciiText (floatText x) := by
  unfold floatText
  cases hname : NamedFloats.constant x with
  | some c => exact c.text_ascii
  | none => exact (repr_printable laws (NamedFloats.isFinite_of_unnamed x hname)).ascii

mutual

/-- The characters of a document are ASCII. -/
theorem spaced_ascii (laws : FloatLaws φ) : ∀ value : Json PyText φ, AsciiText (spaced value)
  | .null => by
    rw [spaced]
    exact asciiText_of_all (by decide)
  | .bool true => by
    rw [spaced]
    exact asciiText_of_all (by decide)
  | .bool false => by
    rw [spaced]
    exact asciiText_of_all (by decide)
  | .int n => (isInteger_renderInt n).printable.ascii
  | .float x => floatText_ascii laws x
  | .str s => renderText_ascii s
  | .arr [] => by
    rw [spaced, spacedItems]
    exact asciiText_of_all (by decide)
  | .arr (item :: rest) => by
    rw [spaced, spacedItems, asciiText_cons, asciiText_append]
    exact ⟨by decide, spaced_ascii laws item, spacedMoreItems_ascii laws rest⟩
  | .obj [] => by
    rw [spaced, spacedMembers]
    exact asciiText_of_all (by decide)
  | .obj ((key, value) :: rest) => by
    rw [spaced, spacedMembers]
    simp only [asciiText_cons, asciiText_append]
    exact ⟨by decide, ⟨renderText_ascii key, by decide, by decide, spaced_ascii laws value⟩,
      spacedMoreMembers_ascii laws rest⟩

theorem spacedMoreItems_ascii (laws : FloatLaws φ) :
    ∀ items : List (Json PyText φ), AsciiText (spacedMoreItems items)
  | [] => by
    rw [spacedMoreItems]
    exact asciiText_of_all (by decide)
  | item :: rest => by
    rw [spacedMoreItems]
    simp only [List.cons_append, asciiText_cons, asciiText_append]
    exact ⟨by decide, by decide, spaced_ascii laws item, spacedMoreItems_ascii laws rest⟩

theorem spacedMoreMembers_ascii (laws : FloatLaws φ) :
    ∀ members : List (PyText × Json PyText φ), AsciiText (spacedMoreMembers members)
  | [] => by
    rw [spacedMoreMembers]
    exact asciiText_of_all (by decide)
  | (key, value) :: rest => by
    rw [spacedMoreMembers]
    simp only [List.cons_append, asciiText_cons, asciiText_append]
    exact ⟨by decide, by decide,
      ⟨renderText_ascii key, by decide, by decide, spaced_ascii laws value⟩,
      spacedMoreMembers_ascii laws rest⟩

end

end PyJson
