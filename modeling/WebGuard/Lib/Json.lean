import Mathlib.Data.List.Lex
import Mathlib.Data.List.Sort
import Mathlib.Data.Rat.Defs

/-!
# JSON values of Python

What `json.loads` answers with and `json.dumps` takes: values whose numbers are integers or floats
and whose objects keep the order their members were added in. A text value is a list of code
points, for an escape can put a lone surrogate into one; a document is a list of characters.

* `render` writes a value in the separators of a canonical document, with the members in the order
  they have. The two modes are `ensure_ascii=True` and `ensure_ascii=False`.
* `sortKeys` puts the members of every object in order, as `sort_keys=True` does.

Floats are a parameter: what is needed of them is their text, and the value of a text.
-/

namespace PyJson

open List Char

/-- A value, over the texts `σ` and the floats `φ`. -/
inductive Json (σ φ : Type) where
  | null
  | bool (b : Bool)
  | int (n : Int)
  | float (x : φ)
  | str (s : σ)
  | arr (items : List (Json σ φ))
  | obj (members : List (σ × Json σ φ))

/-- A text as its code points. -/
abbrev PyText := List Nat

instance : LawfulBEq PyText := inferInstance

/-- The text of a literal of the source. -/
def ofString (s : String) : PyText := s.toList.map toNat

theorem ofString_inj {a b : String} : ofString a = ofString b ↔ a = b := by
  refine ⟨fun h => String.toList_injective ?_, congrArg ofString⟩
  exact map_injective_iff.mpr (fun _ _ => toNat_inj.mp) h

/-- The three floats that have a name of their own in a document. -/
inductive Constant where
  | nan
  | infinity
  | negativeInfinity
  deriving DecidableEq

/-- Finite and infinite floats, with their texts. -/
class PyFloat (φ : Type) where
  /-- `float("nan")`, `float("inf")` and `float("-inf")`. -/
  ofConstant : Constant → φ
  /-- `float.__repr__` of a finite float. -/
  repr : φ → List Char
  /-- `float(...)` of the text of a number that has a fraction or an exponent. -/
  ofText : List Char → φ
  /-- `float(...)` of an integer; `none` is an `OverflowError`. -/
  ofInt : Int → Option φ
  isFinite : φ → Bool
  /-- The value of a finite float. -/
  value : φ → ℚ

variable {σ φ : Type}

/-! ## Objects -/

/-- `d[key]` of an object, by its members. -/
def lookup [DecidableEq σ] (key : σ) : List (σ × Json σ φ) → Option (Json σ φ)
  | [] => none
  | (k, v) :: rest => if k = key then some v else lookup key rest

/-- `d[key] = value`: a key that is there keeps its place. -/
def insertMember [DecidableEq σ] (key : σ) (value : Json σ φ) :
    List (σ × Json σ φ) → List (σ × Json σ φ)
  | [] => [(key, value)]
  | (k, v) :: rest =>
    if k = key then (k, value) :: rest else (k, v) :: insertMember key value rest

/-- `dict(pairs)`. -/
def dictOf [DecidableEq σ] (pairs : List (σ × Json σ φ)) : List (σ × Json σ φ) :=
  pairs.foldl (fun members pair => insertMember pair.1 pair.2 members) []

variable {key : σ} {value : Json σ φ} {members : List (σ × Json σ φ)}

theorem insertMember_of_not_mem [DecidableEq σ] (h : key ∉ members.map Prod.fst) :
    insertMember key value members = members ++ [(key, value)] := by
  induction members with
  | nil => rfl
  | cons member rest ih =>
    obtain ⟨k, v⟩ := member
    rw [map_cons, mem_cons, not_or] at h
    rw [insertMember, if_neg (fun hk => h.1 hk.symm), ih h.2, cons_append]

theorem dictOf_of_nodup [DecidableEq σ] {pairs : List (σ × Json σ φ)}
    (h : (pairs.map Prod.fst).Nodup) : dictOf pairs = pairs := by
  have hfold : ∀ (pairs done : List (σ × Json σ φ)), ((done ++ pairs).map Prod.fst).Nodup →
      pairs.foldl (fun members pair => insertMember pair.1 pair.2 members) done = done ++ pairs := by
    intro pairs
    induction pairs with
    | nil => simp
    | cons pair rest ih =>
      intro done hnodup
      have hnot : pair.1 ∉ done.map Prod.fst := by
        rw [map_append, map_cons, nodup_append] at hnodup
        intro hmem
        exact hnodup.2.2 pair.1 hmem pair.1 mem_cons_self rfl
      rw [foldl_cons, insertMember_of_not_mem hnot, ih, append_assoc,
        singleton_append]
      rwa [append_assoc, singleton_append]
  exact hfold pairs [] h

theorem lookup_of_mem [DecidableEq σ] (hnodup : (members.map Prod.fst).Nodup)
    (h : (key, value) ∈ members) : lookup key members = some value := by
  induction members with
  | nil => cases h
  | cons member rest ih =>
    obtain ⟨k, v⟩ := member
    rw [map_cons, nodup_cons] at hnodup
    rw [lookup]
    rcases mem_cons.mp h with heq | hmem
    · obtain ⟨rfl, rfl⟩ := Prod.mk.inj heq
      rw [if_pos rfl]
    · rw [if_neg, ih hnodup.2 hmem]
      rintro rfl
      exact hnodup.1 (mem_map.mpr ⟨(k, value), hmem, rfl⟩)

theorem mem_of_lookup [DecidableEq σ] (h : lookup key members = some value) :
    (key, value) ∈ members := by
  induction members with
  | nil => cases h
  | cons member rest ih =>
    obtain ⟨k, v⟩ := member
    rw [lookup] at h
    split at h
    · rename_i hk
      cases h
      rw [hk]
      exact mem_cons_self
    · exact mem_cons_of_mem _ (ih h)

/-! ## Sorted keys -/

section Keys

variable [LinearOrder σ]

/-- The members in the order of their keys. -/
def byKey (members : List (σ × Json σ φ)) : List (σ × Json σ φ) :=
  members.insertionSort (fun a b => a.1 ≤ b.1)

mutual

/-- Every object with its members in the order of their keys. -/
def sortKeys : Json σ φ → Json σ φ
  | .null => .null
  | .bool b => .bool b
  | .int n => .int n
  | .float x => .float x
  | .str s => .str s
  | .arr items => .arr (sortItems items)
  | .obj members => .obj (byKey (sortMembers members))

def sortItems : List (Json σ φ) → List (Json σ φ)
  | [] => []
  | item :: rest => sortKeys item :: sortItems rest

def sortMembers : List (σ × Json σ φ) → List (σ × Json σ φ)
  | [] => []
  | (key, value) :: rest => (key, sortKeys value) :: sortMembers rest

end

end Keys

/-! ## Documents -/

/-- `ensure_ascii`. -/
inductive Mode where
  | ascii
  | utf8
  deriving DecidableEq

def hexDigit (n : Nat) : Char := if n < 10 then ofNat (48 + n) else ofNat (87 + n)

/-- A backslash, `u` and four digits. -/
def unicodeEscape (n : Nat) : List Char :=
  ['\\', 'u', hexDigit (n / 4096 % 16), hexDigit (n / 256 % 16), hexDigit (n / 16 % 16),
    hexDigit (n % 16)]

/-- Whether a code unit is written as it is. -/
def Mode.verbatim : Mode → Nat → Bool
  | .ascii, n => 32 ≤ n && n ≤ 126 && n ≠ 34 && n ≠ 92
  | .utf8, n => 32 ≤ n && n ≠ 34 && n ≠ 92

/-- One code unit of a text. -/
def escapeUnit (mode : Mode) (n : Nat) : List Char :=
  if mode.verbatim n then [ofNat n]
  else if n = 34 then ['\\', '"']
  else if n = 92 then ['\\', '\\']
  else if n = 10 then ['\\', 'n']
  else if n = 13 then ['\\', 'r']
  else if n = 9 then ['\\', 't']
  else if n = 12 then ['\\', 'f']
  else if n = 8 then ['\\', 'b']
  else unicodeEscape n

/-- The code units of a code point: two surrogates for one above the basic plane. -/
def Mode.units : Mode → Nat → List Nat
  | .ascii, n =>
    if n < 0x10000 then [n]
    else [0xD800 + (n - 0x10000) / 1024, 0xDC00 + (n - 0x10000) % 1024]
  | .utf8, n => [n]

/-- A text between its quotation marks. -/
def renderText (mode : Mode) (text : PyText) : List Char :=
  '"' :: (text.flatMap mode.units).flatMap (escapeUnit mode) ++ ['"']

/-- `int.__repr__`. -/
def renderInt (n : Int) : List Char :=
  if n < 0 then '-' :: Nat.toDigits 10 n.natAbs else Nat.toDigits 10 n.natAbs

section Render

variable [PyFloat φ]

mutual

def render (mode : Mode) : Json PyText φ → List Char
  | .null => "null".toList
  | .bool true => "true".toList
  | .bool false => "false".toList
  | .int n => renderInt n
  | .float x => PyFloat.repr x
  | .str s => renderText mode s
  | .arr items => '[' :: renderItems mode items
  | .obj members => '\x7b' :: renderMembers mode members

/-- What is behind the opening bracket. -/
def renderItems (mode : Mode) : List (Json PyText φ) → List Char
  | [] => [']']
  | item :: rest => render mode item ++ renderMoreItems mode rest

def renderMoreItems (mode : Mode) : List (Json PyText φ) → List Char
  | [] => [']']
  | item :: rest => ',' :: render mode item ++ renderMoreItems mode rest

/-- What is behind the opening brace. -/
def renderMembers (mode : Mode) : List (PyText × Json PyText φ) → List Char
  | [] => ['\x7d']
  | (key, value) :: rest =>
    renderText mode key ++ ':' :: render mode value ++ renderMoreMembers mode rest

def renderMoreMembers (mode : Mode) : List (PyText × Json PyText φ) → List Char
  | [] => ['\x7d']
  | (key, value) :: rest =>
    ',' :: renderText mode key ++ ':' :: render mode value ++ renderMoreMembers mode rest

end

/-! ## What can be written -/

mutual

/-- Every text satisfies `p` and every float `q`. -/
def Json.all (p : PyText → Bool) (q : φ → Bool) : Json PyText φ → Bool
  | .null => true
  | .bool _ => true
  | .int _ => true
  | .float x => q x
  | .str s => p s
  | .arr items => allItems p q items
  | .obj members => allMembers p q members

def allItems (p : PyText → Bool) (q : φ → Bool) : List (Json PyText φ) → Bool
  | [] => true
  | item :: rest => item.all p q && allItems p q rest

def allMembers (p : PyText → Bool) (q : φ → Bool) : List (PyText × Json PyText φ) → Bool
  | [] => true
  | (key, value) :: rest => p key && value.all p q && allMembers p q rest

end

/-- A code point that is a character. -/
def isScalar (n : Nat) : Bool := n < 0xD800 || (0xDFFF < n && n < 0x110000)

/-- What `str.encode("utf-8")` accepts. -/
def isEncodable (text : PyText) : Bool := text.all isScalar

/--
`json.dumps(value, sort_keys=True, separators=(",", ":"), allow_nan=False)`, encoded.

`none` is an error: a float that is not finite, or a text that UTF-8 cannot encode. An ASCII
document has an escape for everything.
-/
def dumps (mode : Mode) (value : Json PyText φ) : Option (List Char) :=
  if value.all (fun s => mode = .ascii || isEncodable s) PyFloat.isFinite then
    some (render mode (sortKeys value))
  else none

end Render

/-! ## Bytes of a text, and `urlencode` -/

/-- The bytes of a character in UTF-8. -/
def utf8Bytes (n : Nat) : List Nat :=
  if n < 0x80 then [n]
  else if n < 0x800 then [0xC0 + n / 64, 0x80 + n % 64]
  else if n < 0x10000 then [0xE0 + n / 4096, 0x80 + n / 64 % 64, 0x80 + n % 64]
  else [0xF0 + n / 262144, 0x80 + n / 4096 % 64, 0x80 + n / 64 % 64, 0x80 + n % 64]

/-- `text.encode("utf-8")`. -/
def encodeUtf8 (text : PyText) : Option (List Nat) :=
  if isEncodable text then some (text.flatMap utf8Bytes) else none

/-- A digit of a number in base sixteen, in upper case. -/
def upperHexDigit (n : Nat) : Nat := if n < 10 then 48 + n else 55 + n

/-- A byte that `quote_plus` leaves as it is. -/
def isSafeByte (byte : Nat) : Bool :=
  (48 ≤ byte && byte ≤ 57) || (65 ≤ byte && byte ≤ 90) || (97 ≤ byte && byte ≤ 122)
    || byte = 45 || byte = 46 || byte = 95 || byte = 126

/-- `quote_plus` of one byte. -/
def quoteByte (byte : Nat) : PyText :=
  if isSafeByte byte then [byte]
  else if byte = 32 then [43]
  else [37, upperHexDigit (byte / 16), upperHexDigit (byte % 16)]

def quotePlus (text : PyText) : PyText := (text.flatMap utf8Bytes).flatMap quoteByte

/-- `urlencode` of pairs, in their order. -/
def urlencode : List (PyText × PyText) → PyText
  | [] => []
  | [(name, value)] => quotePlus name ++ 61 :: quotePlus value
  | (name, value) :: rest => quotePlus name ++ 61 :: quotePlus value ++ 38 :: urlencode rest

end PyJson
