import Mathlib.Tactic.IntervalCases

/-!
# Base64url without padding

The encoding of RFC 4648 with the characters `-` and `_`, its padding taken off. `b64decode` is what
`base64.b64decode(text, altchars=b"-_", validate=True)` does with a text that was padded to whole
quads: it takes the characters of both alphabets and ignores the bits that a padded quad has too
many, so two texts can have the same bytes. A caller that wants one text for each of them encodes
the bytes again and compares.
-/

namespace Base64

open List

abbrev Bytes := List UInt8

/-- The character of six bits. -/
def digit (n : Nat) : Char :=
  if n < 26 then Char.ofNat (65 + n)
  else if n < 52 then Char.ofNat (71 + n)
  else if n < 62 then Char.ofNat (n - 4)
  else if n = 62 then '-'
  else '_'

/-- The six bits of a character, in either alphabet. -/
def value (c : Char) : Option Nat :=
  if 'A' ≤ c ∧ c ≤ 'Z' then some (c.toNat - 65)
  else if 'a' ≤ c ∧ c ≤ 'z' then some (c.toNat - 71)
  else if '0' ≤ c ∧ c ≤ '9' then some (c.toNat + 4)
  else if c = '-' ∨ c = '+' then some 62
  else if c = '_' ∨ c = '/' then some 63
  else none

/-- `base64.urlsafe_b64encode(value).rstrip(b"=")`. -/
def encode : Bytes → List Char
  | [] => []
  | [a] => [digit (a.toNat / 4), digit (a.toNat % 4 * 16)]
  | [a, b] =>
    [digit (a.toNat / 4), digit (a.toNat % 4 * 16 + b.toNat / 16), digit (b.toNat % 16 * 4)]
  | a :: b :: c :: rest =>
    digit (a.toNat / 4) :: digit (a.toNat % 4 * 16 + b.toNat / 16)
      :: digit (b.toNat % 16 * 4 + c.toNat / 64) :: digit (c.toNat % 64) :: encode rest

/-- `base64.b64decode(text, altchars=b"-_", validate=True)`. -/
def b64decode : List Char → Option Bytes
  | [] => some []
  | [p, q, '=', '='] => do
    let p ← value p
    let q ← value q
    return [UInt8.ofNat (p * 4 + q / 16)]
  | [p, q, r, '='] => do
    let p ← value p
    let q ← value q
    let r ← value r
    return [UInt8.ofNat (p * 4 + q / 16), UInt8.ofNat (q % 16 * 16 + r / 4)]
  | p :: q :: r :: s :: rest => do
    let p ← value p
    let q ← value q
    let r ← value r
    let s ← value s
    let bytes ← b64decode rest
    return UInt8.ofNat (p * 4 + q / 16) :: UInt8.ofNat (q % 16 * 16 + r / 4)
      :: UInt8.ofNat (r % 4 * 64 + s) :: bytes
  | _ => none

/-- The text with the padding that completes its last quad. -/
def pad (text : List Char) : List Char :=
  text ++ replicate ((4 - text.length % 4) % 4) '='

/-- The bytes of a text whose padding was taken off. -/
def decode (text : List Char) : Option Bytes := b64decode (pad text)

/-! ## Round trip -/

theorem value_digit : ∀ n : Nat, n < 64 → value (digit n) = some n := by decide

theorem digit_ne_pad : ∀ n : Nat, n < 64 → digit n ≠ '=' := by decide

theorem pad_quad (p q r s : Char) (rest : List Char) :
    pad (p :: q :: r :: s :: rest) = p :: q :: r :: s :: pad rest := by
  have hlength : (p :: q :: r :: s :: rest).length % 4 = rest.length % 4 := by
    simp only [length_cons]
    omega
  rw [pad, pad, hlength]
  rfl

theorem b64decode_quad {p q r s : Nat} (hp : p < 64) (hq : q < 64) (hr : r < 64) (hs : s < 64)
    (rest : List Char) :
    b64decode (digit p :: digit q :: digit r :: digit s :: rest)
      = (b64decode rest).map fun bytes => UInt8.ofNat (p * 4 + q / 16)
        :: UInt8.ofNat (q % 16 * 16 + r / 4) :: UInt8.ofNat (r % 4 * 64 + s) :: bytes := by
  rw [b64decode.eq_4]
  · rw [value_digit p hp, value_digit q hq, value_digit r hr, value_digit s hs]
    cases b64decode rest with
    | none => rfl
    | some bytes => rfl
  · intro hr' hs' hrest
    exact digit_ne_pad s hs hs'
  · intro hs' hrest
    exact digit_ne_pad s hs hs'

theorem ofNat_eq {n : Nat} {a : UInt8} (h : n = a.toNat) : UInt8.ofNat n = a := by
  rw [h, UInt8.ofNat_toNat]

/-- The bytes of an encoding are the bytes that were encoded. -/
theorem decode_encode : ∀ bytes : Bytes, decode (encode bytes) = some bytes
  | [] => rfl
  | [a] => by
    have ha := a.toNat_lt
    have hpad : ∀ p q : Char, pad [p, q] = [p, q, '=', '='] := fun _ _ => rfl
    rw [encode, decode, hpad, b64decode, value_digit _ (by omega), value_digit _ (by omega)]
    exact congrArg (fun byte => some [byte]) (ofNat_eq (by omega))
  | [a, b] => by
    have ha := a.toNat_lt
    have hb := b.toNat_lt
    have hpad : ∀ p q r : Char, pad [p, q, r] = [p, q, r, '='] := fun _ _ _ => rfl
    have hlast : digit (b.toNat % 16 * 4) ≠ '=' := digit_ne_pad _ (by omega)
    rw [encode, decode, hpad, b64decode.eq_3 _ _ _ hlast, value_digit _ (by omega),
      value_digit _ (by omega), value_digit _ (by omega)]
    exact congrArg₂ (fun first second => some [first, second]) (ofNat_eq (by omega))
      (ofNat_eq (by omega))
  | a :: b :: c :: rest => by
    have ha := a.toNat_lt
    have hb := b.toNat_lt
    have hc := c.toNat_lt
    have ih := decode_encode rest
    rw [encode, decode, pad_quad, b64decode_quad (by omega) (by omega) (by omega) (by omega)]
    rw [decode] at ih
    rw [ih, Option.map_some, ofNat_eq (a := a) (by omega), ofNat_eq (a := b) (by omega),
      ofNat_eq (a := c) (by omega)]

/-- Different bytes have different encodings. -/
theorem encode_inj {bytes others : Bytes} (h : encode bytes = encode others) : bytes = others := by
  have hdecode := decode_encode bytes
  rw [h, decode_encode] at hdecode
  exact (Option.some.inj hdecode).symm

theorem length_encode : ∀ bytes : Bytes, (encode bytes).length = (4 * bytes.length + 2) / 3
  | [] => rfl
  | [_] => by simp [encode]
  | [_, _] => by simp [encode]
  | a :: b :: c :: rest => by
    have ih := length_encode rest
    rw [encode]
    simp only [length_cons, ih]
    omega

theorem digit_ne_dot : ∀ n : Nat, n < 64 → digit n ≠ '.' := by decide

theorem dot_not_mem_encode : ∀ bytes : Bytes, '.' ∉ encode bytes
  | [] => by simp [encode]
  | [a] => by
    have ha := a.toNat_lt
    rw [encode]
    simp only [mem_cons, not_mem_nil, or_false, not_or]
    exact ⟨(digit_ne_dot _ (by omega)).symm, (digit_ne_dot _ (by omega)).symm⟩
  | [a, b] => by
    have ha := a.toNat_lt
    have hb := b.toNat_lt
    rw [encode]
    simp only [mem_cons, not_mem_nil, or_false, not_or]
    exact ⟨(digit_ne_dot _ (by omega)).symm, (digit_ne_dot _ (by omega)).symm,
      (digit_ne_dot _ (by omega)).symm⟩
  | a :: b :: c :: rest => by
    have ha := a.toNat_lt
    have hb := b.toNat_lt
    have hc := c.toNat_lt
    rw [encode]
    simp only [mem_cons, not_or]
    exact ⟨(digit_ne_dot _ (by omega)).symm, (digit_ne_dot _ (by omega)).symm,
      (digit_ne_dot _ (by omega)).symm, (digit_ne_dot _ (by omega)).symm, dot_not_mem_encode rest⟩

theorem encode_ne_nil {bytes : Bytes} (h : bytes ≠ []) : encode bytes ≠ [] := by
  intro hnil
  exact h (encode_inj (hnil.trans rfl))

end Base64
