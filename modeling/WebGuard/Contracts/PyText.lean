import WebGuard.Contracts.Text
import WebGuard.Lib.JsonText
import WebGuard.Lib.UrlParse

/-!
# The texts of loaded documents

A text that comes out of a JSON document can hold a lone surrogate, so the loaders work on lists of
code points. The functions of the other modules work on characters. They are applied to the text
with a noncharacter in the place of each surrogate: neither is white space, a digit, a letter or a
delimiter, neither has another case or a normal form, and IDNA refuses both.
-/

namespace WebGuard

open PyJson UrlParse List Char

/-- A code point as a character, a surrogate as a noncharacter. -/
def asChar (n : Nat) : Char := if isScalar n then ofNat n else ofNat 0xFFFF

/-- The characters of a text. -/
def characters (text : PyText) : List Char := text.map asChar

/-- The code points of some characters. -/
def codePoints (text : List Char) : PyText := text.map toNat

/-- `str.strip()`. -/
def stripText (text : PyText) : PyText :=
  ((text.dropWhile (fun n => isSpace (asChar n))).reverse.dropWhile
    (fun n => isSpace (asChar n))).reverse

/-- Functions on texts that depend on the tables of Unicode. -/
class UnicodeTables where
  /-- `repr` of a text. -/
  quoted : PyText → String
  /-- `str.upper`. -/
  upper : PyText → PyText
  upper_ascii : ∀ text : PyText, (∀ n ∈ text, n < 128) →
    upper text = text.map fun n => if 97 ≤ n ∧ n ≤ 122 then n - 32 else n

variable {n : Nat} {text : PyText}

theorem isScalar_of_asChar (h : asChar n ≠ ofNat 0xFFFF) : isScalar n = true := by
  unfold asChar at h
  split at h
  · assumption
  · exact absurd rfl h

theorem asChar_toNat (c : Char) : asChar c.toNat = c := by
  have hscalar : isScalar c.toNat = true := by
    obtain hlow | ⟨hlow, hhigh⟩ := c.valid
    · have hlow : c.toNat < 0xD800 := hlow
      simp [isScalar, hlow]
    · have hlow : 0xDFFF < c.toNat := hlow
      have hhigh : c.toNat < 0x110000 := hhigh
      simp [isScalar, hlow, hhigh]
  unfold asChar
  rw [if_pos hscalar, ofNat_toNat]

theorem characters_codePoints (text : List Char) : characters (codePoints text) = text := by
  unfold characters codePoints
  rw [map_map]
  calc text.map (asChar ∘ toNat) = text.map id := map_congr_left fun c _ => asChar_toNat c
    _ = text := map_id text

theorem codePoints_characters (h : ∀ n ∈ text, ∃ c : Char, n = c.toNat) :
    codePoints (characters text) = text := by
  unfold codePoints characters
  rw [map_map]
  conv_rhs => rw [← map_id text]
  refine map_congr_left fun n hn => ?_
  obtain ⟨c, rfl⟩ := h n hn
  rw [Function.comp_apply, asChar_toNat, id]

theorem toNat_asChar (n : Nat) : (asChar n).toNat = n ∨ 0xD800 ≤ n ∧ (asChar n).toNat = 0xFFFF := by
  unfold asChar
  by_cases h : isScalar n = true
  · rw [if_pos h]
    exact Or.inl (toNat_ofNat_of_isScalar h)
  · rw [if_neg h]
    simp only [isScalar, Bool.or_eq_true, decide_eq_true_eq, not_or, not_lt] at h
    exact Or.inr ⟨h.1, rfl⟩

theorem asChar_eq_iff {c : Char} (hc : c.toNat < 0xD800) : asChar n = c ↔ n = c.toNat := by
  constructor
  · intro h
    obtain hn | ⟨-, hn⟩ := toNat_asChar n
    · rw [← hn, h]
    · rw [h] at hn
      omega
  · rintro rfl
    exact asChar_toNat c

/-! The characters at which a URL is taken apart. -/

@[simp] theorem asChar_eq_slash : asChar n = '/' ↔ n = 47 := asChar_eq_iff (by decide)

@[simp] theorem asChar_eq_query : asChar n = '?' ↔ n = 63 := asChar_eq_iff (by decide)

@[simp] theorem asChar_eq_hash : asChar n = '#' ↔ n = 35 := asChar_eq_iff (by decide)

@[simp] theorem asChar_eq_tab : asChar n = '\t' ↔ n = 9 := asChar_eq_iff (by decide)

@[simp] theorem asChar_eq_return : asChar n = '\r' ↔ n = 13 := asChar_eq_iff (by decide)

@[simp] theorem asChar_eq_newline : asChar n = '\n' ↔ n = 10 := asChar_eq_iff (by decide)

theorem asChar_lt_iff {bound : Nat} (hbound : bound ≤ 0xD800) :
    (asChar n).toNat < bound ↔ n < bound := by
  obtain hn | ⟨hlow, hn⟩ := toNat_asChar n
  · rw [hn]
  · rw [hn]
    omega

theorem mem_characters_iff {c : Char} (hc : c.toNat < 0xD800) :
    c ∈ characters text ↔ c.toNat ∈ text := by
  unfold characters
  rw [mem_map]
  constructor
  · rintro ⟨n, hn, h⟩
    rwa [← (asChar_eq_iff hc).mp h]
  · intro h
    exact ⟨c.toNat, h, asChar_toNat c⟩

theorem isEncodable_of_characters {p : Char → Bool} (hp : p (ofNat 0xFFFF) = false)
    (h : (characters text).all p = true) : isEncodable text = true := by
  refine all_eq_true.mpr ?_
  intro n hn
  refine isScalar_of_asChar ?_
  intro hchar
  have hall := all_eq_true.mp h (asChar n) (mem_map_of_mem hn)
  rw [hchar, hp] at hall
  cases hall

/-! ## Texts of a report -/

/-- `_required_text` of `scans.py`, and `_text` of `findings.py`. -/
def boundedText (value : PyText) (name : String) (maximum : Nat) : Checked PyText := do
  let cleaned := stripText value
  require (!cleaned.isEmpty && cleaned.length ≤ maximum && !cleaned.contains 0) (name ++ "_invalid")
    (name ++ " is empty, too long, or contains a null byte.")
  return cleaned

variable [StandardLibrary] in
/-- The path of a URL with an authority, as code points. -/
def urlPath (candidate : PyText) (parsed : SplitResult) : PyText :=
  let url := (candidate.dropWhile (· ≤ 32)).filter fun n => n ≠ 9 && n ≠ 10 && n ≠ 13
  (url.drop (parsed.scheme.length + 3 + parsed.netloc.length)).takeWhile fun n => n ≠ 63 && n ≠ 35

end WebGuard
