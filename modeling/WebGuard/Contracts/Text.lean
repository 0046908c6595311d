import WebGuard.Lib.FailingFolds

/-!
# Text fields of the contracts

The field checks that `scan_jobs.py`, `scan_schedules.py` and the other contract modules share.
Each module has its own copy of `_required_text`, `_canonical_uuid`, `_sha256` and so on, equal
up to the first word of the error code. Here `kind` is that word (`"scan_job"`,
`"scan_schedule"`), and each check is written once.

A check answers with the cleaned text, as the source does: `__post_init__` stores what the check
returns, not what it was given.
-/

namespace WebGuard

open Atomic List

/-- A controlled contract failure: the stable code and the message. -/
structure ContractError where
  code : String
  message : String
  deriving DecidableEq

abbrev Checked (α : Type) := Except ContractError α

/-- `raise ...ValidationError(code, message)`. -/
def invalid {α : Type} (code message : String) : Checked α := .error ⟨code, message⟩

/-- `if not condition: raise ...ValidationError(code, message)`. -/
def require (condition : Bool) (code message : String) : Checked Unit :=
  if condition then .ok () else invalid code message

@[simp] theorem require_eq_ok {condition : Bool} {code message : String} {u : Unit} :
    require condition code message = .ok u ↔ condition = true := by
  unfold require invalid
  split <;> simp_all

/-! ## Python text -/

/-- `str.isspace` of one character. -/
def isSpace (c : Char) : Bool :=
  let n := c.toNat
  (9 ≤ n && n ≤ 13) || (28 ≤ n && n ≤ 32) || n == 0x85 || n == 0xA0 || n == 0x1680
    || (0x2000 ≤ n && n ≤ 0x200A) || n == 0x2028 || n == 0x2029 || n == 0x202F || n == 0x205F
    || n == 0x3000

/-- `str.strip()`. -/
def strip (s : String) : String :=
  String.ofList ((s.toList.dropWhile isSpace).reverse.dropWhile isSpace).reverse

theorem trim_eq_self {q : Char → Bool} {l : List Char} (h : ∀ c ∈ l, q c = false) :
    ((l.dropWhile q).reverse.dropWhile q).reverse = l := by
  have hdrop : ∀ l : List Char, (∀ c ∈ l, q c = false) → l.dropWhile q = l := by
    intro l hl
    cases l with
    | nil => rfl
    | cons c rest => rw [dropWhile_cons, hl c (by simp)]; simp
  rw [hdrop l h, hdrop _ (by simpa using h), reverse_reverse]

theorem strip_eq_self {s : String} (h : ∀ c ∈ s.toList, isSpace c = false) : strip s = s := by
  unfold strip
  rw [trim_eq_self h, String.ofList_toList]

/-- The characters `_required_text` refuses. -/
def isControl (c : Char) : Bool := c.toNat < 32 || c.toNat == 127

def isDigit (c : Char) : Bool := '0' ≤ c && c ≤ '9'

def isLower (c : Char) : Bool := 'a' ≤ c && c ≤ 'z'

def isUpper (c : Char) : Bool := 'A' ≤ c && c ≤ 'Z'

def isLowerHex (c : Char) : Bool := isDigit c || ('a' ≤ c && c ≤ 'f')

/--
`str.lower()` of one character, as far as the patterns matched after it can tell.

The Kelvin sign is the only character outside ASCII whose lower case is an ASCII letter by
itself; every other one stays outside the patterns whatever its lower case is.
-/
def toLower (c : Char) : Char :=
  if isUpper c then Char.ofNat (c.toNat + 32) else if c.toNat == 0x212A then 'k' else c

/-! ## `_required_text`, `_optional_text` -/

def requiredText (kind value fieldName : String) (maximum : Nat) : Checked String :=
  let cleaned := strip value
  if cleaned.toList.isEmpty || maximum < cleaned.toList.length then
    invalid (kind ++ "_text_invalid")
      (fieldName ++ " must contain 1 to " ++ toString maximum ++ " characters.")
  else if cleaned.toList.any isControl then
    invalid (kind ++ "_text_control_character") (fieldName ++ " cannot contain control characters.")
  else .ok cleaned

variable {kind value fieldName : String} {c : Char} {v : Option String}

theorem requiredText_eq_ok {cleaned : String} {maximum : Nat} :
    requiredText kind value fieldName maximum = .ok cleaned ↔
      cleaned = strip value ∧ (strip value).toList.isEmpty = false ∧
        (strip value).toList.length ≤ maximum ∧ (strip value).toList.any isControl = false := by
  unfold requiredText
  simp only []
  split
  · next h =>
    have : ¬ ((strip value).toList.isEmpty = false ∧ (strip value).toList.length ≤ maximum) := by
      rintro ⟨hne, hle⟩
      simp [hne] at h
      omega
    simp only [invalid, reduceCtorEq, false_iff]
    rintro ⟨-, hne, hle, -⟩
    exact this ⟨hne, hle⟩
  · next h =>
    simp only [Bool.or_eq_true, decide_eq_true_eq, not_or, Nat.not_lt, Bool.not_eq_true] at h
    split
    · next hc => simp [invalid, hc]
    · next hc => simp [h.1, h.2, hc, eq_comm]

def optionalText (kind : String) (value : Option String) (fieldName : String) (maximum : Nat) :
    Checked (Option String) :=
  match value with
  | none => .ok none
  | some v => (requiredText kind v fieldName maximum).map some

/-! ## `_canonical_uuid` -/

/-- The notation `str(uuid.UUID(...))` produces: lower-case hexadecimal in groups 8-4-4-4-12. -/
def isCanonicalUuid (value : String) : Bool :=
  let groups := value.toList.splitOn '-'
  groups.map length == [8, 4, 4, 4, 12] && groups.all (·.all isLowerHex)

/-- `str.replace(pattern, "")`. The number bounds the characters still to be read. -/
def removeText (pattern : List Char) : Nat → List Char → List Char
  | 0, l => l
  | _ + 1, [] => []
  | n + 1, c :: rest =>
    if pattern.isPrefixOf (c :: rest) then removeText pattern n ((c :: rest).drop pattern.length)
    else c :: removeText pattern n rest

/--
Whether `uuid.UUID(value)` parses.

It drops `urn:` and `uuid:`, the braces at both ends and every hyphen, and then wants 32
hexadecimal digits. `int(hex, 16)` also reads signs, underscores and digits of other scripts;
such a text is refused here with the other code, and refused in both.
-/
def parsesAsUuid (value : String) : Bool :=
  let brace := fun c : Char => c.toNat == 0x7B || c.toNat == 0x7D
  let bare := removeText "uuid:".toList value.toList.length
    (removeText "urn:".toList value.toList.length value.toList)
  let digits := (((bare.dropWhile brace).reverse.dropWhile brace).reverse).filter (· != '-')
  digits.length == 32 && digits.all (fun c => isLowerHex c || ('A' ≤ c && c ≤ 'F'))

def canonicalUuid (kind value fieldName : String) : Checked String :=
  if isCanonicalUuid value then .ok value
  else if parsesAsUuid value then
    invalid (kind ++ "_uuid_non_canonical")
      (fieldName ++ " must use canonical lower-case UUID notation.")
  else invalid (kind ++ "_uuid_invalid") (fieldName ++ " must be a canonical UUID string.")

theorem canonicalUuid_eq_ok {c : String} :
    canonicalUuid kind value fieldName = .ok c ↔ c = value ∧ isCanonicalUuid value = true := by
  unfold canonicalUuid
  split
  · next hv => simp [hv, eq_comm]
  · next hv => split <;> simp [invalid, hv]

/-! ## `_sha256` -/

/-- `^[0-9a-f]{64}$`, matched in full. -/
def isSha256 (value : String) : Bool :=
  value.toList.length == 64 && value.toList.all isLowerHex

def sha256 (kind value fieldName : String) : Checked String := do
  require (isSha256 value) (kind ++ "_sha256_invalid")
    (fieldName ++ " must be a lower-case SHA-256 hexadecimal digest.")
  return value

theorem sha256_eq_ok {c : String} :
    sha256 kind value fieldName = .ok c ↔ c = value ∧ isSha256 value = true := by
  unfold sha256
  cases h : isSha256 value with
  | false => simp [require, invalid, bind, Except.bind]
  | true => simp [require, bind, Except.bind, pure, Except.pure, eq_comm]

/-! ## `_idempotency_key` -/

/-- `[A-Za-z0-9._:-]`, the characters of an idempotency key. -/
def isKeyCharacter (c : Char) : Bool :=
  isLower c || isUpper c || isDigit c || c == '.' || c == '_' || c == ':' || c == '-'

/-- Eight characters or more, `[A-Za-z0-9][A-Za-z0-9._:-]*` matched in full. -/
def idempotencyKeyShape (l : List Char) : Bool :=
  8 ≤ l.length && l.all isKeyCharacter
    && (l.head?.any fun c => isLower c || isUpper c || isDigit c)

def idempotencyKey (value : String) : Checked String := do
  let cleaned ← requiredText "scan_job" value "idempotency_key" 128
  require (idempotencyKeyShape cleaned.toList) "scan_job_idempotency_key_invalid"
    ("idempotency_key must contain 8 to 128 letters, digits, dots, "
      ++ "underscores, colons, or hyphens.")
  return cleaned

theorem range_of_isKeyCharacter (h : isKeyCharacter c = true) : 45 ≤ c.toNat ∧ c.toNat ≤ 122 := by
  simp only [isKeyCharacter, isLower, isUpper, isDigit, Bool.or_eq_true, Bool.and_eq_true,
    decide_eq_true_eq, beq_iff_eq, Char.le_def, UInt32.le_iff_toNat_le] at h
  rcases h with (((((h | h) | h) | rfl) | rfl) | rfl) | rfl
  · exact ⟨Nat.le_trans (by decide) h.1, Nat.le_trans h.2 (by decide)⟩
  · exact ⟨Nat.le_trans (by decide) h.1, Nat.le_trans h.2 (by decide)⟩
  · exact ⟨Nat.le_trans (by decide) h.1, Nat.le_trans h.2 (by decide)⟩
  all_goals decide

theorem not_isSpace_of_isKeyCharacter (h : isKeyCharacter c = true) : isSpace c = false := by
  have hrange := range_of_isKeyCharacter h
  unfold isSpace
  simp only [Bool.or_eq_false_iff, Bool.and_eq_false_iff, decide_eq_false_iff_not,
    beq_eq_false_iff_ne]
  omega

theorem idempotencyKey_of_shape {key : String} (hshape : idempotencyKeyShape key.toList = true)
    (hlength : key.toList.length ≤ 128) : idempotencyKey key = .ok key := by
  have hchars := hshape
  unfold idempotencyKeyShape at hchars
  rw [Bool.and_eq_true, Bool.and_eq_true, all_eq_true, decide_eq_true_eq] at hchars
  have hstrip : strip key = key :=
    strip_eq_self fun c hc => not_isSpace_of_isKeyCharacter (hchars.1.2 c hc)
  have htext : requiredText "scan_job" key "idempotency_key" 128 = .ok key := by
    rw [requiredText_eq_ok, hstrip]
    refine ⟨rfl, ?_, hlength, ?_⟩
    · rw [isEmpty_eq_false_iff]
      intro hnil
      rw [hnil] at hchars
      exact absurd hchars.1.1 (by decide)
    · rw [any_eq_false]
      intro c hc
      have hrange := range_of_isKeyCharacter (hchars.1.2 c hc)
      unfold isControl
      simp only [Bool.or_eq_true, decide_eq_true_eq, beq_iff_eq]
      omega
  unfold idempotencyKey
  rw [htext]
  simp [require, hshape, bind, Except.bind, pure, Except.pure]

theorem idempotencyKey_of_ok {key : String} (h : idempotencyKey value = .ok key) :
    idempotencyKey key = .ok key := by
  unfold idempotencyKey at h
  obtain ⟨cleaned, hclean, h⟩ := bind_ok h
  obtain ⟨_, hshape, h⟩ := bind_ok h
  cases h
  rw [requiredText_eq_ok] at hclean
  refine idempotencyKey_of_shape (require_eq_ok.mp hshape) ?_
  rw [hclean.1]
  exact hclean.2.2.1

theorem isKeyCharacter_of_isLowerHex (h : isLowerHex c = true) : isKeyCharacter c = true := by
  unfold isLowerHex at h
  unfold isKeyCharacter isLower
  rw [Bool.or_eq_true, Bool.and_eq_true, decide_eq_true_eq, decide_eq_true_eq] at h
  rcases h with h | ⟨hlow, hhigh⟩
  · simp [h]
  · have hz : c ≤ 'z' := Char.le_trans hhigh (by decide)
    simp [hlow, hz]

theorem isCanonicalUuid_spec (h : isCanonicalUuid value = true) :
    value.toList.length = 36 ∧ ∀ c ∈ value.toList, isKeyCharacter c = true := by
  unfold isCanonicalUuid at h
  simp only [Bool.and_eq_true, beq_iff_eq, all_eq_true] at h
  obtain ⟨hlengths, hhex⟩ := h
  have hjoin : intercalate ['-'] (value.toList.splitOn '-') = value.toList :=
    intercalate_splitOn '-'
  generalize value.toList.splitOn '-' = groups at hlengths hhex hjoin
  obtain ⟨g₁, groups₁, rfl, h₁, hlengths⟩ := map_eq_cons_iff.mp hlengths
  obtain ⟨g₂, groups₂, rfl, h₂, hlengths⟩ := map_eq_cons_iff.mp hlengths
  obtain ⟨g₃, groups₃, rfl, h₃, hlengths⟩ := map_eq_cons_iff.mp hlengths
  obtain ⟨g₄, groups₄, rfl, h₄, hlengths⟩ := map_eq_cons_iff.mp hlengths
  obtain ⟨g₅, groups₅, rfl, h₅, hlengths⟩ := map_eq_cons_iff.mp hlengths
  rw [map_eq_nil_iff] at hlengths
  subst hlengths
  rw [← hjoin]
  have hkey : ∀ g ∈ [g₁, g₂, g₃, g₄, g₅], ∀ c ∈ g, isKeyCharacter c = true :=
    fun g hg c hc => isKeyCharacter_of_isLowerHex (hhex g hg c hc)
  constructor
  · simp [intercalate, h₁, h₂, h₃, h₄, h₅]
  · intro c hc
    simp only [intercalate, intersperse, flatten_cons, flatten_nil,
      mem_append, mem_singleton, not_mem_nil, or_false] at hc
    rcases hc with hc | rfl | hc | rfl | hc | rfl | hc | rfl | hc
    · exact hkey g₁ (by simp) c hc
    · decide
    · exact hkey g₂ (by simp) c hc
    · decide
    · exact hkey g₃ (by simp) c hc
    · decide
    · exact hkey g₄ (by simp) c hc
    · decide
    · exact hkey g₅ (by simp) c hc

/-! ## `_error_code` -/

/--
`[a-z0-9]+(?:[._-][a-z0-9]+)*`, matched in full.

The flag says whether a separator may come next, which is also when the text may end.
-/
def errorCodeShape : Bool → List Char → Bool
  | afterAlnum, [] => afterAlnum
  | afterAlnum, c :: rest =>
    if isLower c || isDigit c then errorCodeShape true rest
    else afterAlnum && (c == '.' || c == '_' || c == '-') && errorCodeShape false rest

def errorCode (kind : String) (value : Option String) (fieldName : String) :
    Checked (Option String) :=
  match value with
  | none => .ok none
  | some v => do
    let cleaned ← requiredText kind v fieldName 128
    let lowered := String.ofList (cleaned.toList.map toLower)
    require (errorCodeShape false lowered.toList) (kind ++ "_error_code_invalid")
      (fieldName ++ " must use a canonical lower-case identifier.")
    return some lowered

/-! ## `_artifact_reference` -/

/-- The components `PurePosixPath` keeps: neither empty nor a single dot. -/
def posixParts (path : List Char) : List (List Char) :=
  (path.splitOn '/').filter (fun part => part != [] && part != ['.'])

def artifactReference (kind value fieldName : String) : Checked String := do
  let cleaned ← requiredText kind value fieldName 512
  require (cleaned.toList.all (· != '\\')) (kind ++ "_artifact_reference_invalid")
    (fieldName ++ " must use POSIX separators.")
  require (cleaned.toList.head? != some '/' && (posixParts cleaned.toList).all (· != ['.', '.']))
    (kind ++ "_artifact_reference_invalid")
    (fieldName ++ " must be a safe relative artifact reference.")
  -- `as_posix` of a path without parts is a single dot.
  if posixParts cleaned.toList == [] then return "."
  return String.ofList (intercalate ['/'] (posixParts cleaned.toList))

/-! ## Optional fields -/

variable {c : Option String} {f : String → Checked String}

theorem isSome_of_mapM (h : v.mapM f = .ok c) :
    c.isSome = v.isSome := by
  cases v with
  | none => cases h; rfl
  | some x =>
    obtain ⟨y, -, h⟩ := bind_ok h
    cases h
    rfl

theorem isSome_of_errorCode (h : errorCode kind v fieldName = .ok c) :
    c.isSome = v.isSome := by
  cases v with
  | none => cases h; rfl
  | some x =>
    obtain ⟨y, -, h⟩ := bind_ok h
    obtain ⟨_, -, h⟩ := bind_ok h
    cases h
    rfl

theorem isSome_of_optionalText {maximum : Nat} (h : optionalText kind v fieldName maximum = .ok c) :
    c.isSome = v.isSome := by
  cases v with
  | none => cases h; rfl
  | some x =>
    unfold optionalText at h
    cases hx : requiredText kind x fieldName maximum with
    | error e => simp [hx, Except.map] at h
    | ok y =>
      simp only [hx, Except.map] at h
      cases h
      rfl

theorem mapM_isOk :
    (∃ c, v.mapM f = .ok c) ↔ ∀ x, v = some x → ∃ c, f x = .ok c := by
  cases v with
  | none => simp [pure, Except.pure]
  | some x =>
    constructor
    · rintro ⟨c, h⟩ y hy
      cases hy
      obtain ⟨z, hz, -⟩ := bind_ok h
      exact ⟨z, hz⟩
    · intro h
      obtain ⟨c, hc⟩ := h x rfl
      exact ⟨some c, bind_ok_iff.mpr ⟨c, hc, rfl⟩⟩

end WebGuard
