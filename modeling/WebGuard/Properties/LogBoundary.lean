import WebGuard.Api.StructuredLogging
import WebGuard.Contracts.PermitDocuments
import WebGuard.Lib.JsonLine
import WebGuard.Properties.Cursors
import WebGuard.Properties.FindingIdentity

/-!
# The output boundary of the log

A line of the structured log is one JSON object of allow-listed fields whose texts are tokens,
unless a pattern lets a text through that is no token: one that ends in a line feed, which `$` does
not see, or the name of a frame that belongs to no function.
-/

namespace WebGuard.StructuredLogging

open PyJson List Mapping
open FindingContract (LowerTable)
open Pagination (Interpreter plainHooks keepsPairs_plainHooks)

/-! ## Texts -/

variable {n : Nat} {value : PyText}

theorem isTokenCharacter_of_isNameCharacter (h : isNameCharacter n = true) :
    isTokenCharacter n = true := by
  simp [isTokenCharacter, h]

theorem isNameCharacter_of_isNameStart (h : isNameStart n = true) : isNameCharacter n = true := by
  simp [isNameCharacter, h]

theorem isTokenCharacter_lt (h : isTokenCharacter n = true) : n < 128 := by
  simp only [isTokenCharacter, isNameCharacter, isNameStart, isLowerLetter, Bool.or_eq_true,
    Bool.and_eq_true, decide_eq_true_eq, beq_iff_eq] at h
  omega

theorem all_of_dottedFrom {start : Bool} (h : dottedFrom start value = true) :
    value.all isTokenCharacter = true := by
  induction value generalizing start with
  | nil => rfl
  | cons c rest ih =>
    rw [all_cons, Bool.and_eq_true]
    rw [dottedFrom] at h
    split at h
    · rw [Bool.and_eq_true] at h
      exact ⟨isTokenCharacter_of_isNameCharacter (isNameCharacter_of_isNameStart h.1), ih h.2⟩
    · split at h
      · rename_i hdot
        rw [beq_iff_eq] at hdot
        exact ⟨by rw [hdot]; rfl, ih h⟩
      · rw [Bool.and_eq_true] at h
        exact ⟨isTokenCharacter_of_isNameCharacter h.1, ih h.2⟩

theorem ne_nil_of_dottedFrom (h : dottedFrom true value = true) : value ≠ [] := by
  rintro rfl
  cases h

theorem all_of_isName (h : isName value = true) :
    value ≠ [] ∧ value.all isTokenCharacter = true := by
  cases value with
  | nil => cases h
  | cons c rest =>
    rw [isName, Bool.and_eq_true] at h
    refine ⟨cons_ne_nil c rest, ?_⟩
    rw [all_cons, Bool.and_eq_true, all_eq_true]
    refine ⟨isTokenCharacter_of_isNameCharacter (isNameCharacter_of_isNameStart h.1), ?_⟩
    intro n hn
    exact isTokenCharacter_of_isNameCharacter (all_eq_true.mp h.2 n hn)

theorem not_isToken_of_line_feed (h : value.getLast? = some 10) : isToken value = false := by
  have hmem : 10 ∈ value := mem_of_getLast? h
  have hall : value.all isTokenCharacter = false := by
    rw [all_eq_false]
    exact ⟨10, hmem, by decide⟩
  rw [isToken, hall, Bool.and_false]

/-- A line feed at the end is all that a line match lets through. -/
theorem isToken_iff_of_matchLine {body : PyText → Bool}
    (hbody : ∀ value, body value = true → value ≠ [] ∧ value.all isTokenCharacter = true)
    (hmatch : matchLine body value = true) (hlength : value.length ≤ 200) :
    isToken value = true ↔ value.getLast? ≠ some 10 := by
  constructor
  · intro htoken hlast
    rw [not_isToken_of_line_feed hlast] at htoken
    cases htoken
  · intro hlast
    simp only [matchLine, Bool.or_eq_true, Bool.and_eq_true, beq_iff_eq] at hmatch
    obtain hvalue | ⟨hnewline, -⟩ := hmatch
    · obtain ⟨hne, hall⟩ := hbody value hvalue
      have hpos : 1 ≤ value.length := length_pos_of_ne_nil hne
      simp [isToken, hpos, hlength, hall]
    · exact absurd hnewline hlast

theorem all_of_isToken (h : isToken value = true) :
    value ≠ [] ∧ value.all isTokenCharacter = true := by
  simp only [isToken, Bool.and_eq_true, decide_eq_true_eq] at h
  exact ⟨ne_nil_of_length_pos h.1.1, h.2⟩

/-- So a safe token is a token unless it ends with a line feed. -/
theorem isToken_iff_of_safeToken (h : safeToken value = true) :
    isToken value = true ↔ value.getLast? ≠ some 10 := by
  constructor
  · intro htoken hlast
    rw [not_isToken_of_line_feed hlast] at htoken
    cases htoken
  · intro hlast
    simp only [safeToken, matchLine, Bool.or_eq_true, Bool.and_eq_true, beq_iff_eq] at h
    exact h.resolve_right fun hnewline => hlast hnewline.1

theorem mem_of_isFrameName (h : isFrameName value = true) : 60 ∈ value := by
  cases value with
  | nil => cases h
  | cons c rest =>
    simp only [isFrameName, Bool.and_eq_true, beq_iff_eq] at h
    rw [h.1.1.1]
    exact mem_cons_self

theorem not_isToken_of_isFrameName (h : isFrameName value = true) : isToken value = false := by
  have hall : value.all isTokenCharacter = false := by
    rw [all_eq_false]
    exact ⟨60, mem_of_isFrameName h, by decide⟩
  rw [isToken, hall, Bool.and_false]

/-- The name of a function may also be that of a frame. -/
theorem isToken_iff_of_functionName (h : functionName value = true) (hlength : value.length ≤ 200) :
    isToken value = true ↔ value.getLast? ≠ some 10 ∧ isFrameName value = false := by
  constructor
  · intro htoken
    refine ⟨fun hlast => ?_, ?_⟩
    · rw [not_isToken_of_line_feed hlast] at htoken
      cases htoken
    · by_contra hframe
      rw [not_isToken_of_isFrameName (by simpa using hframe)] at htoken
      cases htoken
  · rintro ⟨hlast, hframe⟩
    have hname : matchLine isName value = true := by
      simp only [functionName, matchLine, Bool.or_eq_true, Bool.and_eq_true, beq_iff_eq] at h ⊢
      obtain (hvalue | hvalue) | hnewline := h
      · rw [hframe] at hvalue
        cases hvalue
      · exact Or.inl hvalue
      · exact absurd hnewline.1 hlast
    exact (isToken_iff_of_matchLine (fun _ => all_of_isName) hname hlength).mpr hlast

/-! ## Plain texts -/

/-- Every code point is ASCII. -/
def isPlain (value : PyText) : Bool := value.all (· < 128)

theorem isPlain_of_all (h : value.all isTokenCharacter = true) : isPlain value = true := by
  refine all_eq_true.mpr fun n hn => ?_
  exact decide_eq_true (isTokenCharacter_lt (all_eq_true.mp h n hn))

theorem isPlain_append {behind : PyText} :
    isPlain (value ++ behind) = true ↔ isPlain value = true ∧ isPlain behind = true := by
  rw [isPlain, all_append, Bool.and_eq_true]
  rfl

theorem isPlain_of_getLast (hlast : value.getLast? = some n) (hn : n < 128)
    (h : isPlain value.dropLast = true) : isPlain value = true := by
  rw [← dropLast_append_getLast? n hlast, isPlain_append]
  exact ⟨h, by simp [isPlain, hn]⟩

theorem isPlain_of_isFrameName (h : isFrameName value = true) : isPlain value = true := by
  cases value with
  | nil => rfl
  | cons c rest =>
    simp only [isFrameName, Bool.and_eq_true, beq_iff_eq] at h
    obtain ⟨⟨⟨hc, -⟩, hlast⟩, hbody⟩ := h
    have hrest : isPlain rest = true := by
      refine isPlain_of_getLast hlast (by decide) ?_
      refine all_eq_true.mpr fun n hn => ?_
      have hletter := all_eq_true.mp hbody n hn
      simp only [isLowerLetter, Bool.and_eq_true, decide_eq_true_eq] at hletter ⊢
      omega
    rw [← singleton_append, isPlain_append]
    exact ⟨by rw [hc]; rfl, hrest⟩

theorem isPlain_of_matchLine {body : PyText → Bool}
    (hbody : ∀ value, body value = true → isPlain value = true) (h : matchLine body value = true) :
    isPlain value = true := by
  simp only [matchLine, Bool.or_eq_true, Bool.and_eq_true, beq_iff_eq] at h
  obtain hvalue | ⟨hlast, hvalue⟩ := h
  · exact hbody value hvalue
  · exact isPlain_of_getLast hlast (by decide) (hbody _ hvalue)

theorem isEncodable_of_isPlain (h : isPlain value = true) : isEncodable value = true := by
  refine all_eq_true.mpr fun n hn => ?_
  have hlt : n < 128 := of_decide_eq_true (all_eq_true.mp h n hn)
  simp only [isScalar, Bool.or_eq_true, decide_eq_true_eq]
  exact Or.inl (by omega)

/-! ## Fields -/

section Fields

variable {φ : Type}

/-- The fields that `_validate_field` knows. -/
def checkedFields : List PyText :=
  stringFields ++ identifierFields ++ [ofString "source_function", ofString "http_method"]
    ++ intFields.map Prod.fst ++ numericFields.map Prod.fst

/-- Every field that a line can have. -/
def allowedFields : List PyText := reservedFields ++ checkedFields

variable {key text level event : PyText} {bounds : Int × Int} {validated : FieldValue φ}
  {rest entries : List (Key × FieldValue φ)} {item : PyText × FieldValue φ} {payload : Payload φ}
  {raw : Mapping Key (FieldValue φ)} {record : LogRecord φ} {service : Option PyText} {now : Nat}
  {fields : Mapping PyText (FieldValue φ)}

theorem not_mem_reservedFields (h : key ∈ checkedFields) : key ∉ reservedFields := by
  have hdisjoint : (checkedFields.all fun name => !reservedFields.contains name) = true := by decide
  have hkey := all_eq_true.mp hdisjoint key h
  simpa using hkey

/-- The pattern of a field accepts a text. -/
def Accepts (key text : PyText) : Prop :=
  key ∈ stringFields ∧ safeToken text = true
    ∨ key ∈ identifierFields ∧ dottedIdentifier text = true ∧ text.length ≤ 200
    ∨ key = ofString "source_function" ∧ functionName text = true ∧ text.length ≤ 200

/-- A value that the pattern of its field accepts and that is no token all the same. -/
def Stray (key : PyText) (value : FieldValue φ) : Prop :=
  ∃ text, value = .str text ∧ Accepts key text
    ∧ (text.getLast? = some 10 ∨ key = ofString "source_function" ∧ isFrameName text = true)

/-- The texts that are accepted and are no tokens. -/
theorem stray_str_iff : Stray (φ := φ) key (.str text) ↔ Accepts key text
    ∧ (text.getLast? = some 10 ∨ key = ofString "source_function" ∧ isFrameName text = true) := by
  constructor
  · rintro ⟨other, hother, haccepts, hstray⟩
    cases hother
    exact ⟨haccepts, hstray⟩
  · rintro ⟨haccepts, hstray⟩
    exact ⟨text, rfl, haccepts, hstray⟩

/-- Each field has one kind. -/
theorem key_kinds :
    (∀ key ∈ identifierFields, key ∉ stringFields)
      ∧ ofString "source_function" ∉ stringFields ++ identifierFields
      ∧ ofString "http_method" ∉ stringFields ++ identifierFields ++ [ofString "source_function"]
    := by
  refine ⟨?_, by decide, by decide⟩
  have hall : (identifierFields.all fun key => !stringFields.contains key) = true := by decide
  intro key hkey
  simpa using all_eq_true.mp hall key hkey

variable [PyFloat φ]

/-- What a field that is kept holds: a plain text, a number in range, or an object. -/
def FieldValue.IsFine : FieldValue φ → Prop
  | .bool _ => False
  | .int n => 0 ≤ n ∧ n ≤ 86400000
  | .float x => PyFloat.isFinite x = true
  | .str text => isPlain text = true
  | .object _ => True

/-- What is known of a field that is kept. -/
structure Kept (key : PyText) (value : FieldValue φ) : Prop where
  listed : key ∈ checkedFields
  fine : value.IsFine
  token : ∀ text, value = .str text → (isToken text = true ↔ ¬ Stray key value)

theorem mem_checkedFields
    (h : key ∈ stringFields ∨ key ∈ identifierFields ∨ key = ofString "source_function"
      ∨ key = ofString "http_method" ∨ key ∈ intFields.map Prod.fst
      ∨ key ∈ numericFields.map Prod.fst) :
    key ∈ checkedFields := by
  unfold checkedFields
  simp only [mem_append]
  rcases h with h | h | h | h | h | h
  · exact Or.inl (Or.inl (Or.inl (Or.inl h)))
  · exact Or.inl (Or.inl (Or.inl (Or.inr h)))
  · exact Or.inl (Or.inl (Or.inr (h ▸ mem_cons_self)))
  · exact Or.inl (Or.inl (Or.inr (h ▸ mem_cons_of_mem _ mem_cons_self)))
  · exact Or.inl (Or.inr h)
  · exact Or.inr h

theorem kept_of_accepts (h : Accepts key text) : Kept (φ := φ) key (.str text) := by
  obtain ⟨hidentifiers, hfunction, -⟩ := key_kinds
  rw [mem_append, not_or] at hfunction
  obtain ⟨hkey, hmatch⟩ | ⟨hkey, hmatch, hlength⟩ | ⟨hkey, hmatch, hlength⟩ := id h
  · have hne : key ≠ ofString "source_function" := fun heq => hfunction.1 (heq ▸ hkey)
    refine ⟨mem_checkedFields (Or.inl hkey), ?_, ?_⟩
    · exact isPlain_of_matchLine (fun _ htoken => isPlain_of_all (all_of_isToken htoken).2) hmatch
    · rintro _ ⟨⟩
      rw [stray_str_iff, isToken_iff_of_safeToken hmatch]
      simp [h, hne]
  · have hne : key ≠ ofString "source_function" := fun heq => hfunction.2 (heq ▸ hkey)
    refine ⟨mem_checkedFields (Or.inr (Or.inl hkey)), ?_, ?_⟩
    · exact isPlain_of_matchLine (fun _ hname => isPlain_of_all (all_of_dottedFrom hname)) hmatch
    · rintro _ ⟨⟩
      rw [stray_str_iff, isToken_iff_of_matchLine
        (fun _ hname => ⟨ne_nil_of_dottedFrom hname, all_of_dottedFrom hname⟩) hmatch hlength]
      simp [h, hne]
  · subst hkey
    refine ⟨mem_checkedFields (Or.inr (Or.inr (Or.inl rfl))), ?_, ?_⟩
    · refine isPlain_of_matchLine (fun value hname => ?_) hmatch
      rw [Bool.or_eq_true] at hname
      obtain hframe | hname := hname
      · exact isPlain_of_isFrameName hframe
      · exact isPlain_of_all (all_of_isName hname).2
    · rintro _ ⟨⟩
      rw [stray_str_iff, isToken_iff_of_functionName hmatch hlength]
      simp [h]

theorem kept_of_not_str {value : FieldValue φ} (hkey : key ∈ checkedFields) (hfine : value.IsFine)
    (h : ∀ text, value ≠ .str text) : Kept key value :=
  ⟨hkey, hfine, fun text htext => absurd htext (h text)⟩

theorem kept_of_method (h : text ∈ httpMethods) :
    Kept (φ := φ) (ofString "http_method") (.str text) := by
  have hall : (httpMethods.all fun name => isToken name) = true := by decide
  have htoken : isToken text = true := all_eq_true.mp hall text h
  have hmethod := key_kinds.2.2
  rw [mem_append, mem_append, not_or, not_or] at hmethod
  refine ⟨mem_checkedFields (Or.inr (Or.inr (Or.inr (Or.inl rfl)))),
    isPlain_of_all (all_of_isToken htoken).2, ?_⟩
  rintro _ ⟨⟩
  rw [stray_str_iff]
  refine iff_of_true htoken ?_
  rintro ⟨hstring | hidentifier | hfunction, -⟩
  · exact hmethod.1.1 hstring.1
  · exact hmethod.1.2 hidentifier.1
  · exact hmethod.2 (by rw [hfunction.1]; exact mem_singleton_self _)

theorem mem_of_lookup_eq {fields : List (PyText × Int × Int)}
    (h : fields.lookup key = some bounds) : (key, bounds) ∈ fields := by
  induction fields with
  | nil => cases h
  | cons field rest ih =>
    obtain ⟨name, limits⟩ := field
    rw [lookup_cons] at h
    split at h
    · rename_i hkey
      rw [beq_iff_eq] at hkey
      cases h
      rw [hkey]
      exact mem_cons_self
    · exact mem_cons_of_mem _ (ih h)

theorem bounds_range (h : (key, bounds) ∈ intFields ++ numericFields) :
    0 ≤ bounds.1 ∧ bounds.2 ≤ 86400000 := by
  have hall : ((intFields ++ numericFields).all
      fun field => 0 ≤ field.2.1 && field.2.2 ≤ 86400000) = true := by decide
  simpa using all_eq_true.mp hall (key, bounds) h

theorem validateBoundedInt_eq_some {value : FieldValue φ}
    (hbounds : 0 ≤ bounds.1 ∧ bounds.2 ≤ 86400000)
    (h : validateBoundedInt bounds value = some validated) :
    validated = value ∧ value.IsFine ∧ ∀ text, value ≠ .str text := by
  cases value with
  | int n =>
    rw [validateBoundedInt] at h
    split at h
    · rename_i hrange
      cases h
      exact ⟨rfl, ⟨by omega, by omega⟩, nofun⟩
    · cases h
  | _ => cases h

theorem validateBoundedNumber_eq_some {value : FieldValue φ}
    (hbounds : 0 ≤ bounds.1 ∧ bounds.2 ≤ 86400000)
    (h : validateBoundedNumber bounds value = some validated) :
    validated = value ∧ value.IsFine ∧ ∀ text, value ≠ .str text := by
  cases value with
  | int n => exact validateBoundedInt_eq_some hbounds h
  | float x =>
    rw [validateBoundedNumber] at h
    split at h
    · rename_i hrange
      cases h
      exact ⟨rfl, hrange.1, nofun⟩
    · cases h
  | _ => cases h

/-- A field that is kept is written as it was given. -/
theorem validateField_eq_some {key : PyText} {value validated : FieldValue φ}
    (h : validateField key value = .ok (some validated)) : validated = value ∧ Kept key value := by
  unfold validateField at h
  split_ifs at h with hstring hidentifier hfunction hmethod
  · cases value with
    | str text =>
      rw [validateString, Except.ok.injEq] at h
      split at h
      · rename_i hmatch
        cases h
        exact ⟨rfl, kept_of_accepts (Or.inl ⟨hstring, hmatch⟩)⟩
      · cases h
    | _ => cases h
  · cases value with
    | str text =>
      rw [validateIdentifier, Except.ok.injEq] at h
      split at h
      · rename_i hmatch
        rw [Bool.and_eq_true, decide_eq_true_eq] at hmatch
        cases h
        exact ⟨rfl, kept_of_accepts (Or.inr (Or.inl ⟨hidentifier, hmatch⟩))⟩
      · cases h
    | _ => cases h
  · cases value with
    | str text =>
      rw [validateFunction, Except.ok.injEq] at h
      split at h
      · rename_i hmatch
        rw [Bool.and_eq_true, decide_eq_true_eq] at hmatch
        cases h
        exact ⟨rfl, kept_of_accepts (Or.inr (Or.inr ⟨hfunction, hmatch⟩))⟩
      · cases h
    | _ => cases h
  · cases hisIn : value.isIn httpMethods with
    | error e =>
      rw [hisIn] at h
      cases h
    | ok known =>
      rw [hisIn] at h
      dsimp only at h
      split at h
      · rename_i hknown
        cases h
        refine ⟨rfl, ?_⟩
        rw [hknown] at hisIn
        cases value with
        | str text =>
          rw [FieldValue.isIn, Except.ok.injEq, contains_iff_mem] at hisIn
          rw [hmethod]
          exact kept_of_method hisIn
        | object isIn =>
          refine kept_of_not_str (mem_checkedFields ?_) trivial nofun
          exact Or.inr (Or.inr (Or.inr (Or.inl hmethod)))
        | _ => cases hisIn
      · cases h
  · split at h
    · rename_i bounds hbounds
      have hmem := mem_of_lookup_eq hbounds
      obtain ⟨rfl, hfine, hstr⟩ := validateBoundedInt_eq_some
        (bounds_range (mem_append_left _ hmem)) (Except.ok.inj h)
      have hkey : key ∈ intFields.map Prod.fst := mem_map.mpr ⟨_, hmem, rfl⟩
      refine ⟨rfl, kept_of_not_str (mem_checkedFields ?_) hfine hstr⟩
      exact Or.inr (Or.inr (Or.inr (Or.inr (Or.inl hkey))))
    · split at h
      · rename_i bounds hbounds
        have hmem := mem_of_lookup_eq hbounds
        obtain ⟨rfl, hfine, hstr⟩ := validateBoundedNumber_eq_some
          (bounds_range (mem_append_right _ hmem)) (Except.ok.inj h)
        have hkey : key ∈ numericFields.map Prod.fst := mem_map.mpr ⟨_, hmem, rfl⟩
        refine ⟨rfl, kept_of_not_str (mem_checkedFields ?_) hfine hstr⟩
        exact Or.inr (Or.inr (Or.inr (Or.inr (Or.inr hkey))))
      · cases h

theorem validateField_of_accepts (h : Accepts key text) :
    validateField (φ := φ) key (.str text) = .ok (some (.str text)) := by
  obtain ⟨hidentifiers, hfunction, -⟩ := key_kinds
  rw [mem_append, not_or] at hfunction
  unfold validateField
  obtain ⟨hkey, hmatch⟩ | ⟨hkey, hmatch, hlength⟩ | ⟨hkey, hmatch, hlength⟩ := h
  · rw [if_pos hkey, validateString, if_pos hmatch]
  · rw [if_neg (hidentifiers key hkey), if_pos hkey, validateIdentifier, hmatch,
      decide_eq_true hlength]
    rfl
  · rw [hkey, if_neg hfunction.1, if_neg hfunction.2, if_pos rfl, validateFunction, hmatch,
      decide_eq_true hlength]
    rfl

variable {isIn : List PyText → Except LogError Bool}

theorem validateField_of_known (h : isIn httpMethods = .ok true) :
    validateField (φ := φ) (ofString "http_method") (.object isIn)
      = .ok (some (.object isIn)) := by
  have hmethod := key_kinds.2.2
  rw [mem_append, mem_append, not_or, not_or, mem_singleton] at hmethod
  unfold validateField
  rw [if_neg hmethod.1.1, if_neg hmethod.1.2, if_neg (fun heq => hmethod.2 heq), if_pos rfl,
    FieldValue.isIn, h]
  rfl

/-- Only an object in place of the method can raise. -/
theorem validateField_eq_error {value : FieldValue φ} {e : LogError} :
    validateField key value = .error e
      ↔ key = ofString "http_method" ∧ value.isIn httpMethods = .error e := by
  have hmethod := key_kinds.2.2
  rw [mem_append, mem_append, not_or, not_or, mem_singleton] at hmethod
  by_cases hkey : key = ofString "http_method"
  · subst hkey
    unfold validateField
    rw [if_neg hmethod.1.1, if_neg hmethod.1.2, if_neg (fun heq => hmethod.2 heq), if_pos rfl]
    cases value.isIn httpMethods <;> simp
  · refine iff_of_false ?_ (fun h => hkey h.1)
    unfold validateField
    split_ifs
    · nofun
    · nofun
    · nofun
    · split
      · nofun
      · split
        · nofun
        · nofun

/-! ## The loop over the fields -/

/-- A field of the entries that is kept. -/
def Taken (entries : List (Key × FieldValue φ)) (item : PyText × FieldValue φ) : Prop :=
  (Key.text item.1, item.2) ∈ entries ∧ validateField item.1 item.2 = .ok (some item.2)

/-- The method among the entries has no hash, or its comparison raises. -/
def MethodRaises (entries : List (Key × FieldValue φ)) : Prop :=
  ∃ value e, (Key.text (ofString "http_method"), value) ∈ entries
    ∧ value.isIn httpMethods = .error e

variable {entry : Key × FieldValue φ}

theorem taken_cons :
    Taken (entry :: rest) item
      ↔ (entry = (.text item.1, item.2) ∧ validateField item.1 item.2 = .ok (some item.2))
        ∨ Taken rest item := by
  unfold Taken
  rw [mem_cons, eq_comm (a := entry)]
  tauto

theorem taken_cons_of_dropped {value : FieldValue φ}
    (h : validateField key value ≠ .ok (some value)) :
    Taken ((.text key, value) :: rest) item ↔ Taken rest item := by
  rw [taken_cons, or_iff_right]
  rintro ⟨heq, hkept⟩
  cases heq
  exact h hkept

variable {skipped : List PyText}

/-- No field is kept under a key that the payload has. -/
def Fresh (payload : Payload φ) (entries : List (Key × FieldValue φ)) : Prop :=
  ∀ item, Taken entries item → item.1 ∉ payload.items.map Prod.fst

theorem Fresh.tail (h : Fresh payload (entry :: rest)) :
    Fresh payload rest :=
  fun item hitem => h item (taken_cons.mpr (Or.inr hitem))

omit [PyFloat φ] in
theorem items_assign {value : FieldValue φ} (h : key ∉ payload.items.map Prod.fst) :
    (payload.assign key value).items = payload.items ++ [(key, value)] :=
  assign_of_not_mem value h

/-- The payload takes exactly the fields that are kept. -/
theorem mem_addFields (hskipped : ∀ key ∈ checkedFields, key ∉ skipped) {added : Payload φ}
    (hdistinct : (entries.map Prod.fst).Nodup) (hfresh : Fresh payload entries)
    (h : addFields skipped payload entries = .ok added) (item : PyText × FieldValue φ) :
    item ∈ added.items ↔ item ∈ payload.items ∨ Taken entries item := by
  induction entries generalizing payload with
  | nil =>
    rw [addFields] at h
    cases h
    simp [Taken]
  | cons entry rest ih =>
    obtain ⟨entryKey, value⟩ := entry
    rw [map_cons, nodup_cons] at hdistinct
    cases entryKey with
    | object id =>
      rw [addFields] at h
      rw [ih hdistinct.2 hfresh.tail h, taken_cons]
      simp
    | text key =>
      rw [addFields] at h
      split at h
      · rename_i hskip
        -- a key that is skipped is on no list of fields
        have hdropped : validateField key value ≠ .ok (some value) :=
          fun hkept => hskipped key (validateField_eq_some hkept).2.listed hskip
        rw [ih hdistinct.2 hfresh.tail h, taken_cons_of_dropped hdropped]
      · cases hfield : validateField key value with
        | error e =>
          rw [hfield] at h
          cases h
        | ok kept =>
          rw [hfield] at h
          cases kept with
          | none =>
            have hdropped : validateField key value ≠ .ok (some value) := by
              rw [hfield]
              nofun
            rw [ih hdistinct.2 hfresh.tail h, taken_cons_of_dropped hdropped]
          | some validated =>
            obtain ⟨rfl, -⟩ := validateField_eq_some hfield
            have hnew : key ∉ payload.items.map Prod.fst :=
              hfresh (key, validated) (taken_cons.mpr (Or.inl ⟨rfl, hfield⟩))
            have hrest : Fresh (payload.assign key validated) rest := by
              intro other hother
              rw [items_assign hnew, map_append, mem_append, not_or]
              refine ⟨hfresh.tail other hother, ?_⟩
              intro hkey
              rw [map_singleton, mem_singleton] at hkey
              exact hdistinct.1 (mem_map.mpr ⟨_, hother.1, congrArg Key.text hkey⟩)
            rw [ih hdistinct.2 hrest h, items_assign hnew, mem_append, mem_singleton,
              taken_cons, or_assoc]
            refine or_congr_right (or_congr_left ?_)
            constructor
            · rintro rfl
              exact ⟨rfl, hfield⟩
            · rintro ⟨heq, -⟩
              cases heq
              rfl

theorem addFields_isOk_iff (hskipped : ∀ key ∈ checkedFields, key ∉ skipped) :
    (∃ added, addFields skipped payload entries = .ok added) ↔ ¬ MethodRaises entries := by
  have hmethod : ofString "http_method" ∉ skipped :=
    hskipped _ (mem_checkedFields (Or.inr (Or.inr (Or.inr (Or.inl rfl)))))
  induction entries generalizing payload with
  | nil => simp [addFields, MethodRaises]
  | cons entry rest ih =>
    have hrest : (∀ e, (entry.1 = .text (ofString "http_method") →
        entry.2.isIn httpMethods ≠ .error e)) →
        (¬ MethodRaises (entry :: rest) ↔ ¬ MethodRaises rest) := by
      intro hentry
      refine not_congr ⟨?_, ?_⟩
      · rintro ⟨value, e, hmem, hraises⟩
        obtain rfl | hmem := mem_cons.mp hmem
        · exact absurd hraises (hentry e rfl)
        · exact ⟨value, e, hmem, hraises⟩
      · rintro ⟨value, e, hmem, hraises⟩
        exact ⟨value, e, mem_cons_of_mem _ hmem, hraises⟩
    obtain ⟨entryKey, value⟩ := entry
    cases entryKey with
    | object id =>
      rw [addFields]
      exact ih.trans (hrest nofun).symm
    | text key =>
      rw [addFields]
      split
      · rename_i hskip
        refine ih.trans (hrest ?_).symm
        rintro e hkey -
        cases hkey
        exact hmethod hskip
      · cases hfield : validateField key value with
        | error e =>
          obtain ⟨rfl, hraises⟩ := validateField_eq_error.mp hfield
          refine iff_of_false nofun ?_
          exact not_not_intro ⟨value, e, mem_cons_self, hraises⟩
        | ok kept =>
          have hentry : ∀ e, Key.text key = .text (ofString "http_method") →
              value.isIn httpMethods ≠ .error e := by
            rintro e ⟨⟩ hraises
            rw [validateField_eq_error.mpr ⟨rfl, hraises⟩] at hfield
            cases hfield
          cases kept with
          | none => exact ih.trans (hrest hentry).symm
          | some validated => exact ih.trans (hrest hentry).symm

/-! ## Lines -/

def FieldValue.isObject : FieldValue φ → Bool
  | .object _ => true
  | _ => false

/-- The encoding of a value that is no object. -/
def FieldValue.plain : FieldValue φ → Json PyText φ
  | .bool b => .bool b
  | .int n => .int n
  | .float x => .float x
  | .str text => .str text
  | .object _ => .null

/-- The members of the object that a payload is written as. -/
def membersOf (payload : Payload φ) : List (PyText × Json PyText φ) :=
  payload.items.map fun item => (item.1, item.2.plain)

omit [PyFloat φ] in
theorem toJson_eq (value : FieldValue φ) :
    value.toJson = if value.isObject then none else some value.plain := by
  cases value with
  | _ => rfl

omit [PyFloat φ] in
theorem mapM_toJson (items : List (PyText × FieldValue φ)) :
    (items.mapM fun item => item.2.toJson.map fun value => (item.1, value))
      = if items.any (fun item => item.2.isObject) then none
        else some (items.map fun item => (item.1, item.2.plain)) := by
  induction items with
  | nil => rfl
  | cons item rest ih =>
    rw [mapM_cons, ih, toJson_eq, any_cons]
    cases item.2.isObject with
    | true => rfl
    | false =>
      cases rest.any fun item => item.2.isObject with
      | true => rfl
      | false => rfl

/-- A payload is dumped exactly if no object is in it. -/
theorem dumpsPayload_eq_ok {line : List Char} :
    dumpsPayload payload = .ok line ↔ (∀ item ∈ payload.items, item.2.isObject = false)
      ∧ render .ascii (sortKeys (.obj (membersOf payload))) = line := by
  unfold dumpsPayload
  rw [mapM_toJson]
  by_cases hany : (payload.items.any fun item => item.2.isObject) = true
  · rw [if_pos hany]
    refine iff_of_false nofun ?_
    rintro ⟨hnone, -⟩
    obtain ⟨item, hitem, hobject⟩ := any_eq_true.mp hany
    rw [hnone item hitem] at hobject
    cases hobject
  · rw [if_neg hany]
    have hnone : ∀ item ∈ payload.items, item.2.isObject = false := by
      intro item hitem
      by_contra hobject
      exact hany (any_eq_true.mpr ⟨item, hitem, by simpa using hobject⟩)
    simp only [Except.ok.injEq]
    exact ⟨fun h => ⟨hnone, h⟩, fun h => h.2⟩

/-- A value that may stand in a line: a token or a number. -/
def safeValue : Json PyText φ → Bool
  | .str text => isToken text
  | .int _ => true
  | .float _ => true
  | _ => false

variable (φ) in
/-- One JSON object on one line, of fields of the allow list. -/
def SafeLine (interpreter : Interpreter) (line : List Char) : Prop :=
  ∃ document members, line = document ++ ['\n'] ∧ Printable document
    ∧ loads (plainHooks (φ := φ) interpreter) document = .ok (.obj members)
    ∧ ∀ member ∈ members, member.1 ∈ allowedFields ∧ safeValue member.2 = true

/-- A payload whose fields are on the allow list and hold no objects. -/
def Writable (payload : Payload φ) : Prop :=
  ∀ item ∈ payload.items,
    item.1 ∈ allowedFields ∧ item.2.IsFine ∧ item.2.isObject = false

theorem readsBack_of_allowed (h : key ∈ allowedFields) : readsBack .ascii key = true := by
  have hall : (allowedFields.all isPlain) = true := by decide
  exact readsBack_of_isEncodable (isEncodable_of_isPlain (all_eq_true.mp hall key h))

variable {interpreter : Interpreter}

theorem fits_plain {depth : Nat} {value : FieldValue φ} (h : value.IsFine) :
    Fits .ascii (plainHooks (φ := φ) interpreter) depth value.plain := by
  cases value with
  | bool b => trivial
  | int n =>
    have hroom : 640 ≤ interpreter.maximumDigits := interpreter.room.2
    have hhigh : n ≤ 86400000 := h.2
    have hlength : decimalLength n ≤ 8 :=
      ScanPermits.decimalLength_le (by decide) h.1 (by omega)
    exact le_trans hlength (le_trans (by decide) hroom)
  | float x => exact h
  | str text => exact readsBack_of_isEncodable (isEncodable_of_isPlain h)
  | object isIn => trivial

theorem fits_membersOf (h : Writable payload) :
    Fits .ascii (plainHooks (φ := φ) interpreter) interpreter.recursionLimit
      (.obj (membersOf payload)) := by
  have hroom : 16 ≤ interpreter.recursionLimit := interpreter.room.1
  refine ⟨by omega, ?_, fitsMembers_iff.mpr ?_⟩
  · rw [membersOf, map_map]
    exact payload.distinct
  · intro member hmember
    obtain ⟨item, hitem, rfl⟩ := mem_map.mp hmember
    obtain ⟨hkey, hfine, -⟩ := h item hitem
    exact ⟨readsBack_of_allowed hkey, fits_plain hfine⟩

theorem finite_membersOf (h : Writable payload) :
    (Json.obj (membersOf payload)).all (fun _ => true) PyFloat.isFinite = true := by
  rw [Json.all, allMembers_eq_all, all_eq_true]
  intro member hmember
  obtain ⟨item, hitem, rfl⟩ := mem_map.mp hmember
  obtain ⟨-, hfine, -⟩ := h item hitem
  cases hvalue : item.2 with
  | float x =>
    rw [hvalue] at hfine
    exact hfine
  | _ => rfl

variable (interpreter) in
/-- A line that was written is read back. -/
theorem loads_membersOf (laws : FloatLaws φ) (h : Writable payload) :
    ∃ members, members.Perm (membersOf payload)
      ∧ loads (plainHooks interpreter) (render .ascii (sortKeys (.obj (membersOf payload))))
        = .ok (.obj members) := by
  have hscalar : sortMembers (membersOf payload) = membersOf payload := by
    rw [sortMembers_eq_map, membersOf, map_map]
    refine map_congr_left fun item _ => ?_
    cases hvalue : item.2 with
    | _ => simp [hvalue, FieldValue.plain, sortKeys]
  refine ⟨byKey (sortMembers (membersOf payload)), ?_, ?_⟩
  · rw [hscalar]
    exact perm_byKey _
  · exact loads_render laws keepsPairs_plainHooks (fits_sortKeys _ (fits_membersOf h))

/-- A line is safe exactly if its texts are tokens. -/
theorem safeLine_iff (laws : FloatLaws φ) (h : Writable payload) :
    SafeLine φ interpreter (render .ascii (sortKeys (.obj (membersOf payload))) ++ ['\n'])
      ↔ ∀ item ∈ payload.items, ∀ text, item.2 = .str text → isToken text = true := by
  obtain ⟨sorted, hperm, hload⟩ := loads_membersOf interpreter laws h
  constructor
  · rintro ⟨document, members, hline, -, hread, hmembers⟩ item hitem text htext
    obtain ⟨rfl, -⟩ := append_inj' hline rfl
    rw [hload] at hread
    obtain rfl : sorted = members := by cases hread; rfl
    have hmem : (item.1, item.2.plain) ∈ sorted :=
      hperm.mem_iff.mpr (mem_map.mpr ⟨item, hitem, rfl⟩)
    have hsafe := (hmembers _ hmem).2
    rw [htext] at hsafe
    exact hsafe
  · intro htokens
    refine ⟨_, sorted, rfl, render_printable laws _ ?_, hload, ?_⟩
    · rw [all_sortKeys]
      exact finite_membersOf h
    · intro member hmember
      obtain ⟨item, hitem, rfl⟩ := mem_map.mp (hperm.mem_iff.mp hmember)
      obtain ⟨hkey, hfine, hobject⟩ := h item hitem
      refine ⟨hkey, ?_⟩
      cases hvalue : item.2 with
      | bool b =>
        rw [hvalue] at hfine
        cases hfine
      | str text => exact htokens item hitem text hvalue
      | object isIn =>
        rw [hvalue] at hobject
        cases hobject
      | _ => rfl

/-! ## The payload before the fields -/

omit [PyFloat φ] in
theorem isTokenCharacter_digits {width : Nat} {c : Char} (h : c ∈ digits width n) :
    isTokenCharacter c.toNat = true := by
  have hdigit : ∀ d < 10, isTokenCharacter (Char.ofNat (48 + d)).toNat = true := by decide
  induction width generalizing n with
  | zero => cases h
  | succ width ih =>
    rw [digits, mem_append, mem_singleton] at h
    obtain h | rfl := h
    · exact ih h
    · exact hdigit _ (Nat.mod_lt n (by decide))

omit [PyFloat φ] in
theorem isToken_timestampText (t : Nat) : isToken (timestampText t) = true := by
  have hbody : ∀ c ∈ timestampBody t, isTokenCharacter c.toNat = true := by
    intro c hc
    simp only [timestampBody, mem_append, mem_singleton] at hc
    rcases hc with (((((((((((hc | rfl) | hc) | rfl) | hc) | rfl) | hc) | rfl) | hc) | rfl) | hc)
      | rfl) | hc
    all_goals first
      | exact isTokenCharacter_digits hc
      | decide
  have hlength : (timestampText t).length = 27 := by
    simp [timestampText_eq, timestampBody, length_digits]
  have hall : (timestampText t).all isTokenCharacter = true := by
    rw [timestampText_eq, all_append, Bool.and_eq_true, all_eq_true]
    refine ⟨?_, rfl⟩
    intro n hn
    obtain ⟨c, hc, rfl⟩ := mem_map.mp hn
    exact hbody c hc
  simp [isToken, hlength, hall]

theorem isToken_of_level (h : level ∈ levels) : isToken level = true := by
  have hall : (levels.all isToken) = true := by decide
  exact all_eq_true.mp hall level h

theorem isToken_of_service {service : PyText} (h : service ∈ services) :
    isToken service = true := by
  have hall : (services.all isToken) = true := by decide
  exact all_eq_true.mp hall service h

theorem isPlain_of_isToken (h : isToken value = true) : isPlain value = true :=
  isPlain_of_all (all_of_isToken h).2

theorem isPlain_of_safeToken (h : safeToken value = true) : isPlain value = true :=
  isPlain_of_matchLine (fun _ => isPlain_of_isToken) h

theorem fresh_basePayload {timestamp : PyText} {service : FieldValue φ} :
    Fresh (basePayload timestamp level service event) entries :=
  fun _ hitem => not_mem_reservedFields (validateField_eq_some hitem.2).2.listed

/-- The fields in front of those of the allow list. -/
structure BaseFits (level service event : PyText) : Prop where
  level : level ∈ levels
  service : service ∈ services
  event : safeToken event = true

omit [PyFloat φ] in
theorem basePayload_items {t : Nat} {service : PyText} (h : BaseFits level service event)
    (hitem : item ∈ (basePayload (timestampText t) level (.str service) event).items) :
    item.1 ∈ reservedFields ∧ ∃ text, item.2 = .str text ∧ isPlain text = true
      ∧ (event.getLast? ≠ some 10 → isToken text = true) := by
  have htimestamp := isToken_timestampText t
  have hlevel := isToken_of_level h.level
  have hservice := isToken_of_service h.service
  simp only [basePayload, mem_cons, not_mem_nil, or_false] at hitem
  obtain rfl | rfl | rfl | rfl := hitem
  · exact ⟨by simp [reservedFields], _, rfl, isPlain_of_isToken htimestamp, fun _ => htimestamp⟩
  · exact ⟨by simp [reservedFields], _, rfl, isPlain_of_isToken hlevel, fun _ => hlevel⟩
  · exact ⟨by simp [reservedFields], _, rfl, isPlain_of_isToken hservice, fun _ => hservice⟩
  · exact ⟨by simp [reservedFields], _, rfl, isPlain_of_safeToken h.event,
      (isToken_iff_of_safeToken h.event).mpr⟩

theorem validateField_object (h : validateField key (.object isIn) = .ok (some validated)) :
    key = ofString "http_method" ∧ isIn httpMethods = .ok true := by
  unfold validateField at h
  split_ifs at h with _ _ _ hmethod
  · cases h
  · cases h
  · cases h
  · refine ⟨hmethod, ?_⟩
    rw [FieldValue.isIn] at h
    cases hisIn : isIn httpMethods with
    | error e =>
      rw [hisIn] at h
      cases h
    | ok known =>
      cases known with
      | true => rfl
      | false =>
        rw [hisIn] at h
        cases h
  · split at h
    · cases h
    · split at h
      · cases h
      · cases h

/-! ## Records -/

variable [LowerTable]

/-- A record that the formatter writes: a dictionary with a level, a service and an event, at an
instant, whose method has a hash and is no object that passes for a method. -/
structure Written (record : LogRecord φ) (raw : Mapping Key (FieldValue φ)) (event : PyText) :
    Prop where
  msg : record.msg = .mapping raw
  level : LowerTable.lower record.levelname ∈ levels
  hasService : ∃ name ∈ services, raw.get (.text (ofString "service")) = some (.str name)
  hasEvent : raw.get (.text (ofString "event")) = some (.str event)
  token : safeToken event = true
  created : record.created ≠ none
  method : ∀ isIn, raw.get (.text (ofString "http_method")) = some (.object isIn) →
    isIn httpMethods = .ok false

omit [PyFloat φ] in
theorem Written.not_methodRaises (h : Written record raw event) : ¬ MethodRaises raw.items := by
  rintro ⟨value, e, hmem, hraises⟩
  cases value with
  | object isIn =>
    rw [FieldValue.isIn, h.method isIn (get_eq_some_iff.mpr hmem)] at hraises
    cases hraises
  | _ => cases hraises

theorem Written.taken {record : LogRecord φ} {raw : Mapping Key (FieldValue φ)} {event : PyText}
    (h : Written record raw event) {item : PyText × FieldValue φ} (hitem : Taken raw.items item) :
    item.1 ∈ allowedFields ∧ item.2.IsFine ∧ item.2.isObject = false := by
  obtain ⟨hmem, hkept⟩ := hitem
  obtain ⟨-, hlisted, hfine, -⟩ := validateField_eq_some hkept
  refine ⟨mem_append_right _ hlisted, hfine, ?_⟩
  cases hvalue : item.2 with
  | object isIn =>
    rw [hvalue] at hmem hkept
    obtain ⟨hkey, hknown⟩ := validateField_object hkept
    rw [hkey] at hmem
    have hfalse := h.method isIn (get_eq_some_iff.mpr hmem)
    rw [hknown] at hfalse
    cases hfalse
  | _ => rfl

/-- What the line of a record is made of. -/
structure LineOf (raw : Mapping Key (FieldValue φ)) (event : PyText) (payload : Payload φ) : Prop
    where
  writable : Writable payload
  base : ∃ t level service, BaseFits level service event ∧ ∀ item, item ∈ payload.items
    ↔ item ∈ (basePayload (timestampText t) level (.str service) event).items
      ∨ Taken raw.items item

theorem emit_of_written (h : Written record raw event) : ∃ payload, LineOf raw event payload
      ∧ emit record = [render .ascii (sortKeys (.obj (membersOf payload))) ++ ['\n']] := by
  obtain ⟨name, hname, hservice⟩ := h.hasService
  obtain ⟨t, hcreated⟩ := Option.ne_none_iff_exists'.mp h.created
  have hbase : BaseFits (LowerTable.lower record.levelname) name event := ⟨h.level, hname, h.token⟩
  have hskipped : ∀ key ∈ checkedFields, key ∉ reservedFields := fun _ => not_mem_reservedFields
  obtain ⟨payload, hadded⟩ : ∃ added, addFields reservedFields (basePayload (timestampText t)
      (LowerTable.lower record.levelname) (.str name) event) raw.items = .ok added :=
    (addFields_isOk_iff hskipped).mpr h.not_methodRaises
  have hitems := mem_addFields hskipped raw.distinct fresh_basePayload hadded
  have hwritable : Writable payload := by
    intro item hitem
    obtain hitem | hitem := (hitems item).mp hitem
    · obtain ⟨hkey, text, htext, hplain, -⟩ := basePayload_items hbase hitem
      refine ⟨mem_append_left _ hkey, ?_, ?_⟩
      · rw [htext]
        exact hplain
      · rw [htext]
        rfl
    · exact h.taken hitem
  refine ⟨payload, ⟨hwritable, t, _, name, hbase, hitems⟩, ?_⟩
  have hisIn : (FieldValue.str (φ := φ) name).isIn services = .ok true := by
    rw [FieldValue.isIn, contains_iff_mem.mpr hname]
  have hdumps := dumpsPayload_eq_ok.mpr ⟨fun item hitem => (hwritable item hitem).2.2, rfl⟩
  have hformat : formatRecord record
      = .ok (some (render .ascii (sortKeys (.obj (membersOf payload))))) := by
    unfold formatRecord
    rw [h.msg]
    dsimp only
    rw [if_pos h.level]
    unfold formatFields
    rw [hservice]
    dsimp only
    rw [hisIn, h.hasEvent]
    dsimp only
    rw [if_pos h.token, hcreated]
    dsimp only
    rw [hadded]
    simp only [bind, Except.bind, hdumps]
    rfl
  rw [emit, hformat]

omit [LowerTable] in
theorem formatFields_eq_some {created : Option Nat} {line : List Char}
    (h : formatFields created level raw = .ok (some line)) :
    ∃ service event t payload, raw.get (.text (ofString "service")) = some service
      ∧ service.isIn services = .ok true
      ∧ raw.get (.text (ofString "event")) = some (.str event) ∧ safeToken event = true
      ∧ created = some t
      ∧ addFields reservedFields (basePayload (timestampText t) level service event) raw.items
        = .ok payload
      ∧ dumpsPayload payload = .ok line := by
  unfold formatFields at h
  split at h
  · cases h
  · rename_i service hservice
    split at h
    · cases h
    · cases h
    · rename_i hknown
      split at h
      · rename_i event hevent
        split at h
        · rename_i htoken
          split at h
          · cases h
          · rename_i t
            obtain ⟨payload, hadded, h⟩ := Atomic.bind_ok h
            obtain ⟨document, hdumps, h⟩ := Atomic.bind_ok h
            cases h
            exact ⟨service, event, t, payload, hservice, hknown, hevent, htoken, rfl, hadded,
              hdumps⟩
        · cases h
      · cases h

/-- Every line was written for a record. -/
theorem written_of_emit (h : emit record ≠ []) : ∃ raw event, Written record raw event := by
  obtain ⟨line, hline⟩ : ∃ line, formatRecord record = .ok (some line) := by
    unfold emit at h
    split at h
    · rename_i line hline
      exact ⟨line, hline⟩
    · exact absurd rfl h
  unfold formatRecord at hline
  split at hline
  · cases hline
  rename_i raw hmsg
  dsimp only at hline
  split at hline
  · rename_i hlevel
    obtain ⟨service, event, t, payload, hservice, hknown, hevent, htoken, hcreated, hadded, hdumps⟩
      := formatFields_eq_some hline
    have hskipped : ∀ key ∈ checkedFields, key ∉ reservedFields := fun _ => not_mem_reservedFields
    have hitems := mem_addFields hskipped raw.distinct fresh_basePayload hadded
    have hobjects := (dumpsPayload_eq_ok.mp hdumps).1
    have hraises := (addFields_isOk_iff hskipped).mp ⟨payload, hadded⟩
    refine ⟨raw, event, hmsg, hlevel, ?_, hevent, htoken, by rw [hcreated]; nofun, ?_⟩
    · -- a service that is an object is refused by `json.dumps`
      cases service with
      | str name =>
        rw [FieldValue.isIn, Except.ok.injEq, contains_iff_mem] at hknown
        exact ⟨name, hknown, hservice⟩
      | object isIn =>
        have hmem := (hitems (ofString "service", .object isIn)).mpr
          (Or.inl (by simp [basePayload]))
        cases hobjects _ hmem
      | _ => cases hknown
    · intro isIn hmethod
      rw [get_eq_some_iff] at hmethod
      cases hisIn : isIn httpMethods with
      | error e => exact absurd ⟨.object isIn, e, hmethod, hisIn⟩ hraises
      | ok known =>
        cases known with
        | false => rfl
        | true =>
          -- and so is a method
          have hmem := (hitems (ofString "http_method", .object isIn)).mpr
            (Or.inr ⟨hmethod, validateField_of_known hisIn⟩)
          cases hobjects _ hmem
  · cases hline

/-- The lines of a record are safe exactly if no stray text is written. -/
theorem emit_safe_iff (laws : FloatLaws φ) (record : LogRecord φ) :
    (∀ line ∈ emit record, SafeLine φ interpreter line)
      ↔ ∀ raw event, Written record raw event → event.getLast? ≠ some 10
        ∧ ∀ key value, (Key.text key, value) ∈ raw.items → ¬ Stray key value := by
  constructor
  · intro hsafe raw event hwritten
    obtain ⟨payload, hline, hemit⟩ := emit_of_written hwritten
    rw [hemit] at hsafe
    have htokens := (safeLine_iff laws hline.writable).mp (hsafe _ mem_cons_self)
    obtain ⟨t, level, service, hbase, hitems⟩ := hline.base
    constructor
    · have hevent := htokens (ofString "event", .str event)
        ((hitems _).mpr (Or.inl (by simp [basePayload]))) event rfl
      exact (isToken_iff_of_safeToken hbase.event).mp hevent
    · rintro key value hmem ⟨text, rfl, haccepts, hstray⟩
      have htoken := htokens (key, .str text)
        ((hitems _).mpr (Or.inr ⟨hmem, validateField_of_accepts haccepts⟩)) text rfl
      exact ((kept_of_accepts (φ := φ) haccepts).token text rfl).mp htoken
        ⟨text, rfl, haccepts, hstray⟩
  · intro hclean line hmem
    obtain ⟨raw, event, hwritten⟩ := written_of_emit (ne_nil_of_mem hmem)
    obtain ⟨hevent, hfields⟩ := hclean raw event hwritten
    obtain ⟨payload, hline, hemit⟩ := emit_of_written hwritten
    rw [hemit, mem_singleton] at hmem
    rw [hmem, safeLine_iff laws hline.writable]
    obtain ⟨t, level, service, hbase, hitems⟩ := hline.base
    intro item hitem text htext
    obtain hitem | ⟨hentry, hkept⟩ := (hitems item).mp hitem
    · obtain ⟨-, other, hother, -, htoken⟩ := basePayload_items hbase hitem
      rw [htext] at hother
      cases hother
      exact htoken hevent
    · exact ((validateField_eq_some hkept).2.token text htext).mpr (hfields _ _ hentry)

/-! ## Calls -/

variable (φ interpreter) in
/-- Nothing is raised, and every line that was written is safe. -/
def Bounded (outcome : Except LogError (List (List Char))) : Prop :=
  ∃ lines, outcome = .ok lines ∧ ∀ line ∈ lines, SafeLine φ interpreter line

/-- A call whose event, level and service are accepted. -/
structure ValidCall (event level : PyText) (service : Option PyText) : Prop where
  token : safeToken event = true
  known : level ∈ levels
  named : ∀ name ∈ service, name ∈ services

/-- The method of the fields can be looked for, and unless it is an object that passes for a method
no text that is accepted is stray. -/
structure CleanCall (event : PyText) (fields : Mapping PyText (FieldValue φ)) : Prop where
  method : ∀ value e, (ofString "http_method", value) ∈ fields.items →
    value.isIn httpMethods ≠ .error e
  texts : (∃ isIn, (ofString "http_method", .object isIn) ∈ fields.items
      ∧ isIn httpMethods = .ok true)
    ∨ event.getLast? ≠ some 10 ∧ ∀ key value, (key, value) ∈ fields.items → ¬ Stray key value

theorem lower_levelName (h : level ∈ levels) : LowerTable.lower (levelName level) = level := by
  simp only [levels, mem_cons, not_mem_nil, or_false] at h
  obtain rfl | rfl | rfl := h
  all_goals
    rw [LowerTable.lower_ascii _ (by decide)]
    decide

omit [LowerTable] [PyFloat φ] in
theorem mem_toMessage {ν : Type} {mapping : Mapping PyText ν} {value : ν} :
    (Key.text key, value) ∈ mapping.toMessage.items ↔ (key, value) ∈ mapping.items := by
  constructor
  · intro h
    obtain ⟨item, hitem, heq⟩ := mem_map.mp h
    cases heq
    exact hitem
  · intro h
    exact mem_map.mpr ⟨(key, value), h, rfl⟩

/-- The payload of a call: the base and the fields that are kept. -/
structure PayloadOf (now : Nat) (event level : PyText) (fields : Mapping PyText (FieldValue φ))
    (payload : Payload φ) : Prop where
  resolved : ∃ service ∈ services, ∀ item, item ∈ payload.items
    ↔ item ∈ (basePayload (timestampText now) level (.str service) event).items
      ∨ Taken fields.toMessage.items item

/-- The record of a call. -/
def recordOf (now : Nat) (level : PyText) (payload : Payload φ) : LogRecord φ :=
  ⟨levelName level, some now, .mapping payload.toMessage⟩

/-- A call of `log_event` raises, or writes the payload of its fields. -/
theorem logEvent_cases (configuration : Configuration) (now : Nat)
    (fields : Mapping PyText (FieldValue φ)) (h : ValidCall event level service) :
    (MethodRaises fields.toMessage.items
        ∧ ∃ e, logEvent (some configuration) now event level service fields = .error e)
      ∨ ¬ MethodRaises fields.toMessage.items ∧ ∃ payload : Payload φ,
        PayloadOf now event level fields payload
        ∧ logEvent (some configuration) now event level service fields
          = .ok (emit (recordOf now level payload)) := by
  have hresolved : service.getD configuration.service ∈ services := by
    cases service with
    | none => exact configuration.known
    | some name => exact h.named name rfl
  have hskipped : ∀ key ∈ checkedFields, key ∉ ([] : List PyText) := fun _ _ => not_mem_nil
  have hcall : logEvent (some configuration) now event level service fields
      = (addFields [] (basePayload (timestampText now) level
          (.str (service.getD configuration.service)) event) fields.toMessage.items).map
        fun payload => emit (recordOf now level payload) := by
    unfold logEvent
    simp only [h.known, h.token, hresolved, not_true_eq_false, if_false]
    rfl
  cases hadded : addFields [] (basePayload (timestampText now) level
      (.str (service.getD configuration.service)) event) fields.toMessage.items with
  | error e =>
    refine Or.inl ⟨?_, e, by rw [hcall, hadded]; rfl⟩
    by_contra hraises
    obtain ⟨payload, hok⟩ := (addFields_isOk_iff hskipped).mpr hraises
    rw [hadded] at hok
    cases hok
  | ok payload =>
    exact Or.inr ⟨(addFields_isOk_iff hskipped).mp ⟨payload, hadded⟩, payload,
      ⟨_, hresolved, mem_addFields hskipped fields.toMessage.distinct fresh_basePayload hadded⟩,
      by rw [hcall, hadded]; rfl⟩

omit [LowerTable] in
theorem PayloadOf.mem_iff (h : PayloadOf now event level fields payload)
    (hkey : key ∈ checkedFields) {value : FieldValue φ} :
    (Key.text key, value) ∈ payload.toMessage.items
      ↔ (key, value) ∈ fields.items ∧ validateField key value = .ok (some value) := by
  obtain ⟨service, -, hitems⟩ := h.resolved
  rw [mem_toMessage, hitems, or_iff_right, Taken, mem_toMessage]
  intro hbase
  have hreserved : key ∈ (basePayload (timestampText now) level (.str (φ := φ) service)
      event).items.map Prod.fst := mem_map.mpr ⟨_, hbase, rfl⟩
  exact not_mem_reservedFields hkey hreserved

omit [LowerTable] in
theorem PayloadOf.stray_iff (h : PayloadOf now event level fields payload) {value : FieldValue φ}
    (hstray : Stray key value) :
    (Key.text key, value) ∈ payload.toMessage.items ↔ (key, value) ∈ fields.items := by
  obtain ⟨text, rfl, haccepts, -⟩ := hstray
  rw [h.mem_iff (kept_of_accepts (φ := φ) haccepts).listed, and_iff_left]
  exact validateField_of_accepts haccepts

theorem PayloadOf.written_iff (hvalid : ValidCall event level service)
    (h : PayloadOf now event level fields payload) {found : PyText} :
    Written (recordOf now level payload) raw found
      ↔ (raw = payload.toMessage ∧ found = event) ∧ ¬ ∃ isIn,
        (ofString "http_method", .object isIn) ∈ fields.items ∧ isIn httpMethods = .ok true := by
  have hlisted : ofString "http_method" ∈ checkedFields :=
    mem_checkedFields (Or.inr (Or.inr (Or.inr (Or.inl rfl))))
  obtain ⟨resolved, hresolved, hitems⟩ := h.resolved
  have hservice : payload.toMessage.get (.text (ofString "service")) = some (.str resolved) :=
    get_eq_some_iff.mpr
      (mem_toMessage.mpr ((hitems _).mpr (Or.inl (by simp [basePayload]))))
  have hevent : payload.toMessage.get (.text (ofString "event")) = some (.str event) :=
    get_eq_some_iff.mpr
      (mem_toMessage.mpr ((hitems _).mpr (Or.inl (by simp [basePayload]))))
  constructor
  · intro hwritten
    have hraw : payload.toMessage = raw := Message.mapping.inj hwritten.msg
    subst hraw
    have hfound := hwritten.hasEvent
    rw [hevent] at hfound
    cases hfound
    refine ⟨⟨rfl, rfl⟩, ?_⟩
    rintro ⟨isIn, hmem, hknown⟩
    have hkept := (h.mem_iff hlisted).mpr ⟨hmem, validateField_of_known hknown⟩
    have hfalse := hwritten.method isIn (get_eq_some_iff.mpr hkept)
    rw [hknown] at hfalse
    cases hfalse
  · rintro ⟨⟨rfl, rfl⟩, hmethod⟩
    refine ⟨rfl, ?_, ⟨resolved, hresolved, hservice⟩, hevent, hvalid.token, nofun, ?_⟩
    · rw [recordOf, lower_levelName hvalid.known]
      exact hvalid.known
    · intro isIn hget
      obtain ⟨hmem, hkept⟩ := (h.mem_iff hlisted).mp (get_eq_some_iff.mp hget)
      exact absurd ⟨isIn, hmem, (validateField_object hkept).2⟩ hmethod

/-- One call keeps within the boundary exactly if it is clean. -/
theorem bounded_logEvent_iff (laws : FloatLaws φ) {configuration : Configuration}
    (h : ValidCall event level service) :
    Bounded φ interpreter (logEvent (some configuration) now event level service fields)
      ↔ CleanCall event fields := by
  obtain ⟨⟨value, e, hmem, hraises⟩, error, herror⟩ | ⟨hmethod, payload, hpayload, hcall⟩ :=
    logEvent_cases configuration now fields h
  · refine iff_of_false ?_ (fun hclean => hclean.method value e (mem_toMessage.mp hmem) hraises)
    rintro ⟨lines, hlines, -⟩
    rw [herror] at hlines
    cases hlines
  · have hbounded : Bounded φ interpreter
        (logEvent (some configuration) now event level service fields)
        ↔ ∀ line ∈ emit (recordOf now level payload), SafeLine φ interpreter line := by
      rw [hcall]
      constructor
      · rintro ⟨lines, hlines, hsafe⟩
        cases hlines
        exact hsafe
      · intro hsafe
        exact ⟨_, rfl, hsafe⟩
    rw [hbounded, emit_safe_iff laws]
    constructor
    · intro hclean
      refine ⟨fun value e hmem hraises => hmethod ⟨value, e, mem_toMessage.mpr hmem, hraises⟩, ?_⟩
      by_cases hobject : ∃ isIn, (ofString "http_method", FieldValue.object isIn) ∈ fields.items
          ∧ isIn httpMethods = .ok true
      · exact Or.inl hobject
      · obtain ⟨hevent, hfields⟩ :=
          hclean _ _ ((hpayload.written_iff h).mpr ⟨⟨rfl, rfl⟩, hobject⟩)
        refine Or.inr ⟨hevent, fun key value hmem hstray => ?_⟩
        exact hfields key value ((hpayload.stray_iff hstray).mpr hmem) hstray
    · intro hclean raw found hwritten
      obtain ⟨⟨rfl, rfl⟩, hobject⟩ := (hpayload.written_iff h).mp hwritten
      obtain ⟨hevent, hfields⟩ := hclean.texts.resolve_left hobject
      refine ⟨hevent, fun key value hmem hstray => ?_⟩
      exact hfields key value ((hpayload.stray_iff hstray).mp hmem) hstray

/-- **The output boundary of the log.** A call raises nothing and writes safe lines exactly if its
method can be looked for and, unless that is an object which passes for a method, no text is stray;
a record is written as a safe line exactly if it is not written at all or holds no stray text. -/
theorem log_boundary_iff (laws : FloatLaws φ) (interpreter : Interpreter) :
    (∀ (configured : Option Configuration) (now : Nat) (event level : PyText)
        (service : Option PyText) (fields : Mapping PyText (FieldValue φ)),
      ValidCall event level service →
        (Bounded φ interpreter (logEvent configured now event level service fields)
          ↔ configured = none ∨ CleanCall event fields))
      ∧ ∀ record : LogRecord φ, (∀ line ∈ emit record, SafeLine φ interpreter line)
        ↔ ∀ raw event, Written record raw event → event.getLast? ≠ some 10
          ∧ ∀ key value, (Key.text key, value) ∈ raw.items → ¬ Stray key value := by
  refine ⟨?_, emit_safe_iff laws⟩
  intro configured now event level service fields h
  cases configured with
  | none => exact iff_of_true ⟨[], rfl, by simp⟩ (Or.inl rfl)
  | some configuration =>
    rw [bounded_logEvent_iff laws h]
    simp

end Fields

/-! ## Samples -/

def apiService : Configuration := ⟨ofString "api", by decide⟩

def oneField (key : PyText) (value : FieldValue Unit) : Mapping PyText (FieldValue Unit) :=
  ⟨[(key, value)], by simp⟩

def emptyList : FieldValue Unit := .object fun _ => .error .membership

def otherRecord (key : PyText) (value : FieldValue Unit) (hkey : key ∉ reservedFields) :
    LogRecord Unit where
  levelname := ofString "INFO"
  created := some 0
  msg := .mapping ⟨[(.text (ofString "service"), .str (ofString "api")),
    (.text (ofString "event"), .str (ofString "job.started")), (.text key, value)], by
      simp only [reservedFields, mem_cons, not_or] at hkey
      have hdistinct : ofString "service" ≠ ofString "event" := by decide
      simp [hdistinct, Ne.symm hkey.2.2.1, Ne.symm hkey.2.2.2.1]⟩

theorem validCall_started : ValidCall (ofString "job.started") (ofString "info") none :=
  ⟨by decide, by decide, nofun⟩

open Pagination (noFloats noFloats_laws sampleInterpreter)
open FindingContract (asciiLower)

theorem log_boundary_started :
    letI := noFloats
    letI := asciiLower
    Bounded Unit sampleInterpreter (logEvent (some apiService) 0 (ofString "job.started")
        (ofString "info") none (oneField (ofString "job_id") (.str (ofString "job-1"))))
      ∧ ∀ line ∈ emit (otherRecord (ofString "note") (.str (ofString "a b")) (by decide)),
        SafeLine Unit sampleInterpreter line := by
  let _ := noFloats
  let _ := asciiLower
  obtain ⟨hcalls, hrecords⟩ := log_boundary_iff noFloats_laws sampleInterpreter
  constructor
  · refine (hcalls _ _ _ _ _ _ validCall_started).mpr (Or.inr ⟨?_, Or.inr ⟨by decide, ?_⟩⟩)
    · intro value e hmem
      cases mem_singleton.mp hmem
    · intro key value hmem hstray
      cases mem_singleton.mp hmem
      obtain ⟨-, hlast | ⟨hkey, -⟩⟩ := stray_str_iff.mp hstray
      · exact absurd hlast (by decide)
      · exact absurd hkey (by decide)
  · refine (hrecords _).mpr ?_
    rintro raw event hwritten
    obtain rfl := Message.mapping.inj hwritten.msg
    constructor
    · have hevent := get_eq_some_iff.mp hwritten.hasEvent
      simp only [mem_cons, not_mem_nil, or_false] at hevent
      obtain hevent | hevent | hevent := hevent
      · have hname : Key.text (ofString "event") = .text (ofString "service") :=
          congrArg Prod.fst hevent
        exact absurd hname (by decide)
      · obtain rfl := FieldValue.str.inj (congrArg Prod.snd hevent)
        decide
      · have hname : Key.text (ofString "event") = .text (ofString "note") :=
          congrArg Prod.fst hevent
        exact absurd hname (by decide)
    · rintro key value hmem ⟨text, -, haccepts, -⟩
      -- none of its three keys is on the allow list of fields
      have hlisted := (kept_of_accepts (φ := Unit) haccepts).listed
      simp only [mem_cons, not_mem_nil, or_false] at hmem
      obtain hkey | hkey | hkey := hmem
      all_goals
        rw [Key.text.inj (congrArg Prod.fst hkey)] at hlisted
        revert hlisted
        decide

/-- A request id with a line feed at its end is written as it is, and a list for a method raises. -/
theorem line_feed_written :
    letI := noFloats
    letI := asciiLower
    ¬ Bounded Unit sampleInterpreter (logEvent (some apiService) 0 (ofString "job.started")
        (ofString "info") none (oneField (ofString "request_id") (.str (ofString "abc\n"))))
      ∧ logEvent (some apiService) 0 (ofString "job.started") (ofString "info") none
          (oneField (ofString "http_method") emptyList) = .error .membership := by
  let _ := noFloats
  let _ := asciiLower
  constructor
  · rw [bounded_logEvent_iff noFloats_laws validCall_started]
    rintro ⟨-, ⟨isIn, hmem, -⟩ | ⟨-, hclean⟩⟩
    · cases mem_singleton.mp hmem
    · refine hclean _ _ mem_cons_self (stray_str_iff.mpr ⟨Or.inl ⟨?_, ?_⟩, Or.inl ?_⟩)
      all_goals decide
  · decide

end WebGuard.StructuredLogging
