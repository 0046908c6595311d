import Mathlib.Tactic.IntervalCases
import WebGuard.Lib.JsonScan

/-!
# Reading back texts and numbers

A text that was written is scanned as the text it was. In an ASCII document everything outside
ASCII is an escape, and a code point above the basic plane is a pair of them: a text in which two
surrogates that belong together stand as two code points is read as one code point, and such a
text does not come back (`readsBack`).

* `scanText_render` — a written text, with anything behind it;
* `scanNumber_renderInt`, `scanNumber_repr` — a written number, in front of what ends it.
-/

namespace PyJson

open List Option Mode

/-! ## Code units -/

-- The equations for an escape and for a character that stands for itself, by name.
alias scanUnits_escape := scanUnits.eq_4
alias scanUnits_other := scanUnits.eq_5

theorem hexDigitValue_hexDigit : ∀ n : Nat, n < 16 → hexDigitValue (hexDigit n) = some n := by
  decide

variable {n : Nat} {mode : Mode} {c : Char} {text : PyText} {rest : List Char}

theorem hexValue4_unicodeEscape (h : n < 0x10000) :
    hexValue4 (hexDigit (n / 4096 % 16)) (hexDigit (n / 256 % 16)) (hexDigit (n / 16 % 16))
      (hexDigit (n % 16)) = some n := by
  unfold hexValue4
  rw [hexDigitValue_hexDigit _ (by omega), hexDigitValue_hexDigit _ (by omega),
    hexDigitValue_hexDigit _ (by omega), hexDigitValue_hexDigit _ (by omega)]
  have hn : 4096 * (n / 4096 % 16) + 256 * (n / 256 % 16) + 16 * (n / 16 % 16) + n % 16 = n := by
    omega
  exact congrArg some hn

/-- What a code unit has to be for its mode to write it. -/
def Mode.admits : Mode → Nat → Bool
  | .ascii, n => n < 0x10000
  | .utf8, n => isScalar n

theorem toNat_ofNat_of_isScalar (h : isScalar n = true) : (Char.ofNat n).toNat = n := by
  have hvalid : n.isValidChar := by
    simp only [isScalar, Bool.or_eq_true, Bool.and_eq_true, decide_eq_true_eq] at h
    unfold Nat.isValidChar
    omega
  unfold Char.ofNat
  rw [dif_pos hvalid]
  rfl

theorem verbatim_spec (hadmits : mode.admits n = true) (h : mode.verbatim n = true) :
    isScalar n = true ∧ 32 ≤ n ∧ n ≠ 34 ∧ n ≠ 92 := by
  cases mode with
  | ascii =>
    simp only [verbatim, Bool.and_eq_true, decide_eq_true_eq] at h
    obtain ⟨⟨⟨hlow, hhigh⟩, hquote⟩, hslash⟩ := h
    refine ⟨?_, hlow, hquote, hslash⟩
    simp only [isScalar, Bool.or_eq_true, decide_eq_true_eq]
    exact Or.inl (by omega)
  | utf8 =>
    simp only [verbatim, Bool.and_eq_true, decide_eq_true_eq] at h
    obtain ⟨⟨hlow, hquote⟩, hslash⟩ := h
    exact ⟨hadmits, hlow, hquote, hslash⟩

theorem lt_of_not_verbatim (hadmits : mode.admits n = true) (h : mode.verbatim n = false) :
    n < 0x10000 := by
  cases mode with
  | ascii => simpa [admits] using hadmits
  | utf8 =>
    simp only [verbatim, Bool.and_eq_false_iff, decide_eq_false_iff_not, not_le,
      not_not] at h
    omega

theorem scanUnits_char (hquote : c ≠ '"') (hslash : c ≠ '\\') (h : 32 ≤ c.toNat)
    (rest : List Char) :
    scanUnits (c :: rest) = (scanUnits rest).map fun (units, rest) => (c.toNat :: units, rest) := by
  rw [scanUnits_other]
  · rw [if_neg]
    simp only [hslash, decide_false, Bool.false_or, decide_eq_true_eq]
    omega
  all_goals simp_all

theorem scanUnits_unicode {a b d : Char} (h : hexValue4 a b c d = some n) (rest : List Char) :
    scanUnits ('\\' :: 'u' :: a :: b :: c :: d :: rest)
      = (scanUnits rest).map fun (units, rest) => (n :: units, rest) := by
  rw [scanUnits, h]
  cases scanUnits rest with
  | none => rfl
  | some found => rfl

theorem scanUnits_simple (hu : c ≠ 'u') (h : simpleEscape c = some n) (rest : List Char) :
    scanUnits ('\\' :: c :: rest)
      = (scanUnits rest).map fun (units, rest) => (n :: units, rest) := by
  rw [scanUnits_escape, h]
  · cases scanUnits rest with
    | none => rfl
    | some found => rfl
  · intro a b c d e hc
    exact absurd hc hu

/-- An escaped unit is scanned back. -/
theorem scanUnits_escapeUnit (h : mode.admits n = true) (rest : List Char) :
    scanUnits (escapeUnit mode n ++ rest)
      = (scanUnits rest).map fun (units, rest) => (n :: units, rest) := by
  unfold escapeUnit
  by_cases hverbatim : mode.verbatim n = true
  · obtain ⟨hscalar, hlow, hquote, hslash⟩ := verbatim_spec h hverbatim
    have hnat := toNat_ofNat_of_isScalar hscalar
    rw [if_pos hverbatim, List.singleton_append, scanUnits_char, hnat]
    · intro hc
      rw [hc] at hnat
      exact hquote hnat.symm
    · intro hc
      rw [hc] at hnat
      exact hslash hnat.symm
    · omega
  · rw [if_neg hverbatim]
    split_ifs with h34 h92 h10 h13 h9 h12 h8
    · subst h34
      exact scanUnits_simple (by decide) rfl rest
    · subst h92
      exact scanUnits_simple (by decide) rfl rest
    · subst h10
      exact scanUnits_simple (by decide) rfl rest
    · subst h13
      exact scanUnits_simple (by decide) rfl rest
    · subst h9
      exact scanUnits_simple (by decide) rfl rest
    · subst h12
      exact scanUnits_simple (by decide) rfl rest
    · subst h8
      exact scanUnits_simple (by decide) rfl rest
    · have hlt := lt_of_not_verbatim h (by simpa using hverbatim)
      exact scanUnits_unicode (hexValue4_unicodeEscape hlt) rest

theorem scanUnits_escapeUnits {units : List Nat} (h : ∀ n ∈ units, mode.admits n = true)
    (rest : List Char) :
    scanUnits (units.flatMap (escapeUnit mode) ++ '"' :: rest) = some (units, rest) := by
  induction units with
  | nil => rw [flatMap_nil, nil_append, scanUnits]
  | cons n units ih =>
    rw [flatMap_cons, append_assoc, scanUnits_escapeUnit (h n mem_cons_self),
      ih (fun m hm => h m (mem_cons_of_mem _ hm)), map_some]

/-! ## Surrogates -/

/-- No two surrogates that belong together stand next to each other. -/
def unpaired : PyText → Bool
  | [] => true
  | [_] => true
  | high :: low :: rest => !(isHighSurrogate high && isLowSurrogate low) && unpaired (low :: rest)

/-- A text that is read back as it was written. -/
def readsBack : Mode → PyText → Bool
  | .ascii, text => unpaired text && text.all (· < 0x110000)
  | .utf8, text => isEncodable text

theorem unpaired_tail (h : unpaired (n :: text) = true) : unpaired text = true := by
  cases text with
  | nil => rfl
  | cons m rest =>
    rw [unpaired, Bool.and_eq_true] at h
    exact h.2

theorem unpaired_of_isEncodable (h : isEncodable text = true) : unpaired text = true := by
  induction text with
  | nil => rfl
  | cons n rest ih =>
    rw [isEncodable, all_cons, Bool.and_eq_true] at h
    cases rest with
    | nil => rfl
    | cons m rest =>
      rw [unpaired, Bool.and_eq_true]
      refine ⟨?_, ih h.2⟩
      have hn := h.1
      simp only [isScalar, Bool.or_eq_true, Bool.and_eq_true, decide_eq_true_eq] at hn
      simp only [isHighSurrogate, Bool.not_eq_true', Bool.and_eq_false_iff,
        decide_eq_false_iff_not]
      omega

theorem joinSurrogates_cons {units : List Nat}
    (h : ∀ m ∈ units.head?, (isHighSurrogate n && isLowSurrogate m) = false) :
    joinSurrogates (n :: units) = n :: joinSurrogates units := by
  cases units with
  | nil => rfl
  | cons m rest => rw [joinSurrogates, if_neg (by simp [h m rfl])]

theorem joinSurrogates_pair (hlow : 0x10000 ≤ n) (hhigh : n < 0x110000) (units : List Nat) :
    joinSurrogates ((0xD800 + (n - 0x10000) / 1024) :: (0xDC00 + (n - 0x10000) % 1024) :: units)
      = n :: joinSurrogates units := by
  have hpair : (isHighSurrogate (0xD800 + (n - 0x10000) / 1024)
      && isLowSurrogate (0xDC00 + (n - 0x10000) % 1024)) = true := by
    simp only [isHighSurrogate, isLowSurrogate, Bool.and_eq_true, decide_eq_true_eq]
    omega
  have hjoined : 0x10000 + (0xD800 + (n - 0x10000) / 1024 - 0xD800) * 1024
      + (0xDC00 + (n - 0x10000) % 1024 - 0xDC00) = n := by
    omega
  rw [joinSurrogates, if_pos hpair, hjoined]

theorem head_units {m : Nat} (hm : m ∈ (text.flatMap ascii.units).head?)
    (hlow : isLowSurrogate m = true) (hrange : text.all (· < 0x110000) = true) :
    ∃ rest, text = m :: rest := by
  cases text with
  | nil => simp at hm
  | cons n rest =>
    rw [all_cons, Bool.and_eq_true, decide_eq_true_eq] at hrange
    rw [flatMap_cons, units] at hm
    split at hm
    · simp only [singleton_append, head?_cons, mem_some_iff] at hm
      exact ⟨rest, by rw [hm]⟩
    · simp only [cons_append, head?_cons, mem_some_iff] at hm
      simp only [isLowSurrogate, Bool.and_eq_true, decide_eq_true_eq] at hlow
      omega

/-- The pairs of an encoded text are joined again. -/
theorem joinSurrogates_units (h : unpaired text = true) (hrange : text.all (· < 0x110000) = true) :
    joinSurrogates (text.flatMap ascii.units) = text := by
  induction text with
  | nil => rfl
  | cons n rest ih =>
    have htail := hrange
    rw [all_cons, Bool.and_eq_true, decide_eq_true_eq] at htail
    have hrest := ih (unpaired_tail h) htail.2
    rw [flatMap_cons]
    by_cases hbasic : n < 0x10000
    · rw [units, if_pos hbasic, singleton_append, joinSurrogates_cons, hrest]
      intro m hm
      by_cases hlow : isLowSurrogate m = true
      · obtain ⟨more, hmore⟩ := head_units hm hlow htail.2
        rw [hmore, unpaired, Bool.and_eq_true, Bool.not_eq_true'] at h
        exact h.1
      · simp [hlow]
    · rw [units, if_neg hbasic, cons_append, singleton_append,
        joinSurrogates_pair (by omega) htail.1, hrest]

theorem joinSurrogates_of_unpaired (h : unpaired text = true) : joinSurrogates text = text := by
  induction text with
  | nil => rfl
  | cons n rest ih =>
    rw [joinSurrogates_cons, ih (unpaired_tail h)]
    intro m hm
    cases rest with
    | nil => simp at hm
    | cons k rest =>
      rw [head?_cons, mem_some_iff] at hm
      rw [unpaired, Bool.and_eq_true, Bool.not_eq_true', hm] at h
      exact h.1

theorem flatMap_units_utf8 (text : PyText) : text.flatMap utf8.units = text := by
  induction text with
  | nil => rfl
  | cons n rest ih =>
    rw [flatMap_cons, ih]
    rfl

theorem admits_ascii (h : text.all (· < 0x110000) = true) :
    ∀ n ∈ text.flatMap ascii.units, ascii.admits n = true := by
  intro n hn
  obtain ⟨m, hm, hn⟩ := mem_flatMap.mp hn
  have hrange : m < 0x110000 := by simpa using all_eq_true.mp h m hm
  rw [units] at hn
  simp only [admits, decide_eq_true_eq]
  split at hn
  · rw [mem_singleton] at hn
    omega
  · simp only [mem_cons, not_mem_nil, or_false] at hn
    omega

theorem admits_units (h : readsBack mode text = true) :
    ∀ n ∈ text.flatMap mode.units, mode.admits n = true := by
  cases mode with
  | ascii =>
    rw [readsBack, Bool.and_eq_true] at h
    exact admits_ascii h.2
  | utf8 =>
    intro n hn
    rw [flatMap_units_utf8] at hn
    exact all_eq_true.mp h n hn

theorem joinSurrogates_written (h : readsBack mode text = true) :
    joinSurrogates (text.flatMap mode.units) = text := by
  cases mode with
  | ascii =>
    rw [readsBack, Bool.and_eq_true] at h
    exact joinSurrogates_units h.1 h.2
  | utf8 =>
    rw [flatMap_units_utf8]
    exact joinSurrogates_of_unpaired (unpaired_of_isEncodable h)

theorem isScalar_toNat (c : Char) : isScalar c.toNat = true := by
  have hvalid := c.valid
  simp only [isScalar, Bool.or_eq_true, Bool.and_eq_true, decide_eq_true_eq]
  unfold UInt32.isValidChar Nat.isValidChar at hvalid
  unfold Char.toNat
  omega

theorem readsBack_of_isEncodable (h : isEncodable text = true) : readsBack mode text = true := by
  cases mode with
  | ascii =>
    rw [readsBack, Bool.and_eq_true]
    refine ⟨unpaired_of_isEncodable h, all_eq_true.mpr ?_⟩
    intro n hn
    have hscalar := all_eq_true.mp h n hn
    simp only [isScalar, Bool.or_eq_true, Bool.and_eq_true, decide_eq_true_eq] at hscalar ⊢
    omega
  | utf8 => exact h

theorem isEncodable_ofString (s : String) : isEncodable (ofString s) = true := by
  refine all_eq_true.mpr ?_
  intro n hn
  obtain ⟨c, -, rfl⟩ := mem_map.mp hn
  exact isScalar_toNat c

/-- A rendered text is scanned back. -/
theorem scanText_render (h : readsBack mode text = true) (rest : List Char) :
    ∃ body, renderText mode text ++ rest = '"' :: body ∧ scanText body = some (text, rest) := by
  refine ⟨(text.flatMap mode.units).flatMap (escapeUnit mode) ++ '"' :: rest, ?_, ?_⟩
  · simp [renderText]
  · rw [scanText, scanUnits_escapeUnits (admits_units h), map_some]
    exact congrArg (fun found => some (found, rest)) (joinSurrogates_written h)

/-! ## Texts that are written alike -/

/-- Rendered texts can be told apart from what follows them. -/
theorem renderText_append_inj {other : PyText} (htext : text.all (· < 0x110000) = true)
    (hother : other.all (· < 0x110000) = true) {tail : List Char}
    (h : renderText .ascii text ++ rest = renderText .ascii other ++ tail) :
    text.flatMap ascii.units = other.flatMap ascii.units ∧ rest = tail := by
  have hbody : (text.flatMap ascii.units).flatMap (escapeUnit .ascii) ++ '"' :: rest =
      (other.flatMap Mode.ascii.units).flatMap (escapeUnit .ascii) ++ '"' :: tail := by
    simpa [renderText] using h
  have hscan := scanUnits_escapeUnits (admits_ascii htext) rest
  rw [hbody, scanUnits_escapeUnits (admits_ascii hother), some.injEq, Prod.mk.injEq] at hscan
  exact ⟨hscan.1.symm, hscan.2.symm⟩

/-- The members of an object that has only texts. -/
def textMembers {φ : Type} (members : List (PyText × PyText)) : List (PyText × Json PyText φ) :=
  members.map fun member => (member.1, .str member.2)

/-- The code units of the texts. -/
def memberUnits (members : List (PyText × PyText)) : List (List Nat) :=
  members.map fun member => member.2.flatMap ascii.units

section

variable {φ : Type} [PyFloat φ]

theorem renderMoreMembers_texts : ∀ {members others : List (PyText × PyText)},
    members.map Prod.fst = others.map Prod.fst →
    (∀ member ∈ members, member.2.all (· < 0x110000) = true) →
    (∀ member ∈ others, member.2.all (· < 0x110000) = true) →
    (renderMoreMembers .ascii (textMembers (φ := φ) members)
      = renderMoreMembers .ascii (textMembers (φ := φ) others) ↔
        memberUnits members = memberUnits others)
  | [], [], _, _, _ => by simp [textMembers, memberUnits]
  | [], _ :: _, hkeys, _, _ => by simp at hkeys
  | _ :: _, [], hkeys, _, _ => by simp at hkeys
  | (key, text) :: members, (key', other) :: others, hkeys, htexts, hothers => by
    rw [map_cons, map_cons, cons.injEq] at hkeys
    obtain ⟨rfl, hkeys⟩ := hkeys
    rw [forall_mem_cons] at htexts hothers
    have ih := renderMoreMembers_texts hkeys htexts.2 hothers.2
    simp only [textMembers, memberUnits, map_cons, renderMoreMembers, render, cons.injEq,
      append_assoc, cons_append, true_and, append_cancel_left_eq] at ih ⊢
    constructor
    · intro h
      obtain ⟨hunits, hrest⟩ := renderText_append_inj htexts.1 hothers.1 h
      exact ⟨hunits, ih.mp hrest⟩
    · rintro ⟨hunits, hrest⟩
      rw [ih.mpr hrest]
      simp only [renderText, hunits]

theorem render_texts {members others : List (PyText × PyText)}
    (hkeys : members.map Prod.fst = others.map Prod.fst)
    (htexts : ∀ member ∈ members, member.2.all (· < 0x110000) = true)
    (hothers : ∀ member ∈ others, member.2.all (· < 0x110000) = true) :
    render .ascii (.obj (textMembers (φ := φ) members))
      = render .ascii (.obj (textMembers (φ := φ) others)) ↔
        memberUnits members = memberUnits others := by
  have hmore := renderMoreMembers_texts (φ := φ) hkeys htexts hothers
  rw [← hmore]
  cases members with
  | nil =>
    cases others with
    | nil => simp
    | cons _ _ => simp at hkeys
  | cons member members =>
    cases others with
    | nil => simp at hkeys
    | cons other others => simp [textMembers, render, renderMembers, renderMoreMembers]

end

/-! ## Numbers -/

/-- `-?(0|[1-9][0-9]*)`, matched whole. -/
def IsInteger (text : List Char) : Prop :=
  ∃ sign c cs, text = sign ++ c :: cs ∧ (sign = [] ∨ sign = ['-']) ∧ isDigit c = true
    ∧ (c = '0' → cs = []) ∧ ∀ d ∈ cs, isDigit d = true

/-- `(\.[0-9]+)?`, matched whole. -/
def IsFraction (text : List Char) : Prop :=
  text = [] ∨ ∃ c cs, text = '.' :: c :: cs ∧ isDigit c = true ∧ ∀ d ∈ cs, isDigit d = true

/-- `(e[-+]?[0-9]+)?`, matched whole. -/
def IsExponent (text : List Char) : Prop :=
  text = [] ∨ ∃ sign c cs, text = 'e' :: (sign ++ c :: cs)
    ∧ (sign = [] ∨ sign = ['+'] ∨ sign = ['-']) ∧ isDigit c = true ∧ ∀ d ∈ cs, isDigit d = true

/-- What a float and its text have to do with each other: `repr` writes a number with a fraction or
an exponent, in 24 characters at most, and `float` of that text is the float again. -/
structure FloatLaws (φ : Type) [PyFloat φ] : Prop where
  ofText_repr : ∀ x : φ, PyFloat.isFinite x = true → PyFloat.ofText (PyFloat.repr x) = x
  repr_text : ∀ x : φ, PyFloat.isFinite x = true → ∃ integer fraction exponent,
    PyFloat.repr x = integer ++ (fraction ++ exponent) ∧ IsInteger integer ∧ IsFraction fraction
      ∧ IsExponent exponent ∧ (fraction.isEmpty && exponent.isEmpty) = false
  length_repr : ∀ x : φ, PyFloat.isFinite x = true → (PyFloat.repr x).length ≤ 24

/-- Nothing here continues a number. -/
def EndsNumber (rest : List Char) : Prop :=
  ∀ c ∈ rest.head?, isDigit c = false ∧ c ≠ '.' ∧ c ≠ 'e' ∧ c ≠ 'E'

theorem ne_of_isDigit {d : Char} (h : isDigit c = true) (hd : isDigit d = false) : c ≠ d := by
  intro hc
  rw [hc, hd] at h
  exact Bool.noConfusion h

theorem span_digits {ds : List Char} (h : ∀ c ∈ ds, isDigit c = true)
    (hrest : ∀ c ∈ rest.head?, isDigit c = false) :
    (ds ++ rest).takeWhile isDigit = ds ∧ (ds ++ rest).dropWhile isDigit = rest := by
  have hstop : rest.takeWhile isDigit = [] ∧ rest.dropWhile isDigit = rest := by
    cases rest with
    | nil => exact ⟨rfl, rfl⟩
    | cons c rest =>
      have hc := hrest c rfl
      simp [hc]
  rw [takeWhile_append_of_pos h, dropWhile_append_of_pos h, hstop.1, hstop.2,
    append_nil]
  exact ⟨rfl, rfl⟩

variable {text : List Char}

theorem matchInteger_append (h : IsInteger text)
    (hrest : ∀ c ∈ rest.head?, isDigit c = false) :
    matchInteger (text ++ rest) = some (text, rest) := by
  obtain ⟨sign, c, cs, rfl, hsign, hc, hzero, hcs⟩ := h
  have hminus : c ≠ '-' := ne_of_isDigit hc rfl
  have hspan := span_digits hcs hrest
  unfold matchInteger
  by_cases h0 : c = '0'
  · subst h0
    rw [hzero rfl]
    rcases hsign with rfl | rfl
    · simp [matchMinus]
    · simp [matchMinus]
  · rcases hsign with rfl | rfl
    · simp [matchMinus, hminus, h0, hc, hspan]
    · simp [matchMinus, h0, hc, hspan]

theorem matchFraction_append (h : IsFraction text)
    (hrest : ∀ c ∈ rest.head?, isDigit c = false ∧ c ≠ '.') :
    matchFraction (text ++ rest) = (text, rest) := by
  rcases h with rfl | ⟨c, cs, rfl, hc, hcs⟩
  · cases rest with
    | nil => rfl
    | cons d rest =>
      have hd := (hrest d rfl).2
      rw [nil_append, matchFraction]
      intro more hmore
      exact hd (cons.inj hmore).1
  · have hspan := span_digits hcs (fun c hc => (hrest c hc).1)
    simp [matchFraction, hc, hspan]

theorem matchExponent_append (h : IsExponent text) (hrest : EndsNumber rest) :
    matchExponent (text ++ rest) = (text, rest) := by
  rcases h with rfl | ⟨sign, c, cs, rfl, hsign, hc, hcs⟩
  · cases rest with
    | nil => rfl
    | cons d rest =>
      obtain ⟨-, -, he, hE⟩ := hrest d rfl
      simp [matchExponent, he, hE]
  · have hplus : c ≠ '+' := ne_of_isDigit hc rfl
    have hminus : c ≠ '-' := ne_of_isDigit hc rfl
    have hspan := span_digits hcs (fun c hc => (hrest c hc).1)
    rcases hsign with rfl | rfl | rfl
    · simp [matchExponent, matchSign, hplus, hminus, hc, hspan]
    · simp [matchExponent, matchSign, hc, hspan]
    · simp [matchExponent, matchSign, hc, hspan]

section

variable {ε φ : Type} [PyFloat φ] {hooks : Hooks ε φ}

theorem scanNumber_integer {text : List Char} (h : IsInteger text) (hrest : EndsNumber rest)
    (hdigits : (text.filter isDigit).length ≤ hooks.maximumDigits) :
    scanNumber hooks (text ++ rest) = .ok (.int (integerOf text), rest) := by
  have hfraction : matchFraction rest = ([], rest) :=
    matchFraction_append (Or.inl rfl) (fun c hc => ⟨(hrest c hc).1, (hrest c hc).2.1⟩)
  have hexponent : matchExponent rest = ([], rest) := matchExponent_append (Or.inl rfl) hrest
  unfold scanNumber
  rw [matchInteger_append h (fun c hc => (hrest c hc).1)]
  simp only [hfraction, hexponent, isEmpty_nil, Bool.and_self, if_true]
  rw [if_neg (by omega)]

theorem scanNumber_float {integer fraction exponent : List Char} (hinteger : IsInteger integer)
    (hfraction : IsFraction fraction) (hexponent : IsExponent exponent) (hrest : EndsNumber rest)
    (h : (fraction.isEmpty && exponent.isEmpty) = false) :
    scanNumber hooks (integer ++ (fraction ++ exponent) ++ rest)
      = .ok (.float (PyFloat.ofText (integer ++ (fraction ++ exponent))), rest) := by
  have hafter : ∀ c ∈ (exponent ++ rest).head?, isDigit c = false ∧ c ≠ '.' := by
    intro c hc
    rcases hexponent with rfl | ⟨sign, d, ds, rfl, -, -, -⟩
    · exact ⟨(hrest c hc).1, (hrest c hc).2.1⟩
    · simp only [cons_append, head?_cons, mem_some_iff] at hc
      subst hc
      exact ⟨rfl, by decide⟩
  have hpoint : ∀ c ∈ (fraction ++ (exponent ++ rest)).head?, isDigit c = false := by
    intro c hc
    rcases hfraction with rfl | ⟨d, ds, rfl, -, -⟩
    · exact (hafter c hc).1
    · simp only [cons_append, head?_cons, mem_some_iff] at hc
      subst hc
      rfl
  unfold scanNumber
  rw [append_assoc, append_assoc, matchInteger_append hinteger hpoint]
  simp only [matchFraction_append hfraction hafter, matchExponent_append hexponent hrest, h,
    append_assoc, Bool.false_eq_true, if_false]

/-- The text of a double is scanned back. -/
theorem scanNumber_repr (laws : FloatLaws φ) {x : φ} (h : PyFloat.isFinite x = true)
    (hrest : EndsNumber rest) :
    scanNumber hooks (PyFloat.repr x ++ rest) = .ok (.float x, rest) := by
  obtain ⟨integer, fraction, exponent, hrepr, hinteger, hfraction, hexponent, hsome⟩ :=
    laws.repr_text x h
  have hx := laws.ofText_repr x h
  rw [hrepr] at hx ⊢
  rw [scanNumber_float hinteger hfraction hexponent hrest hsome, hx]

theorem isDigit_of_mem_toDigits (h : c ∈ Nat.toDigits 10 n) : isDigit c = true := by
  have hc := Nat.isDigit_of_mem_toDigits (by decide) (by decide) h
  simpa [isDigit, Char.isDigit, Char.le_def] using hc

theorem head_toDigits (h : 0 < n) : ∃ c cs, Nat.toDigits 10 n = c :: cs ∧ c ≠ '0' := by
  induction n using Nat.strongRecOn with
  | ind n ih =>
    by_cases hn : n < 10
    · rw [Nat.toDigits_of_lt_base hn]
      refine ⟨_, [], rfl, ?_⟩
      interval_cases n <;> decide
    · obtain ⟨c, cs, hdigits, hc⟩ := ih (n / 10) (by omega) (by omega)
      rw [Nat.toDigits_of_base_le (by decide) (by omega), hdigits]
      exact ⟨c, cs ++ _, rfl, hc⟩

theorem isInteger_toDigits (n : Nat) (sign : List Char) (hsign : sign = [] ∨ sign = ['-']) :
    IsInteger (sign ++ Nat.toDigits 10 n) := by
  by_cases hn : n = 0
  · subst hn
    exact ⟨sign, '0', [], rfl, hsign, rfl, fun _ => rfl, by simp⟩
  · obtain ⟨c, cs, hdigits, hc⟩ := head_toDigits (Nat.pos_of_ne_zero hn)
    have hall : ∀ d ∈ c :: cs, isDigit d = true := by
      intro d hd
      rw [← hdigits] at hd
      exact isDigit_of_mem_toDigits hd
    refine ⟨sign, c, cs, by rw [hdigits], hsign, hall c mem_cons_self, ?_, ?_⟩
    · intro h0
      exact absurd h0 hc
    · intro d hd
      exact hall d (mem_cons_of_mem _ hd)

/-- A rendered integer is an integer of the grammar. -/
theorem isInteger_renderInt (n : Int) : IsInteger (renderInt n) := by
  unfold renderInt
  split
  · exact isInteger_toDigits n.natAbs ['-'] (Or.inr rfl)
  · exact isInteger_toDigits n.natAbs [] (Or.inl rfl)

theorem integerOf_renderInt (n : Int) : integerOf (renderInt n) = n := by
  unfold renderInt
  split
  · rw [integerOf, Nat.ofDigitChars_ten_toDigits]
    omega
  · rw [integerOf.eq_2, Nat.ofDigitChars_ten_toDigits]
    · omega
    · intro ds hds
      have hminus : '-' ∈ Nat.toDigits 10 n.natAbs := by rw [hds]; exact mem_cons_self
      exact absurd (isDigit_of_mem_toDigits hminus) (by decide)

/-- The number of digits an integer is written with. -/
def decimalLength (n : Int) : Nat := (Nat.toDigits 10 n.natAbs).length

theorem filter_renderInt (n : Int) : ((renderInt n).filter isDigit).length = decimalLength n := by
  have hall : (Nat.toDigits 10 n.natAbs).filter isDigit = Nat.toDigits 10 n.natAbs :=
    filter_eq_self.mpr fun c hc => isDigit_of_mem_toDigits hc
  unfold renderInt decimalLength
  split
  · rw [filter_cons_of_neg (by decide), hall]
  · rw [hall]

/-- It is scanned back if it has few enough digits. -/
theorem scanNumber_renderInt {n : Int} (h : decimalLength n ≤ hooks.maximumDigits)
    (hrest : EndsNumber rest) : scanNumber hooks (renderInt n ++ rest) = .ok (.int n, rest) := by
  rw [← filter_renderInt] at h
  rw [scanNumber_integer (isInteger_renderInt n) hrest h, integerOf_renderInt]

end

end PyJson
