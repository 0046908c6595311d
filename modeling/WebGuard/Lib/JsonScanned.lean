import Mathlib.Data.List.Induction
import Mathlib.Data.List.TakeWhile
import WebGuard.Lib.JsonRoundTrip

/-!
# What `json.loads` makes of a document

Without hooks, an object has each of its keys once, no text has two surrogates that belong together,
and integers and depths are within the limits of the interpreter.
-/

namespace PyJson

open List Option

variable {ε φ : Type}

/-! ## Texts -/

variable {n : Nat} {c : Char} {input rest : List Char} {text key : PyText} {units : List Nat}
  {value : Json PyText φ} {members : List (PyText × Json PyText φ)}

theorem hexDigitValue_lt (h : hexDigitValue c = some n) : n < 16 := by
  unfold hexDigitValue at h
  simp only [Char.le_def, UInt32.le_iff_toNat_le] at h
  split_ifs at h with hdigit hlower hupper
  · cases h
    have hle : c.toNat ≤ 57 := hdigit.2
    omega
  · cases h
    have hle : c.toNat ≤ 102 := hlower.2
    omega
  · cases h
    have hle : c.toNat ≤ 70 := hupper.2
    omega

theorem hexValue4_lt {a b d : Char} (h : hexValue4 a b c d = some n) : n < 0x10000 := by
  obtain ⟨x, hx, h⟩ := bind_eq_some_iff.mp h
  obtain ⟨y, hy, h⟩ := bind_eq_some_iff.mp h
  obtain ⟨z, hz, h⟩ := bind_eq_some_iff.mp h
  obtain ⟨w, hw, h⟩ := bind_eq_some_iff.mp h
  have hx := hexDigitValue_lt hx
  have hy := hexDigitValue_lt hy
  have hz := hexDigitValue_lt hz
  have hw := hexDigitValue_lt hw
  cases h
  omega

theorem simpleEscape_lt (h : simpleEscape c = some n) : n < 128 := by
  unfold simpleEscape at h
  split_ifs at h <;> cases h <;> decide

theorem toNat_lt (c : Char) : c.toNat < 0x110000 := by
  have hscalar := isScalar_toNat c
  simp only [isScalar, Bool.or_eq_true, Bool.and_eq_true, decide_eq_true_eq] at hscalar
  omega

theorem units_lt :
    ∀ {units : List Nat} {rest : List Char}, scanUnits input = some (units, rest) →
      ∀ n ∈ units, n < 0x110000 := by
  fun_induction scanUnits input with
  | case1 => simp
  | case2 rest =>
    intro units more h
    cases h
    simp
  | case3 a b c d rest n units rest' hrest hn ih =>
    intro found more h
    cases h
    exact forall_mem_cons.mpr ⟨by have := hexValue4_lt hn; omega, ih hrest⟩
  | case4 => simp
  | case5 c rest hu n units rest' hrest hn ih =>
    intro found more h
    cases h
    exact forall_mem_cons.mpr ⟨by have := simpleEscape_lt hn; omega, ih hrest⟩
  | case6 => simp
  | case7 => simp
  | case8 c rest hquote hunicode hescape hplain ih =>
    intro units more h
    obtain ⟨found, hfound, hmore⟩ := map_eq_some_iff.mp h
    cases hmore
    exact forall_mem_cons.mpr ⟨toNat_lt c, ih hfound⟩

theorem unpaired_cons (h : unpaired text = true)
    (hhead : ∀ m ∈ text.head?, (isHighSurrogate n && isLowSurrogate m) = false) :
    unpaired (n :: text) = true := by
  cases text with
  | nil => rfl
  | cons m rest =>
    rw [unpaired, h, Bool.and_true, hhead m rfl]
    rfl

theorem head_joinSurrogates {m : Nat} (h : m ∈ (joinSurrogates (n :: units)).head?) :
    m = n ∨ 0x10000 ≤ m := by
  cases units with
  | nil => exact Or.inl (by simpa [joinSurrogates, eq_comm] using h)
  | cons low rest =>
    rw [joinSurrogates] at h
    split at h
    · rw [head?_cons, mem_some_iff] at h
      exact Or.inr (by omega)
    · rw [head?_cons, mem_some_iff] at h
      exact Or.inl h.symm

/-- No pair is left once pairs are joined. -/
theorem unpaired_joinSurrogates (units : List Nat) : unpaired (joinSurrogates units) = true := by
  fun_induction joinSurrogates units with
  | case1 => rfl
  | case2 => rfl
  | case3 high low rest hpair ih =>
    refine unpaired_cons ih fun m _ => ?_
    simp only [isHighSurrogate, Bool.and_eq_false_iff, decide_eq_false_iff_not]
    omega
  | case4 high low rest hpair ih =>
    refine unpaired_cons ih fun m hm => ?_
    obtain rfl | hm := head_joinSurrogates hm
    · exact Bool.eq_false_iff.mpr hpair
    · simp only [isLowSurrogate, Bool.and_eq_false_iff, decide_eq_false_iff_not]
      omega

theorem joinSurrogates_lt (h : ∀ n ∈ units, n < 0x110000) :
    ∀ n ∈ joinSurrogates units, n < 0x110000 := by
  fun_induction joinSurrogates units with
  | case1 => simp
  | case2 n => exact h
  | case3 high low rest hpair ih =>
    rw [forall_mem_cons, forall_mem_cons] at h
    refine forall_mem_cons.mpr ⟨?_, ih h.2.2⟩
    simp only [isHighSurrogate, isLowSurrogate, Bool.and_eq_true, decide_eq_true_eq] at hpair
    omega
  | case4 high low rest hpair ih =>
    rw [forall_mem_cons] at h
    exact forall_mem_cons.mpr ⟨h.1, ih h.2⟩

theorem units_joinSurrogates (h : ∀ n ∈ units, n < 0x10000) :
    (joinSurrogates units).flatMap Mode.ascii.units = units := by
  fun_induction joinSurrogates units with
  | case1 => rfl
  | case2 n =>
    rw [flatMap_singleton, Mode.units, if_pos (h n mem_cons_self)]
  | case3 high low rest hpair ih =>
    rw [forall_mem_cons, forall_mem_cons] at h
    simp only [isHighSurrogate, isLowSurrogate, Bool.and_eq_true, decide_eq_true_eq] at hpair
    have hhigh : 0xD800 + (0x10000 + (high - 0xD800) * 1024 + (low - 0xDC00) - 0x10000) / 1024
        = high := by omega
    have hlow : 0xDC00 + (0x10000 + (high - 0xD800) * 1024 + (low - 0xDC00) - 0x10000) % 1024
        = low := by omega
    rw [flatMap_cons, ih h.2.2, Mode.units, if_neg (by omega), hhigh, hlow]
    rfl
  | case4 high low rest hpair ih =>
    rw [forall_mem_cons] at h
    rw [flatMap_cons, ih h.2, Mode.units, if_pos h.1]
    rfl

theorem renderText_joinSurrogates (h : text.all (· < 0x110000) = true) :
    renderText .ascii (joinSurrogates (text.flatMap Mode.ascii.units))
      = renderText .ascii text := by
  have hunits : ∀ n ∈ text.flatMap Mode.ascii.units, n < 0x10000 := by
    simpa [Mode.admits] using admits_ascii h
  rw [renderText, units_joinSurrogates hunits, ← renderText]

theorem readsBack_joinSurrogates (h : ∀ n ∈ units, n < 0x110000) :
    readsBack .ascii (joinSurrogates units) = true := by
  have hrange : (joinSurrogates units).all (· < 0x110000) = true := by
    simpa using joinSurrogates_lt h
  rw [readsBack, unpaired_joinSurrogates, hrange]
  rfl

/-- A scanned text can be written and read back. -/
theorem readsBack_of_scanText (h : scanText input = some (text, rest)) :
    readsBack .ascii text = true := by
  obtain ⟨⟨units, more⟩, hunits, htext⟩ := map_eq_some_iff.mp h
  cases htext
  exact readsBack_joinSurrogates (units_lt hunits)

/-! ## Integers -/

theorem ofDigitChars_lt {digits : List Char} (h : ∀ c ∈ digits, isDigit c = true) :
    Nat.ofDigitChars 10 digits 0 < 10 ^ digits.length := by
  induction digits using reverseRecOn with
  | nil => decide
  | append_singleton digits c ih =>
    have hlt := ih fun d hd => h d (mem_append_left [c] hd)
    have hdigit := h c (by simp)
    simp only [isDigit, Bool.and_eq_true, decide_eq_true_eq, Char.le_def,
      UInt32.le_iff_toNat_le] at hdigit
    have hc : c.toNat ≤ 57 := hdigit.2
    rw [Nat.ofDigitChars_append, Nat.ofDigitChars_cons, Nat.ofDigitChars_nil, length_append,
      length_singleton, Nat.pow_succ]
    show 10 * Nat.ofDigitChars 10 digits 0 + (c.toNat - 48) < _
    omega

theorem decimalLength_le {n : Int} {digits : List Char} (hne : digits ≠ [])
    (h : ∀ c ∈ digits, isDigit c = true) (hn : n.natAbs = Nat.ofDigitChars 10 digits 0) :
    decimalLength n ≤ digits.length := by
  have hpos := length_pos_iff.mpr hne
  rw [decimalLength, hn, Nat.length_toDigits_le_iff (by decide) (by omega)]
  exact ofDigitChars_lt h

theorem matchInteger_digits {text : List Char} (h : matchInteger input = some (text, rest)) :
    ∃ sign digits, text = sign ++ digits ∧ (sign = [] ∨ sign = ['-']) ∧ digits ≠ [] ∧
      ∀ c ∈ digits, isDigit c = true := by
  have hsign : (matchMinus input).1 = [] ∨ (matchMinus input).1 = ['-'] := by
    unfold matchMinus
    split
    · exact Or.inl rfl
    · split
      · next hminus =>
        rw [hminus]
        exact Or.inr rfl
      · exact Or.inl rfl
  unfold matchInteger at h
  dsimp only at h
  split at h
  · cases h
  · next c more hmore =>
    split_ifs at h with hzero hdigit
    · cases h
      exact ⟨_, ['0'], rfl, hsign, by simp, by simp; rfl⟩
    · cases h
      refine ⟨_, _, rfl, hsign, by simp, forall_mem_cons.mpr ⟨hdigit, ?_⟩⟩
      exact fun d hd => mem_takeWhile_imp hd

/-- A scanned integer has no more digits than its text. -/
theorem decimalLength_integerOf {text : List Char} (h : matchInteger input = some (text, rest)) :
    decimalLength (integerOf text) ≤ (text.filter isDigit).length := by
  obtain ⟨sign, digits, rfl, hsign, hne, hdigits⟩ := matchInteger_digits h
  have hfilter : (sign ++ digits).filter isDigit = digits := by
    rw [filter_append, filter_eq_self.mpr hdigits]
    obtain rfl | rfl := hsign
    · rfl
    · rfl
  rw [hfilter]
  refine decimalLength_le hne hdigits ?_
  obtain rfl | rfl := hsign
  · cases digits with
    | nil => exact absurd rfl hne
    | cons c more =>
      have hc : c ≠ '-' := ne_of_isDigit (hdigits c mem_cons_self) rfl
      rw [nil_append]
      unfold integerOf
      split
      · next heq =>
        cases heq
        exact absurd rfl hc
      · exact Int.natAbs_natCast _
  · show (-(Nat.ofDigitChars 10 digits 0 : Int)).natAbs = _
    rw [Int.natAbs_neg, Int.natAbs_natCast]

/-! ## Values -/

mutual

/-- A value that is read with `depth` containers still to open. -/
def Scanned (maximumDigits depth : Nat) : Json PyText φ → Prop
  | .null => True
  | .bool _ => True
  | .int n => decimalLength n ≤ maximumDigits
  | .float _ => True
  | .str s => readsBack .ascii s = true
  | .arr items => depth ≠ 0 ∧ ScannedItems maximumDigits (depth - 1) items
  | .obj members =>
    depth ≠ 0 ∧ (members.map Prod.fst).Nodup ∧ ScannedMembers maximumDigits (depth - 1) members

def ScannedItems (maximumDigits depth : Nat) : List (Json PyText φ) → Prop
  | [] => True
  | item :: rest => Scanned maximumDigits depth item ∧ ScannedItems maximumDigits depth rest

def ScannedMembers (maximumDigits depth : Nat) : List (PyText × Json PyText φ) → Prop
  | [] => True
  | (key, value) :: rest =>
    readsBack .ascii key = true ∧ Scanned maximumDigits depth value ∧
      ScannedMembers maximumDigits depth rest

end

section

variable {maximumDigits depth : Nat}

theorem scannedItems_append {items : List (Json PyText φ)} {item : Json PyText φ}
    (hitems : ScannedItems maximumDigits depth items) (h : Scanned maximumDigits depth item) :
    ScannedItems maximumDigits depth (items ++ [item]) := by
  induction items with
  | nil => exact ⟨h, trivial⟩
  | cons first rest ih => exact ⟨hitems.1, ih hitems.2⟩

theorem scannedMembers_append (hmembers : ScannedMembers maximumDigits depth members)
    (hkey : readsBack .ascii key = true) (h : Scanned maximumDigits depth value) :
    ScannedMembers maximumDigits depth (members ++ [(key, value)]) := by
  induction members with
  | nil => exact ⟨hkey, h, trivial⟩
  | cons first rest ih => exact ⟨hmembers.1, hmembers.2.1, ih hmembers.2.2⟩

theorem scannedMembers_insertMember (hmembers : ScannedMembers maximumDigits depth members)
    (hkey : readsBack .ascii key = true) (h : Scanned maximumDigits depth value) :
    ScannedMembers maximumDigits depth (insertMember key value members) := by
  induction members with
  | nil => exact ⟨hkey, h, trivial⟩
  | cons first rest ih =>
    obtain ⟨k, v⟩ := first
    rw [insertMember]
    split
    · exact ⟨hmembers.1, h, hmembers.2.2⟩
    · exact ⟨hmembers.1, hmembers.2.1, ih hmembers.2.2⟩

end

theorem keys_insertMember (h : key ∈ members.map Prod.fst) :
    (insertMember key value members).map Prod.fst = members.map Prod.fst := by
  induction members with
  | nil => cases h
  | cons member rest ih =>
    obtain ⟨k, v⟩ := member
    rw [insertMember]
    split
    · rfl
    · next hne =>
      rw [map_cons, map_cons, ih]
      exact (mem_cons.mp h).resolve_left fun heq => hne heq.symm

/-- A key that is there is overwritten, so none comes twice. -/
theorem nodup_insertMember (h : (members.map Prod.fst).Nodup) :
    ((insertMember key value members).map Prod.fst).Nodup := by
  by_cases hmem : key ∈ members.map Prod.fst
  · rwa [keys_insertMember hmem]
  · rw [insertMember_of_not_mem hmem, map_append]
    exact h.append (nodup_singleton key) (by simpa using hmem)

theorem scanned_dictOf {maximumDigits depth : Nat} {pairs : List (PyText × Json PyText φ)}
    (h : ScannedMembers maximumDigits depth pairs) :
    ((dictOf pairs).map Prod.fst).Nodup ∧ ScannedMembers maximumDigits depth (dictOf pairs) := by
  have hfold : ∀ (pairs done : List (PyText × Json PyText φ)),
      ScannedMembers maximumDigits depth pairs → (done.map Prod.fst).Nodup →
      ScannedMembers maximumDigits depth done →
      ((pairs.foldl (fun members pair => insertMember pair.1 pair.2 members) done).map
        Prod.fst).Nodup ∧ ScannedMembers maximumDigits depth
          (pairs.foldl (fun members pair => insertMember pair.1 pair.2 members) done) := by
    intro pairs
    induction pairs with
    | nil => exact fun done _ hnodup hdone => ⟨hnodup, hdone⟩
    | cons pair rest ih =>
      intro done hpairs hnodup hdone
      exact ih _ hpairs.2.2 (nodup_insertMember hnodup)
        (scannedMembers_insertMember hdone hpairs.1 hpairs.2.1)
  exact hfold pairs [] h nodup_nil trivial

/-! ## Scans -/

variable [PyFloat φ]

/-- No hook: a dictionary has the last value of each key, and every constant is a float. -/
structure Hookless (hooks : Hooks ε φ) : Prop where
  pairs : ∀ members, hooks.pairs members = .ok (.obj (dictOf members))
  constant : ∀ c, hooks.constant c = .ok (.float (PyFloat.ofConstant c))

theorem Hookless.keepsPairs {hooks : Hooks ε φ} (h : Hookless hooks) : KeepsPairs hooks := by
  intro members hnodup
  rw [h.pairs, dictOf_of_nodup hnodup]

section

omit [PyFloat φ]

/-- A scan that answers with a value of a kind, if it does with any. -/
def Answers (kind : Json PyText φ → Prop)
    (answer : Except (ScanError ε) (Json PyText φ × List Char)) : Prop :=
  ∀ value rest, answer = .ok (value, rest) → kind value

variable {kind : Json PyText φ → Prop}

theorem Answers.error {e : ScanError ε} :
    Answers kind (.error e) := by
  intro value rest h
  cases h

theorem Answers.ok (h : kind value) (rest : List Char) :
    Answers (ε := ε) kind (.ok (value, rest)) := by
  rintro found more ⟨⟩
  exact h

theorem Answers.word {word input : List Char}
    {found : List Char → Except (ScanError ε) (Json PyText φ × List Char)}
    {otherwise : Except (ScanError ε) (Json PyText φ × List Char)}
    (hfound : ∀ rest, Answers kind (found rest)) (hotherwise : Answers kind otherwise) :
    Answers kind (match after word input with
      | some rest => found rest
      | none => otherwise) := by
  cases after word input with
  | none => exact hotherwise
  | some rest => exact hfound rest

end

variable {hooks : Hooks ε φ}

theorem answers_scanNumber (depth : Nat) (input : List Char) :
    Answers (Scanned hooks.maximumDigits depth) (scanNumber hooks input) := by
  unfold scanNumber
  split
  · exact .error
  · next integer rest hinteger =>
    dsimp only
    split_ifs with hplain hdigits
    · exact .error
    · exact .ok (by
        have hlength := decimalLength_integerOf hinteger
        show decimalLength _ ≤ _
        omega) _
    · exact .ok trivial _

/-- The induction over the fuel, for values, items and members at once. -/
theorem answers_scan (h : Hookless hooks) (fuel : Nat) :
    (∀ depth input, Answers (Scanned hooks.maximumDigits depth) (scanOnce hooks fuel depth input))
      ∧ (∀ depth items input, ScannedItems hooks.maximumDigits (depth - 1) items → depth ≠ 0 →
        Answers (Scanned hooks.maximumDigits depth)
          (scanItems hooks fuel (depth - 1) items input))
      ∧ (∀ depth members input, ScannedMembers hooks.maximumDigits (depth - 1) members →
        depth ≠ 0 → Answers (Scanned hooks.maximumDigits depth)
          (scanMembers hooks fuel (depth - 1) members input)) := by
  have hobject : ∀ {depth : Nat} {members : List (PyText × Json PyText φ)} (rest : List Char),
      ScannedMembers hooks.maximumDigits (depth - 1) members → depth ≠ 0 →
      Answers (Scanned hooks.maximumDigits depth) (hooked (hooks.pairs members) rest) := by
    intro depth members rest hmembers hdepth
    rw [h.pairs]
    exact .ok ⟨hdepth, scanned_dictOf hmembers⟩ rest
  have hconstant : ∀ (depth : Nat) (c : Constant) (rest : List Char),
      Answers (Scanned hooks.maximumDigits depth) (hooked (hooks.constant c) rest) := by
    intro depth c rest
    rw [h.constant]
    exact .ok trivial rest
  induction fuel with
  | zero => exact ⟨fun _ _ => .error, fun _ _ _ _ _ => .error, fun _ _ _ _ _ => .error⟩
  | succ fuel ih =>
    obtain ⟨honce, hitems, hmembers⟩ := ih
    refine ⟨?_, ?_, ?_⟩
    · intro depth input
      unfold scanOnce
      cases input with
      | nil => exact .error
      | cons c rest =>
        dsimp only
        split_ifs with hquote hbrace hdepth hbracket hdepth
        · cases htext : scanText rest with
          | none => exact .error
          | some found => exact .ok (readsBack_of_scanText htext) _
        · exact .error
        · cases after ['\x7d'] (skipWhitespace rest) with
          | none => exact hmembers depth [] _ trivial hdepth
          | some more => exact hobject more trivial hdepth
        · exact .error
        · cases after [']'] (skipWhitespace rest) with
          | none => exact hitems depth [] _ trivial hdepth
          | some more => exact .ok ⟨hdepth, trivial⟩ more
        · refine .word (fun _ => .ok trivial _) ?_
          refine .word (fun _ => .ok trivial _) ?_
          refine .word (fun _ => .ok trivial _) ?_
          refine .word (fun _ => hconstant _ _ _) ?_
          refine .word (fun _ => hconstant _ _ _) ?_
          refine .word (fun _ => hconstant _ _ _) ?_
          exact answers_scanNumber depth _
    · intro depth items input hdone hdepth
      unfold scanItems
      cases hscan : scanOnce hooks fuel (depth - 1) input with
      | error e => exact .error
      | ok found =>
        obtain ⟨item, rest⟩ := found
        have hall := scannedItems_append hdone (honce (depth - 1) input item rest hscan)
        dsimp only
        cases skipWhitespace rest with
        | nil => exact .error
        | cons c more =>
          dsimp only
          split_ifs
          · exact .ok ⟨hdepth, hall⟩ more
          · exact hitems depth _ _ hall hdepth
          · exact .error
    · intro depth members input hdone hdepth
      unfold scanMembers
      cases after ['"'] input with
      | none => exact .error
      | some afterQuote =>
      dsimp only
      cases hkey : scanText afterQuote with
      | none => exact .error
      | some found =>
      obtain ⟨key, afterKey⟩ := found
      dsimp only
      cases after [':'] (skipWhitespace afterKey) with
      | none => exact .error
      | some afterColon =>
      dsimp only
      cases hscan : scanOnce hooks fuel (depth - 1) (skipWhitespace afterColon) with
      | error e => exact .error
      | ok found =>
        obtain ⟨value, rest⟩ := found
        have hall := scannedMembers_append hdone (readsBack_of_scanText hkey)
          (honce (depth - 1) _ value rest hscan)
        dsimp only
        cases skipWhitespace rest with
        | nil => exact .error
        | cons c more =>
          dsimp only
          split_ifs
          · exact hobject more hall hdepth
          · exact hmembers depth _ _ hall hdepth
          · exact .error

/-- Whatever is read could have been written. -/
theorem loads_scanned (h : Hookless hooks) {document : List Char}
    (hloads : loads hooks document = .ok value) :
    Scanned hooks.maximumDigits hooks.recursionLimit value := by
  unfold loads at hloads
  split at hloads
  · cases hloads
  · cases hscan : scanOnce hooks (2 * document.length + 1) hooks.recursionLimit
        (skipWhitespace document) with
    | error e =>
      rw [hscan] at hloads
      cases hloads
    | ok found =>
      obtain ⟨v, rest⟩ := found
      rw [hscan] at hloads
      dsimp only at hloads
      split at hloads
      · cases hloads
        exact (answers_scan h _).1 _ _ _ _ hscan
      · cases hloads

end PyJson
