import WebGuard.Detection.RequestTemplates
import WebGuard.Lib.JsonScanned

/-!
# Dictionaries of parameters, and what `urlencode` writes of them
-/

namespace WebGuard.RequestTemplates

open PyJson List

/-! ## Assignments -/

section

variable {name value : PyText} {fields : List (PyText × PyText)}

theorem assign_of_not_mem (h : name ∉ fields.map Prod.fst) :
    assign name value fields = fields ++ [(name, value)] := by
  induction fields with
  | nil => rfl
  | cons field rest ih =>
    obtain ⟨n, v⟩ := field
    rw [map_cons, mem_cons, not_or] at h
    rw [assign, if_neg (fun hn => h.1 hn.symm), ih h.2, cons_append]

theorem names_assign (h : name ∈ fields.map Prod.fst) :
    (assign name value fields).map Prod.fst = fields.map Prod.fst := by
  induction fields with
  | nil => cases h
  | cons field rest ih =>
    obtain ⟨n, v⟩ := field
    rw [assign]
    split
    · rfl
    · next hne =>
      rw [map_cons, map_cons, ih]
      exact (mem_cons.mp h).resolve_left fun heq => hne heq.symm

theorem length_assign (h : name ∈ fields.map Prod.fst) :
    (assign name value fields).length = fields.length := by
  have hnames : (assign name value fields).map Prod.fst = fields.map Prod.fst := names_assign h
  have hlength := congrArg length hnames
  rwa [length_map, length_map] at hlength

theorem mem_assign : (name, value) ∈ assign name value fields := by
  induction fields with
  | nil => exact mem_singleton_self _
  | cons field rest ih =>
    obtain ⟨n, v⟩ := field
    rw [assign]
    split
    · next hn =>
      rw [hn]
      exact mem_cons_self
    · exact mem_cons_of_mem _ ih

theorem assign_lookup (h : fields.lookup name = some value) :
    assign name value fields = fields := by
  induction fields with
  | nil => cases h
  | cons field rest ih =>
    obtain ⟨n, v⟩ := field
    rw [lookup_cons] at h
    rw [assign]
    split
    · next hn =>
      subst hn
      rw [beq_self_eq_true] at h
      cases h
      rfl
    · next hn =>
      have hne : (name == n) = false := beq_false_of_ne fun heq => hn heq.symm
      rw [hne] at h
      rw [ih h]

/-- Fields in which one value may be another one, and the rest is as before. -/
structure Replaced (name value : PyText) (before after : List (PyText × PyText)) : Prop where
  others : List.Forall₂
    (fun b a => a.1 = b.1 ∧ (a.2 = b.2 ∨ b.1 = name ∧ a.2 = value)) before after
  mem : (name, value) ∈ after

theorem replaced_assign (h : name ∈ fields.map Prod.fst) :
    Replaced name value fields (assign name value fields) := by
  refine ⟨?_, mem_assign⟩
  have hsame : ∀ fields : List (PyText × PyText), List.Forall₂
      (fun b a => a.1 = b.1 ∧ (a.2 = b.2 ∨ b.1 = name ∧ a.2 = value)) fields fields :=
    fun fields => forall₂_same.mpr fun _ _ => ⟨rfl, Or.inl rfl⟩
  induction fields with
  | nil => cases h
  | cons field rest ih =>
    obtain ⟨n, v⟩ := field
    rw [assign]
    split
    · next hn => exact .cons ⟨rfl, Or.inr ⟨hn, rfl⟩⟩ (hsame rest)
    · next hn =>
      have hmem := (mem_cons.mp h).resolve_left fun heq => hn heq.symm
      exact .cons ⟨rfl, Or.inl rfl⟩ (ih hmem)

end

/-! ## Dictionaries -/

variable {pairs : List (PyText × PyText)}

theorem dictionary_of_nodup (h : (pairs.map Prod.fst).Nodup) :
    dictionary pairs = pairs := by
  have hfold : ∀ (pairs done : List (PyText × PyText)), ((done ++ pairs).map Prod.fst).Nodup →
      pairs.foldl (fun fields pair => assign pair.1 pair.2 fields) done = done ++ pairs := by
    intro pairs
    induction pairs with
    | nil => simp
    | cons pair rest ih =>
      intro done hnodup
      have hnot : pair.1 ∉ done.map Prod.fst := by
        rw [map_append, map_cons, nodup_append] at hnodup
        intro hmem
        exact hnodup.2.2 pair.1 hmem pair.1 mem_cons_self rfl
      rw [foldl_cons, assign_of_not_mem hnot, ih, append_assoc, singleton_append]
      rwa [append_assoc, singleton_append]
  exact hfold pairs [] h

theorem names_nodup_of_length (h : pairs.length ≤ (dictionary pairs).length) :
    (pairs.map Prod.fst).Nodup := by
  have hfold : ∀ (pairs done : List (PyText × PyText)), (done.map Prod.fst).Nodup →
      (pairs.foldl (fun fields pair => assign pair.1 pair.2 fields) done).length
          ≤ done.length + pairs.length ∧
        (done.length + pairs.length
            ≤ (pairs.foldl (fun fields pair => assign pair.1 pair.2 fields) done).length →
          ((done ++ pairs).map Prod.fst).Nodup) := by
    intro pairs
    induction pairs with
    | nil => simp
    | cons pair rest ih =>
      intro done hdone
      rw [foldl_cons, length_cons]
      by_cases hmem : pair.1 ∈ done.map Prod.fst
      · have hlength : (assign pair.1 pair.2 done).length = done.length := length_assign hmem
        have hle := (ih (assign pair.1 pair.2 done) (by rwa [names_assign hmem])).1
        rw [hlength] at hle
        exact ⟨by omega, by omega⟩
      · have hnodup : ((done ++ [pair]).map Prod.fst).Nodup := by
          rw [map_append]
          exact hdone.append (nodup_singleton pair.1) (by simpa using hmem)
        have hassign : assign pair.1 pair.2 done = done ++ [pair] := assign_of_not_mem hmem
        have hrest := ih (done ++ [pair]) hnodup
        rw [length_append, length_singleton, append_assoc,
          singleton_append] at hrest
        rw [hassign]
        exact ⟨by omega, fun hle => hrest.2 (by omega)⟩
  refine (hfold pairs [] nodup_nil).2 ?_
  rw [length_nil, Nat.zero_add]
  exact h

theorem length_dictionary_le (pairs : List (PyText × PyText)) :
    (dictionary pairs).length ≤ pairs.length := by
  by_contra hlt
  rw [dictionary_of_nodup (names_nodup_of_length (by omega))] at hlt
  exact hlt le_rfl

/-! ## `urlencode` -/

theorem quotePlus_ampersand (text : PyText) : 38 ∉ quotePlus text := by
  intro hmem
  obtain ⟨byte, -, hbyte⟩ := mem_flatMap.mp hmem
  unfold quoteByte at hbyte
  split_ifs at hbyte with hsafe
  · rw [mem_singleton] at hbyte
    subst hbyte
    exact absurd hsafe (by decide)
  · simp at hbyte
  · simp only [mem_cons, not_mem_nil, or_false, upperHexDigit] at hbyte
    split_ifs at hbyte <;> omega

theorem count_urlencode (fields : List (PyText × PyText)) :
    (urlencode fields).count 38 = fields.length - 1 := by
  have hquoted : ∀ text, (quotePlus text).count 38 = 0 := fun text =>
    count_eq_zero.mpr (quotePlus_ampersand text)
  induction fields with
  | nil => rfl
  | cons field rest ih =>
    obtain ⟨name, value⟩ := field
    cases rest with
    | nil => simp [urlencode, hquoted]
    | cons next more =>
      rw [urlencode]
      · simp only [count_append, count_cons, hquoted, ih, length_cons]
        simp
      · simp

theorem utf8Bytes_lt {n : Nat} (h : n < 0x110000) : ∀ byte ∈ utf8Bytes n, byte < 256 := by
  unfold utf8Bytes
  split_ifs
  all_goals
    simp only [forall_mem_cons, not_mem_nil, false_implies, implies_true, and_true]
    omega

theorem quoteByte_lt {byte : Nat} (h : byte < 256) : ∀ n ∈ quoteByte byte, n < 128 := by
  unfold quoteByte
  split_ifs with hsafe
  · simp only [isSafeByte, Bool.or_eq_true, Bool.and_eq_true, decide_eq_true_eq] at hsafe
    simp only [forall_mem_cons, not_mem_nil, false_implies, implies_true, and_true]
    omega
  · simp
  · simp only [forall_mem_cons, not_mem_nil, false_implies, implies_true, and_true,
      upperHexDigit]
    refine ⟨by omega, ?_, ?_⟩
    · split_ifs <;> omega
    · split_ifs <;> omega

variable {text : PyText}

theorem quotePlus_lt (h : isEncodable text = true) : ∀ n ∈ quotePlus text, n < 128 := by
  intro n hn
  obtain ⟨byte, hbyte, hn⟩ := mem_flatMap.mp hn
  obtain ⟨point, hpoint, hbyte⟩ := mem_flatMap.mp hbyte
  have hscalar := all_eq_true.mp h point hpoint
  simp only [isScalar, Bool.or_eq_true, Bool.and_eq_true, decide_eq_true_eq] at hscalar
  exact quoteByte_lt (utf8Bytes_lt (by omega) byte hbyte) n hn

variable {fields : List (PyText × PyText)}

theorem urlencode_lt
    (h : ∀ field ∈ fields, isEncodable field.1 = true ∧ isEncodable field.2 = true) :
    ∀ n ∈ urlencode fields, n < 128 := by
  induction fields with
  | nil => simp [urlencode]
  | cons field rest ih =>
    obtain ⟨name, value⟩ := field
    rw [forall_mem_cons] at h
    have hname := quotePlus_lt h.1.1
    have hvalue := quotePlus_lt h.1.2
    cases rest with
    | nil =>
      rw [urlencode, forall_mem_append, forall_mem_cons]
      exact ⟨hname, by decide, hvalue⟩
    | cons next more =>
      rw [urlencode]
      · rw [forall_mem_append, forall_mem_append, forall_mem_cons,
          forall_mem_cons]
        exact ⟨⟨hname, by decide, hvalue⟩, by decide, ih h.2⟩
      · simp

theorem urlencoded_eq_ok :
    urlencoded fields = .ok text ↔
      (∀ field ∈ fields, isEncodable field.1 = true ∧ isEncodable field.2 = true) ∧
        text = urlencode fields := by
  unfold urlencoded
  simp only [all_eq_true, Bool.and_eq_true]
  split
  · next h => exact ⟨fun heq => ⟨h, (Except.ok.inj heq).symm⟩, fun heq => by rw [heq.2]⟩
  · next h =>
    constructor
    · intro heq
      cases heq
    · exact fun heq => absurd heq.1 h

/-! ## UTF-8 -/

theorem encoded_of_ascii (h : ∀ n ∈ text, n < 128) : encoded text = .ok text := by
  have hencodable : isEncodable text = true := by
    refine all_eq_true.mpr fun n hn => ?_
    have hlt := h n hn
    simp only [isScalar, Bool.or_eq_true, decide_eq_true_eq]
    omega
  have hbytes : text.flatMap utf8Bytes = text := by
    calc text.flatMap utf8Bytes = text.flatMap fun n => [n] :=
          flatMap_congr fun n hn => if_pos (h n hn)
      _ = text := flatMap_singleton' text
  unfold encoded encodeUtf8
  rw [if_pos hencodable, hbytes]

theorem ascii_of_encoded {bytes : List Nat} (h : encoded text = .ok bytes)
    (hbytes : ∀ byte ∈ bytes, byte < 128) : text = bytes := by
  have hlt : ∀ n ∈ text, n < 128 := by
    intro n hn
    unfold encoded encodeUtf8 at h
    split at h
    · next found hfound =>
      split_ifs at hfound
      cases hfound
      cases h
      by_contra hlarge
      have hall : ∀ byte ∈ utf8Bytes n, byte < 128 := fun byte hbyte =>
        hbytes byte (mem_flatMap.mpr ⟨n, hn, hbyte⟩)
      unfold utf8Bytes at hall
      split_ifs at hall
      all_goals
        rw [forall_mem_cons] at hall
        omega
    · cases h
  rw [encoded_of_ascii hlt] at h
  exact Except.ok.inj h

end WebGuard.RequestTemplates
