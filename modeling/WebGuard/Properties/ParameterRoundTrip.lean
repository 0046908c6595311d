import WebGuard.Detection.JsonParameters
import WebGuard.Properties.ParameterGrammar

/-!
# Enumerated parameters of a JSON document
-/

namespace WebGuard.RequestTemplates

open PyJson List
open ScanPermits (asciiTables)

/-! ## Indices -/

theorem indexText_ascii (n : Nat) : asciiIndex (indexText n) = some n := by
  have hdigits : ∀ c ∈ Nat.toDigits 10 n, 48 ≤ c.toNat ∧ c.toNat ≤ 57 := by
    intro c hc
    have hdigit : c.isDigit = true := Nat.isDigit_of_mem_toDigits (by decide) (by decide) hc
    rw [Char.isDigit, Bool.and_eq_true, decide_eq_true_eq, decide_eq_true_eq] at hdigit
    exact hdigit
  have hvalue : digitsToNat ((indexText n).map (· - 48)) = n := by
    have h : Nat.ofDigitChars 10 (Nat.toDigits 10 n) 0 = n := Nat.ofDigitChars_ten_toDigits
    rw [Nat.ofDigitChars_eq_foldl] at h
    unfold digitsToNat indexText
    rw [map_map, foldl_map]
    exact h
  unfold asciiIndex
  rw [if_pos, hvalue]
  simp only [Bool.and_eq_true, Bool.not_eq_true', all_eq_true, decide_eq_true_eq]
  refine ⟨by simp [indexText, Nat.toDigits_ne_nil], fun m hm => ?_⟩
  obtain ⟨c, hc, rfl⟩ := mem_map.mp hm
  exact hdigits c hc

theorem digitsToNat_lt {digits : List Nat} (h : ∀ d ∈ digits, d < 10) :
    digitsToNat digits < 10 ^ digits.length := by
  induction digits using reverseRecOn with
  | nil => decide
  | append_singleton digits d ih =>
    have hlt := ih fun e he => h e (mem_append_left [d] he)
    have hd := h d (by simp)
    unfold digitsToNat at hlt ⊢
    rw [foldl_append, length_append, length_singleton, Nat.pow_succ]
    simp only [foldl_cons, foldl_nil]
    omega

section

variable [DigitTable] {limit : Nat}

theorem decimal_values {text : PyText} {digits : List Nat}
    (h : text.mapM DigitTable.decimal = some digits) :
    digits.length = text.length ∧ ∀ d ∈ digits, d < 10 := by
  induction text generalizing digits with
  | nil =>
    cases h
    simp
  | cons n rest ih =>
    rw [mapM_cons] at h
    obtain ⟨d, hd, hrest⟩ := Option.bind_eq_some_iff.mp h
    obtain ⟨ds, hds, heq⟩ := Option.bind_eq_some_iff.mp hrest
    cases heq
    obtain ⟨hlength, hlt⟩ := ih hds
    refine ⟨by simp [hlength], fun e he => ?_⟩
    obtain rfl | he := mem_cons.mp he
    · exact DigitTable.decimal_lt n e hd
    · exact hlt e he

theorem length_of_scanned {digits : PyText} {n : Nat} (h : scannedIndex limit digits = some n) :
    (indexText n).length ≤ limit := by
  unfold scannedIndex intOf at h
  rw [Option.ite_none_right_eq_some, Option.ite_none_left_eq_some, Option.map_eq_some_iff] at h
  obtain ⟨hdigits, hlimit, ds, hds, rfl⟩ := h
  obtain ⟨hlength, hlt⟩ := decimal_values hds
  have hpos : 0 < digits.length := by
    cases digits with
    | nil => cases hdigits
    | cons n rest => simp
  rw [indexText, length_map, Nat.length_toDigits_le_iff (by decide) (by omega)]
  calc digitsToNat ds < 10 ^ ds.length := digitsToNat_lt hlt
    _ ≤ 10 ^ limit := Nat.pow_le_pow_right (by decide) (by omega)

/-! ## Places and their paths -/

variable (limit) in
/-- A name without a character of the syntax, or an index that is not too long for `int`. -/
def Spelled : JsonSegment → Prop
  | .name text => IsName text
  | .index n => (indexText n).length ≤ limit

instance : DecidablePred (Spelled limit)
  | .name text => inferInstanceAs (Decidable (text ≠ [] ∧ text.all isNameCharacter = true))
  | .index n => inferInstanceAs (Decidable ((indexText n).length ≤ limit))

theorem scannedIndex_indexText {n : Nat} (h : Spelled limit (.index n)) :
    scannedIndex limit (indexText n) = some n :=
  scanned_of_length (indexText_ascii n) h

variable {segments : List JsonSegment}

theorem tail_of_spelled (h : ∀ segment ∈ segments, Spelled limit segment) :
    ∃ text, PathTail True (scannedIndex limit) (· = []) segments text ∧
      ∀ front ≠ [], spell front segments = front ++ text := by
  induction segments with
  | nil => exact ⟨[], .stop rfl, by simp [spell]⟩
  | cons segment rest ih =>
    obtain ⟨text, htail, hspell⟩ := ih fun other hother => h other (mem_cons_of_mem _ hother)
    have hsegment := h segment mem_cons_self
    cases segment with
    | name key =>
      refine ⟨_, .name hsegment htail, fun front hfront => ?_⟩
      have hpath : memberPath front key = front ++ 46 :: key := by simp [memberPath, hfront]
      rw [spell, hpath, hspell _ (by simp)]
      simp
    | index n =>
      refine ⟨_, .index (scannedIndex_indexText hsegment) htail, fun front _ => ?_⟩
      rw [spell, itemPath, hspell _ (by simp)]
      simp

theorem path_of_spelled (hne : segments ≠ []) (h : ∀ segment ∈ segments, Spelled limit segment) :
    IsLoosePath limit segments (spell [] segments) := by
  cases segments with
  | nil => exact absurd rfl hne
  | cons segment rest =>
    obtain ⟨text, htail, hspell⟩ :=
      tail_of_spelled fun other hother => h other (mem_cons_of_mem segment hother)
    have hsegment := h segment mem_cons_self
    cases segment with
    | name key =>
      have hname : IsName key := hsegment
      rw [spell, memberPath, isEmpty_nil, if_pos rfl, hspell key hname.1]
      exact .name hname htail
    | index n =>
      rw [spell, itemPath, nil_append, hspell _ (by simp)]
      have hpath : IsLoosePath limit (.index n :: rest) (91 :: (indexText n ++ 93 :: text)) :=
        .index (scannedIndex_indexText hsegment) htail
      simpa using hpath

theorem PathTail.spelled {tail : List JsonSegment} {text : PyText}
    (h : PathTail True (scannedIndex limit) (· = []) tail text) :
    ∀ segment ∈ tail, Spelled limit segment := by
  induction h with
  | stop => simp
  | name h _ ih => exact forall_mem_cons.mpr ⟨h, ih⟩
  | index h _ ih | dottedIndex _ h _ ih =>
    exact forall_mem_cons.mpr ⟨length_of_scanned h, ih⟩

theorem spelled_of_path {path : PyText} (h : IsLoosePath limit segments path) :
    ∀ segment ∈ segments, Spelled limit segment := by
  cases h with
  | name h rest => exact forall_mem_cons.mpr ⟨h, rest.spelled⟩
  | index h rest => exact forall_mem_cons.mpr ⟨length_of_scanned h, rest.spelled⟩

/-! ## The round trip -/

variable [UnicodeTables] {φ : Type} (limit) (budget : JsonMutationBudget)

/-- The enumerated paths are all different, and each one leads back to its leaf. -/
structure RoundTrips (document : Json PyText φ) : Prop where
  distinct : (enumerateJsonParameterPaths budget document).Nodup
  found : ∀ leaf ∈ jsonLeaves budget document, ∃ segments,
    parseJsonParameterPath limit leaf.path = .ok segments ∧ segments = leaf.address ∧
      getJsonValue document segments = .ok leaf.value

/-- **The round trip holds exactly when the names in front of the leaves have no syntax in them.** -/
theorem parameter_round_trip {document : Json PyText φ} (hdistinct : Distinct document) :
    RoundTrips limit budget document ↔
      ∀ leaf ∈ documentLeaves budget document, ∀ segment ∈ leaf.address, Spelled limit segment := by
  rw [← jsonLeaves_eq]
  have hleaf : ∀ leaf ∈ jsonLeaves budget document, leaf.path = spell [] leaf.address ∧
      leaf.path ≠ [] ∧ Found budget document (leaf.address, leaf.value) := by
    rw [jsonLeaves_eq]
    exact fun leaf => documentLeaves_found budget hdistinct
  constructor
  · intro h leaf hmem
    obtain ⟨segments, hparse, rfl, -⟩ := h.found leaf hmem
    exact spelled_of_path (parse_eq_ok.mp hparse)
  · intro h
    have hparse : ∀ leaf ∈ jsonLeaves budget document,
        parseJsonParameterPath limit leaf.path = .ok leaf.address := by
      intro leaf hmem
      obtain ⟨hpath, hne, -⟩ := hleaf leaf hmem
      have haddress : leaf.address ≠ [] := by
        intro hnil
        rw [hpath, hnil] at hne
        exact hne rfl
      rw [parse_eq_ok, hpath]
      exact path_of_spelled haddress (h leaf hmem)
    refine ⟨?_, fun leaf hmem => ⟨leaf.address, hparse leaf hmem, rfl, (hleaf leaf hmem).2.2.value⟩⟩
    -- Parsing tells the places of two paths apart.
    have haddresses := documentLeaves_nodup budget hdistinct
    rw [← jsonLeaves_eq] at haddresses
    refine List.Nodup.of_map (parseJsonParameterPath limit) ?_
    have hmap : (enumerateJsonParameterPaths budget document).map (parseJsonParameterPath limit)
        = ((jsonLeaves budget document).map JsonLeaf.address).map .ok := by
      unfold enumerateJsonParameterPaths
      rw [map_map, map_map]
      exact map_congr_left hparse
    rw [hmap]
    exact haddresses.map fun first second heq => Except.ok.inj heq

end

def plainDocument : Json PyText Unit :=
  .obj [(ofString "user", .obj [(ofString "email", .str (ofString "a@b.example"))]),
    (ofString "items", .arr [.int 7, .null, .bool true])]

theorem plainDocument_round_trips :
    letI := superscriptDigits
    letI := asciiTables
    RoundTrips 4300 defaultJsonMutationBudget plainDocument := by
  let _ := superscriptDigits
  let _ := asciiTables
  refine (parameter_round_trip 4300 defaultJsonMutationBudget ?_).mpr ?_
  · simp only [plainDocument, Distinct, DistinctMembers, DistinctItems]
    decide
  · have hall : (documentLeaves defaultJsonMutationBudget plainDocument).all
        (fun leaf => leaf.address.all fun segment => decide (Spelled 4300 segment)) = true := by
      decide
    simpa only [all_eq_true, decide_eq_true_eq] using hall

def dottedDocument : Json PyText Unit :=
  .obj [(ofString "a.b", .int 1), (ofString "a", .obj [(ofString "b", .int 2)])]

/-- **Two leaves have one path.** -/
theorem dottedDocument_not_round_trips :
    letI := superscriptDigits
    letI := asciiTables
    ¬RoundTrips 4300 defaultJsonMutationBudget dottedDocument := by
  let _ := superscriptDigits
  let _ := asciiTables
  intro h
  exact absurd h.distinct (by decide)

end WebGuard.RequestTemplates
