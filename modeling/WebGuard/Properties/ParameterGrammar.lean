import WebGuard.Detection.JsonPaths
import WebGuard.Properties.PermitCodec

/-!
# The grammar of JSON parameter paths
-/

namespace WebGuard.RequestTemplates

open PyJson List Bool
open ScanPermits (asciiTables)

/-! ## The grammar and the scanner -/

section

variable [DigitTable] {limit : Nat}

theorem decimal_digits {text : PyText} (h : ∀ n ∈ text, 48 ≤ n ∧ n ≤ 57) :
    text.mapM DigitTable.decimal = some (text.map (· - 48)) := by
  induction text with
  | nil => rfl
  | cons n rest ih =>
    have hn := h n mem_cons_self
    rw [mapM_cons, DigitTable.decimal_ascii n hn.1 hn.2,
      ih fun m hm => h m (mem_cons_of_mem n hm)]
    rfl

variable {digits : PyText} {n : Nat}

theorem isDigitText_ascii (h : asciiIndex digits = some n) : isDigitText digits = true := by
  unfold asciiIndex at h
  rw [Option.ite_none_right_eq_some] at h
  have hcheck := h.1
  simp only [and_eq_true, not_eq_true', all_eq_true, decide_eq_true_eq] at hcheck
  unfold isDigitText
  simp only [and_eq_true, not_eq_true', all_eq_true]
  exact ⟨hcheck.1, fun n hn =>
    (DigitTable.isDigit_ascii n (by have := hcheck.2 n hn; omega)).mpr (hcheck.2 n hn)⟩

theorem scanned_of_length (h : asciiIndex digits = some n) (hlength : digits.length ≤ limit) :
    scannedIndex limit digits = some n := by
  unfold scannedIndex intOf
  rw [if_pos (isDigitText_ascii h), if_neg (by omega)]
  unfold asciiIndex at h
  rw [Option.ite_none_right_eq_some] at h
  obtain ⟨hcheck, hvalue⟩ := h
  simp only [and_eq_true, not_eq_true', all_eq_true, decide_eq_true_eq] at hcheck
  rw [decimal_digits hcheck.2]
  exact hvalue

variable (limit) in
theorem scanned_of_ascii (h : asciiIndex digits = some n) :
    scannedIndex limit digits = some n ∨
      isDigitText digits = true ∧ intOf limit digits = none := by
  by_cases hlength : limit < digits.length
  · right
    unfold intOf
    exact ⟨isDigitText_ascii h, if_pos hlength⟩
  · exact .inl (scanned_of_length h (by omega))

variable (limit) in
theorem PathTail.loose {tail : List JsonSegment} {text : PyText}
    (h : PathTail False asciiIndex (· = []) tail text) :
    PathTail True (scannedIndex limit) (· = []) tail text ∨
      ∃ tail', PathTail True (scannedIndex limit) (EndsRefused limit) tail' text := by
  induction h with
  | stop h => exact .inl (.stop h)
  | name h rest ih =>
    obtain hloose | ⟨tail', hrefused⟩ := ih
    · exact .inl (.name h hloose)
    · exact .inr ⟨_, .name h hrefused⟩
  | index h rest ih =>
    obtain hindex | ⟨hdigits, hnone⟩ := scanned_of_ascii limit h
    · obtain hloose | ⟨tail', hrefused⟩ := ih
      · exact .inl (.index hindex hloose)
      · exact .inr ⟨_, .index hindex hrefused⟩
    · exact .inr ⟨[], .stop (.inl ⟨_, _, rfl, hdigits, hnone⟩)⟩
  | dottedIndex hdotted => exact hdotted.elim

variable (limit) in
theorem IsPath.loose {segments : List JsonSegment} {path : PyText} (h : IsPath segments path) :
    IsLoosePath limit segments path ∨ HasRefusedIndex limit path := by
  cases h with
  | name h rest =>
    obtain hloose | ⟨tail', hrefused⟩ := rest.loose limit
    · exact .inl (.name h hloose)
    · exact .inr (.inr ⟨_, .name h hrefused⟩)
  | index h rest =>
    obtain hindex | ⟨hdigits, hnone⟩ := scanned_of_ascii limit h
    · obtain hloose | ⟨tail', hrefused⟩ := rest.loose limit
      · exact .inl (.index hindex hloose)
      · exact .inr (.inr ⟨_, .index hindex hrefused⟩)
    · exact .inr (.inl ⟨_, _, rfl, hdigits, hnone⟩)

variable [UnicodeTables] (limit)

/-- The parser takes the paths of the grammar apart, and refuses the others with its own error. -/
structure FollowsGrammar (path : PyText) : Prop where
  accepts : ∀ segments, parseJsonParameterPath limit path = .ok segments ↔ IsPath segments path
  controlled : parseJsonParameterPath limit path ≠ .error .valueError

/-- A path that only the looser grammar has. -/
def OnlyLoose (path : PyText) : Prop :=
  (∃ segments, IsLoosePath limit segments path) ∧ ¬∃ segments, IsPath segments path

/-- **The parser follows the grammar exactly on the paths without a looser reading.** -/
theorem json_path_grammar (path : PyText) :
    FollowsGrammar limit path ↔ ¬HasRefusedIndex limit path ∧ ¬OnlyLoose limit path := by
  constructor
  · intro h
    refine ⟨fun hrefused => h.controlled (parse_eq_valueError.mpr hrefused), ?_⟩
    rintro ⟨⟨segments, hloose⟩, hnone⟩
    exact hnone ⟨segments, (h.accepts segments).mp (parse_eq_ok.mpr hloose)⟩
  · rintro ⟨hrefused, hloose⟩
    have hparse : ∀ segments, IsPath segments path →
        parseJsonParameterPath limit path = .ok segments := by
      intro segments hpath
      exact parse_eq_ok.mpr ((hpath.loose limit).resolve_right hrefused)
    refine ⟨fun segments => ⟨fun hok => ?_, hparse segments⟩,
      fun h => hrefused (parse_eq_valueError.mp h)⟩
    -- The path has segments by the grammar too, and the parser has only one answer.
    obtain ⟨others, hothers⟩ : ∃ segments, IsPath segments path := by
      by_contra hnone
      exact hloose ⟨⟨segments, parse_eq_ok.mp hok⟩, hnone⟩
    have hsame := hparse others hothers
    rw [hok] at hsame
    cases hsame
    exact hothers

end

/-- The ASCII digits, and a superscript that `int` does not take. -/
@[reducible] def superscriptDigits : DigitTable where
  isDigit n := (48 ≤ n && n ≤ 57) || n = 178
  decimal n := if 48 ≤ n ∧ n ≤ 57 then some (n - 48) else none
  isDigit_ascii n hn := by
    simp
    omega
  decimal_ascii n hlow hhigh := if_pos ⟨hlow, hhigh⟩
  decimal_lt n d h := by
    rw [Option.ite_none_right_eq_some] at h
    obtain ⟨hrange, heq⟩ := h
    simp only [Option.some.injEq] at heq
    omega

def dottedPath : PyText := ofString "items.[0]"

def superscriptPath : PyText := ofString "items[" ++ [178, 93]

theorem not_isPath_dotted {segments : List JsonSegment} : ¬IsPath segments dottedPath := by
  intro h
  generalize hpath : dottedPath = path at h
  cases h with
  | index h rest =>
    have hhead := congrArg head? hpath
    rw [head?_cons] at hhead
    exact absurd hhead (by decide)
  | name hname rest =>
    obtain ⟨-, hbehind⟩ := takeWhile_name hname.2 (rest.head (by rintro _ rfl; simp))
    rw [← hpath] at hbehind
    rw [← hbehind] at rest
    generalize htail : dottedPath.dropWhile isNameCharacter = behind at rest
    have hdotted : behind = [46, 91, 48, 93] := by
      rw [← htail]
      decide
    cases rest with
    | stop h =>
      rw [h] at hdotted
      cases hdotted
    | index h rest => cases hdotted
    | dottedIndex hfalse => exact hfalse
    | name hname rest =>
      rename_i text after tail
      cases text with
      | nil => exact hname.1 rfl
      | cons c others =>
        rw [cons_append, cons.injEq, cons.injEq] at hdotted
        have hc := all_eq_true.mp hname.2 c mem_cons_self
        rw [hdotted.2.1] at hc
        exact absurd hc (by decide)

/-- **The parser accepts a dot in front of a bracket, and raises an error of `int`.** -/
theorem grammar_not_followed :
    letI := superscriptDigits; letI := asciiTables
    ¬FollowsGrammar 4300 dottedPath ∧ ¬FollowsGrammar 4300 superscriptPath := by
  let _ := superscriptDigits
  let _ := asciiTables
  have hitems : IsName (ofString "items") := ⟨by decide, by decide⟩
  have hindex : scannedIndex 4300 [48] = some 0 := by decide
  have hrefused : isDigitText [178] = true ∧ intOf 4300 [178] = none := ⟨by decide, by decide⟩
  refine ⟨fun h => ?_, fun h => ?_⟩
  · have hloose : IsLoosePath 4300 [.name (ofString "items"), .index 0] dottedPath :=
      .name hitems (.dottedIndex trivial hindex (.stop rfl))
    exact not_isPath_dotted ((h.accepts _).mp (parse_eq_ok.mpr hloose))
  · refine h.controlled (parse_eq_valueError.mpr (.inr ⟨[.name (ofString "items")],
      .name hitems (.stop (.inl ⟨[178], [], rfl, hrefused.1, hrefused.2⟩))⟩))

end WebGuard.RequestTemplates
