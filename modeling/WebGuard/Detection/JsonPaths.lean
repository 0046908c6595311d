import WebGuard.Contracts.Text
import WebGuard.Contracts.PyText

/-!
# Paths of JSON parameters

`parse_json_parameter_path` of `request_template.py`: the scanner over a path such as
`items[0].name`, and the grammar it reads.

What the interpreter knows of digits is a parameter (`DigitTable`), and so is the number of digits
from which on `int` refuses a text.
-/

namespace WebGuard.RequestTemplates

open PyJson

/-- `str.isdigit` and the decimal values of characters. -/
class DigitTable where
  isDigit : Nat → Bool
  decimal : Nat → Option Nat
  isDigit_ascii : ∀ n < 128, isDigit n = true ↔ 48 ≤ n ∧ n ≤ 57
  decimal_ascii : ∀ n, 48 ≤ n → n ≤ 57 → decimal n = some (n - 48)
  decimal_lt : ∀ n d, decimal n = some d → d < 10

inductive JsonSegment where
  | name (text : PyText)
  | index (n : Nat)
  deriving DecidableEq

/-- What ends a function of request templates. -/
inductive TemplateFailure where
  /-- `RequestTemplateError`. -/
  | requestTemplate (code message : String)
  /-- A `ValueError` of `int`. -/
  | valueError
  deriving DecidableEq

/-- A character of `_NAME_TOKEN`. -/
def isNameCharacter (n : Nat) : Bool := n ≠ 46 && n ≠ 91 && n ≠ 93

/-- The value of digits, the first one being the highest. -/
def digitsToNat (digits : List Nat) : Nat := digits.foldl (fun n d => 10 * n + d) 0

section

variable [DigitTable]

/-- `text.isdigit()`. -/
def isDigitText (text : PyText) : Bool := !text.isEmpty && text.all DigitTable.isDigit

/-- `int(text)` of a text of digits. -/
def intOf (limit : Nat) (text : PyText) : Option Nat :=
  if limit < text.length then none else (text.mapM DigitTable.decimal).map digitsToNat

variable [UnicodeTables] (limit : Nat)

/-- `_invalid`. -/
def malformedPath {α : Type} (path : PyText) : Except TemplateFailure α :=
  .error (.requestTemplate "json_path_invalid"
    ("Malformed JSON parameter path: " ++ UnicodeTables.quoted path))

/-- The loop over a path, from a position on. -/
def scanPath (path : PyText) (expectName : Bool) (segments : List JsonSegment) :
    PyText → Except TemplateFailure (List JsonSegment)
  | [] => if expectName || segments.isEmpty then malformedPath path else .ok segments
  | 91 :: after =>
    if after.dropWhile (· ≠ 93) = [] then malformedPath path
    else if !isDigitText (after.takeWhile (· ≠ 93)) then malformedPath path
    else
      match intOf limit (after.takeWhile (· ≠ 93)) with
      | none => .error .valueError
      | some n =>
        scanPath path false (segments ++ [.index n]) ((after.dropWhile (· ≠ 93)).drop 1)
  | 46 :: after => if expectName then malformedPath path else scanPath path true segments after
  | c :: after =>
    if !expectName then malformedPath path
    else if !isNameCharacter c then malformedPath path
    else
      scanPath path false (segments ++ [.name (c :: after.takeWhile isNameCharacter)])
        (after.dropWhile isNameCharacter)
termination_by rest => rest.length
decreasing_by
  · have h := (List.dropWhile_sublist (· ≠ 93) (l := after)).length_le
    simp only [List.length_drop, List.length_cons]
    omega
  · simp
  · have h := (List.dropWhile_sublist isNameCharacter (l := after)).length_le
    simp only [List.length_cons]
    omega

def parseJsonParameterPath (path : PyText) : Except TemplateFailure (List JsonSegment) :=
  if path.isEmpty then malformedPath path else scanPath limit path true [] path

end

/-! ## Grammars -/

/-- A name has characters, and none that the grammar uses. -/
def IsName (text : PyText) : Prop := text ≠ [] ∧ text.all isNameCharacter = true

/--
What stands behind a name or an index of a path.

`indexOf` is the value of what is between brackets; `dotted` lets an index follow a dot, and `ends`
is what the text ends with.
-/
inductive PathTail (dotted : Prop) (indexOf : PyText → Option Nat) (ends : PyText → Prop) :
    List JsonSegment → PyText → Prop
  | stop {text : PyText} (h : ends text) : PathTail dotted indexOf ends [] text
  | name {text behind : PyText} {tail : List JsonSegment} (h : IsName text)
      (rest : PathTail dotted indexOf ends tail behind) :
      PathTail dotted indexOf ends (.name text :: tail) (46 :: (text ++ behind))
  | index {digits behind : PyText} {n : Nat} {tail : List JsonSegment}
      (h : indexOf digits = some n) (rest : PathTail dotted indexOf ends tail behind) :
      PathTail dotted indexOf ends (.index n :: tail) (91 :: (digits ++ 93 :: behind))
  | dottedIndex {digits behind : PyText} {n : Nat} {tail : List JsonSegment} (hdotted : dotted)
      (h : indexOf digits = some n) (rest : PathTail dotted indexOf ends tail behind) :
      PathTail dotted indexOf ends (.index n :: tail) (46 :: 91 :: (digits ++ 93 :: behind))

/-- A path: a name or an index, and what stands behind it. -/
inductive PathText (dotted : Prop) (indexOf : PyText → Option Nat) (ends : PyText → Prop) :
    List JsonSegment → PyText → Prop
  | name {text behind : PyText} {tail : List JsonSegment} (h : IsName text)
      (rest : PathTail dotted indexOf ends tail behind) :
      PathText dotted indexOf ends (.name text :: tail) (text ++ behind)
  | index {digits behind : PyText} {n : Nat} {tail : List JsonSegment}
      (h : indexOf digits = some n) (rest : PathTail dotted indexOf ends tail behind) :
      PathText dotted indexOf ends (.index n :: tail) (91 :: (digits ++ 93 :: behind))

/-- The value of ASCII digits. -/
def asciiIndex (text : PyText) : Option Nat :=
  if !text.isEmpty && text.all (fun n => 48 ≤ n && n ≤ 57) then
    some (digitsToNat (text.map (· - 48)))
  else none

/-- `(name | index) (("." name) | index)*`, with ASCII digits in brackets. -/
def IsPath (segments : List JsonSegment) (path : PyText) : Prop :=
  PathText False asciiIndex (· = []) segments path

section

variable [DigitTable] (limit : Nat)

/-- The value that the scanner gives to what is between brackets. -/
def scannedIndex (text : PyText) : Option Nat :=
  if isDigitText text then intOf limit text else none

/-- The looser grammar: an index may follow a dot, and `str.isdigit` says what its digits are. -/
def IsLoosePath (segments : List JsonSegment) (path : PyText) : Prop :=
  PathText True (scannedIndex limit) (· = []) segments path

/-- Brackets with digits in them that `int` does not take. -/
def RefusedIndex (text : PyText) : Prop :=
  ∃ digits behind, text = 91 :: (digits ++ 93 :: behind) ∧ isDigitText digits = true ∧
    intOf limit digits = none

/-- What a path is read up to when an index in it is refused. -/
def EndsRefused (text : PyText) : Prop :=
  RefusedIndex limit text ∨ ∃ after, text = 46 :: after ∧ RefusedIndex limit after

/-- The scanner comes upon an index that `int` does not take. -/
def HasRefusedIndex (path : PyText) : Prop :=
  RefusedIndex limit path ∨ ∃ segments,
    PathText True (scannedIndex limit)
      (EndsRefused limit) segments path

variable {limit}

/-! ## One step of the scanner -/

variable {digits text after behind path : PyText} {segments tail : List JsonSegment}
  {expectName : Bool} {ends : PyText → Prop}

theorem close_not_mem (h : isDigitText digits = true) : 93 ∉ digits := by
  intro hmem
  unfold isDigitText at h
  rw [Bool.and_eq_true, List.all_eq_true] at h
  exact absurd ((DigitTable.isDigit_ascii 93 (by decide)).mp (h.2 93 hmem)) (by decide)

section

omit [DigitTable]

theorem takeWhile_close (h : 93 ∉ digits) (behind : PyText) :
    (digits ++ 93 :: behind).takeWhile (· ≠ 93) = digits ∧
      (digits ++ 93 :: behind).dropWhile (· ≠ 93) = 93 :: behind := by
  have hall : ∀ n ∈ digits, decide (n ≠ 93) = true := by
    intro n hn
    rw [decide_eq_true_eq]
    rintro rfl
    exact h hn
  rw [List.takeWhile_append_of_pos hall, List.dropWhile_append_of_pos hall]
  simp

theorem split_close (h : after.dropWhile (· ≠ 93) ≠ []) :
    after = after.takeWhile (· ≠ 93) ++ 93 :: (after.dropWhile (· ≠ 93)).drop 1 := by
  cases hrest : after.dropWhile (· ≠ 93) with
  | nil => exact absurd hrest h
  | cons c rest =>
    have hc : c = 93 := by
      have hhead := List.head?_dropWhile_not (· ≠ 93) after
      rw [hrest] at hhead
      simpa using hhead
    subst hc
    have happend := List.takeWhile_append_dropWhile (p := (· ≠ 93)) (l := after)
    rw [hrest] at happend
    exact happend.symm

theorem takeWhile_name (h : text.all isNameCharacter = true)
    (hbehind : ∀ c, behind.head? = some c → isNameCharacter c = false) :
    (text ++ behind).takeWhile isNameCharacter = text ∧
      (text ++ behind).dropWhile isNameCharacter = behind := by
  have hall := List.all_eq_true.mp h
  rw [List.takeWhile_append_of_pos hall, List.dropWhile_append_of_pos hall]
  cases behind with
  | nil => simp
  | cons c rest => simp [hbehind c rfl]

end

variable [UnicodeTables]

theorem scanPath_index {n : Nat} (h : scannedIndex limit digits = some n) :
    scanPath limit path expectName segments (91 :: (digits ++ 93 :: behind))
      = scanPath limit path false (segments ++ [.index n]) behind := by
  unfold scannedIndex at h
  rw [Option.ite_none_right_eq_some] at h
  obtain ⟨hdigits, hvalue⟩ := h
  obtain ⟨htake, hdrop⟩ := takeWhile_close (close_not_mem hdigits) behind
  rw [scanPath, htake, hdrop, hvalue, hdigits]
  simp

theorem scanPath_refused (h : RefusedIndex limit text) :
    scanPath limit path expectName segments text = .error .valueError := by
  obtain ⟨digits, behind, rfl, hdigits, hvalue⟩ := h
  obtain ⟨htake, hdrop⟩ := takeWhile_close (close_not_mem hdigits) behind
  rw [scanPath, htake, hdrop, hvalue, hdigits]
  simp

theorem scanPath_dot :
    scanPath limit path false segments (46 :: after) = scanPath limit path true segments after := by
  rw [scanPath]
  simp

theorem scanPath_name (h : IsName text)
    (hbehind : ∀ c, behind.head? = some c → isNameCharacter c = false) :
    scanPath limit path true segments (text ++ behind)
      = scanPath limit path false (segments ++ [.name text]) behind := by
  obtain ⟨htake, hdrop⟩ := takeWhile_name h.2 hbehind
  cases text with
  | nil => exact absurd rfl h.1
  | cons c rest =>
    have hc : isNameCharacter c = true := List.all_eq_true.mp h.2 c List.mem_cons_self
    have hne : c ≠ 91 ∧ c ≠ 46 := by
      simp only [isNameCharacter, Bool.and_eq_true, decide_eq_true_eq] at hc
      exact ⟨hc.1.2, hc.1.1⟩
    rw [List.cons_append, List.takeWhile_cons_of_pos hc, List.cons.injEq] at htake
    rw [List.cons_append, List.dropWhile_cons_of_pos hc] at hdrop
    rw [List.cons_append, scanPath.eq_def]
    split
    · next heq => cases heq
    · next heq =>
      cases heq
      exact absurd rfl hne.1
    · next heq =>
      cases heq
      exact absurd rfl hne.2
    · next heq =>
      cases heq
      rw [htake.2, hdrop]
      simp [hc]

/-! ## The scanner over a path -/

variable {dotted : Prop} {indexOf : PyText → Option Nat}

omit [DigitTable] [UnicodeTables] in
theorem PathTail.head (h : PathTail dotted indexOf ends tail text)
    (hends : ∀ text, ends text → ∀ c, text.head? = some c → isNameCharacter c = false) :
    ∀ c, text.head? = some c → isNameCharacter c = false := by
  cases h with
  | stop h => exact hends _ h
  | name h rest | index h rest | dottedIndex hdotted h rest =>
    intro c hc
    cases hc
    decide

theorem PathTail.scan {result : List JsonSegment → Except TemplateFailure (List JsonSegment)}
    (h : PathTail True (scannedIndex limit) ends tail text)
    (hends : ∀ text, ends text → (∀ c, text.head? = some c → isNameCharacter c = false) ∧
      ∀ segments ≠ [], scanPath limit path false segments text = result segments)
    (hne : segments ≠ []) :
    scanPath limit path false segments text = result (segments ++ tail) := by
  induction h generalizing segments with
  | stop h => rw [(hends _ h).2 segments hne, List.append_nil]
  | name h rest ih =>
    rw [scanPath_dot, scanPath_name h (rest.head fun t ht => (hends t ht).1), ih (by simp)]
    simp
  | index h rest ih =>
    rw [scanPath_index h, ih (by simp)]
    simp
  | dottedIndex _ h rest ih =>
    rw [scanPath_dot, scanPath_index h, ih (by simp)]
    simp

theorem PathText.scan (h : PathText True (scannedIndex limit) ends segments text)
    (result : List JsonSegment → Except TemplateFailure (List JsonSegment))
    (hends : ∀ text, ends text → (∀ c, text.head? = some c → isNameCharacter c = false) ∧
      ∀ segments ≠ [], scanPath limit path false segments text = result segments) :
    scanPath limit path true [] text = result segments := by
  cases h with
  | name h rest =>
    rw [scanPath_name h (rest.head fun t ht => (hends t ht).1), rest.scan hends (by simp)]
    simp
  | index h rest =>
    rw [scanPath_index h, rest.scan hends (by simp)]
    simp

/-- What the scanner has read, in front of a name or an index and behind one. -/
def Reads (limit : Nat) (ends : PyText → Prop) :
    Bool → List JsonSegment → PyText → Prop
  | true => PathText True (scannedIndex limit) ends
  | false => PathTail True (scannedIndex limit) ends

section

omit [UnicodeTables]

theorem reads_index {n : Nat} (h : scannedIndex limit digits = some n)
    (rest : Reads limit ends false tail behind) :
    Reads limit ends expectName (.index n :: tail) (91 :: (digits ++ 93 :: behind)) := by
  cases expectName with
  | true => exact .index h rest
  | false => exact .index h rest

theorem reads_dot (h : Reads limit ends true tail after) :
    Reads limit ends false tail (46 :: after) := by
  cases h with
  | name h rest => exact .name h rest
  | index h rest => exact .dottedIndex trivial h rest

theorem reads_name {c : Nat} (hc : isNameCharacter c = true)
    (rest : Reads limit ends false tail (after.dropWhile isNameCharacter)) :
    Reads limit ends true (.name (c :: after.takeWhile isNameCharacter) :: tail) (c :: after) := by
  have hname : IsName (c :: after.takeWhile isNameCharacter) := by
    refine ⟨by simp, ?_⟩
    rw [List.all_cons, hc, Bool.true_and, List.all_eq_true]
    exact fun n hn => List.mem_takeWhile_imp hn
  have h := PathText.name hname rest
  rwa [List.cons_append, List.takeWhile_append_dropWhile] at h

end

theorem reads_of_scan {out : List JsonSegment}
    (h : scanPath limit path expectName segments text = .ok out) :
    ∃ tail, Reads limit (· = []) expectName tail text ∧ out = segments ++ tail := by
  fun_induction scanPath limit path expectName segments text with
  | case1 | case3 | case4 | case5 | case7 | case9 | case10 => cases h
  | case2 expectName segments hend =>
    cases h
    rw [Bool.or_eq_true, not_or, Bool.not_eq_true] at hend
    rw [hend.1]
    exact ⟨[], .stop rfl, by simp⟩
  | case6 expectName segments after hclose hdigits n hvalue ih =>
    obtain ⟨tail, hreads, rfl⟩ := ih h
    have hindex : scannedIndex limit (after.takeWhile (· ≠ 93)) = some n := by
      unfold scannedIndex
      rw [if_pos (by simpa using hdigits), hvalue]
    refine ⟨.index n :: tail, ?_, by simp⟩
    rw [split_close hclose]
    exact reads_index hindex hreads
  | case8 expectName segments after hexpect ih =>
    obtain ⟨tail, hreads, rfl⟩ := ih h
    rw [Bool.not_eq_true] at hexpect
    rw [hexpect]
    exact ⟨tail, reads_dot hreads, rfl⟩
  | case11 expectName segments c after _ _ hexpect hc ih =>
    obtain ⟨tail, hreads, rfl⟩ := ih h
    have htrue : expectName = true := by simpa using hexpect
    rw [htrue]
    exact ⟨_, reads_name (by simpa using hc) hreads, by simp⟩

theorem refused_of_scan (h : scanPath limit path expectName segments text = .error .valueError) :
    RefusedIndex limit text ∨ ∃ tail, Reads limit (EndsRefused limit) expectName tail text := by
  fun_induction scanPath limit path expectName segments text with
  | case1 | case2 | case3 | case4 | case7 | case9 | case10 => cases h
  | case5 expectName segments after hclose hdigits hvalue =>
    refine .inl ⟨after.takeWhile (· ≠ 93), (after.dropWhile (· ≠ 93)).drop 1, ?_,
      by simpa using hdigits, hvalue⟩
    rw [← split_close hclose]
  | case6 expectName segments after hclose hdigits n hvalue ih =>
    have hindex : scannedIndex limit (after.takeWhile (· ≠ 93)) = some n := by
      unfold scannedIndex
      rw [if_pos (by simpa using hdigits), hvalue]
    rw [split_close hclose]
    obtain hrefused | ⟨tail, hreads⟩ := ih h
    · have hstop : Reads limit (EndsRefused limit) false []
          ((after.dropWhile (· ≠ 93)).drop 1) := .stop (.inl hrefused)
      exact .inr ⟨_, reads_index hindex hstop⟩
    · exact .inr ⟨_, reads_index hindex hreads⟩
  | case8 expectName segments after hexpect ih =>
    rw [Bool.not_eq_true] at hexpect
    rw [hexpect]
    obtain hrefused | ⟨tail, hreads⟩ := ih h
    · exact .inr ⟨[], .stop (.inr ⟨after, rfl, hrefused⟩)⟩
    · exact .inr ⟨tail, reads_dot hreads⟩
  | case11 expectName segments c after _ _ hexpect hc ih =>
    have htrue : expectName = true := by simpa using hexpect
    rw [htrue]
    obtain hrefused | ⟨tail, hreads⟩ := ih h
    · have hstop : Reads limit (EndsRefused limit) false [] (after.dropWhile isNameCharacter) :=
        .stop (.inl hrefused)
      exact .inr ⟨_, reads_name (by simpa using hc) hstop⟩
    · exact .inr ⟨_, reads_name (by simpa using hc) hreads⟩

/-! ## The parser -/

omit [UnicodeTables] [DigitTable] in
theorem PathText.ne_nil (h : PathText dotted indexOf ends segments text) : text ≠ [] := by
  cases h with
  | name h rest => simp [h.1]
  | index h rest => simp

theorem parse_eq_ok :
    parseJsonParameterPath limit path = .ok segments ↔ IsLoosePath limit segments path := by
  unfold parseJsonParameterPath IsLoosePath
  constructor
  · intro h
    split at h
    · cases h
    · obtain ⟨tail, hreads, rfl⟩ := reads_of_scan h
      exact hreads
  · intro h
    rw [if_neg (by simpa using h.ne_nil)]
    refine h.scan .ok fun text htext => ?_
    subst htext
    refine ⟨by simp, fun segments hne => ?_⟩
    rw [scanPath]
    simp [hne]

theorem parse_eq_valueError :
    parseJsonParameterPath limit path = .error .valueError ↔ HasRefusedIndex limit path := by
  unfold parseJsonParameterPath HasRefusedIndex
  constructor
  · intro h
    split at h
    · cases h
    · exact refused_of_scan h
  · rintro (h | ⟨segments, h⟩)
    · have hne : path ≠ [] := by
        obtain ⟨digits, behind, rfl, -⟩ := h
        simp
      rw [if_neg (by simpa using hne)]
      exact scanPath_refused h
    · rw [if_neg (by simpa using h.ne_nil)]
      refine h.scan (fun _ => .error .valueError) fun text htext =>
        ⟨fun c hc => ?_, fun segments _ => ?_⟩
      · obtain ⟨digits, behind, rfl, -⟩ | ⟨after, rfl, -⟩ := htext
        · cases hc
          decide
        · cases hc
          decide
      · obtain hrefused | ⟨after, rfl, hrefused⟩ := htext
        · exact scanPath_refused hrefused
        · rw [scanPath_dot]
          exact scanPath_refused hrefused

end

end WebGuard.RequestTemplates
