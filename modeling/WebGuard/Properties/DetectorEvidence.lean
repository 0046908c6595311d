import WebGuard.Detection.InjectionDetectors
import WebGuard.Lib.Occurrences
import WebGuard.Properties.FindingIdentity

/-!
# What the detectors take for evidence

A database error is evidence if it is new in the diagnostic answer. The detector compares the first
signature of each answer only. A reflection is as strong as its strongest occurrence. The detector
asks for parts of the whole body, and an encoded copy hides a raw one.
-/

namespace WebGuard.ActiveDetection

open PyJson FindingContract Occurrences List

theorem hasPart_iff {text part : PyText} : hasPart text part = true ↔ part <:+: text := by
  unfold hasPart
  rw [any_eq_true]
  constructor
  · rintro ⟨tail, htail, hpart⟩
    exact ( isPrefixOf_iff_prefix.mp hpart).isInfix.trans ((mem_tails _ _).mp htail).isInfix
  · rintro ⟨front, back, h⟩
    refine ⟨part ++ back, ?_, isPrefixOf_iff_prefix.mpr (prefix_append part back)⟩
    rw [mem_tails, ← h, append_assoc]
    exact suffix_append front _

/-! ## Signatures of database errors -/

section

variable [LowerTable]

/-- A signature that occurs in a text. -/
def Shows (text signature : PyText) : Prop :=
  signature ∈ databaseErrorSignatures ∧ signature <:+: LowerTable.lower text

/-- The signature that is found of a text: no earlier one occurs in it. -/
def IsFirstShown (text signature : PyText) : Prop :=
  Shows text signature ∧ ∃ earlier later, databaseErrorSignatures = earlier ++ signature :: later ∧
    ∀ other ∈ earlier, ¬Shows text other

variable (baselineText diagnosticText : PyText)

/-- A finding is made exactly if a signature is new, and names such a one. -/
def EvidenceRule (result : SqliDetectionOutcome × Option PyText) : Prop :=
  ((∃ outcome, result.1 = .found outcome) ↔
    ∃ signature, Shows diagnosticText signature ∧ ¬Shows baselineText signature) ∧
  ((∃ outcome, result.1 = .found outcome) →
    ∃ signature, result.2 = some signature ∧
      Shows diagnosticText signature ∧ ¬Shows baselineText signature)

/-- The first signature of the diagnostic text is new, or it is the first of the other text too, and
all of them are known. -/
def FirstDecides : Prop :=
  ∀ first, IsFirstShown diagnosticText first → Shows baselineText first →
    IsFirstShown baselineText first ∧
      ∀ signature, Shows diagnosticText signature → Shows baselineText signature

theorem findSignature_eq_some {text signature : PyText} :
    findSignature text = some signature ↔ IsFirstShown text signature := by
  unfold findSignature IsFirstShown Shows
  rw [find?_eq_some_iff_append, hasPart_iff]
  constructor
  · rintro ⟨hpart, earlier, later, hlist, hearlier⟩
    refine ⟨⟨by simp [hlist], hpart⟩, earlier, later, hlist, fun other hother hshown => ?_⟩
    have hnot := hearlier other hother
    rw [hasPart_iff.mpr hshown.2] at hnot
    cases hnot
  · rintro ⟨⟨-, hpart⟩, earlier, later, hlist, hearlier⟩
    refine ⟨hpart, earlier, later, hlist, fun other hother => ?_⟩
    have hnot : ¬hasPart (LowerTable.lower text) other = true := fun hother' =>
      hearlier other hother ⟨by simp [hlist, hother], hasPart_iff.mp hother'⟩
    simpa using hnot

theorem findSignature_eq_none {text : PyText} :
    findSignature text = none ↔ ∀ signature, ¬Shows text signature := by
  unfold findSignature
  rw [find?_eq_none]
  constructor
  · rintro hnone signature ⟨hmem, hpart⟩
    exact hnone signature hmem (hasPart_iff.mpr hpart)
  · intro hnone signature hmem hpart
    exact hnone signature ⟨hmem, hasPart_iff.mp hpart⟩

theorem classifyTexts_found (baselineText : PyText) {diagnosticText first : PyText}
    (h : IsFirstShown diagnosticText first) (baselineStatus diagnosticStatus : Nat) :
    ((∃ outcome, (classifyTexts baselineText diagnosticText baselineStatus diagnosticStatus).1 =
      .found outcome) ↔ ¬IsFirstShown baselineText first) ∧
    (¬IsFirstShown baselineText first →
      (classifyTexts baselineText diagnosticText baselineStatus diagnosticStatus).2 =
        some first) := by
  have hdiagnostic := findSignature_eq_some.mpr h
  unfold classifyTexts
  dsimp only
  rw [hdiagnostic, if_neg (Option.some_ne_none first)]
  by_cases hbaseline : IsFirstShown baselineText first
  · rw [if_pos (findSignature_eq_some.mpr hbaseline)]
    exact ⟨⟨fun ⟨_, hfound⟩ => (nomatch hfound), fun hnot => absurd hbaseline hnot⟩,
      fun hnot => absurd hbaseline hnot⟩
  · rw [if_neg fun hsame => hbaseline (findSignature_eq_some.mp hsame)]
    constructor
    · refine ⟨fun _ => hbaseline, fun _ => ?_⟩
      split
      · exact ⟨.confirmed, rfl⟩
      · exact ⟨.probable, rfl⟩
    · intro _
      split <;> rfl

/--
**The first signatures decide as all signatures do, exactly if the first one of the diagnostic text is
new or nothing is.**
-/
theorem evidence_rule_iff (baselineStatus diagnosticStatus : Nat) :
    EvidenceRule baselineText diagnosticText
        (classifyTexts baselineText diagnosticText baselineStatus diagnosticStatus) ↔
      FirstDecides baselineText diagnosticText := by
  cases hfirst : findSignature diagnosticText with
  | none =>
    have hnone := findSignature_eq_none.mp hfirst
    have hresult : classifyTexts baselineText diagnosticText baselineStatus diagnosticStatus =
        (.inconclusive, none) := by
      unfold classifyTexts
      dsimp only
      rw [hfirst, if_pos rfl]
    rw [hresult]
    constructor
    · intro _ first hshown
      exact absurd hshown.1 (hnone first)
    · intro _
      refine ⟨⟨fun ⟨_, hfound⟩ => (nomatch hfound), ?_⟩, fun ⟨_, hfound⟩ => (nomatch hfound)⟩
      rintro ⟨signature, hshown, -⟩
      exact absurd hshown (hnone signature)
  | some first =>
    have hshown := findSignature_eq_some.mp hfirst
    obtain ⟨hfound, hnamed⟩ := classifyTexts_found baselineText hshown
      baselineStatus diagnosticStatus
    have honly : ∀ other, IsFirstShown diagnosticText other → other = first := by
      intro other hother
      have hsame := findSignature_eq_some.mpr hother
      rw [hfirst] at hsame
      exact (Option.some.inj hsame).symm
    unfold EvidenceRule
    rw [hfound]
    constructor
    · rintro ⟨hiff, hnew⟩ other hother hknown
      obtain rfl := honly other hother
      -- a finding would name a signature that is known
      have hsame : IsFirstShown baselineText other := by
        by_contra hnot
        obtain ⟨signature, hsignature, -, hunknown⟩ := hnew hnot
        rw [hnamed hnot, Option.some.injEq] at hsignature
        exact hunknown (hsignature ▸ hknown)
      refine ⟨hsame, fun signature hsignature => ?_⟩
      by_contra hunknown
      exact hiff.mpr ⟨signature, hsignature, hunknown⟩ hsame
    · intro hdecides
      have hnew : ¬IsFirstShown baselineText first → ¬Shows baselineText first := fun hnot hknown =>
        hnot (hdecides first hshown hknown).1
      refine ⟨⟨fun hnot => ⟨first, hshown.1, hnew hnot⟩, ?_⟩,
        fun hnot => ⟨first, hnamed hnot, hshown.1, hnew hnot⟩⟩
      rintro ⟨signature, hsignature, hunknown⟩ hsame
      exact hunknown ((hdecides first hshown hsame.1).2 signature hsignature)

end

/-- A known signature is reported if another one is in front of it in the baseline, and a new one is
missed behind a known one. -/
theorem evidence_rule_broken :
    letI := asciiLower
    ¬EvidenceRule (ofString "Warning: mysqli SQLITE_ERROR") (ofString "SQLITE_ERROR")
        (classifyTexts (ofString "Warning: mysqli SQLITE_ERROR") (ofString "SQLITE_ERROR") 200 200) ∧
      ¬EvidenceRule (ofString "Warning: mysqli") (ofString "Warning: mysqli SQLITE_ERROR")
        (classifyTexts (ofString "Warning: mysqli") (ofString "Warning: mysqli SQLITE_ERROR")
          200 500) := by
  let _ := asciiLower
  constructor
  · rintro ⟨-, hnew⟩
    obtain ⟨signature, hnamed, -, hunknown⟩ := hnew ⟨.probable, by decide⟩
    have hsignature : signature = ofString "sqlite_error" := by
      have hresult : (classifyTexts (ofString "Warning: mysqli SQLITE_ERROR")
          (ofString "SQLITE_ERROR") 200 200).2 = some (ofString "sqlite_error") := by
        decide
      rw [hresult] at hnamed
      exact (Option.some.inj hnamed).symm
    subst hsignature
    exact hunknown ⟨by decide, hasPart_iff.mp (by decide)⟩
  · rintro ⟨hiff, -⟩
    have hmissed : Shows (ofString "Warning: mysqli SQLITE_ERROR") (ofString "sqlite_error") ∧
        ¬Shows (ofString "Warning: mysqli") (ofString "sqlite_error") :=
      ⟨⟨by decide, hasPart_iff.mp (by decide)⟩,
        fun hknown => absurd (hasPart_iff.mpr hknown.2) (by decide)⟩
    obtain ⟨outcome, hfound⟩ := hiff.mpr ⟨_, hmissed⟩
    have hresult : (classifyTexts (ofString "Warning: mysqli")
        (ofString "Warning: mysqli SQLITE_ERROR") 200 500).1 = .inconclusive := by
      decide
    rw [hresult] at hfound
    cases hfound

/-! ## Occurrences of a marker -/

/-- `<` in front of a place. -/
def rawLeft (front : PyText) : Bool := (ofString "<").isSuffixOf front

/-- `>` behind a place. -/
def rawRight (back : PyText) : Bool := (ofString ">").isPrefixOf back

def encodedLeft (front : PyText) : Bool := (ofString "&lt;").isSuffixOf front

def encodedRight (back : PyText) : Bool := (ofString "&gt;").isPrefixOf back

/-- What a single occurrence shows. -/
def occurrenceLevel (front back : PyText) : XssOutcome :=
  if rawLeft front && rawRight back then .confirmed
  else if rawLeft front || rawRight back then .probable
  else if encodedLeft front && encodedRight back then .informational
  else .suspected

/-- The order of the outcomes. -/
def DetectionOutcome.strength : DetectionOutcome → Nat
  | .inconclusive => 0
  | .found .informational => 1
  | .found .suspected => 2
  | .found .probable => 3
  | .found .confirmed => 4

variable (marker body : PyText)

/-- The level of an occurrence that no occurrence exceeds. -/
def IsStrongest : DetectionOutcome → Prop
  | .inconclusive => ∀ front back, ¬Occurrence marker body front back
  | .found level =>
    (∃ front back, Occurrence marker body front back ∧ occurrenceLevel front back = level) ∧
      ∀ front back, Occurrence marker body front back →
        (DetectionOutcome.found (occurrenceLevel front back)).strength ≤
          (DetectionOutcome.found level).strength

/-- Some occurrence is as it is asked for. -/
def SomeOccurrence (asked : PyText → PyText → Bool) : Prop :=
  ∃ front back, Occurrence marker body front back ∧ asked front back = true

/-- A bracket is raw, and is nowhere encoded on its side. -/
def PlainSide : Prop :=
  (SomeOccurrence marker body (fun front _ => rawLeft front) ∧
    ¬SomeOccurrence marker body (fun front _ => encodedLeft front)) ∨
  (SomeOccurrence marker body (fun _ back => rawRight back) ∧
    ¬SomeOccurrence marker body (fun _ back => encodedRight back))

/-- Both brackets of an occurrence are raw. -/
def RawTag : Prop :=
  SomeOccurrence marker body fun front back => rawLeft front && rawRight back

/-- An occurrence is fully encoded. -/
def EncodedTag : Prop :=
  SomeOccurrence marker body fun front back => encodedLeft front && encodedRight back

/-- Nothing encoded hides what is raw or bare: there is a raw tag, or a side with raw brackets only,
or no bracket is raw and the occurrences are all fully encoded or none of them is. -/
def Unmixed : Prop :=
  RawTag marker body ∨ PlainSide marker body ∨
    (∀ front back, Occurrence marker body front back →
      rawLeft front = false ∧ rawRight back = false) ∧
    (¬EncodedTag marker body ∨
      ∀ front back, Occurrence marker body front back →
        (encodedLeft front && encodedRight back) = true)

/-- What more text leaves of the strength: a raw tag or a plain side, if there was one, and no fully
encoded occurrence as the first one, unless there is something raw. -/
def KeepsStrength (marker body extra : PyText) : Prop :=
  (PlainSide marker body →
    RawTag marker (body ++ extra) ∨ PlainSide marker (body ++ extra)) ∧
  (SomeOccurrence marker body (fun _ _ => true) → ¬EncodedTag marker body →
    RawTag marker (body ++ extra) ∨ PlainSide marker (body ++ extra) ∨
      ¬EncodedTag marker (body ++ extra))

section

variable {marker body : PyText}

theorem hasPart_left {left : PyText} :
    hasPart body (left ++ marker) = true ↔
      SomeOccurrence marker body fun front _ => left.isSuffixOf front := by
  rw [hasPart_iff, infix_left_iff]
  simp only [SomeOccurrence, isSuffixOf_iff_suffix]

theorem hasPart_right {right : PyText} :
    hasPart body (marker ++ right) = true ↔
      SomeOccurrence marker body fun _ back => right.isPrefixOf back := by
  rw [hasPart_iff, infix_right_iff]
  simp only [SomeOccurrence, isPrefixOf_iff_prefix]

theorem hasPart_both {left right : PyText} :
    hasPart body (left ++ marker ++ right) = true ↔
      SomeOccurrence marker body fun front back =>
        left.isSuffixOf front && right.isPrefixOf back := by
  rw [hasPart_iff, infix_iff_occurrence]
  simp only [SomeOccurrence, Bool.and_eq_true, isSuffixOf_iff_suffix,
    isPrefixOf_iff_prefix]

theorem hasPart_marker :
    hasPart body marker = true ↔ SomeOccurrence marker body fun _ _ => true := by
  rw [hasPart_iff, infix_iff_exists]
  simp only [SomeOccurrence, and_true]

theorem classifyReflection_cases (marker body : PyText) :
    (RawTag marker body ∧ classifyReflection marker body = .found .confirmed) ∨
    (¬RawTag marker body ∧ PlainSide marker body ∧
      classifyReflection marker body = .found .probable) ∨
    (¬RawTag marker body ∧ ¬PlainSide marker body ∧
      ¬SomeOccurrence marker body (fun _ _ => true) ∧
      classifyReflection marker body = .inconclusive) ∨
    (¬RawTag marker body ∧ ¬PlainSide marker body ∧
      SomeOccurrence marker body (fun _ _ => true) ∧ EncodedTag marker body ∧
      classifyReflection marker body = .found .informational) ∨
    (¬RawTag marker body ∧ ¬PlainSide marker body ∧
      SomeOccurrence marker body (fun _ _ => true) ∧ ¬EncodedTag marker body ∧
      classifyReflection marker body = .found .suspected) := by
  have hraw : hasPart body (ofString "<" ++ marker ++ ofString ">") = true ↔ RawTag marker body :=
    hasPart_both
  have hencoded : hasPart body (ofString "&lt;" ++ marker ++ ofString "&gt;") = true ↔
      EncodedTag marker body := hasPart_both
  have hside : ((hasPart body (ofString "<" ++ marker) && !hasPart body (ofString "&lt;" ++ marker))
      || (hasPart body (marker ++ ofString ">") && !hasPart body (marker ++ ofString "&gt;"))) = true
      ↔ PlainSide marker body := by
    rw [Bool.or_eq_true, Bool.and_eq_true, Bool.and_eq_true, Bool.not_eq_true', Bool.not_eq_true',
      ← Bool.not_eq_true, ← Bool.not_eq_true, hasPart_left, hasPart_left, hasPart_right,
      hasPart_right]
    rfl
  unfold classifyReflection
  dsimp only
  by_cases h : RawTag marker body
  · exact .inl ⟨h, if_pos (hraw.mpr h)⟩
  rw [if_neg (mt hraw.mp h)]
  by_cases hplain : PlainSide marker body
  · exact .inr (.inl ⟨h, hplain, if_pos (hside.mpr hplain)⟩)
  rw [if_neg (mt hside.mp hplain)]
  by_cases hoccurs : SomeOccurrence marker body (fun _ _ => true)
  · rw [hasPart_marker.mpr hoccurs, if_neg (by simp)]
    by_cases htag : EncodedTag marker body
    · exact .inr (.inr (.inr (.inl ⟨h, hplain, hoccurs, htag, if_pos (hencoded.mpr htag)⟩)))
    · exact .inr (.inr (.inr (.inr ⟨h, hplain, hoccurs, htag, if_neg (mt hencoded.mp htag)⟩)))
  · have hnone : hasPart body marker = false := by
      simpa using mt hasPart_marker.mp hoccurs
    rw [hnone, if_pos (by simp)]
    exact .inr (.inr (.inl ⟨h, hplain, hoccurs, rfl⟩))

theorem occurrenceLevel_cases (front back : PyText) :
    ((rawLeft front && rawRight back) = true ∧ occurrenceLevel front back = .confirmed) ∨
    ((rawLeft front && rawRight back) = false ∧ (rawLeft front = true ∨ rawRight back = true) ∧
      occurrenceLevel front back = .probable) ∨
    (rawLeft front = false ∧ rawRight back = false ∧
      (encodedLeft front && encodedRight back) = true ∧
      occurrenceLevel front back = .informational) ∨
    (rawLeft front = false ∧ rawRight back = false ∧
      (encodedLeft front && encodedRight back) = false ∧
      occurrenceLevel front back = .suspected) := by
  unfold occurrenceLevel
  cases rawLeft front <;> cases rawRight back <;>
    cases (encodedLeft front && encodedRight back) <;> simp

theorem isStrongest_iff (marker body : PyText) :
    IsStrongest marker body (classifyReflection marker body) ↔ Unmixed marker body := by
  have hraw : ¬RawTag marker body → ∀ front back, Occurrence marker body front back →
      (rawLeft front && rawRight back) = false := by
    intro hnone front back hat
    by_contra h
    exact hnone ⟨front, back, hat, Bool.eq_true_of_not_eq_false h⟩
  rcases classifyReflection_cases marker body with ⟨h, hclass⟩ | ⟨hnot, hside, hclass⟩ |
    ⟨hnot, hside, hnone, hclass⟩ | ⟨hnot, hside, hsome, htag, hclass⟩ |
    ⟨hnot, hside, hsome, htag, hclass⟩ <;> rw [hclass]
  · -- confirmed
    refine ⟨fun _ => .inl h, fun _ => ⟨?_, fun front back _ => ?_⟩⟩
    · obtain ⟨front, back, hat, hboth⟩ := h
      exact ⟨front, back, hat, if_pos hboth⟩
    · rcases occurrenceLevel_cases front back with
        ⟨-, hl⟩ | ⟨-, -, hl⟩ | ⟨-, -, -, hl⟩ | ⟨-, -, -, hl⟩ <;> rw [hl] <;> decide
  · -- probable
    refine ⟨fun _ => .inr (.inl hside), fun _ => ⟨?_, fun front back hat => ?_⟩⟩
    · have hone : ∃ front back, Occurrence marker body front back ∧
          (rawLeft front = true ∨ rawRight back = true) := by
        rcases hside with ⟨⟨front, back, hat, hl⟩, -⟩ | ⟨⟨front, back, hat, hr⟩, -⟩
        · exact ⟨front, back, hat, .inl hl⟩
        · exact ⟨front, back, hat, .inr hr⟩
      obtain ⟨front, back, hat, hone⟩ := hone
      refine ⟨front, back, hat, ?_⟩
      unfold occurrenceLevel
      rw [hraw hnot front back hat, if_neg Bool.false_ne_true, if_pos (by simpa using hone)]
    · have hboth := hraw hnot front back hat
      rcases occurrenceLevel_cases front back with
        ⟨hb, -⟩ | ⟨-, -, hl⟩ | ⟨-, -, -, hl⟩ | ⟨-, -, -, hl⟩
      · rw [hboth] at hb
        cases hb
      · rw [hl]
      · rw [hl]
        decide
      · rw [hl]
        decide
  · -- inconclusive
    have hempty : ∀ front back, ¬Occurrence marker body front back := fun front back hat =>
      hnone ⟨front, back, hat, rfl⟩
    exact ⟨fun _ => .inr (.inr ⟨fun front back hat => absurd hat (hempty front back),
      .inr fun front back hat => absurd hat (hempty front back)⟩), fun _ => hempty⟩
  · -- informational
    constructor
    · rintro ⟨-, hall⟩
      have hlevel : ∀ front back, Occurrence marker body front back →
          rawLeft front = false ∧ rawRight back = false ∧
            (encodedLeft front && encodedRight back) = true := by
        intro front back hat
        have hle := hall front back hat
        rcases occurrenceLevel_cases front back with
          ⟨-, hl⟩ | ⟨-, -, hl⟩ | ⟨h1, h2, h3, -⟩ | ⟨-, -, -, hl⟩
        · rw [hl] at hle
          exact absurd hle (by decide)
        · rw [hl] at hle
          exact absurd hle (by decide)
        · exact ⟨h1, h2, h3⟩
        · rw [hl] at hle
          exact absurd hle (by decide)
      exact .inr (.inr ⟨fun front back hat => ⟨(hlevel front back hat).1, (hlevel front back hat).2.1⟩,
        .inr fun front back hat => (hlevel front back hat).2.2⟩)
    · rintro (h | h | ⟨hplain, h | hall⟩)
      · exact absurd h hnot
      · exact absurd h hside
      · exact absurd htag h
      · have hlevel : ∀ front back, Occurrence marker body front back →
            occurrenceLevel front back = .informational := by
          intro front back hat
          obtain ⟨hl, hr⟩ := hplain front back hat
          unfold occurrenceLevel
          rw [hl, hr, hall front back hat]
          rfl
        obtain ⟨front, back, hat, -⟩ := hsome
        exact ⟨⟨front, back, hat, hlevel front back hat⟩, fun front back hat => by
          rw [hlevel front back hat]⟩
  · -- suspected
    constructor
    · rintro ⟨-, hall⟩
      refine .inr (.inr ⟨fun front back hat => ?_, .inl htag⟩)
      have hle := hall front back hat
      rcases occurrenceLevel_cases front back with
        ⟨-, hl⟩ | ⟨-, -, hl⟩ | ⟨h1, h2, -⟩ | ⟨h1, h2, -⟩
      · rw [hl] at hle
        exact absurd hle (by decide)
      · rw [hl] at hle
        exact absurd hle (by decide)
      · exact ⟨h1, h2⟩
      · exact ⟨h1, h2⟩
    · rintro (h | h | ⟨hplain, -⟩)
      · exact absurd h hnot
      · exact absurd h hside
      · have hlevel : ∀ front back, Occurrence marker body front back →
            occurrenceLevel front back = .suspected := by
          intro front back hat
          obtain ⟨hl, hr⟩ := hplain front back hat
          have hbare : (encodedLeft front && encodedRight back) = false := by
            by_contra hencoded
            exact htag ⟨front, back, hat, Bool.eq_true_of_not_eq_false hencoded⟩
          unfold occurrenceLevel
          rw [hl, hr, hbare]
          rfl
        obtain ⟨front, back, hat, -⟩ := hsome
        exact ⟨⟨front, back, hat, hlevel front back hat⟩, fun front back hat => by
          rw [hlevel front back hat]⟩

/-! ## More text -/

theorem strength_classifyReflection (marker body : PyText) :
    (4 ≤ (classifyReflection marker body).strength ↔ RawTag marker body) ∧
    (3 ≤ (classifyReflection marker body).strength ↔ RawTag marker body ∨ PlainSide marker body) ∧
    (2 ≤ (classifyReflection marker body).strength ↔ RawTag marker body ∨ PlainSide marker body ∨
      SomeOccurrence marker body (fun _ _ => true) ∧ ¬EncodedTag marker body) ∧
    (1 ≤ (classifyReflection marker body).strength ↔
      SomeOccurrence marker body fun _ _ => true) := by
  have hraw : RawTag marker body → SomeOccurrence marker body fun _ _ => true :=
    fun ⟨front, back, hat, _⟩ => ⟨front, back, hat, rfl⟩
  have hside : PlainSide marker body → SomeOccurrence marker body fun _ _ => true := by
    rintro (⟨⟨front, back, hat, -⟩, -⟩ | ⟨⟨front, back, hat, -⟩, -⟩)
    · exact ⟨front, back, hat, rfl⟩
    · exact ⟨front, back, hat, rfl⟩
  rcases classifyReflection_cases marker body with ⟨h, hclass⟩ | ⟨h1, h2, hclass⟩ |
    ⟨h1, h2, h3, hclass⟩ | ⟨h1, h2, h3, h4, hclass⟩ | ⟨h1, h2, h3, h4, hclass⟩ <;>
    rw [hclass] <;> simp_all [DetectionOutcome.strength]

theorem SomeOccurrence.append {asked : PyText → PyText → Bool}
    (hkept : ∀ front back more, asked front back = true → asked front (back ++ more) = true)
    (h : SomeOccurrence marker body asked) (extra : PyText) :
    SomeOccurrence marker (body ++ extra) asked := by
  obtain ⟨front, back, hat, hasked⟩ := h
  exact ⟨front, back ++ extra, hat.append extra, hkept front back extra hasked⟩

theorem RawTag.append (h : RawTag marker body) (extra : PyText) : RawTag marker
    (body ++ extra) := by
  refine SomeOccurrence.append (fun front back more hasked => ?_) h extra
  rw [Bool.and_eq_true] at hasked ⊢
  refine ⟨hasked.1, isPrefixOf_iff_prefix.mpr ?_⟩
  exact ( isPrefixOf_iff_prefix.mp hasked.2).trans (prefix_append back more)

theorem strength_append_iff (marker body extra : PyText) :
    (classifyReflection marker body).strength ≤
        (classifyReflection marker (body ++ extra)).strength ↔
      KeepsStrength marker body extra := by
  obtain ⟨h4, h3, h2, h1⟩ := strength_classifyReflection marker body
  obtain ⟨e4, e3, e2, e1⟩ := strength_classifyReflection marker (body ++ extra)
  have hraw : RawTag marker body → RawTag marker (body ++ extra) := fun h => h.append extra
  have hoccurs : SomeOccurrence marker body (fun _ _ => true) →
      SomeOccurrence marker (body ++ extra) fun _ _ => true := fun h =>
    h.append (fun _ _ _ _ => rfl) extra
  have hbound : ∀ outcome : DetectionOutcome, outcome.strength ≤ 4 := by
    rintro (⟨⟨⟩⟩ | -) <;> decide
  -- a number up to four is at most another one if it exceeds no more of the bounds
  have hle : (classifyReflection marker body).strength ≤
      (classifyReflection marker (body ++ extra)).strength ↔
      ∀ bound ∈ [1, 2, 3, 4], bound ≤ (classifyReflection marker body).strength →
        bound ≤ (classifyReflection marker (body ++ extra)).strength := by
    have hfour := hbound (classifyReflection marker body)
    simp only [forall_mem_cons, not_mem_nil, false_imp_iff, implies_true, and_true]
    omega
  rw [hle]
  simp only [forall_mem_cons, not_mem_nil, false_imp_iff, implies_true, and_true,
    h4, h3, h2, h1, e4, e3, e2, e1]
  constructor
  · rintro ⟨-, hbare, hplain, -⟩
    refine ⟨fun hside => hplain (.inr hside), fun hmarker htag => ?_⟩
    rcases hbare (.inr (.inr ⟨hmarker, htag⟩)) with h | h | ⟨-, h⟩
    · exact .inl h
    · exact .inr (.inl h)
    · exact .inr (.inr h)
  · rintro ⟨hplain, hbare⟩
    refine ⟨hoccurs, ?_, ?_, hraw⟩
    · rintro (h | h | ⟨hmarker, htag⟩)
      · exact .inl (hraw h)
      · exact (hplain h).imp_right .inl
      · exact (hbare hmarker htag).imp_right (Or.imp_right fun h => ⟨hoccurs hmarker, h⟩)
    · rintro (h | h)
      · exact .inl (hraw h)
      · exact hplain h

/--
**The classification is the strongest level of an occurrence, and more text does not weaken it,
exactly if nothing encoded hides what is raw.**
-/
theorem reflection_strength_iff (marker body : PyText) :
    (IsStrongest marker body (classifyReflection marker body) ↔ Unmixed marker body) ∧
    ∀ extra : PyText,
      (classifyReflection marker body).strength ≤
          (classifyReflection marker (body ++ extra)).strength ↔
        KeepsStrength marker body extra :=
  ⟨isStrongest_iff marker body, strength_append_iff marker body⟩

end

/-- A raw bracket, and an encoded copy of the marker behind it. -/
theorem encoded_copy_hides_bracket :
    ¬IsStrongest (ofString "wgxss") (ofString "<wgxss &lt;wgxss&gt;")
        (classifyReflection (ofString "wgxss") (ofString "<wgxss &lt;wgxss&gt;")) ∧
      (classifyReflection (ofString "wgxss") (ofString "<wgxss &lt;wgxss&gt;")).strength <
        (classifyReflection (ofString "wgxss") (ofString "<wgxss")).strength := by
  have hclass : classifyReflection (ofString "wgxss") (ofString "<wgxss &lt;wgxss&gt;") =
      .found .informational := by decide
  refine ⟨?_, by decide⟩
  rw [hclass]
  rintro ⟨-, hall⟩
  have hle := hall (ofString "<") (ofString " &lt;wgxss&gt;") (by unfold Occurrence; decide)
  exact absurd hle (by decide)

end WebGuard.ActiveDetection
