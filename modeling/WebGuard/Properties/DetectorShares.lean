import WebGuard.Executor.PageDetection
import WebGuard.Properties.FindingIdentity
import WebGuard.Properties.MutationFrame

/-!
# The share of a detector

How many of the candidates of a page each detector takes up. The page gives as many candidates to
a detector as the policy has requests, and a detector that needs more than one request for each of
them refuses the whole list instead of the end of it.
-/

namespace WebGuard.ActiveDetection

open PyJson UrlParse FindingContract RequestTemplates List
open Pagination (Interpreter)

/-- `ActiveDetectionError`. -/
def Failure.isDetection : Failure → Bool
  | .detection _ _ => true
  | _ => false

section

variable (φ : Type) [PyFloat φ] [NamedFloats φ] [UnicodeTables] [DigitTable] [StandardLibrary]
  [LowerTable]
variable (interpreter : Interpreter) (target : PyTarget) (context : ActiveDetectionContext)
  (policy : ActiveDetectionPolicy)

/-! ## One detector -/

/-- The requests for the candidates are within the budget. -/
def Detector.IsWithin (detector : Detector) (candidates : List RequestTemplate) : Prop :=
  candidates.length * detector.requestsPerCandidate ≤ policy.maximumProbeRequests

variable {detector : Detector} {place : Nat} {kept : List RequestTemplate}
  {detectors : List Detector}

section

variable {φ} {interpreter} {target} {context} {policy} {surroundings : ProbeSurroundings}
  {candidates : List RequestTemplate}

theorem run_isPrefix (detector : Detector) :
    (detector.run φ interpreter target context surroundings policy candidates).1
      <+: candidates := by
  cases detector
  all_goals
    simp only [Detector.run, runSqliErrorDetector, runReflectedXssDetector, runBudgeted,
      Prod.map_fst, id_eq]
    split
    · exact nil_prefix
    · exact probeCandidates_fst_isPrefix ..

variable (φ interpreter target context surroundings) in
theorem run_of_not_isWithin (h : ¬ detector.IsWithin policy candidates) :
    ∃ code message, detector.run φ interpreter target context surroundings policy candidates
      = ([], .error (.detection code message)) := by
  have hrefused : ∃ code message, enforceProbeBudget candidates.length policy
      detector.requestsPerCandidate = .error (.detection code message) := by
    rcases enforceProbeBudget_cases candidates.length detector.requestsPerCandidate policy
      with hok | hrefused
    · exact absurd (enforceProbeBudget_eq_ok.mp hok) h
    · exact hrefused
  obtain ⟨code, message, hrefused⟩ := hrefused
  refine ⟨code, message, ?_⟩
  cases detector
  all_goals
    simp only [Detector.requestsPerCandidate] at hrefused
    simp [Detector.run, runSqliErrorDetector, runReflectedXssDetector, runBudgeted, hrefused,
      Except.map]

theorem run_fst_eq_iff (hrun : ∀ index, surroundings.cancelled index = false)
    (h : detector.IsWithin policy candidates) :
    (detector.run φ interpreter target context surroundings policy candidates).1 = candidates ↔
      detector.firstFailure φ interpreter target context surroundings candidates.dropLast
        = none := by
  have hok := enforceProbeBudget_eq_ok.mpr h
  cases detector
  all_goals
    simp only [Detector.requestsPerCandidate] at hok
    simp only [Detector.run, runSqliErrorDetector, runReflectedXssDetector, runBudgeted, hok,
      Prod.map_fst, id_eq, Detector.firstFailure]
    exact probeCandidates_fst_eq_iff hrun ..

variable (φ interpreter target context) in
theorem run_snd (hrun : ∀ index, surroundings.cancelled index = false)
    (h : detector.IsWithin policy candidates) :
    (∃ failure,
        detector.firstFailure φ interpreter target context surroundings candidates = some failure
        ∧ (detector.run φ interpreter target context surroundings policy candidates).2
          = .error failure)
      ∨ detector.firstFailure φ interpreter target context surroundings candidates = none
        ∧ ∃ findings,
          (detector.run φ interpreter target context surroundings policy candidates).2
            = .ok findings := by
  have hok := enforceProbeBudget_eq_ok.mpr h
  cases detector
  all_goals
    simp only [Detector.requestsPerCandidate] at hok
    simp only [Detector.run, runSqliErrorDetector, runReflectedXssDetector, runBudgeted, hok,
      Prod.map_snd, Detector.firstFailure]
    rcases probeCandidates_snd hrun _ _ _ with ⟨failure, hfirst, hend⟩ | ⟨hfirst, ended, hend⟩
    · exact .inl ⟨failure, hfirst, by rw [hend]; rfl⟩
    · exact .inr ⟨hfirst, ended.findings, by rw [hend]; rfl⟩

end

/-! ## The loop over the detectors -/

variable (surroundings : PageSurroundings)

/-- The next detector has its turn after this one: it refuses the list, or no error ends it but an
`ActiveDetectionError`. -/
def PassesOn (kept : List RequestTemplate) (place : Nat) (detector : Detector) : Prop :=
  detector.IsWithin policy kept → ∀ failure,
    detector.firstFailure φ interpreter target context (surroundings.probes place) kept
      = some failure → failure.isDetection = true

variable {φ} {interpreter} {target} {context} {policy} {surroundings}

theorem passesOn_iff (hruns : surroundings.Runs) (kept : List RequestTemplate) (place : Nat)
    (detector : Detector) :
    PassesOn φ interpreter target context policy surroundings kept place detector ↔
      ∀ failure, (detector.run φ interpreter target context (surroundings.probes place) policy
        kept).2 = .error failure → failure.isDetection = true := by
  unfold PassesOn
  by_cases hwithin : detector.IsWithin policy kept
  · simp only [hwithin, true_imp_iff]
    rcases run_snd φ interpreter target context (hruns place).2 hwithin with
      ⟨failure, hfirst, hend⟩ | ⟨hfirst, found, hend⟩
    · simp [hfirst, hend]
    · simp [hfirst, hend]
  · obtain ⟨code, message, hrefused⟩ := run_of_not_isWithin φ interpreter target context
      (surroundings.probes place) hwithin
    simp [hwithin, hrefused, Failure.isDetection]

theorem runDetectors_of_passesOn (hruns : surroundings.Runs)
    (h : PassesOn φ interpreter target context policy surroundings kept place detector)
    (rest : List Detector) :
    (runDetectors φ interpreter target context policy surroundings kept place
        (detector :: rest)).1
      = (detector.run φ interpreter target context (surroundings.probes place) policy kept).1 ::
        (runDetectors φ interpreter target context policy surroundings kept (place + 1)
          rest).1 := by
  rw [passesOn_iff hruns] at h
  rw [runDetectors, if_neg (by simp [(hruns place).1])]
  dsimp only
  split
  next => rfl
  next failure hnot hend =>
    have hdetection := h failure hend
    cases failure with
    | detection code message => exact absurd rfl (hnot code message)
    | _ => cases hdetection
  next => rfl

theorem runDetectors_of_not_passesOn (hruns : surroundings.Runs)
    (h : ¬ PassesOn φ interpreter target context policy surroundings kept place detector)
    (rest : List Detector) :
    (runDetectors φ interpreter target context policy surroundings kept place
        (detector :: rest)).1
      = [(detector.run φ interpreter target context (surroundings.probes place) policy
          kept).1] := by
  rw [passesOn_iff hruns] at h
  push Not at h
  obtain ⟨failure, hend, hescapes⟩ := h
  rw [runDetectors, if_neg (by simp [(hruns place).1])]
  dsimp only
  split
  next code message hend' =>
    rw [hend] at hend'
    cases hend'
    exact absurd rfl hescapes
  next => rfl
  next findings hend' =>
    rw [hend] at hend'
    cases hend'

theorem runDetectors_reached (hruns : surroundings.Runs) (kept : List RequestTemplate)
    {detectors : List Detector} {start place : Nat} {detector : Detector}
    (hat : detectors[place]? = some detector)
    (h : ∀ earlier < place, ∀ other, detectors[earlier]? = some other →
      PassesOn φ interpreter target context policy surroundings kept (start + earlier) other) :
    (runDetectors φ interpreter target context policy surroundings kept start detectors).1[place]?
      = some (detector.run φ interpreter target context (surroundings.probes (start + place))
          policy kept).1 := by
  induction detectors generalizing start place with
  | nil => cases hat
  | cons first rest ih =>
    cases place with
    | zero =>
      obtain rfl : first = detector := by simpa using hat
      by_cases hpass : PassesOn φ interpreter target context policy surroundings kept start first
      · rw [runDetectors_of_passesOn hruns hpass]
        rfl
      · rw [runDetectors_of_not_passesOn hruns hpass]
        rfl
    | succ place =>
      have hpass : PassesOn φ interpreter target context policy surroundings kept start first :=
        h 0 (Nat.succ_pos place) first rfl
      rw [runDetectors_of_passesOn hruns hpass, getElem?_cons_succ]
      have hrest := @ih (start + 1) place (by simpa using hat)
        fun earlier hlt other hother => by
          have hother' := h (earlier + 1) (by omega) other (by simpa using hother)
          rwa [Nat.add_right_comm, Nat.add_assoc]
      rw [hrest, Nat.add_right_comm, Nat.add_assoc]

theorem runDetectors_unreached (hruns : surroundings.Runs) {start place earlier : Nat}
    {other : Detector} (hlt : earlier < place) (hat : detectors[earlier]? = some other)
    (h : ¬ PassesOn φ interpreter target context policy surroundings kept (start + earlier) other) :
    (runDetectors φ interpreter target context policy surroundings kept start
      detectors).1[place]? = none := by
  induction detectors generalizing start place earlier with
  | nil => cases hat
  | cons first rest ih =>
    by_cases hpass : PassesOn φ interpreter target context policy surroundings kept start first
    · cases earlier with
      | zero =>
        obtain rfl : first = other := by simpa using hat
        exact absurd hpass h
      | succ earlier =>
        obtain ⟨place, rfl⟩ : ∃ n, place = n + 1 := ⟨place - 1, by omega⟩
        rw [runDetectors_of_passesOn hruns hpass, getElem?_cons_succ]
        refine @ih (start + 1) place earlier (by omega) (by simpa using hat) ?_
        rwa [Nat.add_right_comm, Nat.add_assoc]
    · rw [runDetectors_of_not_passesOn hruns hpass]
      exact getElem?_eq_none (by simp; omega)

/-! ## What is taken up -/

/-- The candidates that a page gives to its detectors. -/
def keptCandidates (policy : ActiveDetectionPolicy) (candidates : List RequestTemplate) :
    List RequestTemplate :=
  candidates.take policy.maximumProbeRequests

omit [UnicodeTables] [DigitTable] [StandardLibrary] [LowerTable] in
theorem length_keptCandidates (candidates : List RequestTemplate) :
    (keptCandidates policy candidates).length
      = min policy.maximumProbeRequests candidates.length :=
  length_take

variable {candidates : List RequestTemplate}

theorem takenUp_eq (hne : candidates ≠ []) (place : Nat) :
    takenUp φ interpreter target context policy surroundings detectors candidates place
      = ((runDetectors φ interpreter target context policy surroundings
          (keptCandidates policy candidates) 0 detectors).1[place]?).getD [] := by
  unfold takenUp detectCandidates
  rw [if_neg (by simpa using hne)]
  rfl

theorem runDetectors_isPrefix (kept : List RequestTemplate) (detectors : List Detector)
    (start : Nat) : ∀ taken ∈ (runDetectors φ interpreter target context policy surroundings kept
      start detectors).1, taken <+: kept := by
  induction detectors generalizing start with
  | nil => simp [runDetectors]
  | cons first rest ih =>
    intro taken hmem
    rw [runDetectors] at hmem
    split at hmem
    · cases hmem
    · dsimp only at hmem
      split at hmem
      · rcases mem_cons.mp hmem with rfl | hmem
        · exact run_isPrefix first
        · exact ih _ taken hmem
      · obtain rfl := mem_singleton.mp hmem
        exact run_isPrefix first
      · rcases mem_cons.mp hmem with rfl | hmem
        · exact run_isPrefix first
        · exact ih _ taken hmem

variable (φ interpreter target context policy surroundings) in
theorem takenUp_isPrefix (detectors : List Detector) (candidates : List RequestTemplate)
    (place : Nat) :
    takenUp φ interpreter target context policy surroundings detectors candidates place
      <+: keptCandidates policy candidates := by
  by_cases hne : candidates = []
  · subst hne
    simp [takenUp, detectCandidates]
  · rw [takenUp_eq hne]
    cases hat : (runDetectors φ interpreter target context policy surroundings
        (keptCandidates policy candidates) 0 detectors).1[place]? with
    | none => exact nil_prefix
    | some taken => exact runDetectors_isPrefix _ _ _ taken (mem_of_getElem? hat)

variable (φ interpreter target context) in
theorem takenUp_of_not_isWithin (hruns : surroundings.Runs)
    (hat : detectors[place]? = some detector)
    (h : ¬ detector.IsWithin policy (keptCandidates policy candidates)) :
    takenUp φ interpreter target context policy surroundings detectors candidates place = [] := by
  by_cases hne : candidates = []
  · subst hne
    simp [takenUp, detectCandidates]
  rw [takenUp_eq hne]
  by_cases hreached : ∀ earlier < place, ∀ other, detectors[earlier]? = some other →
      PassesOn φ interpreter target context policy surroundings (keptCandidates policy candidates)
        (0 + earlier) other
  · obtain ⟨code, message, hrefused⟩ := run_of_not_isWithin φ interpreter target context
      (surroundings.probes (0 + place)) h
    rw [runDetectors_reached hruns _ hat hreached, hrefused]
    rfl
  · push Not at hreached
    obtain ⟨earlier, hlt, other, hother, hnot⟩ := hreached
    rw [runDetectors_unreached hruns hlt hother hnot]
    rfl

theorem takenUp_eq_kept_iff (hruns : surroundings.Runs) (hne : candidates ≠ [])
    (hat : detectors[place]? = some detector)
    (h : detector.IsWithin policy (keptCandidates policy candidates)) :
    takenUp φ interpreter target context policy surroundings detectors candidates place
        = keptCandidates policy candidates ↔
      (∀ earlier < place, ∀ other, detectors[earlier]? = some other →
        PassesOn φ interpreter target context policy surroundings (keptCandidates policy candidates)
          earlier other)
      ∧ detector.firstFailure φ interpreter target context (surroundings.probes place)
          (keptCandidates policy candidates).dropLast = none := by
  have hkept : keptCandidates policy candidates ≠ [] := by
    intro hnil
    have hlength : (keptCandidates policy candidates).length
      = min policy.maximumProbeRequests candidates.length := length_keptCandidates candidates
    rw [hnil, length_nil] at hlength
    have hpos := length_pos_of_ne_nil hne
    have hmaximum := policy.bounds.1
    omega
  rw [takenUp_eq hne]
  by_cases hreached : ∀ earlier < place, ∀ other, detectors[earlier]? = some other →
      PassesOn φ interpreter target context policy surroundings (keptCandidates policy candidates)
        (0 + earlier) other
  · rw [runDetectors_reached hruns _ hat hreached]
    simp only [Nat.zero_add] at hreached ⊢
    simp only [Option.getD_some]
    rw [run_fst_eq_iff (hruns place).2 h]
    exact ⟨fun hfirst => ⟨hreached, hfirst⟩, fun hboth => hboth.2⟩
  · have hunreached := hreached
    push Not at hreached
    obtain ⟨earlier, hlt, other, hother, hnot⟩ := hreached
    rw [runDetectors_unreached hruns hlt hother hnot]
    simp only [Nat.zero_add] at hunreached
    exact ⟨fun hnil => absurd hnil.symm hkept, fun hboth => absurd hboth.1 hunreached⟩

/-! ## Shares -/

/-- The detector at a place has its share of the budget on a page. -/
structure HasShare (φ : Type) [PyFloat φ] [NamedFloats φ] (interpreter : Interpreter)
    (target : PyTarget) (context : ActiveDetectionContext) (policy : ActiveDetectionPolicy)
    (surroundings : PageSurroundings) (detectors : List Detector)
    (candidates : List RequestTemplate) (place : Nat) (detector : Detector) : Prop where
  among : takenUp φ interpreter target context policy surroundings detectors candidates place
    <+: candidates
  enough : min candidates.length (policy.maximumProbeRequests / detector.requestsPerCandidate)
    ≤ (takenUp φ interpreter target context policy surroundings detectors candidates place).length
  /-- With fewer candidates on the page, no more of them are taken up, whatever happens there. -/
  never_fewer : ∀ (others : PageSurroundings) (fewer : List RequestTemplate), others.Runs →
    fewer.length ≤ candidates.length →
    (takenUp φ interpreter target context policy others detectors fewer place).length
      ≤ (takenUp φ interpreter target context policy surroundings detectors candidates place).length

omit [UnicodeTables] [DigitTable] [StandardLibrary] [LowerTable] in
theorem Detector.requestsPerCandidate_pos (detector : Detector) :
    0 < detector.requestsPerCandidate := by
  cases detector <;> decide

variable {detectors : List Detector} {candidates : List RequestTemplate}

/-- A detector takes up as many candidates as its share if and only if it has none to have, or all
requests for the kept ones are within the budget and no error ends the detection before the last. -/
theorem enough_iff (hruns : surroundings.Runs) (hne : candidates ≠ [])
    (hat : detectors[place]? = some detector) :
    min candidates.length (policy.maximumProbeRequests / detector.requestsPerCandidate)
        ≤ (takenUp φ interpreter target context policy surroundings detectors candidates
          place).length ↔
      policy.maximumProbeRequests < detector.requestsPerCandidate
      ∨ detector.IsWithin policy (keptCandidates policy candidates)
        ∧ (∀ earlier < place, ∀ other, detectors[earlier]? = some other →
          PassesOn φ interpreter target context policy surroundings
            (keptCandidates policy candidates) earlier other)
        ∧ detector.firstFailure φ interpreter target context (surroundings.probes place)
            (keptCandidates policy candidates).dropLast = none := by
  have hlength : (keptCandidates policy candidates).length
      = min policy.maximumProbeRequests candidates.length := length_keptCandidates candidates
  have hpos := length_pos_of_ne_nil hne
  have hcost := detector.requestsPerCandidate_pos
  have hmaximum := policy.bounds.1
  by_cases hwithin : detector.IsWithin policy (keptCandidates policy candidates)
  · rw [← takenUp_eq_kept_iff hruns hne hat hwithin]
    have hfits : (keptCandidates policy candidates).length
        ≤ policy.maximumProbeRequests / detector.requestsPerCandidate :=
      (Nat.le_div_iff_mul_le hcost).mpr hwithin
    have hnone : ¬ policy.maximumProbeRequests < detector.requestsPerCandidate := by
      intro hlt
      rw [Nat.div_eq_of_lt hlt] at hfits
      omega
    constructor
    · intro henough
      refine .inr ⟨hwithin, (takenUp_isPrefix φ interpreter target context policy surroundings
        detectors candidates place).eq_of_length_le ?_⟩
      omega
    · rintro (hlt | ⟨-, htaken⟩)
      · exact absurd hlt hnone
      · have hdiv := Nat.div_le_self policy.maximumProbeRequests detector.requestsPerCandidate
        rw [htaken]
        omega
  · have hnil := takenUp_of_not_isWithin φ interpreter target context hruns hat hwithin
    constructor
    · intro henough
      rw [hnil, length_nil, Nat.le_zero, Nat.min_eq_zero_iff] at henough
      rcases henough with hzero | hzero
      · omega
      · exact .inl (Nat.div_eq_zero_iff_lt hcost |>.mp hzero)
    · rintro (hlt | ⟨hwithin', -⟩)
      · rw [Nat.div_eq_of_lt hlt]
        omega
      · exact absurd hwithin' hwithin

theorem takenUp_of_no_share (hothers : surroundings.Runs)
    (hat : detectors[place]? = some detector)
    (hlt : policy.maximumProbeRequests < detector.requestsPerCandidate) :
    takenUp φ interpreter target context policy surroundings detectors candidates place = [] := by
  by_cases hempty : candidates = []
  · subst hempty
    simp [takenUp, detectCandidates]
  · refine takenUp_of_not_isWithin φ interpreter target context hothers hat fun hwithin => ?_
    have hmaximum := policy.bounds.1
    have hone : 1 ≤ (keptCandidates policy candidates).length := by
      rw [length_keptCandidates]
      have := length_pos_of_ne_nil hempty
      omega
    have hle := Nat.le_trans (Nat.mul_le_mul_right detector.requestsPerCandidate hone) hwithin
    omega

/-- **The share of a detector on a page**, whose candidates are found, merged and restricted. -/
theorem page_share_iff (hruns : surroundings.Runs) {found extraCandidates : List RequestTemplate}
    {restrictToPagePath : Option Text}
    (hcandidates : pageCandidates restrictToPagePath found extraCandidates = .ok candidates)
    (hne : candidates ≠ []) (hat : detectors[place]? = some detector) :
    min candidates.length (policy.maximumProbeRequests / detector.requestsPerCandidate)
        ≤ (((discoverAndDetectPage φ interpreter target context policy surroundings false
          (.ok (some found)) detectors restrictToPagePath extraCandidates).1[place]?).getD []).length
      ↔
      policy.maximumProbeRequests < detector.requestsPerCandidate
      ∨ detector.IsWithin policy (keptCandidates policy candidates)
        ∧ (∀ earlier < place, ∀ other, detectors[earlier]? = some other →
          PassesOn φ interpreter target context policy surroundings
            (keptCandidates policy candidates) earlier other)
        ∧ detector.firstFailure φ interpreter target context (surroundings.probes place)
            (keptCandidates policy candidates).dropLast = none := by
  rw [← enough_iff hruns hne hat]
  unfold discoverAndDetectPage takenUp
  simp only [Bool.false_eq_true, if_false, hcandidates]

/--
A detector has its share if and only if it has none to have, or all requests for the kept candidates
are within the budget and no error ends the detection in front of the last one of them.

Within the budget, the share is all that is kept.
-/
theorem detector_share_iff (hruns : surroundings.Runs) (hne : candidates ≠ [])
    (hat : detectors[place]? = some detector) :
    HasShare φ interpreter target context policy surroundings detectors candidates place detector ↔
      policy.maximumProbeRequests < detector.requestsPerCandidate
      ∨ detector.IsWithin policy (keptCandidates policy candidates)
        ∧ (∀ earlier < place, ∀ other, detectors[earlier]? = some other →
          PassesOn φ interpreter target context policy surroundings
            (keptCandidates policy candidates) earlier other)
        ∧ detector.firstFailure φ interpreter target context (surroundings.probes place)
            (keptCandidates policy candidates).dropLast = none := by
  rw [← enough_iff hruns hne hat]
  refine ⟨HasShare.enough, fun henough => ?_⟩
  have hfirst := takenUp_isPrefix φ interpreter target context policy surroundings detectors
    candidates place
  refine ⟨hfirst.trans ( take_prefix policy.maximumProbeRequests candidates), henough,
    fun others fewer hothers hfewer => ?_⟩
  rcases (enough_iff hruns hne hat).mp henough with hlt | ⟨hwithin, hrest⟩
  · rw [takenUp_of_no_share hothers hat hlt]
    exact Nat.zero_le _
  · have hle := (takenUp_isPrefix φ interpreter target context policy others detectors fewer
      place).length_le
    rw [length_keptCandidates] at hle
    rw [(takenUp_eq_kept_iff hruns hne hat hwithin).mpr hrest, length_keptCandidates]
    omega

end

/-! ## Pages with few and with many parameters -/

open ScanPermits (oneFloat asciiTables asciiLibrary)

def exampleTarget : PyTarget where
  originalUrl := ofString "http://example.com/"
  normalisedUrl := ofString "http://example.com/"
  scheme := "http".toList
  hostname := "example.com".toList
  port := 80
  resolvedAddresses := ["93.184.216.34".toList]

def discoveredPolicy : ActiveDetectionPolicy := ⟨maximumDiscoveredCandidates, by decide⟩

def unansweredProbes : ProbeSurroundings where
  cancelled _ := false
  exchange _ _ _ := .failed (ofString "connection_failed")
  marker _ := ofString "0123456789abcdef"
  now _ := 0

def unansweredPage : PageSurroundings := ⟨fun _ => false, fun _ => unansweredProbes⟩

def anonymousContext : ActiveDetectionContext := ⟨ofString "scan", none, none⟩

def searchCandidates (n : Nat) : List RequestTemplate :=
  replicate n (searchTemplate [(ofString "q", ofString "hello")])

theorem two_candidates_shared :
    letI := oneFloat; letI := unnamedFloats; letI := asciiTables; letI := superscriptDigits
    letI := asciiLibrary; letI := asciiLower
    HasShare Unit cpython exampleTarget anonymousContext discoveredPolicy unansweredPage
      [.sqliError, .xssReflected] (searchCandidates 2) 1 .xssReflected := by
  let _ := oneFloat
  let _ := unnamedFloats
  let _ := asciiTables
  let _ := superscriptDigits
  let _ := asciiLibrary
  let _ := asciiLower
  refine (detector_share_iff (fun _ => ⟨rfl, fun _ => rfl⟩) (by decide) rfl).mpr
    (.inr ⟨Nat.le_of_ble_eq_true rfl, fun earlier hlt other hother => ?_, by decide⟩)
  obtain rfl : earlier = 0 := Nat.lt_one_iff.mp hlt
  cases hother
  intro _ failure hfailure
  have hnone : Detector.firstFailure Unit cpython exampleTarget anonymousContext unansweredProbes
      (searchCandidates 2) .sqliError = none := by decide
  exact absurd (hfailure.symm.trans hnone) (by simp)

/-- With a budget of fifteen requests, eight parameters are not probed where seven are. -/
theorem eighth_parameter_starves :
    letI := oneFloat; letI := unnamedFloats; letI := asciiTables; letI := superscriptDigits
    letI := asciiLibrary; letI := asciiLower
    unansweredPage.Runs
      ∧ (takenUp Unit cpython exampleTarget anonymousContext discoveredPolicy unansweredPage
        [.sqliError] (searchCandidates 7) 0).length = 7
      ∧ takenUp Unit cpython exampleTarget anonymousContext discoveredPolicy unansweredPage
        [.sqliError] (searchCandidates 8) 0 = []
      ∧ ¬ HasShare Unit cpython exampleTarget anonymousContext discoveredPolicy unansweredPage
        [.sqliError] (searchCandidates 8) 0 .sqliError := by
  let _ := oneFloat
  let _ := unnamedFloats
  let _ := asciiTables
  let _ := superscriptDigits
  let _ := asciiLibrary
  let _ := asciiLower
  have hnothing : takenUp Unit cpython exampleTarget anonymousContext discoveredPolicy
      unansweredPage [.sqliError] (searchCandidates 8) 0 = [] := by decide
  refine ⟨fun _ => ⟨rfl, fun _ => rfl⟩, by decide, hnothing, fun hshare => ?_⟩
  have henough := hshare.enough
  rw [hnothing] at henough
  exact absurd henough (by decide)

end WebGuard.ActiveDetection
