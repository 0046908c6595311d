import WebGuard.Detection.ActiveDetection

/-!
# Runs of detectors

The loop that the detectors have in common: one candidate after the other is taken up, and what is
noted of it goes to the result. A cancellation ends the run with the result so far, an error ends it
without one.
-/

namespace WebGuard.ActiveDetection

open PyJson FindingContract List

/-- The result of a run; `ρ` is the type of its records. -/
structure DetectorRunResult (ρ : Type) where
  findings : List NormalizedFinding
  records : List ρ
  probeErrors : List PyText
  cancelled : Bool

/-- What is noted of a candidate. -/
structure Probed (ρ : Type) where
  probeErrors : List PyText
  records : List ρ
  findings : List NormalizedFinding

variable {α ρ : Type}

def Probed.failed (errorCode : PyText) : Probed ρ := ⟨[errorCode], [], []⟩

def Probed.recorded (record : ρ) (finding : Option NormalizedFinding) : Probed ρ :=
  ⟨[], [record], finding.toList⟩

def DetectorRunResult.empty : DetectorRunResult ρ := ⟨[], [], [], false⟩

def DetectorRunResult.note (result : DetectorRunResult ρ) (probed : Probed ρ) :
    DetectorRunResult ρ where
  findings := result.findings ++ probed.findings
  records := result.records ++ probed.records
  probeErrors := result.probeErrors ++ probed.probeErrors
  cancelled := result.cancelled

/-- The loop of a detector: the candidates that are taken up, and how the run ends. -/
def probeCandidates (cancelled : Nat → Bool) (probe : Nat → α → Except Failure (Probed ρ))
    (result : DetectorRunResult ρ) :
    Nat → List α → List α × Except Failure (DetectorRunResult ρ)
  | _, [] => ([], .ok result)
  | index, candidate :: rest =>
    if cancelled index then ([], .ok { result with cancelled := true })
    else
      match probe index candidate with
      | .error failure => ([candidate], .error failure)
      | .ok probed =>
        let run := probeCandidates cancelled probe (result.note probed) (index + 1) rest
        (candidate :: run.1, run.2)

/-- The error that ends the loop, when it is not cancelled. -/
def firstFailure (probe : Nat → α → Except Failure (Probed ρ)) : Nat → List α → Option Failure
  | _, [] => none
  | index, candidate :: rest =>
    match probe index candidate with
    | .error failure => some failure
    | .ok _ => firstFailure probe (index + 1) rest

/-- What ends the loop before its time. -/
inductive Interruption where
  | cancelled
  | failed (failure : Failure)
  deriving DecidableEq

/-- What comes in front of the end of the loop. -/
def firstInterruption (cancelled : Nat → Bool) (probe : Nat → α → Except Failure (Probed ρ)) :
    Nat → List α → Option Interruption
  | _, [] => none
  | index, candidate :: rest =>
    if cancelled index then some .cancelled
    else
      match probe index candidate with
      | .error failure => some (.failed failure)
      | .ok _ => firstInterruption cancelled probe (index + 1) rest

/-- The findings that the candidates come to. -/
def candidateFindings (probe : Nat → α → Except Failure (Probed ρ)) :
    Nat → List α → List NormalizedFinding
  | _, [] => []
  | index, candidate :: rest =>
    match probe index candidate with
    | .error _ => []
    | .ok probed => probed.findings ++ candidateFindings probe (index + 1) rest

variable {cancelled : Nat → Bool} {probe : Nat → α → Except Failure (Probed ρ)}

variable (result : DetectorRunResult ρ) (index : Nat) (candidates : List α)

theorem probeCandidates_fst_isPrefix :
    (probeCandidates cancelled probe result index candidates).1 <+: candidates := by
  induction candidates generalizing index result with
  | nil => exact nil_prefix
  | cons candidate rest ih =>
    unfold probeCandidates
    split
    · exact nil_prefix
    · split
      · exact cons_prefix_cons.mpr ⟨rfl, nil_prefix⟩
      · exact cons_prefix_cons.mpr ⟨rfl, ih _ _⟩

theorem probeCandidates_snd (hrun : ∀ index, cancelled index = false)
    (result : DetectorRunResult ρ) (index : Nat) (candidates : List α) :
    (∃ failure, firstFailure probe index candidates = some failure
        ∧ (probeCandidates cancelled probe result index candidates).2 = .error failure)
      ∨ firstFailure probe index candidates = none
        ∧ ∃ ended, (probeCandidates cancelled probe result index candidates).2 = .ok ended := by
  induction candidates generalizing index result with
  | nil => exact .inr ⟨rfl, result, rfl⟩
  | cons candidate rest ih =>
    unfold probeCandidates firstFailure
    rw [if_neg (by simp [hrun])]
    cases probe index candidate with
    | error failure => exact .inl ⟨failure, rfl, rfl⟩
    | ok probed => exact ih (result.note probed) (index + 1)

theorem probeCandidates_fst_eq_iff (hrun : ∀ index, cancelled index = false)
    (result : DetectorRunResult ρ) (index : Nat) (candidates : List α) :
    (probeCandidates cancelled probe result index candidates).1 = candidates ↔
      firstFailure probe index candidates.dropLast = none := by
  induction candidates generalizing index result with
  | nil => simp [probeCandidates, firstFailure]
  | cons candidate rest ih =>
    unfold probeCandidates
    rw [if_neg (by simp [hrun])]
    cases rest with
    | nil =>
      cases probe index candidate with
      | error failure => simp [firstFailure]
      | ok probed => simp [firstFailure, probeCandidates]
    | cons next others =>
      rw [dropLast_cons_of_ne_nil (by simp), firstFailure]
      cases probe index candidate with
      | error failure => simp
      | ok probed => simpa using ih (result.note probed) (index + 1)

variable (cancelled probe) in
theorem probeCandidates_cases :
    match firstInterruption cancelled probe index candidates with
    | none => (probeCandidates cancelled probe result index candidates).1 = candidates
      ∧ ∃ ended, (probeCandidates cancelled probe result index candidates).2 = .ok ended
        ∧ ended.findings = result.findings ++ candidateFindings probe index candidates
    | some .cancelled =>
      (probeCandidates cancelled probe result index candidates).1 ≠ candidates
      ∧ ∃ ended, (probeCandidates cancelled probe result index candidates).2 = .ok ended
    | some (.failed failure) =>
      (probeCandidates cancelled probe result index candidates).2 = .error failure := by
  induction candidates generalizing index result with
  | nil => exact ⟨rfl, result, rfl, (append_nil _).symm⟩
  | cons candidate rest ih =>
    unfold probeCandidates firstInterruption candidateFindings
    by_cases hcancelled : cancelled index = true
    · rw [if_pos hcancelled, if_pos hcancelled]
      exact ⟨(cons_ne_nil _ _).symm, _, rfl⟩
    · rw [if_neg hcancelled, if_neg hcancelled]
      cases probe index candidate with
      | error failure => rfl
      | ok probed =>
        have hrest := ih (result.note probed) (index + 1)
        dsimp only
        cases hfirst : firstInterruption cancelled probe (index + 1) rest with
        | none =>
          rw [hfirst] at hrest
          obtain ⟨htaken, ended, hended, hfindings⟩ := hrest
          refine ⟨congrArg (candidate :: ·) htaken, ended, hended, ?_⟩
          rw [hfindings, DetectorRunResult.note, append_assoc]
        | some interruption =>
          rw [hfirst] at hrest
          cases interruption with
          | cancelled =>
            obtain ⟨htaken, hended⟩ := hrest
            exact ⟨fun heq => htaken (cons.inj heq).2, hended⟩
          | failed failure => exact hrest

end WebGuard.ActiveDetection
