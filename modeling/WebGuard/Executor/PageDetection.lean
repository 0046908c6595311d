import WebGuard.Detection.InjectionDetectors

/-!
# Detection on a page

`_discover_and_detect_page` of `executor.py`: the candidates that discovery has found on a page,
with those of the site behind them, go to one detector after the other. A detector that raises an
`ActiveDetectionError` is left out, any other error ends the detection.

What discovery finds on the page is an input. Next to the findings stands which candidates each
detector has taken up.
-/

namespace WebGuard.ActiveDetection

open PyJson UrlParse FindingContract RequestTemplates
open Pagination (Interpreter)

/-! ## Candidates -/

/-- The candidates of the site behind those of the page; an endpoint and a parameter come once. -/
def mergeCandidates (candidates : List RequestTemplate) :
    List RequestTemplate → List RequestTemplate
  | [] => candidates
  | extra :: rest =>
    if (candidates.map fun c => (c.endpoint, c.parameter)).contains
        (extra.endpoint, extra.parameter) then
      mergeCandidates candidates rest
    else mergeCandidates (candidates ++ [extra]) rest

/-- The candidates whose endpoint has the path of the page. -/
def restrictToPath [StandardLibrary] (path : Text) :
    List RequestTemplate → Except Failure (List RequestTemplate)
  | [] => .ok []
  | candidate :: rest => do
    let parsed ← (splitEndpoint candidate.endpoint).mapError Failure.template
    let others ← restrictToPath path rest
    return if parsed.path = path then candidate :: others else others

/-- The candidates of a page. -/
def pageCandidates [StandardLibrary] (restrictToPagePath : Option Text)
    (found extraCandidates : List RequestTemplate) : Except Failure (List RequestTemplate) :=
  match restrictToPagePath with
  | none => .ok (mergeCandidates found extraCandidates)
  | some path => restrictToPath path (mergeCandidates found extraCandidates)

/-! ## Detectors -/

/-- What happens around the detectors of a page, which come by their positions. -/
structure PageSurroundings where
  /-- The poll in front of a detector. -/
  cancelled : Nat → Bool
  probes : Nat → ProbeSurroundings

/-- Nobody cancels the scan. -/
def PageSurroundings.Runs (surroundings : PageSurroundings) : Prop :=
  ∀ place, surroundings.cancelled place = false
    ∧ ∀ index, (surroundings.probes place).cancelled index = false

section

variable (φ : Type) [PyFloat φ] [NamedFloats φ] [UnicodeTables] [DigitTable] [StandardLibrary]
  [LowerTable]
variable (interpreter : Interpreter) (target : PyTarget) (context : ActiveDetectionContext)
  (policy : ActiveDetectionPolicy) (surroundings : PageSurroundings)

/-- The loop over the detectors: what each of them takes up, and all findings. -/
def runDetectors (candidates : List RequestTemplate) :
    Nat → List Detector → List (List RequestTemplate) × Except Failure (List NormalizedFinding)
  | _, [] => ([], .ok [])
  | place, detector :: rest =>
    if surroundings.cancelled place then ([], .ok [])
    else
      let run := detector.run φ interpreter target context (surroundings.probes place) policy
        candidates
      match run.2 with
      | .error (.detection _ _) =>
        let others := runDetectors candidates (place + 1) rest
        (run.1 :: others.1, others.2)
      | .error failure => ([run.1], .error failure)
      | .ok findings =>
        let others := runDetectors candidates (place + 1) rest
        (run.1 :: others.1, others.2.map (findings ++ ·))

/-- What `_discover_and_detect_page` does with the candidates of a page. -/
def detectCandidates (detectors : List Detector) (candidates : List RequestTemplate) :
    List (List RequestTemplate) × Except Failure (List NormalizedFinding) :=
  if candidates.isEmpty then ([], .ok [])
  else
    runDetectors φ interpreter target context policy surroundings
      (candidates.take policy.maximumProbeRequests) 0 detectors

/-- `_discover_and_detect_page`; `found` is nothing when the page cannot be fetched. -/
def discoverAndDetectPage (cancelled : Bool)
    (found : Except Failure (Option (List RequestTemplate))) (detectors : List Detector)
    (restrictToPagePath : Option Text) (extraCandidates : List RequestTemplate) :
    List (List RequestTemplate) × Except Failure (List NormalizedFinding) :=
  if cancelled then ([], .ok [])
  else
    match found with
    | .error failure => ([], .error failure)
    | .ok none => ([], .ok [])
    | .ok (some templates) =>
      match pageCandidates restrictToPagePath templates extraCandidates with
      | .error failure => ([], .error failure)
      | .ok candidates =>
        detectCandidates φ interpreter target context policy surroundings detectors candidates

/-- The candidates that the detector at a place takes up. -/
def takenUp (detectors : List Detector) (candidates : List RequestTemplate) (place : Nat) :
    List RequestTemplate :=
  ((detectCandidates φ interpreter target context policy surroundings detectors
    candidates).1[place]?).getD []

end

end WebGuard.ActiveDetection
