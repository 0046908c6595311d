import WebGuard.Detection.AuthorizationResources
import WebGuard.Detection.DetectorRuns

/-!
# The detector of access across identities

`idor_authorization_detector.py`: each identity of a pair requests its own resource and that of the
other, and what comes back of the four requests is compared.
-/

namespace WebGuard.ActiveDetection

open PyJson UrlParse StandardLibrary FindingContract

inductive IdorDetectionOutcome where
  | found (outcome : Outcome)
  | inconclusive
  | notVulnerable
  | error
  deriving DecidableEq

/-- `AuthorizationDifferentialObservation` of a response, as much of it as is compared. -/
structure DifferentialObservation where
  status : Nat
  contentFingerprint : PyText
  markerMatched : Bool
  deriving DecidableEq

/-- An observation, or the code of the error of the request. -/
abbrev Observed := Except PyText DifferentialObservation

/-- `text.encode("utf-8", errors="replace")`. -/
def encodeReplacing (text : PyText) : List Nat :=
  text.flatMap fun n => if isScalar n then utf8Bytes n else [63]

/-- `marker_matched`, which is false as well where no marker is configured. -/
def markerMatched (ownerMarker : PyText) (body : List Nat) : Bool :=
  !ownerMarker.isEmpty && body.tails.any (encodeReplacing ownerMarker).isPrefixOf

/-- `_classify`. -/
def classifyAccess (baselinePrimary baselineSecondary crossPrimaryToSecondary : Observed)
    (expectedAccess : ResourceOwnership) : IdorDetectionOutcome :=
  if expectedAccess = .shared ∨ expectedAccess = .public then .inconclusive
  else
    match baselinePrimary, baselineSecondary with
    | .ok primary, .ok secondary =>
      if primary.status ≠ 200 ∨ secondary.status ≠ 200 then .inconclusive
      else
        match crossPrimaryToSecondary with
        | .error _ => .error
        | .ok cross =>
          if cross.status ≠ 200 then .notVulnerable
          else if cross.contentFingerprint = primary.contentFingerprint then .notVulnerable
          else if cross.contentFingerprint = secondary.contentFingerprint then .found .confirmed
          else if cross.markerMatched then .found .probable
          else .notVulnerable
    | _, _ => .inconclusive

structure IdorComparisonRecord where
  resourcePairId : PyText × PyText
  primaryIdentity : PyText
  secondaryIdentity : PyText
  outcome : IdorDetectionOutcome
  detectedAt : Nat
  deriving DecidableEq

/-- What happens around the comparisons. Pairs, and the four requests of a pair, come by their
positions. -/
structure ComparisonSurroundings where
  cancelled : Nat → Bool
  exchange : Nat → Nat → Exchange
  now : Nat → Nat

def requestsPerResourcePair : Nat := 4

section

variable [StandardLibrary]

def fetchResource (sha256 : List Nat → PyText) (target : PyTarget)
    (resource : AuthorizationResource) (exchange : Exchange) : Except Failure Observed := do
  let attempt ← issueRequest target (characters resource.endpoint) exchange
  return attempt.response.map fun response => {
    status := response.status
    contentFingerprint := sha256 response.body
    markerMatched := markerMatched resource.ownerMarker response.body }

/-- The code that is noted of a failed request. -/
def observedErrors : Observed → List PyText
  | .ok _ => []
  | .error errorCode => [probeErrorCode errorCode]

variable [LowerTable] [UnicodeTables]
variable (sha256 : List Nat → PyText) (target : PyTarget) (context : ActiveDetectionContext)
  (primaryIdentity secondaryIdentity : PyText) (surroundings : ComparisonSurroundings)

/-- The finding of an outcome that is reported. -/
def idorFinding (index : Nat) (requestingIdentity owningIdentity : PyText)
    (resource : AuthorizationResource) :
    IdorDetectionOutcome → Except Failure (List NormalizedFinding)
  | .found outcome => do
    let finding ← Sighting.buildFinding target {
      advisory := idorAdvisory outcome
      url := characters resource.endpoint
      method := resource.method
      parameter :=
        if resource.identifierName.isEmpty then resource.resourceType else resource.identifierName
      provenance := context.provenance "active.authorization.idor"
        ++ ofString ". Requesting identity: " ++ requestingIdentity
        ++ ofString ". Resource owner identity: " ++ owningIdentity
        ++ ofString (". Expected authorization outcome: denied. Observed outcome: "
          ++ "cross-identity access succeeded. Outcome: " ++ outcome.value ++ ".")
      detectedAt := surroundings.now index }
    return [finding]
  | _ => .ok []

/-- A turn of the loop of `run_idor_authorization_detector`. -/
def comparePair (index : Nat) (pair : AuthorizationResourcePair) :
    Except Failure (Probed IdorComparisonRecord) := do
  let exchange := surroundings.exchange index
  let baselinePrimary ← fetchResource sha256 target pair.primaryResource (exchange 0)
  let baselineSecondary ← fetchResource sha256 target pair.secondaryResource (exchange 1)
  let crossPrimaryToSecondary ← fetchResource sha256 target pair.secondaryResource (exchange 2)
  let crossSecondaryToPrimary ← fetchResource sha256 target pair.primaryResource (exchange 3)
  let expectedAccess := pair.primaryResource.expectedAccess
  let outcomePrimary :=
    classifyAccess baselinePrimary baselineSecondary crossPrimaryToSecondary expectedAccess
  let primaryFinding ← idorFinding target context surroundings index primaryIdentity
    secondaryIdentity pair.secondaryResource outcomePrimary
  let outcomeSecondary :=
    classifyAccess baselineSecondary baselinePrimary crossSecondaryToPrimary expectedAccess
  let secondaryFinding ← idorFinding target context surroundings index secondaryIdentity
    primaryIdentity pair.primaryResource outcomeSecondary
  return {
    probeErrors := observedErrors baselinePrimary ++ observedErrors baselineSecondary
      ++ observedErrors crossPrimaryToSecondary ++ observedErrors crossSecondaryToPrimary
    records := [
      ⟨pair.ids, primaryIdentity, secondaryIdentity, outcomePrimary, surroundings.now index⟩,
      ⟨pair.ids.swap, secondaryIdentity, primaryIdentity, outcomeSecondary,
        surroundings.now index⟩]
    findings := primaryFinding ++ secondaryFinding }

/-- `run_idor_authorization_detector`: the pairs that are taken up, and how the run ends. -/
def runIdorAuthorizationDetector (policy : ActiveDetectionPolicy)
    (resourcePairs : List AuthorizationResourcePair) :
    List AuthorizationResourcePair × Except Failure (DetectorRunResult IdorComparisonRecord) :=
  let totalRequests := resourcePairs.length * requestsPerResourcePair
  if policy.maximumProbeRequests < totalRequests then
    ([], .error (.detection "candidate_budget_exceeded"
      (toString resourcePairs.length ++ " resource pairs at " ++ toString requestsPerResourcePair
        ++ " request(s) each (" ++ toString totalRequests
        ++ " total) exceed the maximum_probe_requests policy of "
        ++ toString policy.maximumProbeRequests ++ ".")))
  else
    probeCandidates surroundings.cancelled (comparePair sha256 target context primaryIdentity
      secondaryIdentity surroundings) .empty 0 resourcePairs

end

end WebGuard.ActiveDetection
