import WebGuard.Contracts.ScanResults
import WebGuard.Detection.IdorDetector

/-!
# Comparison of two identities

`_apply_authorization_comparison` of `executor.py`: the pairs of the comparison plan and those that
discovery has found go to the detector of access across identities, and its findings to the report.

What the repositories, the two discovery crawls and the site answer is an input, and so is every
poll of the cancellation.
-/

namespace WebGuard.ActiveDetection

open PyJson UrlParse StandardLibrary FindingContract ScanReports

/-- `AuthorizationComparisonPlanRecord`, as much of it as the comparison reads. -/
structure AuthorizationComparisonPlan where
  resourceScope : List ResourcePairSpec
  enableDiscovery : Bool
  /-- `MAXIMUM_RESOURCE_PAIRS_PER_PLAN`, and half of `MAXIMUM_COMPARISONS_PER_PLAN`. -/
  bounded : resourceScope.length ≤ 10
  nonempty : resourceScope ≠ [] ∨ enableDiscovery = true

/-- The plan of a comparison with the labels of its two identities. -/
structure ComparisonIdentities where
  plan : AuthorizationComparisonPlan
  primaryIdentity : PyText
  secondaryIdentity : PyText

/-- A report of one page or of a crawl; nothing of the second is read. -/
inductive WebGuardReport (φ κ : Type) where
  | scan (report : ScanResult φ)
  | crawl (report : κ)

def activeDetectionEligibleStatuses : List ScanStatus := [.completed, .completedWithErrors]

section

variable [StandardLibrary]

/-- What a discovery crawl ends with: an error, or the resources when the identity was signed in. -/
abbrev DiscoveryOutcome := Except Failure (Option (List AuthorizationResource))

/-- What a comparison is given and what it meets. -/
structure ComparisonInput (φ κ : Type) where
  report : WebGuardReport φ κ
  target : PyTarget
  activeChecks : List PyText
  comparisonPlanId : Option PyText
  context : ActiveDetectionContext
  cancelled : Bool
  /-- The plan, or the code and the message of a `AuthorizationComparisonError`, an
  `AuthenticationContextError` or a `SecretProviderError`. -/
  identities : Except (PyText × PyText) ComparisonIdentities
  cancelledAtDiscovery : Bool
  primaryDiscovery : DiscoveryOutcome
  secondaryDiscovery : DiscoveryOutcome
  surroundings : ComparisonSurroundings

/-- How a comparison went. -/
structure ComparisonRun (φ κ : Type) where
  pairs : List AuthorizationResourcePair
  /-- `maximum_probe_requests`. -/
  requestBudget : Nat
  /-- The pairs whose comparison is in the report. -/
  compared : List AuthorizationResourcePair
  result : Except Failure (WebGuardReport φ κ)

/-- The report that findings can be added to. -/
def ComparisonInput.dueReport {φ κ : Type} (input : ComparisonInput φ κ) :
    Option (ScanResult φ) :=
  match input.report with
  | .crawl _ => none
  | .scan report =>
    if input.activeChecks.contains (ofString "active.authorization.idor")
        && input.comparisonPlanId.isSome
        && activeDetectionEligibleStatuses.contains report.status && !input.cancelled then
      some report
    else none

variable [LowerTable] [UnicodeTables]

/-- The pairs of the plan with those of the two crawls behind them.

Resources of one label are never eligible, so the graph has two parts here. -/
def ComparisonInput.resourcePairs {φ κ : Type} (sha256 : List Nat → PyText)
    (input : ComparisonInput φ κ) (identities : ComparisonIdentities) :
    Except Failure (List AuthorizationResourcePair) := do
  let primaryIdentity := identities.primaryIdentity
  let secondaryIdentity := identities.secondaryIdentity
  let explicitPairs ← identities.plan.resourceScope.mapM
    (resourcePairFromSpec sha256 primaryIdentity secondaryIdentity)
  if identities.plan.enableDiscovery && !input.cancelledAtDiscovery then
    let primaryFound ← input.primaryDiscovery
    let secondaryFound ← input.secondaryDiscovery
    return addDiscoveredPairs explicitPairs (buildComparisonPairs
      (addResources primaryIdentity [] (primaryFound.getD []))
      (addResources secondaryIdentity [] (secondaryFound.getD [])))
  else return explicitPairs

section

variable {φ κ : Type} [PyFloat φ] [ReportLibrary φ]
variable (digest : List Char → PyText) (sha256 : List Nat → PyText)

/-- A comparison of a pair, with the identities of the plan. -/
def ComparisonInput.comparePair (input : ComparisonInput φ κ) (identities : ComparisonIdentities) :
    Nat → AuthorizationResourcePair → Except Failure (Probed IdorComparisonRecord) :=
  ActiveDetection.comparePair sha256 input.target input.context identities.primaryIdentity
    identities.secondaryIdentity input.surroundings

/-- A report with findings behind its own; without any it stays as it is. -/
def addFindings (report : ScanResult φ) (found : List NormalizedFinding) :
    Except Failure (WebGuardReport φ κ) :=
  if found.isEmpty then .ok (.scan report)
  else (({ report with findings := report.findings ++ found } : ScanResult φ).postInit
    digest).map WebGuardReport.scan |>.mapError Failure.contract

/-- The part behind the pairs. -/
def compareIdentities (input : ComparisonInput φ κ) (report : ScanResult φ)
    (identities : ComparisonIdentities) (pairs : List AuthorizationResourcePair) :
    ComparisonRun φ κ :=
  if pairs.isEmpty then ⟨[], 0, [], .ok (.scan report)⟩
  else
    match ActiveDetectionPolicy.postInit
        (max maximumDiscoveredCandidates (pairs.length * requestsPerResourcePair)) with
    | .error failure => ⟨pairs, 0, [], .error failure⟩
    | .ok policy =>
      let run := runIdorAuthorizationDetector sha256 input.target input.context
        identities.primaryIdentity identities.secondaryIdentity input.surroundings policy pairs
      match run.2 with
      | .error (.detection _ _) =>
        ⟨pairs, policy.maximumProbeRequests, [], .ok (.scan report)⟩
      | .error failure => ⟨pairs, policy.maximumProbeRequests, run.1, .error failure⟩
      | .ok result =>
        ⟨pairs, policy.maximumProbeRequests, run.1, addFindings digest report result.findings⟩

def applyAuthorizationComparison (input : ComparisonInput φ κ) : ComparisonRun φ κ :=
  match input.dueReport with
  | none => ⟨[], 0, [], .ok input.report⟩
  | some report =>
    match input.identities with
    | .error (code, message) => ⟨[], 0, [], .error (.safety code message)⟩
    | .ok identities =>
      match input.resourcePairs sha256 identities with
      | .error failure => ⟨[], 0, [], .error failure⟩
      | .ok pairs => compareIdentities digest sha256 input report identities pairs

end

end

end WebGuard.ActiveDetection
