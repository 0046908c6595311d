import WebGuard.Executor.AuthorizationComparison
import WebGuard.Properties.ReportComparison

/-!
# How a comparison of two identities ends

Seven pairs need twenty-eight requests, which are more than a policy takes, and the policy is made
where nobody catches its error.
-/

namespace WebGuard.ActiveDetection

open PyJson UrlParse StandardLibrary FindingContract ScanReports ActiveDetectionPolicy

/-- `TrustScanRuntimeSafetyError`. -/
def Failure.isSafety : Failure → Bool
  | .safety _ _ => true
  | _ => false

section

variable [StandardLibrary] [LowerTable] [UnicodeTables]
variable {φ κ : Type} [PyFloat φ] [ReportLibrary φ]
variable (digest : List Char → PyText) (sha256 : List Nat → PyText)

/-- A comparison either ends with a report in which every pair was compared within the budget, and
which is the one it was given or one that its constructor accepts, or the safety engine ends it. -/
def ComparisonRun.IsTotal (given : WebGuardReport φ κ) (run : ComparisonRun φ κ) : Prop :=
  match run.result with
  | .ok report =>
    (report = given ∨ ∃ raw built : ScanResult φ,
      raw.postInit digest = .ok built ∧ report = .scan built)
    ∧ run.compared = run.pairs
    ∧ run.compared.length * requestsPerResourcePair ≤ run.requestBudget
  | .error failure => failure.isSafety = true

/-- The findings can be added to the report. -/
def TakesFindings (report : ScanResult φ) (found : List NormalizedFinding) : Prop :=
  found = [] ∨ ∃ built : ScanResult φ,
    ({ report with findings := report.findings ++ found } : ScanResult φ).postInit digest
      = .ok built

/-- What has to hold of the pairs: there are at most six, nobody cancels their comparison, only the
safety engine ends it, and the report takes the findings. -/
def PairsFit (input : ComparisonInput φ κ) (report : ScanResult φ)
    (identities : ComparisonIdentities) (pairs : List AuthorizationResourcePair) : Prop :=
  let compare := input.comparePair sha256 identities
  pairs.length ≤ 6 ∧
    match firstInterruption input.surroundings.cancelled compare 0 pairs with
    | none => TakesFindings digest report (candidateFindings compare 0 pairs)
    | some .cancelled => False
    | some (.failed failure) => failure.isSafety = true

/-- The input is one that the comparison can end with as it should. -/
def InputFits (input : ComparisonInput φ κ) : Prop :=
  ∀ report identities, input.dueReport = some report → input.identities = .ok identities →
    match input.resourcePairs sha256 identities with
    | .error failure => failure.isSafety = true
    | .ok pairs => pairs = [] ∨ PairsFit digest sha256 input report identities pairs

variable {digest} {sha256}

omit [StandardLibrary] [LowerTable] [UnicodeTables] in
theorem exists_comparisonPolicy_iff (n : Nat) :
    (∃ policy, postInit
        (max maximumDiscoveredCandidates (n * requestsPerResourcePair)) = .ok policy) ↔ n ≤ 6 := by
  unfold maximumDiscoveredCandidates requestsPerResourcePair
  constructor
  · rintro ⟨policy, h⟩
    have hbounds := policy.bounds
    rw [postInit_eq_ok.mp h] at hbounds
    omega
  · intro h
    exact ⟨⟨max 15 (n * 4), by omega⟩, postInit_eq_ok.mpr rfl⟩

variable {report : ScanResult φ} {found : List NormalizedFinding}

theorem addFindings_of_takes (h : TakesFindings digest report found) :
    ∃ merged : WebGuardReport φ κ, addFindings digest report found = .ok merged
      ∧ (merged = .scan report ∨ ∃ raw built : ScanResult φ,
        raw.postInit digest = .ok built ∧ merged = .scan built) := by
  unfold addFindings
  rcases h with rfl | ⟨built, hbuilt⟩
  · exact ⟨_, rfl, .inl rfl⟩
  · split
    · exact ⟨_, rfl, .inl rfl⟩
    · exact ⟨.scan built, by rw [hbuilt]; rfl, .inr ⟨_, built, hbuilt, rfl⟩⟩

theorem addFindings_of_not_takes (h : ¬ TakesFindings digest report found) :
    ∃ error, (addFindings digest report found : Except Failure (WebGuardReport φ κ))
      = .error (.contract error) := by
  unfold TakesFindings at h
  push Not at h
  obtain ⟨hfound, hbuilt⟩ := h
  unfold addFindings
  rw [if_neg (by simpa using hfound)]
  cases hmerged : ({ report with findings := report.findings ++ found } : ScanResult φ).postInit
      digest with
  | error error => exact ⟨error, rfl⟩
  | ok built => exact absurd hmerged (hbuilt built)

variable {input : ComparisonInput φ κ} {identities : ComparisonIdentities}
    {pairs : List AuthorizationResourcePair}

theorem compareIdentities_of_policy (hne : pairs ≠ []) {policy : ActiveDetectionPolicy}
    (hpolicy : postInit
      (max maximumDiscoveredCandidates (pairs.length * requestsPerResourcePair)) = .ok policy) :
    compareIdentities digest sha256 input report identities pairs
      = let run := probeCandidates input.surroundings.cancelled
          (input.comparePair sha256 identities) .empty 0 pairs
        match run.2 with
        | .error (.detection _ _) => ⟨pairs, policy.maximumProbeRequests, [], .ok (.scan report)⟩
        | .error failure => ⟨pairs, policy.maximumProbeRequests, run.1, .error failure⟩
        | .ok result =>
          ⟨pairs, policy.maximumProbeRequests, run.1,
            addFindings digest report result.findings⟩ := by
  have hbudget : ¬ policy.maximumProbeRequests < pairs.length * requestsPerResourcePair := by
    rw [postInit_eq_ok.mp hpolicy]
    exact Nat.not_lt.mpr (Nat.le_max_right _ _)
  unfold compareIdentities
  rw [if_neg (by simpa using hne), hpolicy]
  dsimp only
  unfold runIdorAuthorizationDetector
  rw [if_neg hbudget]
  rfl

theorem isTotal_compareIdentities_iff (hne : pairs ≠ []) :
    (compareIdentities digest sha256 input report identities pairs).IsTotal digest (.scan report) ↔
      PairsFit digest sha256 input report identities pairs := by
  by_cases hfew : pairs.length ≤ 6
  · obtain ⟨policy, hpolicy⟩ := (exists_comparisonPolicy_iff pairs.length).mpr hfew
    have hbudget : pairs.length * requestsPerResourcePair ≤ policy.maximumProbeRequests := by
      rw [postInit_eq_ok.mp hpolicy]
      exact Nat.le_max_right _ _
    have hcases := probeCandidates_cases input.surroundings.cancelled
      (input.comparePair sha256 identities) .empty 0 pairs
    rw [compareIdentities_of_policy hne hpolicy]
    unfold PairsFit
    dsimp only
    generalize probeCandidates input.surroundings.cancelled (input.comparePair sha256 identities)
      .empty 0 pairs = run at hcases ⊢
    obtain ⟨taken, ending⟩ := run
    cases hfirst : firstInterruption input.surroundings.cancelled
        (input.comparePair sha256 identities) 0 pairs with
    | none =>
      rw [hfirst] at hcases
      obtain ⟨rfl, ended, rfl, hfindings⟩ := hcases
      rw [DetectorRunResult.empty, List.nil_append] at hfindings
      dsimp only
      rw [hfindings]
      by_cases htakes : TakesFindings digest report
          (candidateFindings (input.comparePair sha256 identities) 0 taken)
      · obtain ⟨merged, hmerged, hbuilt⟩ := addFindings_of_takes (κ := κ) htakes
        simp only [ComparisonRun.IsTotal, hmerged]
        exact ⟨fun _ => ⟨hfew, htakes⟩, fun _ => ⟨hbuilt, trivial, hbudget⟩⟩
      · obtain ⟨error, herror⟩ := addFindings_of_not_takes (κ := κ) htakes
        simp only [ComparisonRun.IsTotal, herror]
        exact ⟨fun h => absurd h (by simp [Failure.isSafety]), fun h => absurd h.2 htakes⟩
    | some interruption =>
      rw [hfirst] at hcases
      cases interruption with
      | cancelled =>
        obtain ⟨htaken, ended, rfl⟩ := hcases
        dsimp only at htaken ⊢
        refine ⟨fun h => absurd h ?_, fun h => h.2.elim⟩
        unfold ComparisonRun.IsTotal
        dsimp only
        by_cases htakes : TakesFindings digest report ended.findings
        · obtain ⟨merged, hmerged, -⟩ := addFindings_of_takes (κ := κ) htakes
          rw [hmerged]
          exact fun h => htaken h.2.1
        · obtain ⟨error, herror⟩ := addFindings_of_not_takes (κ := κ) htakes
          rw [herror]
          exact Bool.false_ne_true
      | failed failure =>
        obtain rfl : ending = .error failure := hcases
        cases failure with
        | detection code message =>
          simp [ComparisonRun.IsTotal, Failure.isSafety, hne.symm]
        | _ => simp [ComparisonRun.IsTotal, Failure.isSafety, hfew]
  · have hbeyond := postInit_eq_error (not_exists.mp
      ((exists_comparisonPolicy_iff pairs.length).not.mpr hfew))
    unfold compareIdentities PairsFit
    rw [if_neg (by simpa using hne), hbeyond]
    simp [ComparisonRun.IsTotal, Failure.isSafety, hfew]

end

/-! ## Seven pairs -/

open ScanPermits (oneFloat asciiTables asciiLibrary)
open ReportComparisons (plainReports)

def orderPair (digit : Nat) : ResourcePairSpec where
  resourceType := ofString "order"
  method := ofString "GET"
  primaryEndpoint := ofString "https://example.com/orders/1" ++ [digit]
  secondaryEndpoint := ofString "https://example.com/orders/2" ++ [digit]
  identifierLocation := ofString "path"
  identifierName := ofString "order_id"
  expectedAccess := ofString "private_to_owner"

def sevenPairs : AuthorizationComparisonPlan where
  resourceScope := [49, 50, 51, 52, 53, 54, 55].map orderPair
  enableDiscovery := false
  bounded := by decide
  nonempty := .inl (by decide)

def quietReport : ScanResult Unit where
  scanId := ofString "00000000-0000-4000-8000-000000000001"
  scanType := ofString "passive-headers"
  status := .completed
  target := ofString "https://example.com/"
  engine := ofString "webguard"
  engineVersion := ofString "1.0"
  startedAt := 0
  coverage := ⟨[ofString "headers"], [ofString "headers"], [], 1, 1⟩
  completedAt := some 0
  findings := []
  errors := []
  connectedAddresses := []
  httpStatuses := []
  requestAttempts := []

def sevenComparisons : letI := asciiLibrary; ComparisonInput Unit Unit :=
  letI := asciiLibrary
  { report := .scan quietReport
    target := {
      originalUrl := ofString "https://example.com/"
      normalisedUrl := ofString "https://example.com/"
      scheme := "https".toList
      hostname := "example.com".toList
      port := 443
      resolvedAddresses := ["93.184.216.34".toList] }
    activeChecks := [ofString "active.authorization.idor"]
    comparisonPlanId := some (ofString "plan")
    context := ⟨ofString "scan", none, none⟩
    cancelled := false
    identities := .ok ⟨sevenPairs, ofString "alice", ofString "bob"⟩
    cancelledAtDiscovery := false
    primaryDiscovery := .ok none
    secondaryDiscovery := .ok none
    surroundings := ⟨fun _ => false, fun _ _ => .failed (ofString "connection_failed"),
      fun _ => 0⟩ }

end WebGuard.ActiveDetection
