import WebGuard.Crawler.Targets
import WebGuard.Detection.Advisories
import WebGuard.Detection.RequestTemplates

/-!
# Active detection

`active_detection.py`, `issue_templated_request` of `request_template.py` and `_build_finding` of
the detectors: the budget of a run of a detector, a request to the origin of the target, and the
finding that is made of what a detector says of a place.

What becomes of a request on its way is up to its surroundings: the hooks of the safety engine, the
authentication and the site. Waiting takes no time here, so a policy has no delay.
-/

namespace WebGuard.ActiveDetection

open PyJson UrlParse StandardLibrary FindingContract RequestTemplates

/-- What ends a function of active detection without a result. -/
inductive Failure where
  /-- `ActiveDetectionError`. -/
  | detection (code message : String)
  /-- An error of a request template, or what `mutate` lets through. -/
  | template (failure : MutationFailure)
  /-- `TrustScanRuntimeSafetyError`. -/
  | safety (code message : PyText)
  /-- `AuthorizationResourceError`. -/
  | resource (code message : String)
  /-- An error of a constructor of findings or reports. -/
  | contract (error : ContractError)
  /-- `ValueError` of `urlsplit` or of a port. -/
  | url
  /-- `UnicodeEncodeError`. -/
  | encoding
  deriving DecidableEq

/-! ## Budgets -/

/-- `ActiveDetectionPolicy`, with the bounds of its constructor. -/
structure ActiveDetectionPolicy where
  maximumProbeRequests : Nat
  bounds : 1 ≤ maximumProbeRequests ∧ maximumProbeRequests ≤ 25
  deriving DecidableEq

/-- `ActiveDetectionPolicy(maximum_probe_requests=...)`. -/
def ActiveDetectionPolicy.postInit (maximumProbeRequests : Nat) :
    Except Failure ActiveDetectionPolicy :=
  if h : 1 ≤ maximumProbeRequests ∧ maximumProbeRequests ≤ 25 then .ok ⟨maximumProbeRequests, h⟩
  else .error (.detection "maximum_probe_requests_invalid"
    "maximum_probe_requests must be an integer between 1 and 25.")

variable {policy : ActiveDetectionPolicy}

theorem ActiveDetectionPolicy.postInit_eq_ok {n : Nat} :
    ActiveDetectionPolicy.postInit n = .ok policy ↔ policy.maximumProbeRequests = n := by
  unfold ActiveDetectionPolicy.postInit
  constructor
  · intro h
    split at h
    · cases h
      rfl
    · cases h
  · rintro rfl
    exact dif_pos policy.bounds

theorem ActiveDetectionPolicy.postInit_eq_error {n : Nat}
    (h : ∀ policy, ActiveDetectionPolicy.postInit n ≠ .ok policy) :
    ActiveDetectionPolicy.postInit n = .error (.detection "maximum_probe_requests_invalid"
      "maximum_probe_requests must be an integer between 1 and 25.") := by
  unfold ActiveDetectionPolicy.postInit
  rw [dif_neg]
  intro hbounds
  exact h ⟨n, hbounds⟩ (ActiveDetectionPolicy.postInit_eq_ok.mpr rfl)

def maximumDiscoveredCandidates : Nat := 15

def enforceProbeBudget (candidates : Nat) (policy : ActiveDetectionPolicy)
    (requestsPerCandidate : Nat) : Except Failure Unit :=
  if policy.maximumProbeRequests < candidates * requestsPerCandidate then
    .error (.detection "candidate_budget_exceeded"
      (toString candidates ++ " candidates at " ++ toString requestsPerCandidate
        ++ " request(s) each (" ++ toString (candidates * requestsPerCandidate)
        ++ " total) exceed the maximum_probe_requests policy of "
        ++ toString policy.maximumProbeRequests ++ "."))
  else .ok ()

theorem enforceProbeBudget_eq_ok {candidates requests : Nat} :
    enforceProbeBudget candidates policy requests = .ok () ↔
      candidates * requests ≤ policy.maximumProbeRequests := by
  unfold enforceProbeBudget
  split
  next h => simp [h]
  next h => simp [not_lt.mp h]

theorem enforceProbeBudget_cases (candidates requests : Nat) (policy : ActiveDetectionPolicy) :
    enforceProbeBudget candidates policy requests = .ok ()
      ∨ ∃ code message,
        enforceProbeBudget candidates policy requests = .error (.detection code message) := by
  unfold enforceProbeBudget
  split
  · exact .inr ⟨_, _, rfl⟩
  · exact .inl rfl

/-! ## Requests -/

/-- A response, as much of it as detectors read. -/
structure ProbeResponse where
  status : Nat
  body : List Nat
  deriving DecidableEq

/-- What comes back of a request. -/
inductive Exchange where
  | answered (response : ProbeResponse)
  /-- `SafeRequestError`, which the caller is told the code of. -/
  | failed (errorCode : PyText)
  /-- Raised by a hook or by the authentication of the request. -/
  | raised (failure : Failure)
  deriving DecidableEq

/-- `ProbeAttempt`: the response, or the code of the error. -/
structure ProbeAttempt where
  requestedUrl : Text
  response : Except PyText ProbeResponse

variable [StandardLibrary]

def requireSameOrigin (base : PyTarget) (candidateUrl : Text) : Except Failure Unit :=
  match urlsplit candidateUrl with
  | none => .error .url
  | some parsed =>
    match parsed.port with
    | none => .error .url
    | some port =>
      if parsed.scheme ≠ base.scheme ∨ lower (parsed.hostname.getD []) ≠ base.hostname
          ∨ port.getD (defaultPort parsed.scheme) ≠ base.port then
        .error (.detection "candidate_origin_mismatch"
          "The candidate URL is not on the authorized target's origin.")
      else .ok ()

/-- A request to a URL on the origin of the target. -/
def issueRequest (base : PyTarget) (url : Text) (exchange : Exchange) :
    Except Failure ProbeAttempt := do
  requireSameOrigin base url
  match exchange with
  | .answered response => return ⟨url, .ok response⟩
  | .failed errorCode => return ⟨url, .error errorCode⟩
  | .raised failure => .error failure

/-- `errorCode or "unknown_probe_error"`. -/
def probeErrorCode (errorCode : PyText) : PyText :=
  if errorCode.isEmpty then ofString "unknown_probe_error" else errorCode

/-- `body.decode("utf-8", errors="replace")`. -/
def bodyText (body : List Nat) : PyText := codePoints (decodeUtf8 body.length body)

/-! ## Findings -/

/-- `ActiveDetectionContext`, as much of it as findings record. -/
structure ActiveDetectionContext where
  scanId : PyText
  authorizationId : Option PyText
  permitId : Option PyText
  deriving DecidableEq

/-- `value or 'not recorded'`. -/
def orNotRecorded (value : Option PyText) : PyText :=
  if (value.getD []).isEmpty then ofString "not recorded" else value.getD []

/-- The first sentences of the provenance of a finding. -/
def ActiveDetectionContext.provenance (context : ActiveDetectionContext) (detectorId : String) :
    PyText :=
  ofString ("Detector " ++ detectorId ++ " v1.0. Scan: ") ++ context.scanId
    ++ ofString ". Authorization: " ++ orNotRecorded context.authorizationId
    ++ ofString ". Permit: " ++ orNotRecorded context.permitId

/-- What a detector says of a place. -/
structure Sighting where
  advisory : Advisory
  url : Text
  method : PyText
  parameter : PyText
  provenance : PyText
  detectedAt : Nat

/-- `f"{scheme}://{hostname}"`, with the port unless it is 80 or 443. -/
def activeAsset (target : PyTarget) : PyText :=
  codePoints (target.scheme ++ "://".toList ++ target.hostname)
    ++ if target.port = 80 ∨ target.port = 443 then []
      else codePoints (':' :: Nat.toDigits 10 target.port)

variable [LowerTable] [UnicodeTables]

def Sighting.buildFinding (target : PyTarget) (sighting : Sighting) :
    Except Failure NormalizedFinding :=
  match urlsplit sighting.url with
  | none => .error .url
  | some parsed => do
    let identity ← (FindingIdentity.postInit {
      ruleId := sighting.advisory.ruleId
      asset := activeAsset target
      path := orRoot (codePoints parsed.path)
      method := sighting.method
      parameter := some sighting.parameter }).mapError Failure.contract
    let evidence ← (Evidence.postInit ⟨sighting.provenance, none⟩).mapError Failure.contract
    (NormalizedFinding.postInit {
      identity
      source := ofString "webguard-active"
      title := sighting.advisory.title
      description := sighting.advisory.description
      severity := sighting.advisory.severity
      confidence := sighting.advisory.confidence
      remediation := sighting.advisory.remediation
      detectedAt := sighting.detectedAt
      sourceRuleId := some sighting.advisory.sourceRuleId
      identifiers := sighting.advisory.identifiers
      evidence := [evidence]
      references := sighting.advisory.references
      tags := sighting.advisory.tags }).mapError Failure.contract

end WebGuard.ActiveDetection
