import Mathlib.Data.Rat.Defs
import Mathlib.Algebra.Order.Ring.Unbundled.Rat
import WebGuard.Contracts.ScanJobs

/-!
# Safety receipts

`TrustScanSafetyReceiptClaims` of `safety_receipts.py`: the observed facts of one scan execution
and the arithmetic its constructor asks of them. The two float fields are rationals, which are
all finite.
-/

namespace WebGuard

/-! ## Field checks -/

/-- `_IDENTIFIER`, `^[a-z][a-z0-9._-]{0,127}$`, matched in full. -/
def isIdentifier (value : String) : Bool :=
  match value.toList with
  | [] => false
  | c :: rest =>
    isLower c && rest.length ≤ 127
      && rest.all (fun d => isLower d || isDigit d || d == '.' || d == '_' || d == '-')

/-- `_sha256` of this module; its message differs from the one of the job contracts. -/
def receiptSha256 (value fieldName : String) : Checked String := do
  require (isSha256 value) "trustscan_safety_receipt_sha256_invalid"
    (fieldName ++ " must be a lower-case SHA-256 digest.")
  return value

theorem receiptSha256_eq_ok {value fieldName c : String} :
    receiptSha256 value fieldName = .ok c ↔ c = value ∧ isSha256 value = true := by
  unfold receiptSha256
  cases h : isSha256 value with
  | false => simp [require, invalid, bind, Except.bind]
  | true => simp [require, bind, Except.bind, pure, Except.pure, eq_comm]

/-- `_count`. -/
def receiptCount (value : Int) (fieldName : String) : Checked Unit :=
  require (0 ≤ value) "trustscan_safety_receipt_count_invalid"
    (fieldName ++ " must be a non-negative integer.")

/-- `target.startswith(("http://", "https://"))`. -/
def isHttpUrl (target : String) : Bool :=
  "http://".toList.isPrefixOf target.toList || "https://".toList.isPrefixOf target.toList

/-! ## The claims -/

structure SafetyReceiptFields where
  receiptId : String
  permitId : String
  permitSha256 : String
  organizationId : String
  jobId : String
  scanId : String
  target : String
  startedAt : Nat
  completedAt : Nat
  maximumRequestAttempts : Int
  maximumRequestsPerSecond : ℚ
  maximumConcurrency : Int
  requestsAttempted : Int
  requestsPermitted : Int
  requestsBlocked : Int
  responses429 : Int
  responses5xx : Int
  requestErrors : Int
  throttles : Int
  throttleSeconds : ℚ
  circuitBreakerActivations : Int
  scopeViolations : Int
  permitRevalidations : Int
  peakConcurrency : Int
  terminationReason : String
  safetyPolicyRespected : Bool
  deriving DecidableEq

namespace SafetyReceiptFields

/-- The identifiers, in the order of the check. -/
def identifiers (r : SafetyReceiptFields) : List (String × String) :=
  [("receipt_id", r.receiptId), ("permit_id", r.permitId), ("organization_id", r.organizationId),
    ("job_id", r.jobId), ("scan_id", r.scanId)]

/-- The counters, in the order of the check. -/
def counts (r : SafetyReceiptFields) : List (String × Int) :=
  [("maximum_request_attempts", r.maximumRequestAttempts),
    ("maximum_concurrency", r.maximumConcurrency), ("requests_attempted", r.requestsAttempted),
    ("requests_permitted", r.requestsPermitted), ("requests_blocked", r.requestsBlocked),
    ("responses_429", r.responses429), ("responses_5xx", r.responses5xx),
    ("request_errors", r.requestErrors), ("throttles", r.throttles),
    ("circuit_breaker_activations", r.circuitBreakerActivations),
    ("scope_violations", r.scopeViolations), ("permit_revalidations", r.permitRevalidations),
    ("peak_concurrency", r.peakConcurrency)]

/-- Every element passes the check; the first that does not raises. -/
def checkAll {α : Type} (check : α → Checked Unit) : List α → Checked Unit
  | [] => .ok ()
  | a :: rest => do
    check a
    checkAll check rest

theorem checkAll_eq_ok {α : Type} {check : α → Checked Unit} {l : List α} {u : Unit} :
    checkAll check l = .ok u ↔ ∀ a ∈ l, check a = .ok () := by
  induction l with
  | nil => simp [checkAll]
  | cons a rest ih =>
    rw [checkAll, Atomic.bind_ok_iff, List.forall_mem_cons, ← ih]
    exact ⟨fun ⟨_, h⟩ => h, fun h => ⟨(), h⟩⟩

/-- `TrustScanSafetyReceiptClaims.__post_init__`; every check returns the value it was given. -/
def postInit (r : SafetyReceiptFields) : Checked SafetyReceiptFields := do
  checkAll (fun field => (canonicalUuid "trustscan_safety_receipt" field.2 field.1).map
    (fun _ => ())) r.identifiers
  let _ ← receiptSha256 r.permitSha256 "permit_sha256"
  require (isHttpUrl r.target) "trustscan_safety_receipt_target_invalid"
    "target must be a canonical HTTP or HTTPS URL."
  require (r.startedAt ≤ r.completedAt) "trustscan_safety_receipt_timestamp_order_invalid"
    "completed_at cannot precede started_at."
  checkAll (fun field => receiptCount field.2 field.1) r.counts
  require (1 ≤ r.maximumRequestAttempts && 1 ≤ r.maximumConcurrency)
    "trustscan_safety_receipt_limit_invalid" "Runtime safety limits must be positive."
  require (0 < r.maximumRequestsPerSecond && 0 ≤ r.throttleSeconds)
    "trustscan_safety_receipt_rate_invalid"
    "Runtime rate and throttle values must be finite and valid."
  require (r.requestsPermitted ≤ r.requestsAttempted)
    "trustscan_safety_receipt_request_counts_invalid"
    "Permitted requests cannot exceed attempted requests."
  require (r.peakConcurrency ≤ r.maximumConcurrency)
    "trustscan_safety_receipt_concurrency_invalid"
    "Observed peak concurrency exceeds the authorised limit."
  require (isIdentifier r.terminationReason) "trustscan_safety_receipt_termination_invalid"
    "termination_reason must be a stable identifier."
  return r

/-- What the constructor asks of the fields. -/
structure Wellformed (r : SafetyReceiptFields) : Prop where
  identifiers : ∀ field ∈ r.identifiers, isCanonicalUuid field.2 = true
  permitSha256 : isSha256 r.permitSha256 = true
  target : isHttpUrl r.target = true
  timestamps : r.startedAt ≤ r.completedAt
  counts : ∀ field ∈ r.counts, 0 ≤ field.2
  limits : 1 ≤ r.maximumRequestAttempts ∧ 1 ≤ r.maximumConcurrency
  rates : 0 < r.maximumRequestsPerSecond ∧ 0 ≤ r.throttleSeconds
  permitted : r.requestsPermitted ≤ r.requestsAttempted
  concurrency : r.peakConcurrency ≤ r.maximumConcurrency
  terminationReason : isIdentifier r.terminationReason = true

theorem postInit_eq_ok {r fields : SafetyReceiptFields} :
    r.postInit = .ok fields ↔ fields = r ∧ r.Wellformed := by
  have huuid : ∀ field : String × String,
      (canonicalUuid "trustscan_safety_receipt" field.2 field.1).map (fun _ => ()) = .ok () ↔
        isCanonicalUuid field.2 = true := by
    intro field
    cases hcheck : canonicalUuid "trustscan_safety_receipt" field.2 field.1 with
    | error e =>
      have hnot : isCanonicalUuid field.2 ≠ true := by
        intro hcanonical
        rw [canonicalUuid_eq_ok.mpr ⟨rfl, hcanonical⟩] at hcheck
        cases hcheck
      simp [Except.map, hnot]
    | ok c => simp [Except.map, (canonicalUuid_eq_ok.mp hcheck).2]
  unfold postInit
  simp only [Atomic.bind_ok_iff, checkAll_eq_ok, huuid, receiptSha256_eq_ok, receiptCount,
    require_eq_ok,
    decide_eq_true_eq, Bool.and_eq_true, exists_const, pure, Except.pure, Except.ok.injEq]
  constructor
  · rintro ⟨hids, _, ⟨-, hdigest⟩, htarget, htimes, hcounts, hlimits, hrates, hpermitted, hpeak,
      hreason, rfl⟩
    exact ⟨rfl, hids, hdigest, htarget, htimes, hcounts, hlimits, hrates, hpermitted, hpeak,
      hreason⟩
  · rintro ⟨rfl, h⟩
    exact ⟨h.identifiers, _, ⟨rfl, h.permitSha256⟩, h.target, h.timestamps, h.counts, h.limits,
      h.rates, h.permitted, h.concurrency, h.terminationReason, rfl⟩

end SafetyReceiptFields

end WebGuard
