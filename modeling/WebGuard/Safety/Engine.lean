import Mathlib.Data.NNRat.Defs
import Mathlib.Tactic.NormNum
import WebGuard.Lib.Binary64
import WebGuard.Lib.Run
import WebGuard.Contracts.SafetyReceipts

/-!
# The runtime safety engine

`TrustScanRuntimeSafetyEngine` of `safety.py`: every outbound request asks `before_request` for
permission and reports back to `after_request`. Both hold one lock for their whole length, the
throttle's sleep included, so a concurrent history is a list of calls.

The interval, the differences of readings and the delays are doubles; the readings are any
rationals, and as only their differences matter the first is counted from zero. Each call brings
what happens around it: how long ago the clock was last read, how much longer than asked the
sleeper slept, and what the revalidation callback does.

What the engine does to the outside is kept in a journal, newest entry first: the callback's
answers, the sleeps, the requests that were permitted and those that came back.
-/

namespace WebGuard

/-! ## Python texts -/

/-- `urllib.parse.SplitResult`, the part that is read; `port` is `none` where it raises. -/
structure SplitResult where
  scheme : String
  hostname : Option String
  port : Option (Option Nat)

/-- The text functions of the standard library that the engine calls. -/
class TextLibrary where
  /-- `urlsplit`, `none` where it raises `ValueError`. -/
  urlsplit : String → Option SplitResult
  /-- `str.upper`. -/
  upper : String → String
  /-- `str.lower`. -/
  lower : String → String

/-! ## Refusals -/

/-- What `before_request` raises. -/
inductive Refusal where
  /-- `TrustScanRuntimeSafetyError`. -/
  | runtimeSafety (code message : String)
  /-- A `ValueError` out of `urlsplit`. -/
  | valueError
  /-- Whatever else the revalidation callback raised. -/
  | callback
  deriving DecidableEq

/-- What the revalidation callback does. -/
inductive Revalidation where
  | granted
  /-- `TrustScanPermitError`. -/
  | denied (code message : String)
  | raised
  deriving DecidableEq

/-! ## The engine -/

/-- The claims of a permit that the engine reads, within the bounds of their constructor. -/
structure PermitClaims where
  permitId : String
  organizationId : String
  target : String
  allowedHttpMethods : List String
  maximumRequestAttempts : Nat
  maximumRequestsPerSecond : ℚ
  maximumConcurrency : Nat
  canonical : isCanonicalUuid permitId = true ∧ isCanonicalUuid organizationId = true
  attempts : 1 ≤ maximumRequestAttempts ∧ maximumRequestAttempts ≤ 150
  rate : 1 / 5 ≤ maximumRequestsPerSecond ∧ maximumRequestsPerSecond ≤ 2
  concurrency : 1 ≤ maximumConcurrency ∧ maximumConcurrency ≤ 1

theorem PermitClaims.rate_pos (permit : PermitClaims) : 0 < permit.maximumRequestsPerSecond :=
  lt_of_lt_of_le (by norm_num) permit.rate.1

section

variable [TextLibrary]

open TextLibrary

def origin (url : String) : Except Refusal (String × String × Nat) :=
  match urlsplit url with
  | none => .error .valueError
  | some parsed =>
    match parsed.hostname with
    | none =>
      .error (.runtimeSafety "trustscan_runtime_target_invalid"
        "Runtime request target is not a canonical HTTP or HTTPS URL.")
    | some hostname =>
      if parsed.scheme ≠ "http" ∧ parsed.scheme ≠ "https" then
        .error (.runtimeSafety "trustscan_runtime_target_invalid"
          "Runtime request target is not a canonical HTTP or HTTPS URL.")
      else
        match parsed.port with
        | none =>
          .error (.runtimeSafety "trustscan_runtime_target_invalid"
            "Runtime request target contains an invalid port.")
        | some port =>
          .ok (lower parsed.scheme, lower hostname,
            port.getD (if parsed.scheme = "https" then 443 else 80))

/--
An engine, with what its constructor computed and what `execute` made sure of before it.

`validate_permit_use` compares organisation and target with the permit's. The job comes out of
its record, the scan identifier out of `uuid4`, and the digest is the permit's fingerprint.
-/
structure SafetyEngine where
  permit : PermitClaims
  permitSha256 : String
  organizationId : String
  jobId : String
  scanId : String
  target : String
  startedAt : Nat
  rootOrigin : String × String × Nat
  built : origin target = .ok rootOrigin
  sameTarget : permit.target = target
  sameOrganization : permit.organizationId = organizationId
  canonical : isCanonicalUuid jobId = true ∧ isCanonicalUuid scanId = true
  digest : isSha256 permitSha256 = true
  httpTarget : isHttpUrl target = true

end

/-- One thing the engine did to the outside, or learnt from it. -/
inductive Entry where
  | revalidated (answer : Revalidation)
  | slept (delay : ℚ)
  | permitted (url method : String) (start : ℚ)
  | finished
  deriving DecidableEq

/-- The fields of the engine that change, the clock, and the journal. -/
structure SafetyState where
  lastPermittedAt : Option ℚ := none
  inFlight : Nat := 0
  consecutiveProtectiveEvents : Nat := 0
  circuitOpen : Bool := false
  requestsAttempted : Nat := 0
  requestsPermitted : Nat := 0
  requestsBlocked : Nat := 0
  responses429 : Nat := 0
  responses5xx : Nat := 0
  requestErrors : Nat := 0
  throttles : Nat := 0
  throttleSeconds : ℚ := 0
  circuitBreakerActivations : Nat := 0
  scopeViolations : Nat := 0
  permitRevalidations : Nat := 0
  peakConcurrency : Nat := 0
  /-- What `monotonic` read last. -/
  clock : ℚ := 0
  journal : List Entry := []

/-- What happens around a call of `before_request`. -/
structure Surroundings where
  /-- Since the clock was last read. -/
  elapsed : ℚ≥0
  /-- Slept longer than asked. -/
  oversleep : ℚ≥0
  first : Revalidation
  second : Revalidation

def SafetyState.block (s : SafetyState) (code message : String) (scopeViolation : Bool := false) :
    Except Refusal Unit × SafetyState :=
  (.error (.runtimeSafety code message),
    { s with
      requestsBlocked := s.requestsBlocked + 1
      scopeViolations := if scopeViolation then s.scopeViolations + 1 else s.scopeViolations })

/-- `_revalidate`; only a `TrustScanPermitError` counts as a block. -/
def SafetyState.revalidate (s : SafetyState) (answer : Revalidation) :
    Except Refusal Unit × SafetyState :=
  let s' := { s with
    permitRevalidations := s.permitRevalidations + 1, journal := .revalidated answer :: s.journal }
  match answer with
  | .granted => (.ok (), s')
  | .denied code message => s'.block code message
  | .raised => (.error .callback, s')

/-- The end of `before_request`: the request may begin. -/
def SafetyState.permit (s : SafetyState) (url method : String) : SafetyState :=
  { s with
    lastPermittedAt := some s.clock
    requestsPermitted := s.requestsPermitted + 1
    inFlight := s.inFlight + 1
    peakConcurrency := max s.peakConcurrency (s.inFlight + 1)
    journal := .permitted url method s.clock :: s.journal }

namespace SafetyEngine

variable [TextLibrary] (e : SafetyEngine)

/-- The least time between two permitted requests, as it is computed. -/
def minimumInterval : ℚ := Binary64.nearest (1 / e.permit.maximumRequestsPerSecond)

/-- How long a request has to wait that comes at `now`, after one that was permitted at `last`. -/
def delay (now last : ℚ) : ℚ :=
  Binary64.nearest (e.minimumInterval - Binary64.nearest (now - last))

/--
The throttle of `before_request`: the clock is read, and a request that comes too early sleeps
and is revalidated.
-/
def throttle (s : SafetyState) (around : Surroundings) : Except Refusal Unit × SafetyState :=
  let now := s.clock + around.elapsed
  match s.lastPermittedAt with
  | none => (.ok (), { s with clock := now })
  | some last =>
    if 0 < e.delay now last then
      -- Permission may change while throttled, so it is checked again.
      SafetyState.revalidate
        { s with
          clock := now + e.delay now last + around.oversleep
          throttles := s.throttles + 1
          throttleSeconds := Binary64.nearest (s.throttleSeconds + e.delay now last)
          journal := .slept (e.delay now last) :: s.journal }
        around.second
    else (.ok (), { s with clock := now })

/-- `before_request`, without the counting of the attempt. -/
def judge (s : SafetyState) (url method : String) (around : Surroundings) :
    Except Refusal Unit × SafetyState :=
  if s.circuitOpen then
    s.block "trustscan_runtime_circuit_open"
      "TrustScan runtime circuit breaker is open; no further request is permitted."
  else
    match origin url with
    | .error refusal => (.error refusal, s)
    | .ok found =>
      if found ≠ e.rootOrigin then
        s.block "trustscan_runtime_scope_violation"
          "Runtime request target left the permit-authorised origin." true
      else if TextLibrary.upper method ∉ e.permit.allowedHttpMethods then
        s.block "trustscan_runtime_method_not_allowed"
          "Runtime HTTP method is not allowed by the TrustScan permit."
      else if e.permit.maximumRequestAttempts ≤ s.requestsPermitted then
        s.block "trustscan_runtime_request_budget_exhausted"
          "TrustScan permit request-attempt budget is exhausted."
      else if e.permit.maximumConcurrency ≤ s.inFlight then
        s.block "trustscan_runtime_concurrency_exceeded"
          "Runtime request concurrency would exceed the TrustScan permit."
      else
        match s.revalidate around.first with
        | (.error refusal, s₁) => (.error refusal, s₁)
        | (.ok (), s₁) =>
          match e.throttle s₁ around with
          | (.error refusal, s₂) => (.error refusal, s₂)
          | (.ok (), s₂) => (.ok (), s₂.permit url method)

def beforeRequest (s : SafetyState) (url method : String) (around : Surroundings) :
    Except Refusal Unit × SafetyState :=
  e.judge { s with requestsAttempted := s.requestsAttempted + 1 } url method around

end SafetyEngine

def circuitBreakerConsecutiveEvents : Nat := 3

/-- The target-health signals of one answer; a status counts only where no error came. -/
def SafetyState.observe (s : SafetyState) (status : Option Int) (errorCode : Option String) :
    SafetyState × Bool :=
  match errorCode, status with
  | some _, _ => ({ s with requestErrors := s.requestErrors + 1 }, true)
  | none, some code =>
    ({ s with
        responses429 := if code = 429 then s.responses429 + 1 else s.responses429
        responses5xx :=
          if 500 ≤ code ∧ code ≤ 599 then s.responses5xx + 1 else s.responses5xx },
      code = 429 || (500 ≤ code && code ≤ 599))
  | none, none => (s, false)

/-- `after_request`, of the status of the response if there is one. -/
def afterRequest (s : SafetyState) (status : Option Int) (errorCode : Option String) :
    SafetyState :=
  let observed := SafetyState.observe
    { s with inFlight := s.inFlight - 1, journal := .finished :: s.journal } status errorCode
  let events := if observed.2 then s.consecutiveProtectiveEvents + 1 else 0
  let s' := { observed.1 with consecutiveProtectiveEvents := events }
  if !s.circuitOpen && circuitBreakerConsecutiveEvents ≤ events then
    { s' with
      circuitOpen := true, circuitBreakerActivations := s.circuitBreakerActivations + 1 }
  else s'

/-! ## Runs and receipts -/

/-- A call on the engine. -/
inductive EngineCall where
  | beforeRequest (url method : String) (around : Surroundings)
  | afterRequest (status : Option Int) (errorCode : Option String)

/-- What `execute` gives as the reason of the end. -/
inductive TerminationReason where
  | finished (status : ScanStatus)
  | safetyBlocked
  deriving DecidableEq

/-- The values of the enumeration. -/
def ScanStatus.value : ScanStatus → String
  | .queued => "queued"
  | .running => "running"
  | .completed => "completed"
  | .completedWithErrors => "completed_with_errors"
  | .failed => "failed"
  | .cancelled => "cancelled"

def TerminationReason.text : TerminationReason → String
  | .finished status => status.value
  | .safetyBlocked => "safety_blocked"

namespace SafetyEngine

variable [TextLibrary] (e : SafetyEngine)

def step (s : SafetyState) : EngineCall → SafetyState
  | .beforeRequest url method around => (e.beforeRequest s url method around).2
  | .afterRequest status errorCode => WebGuard.afterRequest s status errorCode

/-- The engine after a list of calls. -/
abbrev run (calls : List EngineCall) : SafetyState := Runs.run e.step {} calls

/-- The claims that `signed_receipt` hands to the constructor. -/
def receiptFields (s : SafetyState) (receiptId : String) (completedAt : Nat)
    (reason : TerminationReason) : SafetyReceiptFields where
  receiptId := receiptId
  permitId := e.permit.permitId
  permitSha256 := e.permitSha256
  organizationId := e.organizationId
  jobId := e.jobId
  scanId := e.scanId
  target := e.target
  startedAt := e.startedAt
  completedAt := completedAt
  maximumRequestAttempts := e.permit.maximumRequestAttempts
  maximumRequestsPerSecond := e.permit.maximumRequestsPerSecond
  maximumConcurrency := e.permit.maximumConcurrency
  requestsAttempted := s.requestsAttempted
  requestsPermitted := s.requestsPermitted
  requestsBlocked := s.requestsBlocked
  responses429 := s.responses429
  responses5xx := s.responses5xx
  requestErrors := s.requestErrors
  throttles := s.throttles
  throttleSeconds := s.throttleSeconds
  circuitBreakerActivations := s.circuitBreakerActivations
  scopeViolations := s.scopeViolations
  permitRevalidations := s.permitRevalidations
  peakConcurrency := s.peakConcurrency
  terminationReason := reason.text
  safetyPolicyRespected := s.peakConcurrency ≤ e.permit.maximumConcurrency

end SafetyEngine

end WebGuard
