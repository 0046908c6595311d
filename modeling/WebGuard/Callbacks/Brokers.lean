import Mathlib.Data.List.AList
import WebGuard.Lib.Table

/-!
# The callback brokers

A probe carries a callback URL with a token in it; a request that presents the token is an
observation of it. Two brokers keep the tokens: `CallbackRepository` over `InMemoryCallbackBroker`,
and `PostgresCallbackBroker` over `PostgresCallbackRegistrationRepository`.

A wait polls until the deadline of its grace period, and other calls come between its polls. It is
therefore a call of its own that sets the deadlines, followed by one call for every poll.

A service that PostgreSQL cannot reach answers nobody, and a text it cannot hold is refused by an
error; neither is a case of its own here.
-/

namespace WebGuard

open Relational

/-- The seconds of `time.monotonic()` and of the policy: floats, with the operations used on them. -/
class Seconds (ρ : Type) where
  /-- A literal, such as `30.0`. -/
  ofNat : Nat → ρ
  add : ρ → ρ → ρ
  lt : ρ → ρ → Bool
  le : ρ → ρ → Bool
  /-- The microseconds of `timedelta(seconds=x)`, where `x` is not negative. -/
  timedelta : ρ → Nat

structure CallbackBrokerError where
  code : String
  message : String
deriving DecidableEq

variable {ρ : Type} [Seconds ρ]

open Seconds

/-! ## Policies -/

/-- The arguments of `CallbackPolicy(...)`. -/
structure CallbackLimits (ρ : Type) where
  maximumWaitSeconds : ρ
  graceSeconds : ρ
  pollIntervalSeconds : ρ
  tokenTtlSeconds : ρ
  maximumActiveRegistrations : Nat := 20
  maximumObservationsPerToken : Nat := 5

namespace CallbackLimits

variable (l : CallbackLimits ρ)

def waitValid : Bool := lt (ofNat 0) l.maximumWaitSeconds && le l.maximumWaitSeconds (ofNat 30)

def graceValid : Bool := le (ofNat 0) l.graceSeconds && le l.graceSeconds (ofNat 30)

def pollIntervalValid : Bool :=
  lt (ofNat 0) l.pollIntervalSeconds && le l.pollIntervalSeconds (ofNat 5)

def ttlValid : Bool := lt (ofNat 0) l.tokenTtlSeconds && le l.tokenTtlSeconds (ofNat 3600)

def registrationsValid : Bool :=
  decide (1 ≤ l.maximumActiveRegistrations) && decide (l.maximumActiveRegistrations ≤ 200)

def observationsValid : Bool :=
  decide (1 ≤ l.maximumObservationsPerToken) && decide (l.maximumObservationsPerToken ≤ 50)

def postInit : Except CallbackBrokerError Unit :=
  if !l.waitValid then
    .error ⟨"callback_policy_wait_invalid", "maximum_wait_seconds must be > 0 and <= 30.0."⟩
  else if !l.graceValid then
    .error ⟨"callback_policy_grace_invalid", "grace_seconds must be >= 0 and <= 30.0."⟩
  else if !l.pollIntervalValid then
    .error ⟨"callback_policy_poll_interval_invalid",
      "poll_interval_seconds must be > 0 and <= 5.0."⟩
  else if !l.ttlValid then
    .error ⟨"callback_policy_ttl_invalid", "token_ttl_seconds must be > 0 and <= 3600.0."⟩
  else if !l.registrationsValid then
    .error ⟨"callback_policy_registrations_invalid",
      "maximum_active_registrations must be between 1 and 200."⟩
  else if !l.observationsValid then
    .error ⟨"callback_policy_observations_invalid",
      "maximum_observations_per_token must be between 1 and 50."⟩
  else .ok ()

end CallbackLimits

/-- `CallbackPolicy`: limits that its constructor accepts. -/
structure CallbackPolicy (ρ : Type) [Seconds ρ] extends CallbackLimits ρ where
  valid : toCallbackLimits.postInit = .ok ()

/-! ## Tokens, observations and registrations -/

structure CallbackToken where
  value : String
  url : String
  scanId : String
  candidateFingerprint : String
  expiresAt : Nat
deriving DecidableEq

structure CallbackObservation where
  tokenValue : String
  observedAt : Nat
  method : String
  sourceClass : String
deriving DecidableEq

/-- `ScopedCallbackRegistration`, also the row of `callback_registrations`. -/
structure ScopedCallbackRegistration where
  tokenValue : String
  scanId : String
  organizationId : String
  target : String
  authorizationId : String
  candidateFingerprint : String
  createdAt : Nat
  expiresAt : Nat
  jobId : Option String
  permitId : Option String
  revokedAt : Option Nat
deriving DecidableEq

/-- The arguments of `register`, with the token that `secrets.token_urlsafe(32)` draws. -/
structure CallbackRequest where
  drawn : String
  scanId : String
  candidateFingerprint : String
  organizationId : String
  target : String
  authorizationId : String
  jobId : Option String := none
  permitId : Option String := none
deriving DecidableEq

structure CallbackServiceError where
  code : String
  message : String
deriving DecidableEq

namespace CallbackServiceError

def notFound : CallbackServiceError :=
  ⟨"callback_registration_not_found", "No callback registration matches the requested token."⟩

def revoked : CallbackServiceError :=
  ⟨"callback_registration_revoked", "This callback registration has been revoked."⟩

end CallbackServiceError

/-- `base_url if base_url.endswith("/") else base_url + "/"`. -/
def slashed (baseUrl : String) : String :=
  if baseUrl.endsWith "/" then baseUrl else baseUrl ++ "/"

/-- The record that `register` makes. -/
def CallbackRequest.registration (request : CallbackRequest) (createdAt expiresAt : Nat) :
    ScopedCallbackRegistration where
  tokenValue := request.drawn
  scanId := request.scanId
  organizationId := request.organizationId
  target := request.target
  authorizationId := request.authorizationId
  candidateFingerprint := request.candidateFingerprint
  createdAt := createdAt
  expiresAt := expiresAt
  jobId := request.jobId
  permitId := request.permitId
  revokedAt := none

def CallbackRequest.token (request : CallbackRequest) (baseUrl : String) (expiresAt : Nat) :
    CallbackToken where
  value := request.drawn
  url := baseUrl ++ request.scanId ++ "/" ++ request.drawn
  scanId := request.scanId
  candidateFingerprint := request.candidateFingerprint
  expiresAt := expiresAt

/-- What a poll has found, where it ends the wait:
`(observation, within_primary_window, cancelled)`. -/
structure WaitOutcome (α : Type) where
  observation : Option α
  withinPrimaryWindow : Bool
  cancelled : Bool
deriving DecidableEq

def WaitOutcome.map {α β : Type} (f : α → β) (outcome : WaitOutcome α) : WaitOutcome β where
  observation := outcome.observation.map f
  withinPrimaryWindow := outcome.withinPrimaryWindow
  cancelled := outcome.cancelled

/-- `return None, False, True`. -/
def WaitOutcome.cancellation {α : Type} : WaitOutcome α := ⟨none, false, true⟩

/-- `return None, False, False`. -/
def WaitOutcome.nothing {α : Type} : WaitOutcome α := ⟨none, false, false⟩

/-! ## In memory -/

structure InMemoryCallbackBroker where
  baseUrl : String
  tokens : AList fun _ : String => CallbackToken
  observations : AList fun _ : String => List CallbackObservation

namespace InMemoryCallbackBroker

def new (baseUrl : String) : InMemoryCallbackBroker := ⟨slashed baseUrl, ∅, ∅⟩

/-- The observations of a token; `register` gives every token of the broker a list. -/
def observed (b : InMemoryCallbackBroker) (tokenValue : String) : List CallbackObservation :=
  (b.observations.lookup tokenValue).getD []

def register (b : InMemoryCallbackBroker) (policy : CallbackPolicy ρ) (request : CallbackRequest)
    (now : Nat) : Except CallbackBrokerError (CallbackToken × InMemoryCallbackBroker) :=
  let active := b.tokens.entries.countP fun existing => decide (now < existing.2.expiresAt)
  if policy.maximumActiveRegistrations ≤ active then
    .error ⟨"callback_registration_limit_exceeded",
      toString active ++ " active callback registrations already exist, at the "
        ++ toString policy.maximumActiveRegistrations ++ " limit."⟩
  else
    let token := request.token b.baseUrl (now + timedelta policy.tokenTtlSeconds)
    .ok (token,
      { b with
        tokens := b.tokens.insert request.drawn token
        observations := b.observations.insert request.drawn [] })

def recordObservation (b : InMemoryCallbackBroker) (tokenValue method sourceClass : String)
    (policy : CallbackPolicy ρ) (now : Nat) : Bool × InMemoryCallbackBroker :=
  match b.tokens.lookup tokenValue with
  | none => (false, b)
  | some token =>
    if token.expiresAt ≤ now then (false, b)
    else if policy.maximumObservationsPerToken ≤ (b.observed tokenValue).length then (false, b)
    else
      (true,
        { b with
          observations := b.observations.insert tokenValue
            (b.observed tokenValue ++ [⟨tokenValue, now, method, sourceClass⟩]) })

/-- The local variables of `wait_for_observation`. -/
structure Wait (ρ : Type) where
  tokenValue : String
  deadlinePrimary : ρ
  deadlineGrace : ρ

/-- The lines of `wait_for_observation` before its loop. -/
def startWait (token : CallbackToken) (policy : CallbackPolicy ρ) (monotonic : ρ) : Wait ρ where
  tokenValue := token.value
  deadlinePrimary := add monotonic policy.maximumWaitSeconds
  deadlineGrace := add (add monotonic policy.maximumWaitSeconds) policy.graceSeconds

/-- One turn of the loop of `wait_for_observation`, up to the sleep. -/
def poll (b : InMemoryCallbackBroker) (w : Wait ρ) (cancelled : Bool) (monotonic : ρ) :
    Option (WaitOutcome CallbackObservation) :=
  if cancelled then some .cancellation
  else match b.observed w.tokenValue with
    | first :: _ => some ⟨some first, le monotonic w.deadlinePrimary, false⟩
    | [] => if le w.deadlineGrace monotonic then some .nothing else none

end InMemoryCallbackBroker

structure CallbackRepository (ρ : Type) [Seconds ρ] where
  broker : InMemoryCallbackBroker
  policy : CallbackPolicy ρ
  registrations : AList fun _ : String => ScopedCallbackRegistration

namespace CallbackRepository

def new (baseUrl : String) (policy : CallbackPolicy ρ) : CallbackRepository ρ :=
  ⟨.new baseUrl, policy, ∅⟩

def register (r : CallbackRepository ρ) (request : CallbackRequest) (now : Nat) :
    Except CallbackServiceError (CallbackToken × CallbackRepository ρ) :=
  match r.broker.register r.policy request now with
  | .error e => .error ⟨e.code, e.message⟩
  | .ok (token, broker) =>
    .ok (token,
      { r with
        broker := broker
        registrations := r.registrations.insert token.value
          (request.registration now token.expiresAt) })

def getRegistration (r : CallbackRepository ρ) (tokenValue organizationId : String) :
    Except CallbackServiceError ScopedCallbackRegistration :=
  match r.registrations.lookup tokenValue with
  | none => .error .notFound
  | some registration =>
    if registration.organizationId ≠ organizationId then .error .notFound
    else if registration.revokedAt.isSome then .error .revoked
    else .ok registration

def startWait (r : CallbackRepository ρ) (token : CallbackToken) (organizationId : String)
    (policy : CallbackPolicy ρ) (monotonic : ρ) :
    Except CallbackServiceError (InMemoryCallbackBroker.Wait ρ) := do
  let _ ← r.getRegistration token.value organizationId
  return InMemoryCallbackBroker.startWait token policy monotonic

def revokeRegistration (r : CallbackRepository ρ) (tokenValue organizationId : String)
    (now : Nat) : Except CallbackServiceError ScopedCallbackRegistration × CallbackRepository ρ :=
  match r.registrations.lookup tokenValue with
  | none => (.error .notFound, r)
  | some registration =>
    if registration.organizationId ≠ organizationId then (.error .notFound, r)
    else if registration.revokedAt.isSome then (.ok registration, r)
    else
      let registration := { registration with revokedAt := some now }
      (.ok registration,
        { r with registrations := r.registrations.insert tokenValue registration })

def recordObservation (r : CallbackRepository ρ) (tokenValue method sourceClass : String)
    (now : Nat) : Bool × CallbackRepository ρ :=
  if (r.registrations.lookup tokenValue).any (·.revokedAt.isSome) then (false, r)
  else
    let answer := r.broker.recordObservation tokenValue method sourceClass r.policy now
    (answer.1, { r with broker := answer.2 })

end CallbackRepository

/-! ## PostgreSQL -/

/-- Which row `ORDER BY observed_at ASC LIMIT 1` answers with, among those of the earliest time. -/
structure EarliestRow where
  pick : List CallbackObservation → Option CallbackObservation
  pick_nil : pick [] = none
  isSome_pick : ∀ rows, rows ≠ [] → (pick rows).isSome
  mem_of_pick : ∀ rows row, pick rows = some row → row ∈ rows
  pick_le : ∀ rows row, pick rows = some row → ∀ other ∈ rows, row.observedAt ≤ other.observedAt

/-- `callback_registrations` and `callback_observations`. -/
structure PostgresCallbackRegistrationRepository where
  registrations : Table ScopedCallbackRegistration [ScopedCallbackRegistration.tokenValue]
  observations : List CallbackObservation

namespace PostgresCallbackRegistrationRepository

def new : PostgresCallbackRegistrationRepository := ⟨.empty, []⟩

/-- The registration with a token, whoever's it is. -/
def registration (r : PostgresCallbackRegistrationRepository) (tokenValue : String) :
    Option ScopedCallbackRegistration :=
  r.registrations.get? ScopedCallbackRegistration.tokenValue tokenValue

/-- The rows of a token in `callback_observations`. -/
def observed (r : PostgresCallbackRegistrationRepository) (tokenValue : String) :
    List CallbackObservation :=
  r.observations.filter (·.tokenValue = tokenValue)

/-- The second error is the integrity error of a token that has been drawn before. -/
def register (r : PostgresCallbackRegistrationRepository) (policy : CallbackPolicy ρ)
    (request : CallbackRequest) (now : Nat) :
    Except CallbackServiceError
      (ScopedCallbackRegistration × PostgresCallbackRegistrationRepository) :=
  let active := r.registrations.rows.countP fun row =>
    row.organizationId == request.organizationId && row.revokedAt.isNone
      && decide (now < row.expiresAt)
  if policy.maximumActiveRegistrations ≤ active then
    .error ⟨"callback_registration_limit_exceeded",
      toString active ++ " active callback registrations already exist for this organization, at the "
        ++ toString policy.maximumActiveRegistrations ++ " limit."⟩
  else
    let row := request.registration now (now + timedelta policy.tokenTtlSeconds)
    match r.registrations.insert row with
    | none => .error ⟨"database_integrity_violation",
        "The operation violates a uniqueness constraint."⟩
    | some registrations => .ok (row, { r with registrations := registrations })

def getRegistration (r : PostgresCallbackRegistrationRepository)
    (tokenValue organizationId : String) :
    Except CallbackServiceError ScopedCallbackRegistration :=
  match (r.registration tokenValue).filter (·.organizationId = organizationId) with
  | none => .error .notFound
  | some registration =>
    if registration.revokedAt.isSome then .error .revoked else .ok registration

/-- `SET revoked_at = COALESCE(revoked_at, now)`. -/
def revokedRow (now : Nat) (row : ScopedCallbackRegistration) : ScopedCallbackRegistration :=
  { row with revokedAt := some (row.revokedAt.getD now) }

theorem revokedRow_keeps (now : Nat) :
    ∀ column ∈ [ScopedCallbackRegistration.tokenValue], ∀ row,
      column (revokedRow now row) = column row := by
  intro column hcolumn row
  rw [List.mem_singleton.mp hcolumn]
  rfl

def revokeRegistration (r : PostgresCallbackRegistrationRepository)
    (tokenValue organizationId : String) (now : Nat) :
    Except CallbackServiceError ScopedCallbackRegistration ×
      PostgresCallbackRegistrationRepository :=
  match (r.registration tokenValue).filter (·.organizationId = organizationId) with
  | none => (.error .notFound, r)
  | some row =>
    (.ok (revokedRow now row),
      { r with
        registrations := (r.registrations.update ScopedCallbackRegistration.tokenValue tokenValue
          (·.organizationId == organizationId) (revokedRow now) (revokedRow_keeps now)).1 })

/-- `webguard_control.resolve_and_record_callback_observation`. -/
def recordObservation (r : PostgresCallbackRegistrationRepository)
    (tokenValue method sourceClass : String) (observedAt : Nat) :
    Bool × PostgresCallbackRegistrationRepository :=
  match r.registration tokenValue with
  | none => (false, r)
  | some row =>
    if row.revokedAt.isSome || decide (row.expiresAt ≤ observedAt) then (false, r)
    else
      (true,
        { r with
          observations := r.observations ++ [⟨tokenValue, observedAt, method, sourceClass⟩] })

end PostgresCallbackRegistrationRepository

structure PostgresCallbackBroker (ρ : Type) [Seconds ρ] where
  repository : PostgresCallbackRegistrationRepository
  baseUrl : String
  policy : CallbackPolicy ρ

namespace PostgresCallbackBroker

def new (baseUrl : String) (policy : CallbackPolicy ρ) : PostgresCallbackBroker ρ :=
  ⟨.new, slashed baseUrl, policy⟩

def register (b : PostgresCallbackBroker ρ) (request : CallbackRequest) (now : Nat) :
    Except CallbackServiceError (CallbackToken × PostgresCallbackBroker ρ) := do
  let (registration, repository) ← b.repository.register b.policy request now
  return (request.token b.baseUrl registration.expiresAt, { b with repository := repository })

def revokeRegistration (b : PostgresCallbackBroker ρ) (tokenValue organizationId : String)
    (now : Nat) : Except CallbackServiceError ScopedCallbackRegistration ×
      PostgresCallbackBroker ρ :=
  let answer := b.repository.revokeRegistration tokenValue organizationId now
  (answer.1, { b with repository := answer.2 })

def recordObservation (b : PostgresCallbackBroker ρ) (tokenValue method sourceClass : String)
    (now : Nat) : Bool × PostgresCallbackBroker ρ :=
  let answer := b.repository.recordObservation tokenValue method sourceClass now
  (answer.1, { b with repository := answer.2 })

/-- The local variables of `wait_for_observation`. -/
structure Wait (ρ : Type) extends InMemoryCallbackBroker.Wait ρ where
  primaryEvidenceDeadline : Nat
  graceEvidenceDeadline : Nat

/-- The lines of `wait_for_observation` before its loop. -/
def startWait (b : PostgresCallbackBroker ρ) (token : CallbackToken) (organizationId : String)
    (policy : CallbackPolicy ρ) (waitStartedAt : Nat) (monotonic : ρ) :
    Except CallbackServiceError (Wait ρ) := do
  let _ ← b.repository.getRegistration token.value organizationId
  let deadlinePrimary := add monotonic policy.maximumWaitSeconds
  let primaryEvidenceDeadline := waitStartedAt + timedelta policy.maximumWaitSeconds
  return {
    tokenValue := token.value
    deadlinePrimary := deadlinePrimary
    deadlineGrace := add deadlinePrimary policy.graceSeconds
    primaryEvidenceDeadline := primaryEvidenceDeadline
    graceEvidenceDeadline := primaryEvidenceDeadline + timedelta policy.graceSeconds }

/-- One turn of the loop of `wait_for_observation`, up to the sleep. -/
def poll (order : EarliestRow) (b : PostgresCallbackBroker ρ) (w : Wait ρ) (cancelled : Bool)
    (monotonic : ρ) : Option (WaitOutcome CallbackObservation) :=
  if cancelled then some .cancellation
  else match order.pick (b.repository.observed w.tokenValue) with
    | some observation =>
      -- An event after the grace period does not count, although the loop still saw it.
      if w.graceEvidenceDeadline < observation.observedAt then some .nothing
      else
        some ⟨some observation, decide (observation.observedAt ≤ w.primaryEvidenceDeadline), false⟩
    | none => if le w.deadlineGrace monotonic then some .nothing else none

end PostgresCallbackBroker

/-! ## The two under one sequence of calls -/

/-- A call on a broker; `W` names the waits. -/
inductive CallbackCall (ρ W : Type) [Seconds ρ] where
  | observe (tokenValue method sourceClass : String) (now : Nat)
  | revoke (tokenValue organizationId : String) (now : Nat)
  | wait (waiter : W) (token : CallbackToken) (organizationId : String)
      (policy : CallbackPolicy ρ) (now : Nat) (monotonic : ρ)
  | poll (waiter : W) (cancelled : Bool) (monotonic : ρ)

/-- The answer to a call; a poll that does not end its wait answers `polled none`. -/
inductive CallbackAnswer (α : Type) where
  | observed (accepted : Bool)
  | revoked (answer : Except CallbackServiceError ScopedCallbackRegistration)
  | waiting (answer : Except CallbackServiceError Unit)
  | polled (outcome : Option (WaitOutcome α))
deriving DecidableEq

def CallbackAnswer.map {α β : Type} (f : α → β) : CallbackAnswer α → CallbackAnswer β
  | .observed accepted => .observed accepted
  | .revoked answer => .revoked answer
  | .waiting answer => .waiting answer
  | .polled outcome => .polled (outcome.map (·.map f))

/-- The answer, without what the observation says beyond being there. -/
def CallbackAnswer.classification {α : Type} (answer : CallbackAnswer α) : CallbackAnswer Unit :=
  answer.map fun _ => ()

/-- A broker and the waits under way at it. -/
structure CallbackDesk (β ω W : Type) where
  broker : β
  waits : W → Option ω

namespace CallbackDesk

variable {β ω W : Type}

def idle (broker : β) : CallbackDesk β ω W := ⟨broker, fun _ => none⟩

variable [DecidableEq W]

def setWait (d : CallbackDesk β ω W) (waiter : W) (wait : Option ω) : CallbackDesk β ω W :=
  { d with waits := fun other => if other = waiter then wait else d.waits other }

/-- A wait that the broker lets begin is under way. -/
def begin (d : CallbackDesk β ω W) (waiter : W) :
    Except CallbackServiceError ω → CallbackAnswer CallbackObservation × CallbackDesk β ω W
  | .error e => (.waiting (.error e), d)
  | .ok wait => (.waiting (.ok ()), d.setWait waiter (some wait))

/-- A wait that has an outcome is over. -/
def polled (d : CallbackDesk β ω W) (waiter : W) (outcome : Option (WaitOutcome CallbackObservation)) :
    CallbackAnswer CallbackObservation × CallbackDesk β ω W :=
  (.polled outcome, if outcome.isSome then d.setWait waiter none else d)

/-- One call on `CallbackRepository`. -/
def memoryCall (d : CallbackDesk (CallbackRepository ρ) (InMemoryCallbackBroker.Wait ρ) W) :
    CallbackCall ρ W → CallbackAnswer CallbackObservation ×
      CallbackDesk (CallbackRepository ρ) (InMemoryCallbackBroker.Wait ρ) W
  | .observe tokenValue method sourceClass now =>
    let answer := d.broker.recordObservation tokenValue method sourceClass now
    (.observed answer.1, { d with broker := answer.2 })
  | .revoke tokenValue organizationId now =>
    let answer := d.broker.revokeRegistration tokenValue organizationId now
    (.revoked answer.1, { d with broker := answer.2 })
  | .wait waiter token organizationId policy _ monotonic =>
    d.begin waiter (d.broker.startWait token organizationId policy monotonic)
  | .poll waiter cancelled monotonic =>
    d.polled waiter ((d.waits waiter).bind fun w => d.broker.broker.poll w cancelled monotonic)

/-- One call on `PostgresCallbackBroker`. -/
def postgresCall (order : EarliestRow)
    (d : CallbackDesk (PostgresCallbackBroker ρ) (PostgresCallbackBroker.Wait ρ) W) :
    CallbackCall ρ W → CallbackAnswer CallbackObservation ×
      CallbackDesk (PostgresCallbackBroker ρ) (PostgresCallbackBroker.Wait ρ) W
  | .observe tokenValue method sourceClass now =>
    let answer := d.broker.recordObservation tokenValue method sourceClass now
    (.observed answer.1, { d with broker := answer.2 })
  | .revoke tokenValue organizationId now =>
    let answer := d.broker.revokeRegistration tokenValue organizationId now
    (.revoked answer.1, { d with broker := answer.2 })
  | .wait waiter token organizationId policy now monotonic =>
    d.begin waiter (d.broker.startWait token organizationId policy now monotonic)
  | .poll waiter cancelled monotonic =>
    d.polled waiter ((d.waits waiter).bind fun w => d.broker.poll order w cancelled monotonic)

end CallbackDesk

end WebGuard
