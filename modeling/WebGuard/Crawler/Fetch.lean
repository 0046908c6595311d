import Mathlib.Algebra.Order.Ring.Rat
import Mathlib.Tactic.Linarith
import WebGuard.Crawler.Records

/-!
# Budget and retries

`_ExecutionBudget` and `_fetch_with_retry` of `crawler.py`, `RetryPolicy`, and the guard of
`fetch_once` in `safe_http.py`.

What a crawl meets from outside is a `CrawlWorld`: the clock, the cancellation token and the
answers of the site. Every reading is taken at a moment, a number that grows along the run, so
that nothing the crawl reads has to be what it was the last time. A moment passes also where the
source skips a reading.
-/

namespace WebGuard

open UrlParse List

/-! ## The world -/

/-- A start tag as `HTMLParser` reports it: the name and the attributes. -/
structure StartTag where
  tag : Text
  attrs : List (Text × Option Text)
  deriving DecidableEq

/-- `SafeHttpResponse`, with the start tags that the parser finds in the body. -/
structure SafeHttpResponse where
  status : Nat
  connectedAddress : Text
  headers : List (Text × Text)
  startTags : List StartTag
  deriving DecidableEq

/-- The end of a request: a response, a `SafeRequestError`, or another exception. -/
inductive FetchAnswer where
  | responded (response : SafeHttpResponse)
  | failed (errorCode : RequestErrorCode)
  | raised
  deriving DecidableEq

structure CrawlWorld where
  /-- `time.monotonic()` when the run starts. -/
  runStarted : ℚ
  now : Nat → ℚ
  cancelled : Nat → Bool
  /-- What comes of a request for a URL. -/
  answer : Nat → Text → FetchAnswer

/-! ## Policies -/

/-- `RetryPolicy`, with the bounds of its constructor. -/
structure RetryPolicy where
  maximumAttempts : Nat
  initialBackoffSeconds : ℚ
  backoffMultiplier : ℚ
  maximumBackoffSeconds : ℚ
  attempts_bounds : 1 ≤ maximumAttempts ∧ maximumAttempts ≤ 3
  initial_bounds : 0 ≤ initialBackoffSeconds ∧ initialBackoffSeconds ≤ maximumBackoffSeconds
  multiplier_bounds : 1 ≤ backoffMultiplier ∧ backoffMultiplier ≤ 4
  maximum_bound : maximumBackoffSeconds ≤ 5

def RetryPolicy.delayAfterFailure (policy : RetryPolicy) (failedAttemptNumber : Nat) : ℚ :=
  min (policy.initialBackoffSeconds * policy.backoffMultiplier ^ (failedAttemptNumber - 1))
    policy.maximumBackoffSeconds

theorem RetryPolicy.delay_bounds (policy : RetryPolicy) (n : Nat) :
    0 ≤ policy.delayAfterFailure n ∧ policy.delayAfterFailure n ≤ 3600 := by
  have hmaximum : 0 ≤ policy.maximumBackoffSeconds :=
    le_trans policy.initial_bounds.1 policy.initial_bounds.2
  have hmultiplier : 0 ≤ policy.backoffMultiplier := by
    have := policy.multiplier_bounds.1
    linarith
  constructor
  · exact le_min (mul_nonneg policy.initial_bounds.1 (pow_nonneg hmultiplier _)) hmaximum
  · have hle : policy.delayAfterFailure n ≤ policy.maximumBackoffSeconds := min_le_right _ _
    have := policy.maximum_bound
    linarith

variable [StandardLibrary]

open StandardLibrary

/-- What stays the same during one run of `crawl_same_origin`. -/
structure Crawl where
  target : ValidatedTarget
  policy : CrawlPolicy
  retryPolicy : RetryPolicy
  world : CrawlWorld
  /-- Whether there is an `on_checkpoint`. -/
  observed : Bool
  rootUrl : Text
  elapsedBefore : ℚ

variable {reason : CrawlTerminationReason}

namespace Crawl

variable (c : Crawl)

/-! ## `_ExecutionBudget` -/

def deadline : ℚ :=
  c.world.runStarted + max 0 (c.policy.maximumExecutionSeconds - c.elapsedBefore)

/-- `stop_reason` at a moment. -/
def stopReason (attemptsUsed tick : Nat) : Option CrawlTerminationReason :=
  if c.world.cancelled tick then some .cancelled
  else if c.policy.maximumRequestAttempts ≤ attemptsUsed then some .requestAttemptLimitReached
  else if c.deadline ≤ c.world.now tick then some .timeLimitReached
  else none

/-- `wait`, which reads the clock at three moments. -/
def wait (seconds : ℚ) (attemptsUsed tick : Nat) : Option CrawlTerminationReason :=
  match c.stopReason attemptsUsed tick with
  | some reason => some reason
  | none =>
    if seconds ≤ 0 then none
    else if c.deadline - c.world.now (tick + 1) ≤ seconds then some .timeLimitReached
    else c.stopReason attemptsUsed (tick + 2)

variable {c}

variable {attemptsUsed tick : Nat}

theorem isEarly_of_stopReason (h : c.stopReason attemptsUsed tick = some reason) :
    reason.isEarly = true := by
  unfold stopReason at h
  split at h
  · cases h; rfl
  split at h
  · cases h; rfl
  split at h
  · cases h; rfl
  · cases h

theorem isEarly_of_wait {seconds : ℚ} (h : c.wait seconds attemptsUsed tick = some reason) :
    reason.isEarly = true := by
  unfold wait at h
  split at h
  · next reason' hstop =>
    cases h
    exact isEarly_of_stopReason hstop
  split at h
  · cases h
  split at h
  · cases h; rfl
  · exact isEarly_of_stopReason h

theorem attempts_lt_of_stopReason (h : c.stopReason attemptsUsed tick = none) :
    attemptsUsed < c.policy.maximumRequestAttempts := by
  unfold stopReason at h
  split at h
  · cases h
  split at h
  · cases h
  next hlt => omega

variable (c)

/-! ## `fetch_once` -/

/--
`_request_path`: the answer that comes without a request, or leave to send it.

A URL that does not parse is a `ValueError`, which is no `SafeRequestError`.
-/
def requestGuard (url : Text) : Except FetchAnswer Unit :=
  match urlsplit url with
  | none => .error .raised
  | some parsed =>
    match parsed.port with
    | none => .error .raised
    | some port =>
      if parsed.scheme ≠ c.target.scheme || parsed.hostname ≠ some c.target.hostname ||
          port.getD (defaultPort parsed.scheme) ≠ c.target.port then
        .error (.failed .validatedTargetMismatch)
      else if !parsed.fragment.isEmpty then .error (.failed .fragmentNotAllowed)
      else .ok ()

def fetchOnce (url : Text) (tick : Nat) : FetchAnswer :=
  match c.requestGuard url with
  | .error answer => answer
  | .ok () => c.world.answer tick url

end Crawl

/-- A request that the guard let through: how many pages were done, and the page. -/
structure CrawlRequest where
  serial : Nat
  url : Text
  depth : Nat
  deriving DecidableEq

/-- What a fetch uses up. -/
structure Expended where
  attemptsUsed : Nat
  tick : Nat
  requests : List CrawlRequest

/-- Where an exception that ends a crawl came from. -/
inductive CrawlFault where
  /-- The network, a hook, the parser, or a URL that cannot be parsed. -/
  | outside
  | attempt (e : ContractError)
  | pending (e : ContractError)
  | page (e : ContractError)
  | snapshot (e : ContractError)
  | execution (e : ContractError)
  deriving DecidableEq

/-- `_FetchOutcome`; the code and the flag of a failure are set together. -/
structure FetchOutcome where
  response : Option SafeHttpResponse
  attempts : List RequestAttempt
  failure : Option (RequestErrorCode × Bool)
  terminationReason : Option CrawlTerminationReason

/-- A retry that was scheduled does not take place. -/
def unschedule : RequestAttemptOutcome → RequestAttemptOutcome
  | .failed code retryable true _ => .failed code retryable false 0
  | outcome => outcome

def RequestAttempt.unscheduled (attempt : RequestAttempt) : RequestAttempt :=
  { attempt with outcome := unschedule attempt.outcome }

def RequestAttempt.failure (attempt : RequestAttempt) : Option (RequestErrorCode × Bool) :=
  match attempt.outcome with
  | .failed code retryable _ _ => some (code, retryable)
  | .succeeded .. => none

/-- The outcome when the budget refuses the next attempt. -/
def FetchOutcome.stopped (attempts : List RequestAttempt) (reason : CrawlTerminationReason) :
    FetchOutcome where
  response := none
  attempts := attempts.dropLast ++ attempts.getLast?.toList.map (·.unscheduled)
  failure := attempts.getLast?.bind (·.failure)
  terminationReason := some reason

namespace Crawl

variable (c : Crawl)

/-- The end of a fetch with an attempt that failed and is not repeated. -/
def giveUp (attempts : List RequestAttempt) (code : RequestErrorCode)
    (reason : Option CrawlTerminationReason) : Except CrawlFault FetchOutcome :=
  match RequestAttempt.new (attempts.length + 1) (.failed code (isRetryableError code) false 0) with
  | .error e => .error (.attempt e)
  | .ok attempt => .ok ⟨none, attempts ++ [attempt], some (code, isRetryableError code), reason⟩

/-- What is used up when an attempt was made. -/
def spentOn (serial : Nat) (page : CrawlPendingPage) (spent : Expended) : Expended where
  attemptsUsed := spent.attemptsUsed + 1
  tick := spent.tick + 5
  requests := spent.requests ++
    if (c.requestGuard page.url).isOk then [⟨serial, page.url, page.depth⟩] else []

/--
One round of the loop of `_fetch_with_retry`.

`retry` is how the loop goes on, if `attempt_number < maximum_attempts`. A round takes five
moments: the reservation, the answer and the three of the wait.
-/
def attemptOnce (serial : Nat) (page : CrawlPendingPage) (attempts : List RequestAttempt)
    (spent : Expended)
    (retry : Option (RequestAttempt → Except CrawlFault FetchOutcome × Expended)) :
    Except CrawlFault FetchOutcome × Expended :=
  match c.stopReason spent.attemptsUsed spent.tick with
  | some reason =>
    (.ok (FetchOutcome.stopped attempts reason), { spent with tick := spent.tick + 5 })
  | none =>
    let next := c.spentOn serial page spent
    match c.fetchOnce page.url (spent.tick + 1) with
    | .raised => (.error .outside, next)
    | .responded response =>
      match RequestAttempt.new (attempts.length + 1)
          (.succeeded response.connectedAddress response.status) with
      | .error e => (.error (.attempt e), next)
      | .ok attempt => (.ok ⟨some response, attempts ++ [attempt], none, none⟩, next)
    | .failed code =>
      match retry with
      | none => (giveUp attempts code none, next)
      | some retry =>
        if isRetryableError code then
          let delay := c.retryPolicy.delayAfterFailure (attempts.length + 1)
          match c.wait delay next.attemptsUsed (spent.tick + 2) with
          | some reason => (giveUp attempts code (some reason), next)
          | none =>
            match RequestAttempt.new (attempts.length + 1) (.failed code true true delay) with
            | .error e => (.error (.attempt e), next)
            | .ok attempt => retry attempt
        else (giveUp attempts code none, next)

/-- The loop; the number is `maximum_attempts - attempt_number`. -/
def fetchFrom (serial : Nat) (page : CrawlPendingPage) :
    Nat → List RequestAttempt → Expended → Except CrawlFault FetchOutcome × Expended
  | 0, attempts, spent => c.attemptOnce serial page attempts spent none
  | retries + 1, attempts, spent =>
    c.attemptOnce serial page attempts spent (some fun attempt =>
      fetchFrom serial page retries (attempts ++ [attempt]) (c.spentOn serial page spent))

def fetchWithRetry (serial : Nat) (page : CrawlPendingPage) (spent : Expended) :
    Except CrawlFault FetchOutcome × Expended :=
  c.fetchFrom serial page (c.retryPolicy.maximumAttempts - 1) [] spent

end Crawl

/-! ## What a fetch can do -/

section

omit [StandardLibrary]

variable (n : Nat) (code : RequestErrorCode)

theorem new_failed (retryable : Bool) :
    RequestAttempt.new (n + 1) (.failed code retryable false 0) =
      .ok ⟨n + 1, .failed code retryable false 0⟩ := by
  simp [RequestAttempt.new, RequestAttemptOutcome.check, require]
  rfl

theorem new_scheduled {delay : ℚ}
    (h : 0 ≤ delay ∧ delay ≤ 3600) :
    RequestAttempt.new (n + 1) (.failed code true true delay) =
      .ok ⟨n + 1, .failed code true true delay⟩ := by
  simp [RequestAttempt.new, RequestAttemptOutcome.check, require, h]
  rfl

theorem new_succeeded {n : Nat} {address : Text} {status : Nat} {attempt : RequestAttempt}
    (h : RequestAttempt.new (n + 1) (.succeeded address status) = .ok attempt) :
    attempt = ⟨n + 1, .succeeded address status⟩ ∧ 100 ≤ status ∧ status ≤ 599 := by
  refine ⟨RequestAttempt.new_eq_ok h, ?_⟩
  unfold RequestAttempt.new at h
  obtain ⟨_, -, h⟩ := Atomic.bind_ok h
  obtain ⟨_, hstatus, -⟩ := Atomic.bind_ok h
  simpa [RequestAttemptOutcome.check] using hstatus

end

namespace Crawl

variable {c : Crawl} {serial : Nat} {page : CrawlPendingPage}

/-- An outcome that an attempt ends in, after the attempts before it. -/
inductive Attempted (attempts : List RequestAttempt) : Except CrawlFault FetchOutcome → Prop where
  | outside : Attempted attempts (.error .outside)
  | status (e : ContractError) : Attempted attempts (.error (.attempt e))
  | responded (response : SafeHttpResponse) (h : 100 ≤ response.status ∧ response.status ≤ 599) :
      Attempted attempts (.ok ⟨some response, attempts ++ [⟨attempts.length + 1,
        .succeeded response.connectedAddress response.status⟩], none, none⟩)
  | failed (code : RequestErrorCode) (reason : Option CrawlTerminationReason)
      (h : ∀ r, reason = some r → r.isEarly = true) :
      Attempted attempts (.ok ⟨none, attempts ++ [⟨attempts.length + 1,
        .failed code (isRetryableError code) false 0⟩], some (code, isRetryableError code), reason⟩)

variable (c serial page) in
theorem attemptOnce_cases (attempts : List RequestAttempt) (spent : Expended)
    (retry : Option (RequestAttempt → Except CrawlFault FetchOutcome × Expended)) :
    (∃ reason, c.stopReason spent.attemptsUsed spent.tick = some reason ∧
      c.attemptOnce serial page attempts spent retry =
        (.ok (FetchOutcome.stopped attempts reason), { spent with tick := spent.tick + 5 })) ∨
    c.stopReason spent.attemptsUsed spent.tick = none ∧
      ((∃ result, Attempted attempts result ∧
        c.attemptOnce serial page attempts spent retry = (result, c.spentOn serial page spent)) ∨
      ∃ next code delay, retry = some next ∧
        c.attemptOnce serial page attempts spent retry =
          next ⟨attempts.length + 1, .failed code true true delay⟩) := by
  unfold attemptOnce
  cases hstop : c.stopReason spent.attemptsUsed spent.tick with
  | some reason => exact Or.inl ⟨reason, rfl, rfl⟩
  | none =>
    refine Or.inr ⟨rfl, ?_⟩
    simp only
    cases hanswer : c.fetchOnce page.url (spent.tick + 1) with
    | raised => exact Or.inl ⟨_, .outside, rfl⟩
    | responded response =>
      simp only
      cases hnew : RequestAttempt.new (attempts.length + 1)
          (.succeeded response.connectedAddress response.status) with
      | error e => exact Or.inl ⟨_, .status e, rfl⟩
      | ok attempt =>
        obtain ⟨rfl, hstatus⟩ := new_succeeded hnew
        exact Or.inl ⟨_, .responded response hstatus, rfl⟩
    | failed code =>
      have hgiveUp : ∀ reason : Option CrawlTerminationReason,
          (∀ r, reason = some r → r.isEarly = true) →
            Attempted attempts (giveUp attempts code reason) := by
        intro reason hreason
        unfold giveUp
        rw [new_failed]
        exact .failed code reason hreason
      cases retry with
      | none => exact Or.inl ⟨_, hgiveUp none (by simp), rfl⟩
      | some next =>
        simp only
        cases hretry : isRetryableError code with
        | false => exact Or.inl ⟨_, hgiveUp none (by simp), rfl⟩
        | true =>
          simp only [if_true]
          cases hwait : c.wait (c.retryPolicy.delayAfterFailure (attempts.length + 1))
              (c.spentOn serial page spent).attemptsUsed (spent.tick + 2) with
          | some reason =>
            refine Or.inl ⟨_, hgiveUp (some reason) ?_, rfl⟩
            intro r hr
            cases hr
            exact isEarly_of_wait hwait
          | none =>
            simp only
            rw [new_scheduled _ _ (c.retryPolicy.delay_bounds _)]
            exact Or.inr ⟨next, code, _, rfl, rfl⟩

/-- The attempts before this one, all of which failed. -/
inductive Prior : List RequestAttempt → Prop where
  | none : Prior []
  | failed (before : List RequestAttempt) (n : Nat) (code : RequestErrorCode)
      (retryable scheduled : Bool) (backoff : ℚ) :
      Prior (before ++ [⟨n, .failed code retryable scheduled backoff⟩])

/-- What the main loop can be given by a fetch. -/
inductive Concluded : FetchOutcome → Prop where
  | responded (response : SafeHttpResponse) (before : List RequestAttempt) (n : Nat)
      (h : 100 ≤ response.status ∧ response.status ≤ 599) :
      Concluded ⟨some response, before ++ [⟨n, .succeeded response.connectedAddress response.status⟩],
        none, none⟩
  | failed (before : List RequestAttempt) (n : Nat) (code : RequestErrorCode)
      (retryable scheduled : Bool) (backoff : ℚ) (reason : Option CrawlTerminationReason)
      (h : ∀ r, reason = some r → r.isEarly = true) :
      Concluded ⟨none, before ++ [⟨n, .failed code retryable scheduled backoff⟩],
        some (code, retryable), reason⟩
  | stopped (reason : CrawlTerminationReason) (h : reason.isEarly = true) :
      Concluded ⟨none, [], none, some reason⟩

def Numbered (attempts : List RequestAttempt) : Prop :=
  attempts.map (·.attemptNumber) = range' 1 attempts.length

variable {attempts : List RequestAttempt} {spent : Expended} {retries : Nat}

omit [StandardLibrary] in
theorem numbered_snoc (h : Numbered attempts) (outcome : RequestAttemptOutcome) :
    Numbered (attempts ++ [⟨attempts.length + 1, outcome⟩]) := by
  unfold Numbered at h ⊢
  rw [map_append, h, length_append, length_singleton, range'_concat]
  simp [Nat.add_comm]

omit [StandardLibrary] in
theorem stopped_concluded (hprior : Prior attempts) (h : reason.isEarly = true) :
    Concluded (FetchOutcome.stopped attempts reason) ∧
      (FetchOutcome.stopped attempts reason).attempts.length = attempts.length ∧
      (Numbered attempts → Numbered (FetchOutcome.stopped attempts reason).attempts) := by
  cases hprior with
  | none => exact ⟨.stopped reason h, rfl, id⟩
  | failed before n code retryable scheduled backoff =>
    have hattempts : (FetchOutcome.stopped
        (before ++ [⟨n, .failed code retryable scheduled backoff⟩]) reason).attempts =
          before ++ [⟨n, unschedule (.failed code retryable scheduled backoff)⟩] := by
      simp [FetchOutcome.stopped, RequestAttempt.unscheduled]
    have hearly : ∀ r, some reason = some r → r.isEarly = true := by
      intro r hr
      cases hr
      exact h
    refine ⟨?_, ?_, ?_⟩
    · have hfailure : (FetchOutcome.stopped
          (before ++ [⟨n, .failed code retryable scheduled backoff⟩]) reason).failure =
            some (code, retryable) := by
        simp [FetchOutcome.stopped, RequestAttempt.failure]
      have hoffence : ∃ s b, unschedule (.failed code retryable scheduled backoff) =
          .failed code retryable s b := by
        cases scheduled with
        | true => exact ⟨false, 0, rfl⟩
        | false => exact ⟨false, backoff, rfl⟩
      obtain ⟨s, b, hoffence⟩ := hoffence
      have hwhole : FetchOutcome.stopped
          (before ++ [⟨n, .failed code retryable scheduled backoff⟩]) reason =
            ⟨none, before ++ [⟨n, .failed code retryable s b⟩], some (code, retryable),
              some reason⟩ := by
        rw [← hoffence, ← hattempts, ← hfailure]
        rfl
      rw [hwhole]
      exact .failed before n code retryable s b (some reason) hearly
    · rw [hattempts]
      simp
    · unfold Numbered
      rw [hattempts]
      simp

/-- What holds of a fetch that begins with some attempts made already. -/
structure Fetched (c : Crawl) (serial : Nat) (page : CrawlPendingPage) (retries : Nat)
    (attempts : List RequestAttempt) (spent : Expended)
    (result : Except CrawlFault FetchOutcome × Expended) : Prop where
  used : result.2.attemptsUsed ≤ spent.attemptsUsed + (retries + 1)
  within : spent.attemptsUsed ≤ c.policy.maximumRequestAttempts →
    result.2.attemptsUsed ≤ c.policy.maximumRequestAttempts
  sent : ∃ j, spent.attemptsUsed + j ≤ result.2.attemptsUsed ∧
    result.2.requests = spent.requests ++ replicate j ⟨serial, page.url, page.depth⟩ ∧
      (j ≠ 0 → (c.requestGuard page.url).isOk = true)
  later : spent.tick < result.2.tick
  counted : ∀ o, result.1 = .ok o →
    o.attempts.length + spent.attemptsUsed = attempts.length + result.2.attemptsUsed
  numbered : ∀ o, result.1 = .ok o → Numbered attempts → Numbered o.attempts
  concluded : ∀ o, result.1 = .ok o → Concluded o

theorem spentOn_requests (c : Crawl) (serial : Nat) (page : CrawlPendingPage) (spent : Expended) :
    ∃ j ≤ 1, (c.spentOn serial page spent).requests =
      spent.requests ++ replicate j ⟨serial, page.url, page.depth⟩ ∧
        (j ≠ 0 → (c.requestGuard page.url).isOk = true) := by
  by_cases h : (c.requestGuard page.url).isOk = true
  · exact ⟨1, le_refl 1, by simp [spentOn, h], fun _ => h⟩
  · exact ⟨0, Nat.zero_le 1, by simp [spentOn, h], fun hne => absurd rfl hne⟩

theorem fetched_of_attempted {result : Except CrawlFault FetchOutcome}
    (h : Attempted attempts result) (hlt : spent.attemptsUsed < c.policy.maximumRequestAttempts) :
    Fetched c serial page retries attempts spent (result, c.spentOn serial page spent) where
  used := by simp [spentOn]
  within := by
    intro _
    simp only [spentOn]
    omega
  sent := by
    obtain ⟨j, hj, hrequests, hguard⟩ := spentOn_requests c serial page spent
    refine ⟨j, ?_, hrequests, hguard⟩
    simp only [spentOn]
    omega
  later := by simp [spentOn]
  counted := by
    intro o ho
    cases h with
    | outside => cases ho
    | status e => cases ho
    | responded response _ =>
      cases ho
      simp only [spentOn, length_append, length_singleton]
      omega
    | failed code reason _ =>
      cases ho
      simp only [spentOn, length_append, length_singleton]
      omega
  numbered := by
    intro o ho hnumbered
    cases h with
    | outside => cases ho
    | status e => cases ho
    | responded response _ =>
      cases ho
      exact numbered_snoc hnumbered _
    | failed code reason _ =>
      cases ho
      exact numbered_snoc hnumbered _
  concluded := by
    intro o ho
    cases h with
    | outside => cases ho
    | status e => cases ho
    | responded response hstatus =>
      cases ho
      exact .responded response attempts _ hstatus
    | failed code reason hearly =>
      cases ho
      exact .failed attempts _ code _ false 0 reason hearly

theorem fetched_of_stopped (hprior : Prior attempts)
    (hstop : c.stopReason spent.attemptsUsed spent.tick = some reason) :
    Fetched c serial page retries attempts spent
      (.ok (FetchOutcome.stopped attempts reason), { spent with tick := spent.tick + 5 }) := by
  obtain ⟨hconcluded, hlength, hnumbered⟩ := stopped_concluded hprior (isEarly_of_stopReason hstop)
  refine ⟨by simp, fun h => h, ⟨0, by simp, by simp, by simp⟩, by simp, ?_, ?_, ?_⟩
  · intro o ho
    cases ho
    simp only [hlength]
  · intro o ho
    cases ho
    exact hnumbered
  · intro o ho
    cases ho
    exact hconcluded

theorem fetched_retry {outcome : RequestAttemptOutcome}
    {result : Except CrawlFault FetchOutcome × Expended}
    (hlt : spent.attemptsUsed < c.policy.maximumRequestAttempts)
    (h : Fetched c serial page retries (attempts ++ [⟨attempts.length + 1, outcome⟩])
      (c.spentOn serial page spent) result) :
    Fetched c serial page (retries + 1) attempts spent result where
  used := by
    have := h.used
    simp only [spentOn] at this
    omega
  within := by
    intro _
    apply h.within
    simp only [spentOn]
    omega
  sent := by
    obtain ⟨i, hi, hfirst, hguard⟩ := spentOn_requests c serial page spent
    obtain ⟨j, hj, hrest, hguard'⟩ := h.sent
    refine ⟨i + j, ?_, ?_, ?_⟩
    · simp only [spentOn] at hj
      omega
    · rw [hrest, hfirst, append_assoc, replicate_append_replicate]
    · intro hne
      by_cases hzero : i = 0
      · exact hguard' (by omega)
      · exact hguard hzero
  later := by
    have := h.later
    simp only [spentOn] at this
    omega
  counted := by
    intro o ho
    have := h.counted o ho
    simp only [spentOn, length_append, length_singleton] at this
    omega
  numbered := fun o ho hnumbered => h.numbered o ho (numbered_snoc hnumbered _)
  concluded := h.concluded

theorem fetchFrom_spec (retries : Nat) (hprior : Prior attempts) (spent : Expended) :
    Fetched c serial page retries attempts spent
      (c.fetchFrom serial page retries attempts spent) := by
  induction retries generalizing attempts spent with
  | zero =>
    rw [fetchFrom]
    rcases attemptOnce_cases c serial page attempts spent none with
      ⟨reason, hstop, heq⟩ | ⟨hstop, ⟨result, hresult, heq⟩ | ⟨next, code, delay, hnext, -⟩⟩
    · rw [heq]
      exact fetched_of_stopped hprior hstop
    · rw [heq]
      exact fetched_of_attempted hresult (attempts_lt_of_stopReason hstop)
    · cases hnext
  | succ k ih =>
    rw [fetchFrom]
    rcases attemptOnce_cases c serial page attempts spent
      (some fun attempt =>
        c.fetchFrom serial page k (attempts ++ [attempt]) (c.spentOn serial page spent)) with
      ⟨reason, hstop, heq⟩ | ⟨hstop, ⟨result, hresult, heq⟩ | ⟨next, code, delay, hnext, heq⟩⟩
    · rw [heq]
      exact fetched_of_stopped hprior hstop
    · rw [heq]
      exact fetched_of_attempted hresult (attempts_lt_of_stopReason hstop)
    · rw [heq]
      cases hnext
      exact fetched_retry (attempts_lt_of_stopReason hstop) (ih (.failed _ _ _ _ _ _) _)

theorem fetchWithRetry_spec (spent : Expended) :
    Fetched c serial page (c.retryPolicy.maximumAttempts - 1) [] spent
      (c.fetchWithRetry serial page spent) :=
  fetchFrom_spec _ .none spent

end Crawl

end WebGuard
