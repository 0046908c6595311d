import WebGuard.Crawler.Crawl

/-!
# Attempts of a fetch

What `_fetch_with_retry` records of the requests it makes. A round of its loop takes five moments
of the world, so the answers to the requests are those of the first moments of the rounds.
-/

namespace WebGuard

open UrlParse List

def RequestAttempt.retryScheduled (attempt : RequestAttempt) : Bool :=
  match attempt.outcome with
  | .failed _ _ scheduled _ => scheduled
  | .succeeded .. => false

def RequestAttempt.backoffSeconds (attempt : RequestAttempt) : ℚ :=
  match attempt.outcome with
  | .failed _ _ _ backoff => backoff
  | .succeeded .. => 0

section

variable [StandardLibrary]

namespace Crawl

variable (c : Crawl) (page : CrawlPendingPage) (spent : Expended)

/-! ## What is recorded -/

/-- The answer to the request of a round, the first round being the round zero. -/
def answerIn (round : Nat) : FetchAnswer := c.fetchOnce page.url (spent.tick + 5 * round + 1)

/-- Why the budget refuses a round. -/
def refusal (round : Nat) : Option CrawlTerminationReason :=
  c.stopReason (spent.attemptsUsed + round) (spent.tick + 5 * round)

/-- Why the budget breaks off the wait at the end of a round. -/
def waitRefusal (round : Nat) : Option CrawlTerminationReason :=
  c.wait (c.retryPolicy.delayAfterFailure (round + 1)) (spent.attemptsUsed + round + 1)
    (spent.tick + 5 * round + 2)

/-- Attempts that failed and were each followed by a retry, as policy and budget allow. -/
inductive Retried : List RequestAttempt → Prop where
  | none : Retried []
  | again {before : List RequestAttempt} {code : RequestErrorCode} (h : Retried before)
      (hopen : c.refusal spent before.length = none)
      (hanswer : c.answerIn page spent before.length = .failed code)
      (hretry : isRetryableError code = true)
      (hmore : before.length + 1 < c.retryPolicy.maximumAttempts)
      (hwait : c.waitRefusal spent before.length = none) :
      Retried (before ++ [⟨before.length + 1,
        .failed code true true (c.retryPolicy.delayAfterFailure (before.length + 1))⟩])

/--
How a fetch ends that returns: before the first request, with a response, with a failure that is not
retried by the policy, or with one that is not retried because of the budget.
-/
inductive Ended : FetchOutcome → Prop where
  | refused {reason : CrawlTerminationReason} (h : c.refusal spent 0 = some reason) :
      Ended ⟨none, [], none, some reason⟩
  | responded {before : List RequestAttempt} {response : SafeHttpResponse}
      (h : Retried c page spent before) (hopen : c.refusal spent before.length = none)
      (hanswer : c.answerIn page spent before.length = .responded response) :
      Ended ⟨some response, before ++ [⟨before.length + 1,
        .succeeded response.connectedAddress response.status⟩], none, none⟩
  | failed {before : List RequestAttempt} {code : RequestErrorCode}
      (h : Retried c page spent before) (hopen : c.refusal spent before.length = none)
      (hanswer : c.answerIn page spent before.length = .failed code)
      (hstop : isRetryableError code = false ∨
        before.length + 1 = c.retryPolicy.maximumAttempts) :
      Ended ⟨none, before ++ [⟨before.length + 1,
        .failed code (isRetryableError code) false 0⟩], some (code, isRetryableError code), none⟩
  | stopped {before : List RequestAttempt} {code : RequestErrorCode}
      {reason : CrawlTerminationReason}
      (h : Retried c page spent before) (hopen : c.refusal spent before.length = none)
      (hanswer : c.answerIn page spent before.length = .failed code)
      (hretry : isRetryableError code = true)
      (hbudget : c.waitRefusal spent before.length = some reason ∨
        c.refusal spent (before.length + 1) = some reason) :
      Ended ⟨none, before ++ [⟨before.length + 1, .failed code true false 0⟩], some (code, true),
        some reason⟩

/-- The exceptions of a fetch: of a request, or of the record of a status that is none. The times of
the attempts, whose order the record checks as well, are not modelled. -/
inductive Interrupted : CrawlFault → Prop where
  | outside {before : List RequestAttempt} (h : Retried c page spent before)
      (hanswer : c.answerIn page spent before.length = .raised) : Interrupted .outside
  | status {before : List RequestAttempt} {response : SafeHttpResponse} {e : ContractError}
      (h : Retried c page spent before)
      (hanswer : c.answerIn page spent before.length = .responded response)
      (hstatus : ¬(100 ≤ response.status ∧ response.status ≤ 599)) : Interrupted (.attempt e)

/-- What a fetch comes to. -/
def Settles : Except CrawlFault FetchOutcome → Prop
  | .ok outcome => Ended c page spent outcome
  | .error fault => Interrupted c page spent fault

/-! ## One round -/

variable {c page spent}

omit [StandardLibrary] in
theorem new_succeeded_error {n : Nat} {address : Text} {status : Nat} {e : ContractError}
    (h : RequestAttempt.new (n + 1) (.succeeded address status) = .error e) :
    ¬(100 ≤ status ∧ status ≤ 599) := by
  intro hstatus
  have hok : RequestAttempt.new (n + 1) (.succeeded address status)
      = .ok ⟨n + 1, .succeeded address status⟩ := by
    simp [RequestAttempt.new, RequestAttemptOutcome.check, require, hstatus]
    rfl
  rw [hok] at h
  cases h

variable {attempts : List RequestAttempt} {outcome : FetchOutcome}

theorem ended_of_refusal (h : Retried c page spent attempts) {reason : CrawlTerminationReason}
    (hrefusal : c.refusal spent attempts.length = some reason) :
    Ended c page spent (FetchOutcome.stopped attempts reason) := by
  cases h with
  | none => exact .refused hrefusal
  | @again before code h hopen hanswer hretry hmore hwait =>
    have hstopped : FetchOutcome.stopped (before ++ [⟨before.length + 1,
        .failed code true true (c.retryPolicy.delayAfterFailure (before.length + 1))⟩]) reason
          = ⟨none, before ++ [⟨before.length + 1, .failed code true false 0⟩], some (code, true),
              some reason⟩ := by
      simp [FetchOutcome.stopped, RequestAttempt.unscheduled, RequestAttempt.failure, unschedule]
    rw [hstopped]
    rw [length_append, length_singleton] at hrefusal
    exact .stopped h hopen hanswer hretry (.inr hrefusal)

theorem attemptOnce_settles {serial : Nat} {now : Expended} (h : Retried c page spent attempts)
    (hused : now.attemptsUsed = spent.attemptsUsed + attempts.length)
    (htick : now.tick = spent.tick + 5 * attempts.length)
    (retry : Option (RequestAttempt → Except CrawlFault FetchOutcome × Expended))
    (hretries : retry = none → attempts.length + 1 = c.retryPolicy.maximumAttempts)
    (hmore : retry ≠ none → attempts.length + 1 < c.retryPolicy.maximumAttempts) :
    Settles c page spent (c.attemptOnce serial page attempts now retry).1 ∨
      ∃ next outcome, retry = some next ∧
        Retried c page spent (attempts ++ [⟨attempts.length + 1, outcome⟩]) ∧
        c.attemptOnce serial page attempts now retry = next ⟨attempts.length + 1, outcome⟩ := by
  have hrefusal : c.stopReason now.attemptsUsed now.tick = c.refusal spent attempts.length := by
    rw [hused, htick, refusal]
  have hanswer : c.fetchOnce page.url (now.tick + 1) = c.answerIn page spent attempts.length := by
    rw [htick, answerIn]
  have hwaiting : c.wait (c.retryPolicy.delayAfterFailure (attempts.length + 1))
      (c.spentOn serial page now).attemptsUsed (now.tick + 2)
        = c.waitRefusal spent attempts.length := by
    rw [waitRefusal, spentOn, hused, htick]
  unfold attemptOnce
  rw [hrefusal]
  cases hopen : c.refusal spent attempts.length with
  | some reason => exact .inl (ended_of_refusal h hopen)
  | none =>
    simp only
    rw [hanswer]
    cases hcase : c.answerIn page spent attempts.length with
    | raised => exact .inl (.outside h hcase)
    | responded response =>
      simp only
      cases hnew : RequestAttempt.new (attempts.length + 1)
          (.succeeded response.connectedAddress response.status) with
      | error e => exact .inl (.status h hcase (new_succeeded_error hnew))
      | ok attempt =>
        obtain ⟨rfl, -⟩ := new_succeeded hnew
        exact .inl (.responded h hopen hcase)
    | failed code =>
      simp only
      cases retry with
      | none =>
        have hend := Ended.failed h hopen hcase (.inr (hretries rfl))
        left
        unfold giveUp
        rw [new_failed]
        exact hend
      | some next =>
        simp only
        cases hretry : isRetryableError code with
        | false =>
          have hend := Ended.failed h hopen hcase (.inl hretry)
          left
          simp only [Bool.false_eq_true, if_false]
          unfold giveUp
          rw [new_failed]
          exact hend
        | true =>
          simp only [if_true]
          rw [hwaiting]
          cases hwait : c.waitRefusal spent attempts.length with
          | some reason =>
            have hend := Ended.stopped h hopen hcase hretry (.inl hwait)
            left
            simp only
            unfold giveUp
            rw [new_failed, hretry]
            exact hend
          | none =>
            right
            simp only
            rw [new_scheduled _ _ (c.retryPolicy.delay_bounds _)]
            exact ⟨next, _, rfl, .again h hopen hcase hretry (hmore (by simp)) hwait, rfl⟩

/-! ## The loop -/

theorem fetchFrom_settles {serial : Nat} (retries : Nat) {now : Expended}
    (h : Retried c page spent attempts)
    (hused : now.attemptsUsed = spent.attemptsUsed + attempts.length)
    (htick : now.tick = spent.tick + 5 * attempts.length)
    (hretries : attempts.length + 1 + retries = c.retryPolicy.maximumAttempts) :
    Settles c page spent (c.fetchFrom serial page retries attempts now).1 := by
  induction retries generalizing attempts now with
  | zero =>
    rw [fetchFrom]
    obtain hsettles | ⟨next, outcome, hnext, -⟩ :=
      attemptOnce_settles h hused htick none (fun _ => by omega) (by simp)
    · exact hsettles
    · cases hnext
  | succ retries ih =>
    rw [fetchFrom]
    obtain hsettles | ⟨next, outcome, hnext, hagain, heq⟩ :=
      attemptOnce_settles h hused htick (some fun attempt =>
        c.fetchFrom serial page retries (attempts ++ [attempt]) (c.spentOn serial page now))
        (by simp) (fun _ => by omega)
    · exact hsettles
    · rw [heq]
      cases hnext
      refine ih hagain ?_ ?_ ?_
      · simp [spentOn, hused]
        omega
      · simp [spentOn, htick]
        omega
      · rw [length_append, length_singleton]
        omega

theorem fetch_settles (serial : Nat) :
    Settles c page spent (c.fetchWithRetry serial page spent).1 := by
  have hpositive := c.retryPolicy.attempts_bounds.1
  refine fetchFrom_settles _ .none rfl rfl ?_
  rw [length_nil]
  omega

/-! ## The account -/

theorem Retried.scheduled (h : Retried c page spent attempts) :
    ∀ attempt ∈ attempts, attempt.retryScheduled = true ∧
      attempt.backoffSeconds ≤ c.retryPolicy.maximumBackoffSeconds := by
  induction h with
  | none => simp
  | again _ _ _ _ _ _ ih =>
    intro attempt hattempt
    obtain hbefore | hlast := mem_append.mp hattempt
    · exact ih attempt hbefore
    · cases mem_singleton.mp hlast
      exact ⟨rfl, min_le_right _ _⟩

theorem Ended.attempts_eq (h : Ended c page spent outcome) :
    outcome.attempts = [] ∨ ∃ before last, Retried c page spent before ∧
      outcome.attempts = before ++ [last] ∧ last.retryScheduled = false ∧
        last.backoffSeconds = 0 := by
  cases h with
  | refused _ => exact .inl rfl
  | responded h _ _ => exact .inr ⟨_, _, h, rfl, rfl, rfl⟩
  | failed h _ _ _ => exact .inr ⟨_, _, h, rfl, rfl, rfl⟩
  | stopped h _ _ _ _ => exact .inr ⟨_, _, h, rfl, rfl, rfl⟩

variable (c page spent) in
/-- The accounts of a fetch that returns. -/
structure RetryAccount (outcome : FetchOutcome) (after : Expended) : Prop where
  numbered : outcome.attempts.map (·.attemptNumber) = range' 1 outcome.attempts.length
  scheduled : ∀ k attempt, outcome.attempts[k]? = some attempt →
    (attempt.retryScheduled = true ↔ k + 1 < outcome.attempts.length)
  used : after.attemptsUsed = spent.attemptsUsed + outcome.attempts.length
  capped : ∀ attempt ∈ outcome.attempts,
    attempt.backoffSeconds ≤ c.retryPolicy.maximumBackoffSeconds
  ended : Ended c page spent outcome

theorem Ended.scheduled (h : Ended c page spent outcome) (k : Nat) (attempt : RequestAttempt)
    (hget : outcome.attempts[k]? = some attempt) :
    attempt.retryScheduled = true ↔ k + 1 < outcome.attempts.length := by
  obtain hnil | ⟨before, last, hbefore, hattempts, hlast, -⟩ := h.attempts_eq
  · rw [hnil] at hget
    cases hget
  · rw [hattempts] at hget ⊢
    rw [length_append, length_singleton]
    obtain hk | hk := Nat.lt_or_ge k before.length
    · rw [getElem?_append_left hk] at hget
      have htrue := (hbefore.scheduled attempt (mem_of_getElem? hget)).1
      simp only [htrue, true_iff]
      omega
    · rw [getElem?_append_right hk, getElem?_singleton] at hget
      rw [Option.ite_none_right_eq_some] at hget
      obtain ⟨hzero, heq⟩ := hget
      cases heq
      simp only [hlast, Bool.false_eq_true, false_iff]
      omega

theorem Ended.capped (h : Ended c page spent outcome) :
    ∀ attempt ∈ outcome.attempts,
      attempt.backoffSeconds ≤ c.retryPolicy.maximumBackoffSeconds := by
  intro attempt hattempt
  obtain hnil | ⟨before, last, hbefore, hattempts, -, hlast⟩ := h.attempts_eq
  · rw [hnil] at hattempt
    cases hattempt
  · rw [hattempts] at hattempt
    obtain hmem | hmem := mem_append.mp hattempt
    · exact (hbefore.scheduled attempt hmem).2
    · cases mem_singleton.mp hmem
      rw [hlast]
      exact le_trans c.retryPolicy.initial_bounds.1 c.retryPolicy.initial_bounds.2

variable (c page spent) in
/-- What holds of a fetch, whether it returns or raises an exception. -/
def Accounts : Except CrawlFault FetchOutcome × Expended → Prop
  | (.ok outcome, after) => RetryAccount c page spent outcome after
  | (.error fault, _) => Interrupted c page spent fault

end Crawl

end

def slowStart : @Crawl sampleLibrary :=
  letI := sampleLibrary
  { target := sampleTarget
    policy := samplePolicy
    retryPolicy := { sampleRetryPolicy with maximumAttempts := 2, attempts_bounds := by decide }
    world := { sampleWorld (.responded (sampleResponse [])) with
      answer := fun tick _ =>
        if tick = 1 then .failed .connectionTimeout else .responded (sampleResponse []) }
    observed := false
    rootUrl := "https://h/".toList
    elapsedBefore := 0 }

def slowPage : @CrawlPendingPage sampleLibrary :=
  letI := sampleLibrary
  { url := "https://h/".toList
    depth := 0
    parentUrl := none
    built := ⟨⟨"https://h/".toList, 0, none⟩, by decide⟩ }

def attemptsOf (result : Except CrawlFault FetchOutcome) : Option Nat :=
  result.toOption.map (·.attempts.length)

end WebGuard
