import WebGuard.Properties.CrawlEnvelope

/-!
# Resuming a crawl

A checkpoint is taken behind every page and holds the variables of the loop, apart from the clock.
So a crawl that dies behind a page loses nothing: whoever resumes its last checkpoint goes on as it
would have gone on itself (`resume_equivalence`). What the two of them meet has to be alike: the
answers of the site, no cancellation, and time enough (`Calm`).
-/

namespace WebGuard

open UrlParse StandardLibrary Function CrawlResumeState

variable [StandardLibrary]

/-- The two machines differ by the moment, the requests and the checkpoints behind them. -/
def Alike (m m' : CrawlMachine) : Prop :=
  ∃ tick requests emitted, m' = { m with tick, requests, emitted }

namespace Crawl

/-- The crawl in another world, after another time. -/
def moved (c : Crawl) (w : CrawlWorld) (s : ℚ) : Crawl :=
  { c with world := w, elapsedBefore := s }

/-- The reason to stop while there is time and nobody cancels. -/
def exhausted (c : Crawl) (attemptsUsed : Nat) : Option CrawlTerminationReason :=
  if c.policy.maximumRequestAttempts ≤ attemptsUsed then some .requestAttemptLimitReached else none

/-- What comes of a request to a site that answers by the URL alone. -/
def answered (c : Crawl) (site : Text → FetchAnswer) (url : Text) : FetchAnswer :=
  match c.requestGuard url with
  | .error answer => answer
  | .ok () => site url

/-- The site answers by the URL alone, nobody cancels, and no wait reaches the deadline. -/
structure Calm (c : Crawl) (site : Text → FetchAnswer) : Prop where
  answer : ∀ tick url, c.world.answer tick url = site url
  cancelled : ∀ tick, c.world.cancelled tick = false
  time : ∀ tick, c.world.now tick +
    max c.policy.minimumDelaySeconds c.retryPolicy.maximumBackoffSeconds < c.deadline

/-- The two fetches end alike. -/
def Same (a b : Except CrawlFault FetchOutcome × Expended) : Prop :=
  b.1 = a.1 ∧ b.2.attemptsUsed = a.2.attemptsUsed

variable {c : Crawl} {w : CrawlWorld} {s : ℚ} {m m' : CrawlMachine} {page : CrawlPendingPage}

theorem collect_moved (baseUrl : Text) (visited : SortedSet Text) (hrefs : List Text)
    (skipCounts : SkipCounts) (candidates : SortedSet Text) :
    (c.moved w s).collect baseUrl visited hrefs skipCounts candidates =
      c.collect baseUrl visited hrefs skipCounts candidates := by
  fun_induction c.collect baseUrl visited hrefs skipCounts candidates <;>
    simp_all [collect, moved]

theorem enqueue_moved (done : Nat) (candidates : List Text) (d : Discovery) :
    (c.moved w s).enqueue done page candidates d = c.enqueue done page candidates d := by
  fun_induction c.enqueue done page candidates d <;> simp_all [enqueue, moved]

theorem discover_moved (done : Nat) (response : SafeHttpResponse) (d : Discovery) :
    (c.moved w s).discover done page response d = c.discover done page response d := by
  unfold discover
  simp only [collect_moved, enqueue_moved]
  rfl

section

variable {site : Text → FetchAnswer} (h : c.Calm site)

include h

theorem Calm.stopReason (attemptsUsed tick : Nat) :
    c.stopReason attemptsUsed tick = c.exhausted attemptsUsed := by
  have htime : ¬ c.deadline ≤ c.world.now tick := by
    have := h.time tick
    have := le_max_right c.policy.minimumDelaySeconds c.retryPolicy.maximumBackoffSeconds
    have := le_trans c.retryPolicy.initial_bounds.1 c.retryPolicy.initial_bounds.2
    linarith
  unfold Crawl.stopReason
  rw [h.cancelled, if_neg htime]
  rfl

theorem Calm.wait {seconds : ℚ}
    (hseconds : seconds ≤ max c.policy.minimumDelaySeconds c.retryPolicy.maximumBackoffSeconds)
    (attemptsUsed tick : Nat) : c.wait seconds attemptsUsed tick = c.exhausted attemptsUsed := by
  have htime : ¬ c.deadline - c.world.now (tick + 1) ≤ seconds := by
    have := h.time (tick + 1)
    linarith
  unfold Crawl.wait
  rw [h.stopReason, h.stopReason, if_neg htime]
  split <;> simp_all

theorem Calm.wait_delay (n attemptsUsed tick : Nat) :
    c.wait (c.retryPolicy.delayAfterFailure n) attemptsUsed tick = c.exhausted attemptsUsed :=
  h.wait (le_trans (min_le_right _ _) (le_max_right _ _)) attemptsUsed tick

theorem Calm.fetchOnce (url : Text) (tick : Nat) : c.fetchOnce url tick = c.answered site url := by
  unfold Crawl.fetchOnce
  rw [h.answer]
  rfl

theorem Calm.holdBack (m : CrawlMachine) : c.holdBack m = c.exhausted m.attemptsUsed := by
  unfold Crawl.holdBack
  rw [h.stopReason, h.wait (le_max_left _ _)]
  split
  · simp_all
  · split <;> simp_all

variable (h' : (c.moved w s).Calm site)

include h'

variable {spent spent' : Expended}

theorem attemptOnce_alike (serial : Nat) (attempts : List RequestAttempt)
    (hspent : spent'.attemptsUsed = spent.attemptsUsed)
    {retry retry' : Option (RequestAttempt → Except CrawlFault FetchOutcome × Expended)}
    (hretry : Option.Rel (fun f f' => ∀ attempt, Same (f attempt) (f' attempt)) retry retry') :
    Same (c.attemptOnce serial page attempts spent retry)
      ((c.moved w s).attemptOnce serial page attempts spent' retry') := by
  have hnext : ∀ result : Except CrawlFault FetchOutcome,
      Same (result, c.spentOn serial page spent)
        (result, (c.moved w s).spentOn serial page spent') :=
    fun _ => ⟨rfl, congrArg (· + 1) hspent⟩
  have hused : ((c.moved w s).spentOn serial page spent').attemptsUsed =
      (c.spentOn serial page spent).attemptsUsed := congrArg (· + 1) hspent
  have hstop : ∀ a t, (c.moved w s).stopReason a t = c.exhausted a := h'.stopReason
  have hanswer : ∀ url t, (c.moved w s).fetchOnce url t = c.answered site url := h'.fetchOnce
  have hwait : ∀ n a t, (c.moved w s).wait (c.retryPolicy.delayAfterFailure n) a t =
    c.exhausted a := h'.wait_delay
  have hpolicy : (c.moved w s).retryPolicy = c.retryPolicy := rfl
  -- Both stop, fetch and wait by the attempts alone; the clock is gone from both sides.
  unfold attemptOnce
  rw [h.stopReason, h.fetchOnce, hstop, hanswer, hspent, hpolicy]
  split
  · exact ⟨rfl, rfl⟩
  dsimp only
  split
  · exact hnext _
  · split <;> exact hnext _
  · cases hretry with
    | none => exact hnext _
    | some hretry =>
      dsimp only
      rw [h.wait_delay, hwait, hused]
      split
      · split
        · exact hnext _
        · split
          · exact hnext _
          · exact hretry _
      · exact hnext _

theorem fetchFrom_alike (serial : Nat) (retries : Nat) (attempts : List RequestAttempt)
    (hspent : spent'.attemptsUsed = spent.attemptsUsed) :
    Same (c.fetchFrom serial page retries attempts spent)
      ((c.moved w s).fetchFrom serial page retries attempts spent') := by
  induction retries generalizing attempts spent spent' with
  | zero => exact attemptOnce_alike h h' serial attempts hspent .none
  | succ retries ih =>
    refine attemptOnce_alike h h' serial attempts hspent (.some fun attempt => ih _ ?_)
    exact congrArg (· + 1) hspent

end

/-! ## Rounds -/

/-- The rounds end alike. -/
inductive TurnsAlike : Turn → Turn → Prop where
  | leave {m m' : CrawlMachine} (h : Alike m m') (reason : CrawlTerminationReason) :
      TurnsAlike (.leave m reason) (.leave m' reason)
  | fail {m m' : CrawlMachine} (h : Alike m m') (fault : CrawlFault) :
      TurnsAlike (.fail m fault) (.fail m' fault)
  | emit {m m' : CrawlMachine} (h : Alike m m') (midRetry : Bool)
      (leaving : Option CrawlTerminationReason) :
      TurnsAlike (.emit m midRetry leaving) (.emit m' midRetry leaving)

theorem afterFailure_alike (h : Alike m m') (page : CrawlPendingPage) (outcome : FetchOutcome) :
    TurnsAlike (afterFailure m page outcome) (afterFailure m' page outcome) := by
  obtain ⟨tick, requests, emitted, rfl⟩ := h
  unfold afterFailure recordFailure
  cases outcome.attempts with
  | nil =>
    dsimp only
    split <;> exact .emit ⟨_, _, _, rfl⟩ _ _
  | cons first rest =>
    cases outcome.failure with
    | none => exact .fail ⟨_, _, _, rfl⟩ _
    | some failure =>
      dsimp only
      generalize CrawlPageRecord.new _ = record
      cases record with
      | error e => exact .fail ⟨_, _, _, rfl⟩ _
      | ok record => exact .emit ⟨_, _, _, rfl⟩ _ _

theorem afterResponse_alike (h : Alike m m') (page : CrawlPendingPage)
    (response : SafeHttpResponse) (attempts : List RequestAttempt) :
    TurnsAlike (c.afterResponse m page response attempts)
      ((c.moved w s).afterResponse m' page response attempts) := by
  obtain ⟨tick, requests, emitted, rfl⟩ := h
  unfold afterResponse
  rw [discover_moved]
  dsimp only
  split
  · exact .fail ⟨_, _, _, rfl⟩ _
  · split
    · exact .fail ⟨_, _, _, rfl⟩ _
    · exact .emit ⟨_, _, _, rfl⟩ _ _

theorem turn_alike {site : Text → FetchAnswer} (h : c.Calm site) (h' : (c.moved w s).Calm site)
    (halike : Alike m m') : TurnsAlike (c.turn m) ((c.moved w s).turn m') := by
  obtain ⟨tick, requests, emitted, rfl⟩ := halike
  have hhold : ∀ m, (c.moved w s).holdBack m = c.exhausted m.attemptsUsed := h'.holdBack
  have hpolicy : (c.moved w s).policy = c.policy := rfl
  unfold turn
  rw [h.holdBack, hhold, hpolicy]
  dsimp only
  split
  · exact .leave ⟨_, _, _, rfl⟩ _
  next page rest hqueue =>
  split
  · exact .leave ⟨_, _, _, rfl⟩ _
  split
  · exact .leave ⟨_, _, _, rfl⟩ _
  obtain ⟨hresult, hspent⟩ : Same (c.fetchNext m page)
      ((c.moved w s).fetchNext { m with tick, requests, emitted } page) :=
    fetchFrom_alike h h' _ _ [] rfl
  -- The page is fetched: the results are equal, and only the times differ from here on.
  generalize c.fetchNext m page = fetch at hresult hspent ⊢
  generalize (c.moved w s).fetchNext _ page = fetch' at hresult hspent ⊢
  obtain ⟨result, spent⟩ := fetch
  obtain ⟨result', spent'⟩ := fetch'
  obtain rfl : result' = result := hresult
  have hfetched : Alike (m.fetched rest spent)
      (({ m with tick, requests, emitted } : CrawlMachine).fetched rest spent') := by
    refine ⟨spent'.tick, spent'.requests, emitted, ?_⟩
    simp only [CrawlMachine.fetched]
    rw [show spent'.attemptsUsed = spent.attemptsUsed from hspent]
  cases result' with
  | error fault => exact .fail hfetched fault
  | ok outcome =>
    dsimp only
    split
    · exact afterFailure_alike hfetched page outcome
    · exact afterResponse_alike hfetched page _ outcome.attempts

/-! ## Checkpoints and the end -/

/-- Whether a state is refused does not depend on the time that has passed. -/
theorem new_elapsed {raw raw' : CrawlResumeStateFields} (hraw : 0 ≤ raw.elapsedExecutionSeconds)
    (hraw' : 0 ≤ raw'.elapsedExecutionSeconds)
    (hsame : raw' = { raw with elapsedExecutionSeconds := raw'.elapsedExecutionSeconds })
    (e : ContractError) :
    new raw' = .error e ↔ new raw = .error e := by
  have hnew : ∀ raw : CrawlResumeStateFields,
      new raw = .error e ↔ raw.postInit = .error e := by
    intro raw
    unfold new
    split
    · next fields hfields => simp [hfields]
    · next e' he' => simp [he']
  rw [hnew, hnew, hsame]
  unfold CrawlResumeStateFields.postInit
  simp only [Atomic.bind_error_iff, hraw, hraw', decide_true, pure, Except.pure, reduceCtorEq]

section

variable (h : 0 ≤ c.elapsedBefore) (h' : 0 ≤ s)

include h h'

theorem emitCheckpoint_alike (halike : Alike m m') (midRetry midRetry' : Bool) :
    Alike (c.emitCheckpoint m midRetry) ((c.moved w s).emitCheckpoint m' midRetry') := by
  obtain ⟨tick, requests, emitted, rfl⟩ := halike
  have hraised : ∀ e, (c.moved w s).snapshot { m with tick, requests, emitted } = .error e ↔
      c.snapshot m = .error e := by
    intro e
    unfold snapshot
    dsimp only
    cases m.skipCounts.summaries with
    | error e' => exact Iff.rfl
    | ok skippedLinks =>
      exact new_elapsed (add_nonneg h (le_max_left _ _)) (add_nonneg h' (le_max_left _ _)) rfl e
  -- A state that one of them refuses is refused by the other, with the same error.
  unfold emitCheckpoint
  rw [show (c.moved w s).observed = c.observed from rfl]
  split
  · split
    · next state hstate =>
      split
      · exact ⟨_, _, _, rfl⟩
      · next e he =>
        rw [(hraised e).mp he] at hstate
        cases hstate
    · next e he =>
      rw [(hraised e).mpr he]
      exact ⟨_, _, _, rfl⟩
  · exact ⟨_, _, _, rfl⟩

theorem finish_alike (halike : Alike m m') (reason : CrawlTerminationReason) (midRetry : Bool) :
    Alike (c.finish m reason midRetry) ((c.moved w s).finish m' reason midRetry) := by
  have hdropped : Alike (dropQueue m reason) (dropQueue m' reason) ∧
      finalReason m' reason = finalReason m reason := by
    obtain ⟨tick, requests, emitted, rfl⟩ := halike
    refine ⟨?_, rfl⟩
    unfold dropQueue
    split <;> exact ⟨_, _, _, rfl⟩
  unfold finish
  rw [hdropped.2]
  obtain ⟨tick, requests, emitted, heq⟩ : Alike (c.emitCheckpoint (dropQueue m reason) midRetry)
      ((c.moved w s).emitCheckpoint (dropQueue m' reason) midRetry) :=
    emitCheckpoint_alike h h' hdropped.1 midRetry midRetry
  rw [heq]
  dsimp only
  split
  · unfold conclude
    dsimp only [moved]
    split <;> exact ⟨_, _, _, rfl⟩
  · exact ⟨_, _, _, rfl⟩

variable {site : Text → FetchAnswer}

theorem step_alike (hcalm : c.Calm site)
    (hcalm' : (c.moved w s).Calm site) (halike : Alike m m') :
    Alike (c.step m) ((c.moved w s).step m') := by
  have hturn := turn_alike hcalm hcalm' halike
  have hphase : m'.phase = m.phase := by
    obtain ⟨tick, requests, emitted, rfl⟩ := halike
    rfl
  unfold step
  rw [hphase]
  split
  · generalize c.turn m = t at hturn ⊢
    generalize (c.moved w s).turn m' = t' at hturn ⊢
    cases hturn with
    | leave halike reason => exact finish_alike h h' halike reason false
    | fail halike fault =>
      obtain ⟨tick, requests, emitted, rfl⟩ := halike
      exact ⟨_, _, _, rfl⟩
    | @emit m m' halike midRetry leaving =>
      have hemitted : Alike (c.emitCheckpoint m midRetry)
          ((c.moved w s).emitCheckpoint m' midRetry) :=
        emitCheckpoint_alike h h' halike midRetry midRetry
      have hphase : ((c.moved w s).emitCheckpoint m' midRetry).phase =
          (c.emitCheckpoint m midRetry).phase := by
        obtain ⟨tick, requests, emitted, heq⟩ := hemitted
        rw [heq]
      unfold settle
      dsimp only
      rw [hphase]
      split
      · exact finish_alike h h' hemitted _ midRetry
      · exact hemitted
  · exact halike

theorem iterate_alike (hcalm : c.Calm site)
    (hcalm' : (c.moved w s).Calm site) (halike : Alike m m') (k : Nat) :
    Alike (c.step^[k] m) ((c.moved w s).step^[k] m') := by
  induction k with
  | zero => exact halike
  | succ k ih =>
    rw [iterate_succ_apply', iterate_succ_apply']
    exact step_alike h h' hcalm hcalm' ih

end

/-! ## The machine behind a checkpoint -/

theorem crawling_of_step (h : (c.step m).phase = .crawling) : m.phase = .crawling := by
  by_contra hphase
  rw [step_of_not_crawling hphase] at h
  exact hphase h

theorem crawling_of_iterate {n : Nat} (h : (c.step^[n] m).phase = .crawling) :
    m.phase = .crawling := by
  induction n with
  | zero => exact h
  | succ n ih =>
    rw [iterate_succ_apply'] at h
    exact ih (crawling_of_step h)

/-- Each page was on the queue, whose depths are bounded. -/
theorem pagesDepth_step (hkept : Kept c m)
    (h : ∀ page ∈ m.pages, page.depth ≤ c.policy.maximumDepth) :
    ∀ page ∈ (c.step m).pages, page.depth ≤ c.policy.maximumDepth := by
  have hrecorded : ∀ (page : CrawlPendingPage) (record : CrawlPageRecord), page ∈ m.queue →
      record.depth = page.depth →
        ∀ other ∈ m.pages ++ [record], other.depth ≤ c.policy.maximumDepth := by
    intro page record hpage hdepth other hother
    rcases List.mem_append.mp hother with hother | hother
    · exact h other hother
    · rw [List.mem_singleton.mp hother, hdepth]
      exact hkept.queueDepth page hpage
  by_cases hphase : m.phase = .crawling
  · rw [step_of_crawling hphase, settle_pages]
    have hturn := turn_cases (c := c) m
    generalize c.turn m = t at hturn ⊢
    cases hturn with
    | failed page rest spent attempts code retryable reason record hfetch _ _ hrecord =>
      exact hrecorded page record (by simp [hfetch.queue]) (CrawlPageRecord.new_place hrecord).2.1
    | succeeded page rest spent response attempts d links record hfetch _ hrecord =>
      exact hrecorded page record (by simp [hfetch.queue]) (CrawlPageRecord.new_place hrecord).2.1
    -- The other ends of a round record no page.
    | _ => exact h
  · rw [step_of_not_crawling hphase]
    exact h

end Crawl

namespace CrawlCall

open Crawl

variable {call : CrawlCall} {resume : Option CrawlResumeState} {tick : Nat} {c : Crawl}
  {m : CrawlMachine}

/-- While the crawl goes on, its machine has just emitted a checkpoint. -/
theorem emitted_of_crawling (h : call.begin resume tick = .ok (c, m)) (n : Nat)
    (hphase : (c.step^[n] m).phase = .crawling) :
    ∃ p midRetry, c.step^[n] m = c.emitCheckpoint p midRetry := by
  cases n with
  | zero =>
    cases resume with
    | none =>
      obtain ⟨rootUrl, root, -, rfl, -, heq⟩ := begin_fresh h
      exact ⟨_, _, heq⟩
    | some state =>
      obtain ⟨-, rfl, -, -, -, -, heq⟩ := begin_resumed h
      exact ⟨_, _, heq⟩
  | succ n =>
    rw [iterate_succ_apply'] at hphase ⊢
    obtain ⟨p, midRetry, -, heq⟩ := turn_of_step (crawling_of_step hphase) hphase
    exact ⟨p, midRetry, heq⟩

/-- The root is refused by the first checkpoint if it has white space at its ends. -/
theorem root_of_crawling (h : call.begin resume tick = .ok (c, m)) (hobserved : c.observed = true)
    (hphase : m.phase = .crawling) :
    call.rootUrl = .ok c.rootUrl ∧ stripped c.rootUrl = c.rootUrl ∧
      c = call.crawl c.rootUrl c.elapsedBefore := by
  cases resume with
  | none =>
    obtain ⟨rootUrl, root, hurl, rfl, hplace, rfl⟩ := begin_fresh h
    refine ⟨hurl, ?_, rfl⟩
    obtain ⟨_, hfits⟩ := fits_of_emitted hobserved hphase
    have hvisited := SortedSet.toList_injective hfits.visited_eq
    have hmem : rootUrl ∈ (freshMachine root rootUrl tick).visited := by simp [freshMachine]
    rw [hvisited] at hmem
    have hroot : rootUrl = root.url := by simpa [freshMachine, crawlUrls] using hmem
    have hstripped : root.url = stripped rootUrl := congrArg Prod.fst hplace
    show stripped rootUrl = rootUrl
    rw [← hstripped, ← hroot]
  | some state =>
    obtain ⟨hurl, rfl, -⟩ := begin_resumed h
    exact ⟨hurl, state.resumable.2.2.1, rfl⟩

theorem elapsedBefore_of_begin (h : call.begin resume tick = .ok (c, m)) :
    0 ≤ c.elapsedBefore := by
  cases resume with
  | none =>
    obtain ⟨rootUrl, root, -, rfl, -⟩ := begin_fresh h
    exact le_refl 0
  | some state =>
    obtain ⟨-, rfl, -⟩ := begin_resumed h
    exact state.resumable.2.1

theorem pagesDepth_iterate (h : call.begin resume tick = .ok (c, m)) (n : Nat) :
    ∀ page ∈ (c.step^[n] m).pages, page.depth ≤ c.policy.maximumDepth := by
  induction n with
  | zero =>
    cases resume with
    | none =>
      obtain ⟨rootUrl, root, -, rfl, -, rfl⟩ := begin_fresh h
      simp [freshMachine]
    | some state =>
      obtain ⟨-, rfl, -, hdepth, -, -, rfl⟩ := begin_resumed h
      intro page hpage
      exact hdepth page (by simpa [resumedMachine] using hpage)
  | succ n ih =>
    rw [iterate_succ_apply']
    exact pagesDepth_step (kept_iterate (kept_begin h) n) ih

variable {state : CrawlResumeState}

variable (call) in
theorem begin_of_resumable (hurl : call.rootUrl = .ok state.rootUrl)
    (hroom : state.pages.length + state.pendingPages.length ≤ call.policy.maximumPages)
    (hpages : ∀ page ∈ state.pages, page.depth ≤ call.policy.maximumDepth)
    (hpending : ∀ page ∈ state.pendingPages, page.depth ≤ call.policy.maximumDepth)
    (hattempts : state.attemptsUsed ≤ call.policy.maximumRequestAttempts) (tick : Nat) :
    call.begin (some state) tick = .ok (call.crawl state.rootUrl state.elapsedExecutionSeconds,
      (call.crawl state.rootUrl state.elapsedExecutionSeconds).emitCheckpoint
        (resumedMachine state tick) false) := by
  have hdepth : (state.pages.all (·.depth ≤ call.policy.maximumDepth) &&
      state.pendingPages.all (·.depth ≤ call.policy.maximumDepth)) = true := by
    rw [Bool.and_eq_true, List.all_eq_true, List.all_eq_true]
    exact ⟨fun page hpage => by simpa using hpages page hpage,
      fun page hpage => by simpa using hpending page hpage⟩
  show call.beginResumed state tick = _
  unfold beginResumed
  simp only [Atomic.bind_ok_iff, require_eq_ok]
  exact ⟨_, hurl, (), decide_eq_true rfl, (), decide_eq_true hroom, (), hdepth, (),
    decide_eq_true hattempts, rfl⟩

/-- Before its first checkpoint a resumed crawl has the machine that was captured. -/
theorem alike_of_captured {p : CrawlMachine} (h : Captured c p state)
    (hphase : p.phase = .crawling) (tick : Nat) : Alike p (resumedMachine state tick) := by
  have hvisited : SortedSet.ofList state.visitedUrls = p.visited := by
    rw [h.visitedUrls, SortedSet.ofList_toList]
  refine ⟨tick, [], [], ?_⟩
  unfold resumedMachine
  rw [h.pages, h.pendingPages, h.attemptsUsed, h.skipCounts, hvisited, hphase]

end CrawlCall

open Crawl in
/--
**A crawl that resumes any checkpoint goes on as the crawl that was not stopped**, from step to
step and to the end.

The site answers both by the URL alone. The other crawl is called later, in another world: it
may not be cancelled either, and no wait of it reaches what is left of the time.
-/
theorem resume_equivalence {call : CrawlCall} {resume : Option CrawlResumeState} {tick : Nat}
    {c : Crawl} {m : CrawlMachine} (h : call.begin resume tick = .ok (c, m))
    (hobserved : c.observed = true) {n : Nat} (hphase : (c.step^[n] m).phase = .crawling)
    {e : Emission} (he : (c.step^[n] m).emitted.getLast? = some e) {site : Text → FetchAnswer}
    (hcalm : c.Calm site) {w : CrawlWorld}
    (hcalm' : (c.moved w e.state.elapsedExecutionSeconds).Calm site) (tick' : Nat) :
    ∃ m', ({ call with world := w }).begin (some e.state) tick' =
        .ok (c.moved w e.state.elapsedExecutionSeconds, m') ∧
      ∀ k, Alike (c.step^[n + k] m)
        ((c.moved w e.state.elapsedExecutionSeconds).step^[k] m') := by
  have hstart := crawling_of_iterate hphase
  obtain ⟨hurl, hroot, hcall⟩ := CrawlCall.root_of_crawling h hobserved hstart
  obtain ⟨-, hpolicy, -⟩ := CrawlCall.context_of_begin h
  have hkept := kept_iterate (CrawlCall.kept_begin h) n
  have hdepth := CrawlCall.pagesDepth_iterate h n
  obtain ⟨p, midRetry, heq⟩ := CrawlCall.emitted_of_crawling h n hphase
  rw [heq] at hphase he hkept hdepth
  obtain ⟨hp, hcaptured⟩ : p.phase = .crawling ∧ Captured c p e.state := by
    unfold emitCheckpoint at hphase he
    rw [if_pos hobserved] at hphase he
    split at hphase
    · next state hstate =>
      rw [hstate] at he
      simp only [List.getLast?_append, List.getLast?_singleton, Option.some_or,
        Option.some.injEq] at he
      subst he
      exact ⟨hphase, captured_of_snapshot hstate⟩
    · cases hphase
  have hurl' : call.rootUrl = .ok e.state.rootUrl := by rw [hurl, hcaptured.rootUrl, hroot]
  have hroom : e.state.pages.length + e.state.pendingPages.length ≤ call.policy.maximumPages := by
    rw [hcaptured.pages, hcaptured.pendingPages, ← hpolicy]
    simpa using hkept.pages
  have hpages : ∀ page ∈ e.state.pages, page.depth ≤ call.policy.maximumDepth := by
    rw [hcaptured.pages, ← hpolicy]
    simpa using hdepth
  have hpending : ∀ page ∈ e.state.pendingPages, page.depth ≤ call.policy.maximumDepth := by
    rw [hcaptured.pendingPages, ← hpolicy]
    simpa using hkept.queueDepth
  have hattempts : e.state.attemptsUsed ≤ call.policy.maximumRequestAttempts := by
    rw [hcaptured.attemptsUsed, ← hpolicy]
    simpa using hkept.attempts.2
  have hbegin := ({ call with world := w } : CrawlCall).begin_of_resumable hurl' hroom hpages
    hpending hattempts tick'
  have hmoved : ({ call with world := w } : CrawlCall).crawl e.state.rootUrl
      e.state.elapsedExecutionSeconds = c.moved w e.state.elapsedExecutionSeconds := by
    rw [hcaptured.rootUrl, hroot, hcall]
    rfl
  rw [hmoved] at hbegin
  refine ⟨_, hbegin, ?_⟩
  intro k
  have hbefore := CrawlCall.elapsedBefore_of_begin h
  have hafter := e.state.resumable.2.1
  rw [Nat.add_comm, iterate_add_apply, heq]
  apply iterate_alike hbefore hafter hcalm hcalm'
  exact emitCheckpoint_alike hbefore hafter (CrawlCall.alike_of_captured hcaptured hp tick')
    midRetry false

omit [StandardLibrary] in
/-- The root of a small site and its links: stopped behind the root, and resumed. -/
theorem resume_equivalence_links :
    letI := sampleLibrary
    ∃ c m e m', (sampleCrawlCall (.responded (sampleResponse ["/a", "/b/"])) true).begin none 0 =
        .ok (c, m) ∧
      (sampleCrawlCall (.responded (sampleResponse ["/a", "/b/"])) true).begin (some e) 7 =
        .ok (c.moved c.world e.elapsedExecutionSeconds, m') ∧
      ∀ k, Alike (c.step^[1 + k] m) ((c.moved c.world e.elapsedExecutionSeconds).step^[k] m') := by
  let _ := sampleLibrary
  obtain ⟨c, m, hbegin, hobserved, hphase, hlast, helapsed⟩ : ∃ c m,
      (sampleCrawlCall (.responded (sampleResponse ["/a", "/b/"])) true).begin none 0 =
        .ok (c, m) ∧ c.observed = true ∧ (c.step^[1] m).phase = .crawling ∧
      (c.step^[1] m).emitted.getLast?.isSome = true ∧
      ((c.step^[1] m).emitted.getLast?.all (·.state.elapsedExecutionSeconds = 0)) = true := by
    refine ⟨_, _, rfl, ?_, ?_, ?_, ?_⟩ <;> decide +kernel
  obtain ⟨e, he⟩ := Option.isSome_iff_exists.mp hlast
  rw [he, Option.all_some, decide_eq_true_eq] at helapsed
  have hcalm : ∀ rootUrl, ((sampleCrawlCall (.responded (sampleResponse ["/a", "/b/"])) true).crawl
      rootUrl 0).Calm fun _ => .responded (sampleResponse ["/a", "/b/"]) := by
    intro rootUrl
    refine ⟨fun _ _ => rfl, fun _ => rfl, ?_⟩
    intro tick
    norm_num [Crawl.deadline, CrawlCall.crawl, sampleCrawlCall, sampleWorld, samplePolicy,
      sampleRetryPolicy]
  obtain ⟨rootUrl, root, -, rfl, -⟩ := CrawlCall.begin_fresh hbegin
  have hcalm' := hcalm rootUrl
  rw [← helapsed] at hcalm'
  obtain ⟨m', hresumed, halike⟩ :=
    resume_equivalence hbegin hobserved hphase he (hcalm rootUrl) hcalm' 7
  exact ⟨_, m, e.state, m', hbegin, hresumed, halike⟩

end WebGuard
