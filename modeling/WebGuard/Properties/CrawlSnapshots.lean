import WebGuard.Lib.BreadthFirst
import WebGuard.Properties.CrawlEnvelope

/-!
# Checkpoints of a crawl

A crawl with an observer builds a `CrawlResumeState` after each page. The constructor compares
the visited URLs, which are the links as they were found, with the URLs of the pages and of the
queue, which were stripped. It also refuses a count of skipped links above the largest 32-bit
number. In rounds that have neither, no checkpoint raises (`checkpoints_never_raise`).
-/

namespace WebGuard

open UrlParse StandardLibrary List Function

variable [StandardLibrary]

/-- The largest count of skipped links. -/
def maximumSkipCount : Nat := 2147483647

variable {page : CrawlPendingPage}

namespace Crawl

variable {c : Crawl} {m : CrawlMachine}

variable (c) in
/-- The links of the page that is fetched, and a queue that is dropped, can be counted. -/
def CountableRound (m : CrawlMachine) : Prop :=
  (∀ page response, c.responseOf m = some (page, response) → ∀ reason,
    m.skipCounts reason + response.hrefs.length ≤ maximumSkipCount) ∧
  ∀ page rest, m.queue = page :: rest → page.depth = 0 →
    m.skipCounts .pageLimit + rest.length ≤ maximumSkipCount

/-- No checkpoint has raised. -/
def Unbroken (m : CrawlMachine) : Prop := ∀ e, m.phase ≠ .raised (.snapshot e)

/-- A checkpoint can be taken of the machine, if there is an observer. -/
def Checkable (c : Crawl) (m : CrawlMachine) : Prop := c.observed = true → Capturable c m

theorem Checkable.phase_emitCheckpoint (h : Checkable c m) (midRetry : Bool) :
    (c.emitCheckpoint m midRetry).phase = m.phase := by
  by_cases hobserved : c.observed = true
  · exact (h hobserved).phase_emitCheckpoint midRetry
  · unfold emitCheckpoint
    rw [if_neg hobserved]

theorem Checkable.emitCheckpoint (h : Checkable c m) (midRetry : Bool) :
    Checkable c (c.emitCheckpoint m midRetry) := by
  intro hobserved
  apply (h hobserved).congr <;> simp

/-! ## The end -/

/-- The end keeps the queue, or can count it. -/
def Droppable (c : Crawl) (m : CrawlMachine) (reason : CrawlTerminationReason) : Prop :=
  c.observed = true → reason.isEarly = true ∨
    m.skipCounts .pageLimit + m.queue.length ≤ maximumSkipCount

theorem conclude_unbroken (reason : CrawlTerminationReason) : Unbroken (c.conclude m reason) := by
  intro e
  unfold conclude
  split
  · simp
  · simp

variable {reason : CrawlTerminationReason}

theorem Checkable.dropQueue (h : Checkable c m) (hcount : Droppable c m reason) :
    Checkable c (dropQueue m reason) := by
  intro hobserved
  have hm := h hobserved
  unfold Crawl.dropQueue
  split
  · exact hm
  · next hearly =>
    refine ⟨hm.root, hm.elapsed, hm.fits.drop, ?_⟩
    intro other
    have hother := hm.counts other
    have hcount := (hcount hobserved).resolve_left hearly
    unfold maximumSkipCount at hcount
    simp only [SkipCounts.add_apply]
    split
    · next heq =>
      subst heq
      exact hcount
    · exact hother

theorem Checkable.finish (h : Checkable c m) (hphase : m.phase = .crawling) (midRetry : Bool)
    (hcount : Droppable c m reason) : Unbroken (c.finish m reason midRetry) := by
  have hemit := (h.dropQueue hcount).phase_emitCheckpoint midRetry
  rw [dropQueue_phase, hphase] at hemit
  unfold Crawl.finish
  simp only [hemit]
  exact conclude_unbroken _

variable {leaving : Option CrawlTerminationReason}

theorem Checkable.settle (h : Checkable c m) (hphase : m.phase = .crawling) (midRetry : Bool)
    (hcount : ∀ reason, leaving = some reason → Droppable c m reason) :
    Unbroken (c.settle (.emit m midRetry leaving)) := by
  have hemit : (c.emitCheckpoint m midRetry).phase = .crawling :=
    (h.phase_emitCheckpoint midRetry).trans hphase
  cases leaving with
  | none =>
    rw [settle_emit_none]
    intro e
    simp [hemit]
  | some reason =>
    simp only [Crawl.settle, hemit]
    apply (h.emitCheckpoint midRetry).finish hemit midRetry
    simpa [Droppable] using hcount reason rfl

/-! ## Rounds -/

theorem isEarly_of_holdBack (h : c.holdBack m = some reason) : reason.isEarly = true := by
  unfold holdBack at h
  split at h
  · next reason' hstop =>
    cases h
    exact isEarly_of_stopReason hstop
  · split at h
    · exact isEarly_of_wait h
    · cases h

theorem fault_of_enqueue {done : Nat} {candidates : List Text} {d : Discovery}
    {fault : CrawlFault} (h : c.enqueue done page candidates d = .error fault) :
    ∃ e, fault = .pending e := by
  induction candidates generalizing d with
  | nil => cases h
  | cons candidate rest ih =>
    rw [enqueue] at h
    split at h
    · exact ih h
    · split at h
      · next e _ =>
        cases h
        exact ⟨e, rfl⟩
      · exact ih h

theorem fault_of_discover {done : Nat} {response : SafeHttpResponse} {d : Discovery}
    {fault : CrawlFault} (h : c.discover done page response d = .error fault) :
    ∃ e, fault = .pending e := by
  unfold discover at h
  split at h
  · simp only at h
    split at h
    · next fault' henqueue =>
      cases h
      exact fault_of_enqueue henqueue
    · cases h
  · cases h

theorem Checkable.turn (h : Checkable c m)
    (hround : c.observed = true → c.TidyRound m ∧ c.CountableRound m) {m' : CrawlMachine}
    {midRetry : Bool} (hturn : Turned c m (.emit m' midRetry leaving)) : Checkable c m' := by
  intro hobserved
  have hm := h hobserved
  obtain ⟨htidy, hcountable⟩ := hround hobserved
  refine ⟨hm.root, hm.elapsed, hm.fits.turn htidy hturn, ?_⟩
  cases hturn with
  | returned => exact hm.counts
  | failed => exact hm.counts
  | succeeded page rest spent response attempts d links record hfetch hdiscover hrecord =>
    obtain ⟨added, taken, hd⟩ := discover_spec hdiscover
    intro reason
    have := hd.skipCounts reason
    have := hcountable.1 page response hfetch.responseOf_eq reason
    unfold maximumSkipCount at this
    simp only at *
    omega

theorem checkable_step (hphase : m.phase = .crawling) (hkept : Kept c m) (h : Checkable c m)
    (hround : c.observed = true → c.TidyRound m ∧ c.CountableRound m) :
    Unbroken (c.step m) ∧ ((c.step m).phase = .crawling → Checkable c (c.step m)) := by
  have hturn := turn_cases (c := c) m
  constructor
  · rw [step_of_crawling hphase]
    generalize c.turn m = t at hturn
    cases hturn with
    | ended hended =>
      -- The loop ends for want of pages, or of room for the queue: nothing is dropped.
      apply h.finish hphase
      intro hobserved
      have hcount := (h hobserved).counts .pageLimit
      have hroom := hkept.pages
      have hempty : m.queue.length = 0 := by
        rcases hended with hqueue | hfull
        · simp [hqueue]
        · omega
      unfold maximumSkipCount
      omega
    | heldBack reason hqueue hroom hhold =>
      have hlater : Checkable c { m with tick := m.tick + 4 } :=
        fun hobserved => (h hobserved).congr rfl rfl rfl rfl rfl
      exact hlater.finish hphase false fun _ => Or.inl (isEarly_of_holdBack hhold)
    | raised page rest spent fault hfetch hfault =>
      intro e
      rcases hfault with rfl | ⟨e', rfl⟩
      · simp [settle]
      · simp [settle]
    | returned page rest spent reason hfetch hearly =>
      refine (h.turn hround (.returned page rest spent reason hfetch hearly)).settle hphase _ ?_
      intro other hother _
      cases hother
      exact Or.inl hearly
    | failed page rest spent attempts code retryable reason record hfetch hne hearly hrecord =>
      have hturned := Turned.failed page rest spent attempts code retryable reason record hfetch
        hne hearly hrecord
      refine (h.turn hround hturned).settle hphase _ ?_
      intro other hother hobserved
      cases reason with
      | some reason =>
        cases hother
        exact Or.inl (hearly _ rfl)
      | none =>
        by_cases hdepth : page.depth = 0
        · exact Or.inr ((hround hobserved).2.2 page rest hfetch.queue hdepth)
        · simp [hdepth] at hother
    | refused page rest spent response attempts fault hfetch hdiscover =>
      intro e
      obtain ⟨e', rfl⟩ := fault_of_discover hdiscover
      simp [settle]
    | succeeded page rest spent response attempts d links record hfetch hdiscover hrecord =>
      have hturned := Turned.succeeded page rest spent response attempts d links record hfetch
        hdiscover hrecord
      refine (h.turn hround hturned).settle hphase _ ?_
      intro other hother
      cases hother
  · intro hcrawling
    obtain ⟨m', midRetry, heq, hemit⟩ := turn_of_step hphase hcrawling
    rw [heq] at hturn
    rw [hemit]
    exact (h.turn hround hturn).emitCheckpoint midRetry

theorem checkable_iterate (hkept : Kept c m) (hunbroken : Unbroken m)
    (h : m.phase = .crawling → Checkable c m) (n : Nat)
    (hrounds : c.observed = true → ∀ k < n,
      c.TidyRound (c.step^[k] m) ∧ c.CountableRound (c.step^[k] m)) :
    Unbroken (c.step^[n] m) ∧
      ((c.step^[n] m).phase = .crawling → Checkable c (c.step^[n] m)) := by
  induction n with
  | zero => exact ⟨hunbroken, h⟩
  | succ n ih =>
    rw [iterate_succ_apply']
    obtain ⟨hbefore, hcheckable⟩ :=
      ih fun hobserved k hk => hrounds hobserved k (Nat.lt_succ_of_lt hk)
    by_cases hphase : (c.step^[n] m).phase = .crawling
    · exact checkable_step hphase (kept_iterate hkept n) (hcheckable hphase)
        fun hobserved => hrounds hobserved n (Nat.lt_succ_self n)
    · rw [step_of_not_crawling hphase]
      exact ⟨hbefore, hcheckable⟩

end Crawl

/-! ## The beginning -/

omit [StandardLibrary] in
theorem SkipCounts.ofSummaries_le (links : List CrawlSkipSummary) (reason : CrawlSkipReason) :
    SkipCounts.ofSummaries links reason ≤ maximumSkipCount := by
  unfold SkipCounts.ofSummaries
  cases (links.filter (·.reason = reason)).getLast? with
  | none => simp
  | some link => exact link.bounds.2

namespace CrawlCall

open Crawl

variable {call : CrawlCall} {tick : Nat} {c : Crawl} {m : CrawlMachine}

theorem checkable_begin {resume : Option CrawlResumeState}
    (h : call.begin resume tick = .ok (c, m))
    (hroot : c.observed = true → resume = none → stripped c.rootUrl = c.rootUrl) :
    Unbroken m ∧ Checkable c m := by
  have hemitted : ∀ first : CrawlMachine, first.phase = .crawling → Checkable c first →
      m = c.emitCheckpoint first false → Unbroken m ∧ Checkable c m := by
    rintro first hphase hfirst rfl
    refine ⟨?_, hfirst.emitCheckpoint false⟩
    intro e
    rw [hfirst.phase_emitCheckpoint, hphase]
    simp
  cases resume with
  | none =>
    obtain ⟨rootUrl, root, hurl, rfl, hplace, rfl⟩ := begin_fresh h
    refine hemitted _ rfl ?_ rfl
    intro hobserved
    have htidy := hroot hobserved rfl
    refine ⟨auditUrl_canonical (rootUrl_eq_ok hurl) htidy _, le_refl 0,
      fits_freshMachine hplace htidy, ?_⟩
    intro reason
    exact Nat.zero_le _
  | some state =>
    obtain ⟨-, rfl, -, -, -, -, rfl⟩ := begin_resumed h
    obtain ⟨-, helapsed, -, haudit⟩ := state.resumable
    refine hemitted _ rfl ?_ rfl
    intro hobserved
    exact ⟨haudit, helapsed, fits_resumedMachine state,
      SkipCounts.ofSummaries_le state.skippedLinks⟩

end CrawlCall

/-! ## Every checkpoint -/

variable {call : CrawlCall} {resume : Option CrawlResumeState} {tick : Nat} {c : Crawl}
    {m : CrawlMachine}

/--
**No checkpoint raises** in a crawl whose rounds are tidy and whose links can be counted.

Without an observer no checkpoint is built, and there is no condition.
-/
theorem checkpoints_never_raise (h : call.begin resume tick = .ok (c, m)) (n : Nat)
    (hroot : c.observed = true → resume = none → stripped c.rootUrl = c.rootUrl)
    (hrounds : c.observed = true → ∀ k < n,
      c.TidyRound (c.step^[k] m) ∧ c.CountableRound (c.step^[k] m)) :
    ∀ e, (c.step^[n] m).phase ≠ .raised (.snapshot e) := by
  obtain ⟨hunbroken, hcheckable⟩ := CrawlCall.checkable_begin h hroot
  exact (Crawl.checkable_iterate (CrawlCall.kept_begin h) hunbroken (fun _ => hcheckable) n
    hrounds).1

omit [StandardLibrary] in
/-- The root of a small site is crawled, with its links. -/
theorem checkpoints_never_raise_links :
    letI := sampleLibrary
    ∃ c m, (sampleCrawlCall (.responded (sampleResponse ["/a", "/b/"])) true).begin none 0 = .ok (c, m) ∧
      ∀ e, (c.step^[1] m).phase ≠ .raised (.snapshot e) := by
  let _ := sampleLibrary
  obtain ⟨c, m, hbegin, hroot, hlinks, hcounts, hqueue⟩ : ∃ c m,
      (sampleCrawlCall (.responded (sampleResponse ["/a", "/b/"])) true).begin none 0 = .ok (c, m) ∧
      stripped c.rootUrl = c.rootUrl ∧
      ((c.responseOf m).all fun (page, response) => response.hrefs.all fun href =>
        match canonicalCandidate href page.url c.target.origin c.policy with
        | .ok url => decide (stripped url = url)
        | .error _ => true) = true ∧
      ((c.responseOf m).all fun (_, response) => response.hrefs.length ≤ 2) = true ∧
      (∀ reason, m.skipCounts reason = 0) ∧ m.queue.length = 1 := by
    refine ⟨_, _, rfl, ?_, ?_, ?_, ?_, ?_⟩
    · decide
    · decide +kernel
    · decide +kernel
    · intro reason
      cases reason <;> decide +kernel
    · decide +kernel
  refine ⟨c, m, hbegin, checkpoints_never_raise hbegin 1 (fun _ _ => hroot) ?_⟩
  intro _ k hk
  obtain rfl : k = 0 := by omega
  refine ⟨?_, ?_, ?_⟩
  · intro page response hresponse href hhref url hurl
    rw [iterate_zero_apply] at hresponse
    rw [hresponse] at hlinks
    have := all_eq_true.mp hlinks href hhref
    rw [hurl] at this
    simpa using this
  · intro page response hresponse reason
    rw [iterate_zero_apply] at hresponse ⊢
    rw [hresponse] at hcounts
    simp [hqueue.1, maximumSkipCount] at hcounts ⊢
    omega
  · intro page rest heq _
    rw [iterate_zero_apply] at heq ⊢
    have := hqueue.2
    rw [heq] at this
    simp at this
    simp [this, hqueue.1, maximumSkipCount]

omit [StandardLibrary] in
/-- A link with a no-break space at its end: the checkpoint behind the root raises. -/
theorem checkpoint_raises :
    letI := sampleLibrary
    ∃ c m, (sampleCrawlCall (.responded (sampleResponse ["/a\u00a0?x=1"])) true).begin none 0 =
      .ok (c, m) ∧
        (c.step^[1] m).phase = .raised (.snapshot ⟨"resume_visited_inconsistent",
          "visited_urls must be the sorted attempted and pending URL projection."⟩) := by
  let _ := sampleLibrary
  refine ⟨_, _, rfl, ?_⟩
  decide +kernel

/-! ## Breadth-first order -/

open BreadthFirst in
def CrawlPendingPage.node (page : CrawlPendingPage) : Node Text :=
  ⟨page.url, page.depth, page.parentUrl⟩

open BreadthFirst in
def CrawlPageRecord.visit (record : CrawlPageRecord) : Visit Text :=
  ⟨⟨record.url, record.depth, record.parentUrl⟩, record.outcome.isSucceeded⟩

/-- The pages were fetched, and the queue stands, in breadth-first order. -/
def InOrder (pages : List CrawlPageRecord) (queue : List CrawlPendingPage) : Prop :=
  BreadthFirst.Layered (pages.map (·.visit)) (queue.map (·.node))

variable {pages : List CrawlPageRecord}

theorem InOrder.sublist {queue rest : List CrawlPendingPage}
    (h : InOrder pages queue) (hrest : rest.Sublist queue) : InOrder pages rest :=
  BreadthFirst.Layered.sublist h (hrest.map _)

theorem InOrder.visit {rest added : List CrawlPendingPage}
    {outcome : CrawlPageOutcome} {attempts : List RequestAttempt} {record : CrawlPageRecord}
    (h : InOrder pages (page :: rest))
    (hrecord : CrawlPageRecord.new ⟨page.url, page.depth, page.parentUrl, outcome, attempts⟩ =
      .ok record)
    (hplaces : ∀ pending ∈ added,
      pending.depth = page.depth + 1 ∧ pending.parentUrl = some page.url)
    (hok : added ≠ [] → outcome.isSucceeded = true) :
    InOrder (pages ++ [record]) (rest ++ added) := by
  obtain ⟨hurl, hdepth, hparent, -, hsucceeded⟩ := CrawlPageRecord.new_place hrecord
  have hvisit : record.visit = ⟨page.node, outcome.isSucceeded⟩ := by
    simp [CrawlPageRecord.visit, CrawlPendingPage.node, hurl, hdepth, hparent, hsucceeded]
  unfold InOrder at h ⊢
  rw [map_cons] at h
  rw [map_append, map_append, map_singleton, hvisit]
  refine h.visit ?_ ?_
  · intro n hn
    obtain ⟨pending, hpending, rfl⟩ := mem_map.mp hn
    exact hplaces pending hpending
  · intro hne
    exact hok (by simpa using hne)

namespace Crawl

variable {c : Crawl} {m : CrawlMachine}

/-- The machine is in order, and every checkpoint was when it was taken. -/
structure Ordered (m : CrawlMachine) : Prop where
  machine : InOrder m.pages m.queue
  checkpoints : ∀ e ∈ m.emitted, InOrder e.state.pages e.state.pendingPages

theorem Ordered.emitCheckpoint (h : Ordered m) (midRetry : Bool) :
    Ordered (c.emitCheckpoint m midRetry) := by
  refine ⟨by simpa using h.machine, ?_⟩
  unfold Crawl.emitCheckpoint
  split
  · split
    · next state hstate =>
      have hcaptured := captured_of_snapshot hstate
      intro e he
      rcases mem_append.mp he with he | he
      · exact h.checkpoints e he
      · rw [mem_singleton.mp he, hcaptured.pages, hcaptured.pendingPages]
        exact h.machine
    · exact h.checkpoints
  · exact h.checkpoints

theorem Ordered.finish (h : Ordered m) (reason : CrawlTerminationReason) (midRetry : Bool) :
    Ordered (c.finish m reason midRetry) := by
  have hdropped : Ordered (Crawl.dropQueue m reason) := by
    unfold Crawl.dropQueue
    split
    · exact h
    · exact ⟨h.machine.sublist (nil_sublist _), h.checkpoints⟩
  obtain ⟨hmachine, hcheckpoints⟩ := hdropped.emitCheckpoint (c := c) midRetry
  obtain ⟨phase, -, heq⟩ := finish_eq c m midRetry reason
  rw [heq]
  exact ⟨hmachine, hcheckpoints⟩

theorem Ordered.turn (h : Ordered m) {t : Turn} (hturn : Turned c m t) : Ordered t.machine := by
  -- A page that raises is off the queue, and has no record.
  have hskip : ∀ page rest spent, m.queue = page :: rest → Ordered (m.fetched rest spent) := by
    intro page rest spent hqueue
    exact ⟨h.machine.sublist (hqueue ▸ sublist_cons_self page rest), h.checkpoints⟩
  have hfront : ∀ page rest, m.queue = page :: rest → InOrder m.pages (page :: rest) := by
    intro page rest hqueue
    rw [← hqueue]
    exact h.machine
  cases hturn with
  | ended _ => exact h
  | heldBack _ _ _ _ => exact ⟨h.machine, h.checkpoints⟩
  | raised page rest spent fault hfetch _ => exact hskip page rest spent hfetch.queue
  | returned page rest spent reason hfetch _ =>
    exact ⟨hfront page rest hfetch.queue, h.checkpoints⟩
  | failed page rest spent attempts code retryable reason record hfetch _ _ hrecord =>
    have hvisit : InOrder (m.pages ++ [record]) (rest ++ []) :=
      (hfront page rest hfetch.queue).visit hrecord (by simp) (by simp)
    rw [append_nil] at hvisit
    exact ⟨hvisit, h.checkpoints⟩
  | refused page rest spent response attempts fault hfetch _ =>
    exact hskip page rest spent hfetch.queue
  | succeeded page rest spent response attempts d links record hfetch hdiscover hrecord =>
    obtain ⟨added, taken, hd⟩ := discover_spec hdiscover
    refine ⟨?_, h.checkpoints⟩
    show InOrder (m.pages ++ [record]) d.queue
    rw [hd.queue]
    exact (hfront page rest hfetch.queue).visit hrecord hd.places fun _ => rfl

theorem Ordered.step (h : Ordered m) : Ordered (c.step m) := by
  by_cases hphase : m.phase = .crawling
  · rw [step_of_crawling hphase]
    have hturn := h.turn (turn_cases (c := c) m)
    cases hcase : c.turn m with
    | leave m' reason =>
      rw [hcase] at hturn
      exact Ordered.finish hturn reason false
    | fail m' fault =>
      rw [hcase] at hturn
      exact ⟨hturn.machine, hturn.checkpoints⟩
    | emit m' midRetry leaving =>
      rw [hcase] at hturn
      have hemitted := Ordered.emitCheckpoint (c := c) hturn midRetry
      simp only [Crawl.settle]
      split
      · exact hemitted.finish _ _
      · exact hemitted
  · rw [step_of_not_crawling hphase]
    exact h

theorem Ordered.iterate (h : Ordered m) (n : Nat) : Ordered (c.step^[n] m) := by
  induction n with
  | zero => exact h
  | succ n ih =>
    rw [iterate_succ_apply']
    exact ih.step

end Crawl

theorem CrawlCall.ordered_begin (h : call.begin resume tick = .ok (c, m))
    (hresume : ∀ state, resume = some state → InOrder state.pages state.pendingPages) :
    Crawl.Ordered m := by
  cases resume with
  | none =>
    obtain ⟨rootUrl, root, -, rfl, hplace, rfl⟩ := begin_fresh h
    simp only [CrawlPendingPage.place, Prod.mk.injEq] at hplace
    refine Crawl.Ordered.emitCheckpoint ⟨?_, fun _ he => absurd he not_mem_nil⟩ false
    exact BreadthFirst.layered_root hplace.2.1 hplace.2.2
  | some state =>
    obtain ⟨-, rfl, -, -, -, -, rfl⟩ := begin_resumed h
    exact Crawl.Ordered.emitCheckpoint ⟨hresume state rfl, fun _ he => absurd he not_mem_nil⟩
      false

/--
**A crawl is breadth first, and so is every checkpoint that it hands out.**

A crawl that resumes one of these checkpoints is breadth first again, from the root on.
-/
theorem crawl_breadth_first (h : call.begin resume tick = .ok (c, m))
    (hresume : ∀ state, resume = some state → InOrder state.pages state.pendingPages) (n : Nat) :
    InOrder (c.step^[n] m).pages (c.step^[n] m).queue ∧
      ∀ e ∈ (c.step^[n] m).emitted, InOrder e.state.pages e.state.pendingPages := by
  have hordered := (CrawlCall.ordered_begin h hresume).iterate (c := c) n
  exact ⟨hordered.machine, hordered.checkpoints⟩

omit [StandardLibrary] in
/-- The root of a small site and its links. -/
theorem crawl_breadth_first_links :
    letI := sampleLibrary
    ∃ c m,
      (sampleCrawlCall (.responded (sampleResponse ["/a", "/b/"])) true).begin none 0 = .ok (c, m) ∧
      InOrder (c.step^[3] m).pages (c.step^[3] m).queue := by
  let _ := sampleLibrary
  obtain ⟨c, m, hbegin⟩ : ∃ c m, (sampleCrawlCall
      (.responded (sampleResponse ["/a", "/b/"])) true).begin none 0 = .ok (c, m) := ⟨_, _, rfl⟩
  exact ⟨c, m, hbegin, (crawl_breadth_first hbegin (by simp) 3).1⟩

end WebGuard
