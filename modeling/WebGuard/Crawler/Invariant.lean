import WebGuard.Crawler.Rounds

/-!
# The invariant of a crawl

A checkpoint can be taken of a machine whose pages, queue, visited URLs and attempts fit
together (`Resumable`, which is what the constructor of a resume state asks for). A round keeps
them fitting as long as every link it queues is stored as it was found: `Tidy`.
-/

namespace WebGuard

open UrlParse StandardLibrary Atomic List SortedSet

variable [StandardLibrary]

/-- The machine that a round ends with, before its checkpoint. -/
def Turn.machine : Turn → CrawlMachine
  | .leave m _ => m
  | .fail m _ => m
  | .emit m _ _ => m

namespace Crawl

variable {c : Crawl} {m : CrawlMachine}

/-! ## What a checkpoint and the end leave alone -/

section

variable (c m) (midRetry : Bool)

/-- A checkpoint changes only what was emitted, and perhaps the phase. -/
theorem emitCheckpoint_eq : ∃ emitted phase, c.emitCheckpoint m midRetry =
    { m with emitted := emitted, phase := phase, tick := m.tick + 1 } := by
  unfold emitCheckpoint
  split
  · split
    · exact ⟨_, _, rfl⟩
    · exact ⟨_, _, rfl⟩
  · exact ⟨_, _, rfl⟩

@[simp] theorem emitCheckpoint_pages : (c.emitCheckpoint m midRetry).pages = m.pages := by
  obtain ⟨_, _, heq⟩ := emitCheckpoint_eq c m midRetry
  rw [heq]

@[simp] theorem emitCheckpoint_queue : (c.emitCheckpoint m midRetry).queue = m.queue := by
  obtain ⟨_, _, heq⟩ := emitCheckpoint_eq c m midRetry
  rw [heq]

@[simp] theorem emitCheckpoint_visited : (c.emitCheckpoint m midRetry).visited = m.visited := by
  obtain ⟨_, _, heq⟩ := emitCheckpoint_eq c m midRetry
  rw [heq]

@[simp] theorem emitCheckpoint_skipCounts :
    (c.emitCheckpoint m midRetry).skipCounts = m.skipCounts := by
  obtain ⟨_, _, heq⟩ := emitCheckpoint_eq c m midRetry
  rw [heq]

@[simp] theorem emitCheckpoint_attemptsUsed :
    (c.emitCheckpoint m midRetry).attemptsUsed = m.attemptsUsed := by
  obtain ⟨_, _, heq⟩ := emitCheckpoint_eq c m midRetry
  rw [heq]

@[simp] theorem emitCheckpoint_requests : (c.emitCheckpoint m midRetry).requests = m.requests := by
  obtain ⟨_, _, heq⟩ := emitCheckpoint_eq c m midRetry
  rw [heq]

variable (reason : CrawlTerminationReason)

theorem dropQueue_eq_self_or :
    dropQueue m reason = m ∨ (dropQueue m reason).queue = [] := by
  unfold dropQueue
  split
  · exact Or.inl rfl
  · exact Or.inr rfl

@[simp] theorem dropQueue_pages : (dropQueue m reason).pages = m.pages := by
  unfold dropQueue
  split <;> rfl

@[simp] theorem dropQueue_attemptsUsed : (dropQueue m reason).attemptsUsed = m.attemptsUsed := by
  unfold dropQueue
  split <;> rfl

@[simp] theorem dropQueue_requests : (dropQueue m reason).requests = m.requests := by
  unfold dropQueue
  split <;> rfl

@[simp] theorem dropQueue_phase : (dropQueue m reason).phase = m.phase := by
  unfold dropQueue
  split <;> rfl

theorem conclude_eq :
    ∃ phase, phase ≠ .crawling ∧ c.conclude m reason = { m with phase := phase } := by
  unfold conclude
  split
  · next execution _ => exact ⟨.finished execution, by simp, rfl⟩
  · next e _ => exact ⟨.raised (.execution e), by simp, rfl⟩

/-- The end of a crawl may drop the queue and emit; it changes nothing else but the phase. -/
theorem finish_eq : ∃ phase, phase ≠ .crawling ∧
    c.finish m reason midRetry =
      { c.emitCheckpoint (dropQueue m reason) midRetry with phase := phase } := by
  unfold finish
  simp only
  split
  · exact conclude_eq c _ _
  · next hphase => exact ⟨_, hphase, rfl⟩

@[simp] theorem finish_pages : (c.finish m reason midRetry).pages = m.pages := by
  obtain ⟨phase, -, heq⟩ := finish_eq c m midRetry reason
  rw [heq]
  simp

@[simp] theorem finish_attemptsUsed : (c.finish m reason midRetry).attemptsUsed = m.attemptsUsed := by
  obtain ⟨phase, -, heq⟩ := finish_eq c m midRetry reason
  rw [heq]
  simp

@[simp] theorem finish_requests : (c.finish m reason midRetry).requests = m.requests := by
  obtain ⟨phase, -, heq⟩ := finish_eq c m midRetry reason
  rw [heq]
  simp

theorem finish_queue : (c.finish m reason midRetry).queue = m.queue ∨
    (c.finish m reason midRetry).queue = [] := by
  obtain ⟨phase, -, heq⟩ := finish_eq c m midRetry reason
  rw [heq]
  simp only [emitCheckpoint_queue]
  rcases dropQueue_eq_self_or m reason with h | h
  · exact Or.inl (by rw [h])
  · exact Or.inr h

theorem finish_phase : (c.finish m reason midRetry).phase ≠ .crawling := by
  obtain ⟨phase, hphase, heq⟩ := finish_eq c m midRetry reason
  rw [heq]
  exact hphase

end

/-! ## Pages, queue and visited URLs -/

end Crawl

section

variable {root : Text} {pages : List CrawlPageRecord} {page : CrawlPendingPage}
  {rest added : List CrawlPendingPage} {record : CrawlPageRecord} {attemptsUsed : Nat}

/-- The page in front moves from the queue to the records. -/
theorem Resumable.shift {visited : List Text}
    (h : Resumable root pages (page :: rest) visited attemptsUsed)
    (hplace : record.place = page.place) {used : Nat}
    (hused : used = attemptsUsed + record.attempts.length) :
    Resumable root (pages ++ [record]) rest visited used := by
  have hurl : record.url = page.url := congrArg Prod.fst hplace
  have hurls : crawlUrls (pages ++ [record]) rest = crawlUrls pages (page :: rest) := by
    simp [crawlUrls, hurl]
  refine ⟨?_, ?_, ?_, ?_⟩
  · rw [hurls]
    exact h.distinct
  · have := h.root
    rw [map_cons, ← hplace] at this
    simpa using this
  · rw [hurls]
    exact h.visited_eq
  · rw [hused, h.attempts_eq]
    simp [attemptCount]

variable {visited : SortedSet Text}

/-- New links go to the end of the queue. -/
theorem Resumable.extend {taken : List Text}
    (h : Resumable root pages rest visited.toList attemptsUsed) (hne : pages ≠ [])
    (hurls : added.map (·.url) = taken) (hnodup : taken.Nodup)
    (hfresh : ∀ url ∈ taken, url ∉ visited) :
    Resumable root pages (rest ++ added)
      (taken.foldl (fun visited url => visited.insert url) visited).toList attemptsUsed := by
  have hvisited : ∀ url, url ∈ visited ↔ url ∈ crawlUrls pages rest := by
    intro url
    have heq := toList_injective h.visited_eq
    rw [heq, mem_ofList]
  have hcrawl : crawlUrls pages (rest ++ added) = crawlUrls pages rest ++ taken := by
    simp [crawlUrls, hurls]
  refine ⟨?_, ?_, ?_, h.attempts_eq⟩
  · rw [hcrawl, nodup_append']
    refine ⟨h.distinct, hnodup, ?_⟩
    intro url hold hnew
    exact hfresh url hnew ((hvisited url).mpr hold)
  · obtain ⟨first, others, rfl⟩ := exists_cons_of_ne_nil hne
    have := h.root
    simpa [startsAtRoot] using this
  · congr 1
    symm
    rw [ofList_eq_iff]
    intro url
    rw [mem_foldl_insert, hvisited, hcrawl, mem_append]

/-- A queue that is dropped is forgotten by the visited URLs too. -/
theorem Resumable.drop (h : Resumable root pages rest visited.toList attemptsUsed) :
    Resumable root pages []
      (rest.foldl (fun visited pending => visited.erase pending.url) visited).toList
      attemptsUsed := by
  have herase : ∀ (l : List CrawlPendingPage) (s : SortedSet Text) (url : Text),
      url ∈ l.foldl (fun visited pending => visited.erase pending.url) s ↔
        url ∈ s ∧ url ∉ l.map (·.url) := by
    intro l
    induction l with
    | nil => simp
    | cons first others ih =>
      intro s url
      rw [foldl_cons, ih, mem_erase, map_cons, mem_cons]
      tauto
  have heq := toList_injective h.visited_eq
  obtain ⟨hpages, -, hdisjoint⟩ := nodup_append'.mp h.distinct
  refine ⟨?_, ?_, ?_, h.attempts_eq⟩
  · simpa [crawlUrls] using hpages
  · have := h.root
    cases pages with
    | nil => rfl
    | cons first others => simpa [startsAtRoot] using this
  · congr 1
    symm
    rw [ofList_eq_iff]
    intro url
    rw [herase, heq, mem_ofList, crawlUrls, crawlUrls, map_nil, append_nil,
      mem_append]
    constructor
    · intro hurl
      exact ⟨Or.inl hurl, fun hqueue => hdisjoint hurl hqueue⟩
    · rintro ⟨hurl | hurl, hnot⟩
      · exact hurl
      · exact absurd hurl hnot

end

namespace Crawl

variable {c : Crawl} {m : CrawlMachine}

/-! ## Tidy rounds -/

variable (c) in
/-- The page that a round fetches, and the response that it gets. -/
def responseOf (m : CrawlMachine) : Option (CrawlPendingPage × SafeHttpResponse) :=
  match m.queue with
  | [] => none
  | page :: _ =>
    match (c.fetchNext m page).1 with
    | .error _ => none
    | .ok outcome => outcome.response.map fun response => (page, response)

variable (c) in
/-- No link of the page that is fetched loses white space when it is stored. -/
def TidyRound (m : CrawlMachine) : Prop :=
  ∀ page response, c.responseOf m = some (page, response) → ∀ href ∈ response.hrefs, ∀ url,
    canonicalCandidate href page.url c.target.origin c.policy = .ok url → stripped url = url

variable {page : CrawlPendingPage} {rest : List CrawlPendingPage} {attempts : List RequestAttempt}

theorem Fetching.responseOf_eq {response : SafeHttpResponse} {spent : Expended}
    (h : Fetching c m page rest (.ok ⟨some response, attempts, none, none⟩) spent) :
    c.responseOf m = some (page, response) := by
  unfold responseOf
  simp only [h.queue, h.fetch, Option.map_some]

theorem Fetching.counted {outcome : FetchOutcome} {spent : Expended}
    (h : Fetching c m page rest (.ok outcome) spent) :
    spent.attemptsUsed = m.attemptsUsed + outcome.attempts.length := by
  have := h.spec.counted outcome rfl
  simp only [spentBefore, length_nil] at this
  omega

variable (m) in
/-- Pages, queue, visited URLs and attempts fit together. -/
def Fits (root : Text) : Prop :=
  Resumable root m.pages m.queue m.visited.toList m.attemptsUsed

theorem place_of_record {page : CrawlPendingPage} {outcome : CrawlPageOutcome}
    {record : CrawlPageRecord}
    (h : CrawlPageRecord.new ⟨page.url, page.depth, page.parentUrl, outcome, attempts⟩ =
      .ok record) : record.place = page.place ∧ record.attempts = attempts := by
  obtain ⟨hurl, hdepth, hparent, hattempts, -⟩ := CrawlPageRecord.new_place h
  simp [CrawlPageRecord.place, CrawlPendingPage.place, hurl, hdepth, hparent, hattempts]

/-- What a turn emits fits again. -/
theorem Fits.turn {root : Text} (h : Fits m root) (htidy : c.TidyRound m) {m' : CrawlMachine}
    {midRetry : Bool} {leaving : Option CrawlTerminationReason}
    (hturn : Turned c m (.emit m' midRetry leaving)) : Fits m' root := by
  unfold Fits at h ⊢
  cases hturn with
  | returned page rest spent reason hfetch hearly =>
    have hcounted := hfetch.counted
    rw [hfetch.queue] at h
    simp only [length_nil, Nat.add_zero] at hcounted
    simp only [CrawlMachine.fetched, hcounted]
    exact h
  | failed page rest spent attempts code retryable reason record hfetch hne hearly hrecord =>
    obtain ⟨hplace, hattempts⟩ := place_of_record hrecord
    rw [hfetch.queue] at h
    apply h.shift hplace
    rw [hattempts]
    exact hfetch.counted
  | succeeded page rest spent response attempts d links record hfetch hdiscover hrecord =>
    obtain ⟨hplace, hattempts⟩ := place_of_record hrecord
    obtain ⟨added, taken, hd⟩ := discover_spec hdiscover
    rw [hfetch.queue] at h
    have hcounted : spent.attemptsUsed = m.attemptsUsed + record.attempts.length := by
      rw [hattempts]
      exact hfetch.counted
    have hshift := h.shift hplace hcounted
    have htaken : taken.map stripped = taken := by
      calc taken.map stripped = taken.map id := map_congr_left fun url hurl => by
            obtain ⟨-, href, hhref, hcandidate⟩ := hd.fresh url hurl
            exact htidy page response hfetch.responseOf_eq href hhref url hcandidate
        _ = taken := map_id taken
    have hextend := hshift.extend (by simp) (hd.urls.trans htaken) hd.nodup
      fun url hurl => (hd.fresh url hurl).1
    rw [← hd.visited, ← hd.queue] at hextend
    exact hextend

/-! ## Checkpoints -/

/-- What a checkpoint holds. -/
structure Captured (c : Crawl) (m : CrawlMachine) (state : CrawlResumeState) : Prop where
  rootUrl : state.rootUrl = stripped c.rootUrl
  pages : state.pages = m.pages
  pendingPages : state.pendingPages = m.queue
  visitedUrls : state.visitedUrls = m.visited.toList
  attemptsUsed : state.attemptsUsed = m.attemptsUsed
  skipCounts : SkipCounts.ofSummaries state.skippedLinks = m.skipCounts
  elapsed : state.elapsedExecutionSeconds =
    c.elapsedBefore + max 0 (c.world.now m.tick - c.world.runStarted)
  fits : Fits m state.rootUrl

/-- A snapshot holds the pages, the queue and the accounts of the machine. -/
theorem captured_of_snapshot {state : CrawlResumeState} (h : c.snapshot m = .ok state) :
    Captured c m state := by
  unfold snapshot at h
  obtain ⟨links, hlinks, h⟩ := bind_ok h
  obtain ⟨haudit, hfits, -, heq⟩ :=
    CrawlResumeStateFields.postInit_eq_ok.mp (CrawlResumeState.new_eq_ok.mp h)
  obtain ⟨hsorted, hcounts, -⟩ := SkipCounts.summaries_spec hlinks
  refine ⟨(auditUrl_eq_ok.mp haudit).1, ?_, ?_, ?_, ?_, ?_, ?_, hfits⟩
  · rw [heq]
  · rw [heq]
  · rw [heq]
  · rw [heq]
  · rw [heq]
    simp only [hsorted, hcounts]
  · rw [heq]

theorem fits_of_emitted (hobserved : c.observed = true) {midRetry : Bool}
    (h : (c.emitCheckpoint m midRetry).phase = .crawling) : ∃ root, Fits m root := by
  unfold emitCheckpoint at h
  rw [if_pos hobserved] at h
  split at h
  · next state hstate => exact ⟨_, (captured_of_snapshot hstate).fits⟩
  · cases h

/-- The conditions under which a checkpoint can be taken. -/
structure Capturable (c : Crawl) (m : CrawlMachine) : Prop where
  root : auditUrl c.rootUrl "resume_root_url" = .ok c.rootUrl
  elapsed : 0 ≤ c.elapsedBefore
  fits : Fits m c.rootUrl
  counts : ∀ reason, m.skipCounts reason ≤ 2147483647

/-- A machine that is capturable has a snapshot. -/
theorem Capturable.exists_snapshot (h : Capturable c m) : ∃ state, c.snapshot m = .ok state := by
  obtain ⟨links, hlinks⟩ := SkipCounts.exists_summaries h.counts
  let raw : CrawlResumeStateFields :=
    { rootUrl := c.rootUrl
      pages := m.pages
      pendingPages := m.queue
      visitedUrls := m.visited.toList
      skippedLinks := links
      elapsedExecutionSeconds := c.elapsedBefore + max 0 (c.world.now m.tick - c.world.runStarted)
      attemptsUsed := m.attemptsUsed }
  have hraw : raw.postInit = .ok { raw with skippedLinks := sortSkips links } := by
    rw [CrawlResumeStateFields.postInit_eq_ok]
    exact ⟨h.root, h.fits, add_nonneg h.elapsed (le_max_left _ _), rfl⟩
  refine ⟨⟨_, raw, hraw⟩, ?_⟩
  unfold snapshot
  rw [hlinks]
  exact CrawlResumeState.new_eq_ok.mpr hraw

theorem Capturable.phase_emitCheckpoint (h : Capturable c m) (midRetry : Bool) :
    (c.emitCheckpoint m midRetry).phase = m.phase := by
  obtain ⟨state, hstate⟩ := h.exists_snapshot
  unfold emitCheckpoint
  split
  · rw [hstate]
  · rfl

theorem Capturable.congr (h : Capturable c m) {m' : CrawlMachine} (hpages : m'.pages = m.pages)
    (hqueue : m'.queue = m.queue) (hvisited : m'.visited = m.visited)
    (hattempts : m'.attemptsUsed = m.attemptsUsed) (hskips : m'.skipCounts = m.skipCounts) :
    Capturable c m' := by
  refine ⟨h.root, h.elapsed, ?_, ?_⟩
  · unfold Fits
    rw [hpages, hqueue, hvisited, hattempts]
    exact h.fits
  · rw [hskips]
    exact h.counts

/-! ## Steps -/

@[simp] theorem settle_pages (t : Turn) : (c.settle t).pages = t.machine.pages := by
  cases t with
  | leave m reason => exact finish_pages c m false reason
  | fail m fault => rfl
  | emit m midRetry leaving =>
    simp only [settle, Turn.machine]
    split <;> simp

@[simp] theorem settle_requests (t : Turn) : (c.settle t).requests = t.machine.requests := by
  cases t with
  | leave m reason => exact finish_requests c m false reason
  | fail m fault => rfl
  | emit m midRetry leaving =>
    simp only [settle, Turn.machine]
    split <;> simp

@[simp] theorem settle_attemptsUsed (t : Turn) :
    (c.settle t).attemptsUsed = t.machine.attemptsUsed := by
  cases t with
  | leave m reason => exact finish_attemptsUsed c m false reason
  | fail m fault => rfl
  | emit m midRetry leaving =>
    simp only [settle, Turn.machine]
    split <;> simp

theorem settle_queue (t : Turn) :
    (c.settle t).queue = t.machine.queue ∨ (c.settle t).queue = [] := by
  cases t with
  | leave m reason => exact finish_queue c m false reason
  | fail m fault => exact Or.inl rfl
  | emit m midRetry leaving =>
    simp only [settle, Turn.machine]
    split
    · have := finish_queue c (c.emitCheckpoint m midRetry) midRetry ‹_›
      simpa using this
    · simp

theorem settle_emit_none (m : CrawlMachine) (midRetry : Bool) :
    c.settle (.emit m midRetry none) = c.emitCheckpoint m midRetry := by
  unfold settle
  simp only
  split
  · contradiction
  · rfl

theorem step_of_crawling (h : m.phase = .crawling) : c.step m = c.settle (c.turn m) := by
  unfold step
  rw [h]

theorem step_of_not_crawling (h : m.phase ≠ .crawling) : c.step m = m := by
  unfold step
  split
  · exact absurd ‹_› h
  · rfl

/-- A crawl that goes on has emitted at the end of its turn. -/
theorem turn_of_step (hm : m.phase = .crawling) (h : (c.step m).phase = .crawling) :
    ∃ m' midRetry, c.turn m = .emit m' midRetry none ∧ c.step m = c.emitCheckpoint m' midRetry := by
  rw [step_of_crawling hm] at h ⊢
  cases hturn : c.turn m with
  | leave m' reason =>
    rw [hturn] at h
    exact absurd h (finish_phase c m' false reason)
  | fail m' fault =>
    rw [hturn] at h
    cases h
  | emit m' midRetry leaving =>
    rw [hturn] at h
    cases leaving with
    | none => exact ⟨m', midRetry, rfl, settle_emit_none m' midRetry⟩
    | some reason =>
      simp only [settle] at h
      split at h
      · exact absurd h (finish_phase c _ _ _)
      · next hphase => exact absurd h (by simpa using hphase)

end Crawl

/-! ## The beginning -/

theorem CrawlResumeState.resumable (state : CrawlResumeState) :
    Resumable state.rootUrl state.pages state.pendingPages state.visitedUrls state.attemptsUsed ∧
      0 ≤ state.elapsedExecutionSeconds ∧ stripped state.rootUrl = state.rootUrl ∧
      auditUrl state.rootUrl "resume_root_url" = .ok state.rootUrl := by
  obtain ⟨raw, hraw⟩ := state.built
  obtain ⟨haudit, hfits, helapsed, heq⟩ := CrawlResumeStateFields.postInit_eq_ok.mp hraw
  have hidem := auditUrl_idem haudit "resume_root_url"
  refine ⟨?_, ?_, (auditUrl_eq_ok.mp hidem).1.symm, hidem⟩
  · have hpages : state.pages = raw.pages := by rw [heq]
    have hpending : state.pendingPages = raw.pendingPages := by rw [heq]
    have hvisited : state.visitedUrls = raw.visitedUrls := by rw [heq]
    have hattempts : state.attemptsUsed = raw.attemptsUsed := by rw [heq]
    rw [hpages, hpending, hvisited, hattempts]
    exact hfits
  · have : state.elapsedExecutionSeconds = raw.elapsedExecutionSeconds := by rw [heq]
    rw [this]
    exact helapsed

namespace CrawlCall

variable {call : CrawlCall} {tick : Nat} {c : Crawl} {m : CrawlMachine}

theorem rootUrl_eq_ok {rootUrl : Text} (h : call.rootUrl = .ok rootUrl) :
    canonicalCandidate call.target.normalisedUrl call.target.normalisedUrl call.target.origin
      call.policy = .ok rootUrl := by
  unfold CrawlCall.rootUrl at h
  obtain ⟨origin, horigin, h⟩ := bind_ok h
  cases rootOrigin_eq horigin
  split at h
  · cases h
  · next url hurl =>
    cases h
    exact hurl

/-- A fresh crawl begins with its root in the queue. -/
theorem begin_fresh (h : call.begin none tick = .ok (c, m)) :
    ∃ rootUrl root, call.rootUrl = .ok rootUrl ∧ c = call.crawl rootUrl 0 ∧
      root.place = (stripped rootUrl, 0, none) ∧
      m = c.emitCheckpoint (freshMachine root rootUrl tick) false := by
  have h : call.beginFresh tick = .ok (c, m) := h
  unfold beginFresh at h
  obtain ⟨rootUrl, hroot, h⟩ := bind_ok h
  obtain ⟨root, hnew, h⟩ := bind_ok h
  cases h
  obtain ⟨hurl, hparent, hdepth, -, -⟩ :=
    CrawlPendingPageFields.postInit_eq_ok.mp (CrawlPendingPage.new_eq_ok.mp hnew)
  refine ⟨rootUrl, root, hroot, rfl, ?_, rfl⟩
  have hnone : root.parentUrl = none := (Except.ok.inj hparent).symm
  simp only [CrawlPendingPage.place, (auditUrl_eq_ok.mp hurl).1, hdepth, hnone]

/-- A resumed crawl begins where its state left off. -/
theorem begin_resumed {state : CrawlResumeState} (h : call.begin (some state) tick = .ok (c, m)) :
    call.rootUrl = .ok state.rootUrl ∧
      c = call.crawl state.rootUrl state.elapsedExecutionSeconds ∧
      state.pages.length + state.pendingPages.length ≤ call.policy.maximumPages ∧
      (∀ page ∈ state.pages, page.depth ≤ call.policy.maximumDepth) ∧
      (∀ page ∈ state.pendingPages, page.depth ≤ call.policy.maximumDepth) ∧
      state.attemptsUsed ≤ call.policy.maximumRequestAttempts ∧
      m = c.emitCheckpoint (resumedMachine state tick) false := by
  have h : call.beginResumed state tick = .ok (c, m) := h
  unfold beginResumed at h
  simp only [bind_ok_iff, require_eq_ok] at h
  obtain ⟨rootUrl, hroot, _, hsame, _, hroom, _, hdepth, _, hattempts, h⟩ := h
  have hsame : state.rootUrl = rootUrl := by simpa using hsame
  subst hsame
  cases h
  rw [Bool.and_eq_true, all_eq_true, all_eq_true] at hdepth
  refine ⟨hroot, rfl, by simpa using hroom, ?_, ?_, by simpa using hattempts, rfl⟩
  · intro page hpage
    simpa using hdepth.1 page hpage
  · intro page hpage
    simpa using hdepth.2 page hpage

end CrawlCall

end WebGuard
