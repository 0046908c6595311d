import WebGuard.Crawler.Invariant

/-!
# The safety envelope of a crawl

Whatever a site answers, and whether the crawl is fresh or resumed: the crawl ends, it stays on
the root's origin and within its depth, and it keeps to its pages and its attempts. These hold
without a condition (`envelope_iterate`, `not_crawling`).

That no URL is fetched as a page twice rests on the visited URLs being the URLs of the pages and
of the queue. A link that ends in white space is visited as it was found and queued without the
white space. With an observer the next checkpoint then refuses to be built, and the crawl stops;
without one the same URL is fetched again when it is found in its other spelling.
-/

namespace WebGuard

open UrlParse StandardLibrary List

variable [StandardLibrary]

/-- A URL has the scheme, the host and the port of a target. -/
def SameOrigin (target : ValidatedTarget) (url : Text) : Prop :=
  ∃ parsed port, urlsplit url = some parsed ∧ parsed.port = some port ∧
    parsed.scheme = target.scheme ∧ parsed.hostname = some target.hostname ∧
    port.getD (defaultPort parsed.scheme) = target.port

/-- The limits of a crawl, in one of its states. -/
structure Enveloped (c : Crawl) (m : CrawlMachine) : Prop where
  origin : ∀ request ∈ m.requests, SameOrigin c.target request.url
  depth : ∀ request ∈ m.requests, request.depth ≤ c.policy.maximumDepth
  pages : m.pages.length + m.queue.length ≤ c.policy.maximumPages
  attempts : m.requests.length ≤ m.attemptsUsed ∧
    m.attemptsUsed ≤ c.policy.maximumRequestAttempts
  attemptsPerPage : ∀ serial, (m.requests.filter (·.serial = serial)).length ≤
    c.retryPolicy.maximumAttempts

/-- No URL is fetched for two pages, and none that is a page already. -/
structure FetchedOnce (m : CrawlMachine) : Prop where
  pages : (m.pages.map (·.url)).Nodup
  requests : ∀ r ∈ m.requests, ∀ r' ∈ m.requests, r.url = r'.url → r.serial = r'.serial
  fresh : ∀ r ∈ m.requests, ∀ i page, m.pages[i]? = some page → page.url = r.url → i = r.serial

namespace Crawl

variable {c : Crawl} {m : CrawlMachine}

theorem sameOrigin_of_guard {url : Text} (h : (c.requestGuard url).isOk = true) :
    SameOrigin c.target url := by
  obtain ⟨_, h⟩ := Atomic.exists_ok_of_isOk h
  unfold requestGuard at h
  split at h
  · cases h
  next parsed hparsed =>
  split at h
  · cases h
  next port hport =>
  split at h
  · cases h
  next hsame =>
  simp only [Bool.or_eq_true, decide_eq_true_eq, not_or, not_not] at hsame
  exact ⟨parsed, port, hparsed, hport, hsame.1.1, hsame.1.2, hsame.2⟩

/-! ## What a step adds -/

/-- The requests and the pages that a step adds: those of one page of the queue. -/
structure Added (c : Crawl) (m m' : CrawlMachine) (page : CrawlPendingPage) (j : Nat) : Prop where
  requests : m'.requests = m.requests ++ replicate j ⟨m.pages.length, page.url, page.depth⟩
  guard : j ≠ 0 → (c.requestGuard page.url).isOk = true
  perPage : j ≤ c.retryPolicy.maximumAttempts
  attempts : m.attemptsUsed + j ≤ m'.attemptsUsed
  within : m.attemptsUsed ≤ c.policy.maximumRequestAttempts →
    m'.attemptsUsed ≤ c.policy.maximumRequestAttempts
  pages : m'.pages = m.pages ∨
    ∃ record : CrawlPageRecord, m'.pages = m.pages ++ [record] ∧ record.url = page.url

variable {page : CrawlPendingPage}

theorem Fetching.added {rest : List CrawlPendingPage} {result : Except CrawlFault FetchOutcome}
    {spent : Expended} (h : Fetching c m page rest result spent) (m' : CrawlMachine)
    (hrequests : m'.requests = spent.requests) (hattempts : m'.attemptsUsed = spent.attemptsUsed)
    (hpages : m'.pages = m.pages ∨
      ∃ record : CrawlPageRecord, m'.pages = m.pages ++ [record] ∧ record.url = page.url) :
    ∃ j, Added c m m' page j := by
  obtain ⟨j, hj, heq, hguard⟩ := h.spec.sent
  have hused := h.spec.used
  have hwithin := h.spec.within
  have hmaximum := c.retryPolicy.attempts_bounds.1
  simp only [spentBefore] at hj heq hused hwithin
  refine ⟨j, hrequests.trans heq, hguard, by omega, by omega, ?_, hpages⟩
  rw [hattempts]
  exact hwithin

theorem url_of_record {outcome : CrawlPageOutcome} {attempts : List RequestAttempt}
    {record : CrawlPageRecord}
    (h : CrawlPageRecord.new ⟨page.url, page.depth, page.parentUrl, outcome, attempts⟩ =
      .ok record) :
    record.url = page.url := (CrawlPageRecord.new_place h).1

theorem Turned.added {t : Turn} (h : Turned c m t) :
    (t.machine.requests = m.requests ∧ t.machine.pages = m.pages ∧
      t.machine.attemptsUsed = m.attemptsUsed) ∨
    ∃ page rest j, m.queue = page :: rest ∧ Added c m t.machine page j := by
  cases h with
  | ended => exact Or.inl ⟨rfl, rfl, rfl⟩
  | heldBack => exact Or.inl ⟨rfl, rfl, rfl⟩
  | raised page rest spent fault hfetch =>
    obtain ⟨j, hadded⟩ := hfetch.added (m.fetched rest spent) rfl rfl (Or.inl rfl)
    exact Or.inr ⟨page, rest, j, hfetch.queue, hadded⟩
  | returned page rest spent reason hfetch =>
    obtain ⟨j, hadded⟩ := hfetch.added
      { m.fetched rest spent with queue := page :: rest } rfl rfl (Or.inl rfl)
    exact Or.inr ⟨page, rest, j, hfetch.queue, hadded⟩
  | failed page rest spent attempts code retryable reason record hfetch hne hearly hrecord =>
    obtain ⟨j, hadded⟩ := hfetch.added
      { m.fetched rest spent with pages := m.pages ++ [record] } rfl rfl
      (Or.inr ⟨record, rfl, url_of_record hrecord⟩)
    exact Or.inr ⟨page, rest, j, hfetch.queue, hadded⟩
  | refused page rest spent response attempts fault hfetch =>
    obtain ⟨j, hadded⟩ := hfetch.added (m.fetched rest spent) rfl rfl (Or.inl rfl)
    exact Or.inr ⟨page, rest, j, hfetch.queue, hadded⟩
  | succeeded page rest spent response attempts d links record hfetch hdiscover hrecord =>
    obtain ⟨j, hadded⟩ := hfetch.added
      { m.fetched rest spent with
        pages := m.pages ++ [record], queue := d.queue, visited := d.visited,
        skipCounts := d.skipCounts } rfl rfl (Or.inr ⟨record, rfl, url_of_record hrecord⟩)
    exact Or.inr ⟨page, rest, j, hfetch.queue, hadded⟩

theorem Turned.room {t : Turn} (h : Turned c m t)
    (hroom : m.pages.length + m.queue.length ≤ c.policy.maximumPages)
    (hdepth : ∀ page ∈ m.queue, page.depth ≤ c.policy.maximumDepth) :
    t.machine.pages.length + t.machine.queue.length ≤ c.policy.maximumPages ∧
      ∀ page ∈ t.machine.queue, page.depth ≤ c.policy.maximumDepth := by
  have hrest : ∀ {page rest} {result : Except CrawlFault FetchOutcome} {spent : Expended},
      Fetching c m page rest result spent →
        m.pages.length + 1 + rest.length ≤ c.policy.maximumPages ∧
          ∀ other ∈ rest, other.depth ≤ c.policy.maximumDepth := by
    intro page rest result spent hfetch
    rw [hfetch.queue] at hroom hdepth
    rw [length_cons] at hroom
    exact ⟨by omega, fun other hother => hdepth other (mem_cons_of_mem page hother)⟩
  cases h with
  | ended => exact ⟨hroom, hdepth⟩
  | heldBack => exact ⟨hroom, hdepth⟩
  | raised page rest spent fault hfetch =>
    obtain ⟨hlt, hdepths⟩ := hrest hfetch
    refine ⟨?_, hdepths⟩
    simp only [Turn.machine, CrawlMachine.fetched]
    omega
  | returned page rest spent reason hfetch =>
    rw [hfetch.queue] at hroom hdepth
    exact ⟨hroom, hdepth⟩
  | failed page rest spent attempts code retryable reason record hfetch =>
    obtain ⟨hlt, hdepths⟩ := hrest hfetch
    refine ⟨?_, hdepths⟩
    simp only [Turn.machine, CrawlMachine.fetched, length_append, length_singleton]
    omega
  | refused page rest spent response attempts fault hfetch =>
    obtain ⟨hlt, hdepths⟩ := hrest hfetch
    refine ⟨?_, hdepths⟩
    simp only [Turn.machine, CrawlMachine.fetched]
    omega
  | succeeded page rest spent response attempts d links record hfetch hdiscover =>
    obtain ⟨hlt, hdepths⟩ := hrest hfetch
    obtain ⟨added, taken, hd⟩ := discover_spec hdiscover
    constructor
    · have := hd.room hlt
      simp only [Turn.machine, CrawlMachine.fetched, length_append, length_singleton]
      omega
    · intro other hother
      have hother : other ∈ d.queue := hother
      rw [hd.queue] at hother
      rcases mem_append.mp hother with hother | hother
      · exact hdepths other hother
      · have := (hd.places other hother).1
        have := hd.shallow (ne_nil_of_mem hother)
        omega

/-! ## The envelope along a run -/

/-- The envelope, with what carries it from one round to the next. -/
structure Kept (c : Crawl) (m : CrawlMachine) : Prop extends Enveloped c m where
  queueDepth : ∀ page ∈ m.queue, page.depth ≤ c.policy.maximumDepth
  past : m.phase = .crawling → ∀ request ∈ m.requests, request.serial < m.pages.length

theorem length_of_turned {m' : CrawlMachine} {midRetry : Bool}
    (h : Turned c m (.emit m' midRetry none)) : m'.pages.length = m.pages.length + 1 := by
  generalize hleaving : (none : Option CrawlTerminationReason) = leaving at h
  cases h with
  | returned => cases hleaving
  | failed => simp
  | succeeded => simp

omit [StandardLibrary] in
theorem count_added {requests : List CrawlRequest} {request : CrawlRequest} {j bound : Nat}
    (hpast : ∀ r ∈ requests, r.serial < request.serial) (hj : j ≤ bound)
    (hbound : ∀ serial, (requests.filter (·.serial = serial)).length ≤ bound) (serial : Nat) :
    ((requests ++ replicate j request).filter (·.serial = serial)).length ≤ bound := by
  rw [filter_append, length_append]
  by_cases hserial : serial = request.serial
  · have hnone : requests.filter (·.serial = serial) = [] := by
      rw [filter_eq_nil_iff]
      intro r hr
      have := hpast r hr
      simp only [decide_eq_true_eq]
      omega
    rw [hnone, length_nil, Nat.zero_add]
    refine le_trans (length_filter_le _ _) ?_
    rw [length_replicate]
    exact hj
  · have hnone : (replicate j request).filter (·.serial = serial) = [] := by
      rw [filter_eq_nil_iff]
      intro r hr
      rw [(mem_replicate.mp hr).2]
      simpa using fun heq => hserial heq.symm
    rw [hnone, length_nil, Nat.add_zero]
    exact hbound serial

theorem room_step (h : Kept c m) (hphase : m.phase = .crawling) :
    (c.step m).pages.length + (c.step m).queue.length ≤ c.policy.maximumPages ∧
      ∀ page ∈ (c.step m).queue, page.depth ≤ c.policy.maximumDepth := by
  obtain ⟨hroom, hdepth⟩ := Turned.room (turn_cases m) h.pages h.queueDepth
  rw [step_of_crawling (c := c) hphase, settle_pages]
  rcases settle_queue (c := c) (c.turn m) with heq | heq
  · rw [heq]
    exact ⟨hroom, hdepth⟩
  · rw [heq, length_nil]
    exact ⟨by omega, by simp⟩

theorem length_step (hphase : m.phase = .crawling) (hcrawling : (c.step m).phase = .crawling) :
    (c.step m).pages.length = m.pages.length + 1 := by
  obtain ⟨m', midRetry, heq, hemit⟩ := turn_of_step hphase hcrawling
  rw [hemit, emitCheckpoint_pages]
  exact length_of_turned (heq ▸ turn_cases (c := c) m)

theorem kept_step (h : Kept c m) : Kept c (c.step m) := by
  by_cases hphase : m.phase = .crawling
  · have hturn : Turned c m (c.turn m) := turn_cases m
    obtain ⟨hpages, hdepths⟩ := room_step h hphase
    have hstep := step_of_crawling (c := c) hphase
    rcases hturn.added with ⟨hrequests, hsame, hattempts⟩ | ⟨page, rest, j, hfront, hadded⟩
    · -- Nothing was requested.
      have hrequests' : (c.step m).requests = m.requests := by
        rw [hstep, settle_requests, hrequests]
      have hattempts' : (c.step m).attemptsUsed = m.attemptsUsed := by
        rw [hstep, settle_attemptsUsed, hattempts]
      refine ⟨⟨?_, ?_, hpages, ?_, ?_⟩, hdepths, ?_⟩
      · rw [hrequests']
        exact h.origin
      · rw [hrequests']
        exact h.depth
      · rw [hrequests', hattempts']
        exact h.attempts
      · rw [hrequests']
        exact h.attemptsPerPage
      · intro hcrawling request hrequest
        rw [hrequests'] at hrequest
        have := h.past hphase request hrequest
        have := length_step hphase hcrawling
        omega
    · have hrequests : (c.step m).requests =
          m.requests ++ replicate j ⟨m.pages.length, page.url, page.depth⟩ := by
        rw [hstep, settle_requests, hadded.requests]
      have hattempts : (c.step m).attemptsUsed = (c.turn m).machine.attemptsUsed := by
        rw [hstep, settle_attemptsUsed]
      have hfrontDepth : page.depth ≤ c.policy.maximumDepth :=
        h.queueDepth page (by simp [hfront])
      have hnew : ∀ request ∈ replicate j
          (⟨m.pages.length, page.url, page.depth⟩ : CrawlRequest),
          (c.requestGuard request.url).isOk = true ∧ request.depth ≤ c.policy.maximumDepth ∧
            request.serial = m.pages.length := by
        intro request hrequest
        obtain ⟨hj, rfl⟩ := mem_replicate.mp hrequest
        exact ⟨hadded.guard hj, hfrontDepth, rfl⟩
      refine ⟨⟨?_, ?_, hpages, ⟨?_, ?_⟩, ?_⟩, hdepths, ?_⟩
      · intro request hrequest
        rw [hrequests] at hrequest
        rcases mem_append.mp hrequest with hrequest | hrequest
        · exact h.origin request hrequest
        · exact sameOrigin_of_guard (hnew request hrequest).1
      · intro request hrequest
        rw [hrequests] at hrequest
        rcases mem_append.mp hrequest with hrequest | hrequest
        · exact h.depth request hrequest
        · exact (hnew request hrequest).2.1
      · have := hadded.attempts
        have := h.attempts.1
        rw [hrequests, hattempts, length_append, length_replicate]
        omega
      · rw [hattempts]
        exact hadded.within h.attempts.2
      · -- The requests before this round were made for other pages.
        rw [hrequests]
        exact count_added (h.past hphase) hadded.perPage h.attemptsPerPage
      · intro hcrawling request hrequest
        have := length_step hphase hcrawling
        rw [hrequests] at hrequest
        rcases mem_append.mp hrequest with hrequest | hrequest
        · have := h.past hphase request hrequest
          omega
        · have := (hnew request hrequest).2.2
          omega
  · rw [step_of_not_crawling hphase]
    exact h

theorem kept_iterate (h : Kept c m) (n : Nat) : Kept c (c.step^[n] m) := by
  induction n with
  | zero => exact h
  | succ n ih =>
    rw [Function.iterate_succ_apply']
    exact kept_step ih

theorem length_iterate {n : Nat} (hphase : (c.step^[n] m).phase = .crawling) :
    n ≤ (c.step^[n] m).pages.length := by
  induction n with
  | zero => exact Nat.zero_le _
  | succ n ih =>
    rw [Function.iterate_succ_apply'] at hphase ⊢
    have hbefore : (c.step^[n] m).phase = .crawling := by
      by_contra hnot
      rw [step_of_not_crawling hnot] at hphase
      exact hnot hphase
    obtain ⟨m', midRetry, hturn, hemit⟩ := turn_of_step hbefore hphase
    have hlength := length_of_turned (hturn ▸ turn_cases (c := c) (c.step^[n] m))
    have := ih hbefore
    rw [hemit, emitCheckpoint_pages]
    omega

theorem not_crawling (h : Kept c m) {n : Nat} (hn : c.policy.maximumPages < n) :
    (c.step^[n] m).phase ≠ .crawling := by
  intro hphase
  have := length_iterate hphase
  have := (kept_iterate h n).pages
  omega

/-! ## Each page once -/

/-- The requests of a machine that is crawling are those of its pages. -/
def Traced (m : CrawlMachine) : Prop :=
  ∀ r ∈ m.requests, ∃ page, m.pages[r.serial]? = some page ∧ page.url = r.url

theorem fetchedOnce_of_traced (hdistinct : (m.pages.map (·.url)).Nodup) (htraced : Traced m) :
    FetchedOnce m := by
  have hindex : ∀ i j : Nat, ∀ p q : CrawlPageRecord, m.pages[i]? = some p → m.pages[j]? = some q →
      p.url = q.url → i = j := by
    intro i j p q hi hj heq
    have hpi : (m.pages.map (·.url))[i]? = some p.url := by simp [hi]
    have hqj : (m.pages.map (·.url))[j]? = some p.url := by simp [hj, heq]
    have hlt : i < (m.pages.map (·.url)).length := (List.getElem?_eq_some_iff.mp hpi).1
    exact (getElem?_inj hlt hdistinct).mp (hpi.trans hqj.symm)
  refine ⟨hdistinct, ?_, ?_⟩
  · intro r hr r' hr' heq
    obtain ⟨p, hp, hpr⟩ := htraced r hr
    obtain ⟨q, hq, hqr⟩ := htraced r' hr'
    exact hindex _ _ p q hp hq (by rw [hpr, hqr, heq])
  · intro r hr i page hpage heq
    obtain ⟨p, hp, hpr⟩ := htraced r hr
    exact hindex _ _ page p hpage hp (by rw [heq, hpr])

omit [StandardLibrary] in
theorem getElem?_snoc_of_lt {α : Type*} {l : List α} {a b : α} {i : Nat} (h : l[i]? = some b) :
    (l ++ [a])[i]? = some b := by
  have hlt : i < l.length := (List.getElem?_eq_some_iff.mp h).1
  rw [getElem?_append_left hlt, h]

theorem Added.fetchedOnce {m' : CrawlMachine} {j : Nat} (hadded : Added c m m' page j)
    (hdistinct : (m.pages.map (·.url)).Nodup) (hnew : page.url ∉ m.pages.map (·.url))
    (htraced : Traced m) : FetchedOnce m' ∧ (m'.pages.length = m.pages.length + 1 → Traced m') := by
  have hcases : ∀ r ∈ m'.requests, r ∈ m.requests ∨
      r.serial = m.pages.length ∧ r.url = page.url := by
    intro r hr
    rw [hadded.requests] at hr
    rcases mem_append.mp hr with hr | hr
    · exact Or.inl hr
    · obtain ⟨-, rfl⟩ := mem_replicate.mp hr
      exact Or.inr ⟨rfl, rfl⟩
  rcases hadded.pages with hpages | ⟨record, hpages, hrecord⟩
  · -- The page is not a page yet: it was not fetched, or the crawl ends.
    have hold := fetchedOnce_of_traced hdistinct htraced
    have hapart : ∀ r ∈ m.requests, r.url ≠ page.url := by
      intro r hr heq
      obtain ⟨p, hp, hpr⟩ := htraced r hr
      apply hnew
      rw [← heq, ← hpr]
      exact mem_map_of_mem (mem_of_getElem? hp)
    refine ⟨⟨?_, ?_, ?_⟩, fun hlength => ?_⟩
    · rw [hpages]
      exact hdistinct
    · intro r hr r' hr' heq
      rcases hcases r hr with hr | ⟨hserial, hurl⟩
      · rcases hcases r' hr' with hr' | ⟨hserial', hurl'⟩
        · exact hold.requests r hr r' hr' heq
        · exact absurd (heq.trans hurl') (hapart r hr)
      · rcases hcases r' hr' with hr' | ⟨hserial', hurl'⟩
        · exact absurd (heq.symm.trans hurl) (hapart r' hr')
        · rw [hserial, hserial']
    · intro r hr i p hp heq
      rw [hpages] at hp
      rcases hcases r hr with hr | ⟨hserial, hurl⟩
      · exact hold.fresh r hr i p hp heq
      · exfalso
        apply hnew
        rw [← hurl, ← heq]
        exact mem_map_of_mem (mem_of_getElem? hp)
    · rw [hpages] at hlength
      omega
  · have htraced' : Traced m' := by
      intro r hr
      rw [hpages]
      rcases hcases r hr with hr | ⟨hserial, hurl⟩
      · obtain ⟨p, hp, hpr⟩ := htraced r hr
        exact ⟨p, getElem?_snoc_of_lt hp, hpr⟩
      · refine ⟨record, ?_, hrecord.trans hurl.symm⟩
        rw [hserial, getElem?_append_right (le_refl _)]
        simp
    refine ⟨fetchedOnce_of_traced ?_ htraced', fun _ => htraced'⟩
    rw [hpages, map_append, nodup_append']
    refine ⟨hdistinct, by simp, ?_⟩
    simpa [hrecord] using hnew

/-- What keeps the pages apart in a machine that is crawling. -/
def Apart (m : CrawlMachine) : Prop := (∃ root, Fits m root) ∧ Traced m

theorem fetchedOnce_step (hphase : m.phase = .crawling) (h : Apart m)
    (hround : c.observed = true ∨ c.TidyRound m) :
    FetchedOnce (c.step m) ∧ ((c.step m).phase = .crawling → Apart (c.step m)) := by
  obtain ⟨⟨root, hfits⟩, htraced⟩ := h
  obtain ⟨hdistinct, -, hdisjoint⟩ := nodup_append'.mp hfits.distinct
  have hturn := turn_cases (c := c) m
  have hstep := step_of_crawling (c := c) hphase
  have hfits' : (c.step m).phase = .crawling → ∃ root, Fits (c.step m) root := by
    intro hcrawling
    obtain ⟨m', midRetry, heq, hemit⟩ := turn_of_step hphase hcrawling
    have hm' : ∃ root, Fits m' root := by
      rcases hround with hobserved | htidy
      · exact fits_of_emitted hobserved (hemit ▸ hcrawling)
      · exact ⟨root, hfits.turn htidy (heq ▸ hturn)⟩
    rw [hemit]
    simpa [Fits] using hm'
  rcases hturn.added with ⟨hrequests, hsame, -⟩ | ⟨page, rest, j, hfront, hadded⟩
  · have hpages' : (c.step m).pages = m.pages := by
      rw [hstep, settle_pages, hsame]
    have hrequests' : (c.step m).requests = m.requests := by
      rw [hstep, settle_requests, hrequests]
    have htraced' : Traced (c.step m) := by
      unfold Traced
      rw [hpages', hrequests']
      exact htraced
    refine ⟨fetchedOnce_of_traced ?_ htraced', fun hcrawling => ⟨hfits' hcrawling, htraced'⟩⟩
    rw [hpages']
    exact hdistinct
  · have hadded' : Added c m (c.step m) page j := by
      refine ⟨?_, hadded.guard, hadded.perPage, ?_, ?_, ?_⟩
      · rw [hstep, settle_requests, hadded.requests]
      · rw [hstep, settle_attemptsUsed]
        exact hadded.attempts
      · rw [hstep, settle_attemptsUsed]
        exact hadded.within
      · rw [hstep, settle_pages]
        exact hadded.pages
    have hnew : page.url ∉ m.pages.map (·.url) := by
      intro hmem
      exact hdisjoint hmem (by simp [hfront])
    obtain ⟨honce, htraced'⟩ := hadded'.fetchedOnce hdistinct hnew htraced
    refine ⟨honce, fun hcrawling => ⟨hfits' hcrawling, htraced' ?_⟩⟩
    obtain ⟨m', midRetry, heq, hemit⟩ := turn_of_step hphase hcrawling
    rw [hemit, emitCheckpoint_pages]
    exact length_of_turned (heq ▸ hturn)

theorem fetchedOnce_iterate (h : m.phase = .crawling → Apart m) (honce : FetchedOnce m) (n : Nat)
    (hrounds : ∀ k < n, c.observed = true ∨ c.TidyRound (c.step^[k] m)) :
    FetchedOnce (c.step^[n] m) ∧
      ((c.step^[n] m).phase = .crawling → Apart (c.step^[n] m)) := by
  induction n with
  | zero => exact ⟨honce, h⟩
  | succ n ih =>
    rw [Function.iterate_succ_apply']
    obtain ⟨honce, hapart⟩ := ih fun k hk => hrounds k (Nat.lt_succ_of_lt hk)
    by_cases hphase : (c.step^[n] m).phase = .crawling
    · exact fetchedOnce_step hphase (hapart hphase) (hrounds n (Nat.lt_succ_self n))
    · rw [step_of_not_crawling hphase]
      exact ⟨honce, hapart⟩

/-! ## The beginning -/

section

variable (c m) (midRetry : Bool)

theorem kept_emitCheckpoint (hrequests : m.requests = [])
    (hroom : m.pages.length + m.queue.length ≤ c.policy.maximumPages)
    (hdepth : ∀ page ∈ m.queue, page.depth ≤ c.policy.maximumDepth)
    (hattempts : m.attemptsUsed ≤ c.policy.maximumRequestAttempts) :
    Kept c (c.emitCheckpoint m midRetry) where
  origin := by simp [hrequests]
  depth := by simp [hrequests]
  pages := by simpa using hroom
  attempts := by simpa [hrequests] using hattempts
  attemptsPerPage := by simp [hrequests]
  queueDepth := by simpa using hdepth
  past := by simp [hrequests]

end

theorem apart_emitCheckpoint {midRetry : Bool} (hrequests : m.requests = [])
    (h : c.observed = true ∨ ∃ root, Fits m root)
    (hphase : (c.emitCheckpoint m midRetry).phase = .crawling) :
    Apart (c.emitCheckpoint m midRetry) := by
  have hfits : ∃ root, Fits m root := by
    rcases h with hobserved | hfits
    · exact fits_of_emitted hobserved hphase
    · exact hfits
  refine ⟨?_, ?_⟩
  · simpa [Fits] using hfits
  · simp [Traced, hrequests]

end Crawl

namespace CrawlCall

open Crawl

variable {call : CrawlCall} {tick : Nat} {c : Crawl} {m : CrawlMachine}

theorem fits_freshMachine {root : CrawlPendingPage} {rootUrl : Text}
    (hplace : root.place = (stripped rootUrl, 0, none)) (htidy : stripped rootUrl = rootUrl) :
    Fits (freshMachine root rootUrl tick) rootUrl := by
  rw [htidy] at hplace
  have hurl : root.url = rootUrl := congrArg Prod.fst hplace
  refine ⟨?_, ?_, ?_, ?_⟩
  · simp [freshMachine, crawlUrls]
  · simp [freshMachine, startsAtRoot, hplace]
  · simp [freshMachine, crawlUrls, hurl]
  · simp [freshMachine, attemptCount]

theorem fits_resumedMachine (state : CrawlResumeState) :
    Fits (resumedMachine state tick) state.rootUrl := by
  obtain ⟨hstate, -⟩ := state.resumable
  refine ⟨hstate.distinct, hstate.root, ?_, hstate.attempts_eq⟩
  have hvisited : state.visitedUrls =
      (SortedSet.ofList (crawlUrls state.pages state.pendingPages)).toList := hstate.visited_eq
  simp only [resumedMachine]
  rw [hvisited, SortedSet.ofList_toList]

variable {resume : Option CrawlResumeState}

theorem context_of_begin (h : call.begin resume tick = .ok (c, m)) :
    c.target = call.target ∧ c.policy = call.policy ∧ c.retryPolicy = call.retryPolicy := by
  cases resume with
  | none =>
    obtain ⟨rootUrl, root, -, rfl, -⟩ := begin_fresh h
    exact ⟨rfl, rfl, rfl⟩
  | some state =>
    obtain ⟨-, rfl, -⟩ := begin_resumed h
    exact ⟨rfl, rfl, rfl⟩

theorem kept_begin (h : call.begin resume tick = .ok (c, m)) : Kept c m := by
  cases resume with
  | none =>
    obtain ⟨rootUrl, root, -, rfl, hplace, rfl⟩ := begin_fresh h
    have hdepth : root.depth = 0 := congrArg (·.2.1) hplace
    have hpages := call.policy.pages_bounds.1
    apply kept_emitCheckpoint
    · rfl
    · simpa [freshMachine, CrawlCall.crawl] using hpages
    · simp [freshMachine, hdepth]
    · exact Nat.zero_le _
  | some state =>
    obtain ⟨-, rfl, hroom, -, hdepth, hattempts, rfl⟩ := begin_resumed h
    apply kept_emitCheckpoint
    · rfl
    · exact hroom
    · exact hdepth
    · exact hattempts

theorem apart_begin (h : call.begin resume tick = .ok (c, m))
    (hroot : resume = none → c.observed = true ∨ stripped c.rootUrl = c.rootUrl) :
    (m.phase = .crawling → Apart m) ∧ FetchedOnce m := by
  cases resume with
  | none =>
    obtain ⟨rootUrl, root, -, rfl, hplace, rfl⟩ := begin_fresh h
    constructor
    · apply apart_emitCheckpoint
      · rfl
      · rcases hroot rfl with hobserved | htidy
        · exact Or.inl hobserved
        · exact Or.inr ⟨rootUrl, fits_freshMachine hplace htidy⟩
    · refine ⟨?_, ?_, ?_⟩ <;> simp [freshMachine]
  | some state =>
    obtain ⟨-, rfl, -, -, -, -, rfl⟩ := begin_resumed h
    have hfits : Fits (resumedMachine state tick) state.rootUrl := fits_resumedMachine state
    have hdistinct : (state.pages.map (·.url)).Nodup :=
      (nodup_append'.mp hfits.distinct).1
    constructor
    · apply apart_emitCheckpoint
      · rfl
      · exact Or.inr ⟨state.rootUrl, hfits⟩
    · refine ⟨?_, ?_, ?_⟩
      · simpa [resumedMachine] using hdistinct
      · simp [resumedMachine]
      · simp [resumedMachine]

end CrawlCall

/-! ## The envelope -/

/--
**The safety envelope of a crawl.**

The last part has a condition: the root, and the links of each page that is fetched, are stored
as they were found, or there is an observer.
-/
theorem crawl_safety_envelope {call : CrawlCall} {resume : Option CrawlResumeState} {tick : Nat}
    {c : Crawl} {m : CrawlMachine} (h : call.begin resume tick = .ok (c, m)) (n : Nat) :
    (c.target = call.target ∧ c.policy = call.policy ∧ c.retryPolicy = call.retryPolicy) ∧
      Enveloped c (c.step^[n] m) ∧
      (call.policy.maximumPages < n → (c.step^[n] m).phase ≠ .crawling) ∧
      ((resume = none → c.observed = true ∨ stripped c.rootUrl = c.rootUrl) →
        (∀ k < n, c.observed = true ∨ c.TidyRound (c.step^[k] m)) →
          FetchedOnce (c.step^[n] m)) := by
  have hkept := CrawlCall.kept_begin h
  have hcontext := CrawlCall.context_of_begin h
  refine ⟨hcontext, (Crawl.kept_iterate hkept n).toEnveloped, ?_, ?_⟩
  · intro hn
    apply Crawl.not_crawling hkept
    rw [hcontext.2.1]
    exact hn
  · intro hroot hrounds
    obtain ⟨hapart, honce⟩ := CrawlCall.apart_begin h hroot
    exact (Crawl.fetchedOnce_iterate hapart honce n hrounds).1

omit [StandardLibrary] in
/-- An observed crawl of a page that links to itself. -/
theorem crawl_safety_envelope_observed :
    letI := sampleLibrary
    ∃ c m, (sampleCrawlCall (.responded (sampleResponse ["/a", "/"])) true).begin none 0 = .ok (c, m) ∧
      Enveloped c (c.step^[2] m) ∧ FetchedOnce (c.step^[2] m) := by
  let _ := sampleLibrary
  have hbegin : (sampleCrawlCall (.responded (sampleResponse ["/a", "/"])) true).begin none 0 =
      .ok (_, _) := rfl
  obtain ⟨-, henvelope, -, honce⟩ := crawl_safety_envelope hbegin 2
  exact ⟨_, _, hbegin, henvelope, honce (fun _ => Or.inl rfl) (fun _ _ => Or.inl rfl)⟩

omit [StandardLibrary] in
/-- A link with a no-break space at its end: the page `/a` is fetched twice. -/
theorem page_fetched_twice :
    letI := sampleLibrary
    ∃ c m, (sampleCrawlCall (.responded (sampleResponse ["/a", "/a\u00a0?x=1"])) false).begin none 0 =
      .ok (c, m) ∧ ¬ FetchedOnce (c.step^[3] m) := by
  let _ := sampleLibrary
  refine ⟨_, _, rfl, ?_⟩
  intro h
  exact absurd h.pages (by decide +kernel)

end WebGuard
