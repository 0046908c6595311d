import WebGuard.Crawler.Crawl

/-!
# What a round of the crawl can do

One lemma for each loop of `crawl_same_origin`, and one for the round as a whole
(`turn_cases`): it says everything that a round can end in, so that no invariant has to look at
the code again.
-/

namespace WebGuard

open UrlParse StandardLibrary SortedSet CrawlPageRecord
open List hiding partition

variable [StandardLibrary]

namespace Crawl

variable {c : Crawl}

/-! ## Links -/

theorem collect_spec (baseUrl : Text) (visited : SortedSet Text) (hrefs : List Text)
    (skipCounts : SkipCounts) (candidates : SortedSet Text) :
    let result := c.collect baseUrl visited hrefs skipCounts candidates
    (∀ url ∈ result.2, url ∈ candidates ∨ url ∉ visited ∧ ∃ href ∈ hrefs,
      canonicalCandidate href baseUrl c.target.origin c.policy = .ok url) ∧
    result.2.toList.length ≤ candidates.toList.length + hrefs.length ∧
    ∀ reason, result.1 reason + result.2.toList.length ≤
      skipCounts reason + candidates.toList.length + hrefs.length := by
  induction hrefs generalizing skipCounts candidates with
  | nil => simp [collect]
  | cons href rest ih =>
    rw [collect]
    cases hcandidate : canonicalCandidate href baseUrl c.target.origin c.policy with
    | error why =>
      obtain ⟨hnew, hlength, hcount⟩ := ih (skipCounts.add why 1) candidates
      refine ⟨?_, by simp only [length_cons]; omega, ?_⟩
      · intro url hurl
        rcases hnew url hurl with h | ⟨hvisited, other, hother, h⟩
        · exact Or.inl h
        · exact Or.inr ⟨hvisited, other, mem_cons_of_mem href hother, h⟩
      · intro reason
        have := hcount reason
        rw [SkipCounts.add_apply] at this
        simp only [length_cons]
        split at this <;> omega
    | ok candidate =>
      simp only
      by_cases hseen : candidate ∈ visited ∨ candidate ∈ candidates
      · rw [if_pos hseen]
        obtain ⟨hnew, hlength, hcount⟩ := ih (skipCounts.add .duplicate 1) candidates
        refine ⟨?_, by simp only [length_cons]; omega, ?_⟩
        · intro url hurl
          rcases hnew url hurl with h | ⟨hvisited, other, hother, h⟩
          · exact Or.inl h
          · exact Or.inr ⟨hvisited, other, mem_cons_of_mem href hother, h⟩
        · intro reason
          have := hcount reason
          rw [SkipCounts.add_apply] at this
          simp only [length_cons]
          split at this <;> omega
      · rw [if_neg hseen]
        obtain ⟨hnew, hlength, hcount⟩ := ih skipCounts (candidates.insert candidate)
        have hinsert := length_insert_le candidate candidates
        refine ⟨?_, by simp only [length_cons]; omega, ?_⟩
        · intro url hurl
          rcases hnew url hurl with h | ⟨hvisited, other, hother, h⟩
          · rcases mem_insert.mp h with rfl | h
            · exact Or.inr ⟨fun hv => hseen (Or.inl hv), href, mem_cons_self, hcandidate⟩
            · exact Or.inl h
          · exact Or.inr ⟨hvisited, other, mem_cons_of_mem href hother, h⟩
        · intro reason
          have := hcount reason
          simp only [length_cons]
          omega

/-- What the links of a page add to the queue. -/
structure Enqueued (c : Crawl) (done : Nat) (page : CrawlPendingPage) (candidates : List Text)
    (d d' : Discovery) (added : List CrawlPendingPage) (taken : List Text) : Prop where
  sublist : taken.Sublist candidates
  queue : d'.queue = d.queue ++ added
  urls : added.map (·.url) = taken.map stripped
  places : ∀ pending ∈ added, pending.depth = page.depth + 1 ∧ pending.parentUrl = some page.url
  visited : d'.visited = taken.foldl (fun visited url => visited.insert url) d.visited
  queuedLinks : d'.queuedLinks = d.queuedLinks + taken.length
  skipCounts : ∀ reason, d'.skipCounts reason ≤ d.skipCounts reason + candidates.length
  room : done + 1 + d.queue.length ≤ c.policy.maximumPages →
    done + 1 + d'.queue.length ≤ c.policy.maximumPages

variable {page : CrawlPendingPage} {response : SafeHttpResponse} {t : Text}
  {before : List RequestAttempt} {spent : Expended}

theorem pending_new {pending : CrawlPendingPage} {candidate : Text}
    (h : CrawlPendingPage.new ⟨candidate, page.depth + 1, some page.url⟩ = .ok pending) :
    pending.url = stripped candidate ∧ pending.depth = page.depth + 1 ∧
      pending.parentUrl = some page.url := by
  obtain ⟨hurl, hparent, hdepth, -, -⟩ :=
    CrawlPendingPageFields.postInit_eq_ok.mp (CrawlPendingPage.new_eq_ok.mp h)
  refine ⟨(auditUrl_eq_ok.mp hurl).1, hdepth, ?_⟩
  obtain ⟨url, hurl, h⟩ := Atomic.bind_ok hparent
  have hsame : url = page.url := Except.ok.inj (hurl.symm.trans (page.audited _))
  rw [← hsame]
  exact (Except.ok.inj h).symm

theorem enqueue_spec {done : Nat} {candidates : List Text} {d d' : Discovery}
    (h : c.enqueue done page candidates d = .ok d') :
    ∃ added taken, Enqueued c done page candidates d d' added taken := by
  induction candidates generalizing d with
  | nil =>
    cases h
    exact ⟨[], [], nil_sublist [], by simp, rfl, by simp, rfl, rfl, by simp, id⟩
  | cons candidate rest ih =>
    rw [enqueue] at h
    split at h
    · obtain ⟨added, taken, e⟩ := ih h
      refine ⟨added, taken, e.sublist.cons candidate, e.queue, e.urls, e.places, e.visited,
        e.queuedLinks, ?_, e.room⟩
      intro reason
      have := e.skipCounts reason
      simp only [SkipCounts.add_apply] at this
      simp only [length_cons]
      split at this <;> omega
    · next hroom =>
      split at h
      · cases h
      next pending hnew =>
      obtain ⟨added, taken, e⟩ := ih h
      obtain ⟨hurl, hdepth, hparent⟩ := pending_new hnew
      refine ⟨pending :: added, candidate :: taken, e.sublist.cons_cons candidate, ?_, ?_, ?_, ?_, ?_,
        ?_, ?_⟩
      · rw [e.queue, append_assoc, singleton_append]
      · rw [map_cons, map_cons, hurl, e.urls]
      · intro other hother
        rcases mem_cons.mp hother with rfl | hother
        · exact ⟨hdepth, hparent⟩
        · exact e.places other hother
      · rw [e.visited, foldl_cons]
      · have := e.queuedLinks
        simp only at this
        simp only [length_cons]
        omega
      · intro reason
        have := e.skipCounts reason
        simp only at this
        simp only [length_cons]
        omega
      · intro _
        apply e.room
        simp only [length_append, length_singleton]
        omega

/-- What `discover` leaves behind. -/
structure Discovered (c : Crawl) (done : Nat) (page : CrawlPendingPage)
    (response : SafeHttpResponse) (d d' : Discovery) (links : Nat)
    (added : List CrawlPendingPage) (taken : List Text) : Prop where
  nodup : taken.Nodup
  fresh : ∀ url ∈ taken, url ∉ d.visited ∧ ∃ href ∈ response.hrefs,
    canonicalCandidate href page.url c.target.origin c.policy = .ok url
  queue : d'.queue = d.queue ++ added
  urls : added.map (·.url) = taken.map stripped
  places : ∀ pending ∈ added, pending.depth = page.depth + 1 ∧ pending.parentUrl = some page.url
  shallow : added ≠ [] → page.depth < c.policy.maximumDepth
  visited : d'.visited = taken.foldl (fun visited url => visited.insert url) d.visited
  queuedLinks : d'.queuedLinks = d.queuedLinks + taken.length
  links : taken.length ≤ links ∧ links ≤ c.policy.maximumLinksPerPage
  skipCounts : ∀ reason, d'.skipCounts reason ≤ d.skipCounts reason + response.hrefs.length
  room : done + 1 + d.queue.length ≤ c.policy.maximumPages →
    done + 1 + d'.queue.length ≤ c.policy.maximumPages

theorem collect_links (page : CrawlPendingPage) (response : SafeHttpResponse) (d : Discovery) :
    let hrefs := response.hrefs.take c.policy.maximumLinksPerPage
    let result := c.collect page.url d.visited hrefs
      (d.skipCounts.add .linkLimit (response.hrefs.length - c.policy.maximumLinksPerPage))
      empty
    (∀ url ∈ result.2, url ∉ d.visited ∧ ∃ href ∈ response.hrefs,
      canonicalCandidate href page.url c.target.origin c.policy = .ok url) ∧
    result.2.toList.length ≤ hrefs.length ∧
    ∀ reason, result.1 reason + result.2.toList.length ≤
      d.skipCounts reason + response.hrefs.length := by
  intro hrefs result
  obtain ⟨hnew, hlength, hcount⟩ := collect_spec (c := c) page.url d.visited hrefs
    (d.skipCounts.add .linkLimit (response.hrefs.length - c.policy.maximumLinksPerPage))
    empty
  have hbound : hrefs.length + (response.hrefs.length - c.policy.maximumLinksPerPage) =
      response.hrefs.length := by
    simp only [hrefs, length_take]
    omega
  have hempty : (empty : SortedSet Text).toList.length = 0 := rfl
  refine ⟨?_, ?_, ?_⟩
  · intro url hurl
    rcases hnew url hurl with h | ⟨hvisited, href, hhref, h⟩
    · exact absurd h not_mem_empty
    · exact ⟨hvisited, href, mem_of_mem_take hhref, h⟩
  · rw [hempty, Nat.zero_add] at hlength
    exact hlength
  · intro reason
    have hreason : result.1 reason + result.2.toList.length ≤ _ := hcount reason
    rw [SkipCounts.add_apply, hempty] at hreason
    split at hreason <;> omega

theorem depth_lt_of_follows (h : c.follows page response = true) :
    page.depth < c.policy.maximumDepth := by
  rw [follows, Bool.and_eq_true, decide_eq_true_eq] at h
  exact h.2

theorem discover_spec {done : Nat} {d d' : Discovery} {links : Nat}
    (h : c.discover done page response d = .ok (d', links)) :
    ∃ added taken, Discovered c done page response d d' links added taken := by
  unfold discover at h
  split at h
  · next hfollows =>
    obtain ⟨hfresh, hlength, hcounts⟩ := collect_links (c := c) page response d
    simp only at h
    split at h
    · cases h
    next d₁ henqueue =>
    cases h
    obtain ⟨added, taken, e⟩ := enqueue_spec henqueue
    have hdepth := depth_lt_of_follows hfollows
    refine ⟨added, taken, e.sublist.nodup (nodup_toList _), ?_, e.queue, e.urls, e.places,
      fun _ => hdepth, e.visited, e.queuedLinks, ⟨?_, ?_⟩, ?_, e.room⟩
    · intro url hurl
      exact hfresh url (e.sublist.subset hurl)
    · exact le_trans e.sublist.length_le hlength
    · simp only [length_take]
      omega
    · intro reason
      exact le_trans (e.skipCounts reason) (hcounts reason)
  · cases h
    exact ⟨[], [], nodup_nil, by simp, by simp, rfl, by simp, by simp, rfl, rfl, by simp,
      by simp, id⟩

/-! ## Page records -/

omit [StandardLibrary] in
theorem range_of_isMediaType (h : isMediaType t = true) :
    ∀ c ∈ t, 33 ≤ c.toNat ∧ c.toNat < 127 ∧ (c.toNat < 65 ∨ 90 < c.toNat) := by
  have hmedia : ∀ c, isMediaCharacter c = true →
      33 ≤ c.toNat ∧ c.toNat < 127 ∧ (c.toNat < 65 ∨ 90 < c.toNat) := by
    intro c hc
    simp only [isMediaCharacter, Bool.or_eq_true, contains_eq_mem, decide_eq_true_eq] at hc
    rcases hc with (hc | hc) | hc
    · have := range_of_isAuthorityCharacter (c := c)
        (by simp [isAuthorityCharacter, isHostCharacter, hc])
      omega
    · have := range_of_isAuthorityCharacter (c := c)
        (by simp [isAuthorityCharacter, isHostCharacter, hc])
      omega
    · have hall : ∀ d ∈ "!#$&^_.+-".toList,
          33 ≤ d.toNat ∧ d.toNat < 127 ∧ (d.toNat < 65 ∨ 90 < d.toNat) :=
        forall_iff_forall_mem.mp (by decide)
      exact hall c hc
  unfold isMediaType at h
  simp only [Bool.and_eq_true, all_eq_true] at h
  obtain ⟨⟨⟨⟨-, htype⟩, hslash⟩, -⟩, hsub⟩ := h
  have hmem : '/' ∈ t := by simpa [partition] using hslash
  intro c hc
  rw [append_partition hmem] at hc
  rcases mem_append.mp hc with hc | hc
  · exact hmedia c (htype c hc)
  · rcases mem_cons.mp hc with rfl | hc
    · decide
    · exact hmedia c (hsub c hc)

theorem normaliseMediaType_eq_self (h : isMediaType t = true) (fieldName : String) :
    normaliseMediaType t fieldName = .ok t := by
  have hrange := range_of_isMediaType h
  have hspace : ∀ c ∈ t, isSpace c = false := by
    intro c hc
    have := hrange c hc
    simp only [isSpace, Bool.or_eq_false_iff, Bool.and_eq_false_iff, decide_eq_false_iff_not,
      beq_eq_false_iff_ne, ne_eq]
    omega
  have hstrip : stripped t = t := trim_eq_self hspace
  have hlower : lower t = t := by
    have hascii : ∀ c ∈ t, c.toNat < 128 := by
      intro c hc
      have := hrange c hc
      omega
    rw [lower_ascii t hascii]
    calc t.map Char.toLower = t.map id := map_congr_left fun c hc =>
          char_toLower_eq_self (hrange c hc).2.2
      _ = t := map_id t
  unfold normaliseMediaType
  simp only [hstrip, hlower, h, require, if_true]
  rfl

theorem isMediaType_of_response (h : responseContentType response = some t) :
    isMediaType t = true := by
  unfold responseContentType at h
  simp only at h
  split at h
  · cases h
  · split at h
    · next hcond =>
      cases h
      exact (Bool.and_eq_true _ _ ▸ hcond).2
    · cases h

theorem exists_record (page : CrawlPendingPage) {outcome : CrawlPageOutcome}
    {final : RequestAttempt} (hnumbered : Numbered (before ++ [final]))
    (houtcome : ∃ checked, outcome.check final.outcome = .ok checked) :
    ∃ record, new
      ⟨page.url, page.depth, page.parentUrl, outcome, before ++ [final]⟩ = .ok record := by
  obtain ⟨checked, hchecked⟩ := houtcome
  have hfields : (⟨page.url, page.depth, page.parentUrl, outcome, before ++ [final]⟩ :
      CrawlPageRecordFields).postInit =
        .ok ⟨page.url, page.depth, page.parentUrl, checked, before ++ [final]⟩ := by
    unfold CrawlPageRecordFields.postInit
    simp only [Atomic.bind_ok_iff, require_eq_ok]
    refine ⟨_, page.audited _, _, page.parentAudited _, (), by simpa using page.depth_le, (), ?_, ?_⟩
    · unfold Numbered at hnumbered
      simpa using hnumbered
    · simp only [getLast?_append, getLast?_singleton, Option.some_or]
      rw [hchecked]
      rfl
  exact ⟨⟨_, _, hfields⟩, new_eq_ok.mpr hfields⟩

theorem exists_failed_record (page : CrawlPendingPage) {n : Nat} {code : RequestErrorCode}
    {retryable scheduled : Bool} {backoff : ℚ}
    (hnumbered : Numbered (before ++ [⟨n, .failed code retryable scheduled backoff⟩])) :
    ∃ record, new
      ⟨page.url, page.depth, page.parentUrl, .failed code retryable,
        before ++ [⟨n, .failed code retryable scheduled backoff⟩]⟩ = .ok record := by
  apply exists_record page hnumbered
  exact ⟨.failed code retryable, by simp [CrawlPageOutcome.check, require]⟩

theorem exists_succeeded_record (page : CrawlPendingPage) {n : Nat} {links queued : Nat}
    (hnumbered : Numbered
      (before ++ [⟨n, .succeeded response.connectedAddress response.status⟩]))
    (hstatus : 100 ≤ response.status ∧ response.status ≤ 599) (hqueued : queued ≤ links)
    (hlinks : links ≤ 500) :
    ∃ record, new
      ⟨page.url, page.depth, page.parentUrl,
        .succeeded (responseContentType response) response.connectedAddress response.status
          links queued,
        before ++ [⟨n, .succeeded response.connectedAddress response.status⟩]⟩ = .ok record := by
  apply exists_record page hnumbered
  have htype : (responseContentType response).mapM (normaliseMediaType · "page_content_type") =
      .ok (responseContentType response) := by
    cases htype : responseContentType response with
    | none => rfl
    | some t =>
      show (normaliseMediaType t "page_content_type" >>= fun a => pure (some a)) = _
      rw [normaliseMediaType_eq_self (isMediaType_of_response htype)]
      rfl
  have hle : queued ≤ 500 := le_trans hqueued hlinks
  refine ⟨.succeeded (responseContentType response) response.connectedAddress response.status
    links queued, ?_⟩
  unfold CrawlPageOutcome.check
  simp only [hlinks, hle, hqueued, htype, hstatus, require, decide_true, Bool.and_self, if_true]
  rfl

/-! ## The round -/

variable (c) in
/-- The budget that a fetch of the next page begins with. -/
def spentBefore (m : CrawlMachine) : Expended := ⟨m.attemptsUsed, m.tick + 4, m.requests⟩

/-- A round that came to fetch the page at the front of the queue. -/
structure Fetching (c : Crawl) (m : CrawlMachine) (page : CrawlPendingPage)
    (rest : List CrawlPendingPage) (result : Except CrawlFault FetchOutcome) (spent : Expended) :
    Prop where
  queue : m.queue = page :: rest
  room : m.pages.length < c.policy.maximumPages
  free : c.holdBack m = none
  fetch : c.fetchNext m page = (result, spent)
  spec : Fetched c m.pages.length page (c.retryPolicy.maximumAttempts - 1) [] (spentBefore m)
    (result, spent)

/-- Everything that a round can do. -/
inductive Turned (c : Crawl) (m : CrawlMachine) : Turn → Prop where
  /-- The loop condition does not hold any more. -/
  | ended (h : m.queue = [] ∨ c.policy.maximumPages ≤ m.pages.length) :
      Turned c m (.leave m .completed)
  /-- The budget is used up before a page is taken. -/
  | heldBack (reason : CrawlTerminationReason) (hqueue : m.queue ≠ [])
      (hroom : m.pages.length < c.policy.maximumPages) (h : c.holdBack m = some reason) :
      Turned c m (.leave { m with tick := m.tick + 4 } reason)
  /-- The fetch raises. -/
  | raised (page rest spent fault) (h : Fetching c m page rest (.error fault) spent)
      (hfault : fault = .outside ∨ ∃ e, fault = .attempt e) :
      Turned c m (.fail (m.fetched rest spent) fault)
  /-- The budget is used up before the first request for the page. -/
  | returned (page rest spent reason)
      (h : Fetching c m page rest (.ok ⟨none, [], none, some reason⟩) spent)
      (hearly : reason.isEarly = true) :
      Turned c m (.emit { m.fetched rest spent with queue := page :: rest } false (some reason))
  /-- The page failed, or was given up in the middle of its retries. -/
  | failed (page rest spent attempts code retryable reason record)
      (h : Fetching c m page rest (.ok ⟨none, attempts, some (code, retryable), reason⟩) spent)
      (hne : attempts ≠ [])
      (hearly : ∀ r, reason = some r → r.isEarly = true)
      (hrecord : new
        ⟨page.url, page.depth, page.parentUrl, .failed code retryable, attempts⟩ = .ok record) :
      Turned c m (.emit { m.fetched rest spent with pages := m.pages ++ [record] } reason.isSome
        (reason <|> if page.depth = 0 then some .rootRequestFailed else none))
  /-- A link of the page cannot be put on the queue. -/
  | refused (page rest spent response attempts fault)
      (h : Fetching c m page rest (.ok ⟨some response, attempts, none, none⟩) spent)
      (hdiscover : c.discover m.pages.length page response ⟨rest, m.visited, m.skipCounts, 0⟩ =
        .error fault) :
      Turned c m (.fail (m.fetched rest spent) fault)
  /-- The page succeeded. -/
  | succeeded (page rest spent response attempts d links record)
      (h : Fetching c m page rest (.ok ⟨some response, attempts, none, none⟩) spent)
      (hdiscover : c.discover m.pages.length page response ⟨rest, m.visited, m.skipCounts, 0⟩ =
        .ok (d, links))
      (hrecord : new
        ⟨page.url, page.depth, page.parentUrl,
          .succeeded (responseContentType response) response.connectedAddress response.status
            links d.queuedLinks, attempts⟩ = .ok record) :
      Turned c m (.emit
        { m.fetched rest spent with
          pages := m.pages ++ [record], queue := d.queue, visited := d.visited
          skipCounts := d.skipCounts } false none)

theorem fault_of_fetchFrom {serial : Nat} {retries : Nat} {attempts : List RequestAttempt}
    {fault : CrawlFault} (h : (c.fetchFrom serial page retries attempts spent).1 = .error fault) :
    fault = .outside ∨ ∃ e, fault = .attempt e := by
  have hattempted : ∀ (attempts : List RequestAttempt) (result : Except CrawlFault FetchOutcome),
      Attempted attempts result → result = .error fault →
        fault = .outside ∨ ∃ e, fault = .attempt e := by
    intro attempts result hresult heq
    cases hresult with
    | outside =>
      cases heq
      exact Or.inl rfl
    | status e =>
      cases heq
      exact Or.inr ⟨e, rfl⟩
    | responded => cases heq
    | failed => cases heq
  induction retries generalizing attempts spent with
  | zero =>
    rw [fetchFrom] at h
    rcases attemptOnce_cases c serial page attempts spent none with
      ⟨reason, -, heq⟩ | ⟨-, ⟨result, hresult, heq⟩ | ⟨next, code, delay, hnext, -⟩⟩
    · rw [heq] at h
      cases h
    · rw [heq] at h
      exact hattempted attempts result hresult h
    · cases hnext
  | succ k ih =>
    rw [fetchFrom] at h
    rcases attemptOnce_cases c serial page attempts spent (some fun attempt =>
        c.fetchFrom serial page k (attempts ++ [attempt]) (c.spentOn serial page spent)) with
      ⟨reason, -, heq⟩ | ⟨-, ⟨result, hresult, heq⟩ | ⟨next, code, delay, hnext, heq⟩⟩
    · rw [heq] at h
      cases h
    · rw [heq] at h
      exact hattempted attempts result hresult h
    · rw [heq] at h
      cases hnext
      exact ih h

variable {m : CrawlMachine} {rest : List CrawlPendingPage} {outcome : FetchOutcome}

theorem afterFailure_turned (h : Fetching c m page rest (.ok outcome) spent)
    (hresponse : outcome.response = none) :
    Turned c m (afterFailure (m.fetched rest spent) page outcome) := by
  have hnumbered := h.spec.numbered outcome rfl rfl
  cases h.spec.concluded outcome rfl with
  | responded => cases hresponse
  | stopped reason hearly => exact .returned page rest spent reason h hearly
  | failed before n code retryable scheduled backoff reason hearly =>
    obtain ⟨record, hrecord⟩ := exists_failed_record page hnumbered
    have hcons : ∃ first others, before ++ [⟨n, .failed code retryable scheduled backoff⟩] =
        (first :: others : List RequestAttempt) := by
      cases before with
      | nil => exact ⟨_, _, rfl⟩
      | cons first others => exact ⟨_, _, rfl⟩
    obtain ⟨first, others, hcons⟩ := hcons
    have hturn := Turned.failed page rest spent _ code retryable reason record h
      (by simp) hearly hrecord
    have hrecorded : recordFailure (m.fetched rest spent) page
        ⟨none, before ++ [⟨n, .failed code retryable scheduled backoff⟩], some (code, retryable),
          reason⟩ = .ok { m.fetched rest spent with pages := m.pages ++ [record] } := by
      unfold recordFailure
      rw [hcons] at hrecord ⊢
      simp only [hrecord]
      rfl
    have hmid : (reason.isSome &&
        !(before ++ [(⟨n, .failed code retryable scheduled backoff⟩ : RequestAttempt)]).isEmpty) =
          reason.isSome := by
      rw [hcons]
      simp
    unfold afterFailure
    rw [hrecorded]
    simp only [hmid]
    exact hturn

theorem afterResponse_turned (h : Fetching c m page rest (.ok outcome) spent)
    (hresponse : outcome.response = some response) :
    Turned c m (c.afterResponse (m.fetched rest spent) page response outcome.attempts) := by
  have hnumbered := h.spec.numbered outcome rfl rfl
  cases h.spec.concluded outcome rfl with
  | stopped => cases hresponse
  | failed => cases hresponse
  | responded response' before n hstatus =>
    cases hresponse
    unfold afterResponse
    cases hdiscover : c.discover m.pages.length page response
        ⟨rest, m.visited, m.skipCounts, 0⟩ with
    | error fault =>
      simp only [CrawlMachine.fetched, hdiscover]
      exact .refused page rest spent response _ fault h hdiscover
    | ok result =>
      obtain ⟨d, links⟩ := result
      obtain ⟨added, taken, hd⟩ := discover_spec hdiscover
      have hqueued : d.queuedLinks ≤ links := by
        have := hd.queuedLinks
        have := hd.links.1
        simp only at *
        omega
      have hlinks : links ≤ 500 := le_trans hd.links.2 c.policy.links_bounds.2
      obtain ⟨record, hrecord⟩ :=
        exists_succeeded_record page hnumbered hstatus hqueued hlinks
      simp only [CrawlMachine.fetched, hdiscover, hrecord]
      exact .succeeded page rest spent response _ d links record h hdiscover hrecord

theorem turn_cases (m : CrawlMachine) : Turned c m (c.turn m) := by
  unfold turn
  cases hqueue : m.queue with
  | nil => exact .ended (Or.inl hqueue)
  | cons page rest =>
    simp only
    by_cases hroom : c.policy.maximumPages ≤ m.pages.length
    · rw [if_pos hroom]
      exact .ended (Or.inr hroom)
    · rw [if_neg hroom]
      cases hhold : c.holdBack m with
      | some reason =>
        have hturn := Turned.heldBack reason (by simp [hqueue]) (Nat.lt_of_not_le hroom) hhold
        rw [hqueue] at hturn
        exact hturn
      | none =>
        simp only
        cases hfetch : c.fetchNext m page with
        | mk result spent =>
          have hfetching : Fetching c m page rest result spent :=
            ⟨hqueue, Nat.lt_of_not_le hroom, hhold, hfetch, hfetch ▸ fetchWithRetry_spec _⟩
          cases result with
          | error fault =>
            refine .raised page rest spent fault hfetching ?_
            exact fault_of_fetchFrom (congrArg Prod.fst hfetch)
          | ok outcome =>
            simp only
            cases hresponse : outcome.response with
            | none => exact afterFailure_turned hfetching hresponse
            | some response => exact afterResponse_turned hfetching hresponse

end Crawl

end WebGuard
