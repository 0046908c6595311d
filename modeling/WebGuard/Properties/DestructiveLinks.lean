import WebGuard.Properties.CanonicalUrls
import WebGuard.Properties.LinkAccounts

/-!
# No navigation to a blocked path

A link is accepted after its path was decoded once and compared with the blocked segments. What is
encoded twice passes. The page of a link is stored without white space at its end, which the check
has seen; each request is for an accepted link in this form.
-/

namespace WebGuard

open UrlParse StandardLibrary List

variable [StandardLibrary]

/-! ## Harmless URLs -/

/-- A path without dot segments that, decoded, has no blocked segment. -/
structure HarmlessPath (blocked : List Text) (path : Text) : Prop where
  resolved : ∀ segment ∈ split '/' path, segment ≠ ['.'] ∧ segment ≠ ['.', '.']
  visible : ∀ c ∈ path, c ≠ '\\' ∧ isControlOrSpace c = false
  decoded : ∀ c ∈ lower (unquote path), c ≠ '\\' ∧ isControlOrSpace c = false
  segments : ∀ segment ∈ split '/' (lower (unquote path)), segment ≠ [] → segment ∉ blocked

/-- A URL of the target with such a path. -/
structure Harmless (target : ValidatedTarget) (policy : CrawlPolicy) (url : Text) : Prop where
  origin : SameOrigin target url
  path : ∃ path, urlsplit url =
      some ⟨target.scheme, authority target.hostname target.port target.scheme, path, [], []⟩ ∧
    HarmlessPath policy.blockedPathSegments path

omit [StandardLibrary] in
theorem no_dots_of_normal {path : Text} {slashes : Nat} {parts : List Text} {trailing : Bool}
    (h : NormalPath path slashes parts trailing) :
    ∀ segment ∈ split '/' path, segment ≠ ['.'] ∧ segment ≠ ['.', '.'] := by
  intro segment hsegment
  have hempty : segment = [] ∨ segment ∈ parts := by
    rw [h.eq, rootedPath, append_assoc, split_replicate, mem_append] at hsegment
    rcases hsegment with hsegment | hsegment
    · exact Or.inl (eq_of_mem_replicate hsegment)
    · have hjoin : ∀ s ∈ split '/' (join '/' parts), s = [] ∨ s ∈ parts := by
        intro s hs
        by_cases hne : parts = []
        · rw [hne] at hs
          exact Or.inl (by simpa [join, split] using hs)
        · rw [split_join hne fun part hpart => (h.proper part hpart).slash] at hs
          exact Or.inr hs
      cases trailing with
      | false => exact hjoin segment (by simpa using hsegment)
      | true =>
        rw [if_pos rfl, split_snoc, mem_append, mem_singleton] at hsegment
        exact hsegment.elim (hjoin segment) Or.inl
  rcases hempty with rfl | hpart
  · exact ⟨by simp, by simp⟩
  · exact ⟨(h.proper segment hpart).ne_dot, (h.proper segment hpart).ne_dots⟩

variable {policy : CrawlPolicy}

theorem harmlessPath_of_accepted {parsed : SplitResult} {origin : Origin} {path url : Text}
    (h : AcceptedLink parsed origin policy path url) :
    HarmlessPath policy.blockedPathSegments path := by
  have hclean := clean_of_normalisePath h.normal h.rooted
  have hharmless := h.harmless
  unfold isDestructivePath at hharmless
  dsimp only at hharmless
  simp only [Bool.or_eq_false_iff] at hclean hharmless
  obtain ⟨⟨hbackslash, hcontrol⟩, hblocked⟩ := hharmless
  refine ⟨no_dots_of_normal (exists_normalPath h.normal h.rooted), ?_, ?_, ?_⟩
  · intro c hc
    refine ⟨?_, by simpa using any_eq_false.mp hclean.2 c hc⟩
    rintro rfl
    simp [hc] at hclean
  · intro c hc
    refine ⟨?_, by simpa using any_eq_false.mp hcontrol c hc⟩
    rintro rfl
    simp [hc] at hbackslash
  · intro segment hsegment hne hmem
    have hfound := any_eq_false.mp hblocked segment
      (mem_filter.mpr ⟨hsegment, by simpa using hne⟩)
    simp [hmem] at hfound

variable {target : ValidatedTarget}

theorem harmless_of_accepted {rawHref baseUrl url : Text}
    (h : canonicalCandidate rawHref baseUrl target.origin policy = .ok url) :
    Harmless target policy url := by
  obtain ⟨parsed, path, -, haccepted⟩ := canonicalCandidate_accepted h
  have hparts := target.urlsplit_url haccepted.plain
  rw [← haccepted.url_eq] at hparts
  refine ⟨?_, path, hparts, harmlessPath_of_accepted haccepted⟩
  have hport := port_parts target.host target.scheme path (port_of_accepted haccepted)
  have hhost := hostname_parts target.host target.port target.scheme path
  exact ⟨_, _, hparts, hport, rfl, hhost, getD_defaultPort target.port target.scheme⟩

/-! ## Crawls -/

/-- The form in which a harmless URL is stored. -/
def HarmlessPage (target : ValidatedTarget) (policy : CrawlPolicy) (stored : Text) : Prop :=
  ∃ url, Harmless target policy url ∧ stored = stripped url

/-- A checkpoint whose waiting pages are harmless. -/
def HarmlessState (target : ValidatedTarget) (policy : CrawlPolicy) (state : CrawlResumeState) :
    Prop :=
  ∀ page ∈ state.pendingPages, HarmlessPage target policy page.url

namespace Crawl

variable {c : Crawl} {m : CrawlMachine}

/-- Every request, every page that is going to be requested and every checkpoint. -/
structure AllHarmless (c : Crawl) (m : CrawlMachine) : Prop where
  queue : ∀ page ∈ m.queue, HarmlessPage c.target c.policy page.url
  requests : ∀ request ∈ m.requests, HarmlessPage c.target c.policy request.url
  emitted : ∀ e ∈ m.emitted, HarmlessState c.target c.policy e.state

theorem harmless_queue (h : ∀ page ∈ m.queue, HarmlessPage c.target c.policy page.url)
    {t : Turn} (hturn : Turned c m t) :
    ∀ page ∈ t.machine.queue, HarmlessPage c.target c.policy page.url := by
  have hrest : ∀ {page rest} {result : Except CrawlFault FetchOutcome} {spent : Expended},
      Fetching c m page rest result spent →
        ∀ other ∈ rest, HarmlessPage c.target c.policy other.url := by
    intro page rest result spent hfetch other hother
    exact h other (by simp [hfetch.queue, hother])
  cases hturn with
  | ended => exact h
  | heldBack => exact h
  | raised page rest spent fault hfetch => exact hrest hfetch
  | returned page rest spent reason hfetch =>
    rw [hfetch.queue] at h
    exact h
  | failed page rest spent attempts code retryable reason record hfetch => exact hrest hfetch
  | refused page rest spent response attempts fault hfetch => exact hrest hfetch
  | succeeded page rest spent response attempts d links record hfetch hdiscover =>
    obtain ⟨added, taken, hd⟩ := discover_spec hdiscover
    intro other hother
    have hother : other ∈ d.queue := hother
    rw [hd.queue] at hother
    rcases mem_append.mp hother with hother | hother
    · exact hrest hfetch other hother
    · have hmem : other.url ∈ taken.map stripped := hd.urls ▸ mem_map_of_mem hother
      obtain ⟨url, hurl, hsame⟩ := mem_map.mp hmem
      obtain ⟨-, href, -, hcandidate⟩ := hd.fresh url hurl
      exact ⟨url, harmless_of_accepted hcandidate, hsame.symm⟩

theorem harmless_emitCheckpoint (h : AllHarmless c m) (midRetry : Bool) :
    AllHarmless c (c.emitCheckpoint m midRetry) := by
  refine ⟨?_, ?_, ?_⟩
  · rw [emitCheckpoint_queue]
    exact h.queue
  · rw [emitCheckpoint_requests]
    exact h.requests
  · intro e he
    rcases mem_emitCheckpoint he with hold | hsnapshot
    · exact h.emitted e hold
    · unfold HarmlessState
      rw [(captured_of_snapshot hsnapshot).pendingPages]
      exact h.queue

theorem harmless_finish (h : AllHarmless c m) (reason : CrawlTerminationReason) (midRetry : Bool) :
    AllHarmless c (c.finish m reason midRetry) := by
  have hdropped : AllHarmless c (dropQueue m reason) := by
    unfold dropQueue
    split
    · exact h
    · exact ⟨nofun, h.requests, h.emitted⟩
  obtain ⟨phase, -, heq⟩ := finish_eq c m midRetry reason
  have hemitted := harmless_emitCheckpoint hdropped midRetry
  rw [heq]
  exact ⟨hemitted.queue, hemitted.requests, hemitted.emitted⟩

theorem harmless_settle {t : Turn} (h : AllHarmless c t.machine) : AllHarmless c (c.settle t) := by
  cases t with
  | leave m reason => exact harmless_finish h reason false
  | fail m fault => exact ⟨h.queue, h.requests, h.emitted⟩
  | emit m midRetry leaving =>
    have hemitted := harmless_emitCheckpoint h midRetry
    simp only [settle]
    split
    · exact harmless_finish hemitted _ midRetry
    · exact hemitted

theorem allHarmless_step (h : AllHarmless c m) : AllHarmless c (c.step m) := by
  by_cases hphase : m.phase = .crawling
  · have hturn : Turned c m (c.turn m) := turn_cases m
    rw [step_of_crawling hphase]
    refine harmless_settle ⟨harmless_queue h.queue hturn, ?_, ?_⟩
    · intro request hrequest
      rcases hturn.added with ⟨hsame, -, -⟩ | ⟨page, rest, j, hfront, hadded⟩
      · rw [hsame] at hrequest
        exact h.requests request hrequest
      · rw [hadded.requests] at hrequest
        rcases mem_append.mp hrequest with hrequest | hrequest
        · exact h.requests request hrequest
        · obtain ⟨-, rfl⟩ := mem_replicate.mp hrequest
          exact h.queue page (by simp [hfront])
    · rw [(emitted_of_turned hturn).1]
      exact h.emitted
  · rw [step_of_not_crawling hphase]
    exact h

theorem allHarmless_iterate (h : AllHarmless c m) (n : Nat) : AllHarmless c (c.step^[n] m) := by
  induction n with
  | zero => exact h
  | succ n ih =>
    rw [Function.iterate_succ_apply']
    exact allHarmless_step ih

end Crawl

/-! ## Crawls and the crawls they resume -/

/--
The checkpoints of crawls with one target and one policy, fresh or resumed from such a checkpoint.
Without a checkpoint a crawl is fresh.
-/
inductive Continued (target : ValidatedTarget) (policy : CrawlPolicy) :
    Option CrawlResumeState → Prop where
  | fresh : Continued target policy none
  | checkpoint {call : CrawlCall} {resume : Option CrawlResumeState} {tick n : Nat} {c : Crawl}
      {m : CrawlMachine} {e : Emission} (h : Continued target policy resume)
      (htarget : call.target = target) (hpolicy : call.policy = policy)
      (hbegin : call.begin resume tick = .ok (c, m)) (hemitted : e ∈ (c.step^[n] m).emitted) :
      Continued target policy (some e.state)

theorem allHarmless_start {c : Crawl} {m : CrawlMachine}
    (h : ∀ page ∈ m.queue, HarmlessPage c.target c.policy page.url) (hrequests : m.requests = [])
    (hemitted : m.emitted = []) : Crawl.AllHarmless c (c.emitCheckpoint m false) := by
  refine Crawl.harmless_emitCheckpoint ⟨h, ?_, ?_⟩ false
  · simp [hrequests]
  · simp [hemitted]

variable {resume : Option CrawlResumeState}

theorem allHarmless_begin {call : CrawlCall} {tick : Nat}
    {c : Crawl} {m : CrawlMachine}
    (hresume : ∀ state, resume = some state → HarmlessState call.target call.policy state)
    (h : call.begin resume tick = .ok (c, m)) : Crawl.AllHarmless c m := by
  cases resume with
  | none =>
    obtain ⟨rootUrl, root, hroot, rfl, hplace, rfl⟩ := CrawlCall.begin_fresh h
    refine allHarmless_start ?_ rfl rfl
    intro page hpage
    rw [mem_singleton.mp hpage]
    exact ⟨rootUrl, harmless_of_accepted (CrawlCall.rootUrl_eq_ok hroot),
      congrArg (·.1) hplace⟩
  | some state =>
    obtain ⟨-, rfl, -, -, -, -, rfl⟩ := CrawlCall.begin_resumed h
    exact allHarmless_start (hresume state rfl) rfl rfl

theorem harmlessState_of_continued (h : Continued target policy resume) :
    ∀ state, resume = some state → HarmlessState target policy state := by
  induction h with
  | fresh => nofun
  | @checkpoint call resume tick n c m e h htarget hpolicy hbegin hemitted ih =>
    rintro state ⟨⟩
    subst htarget hpolicy
    have hharmless := Crawl.allHarmless_iterate (allHarmless_begin ih hbegin) n
    obtain ⟨hctarget, hcpolicy, -⟩ := CrawlCall.context_of_begin hbegin
    rw [← hctarget, ← hcpolicy]
    exact hharmless.emitted e hemitted

/--
**No navigation to a blocked path.**

The path of an accepted link, decoded once, has no blocked segment; it has no dot segments, and
there is no backslash and no control character in it. Every request of a crawl, fresh or resumed, is
for such a link, without the white space at its end.
-/
theorem no_destructive_navigation (call : CrawlCall) :
    (∀ rawHref baseUrl url,
      canonicalCandidate rawHref baseUrl call.target.origin call.policy = .ok url →
        Harmless call.target call.policy url) ∧
      ∀ resume tick c m n, Continued call.target call.policy resume →
        call.begin resume tick = .ok (c, m) →
          ∀ request ∈ (c.step^[n] m).requests,
            ∃ url, Harmless call.target call.policy url ∧ request.url = stripped url := by
  refine ⟨fun rawHref baseUrl url h => harmless_of_accepted h, ?_⟩
  intro resume tick c m n hresume h request hrequest
  have hbegun := allHarmless_begin (harmlessState_of_continued hresume) h
  obtain ⟨htarget, hpolicy, -⟩ := CrawlCall.context_of_begin h
  have hrequests := (Crawl.allHarmless_iterate hbegun n).requests request hrequest
  rw [htarget, hpolicy] at hrequests
  exact hrequests

omit [StandardLibrary] in
/-- A link to a page, and the requests of the crawl that finds it. -/
theorem no_destructive_navigation_page :
    letI := sampleLibrary
    Harmless sampleTarget samplePolicy "https://h/a".toList ∧
      ∃ c m, (sampleCrawlCall (.responded (sampleResponse ["/a", "/logout"])) true).begin none 0 =
          .ok (c, m) ∧
        ∀ request ∈ (c.step^[2] m).requests,
          ∃ url, Harmless sampleTarget samplePolicy url ∧ request.url = stripped url := by
  let _ := sampleLibrary
  have haccepted : canonicalCandidate "/a".toList "https://h/".toList sampleTarget.origin
      samplePolicy = .ok "https://h/a".toList := by decide
  have hbegin : (sampleCrawlCall (.responded (sampleResponse ["/a", "/logout"])) true).begin none 0 =
      .ok (_, _) := rfl
  have hall := no_destructive_navigation
    (sampleCrawlCall (.responded (sampleResponse ["/a", "/logout"])) true)
  exact ⟨hall.1 _ _ _ haccepted, _, _, hbegin, hall.2 none 0 _ _ 2 .fresh hbegin⟩

omit [StandardLibrary] in
/-- A blocked segment behind two encodings is not seen. -/
theorem double_encoding_passes :
    letI := sampleLibrary
    canonicalCandidate "/%256cogout".toList "https://h/".toList sampleTarget.origin samplePolicy
        = .ok "https://h/%256cogout".toList ∧
      lower (unquote (unquote "%256cogout".toList)) ∈ samplePolicy.blockedPathSegments := by
  let _ := sampleLibrary
  exact ⟨by decide, by decide⟩

end WebGuard
