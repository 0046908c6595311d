import Mathlib.Algebra.BigOperators.Group.List.Basic
import WebGuard.Properties.CrawlSnapshots

/-!
# Every discovered link is accounted for

A link that a page contains is put on the queue, or it is skipped for one reason and counted under
it. `pageExits` says for each link of a page, in their order, which it is; a crawl, with the crawls
whose checkpoints it was resumed from, has the exits of all pages it expanded, and its counters
count them.
-/

namespace WebGuard

open UrlParse StandardLibrary Atomic List CrawlPageRecord

/-! ## Counting -/

/-- The skipped links of all reasons. -/
def SkipCounts.total (counts : SkipCounts) : Nat := (CrawlSkipReason.all.map counts).sum

/-- The links found on a page and those of them that were put on the queue. -/
def CrawlPageOutcome.links : CrawlPageOutcome → Nat × Nat
  | .succeeded _ _ _ discoveredLinks queuedLinks => (discoveredLinks, queuedLinks)
  | .failed .. => (0, 0)

/-- The links of a kind, queued (`none`) or skipped, that the counters of a page know. -/
def linkCount (counts : SkipCounts) (queuedLinks : Nat) (exit : Option CrawlSkipReason) : Nat :=
  exit.elim queuedLinks counts

theorem linkCount_add (counts : SkipCounts) (queuedLinks n : Nat) (reason : CrawlSkipReason)
    (exit : Option CrawlSkipReason) :
    linkCount (counts.add reason n) queuedLinks exit
      = linkCount counts queuedLinks exit + (replicate n (some reason)).count exit := by
  cases exit with
  | none => simp [linkCount, count_replicate]
  | some other =>
    simp only [linkCount, Option.elim_some, SkipCounts.add_apply, count_replicate]
    by_cases h : other = reason
    · simp [h]
    · simp [h, Ne.symm h]

theorem linkCount_queued (counts : SkipCounts) (queuedLinks n : Nat)
    (exit : Option CrawlSkipReason) :
    linkCount counts (queuedLinks + n) exit
      = linkCount counts queuedLinks exit + (replicate n none).count exit := by
  cases exit <;> simp [linkCount, count_replicate]

/-- Every link has one exit. -/
theorem sum_count_exits (exits : List (Option CrawlSkipReason)) :
    (CrawlSkipReason.all.map fun reason => exits.count (some reason)).sum + exits.count none
      = exits.length := by
  induction exits with
  | nil => rfl
  | cons exit rest ih =>
    have hone : (CrawlSkipReason.all.map fun reason => if exit == some reason then 1 else 0).sum
        + (if exit == none then 1 else 0) = 1 := by
      cases exit with
      | none => rfl
      | some reason => cases reason <;> rfl
    simp only [count_cons, length_cons, sum_map_add]
    omega

variable [StandardLibrary]

theorem canonicalCandidate_ne_linkLimit (rawHref baseUrl : Text) (origin : Origin)
    (policy : CrawlPolicy) :
    canonicalCandidate rawHref baseUrl origin policy ≠ .error .linkLimit := by
  unfold canonicalCandidate canonicalOf
  dsimp only
  repeat' split
  all_goals simp

variable {page : CrawlPendingPage}

namespace Crawl

/-! ## The links of a page -/

section

variable (c : Crawl)

/-- What becomes of the links that are looked at; `verdict` says it of the candidates. -/
def linkExits (baseUrl : Text) (visited : SortedSet Text) (verdict : Text → Option CrawlSkipReason) :
    List Text → SortedSet Text → List (Option CrawlSkipReason)
  | [], _ => []
  | href :: rest, candidates =>
    match canonicalCandidate href baseUrl c.target.origin c.policy with
    | .error reason => some reason :: linkExits baseUrl visited verdict rest candidates
    | .ok candidate =>
      if candidate ∈ visited ∨ candidate ∈ candidates then
        some .duplicate :: linkExits baseUrl visited verdict rest candidates
      else
        verdict candidate :: linkExits baseUrl visited verdict rest (candidates.insert candidate)

/-- The candidates of a page. -/
def candidatesOf (page : CrawlPendingPage) (response : SafeHttpResponse) (d : Discovery) :
    List Text :=
  (c.collect page.url d.visited (response.hrefs.take c.policy.maximumLinksPerPage)
    (d.skipCounts.add .linkLimit (response.hrefs.length - c.policy.maximumLinksPerPage))
    SortedSet.empty).2.toList

variable (done : Nat) (page : CrawlPendingPage) (response : SafeHttpResponse) (d : Discovery)

/-- A candidate is queued if it is one of the first that there is room for. -/
def verdict (candidate : Text) : Option CrawlSkipReason :=
  if candidate ∈ (c.candidatesOf page response d).take
      (c.policy.maximumPages - (done + 1 + d.queue.length)) then none
  else some .pageLimit

/-- What becomes of the links of a page that is expanded; the last are beyond the cap. -/
def pageExits : List (Option CrawlSkipReason) :=
  c.linkExits page.url d.visited (c.verdict done page response d)
      (response.hrefs.take c.policy.maximumLinksPerPage) SortedSet.empty
    ++ replicate (response.hrefs.length - c.policy.maximumLinksPerPage) (some .linkLimit)

end

variable {c : Crawl}

variable (baseUrl : Text) (visited : SortedSet Text)

variable (verdict : Text → Option CrawlSkipReason)

theorem length_linkExits (hrefs : List Text)
    (candidates : SortedSet Text) :
    (c.linkExits baseUrl visited verdict hrefs candidates).length = hrefs.length := by
  induction hrefs generalizing candidates with
  | nil => rfl
  | cons href rest ih =>
    unfold linkExits
    split
    · rw [length_cons, ih, length_cons]
    · split <;> rw [length_cons, ih, length_cons]

omit [StandardLibrary] in
theorem count_insert {candidate : Text} {candidates : SortedSet Text} (h : candidate ∉ candidates)
    (verdict : Text → Option CrawlSkipReason) (exit : Option CrawlSkipReason) :
    ((candidates.insert candidate).toList.map verdict).count exit
      = (candidates.toList.map verdict).count exit + [verdict candidate].count exit := by
  have hperm : (candidates.insert candidate).toList.Perm (candidate :: candidates.toList) := by
    unfold SortedSet.insert
    rw [dif_neg h]
    exact perm_orderedInsert (· ≤ ·) candidate candidates.toList
  rw [(hperm.map verdict).count_eq, map_cons, count_cons, count_singleton]

/-- The reasons are counted as the links leave. -/
theorem count_linkExits (hrefs : List Text)
    (skipCounts : SkipCounts)
    (candidates : SortedSet Text) (exit : Option CrawlSkipReason) :
    let result := c.collect baseUrl visited hrefs skipCounts candidates
    linkCount skipCounts 0 exit + (candidates.toList.map verdict).count exit
        + (c.linkExits baseUrl visited verdict hrefs candidates).count exit
      = linkCount result.1 0 exit + (result.2.toList.map verdict).count exit := by
  induction hrefs generalizing skipCounts candidates with
  | nil => rfl
  | cons href rest ih =>
    have hskip : ∀ reason : CrawlSkipReason,
        linkCount (skipCounts.add reason 1) 0 exit
          = linkCount skipCounts 0 exit + [some reason].count exit :=
      fun reason => linkCount_add skipCounts 0 1 reason exit
    rw [collect, linkExits]
    cases canonicalCandidate href baseUrl c.target.origin c.policy with
    | error reason =>
      have := ih (skipCounts.add reason 1) candidates
      rw [hskip, count_singleton] at this
      dsimp only at this ⊢
      rw [count_cons]
      omega
    | ok candidate =>
      dsimp only
      by_cases hseen : candidate ∈ visited ∨ candidate ∈ candidates
      · have := ih (skipCounts.add .duplicate 1) candidates
        rw [hskip, count_singleton] at this
        dsimp only at this
        rw [if_pos hseen, if_pos hseen, count_cons]
        omega
      · have := ih skipCounts (candidates.insert candidate)
        rw [count_insert (fun h => hseen (Or.inr h)), count_singleton] at this
        dsimp only at this
        rw [if_neg hseen, if_neg hseen, count_cons]
        omega

variable {done : Nat} {d d' : Discovery}

theorem enqueue_counts {candidates : List Text} (h : c.enqueue done page candidates d = .ok d') :
    let room := c.policy.maximumPages - (done + 1 + d.queue.length)
    d'.queuedLinks = d.queuedLinks + (candidates.take room).length
      ∧ d'.skipCounts = d.skipCounts.add .pageLimit (candidates.drop room).length := by
  induction candidates generalizing d with
  | nil =>
    cases h
    refine ⟨by simp, ?_⟩
    funext reason
    simp [SkipCounts.add_apply]
  | cons candidate rest ih =>
    rw [enqueue] at h
    dsimp only
    split at h
    · next hfull =>
      obtain ⟨hqueued, hcounts⟩ := ih h
      dsimp only at hqueued hcounts
      rw [Nat.sub_eq_zero_of_le hfull] at hqueued hcounts ⊢
      refine ⟨by simpa using hqueued, ?_⟩
      rw [hcounts]
      funext reason
      simp only [SkipCounts.add_apply, drop_zero, length_cons]
      split <;> omega
    · next hroom =>
      split at h
      · cases h
      next pending hnew =>
      obtain ⟨hqueued, hcounts⟩ := ih h
      obtain ⟨room, heq⟩ : ∃ room, c.policy.maximumPages - (done + 1 + d.queue.length) = room + 1 :=
        ⟨c.policy.maximumPages - (done + 1 + d.queue.length) - 1, by omega⟩
      have hless : c.policy.maximumPages - (done + 1 + (d.queue ++ [pending]).length) = room := by
        rw [length_append, length_singleton]
        omega
      dsimp only at hqueued hcounts
      rw [hless] at hqueued hcounts
      rw [heq, take_succ_cons, drop_succ_cons, length_cons]
      exact ⟨by omega, hcounts⟩

omit [StandardLibrary] in
theorem map_verdict {candidates : List Text} (hnodup : candidates.Nodup) (room : Nat) :
    candidates.map (fun candidate =>
        if candidate ∈ candidates.take room then none else some CrawlSkipReason.pageLimit)
      = replicate (candidates.take room).length none
        ++ replicate (candidates.drop room).length (some .pageLimit) := by
  have hdisjoint := disjoint_of_nodup_append
    ((take_append_drop room candidates).symm ▸ hnodup)
  conv_lhs => rw [← take_append_drop room candidates, map_append]
  rw [take_append_drop]
  congr 1
  · rw [← map_const']
    refine map_congr_left ?_
    intro candidate hmem
    rw [if_pos hmem]
  · rw [← map_const']
    refine map_congr_left ?_
    intro candidate hmem
    rw [if_neg fun htaken => hdisjoint htaken hmem]

variable {response : SafeHttpResponse} {links : Nat}

/-- What a page adds to the counters is what its links left by. -/
theorem discover_counts (hfollows : c.follows page response = true)
    (h : c.discover done page response d = .ok (d', links)) (exit : Option CrawlSkipReason) :
    linkCount d'.skipCounts d'.queuedLinks exit
      = linkCount d.skipCounts d.queuedLinks exit
        + (c.pageExits done page response d).count exit := by
  unfold discover at h
  rw [if_pos hfollows] at h
  dsimp only at h
  split at h
  · cases h
  next d₁ henqueue =>
  cases h
  obtain ⟨hqueued, hcounts⟩ := enqueue_counts henqueue
  have hlinks := count_linkExits (c := c) page.url d.visited (c.verdict done page response d)
    (response.hrefs.take c.policy.maximumLinksPerPage)
    (d.skipCounts.add .linkLimit (response.hrefs.length - c.policy.maximumLinksPerPage))
    SortedSet.empty exit
  have hverdicts : (c.candidatesOf page response d).map (c.verdict done page response d) = _ :=
    map_verdict (SortedSet.nodup_toList _) (c.policy.maximumPages - (done + 1 + d.queue.length))
  have hnone := linkCount_queued d.skipCounts 0 d.queuedLinks exit
  have hqueue := linkCount_queued
    (c.collect page.url d.visited (response.hrefs.take c.policy.maximumLinksPerPage)
      (d.skipCounts.add .linkLimit (response.hrefs.length - c.policy.maximumLinksPerPage))
      SortedSet.empty).1 0 d.queuedLinks exit
  have hempty : (SortedSet.empty : SortedSet Text).toList = [] := rfl
  dsimp only at hlinks hqueued hcounts
  rw [Nat.zero_add] at hnone hqueue
  change _ = _ + ((c.candidatesOf page response d).map _).count exit at hlinks
  rw [hverdicts, count_append, hempty, map_nil, count_nil, linkCount_add] at hlinks
  rw [hqueued, hcounts, linkCount_add, linkCount_queued, hqueue, hnone, pageExits,
    count_append]
  omega

theorem count_linkLimit {verdict : Text → Option CrawlSkipReason}
    (hverdict : ∀ url, verdict url ≠ some .linkLimit)
    (hrefs : List Text) (candidates : SortedSet Text) :
    (c.linkExits baseUrl visited verdict hrefs candidates).count (some .linkLimit) = 0 := by
  induction hrefs generalizing candidates with
  | nil => rfl
  | cons href rest ih =>
    rw [linkExits]
    cases hcandidate : canonicalCandidate href baseUrl c.target.origin c.policy with
    | error reason =>
      have hreason : reason ≠ .linkLimit := by
        rintro rfl
        exact canonicalCandidate_ne_linkLimit href baseUrl _ _ hcandidate
      dsimp only
      rw [count_cons_of_ne (by simpa using hreason), ih]
    | ok candidate =>
      dsimp only
      split
      · rw [count_cons_of_ne (by simp), ih]
      · rw [count_cons_of_ne (hverdict candidate), ih]

/-- Its links are counted up to the limit of links. -/
theorem discover_links (hfollows : c.follows page response = true)
    (h : c.discover done page response d = .ok (d', links)) :
    links + (c.pageExits done page response d).count (some .linkLimit)
      = (c.pageExits done page response d).length := by
  have hverdict : ∀ url, c.verdict done page response d url ≠ some .linkLimit := by
    intro url
    unfold verdict
    split <;> simp
  unfold discover at h
  rw [if_pos hfollows] at h
  dsimp only at h
  split at h
  · cases h
  cases h
  rw [pageExits, count_append, count_linkLimit _ _ hverdict, count_replicate_self,
    length_append, length_linkExits, length_replicate, Nat.zero_add]

/-! ## The links of a crawl -/

variable (c) in
/-- What becomes of the links that a round discovers. -/
def roundExits (m : CrawlMachine) : List (Option CrawlSkipReason) :=
  match m.phase, c.turn m, c.responseOf m with
  | .crawling, .emit _ _ _, some (page, response) =>
    if c.follows page response then
      c.pageExits m.pages.length page response ⟨m.queue.tail, m.visited, m.skipCounts, 0⟩
    else []
  | _, _, _ => []

variable (c) in
/-- What becomes of the links that some rounds discover. -/
def journal : Nat → CrawlMachine → List (Option CrawlSkipReason)
  | 0, _ => []
  | n + 1, m => journal n m ++ c.roundExits (c.step^[n] m)

end Crawl

/-- The reason a round leaves the loop for, if it does. -/
def Turn.leaving : Turn → Option CrawlTerminationReason
  | .leave _ reason => some reason
  | .fail _ _ => none
  | .emit _ _ leaving => leaving

/-- The links that the records of some pages say were found, and put on the queue. -/
def discoveredLinks (pages : List CrawlPageRecord) : Nat := (pages.map (·.outcome.links.1)).sum

def queuedLinks (pages : List CrawlPageRecord) : Nat := (pages.map (·.outcome.links.2)).sum

/-- Every link is counted once, as queued or under a reason. -/
structure Balanced (pages : List CrawlPageRecord) (skipCounts : SkipCounts)
    (exits : List (Option CrawlSkipReason)) : Prop where
  counted : ∀ exit, linkCount skipCounts (queuedLinks pages) exit = exits.count exit
  discovered : discoveredLinks pages + skipCounts .linkLimit = exits.length

/-- Every queued link is a page or waits to be one, besides the root, which waits alone. -/
structure Placed (pages : List CrawlPageRecord) (queue : List CrawlPendingPage)
    (exits : List (Option CrawlSkipReason)) : Prop where
  all : pages.length + queue.length = exits.count none + 1
  root : ∀ page ∈ queue, page.depth = 0 → queue = [page]

variable {exits : List (Option CrawlSkipReason)} {pages : List CrawlPageRecord}

theorem Balanced.total {skipCounts : SkipCounts} (h : Balanced pages skipCounts exits) :
    skipCounts.total + queuedLinks pages = discoveredLinks pages + skipCounts .linkLimit := by
  have hcounts : skipCounts = fun reason => exits.count (some reason) :=
    funext fun reason => h.counted (some reason)
  have hqueued : queuedLinks pages = exits.count none := h.counted none
  rw [h.discovered, hqueued, SkipCounts.total, hcounts]
  exact sum_count_exits exits

theorem CrawlPageOutcome.check_links {final : RequestAttemptOutcome}
    {outcome checked : CrawlPageOutcome} (h : outcome.check final = .ok checked) :
    checked.links = outcome.links := by
  cases outcome with
  | succeeded contentType connectedAddress httpStatus discoveredLinks queuedLinks =>
    unfold CrawlPageOutcome.check at h
    simp only [bind_ok_iff] at h
    obtain ⟨_, -, _, -, _, -, _, -, _, -, _, -, h⟩ := h
    cases h
    rfl
  | failed errorCode retryable =>
    obtain ⟨_, -, h⟩ := bind_ok h
    cases h
    rfl

variable {record : CrawlPageRecord}

theorem CrawlPageRecord.new_links {raw : CrawlPageRecordFields} (h : new raw = .ok record) :
    record.outcome.links = raw.outcome.links := by
  have h := new_eq_ok.mp h
  unfold CrawlPageRecordFields.postInit at h
  simp only [bind_ok_iff] at h
  obtain ⟨_, -, _, -, _, -, _, -, h⟩ := h
  split at h
  · cases h
  obtain ⟨checked, hchecked, h⟩ := bind_ok h
  rw [← Except.ok.inj h]
  exact CrawlPageOutcome.check_links hchecked

theorem Balanced.snoc {skipCounts skipCounts' : SkipCounts}
    {exits added : List (Option CrawlSkipReason)} (h : Balanced pages skipCounts exits)
    (hcounted : ∀ exit, linkCount skipCounts' record.outcome.links.2 exit
      = linkCount skipCounts 0 exit + added.count exit)
    (hdiscovered : record.outcome.links.1 + added.count (some .linkLimit) = added.length) :
    Balanced (pages ++ [record]) skipCounts' (exits ++ added) := by
  constructor
  · intro exit
    have hbefore := h.counted exit
    have hadded := hcounted exit
    unfold queuedLinks at hbefore ⊢
    rw [map_append, sum_append, count_append, ← hbefore]
    cases exit with
    | none =>
      simp only [linkCount, Option.elim_none, map_cons, map_nil, sum_cons,
        sum_nil] at hadded ⊢
      omega
    | some reason =>
      simp only [linkCount, Option.elim_some] at hadded ⊢
      exact hadded
  · have hbefore := h.discovered
    have hlimit : skipCounts' .linkLimit = skipCounts .linkLimit + added.count (some .linkLimit) :=
      hcounted (some .linkLimit)
    unfold discoveredLinks at hbefore ⊢
    rw [map_append, sum_append, length_append, hlimit]
    simp only [map_cons, map_nil, sum_cons, sum_nil]
    omega

namespace Crawl

variable {c : Crawl} {m : CrawlMachine} {exits : List (Option CrawlSkipReason)}

/-! ## A round -/

theorem Fetching.responseOf_none {rest : List CrawlPendingPage} {outcome : FetchOutcome}
    {spent : Expended} (h : Fetching c m page rest (.ok outcome) spent)
    (hnone : outcome.response = none) : c.responseOf m = none := by
  unfold responseOf
  simp only [h.queue, h.fetch, hnone, Option.map_none]

theorem roundExits_of_not_crawling (h : m.phase ≠ .crawling) : c.roundExits m = [] := by
  unfold roundExits
  split
  · exact absurd ‹_› h
  · rfl

theorem roundExits_of_responseOf (h : c.responseOf m = none) : c.roundExits m = [] := by
  unfold roundExits
  rw [h]
  split
  · next heq => cases heq
  · rfl

theorem roundExits_of_turn (h : ∀ m' midRetry leaving, c.turn m ≠ .emit m' midRetry leaving) :
    c.roundExits m = [] := by
  unfold roundExits
  split
  · next hturn _ => exact absurd hturn (h _ _ _)
  · rfl

variable {t : Turn} {reason : CrawlTerminationReason}

/-- A turn keeps the balance. -/
theorem balanced_turn (h : Balanced m.pages m.skipCounts exits) (hphase : m.phase = .crawling)
    (ht : c.turn m = t) (hturn : Turned c m t) :
    Balanced t.machine.pages t.machine.skipCounts (exits ++ c.roundExits m) := by
  cases hturn with
  | ended =>
    rw [roundExits_of_turn (by simp [ht]), append_nil]
    exact h
  | heldBack reason =>
    rw [roundExits_of_turn (by simp [ht]), append_nil]
    exact h
  | raised page rest spent fault =>
    rw [roundExits_of_turn (by simp [ht]), append_nil]
    exact h
  | refused page rest spent response attempts fault =>
    rw [roundExits_of_turn (by simp [ht]), append_nil]
    exact h
  | returned page rest spent reason hfetch =>
    rw [roundExits_of_responseOf (hfetch.responseOf_none rfl), append_nil]
    exact h
  | failed page rest spent attempts code retryable reason record hfetch hne hearly hrecord =>
    rw [roundExits_of_responseOf (hfetch.responseOf_none rfl)]
    have hlinks : record.outcome.links = (0, 0) := new_links hrecord
    exact h.snoc (by simp [hlinks, CrawlMachine.fetched, Turn.machine]) (by simp [hlinks])
  | succeeded page rest spent response attempts d links record hfetch hdiscover hrecord =>
    have hlinks : record.outcome.links = (links, d.queuedLinks) :=
      new_links hrecord
    have hround : c.roundExits m = if c.follows page response then
        c.pageExits m.pages.length page response ⟨rest, m.visited, m.skipCounts, 0⟩ else [] := by
      unfold roundExits
      rw [hphase, ht, hfetch.responseOf_eq, hfetch.queue]
      rfl
    rw [hround]
    by_cases hfollows : c.follows page response = true
    · rw [if_pos hfollows]
      refine h.snoc ?_ ?_
      · intro exit
        rw [hlinks]
        exact discover_counts hfollows hdiscover exit
      · rw [hlinks]
        exact discover_links hfollows hdiscover
    · rw [if_neg hfollows]
      unfold discover at hdiscover
      rw [if_neg hfollows] at hdiscover
      cases hdiscover
      exact h.snoc (by simp [hlinks, Turn.machine]) (by simp [hlinks])

/-- And the places of the queued links. -/
theorem placed_turn (h : Placed m.pages m.queue exits) (hphase : m.phase = .crawling)
    (ht : c.turn m = t) (hturn : Turned c m t) (hfail : ∀ m' fault, t ≠ .fail m' fault)
    (hbalanced : Balanced m.pages m.skipCounts exits) :
    Placed t.machine.pages t.machine.queue (exits ++ c.roundExits m) := by
  have hqueued : queuedLinks t.machine.pages = (exits ++ c.roundExits m).count none :=
    (balanced_turn hbalanced hphase ht hturn).counted none
  have hbefore : queuedLinks m.pages = exits.count none := hbalanced.counted none
  have hall := h.all
  have hbehind : ∀ {page rest} {result : Except CrawlFault FetchOutcome} {spent : Expended},
      Fetching c m page rest result spent → ∀ other ∈ rest, other.depth ≠ 0 := by
    intro page rest result spent hfetch other hother hdepth
    have halone := h.root other (by simp [hfetch.queue, hother]) hdepth
    rw [hfetch.queue] at halone
    exact ne_nil_of_mem hother (cons.inj halone).2
  cases hturn with
  | ended =>
    rw [roundExits_of_turn (by simp [ht]), append_nil]
    exact h
  | heldBack reason =>
    rw [roundExits_of_turn (by simp [ht]), append_nil]
    exact h
  | raised => exact absurd rfl (hfail _ _)
  | refused => exact absurd rfl (hfail _ _)
  | returned page rest spent reason hfetch =>
    rw [roundExits_of_responseOf (hfetch.responseOf_none rfl), append_nil]
    rw [hfetch.queue] at h
    exact h
  | failed page rest spent attempts code retryable reason record hfetch =>
    rw [roundExits_of_responseOf (hfetch.responseOf_none rfl), append_nil]
    rw [hfetch.queue] at hall
    constructor
    · simp only [Turn.machine, CrawlMachine.fetched, length_append, length_cons,
        length_nil] at hall ⊢
      omega
    · intro other hother hdepth
      exact (hbehind hfetch other hother hdepth).elim
  | succeeded page rest spent response attempts d links record hfetch hdiscover hrecord =>
    obtain ⟨added, taken, hd⟩ := discover_spec hdiscover
    have hlinks : record.outcome.links = (links, d.queuedLinks) :=
      new_links hrecord
    have hlength : added.length = d.queuedLinks := by
      have := congrArg length hd.urls
      rw [length_map, length_map] at this
      rw [hd.queuedLinks, this, Nat.zero_add]
    have hsum : queuedLinks (m.pages ++ [record]) = queuedLinks m.pages + d.queuedLinks := by
      simp [queuedLinks, hlinks]
    rw [hfetch.queue] at hall
    change queuedLinks (m.pages ++ [record]) = _ at hqueued
    constructor
    · simp only [Turn.machine, length_append, length_cons, length_nil, hd.queue]
        at hall ⊢
      omega
    · intro other hother hdepth
      have hother : other ∈ d.queue := hother
      rw [hd.queue] at hother
      rcases mem_append.mp hother with hrest | hadded
      · exact (hbehind hfetch other hrest hdepth).elim
      · have := (hd.places other hadded).1
        omega

/-! ## The end of a run -/

theorem queue_of_leaving (hroom : m.pages.length + m.queue.length ≤ c.policy.maximumPages)
    (hroot : ∀ page ∈ m.queue, page.depth = 0 → m.queue = [page]) (hturn : Turned c m t)
    (h : t.leaving = some reason) : reason.isEarly = true ∨ t.machine.queue = [] := by
  cases hturn with
  | ended hended =>
    refine Or.inr ?_
    rcases hended with hempty | hfull
    · exact hempty
    · have hlength : m.queue.length = 0 := by omega
      exact eq_nil_of_length_eq_zero hlength
  | heldBack reason' hqueue hroom' hhold =>
    cases h
    exact Or.inl (isEarly_of_holdBack hhold)
  | raised => cases h
  | refused => cases h
  | returned page rest spent reason' hfetch hearly =>
    cases h
    exact Or.inl hearly
  | failed page rest spent attempts code retryable reason' record hfetch hne hearly =>
    cases reason' with
    | some r =>
      cases h
      exact Or.inl (hearly _ rfl)
    | none =>
      refine Or.inr ?_
      by_cases hdepth : page.depth = 0
      · have halone := hroot page (by simp [hfetch.queue]) hdepth
        rw [hfetch.queue] at halone
        exact (cons.inj halone).2
      · simp [Turn.leaving, hdepth] at h
  | succeeded => cases h

theorem dropQueue_kept (h : reason.isEarly = true ∨ m.queue = []) :
    (dropQueue m reason).queue = m.queue ∧ (dropQueue m reason).skipCounts = m.skipCounts := by
  unfold dropQueue
  split
  · exact ⟨rfl, rfl⟩
  · next hearly =>
    have hempty : m.queue = [] := h.resolve_left hearly
    refine ⟨hempty.symm, ?_⟩
    funext reason'
    simp [SkipCounts.add_apply, hempty]

theorem mem_emitCheckpoint {midRetry : Bool} {e : Emission}
    (h : e ∈ (c.emitCheckpoint m midRetry).emitted) :
    e ∈ m.emitted ∨ c.snapshot m = .ok e.state := by
  unfold emitCheckpoint at h
  split at h
  · split at h
    · next state hstate =>
      rcases mem_append.mp h with hold | hnew
      · exact Or.inl hold
      · rw [mem_singleton] at hnew
        rw [hnew]
        exact Or.inr hstate
    · exact Or.inl h
  · exact Or.inl h

/-- What a crawl and its checkpoints have to agree in. -/
structure SameAccounts (m m' : CrawlMachine) : Prop where
  pages : m'.pages = m.pages
  queue : m'.queue = m.queue
  skipCounts : m'.skipCounts = m.skipCounts

theorem sameAccounts_emitCheckpoint (m : CrawlMachine) (midRetry : Bool) :
    SameAccounts m (c.emitCheckpoint m midRetry) :=
  ⟨emitCheckpoint_pages c m midRetry, emitCheckpoint_queue c m midRetry,
    emitCheckpoint_skipCounts c m midRetry⟩

theorem SameAccounts.trans {m₁ m₂ m₃ : CrawlMachine} (h : SameAccounts m₁ m₂)
    (h' : SameAccounts m₂ m₃) : SameAccounts m₁ m₃ :=
  ⟨h'.pages.trans h.pages, h'.queue.trans h.queue, h'.skipCounts.trans h.skipCounts⟩

theorem sameAccounts_finish (h : reason.isEarly = true ∨ m.queue = []) (midRetry : Bool) :
    SameAccounts m (c.finish m reason midRetry) ∧
      ∀ e ∈ (c.finish m reason midRetry).emitted,
        e ∈ m.emitted ∨ ∃ m', SameAccounts m m' ∧ c.snapshot m' = .ok e.state := by
  obtain ⟨hqueue, hcounts⟩ := dropQueue_kept h
  have hdrop : SameAccounts m (dropQueue m reason) := ⟨dropQueue_pages m reason, hqueue, hcounts⟩
  have hemitted : (dropQueue m reason).emitted = m.emitted := by
    unfold dropQueue
    split <;> rfl
  obtain ⟨phase, -, heq⟩ := finish_eq c m midRetry reason
  rw [heq]
  constructor
  · have hsame := hdrop.trans (sameAccounts_emitCheckpoint (c := c) _ midRetry)
    exact ⟨hsame.pages, hsame.queue, hsame.skipCounts⟩
  · intro e he
    rcases mem_emitCheckpoint (m := dropQueue m reason) he with hold | hnew
    · exact Or.inl (hemitted ▸ hold)
    · exact Or.inr ⟨dropQueue m reason, hdrop, hnew⟩

theorem emitted_of_turned (h : Turned c m t) :
    t.machine.emitted = m.emitted ∧ t.machine.phase = m.phase := by
  cases h <;> exact ⟨rfl, rfl⟩

theorem sameAccounts_settle
    (hleaving : ∀ reason, t.leaving = some reason →
      reason.isEarly = true ∨ t.machine.queue = []) :
    SameAccounts t.machine (c.settle t) ∧
      ∀ e ∈ (c.settle t).emitted, e ∈ t.machine.emitted ∨
        (∀ m fault, t ≠ .fail m fault) ∧
          ∃ m', SameAccounts t.machine m' ∧ c.snapshot m' = .ok e.state := by
  cases t with
  | leave m reason =>
    obtain ⟨hsame, hemitted⟩ := sameAccounts_finish (c := c) (hleaving reason rfl) false
    refine ⟨hsame, ?_⟩
    intro e he
    exact (hemitted e he).imp_right fun hnew => ⟨by simp, hnew⟩
  | fail m fault => exact ⟨⟨rfl, rfl, rfl⟩, fun e he => Or.inl he⟩
  | emit m midRetry leaving =>
    have hemit := sameAccounts_emitCheckpoint (c := c) m midRetry
    have hnew : ∀ e ∈ (c.emitCheckpoint m midRetry).emitted,
        e ∈ m.emitted ∨ ∃ m', SameAccounts m m' ∧ c.snapshot m' = .ok e.state := by
      intro e he
      exact (mem_emitCheckpoint he).imp_right fun hsnapshot => ⟨m, ⟨rfl, rfl, rfl⟩, hsnapshot⟩
    simp only [Crawl.settle, Turn.machine]
    split
    · next reason _ =>
      have hleft : reason.isEarly = true ∨ (c.emitCheckpoint m midRetry).queue = [] := by
        rw [emitCheckpoint_queue]
        exact hleaving reason rfl
      obtain ⟨hfinish, hemitted⟩ := sameAccounts_finish (c := c) hleft midRetry
      refine ⟨hemit.trans hfinish, ?_⟩
      intro e he
      rcases hemitted e he with hold | ⟨m', hsame, hsnapshot⟩
      · exact (hnew e hold).imp_right fun hnew => ⟨by simp, hnew⟩
      · exact Or.inr ⟨by simp, m', hemit.trans hsame, hsnapshot⟩
    · refine ⟨hemit, ?_⟩
      intro e he
      exact (hnew e he).imp_right fun hnew => ⟨by simp, hnew⟩

/-- A result has the pages and the counts of the machine. -/
def Reported (m : CrawlMachine) : Prop :=
  ∀ execution, m.phase = .finished execution →
    execution.pages = m.pages ∧ SkipCounts.ofSummaries execution.skippedLinks = m.skipCounts

theorem reported_conclude (reason : CrawlTerminationReason) : Reported (c.conclude m reason) := by
  intro execution hfinished
  unfold conclude at hfinished ⊢
  split at hfinished
  · next result hresult =>
    cases hfinished
    obtain ⟨links, hlinks, hnew⟩ := bind_ok hresult
    obtain ⟨hsorted, hcounts, -⟩ := SkipCounts.summaries_spec hlinks
    unfold CrawlExecution.new at hnew
    simp only [bind_ok_iff] at hnew
    obtain ⟨_, -, _, -, _, -, _, -, _, -, _, -, _, -, _, -, _, -, hnew⟩ := hnew
    cases hnew
    refine ⟨rfl, ?_⟩
    dsimp only
    rw [hsorted]
    exact hcounts
  · cases hfinished

theorem reported_emitCheckpoint (h : m.phase = .crawling) (midRetry : Bool) :
    Reported (c.emitCheckpoint m midRetry) := by
  intro execution hfinished
  unfold emitCheckpoint at hfinished
  split at hfinished
  · split at hfinished
    · rw [h] at hfinished
      cases hfinished
    · cases hfinished
  · rw [h] at hfinished
    cases hfinished

theorem reported_finish (h : m.phase = .crawling) (reason : CrawlTerminationReason)
    (midRetry : Bool) : Reported (c.finish m reason midRetry) := by
  unfold finish
  dsimp only
  split
  · exact reported_conclude _
  · exact reported_emitCheckpoint (by rw [dropQueue_phase, h]) midRetry

theorem reported_settle (h : t.machine.phase = .crawling) : Reported (c.settle t) := by
  cases t with
  | leave m reason => exact reported_finish h reason false
  | fail m fault =>
    intro execution hfinished
    cases hfinished
  | emit m midRetry leaving =>
    simp only [Crawl.settle]
    split
    · next hphase => exact reported_finish hphase _ midRetry
    · exact reported_emitCheckpoint h midRetry

/-! ## A run -/

/-- The accounts of a crawl that has not raised, and of one that has. -/
structure Accounted (m : CrawlMachine) (exits : List (Option CrawlSkipReason)) : Prop where
  balanced : Balanced m.pages m.skipCounts exits
  placed : (∀ fault, m.phase ≠ .raised fault) → Placed m.pages m.queue exits
  reported : Reported m

/-- The accounts of a checkpoint. -/
structure Certified (state : CrawlResumeState) (exits : List (Option CrawlSkipReason)) : Prop where
  balanced : Balanced state.pages (SkipCounts.ofSummaries state.skippedLinks) exits
  placed : Placed state.pages state.pendingPages exits

theorem certified_of_snapshot {state : CrawlResumeState} (h : c.snapshot m = .ok state)
    (hbalanced : Balanced m.pages m.skipCounts exits) (hplaced : Placed m.pages m.queue exits) :
    Certified state exits := by
  have hcaptured := captured_of_snapshot h
  constructor
  · rw [hcaptured.pages, hcaptured.skipCounts]
    exact hbalanced
  · rw [hcaptured.pages, hcaptured.pendingPages]
    exact hplaced

/-- The step lemma, with the states that are emitted. -/
theorem accounted_step (hkept : Kept c m) (h : Accounted m exits) :
    Accounted (c.step m) (exits ++ c.roundExits m) ∧
      ∀ e ∈ (c.step m).emitted, e ∈ m.emitted ∨ Certified e.state (exits ++ c.roundExits m) := by
  by_cases hphase : m.phase = .crawling
  · have hplaced : Placed m.pages m.queue exits := h.placed (by simp [hphase])
    have hturn : Turned c m (c.turn m) := turn_cases m
    have hbalanced := balanced_turn h.balanced hphase rfl hturn
    obtain ⟨hsame, hemitted⟩ := sameAccounts_settle (c := c) (t := c.turn m)
      fun reason hreason => queue_of_leaving hkept.pages hplaced.root hturn hreason
    obtain ⟨hbefore, hstill⟩ := emitted_of_turned hturn
    have hplaced' : (∀ m' fault, c.turn m ≠ .fail m' fault) →
        Placed (c.turn m).machine.pages (c.turn m).machine.queue (exits ++ c.roundExits m) :=
      fun hfail => placed_turn hplaced hphase rfl hturn hfail h.balanced
    rw [step_of_crawling hphase]
    refine ⟨⟨?_, ?_, reported_settle (hstill.trans hphase)⟩, ?_⟩
    · rw [hsame.pages, hsame.skipCounts]
      exact hbalanced
    · intro hraised
      rw [hsame.pages, hsame.queue]
      refine hplaced' ?_
      intro m' fault heq
      rw [heq] at hraised
      exact hraised fault rfl
    · intro e he
      rcases hemitted e he with hold | ⟨hfail, m', hsame', hsnapshot⟩
      · exact Or.inl (hbefore ▸ hold)
      · refine Or.inr (certified_of_snapshot hsnapshot ?_ ?_)
        · rw [hsame'.pages, hsame'.skipCounts]
          exact hbalanced
        · rw [hsame'.pages, hsame'.queue]
          exact hplaced' hfail
  · rw [step_of_not_crawling hphase, roundExits_of_not_crawling hphase, append_nil]
    exact ⟨h, fun e he => Or.inl he⟩

/-- So the accounts hold at every step of a run. -/
theorem accounted_iterate (hkept : Kept c m) (h : Accounted m exits) (n : Nat) :
    Accounted (c.step^[n] m) (exits ++ c.journal n m) := by
  induction n with
  | zero =>
    rw [journal, append_nil]
    exact h
  | succ n ih =>
    rw [Function.iterate_succ_apply', journal, ← append_assoc]
    exact (accounted_step (kept_iterate hkept n) ih).1

end Crawl

/-! ## Crawls and the crawls they resume -/

/--
A checkpoint that a crawl emitted, fresh or resumed from such a checkpoint, and the exits of all
links that had been discovered until then. Without a checkpoint nothing had been.
-/
inductive Recorded : Option CrawlResumeState → List (Option CrawlSkipReason) → Prop where
  | nothing : Recorded none []
  | checkpoint {call : CrawlCall} {resume : Option CrawlResumeState} {tick n : Nat} {c : Crawl}
      {m : CrawlMachine} {e : Emission} {exits : List (Option CrawlSkipReason)}
      (h : Recorded resume exits) (hbegin : call.begin resume tick = .ok (c, m))
      (hemitted : e ∈ (c.step^[n] m).emitted) (hnew : ∀ k < n, e ∉ (c.step^[k] m).emitted) :
      Recorded (some e.state) (exits ++ c.journal n m)

namespace CrawlCall

variable {call : CrawlCall} {tick : Nat} {c : Crawl} {m : CrawlMachine}
  {exits : List (Option CrawlSkipReason)}

/-- The accounts that a crawl is resumed with. -/
def ResumedWith (resume : Option CrawlResumeState) (exits : List (Option CrawlSkipReason)) : Prop :=
  match resume with
  | none => exits = []
  | some state => Crawl.Certified state exits

theorem accounted_start {midRetry : Bool} (hcrawling : m.phase = .crawling)
    (hemitted : m.emitted = []) (hbalanced : Balanced m.pages m.skipCounts exits)
    (hplaced : Placed m.pages m.queue exits) :
    Crawl.Accounted (c.emitCheckpoint m midRetry) exits ∧
      ∀ e ∈ (c.emitCheckpoint m midRetry).emitted, Crawl.Certified e.state exits := by
  have hsame := Crawl.sameAccounts_emitCheckpoint (c := c) m midRetry
  refine ⟨⟨?_, ?_, Crawl.reported_emitCheckpoint hcrawling midRetry⟩, ?_⟩
  · rw [hsame.pages, hsame.skipCounts]
    exact hbalanced
  · intro _
    rw [hsame.pages, hsame.queue]
    exact hplaced
  · intro e he
    rcases Crawl.mem_emitCheckpoint he with hold | hsnapshot
    · rw [hemitted] at hold
      cases hold
    · exact Crawl.certified_of_snapshot hsnapshot hbalanced hplaced

theorem accounted_begin {resume : Option CrawlResumeState} (hresume : ResumedWith resume exits)
    (h : call.begin resume tick = .ok (c, m)) :
    Crawl.Accounted m exits ∧ ∀ e ∈ m.emitted, Crawl.Certified e.state exits := by
  cases resume with
  | none =>
    obtain ⟨rootUrl, root, -, rfl, -, rfl⟩ := begin_fresh h
    cases hresume
    refine accounted_start rfl rfl ⟨?_, rfl⟩ ⟨rfl, ?_⟩
    · intro exit
      cases exit <;> rfl
    · intro page hpage _
      rw [mem_singleton.mp hpage]
      rfl
  | some state =>
    obtain ⟨-, rfl, -, -, -, -, rfl⟩ := begin_resumed h
    exact accounted_start rfl rfl hresume.balanced hresume.placed

end CrawlCall

theorem resumedWith_of_recorded {resume : Option CrawlResumeState} (h : Recorded resume exits) :
    CrawlCall.ResumedWith resume exits := by
  induction h with
  | nothing => rfl
  | @checkpoint call resume tick n c m e exits h hbegin hemitted hnew ih =>
    have hkept := CrawlCall.kept_begin hbegin
    obtain ⟨haccounted, hbegun⟩ := CrawlCall.accounted_begin ih hbegin
    cases n with
    | zero =>
      rw [Crawl.journal, append_nil]
      exact hbegun e hemitted
    | succ n =>
      rw [Function.iterate_succ_apply'] at hemitted
      have hbefore := Crawl.accounted_iterate hkept haccounted n
      rw [Crawl.journal, ← append_assoc]
      rcases (Crawl.accounted_step (Crawl.kept_iterate hkept n) hbefore).2 e hemitted with hold | hnow
      · exact absurd hold (hnew n (Nat.lt_succ_self n))
      · exact hnow

/--
**Link conservation.**

In every round of every crawl, resumed or not, the skipped links of all reasons and the queued ones
are together the links of the pages that were expanded, those beyond the cap included; each link has
one exit, and the counters count the exits. The result has the same pages and counts.
-/
theorem link_conservation {call : CrawlCall} {resume : Option CrawlResumeState} {tick : Nat}
    {c : Crawl} {m : CrawlMachine} {exits : List (Option CrawlSkipReason)}
    (hresume : Recorded resume exits) (h : call.begin resume tick = .ok (c, m)) (n : Nat) :
    let reached := c.step^[n] m
    let links := exits ++ c.journal n m
    reached.skipCounts.total + queuedLinks reached.pages = links.length ∧
      links.length = discoveredLinks reached.pages + reached.skipCounts .linkLimit ∧
      (∀ reason, reached.skipCounts reason = links.count (some reason)) ∧
      queuedLinks reached.pages = links.count none ∧
      ((∀ fault, reached.phase ≠ .raised fault) →
        reached.pages.length + reached.queue.length = links.count none + 1) ∧
      ∀ execution, reached.phase = .finished execution →
        execution.pages = reached.pages ∧
          SkipCounts.ofSummaries execution.skippedLinks = reached.skipCounts := by
  intro reached links
  obtain ⟨hbegun, -⟩ := CrawlCall.accounted_begin (resumedWith_of_recorded hresume) h
  have haccounted : Crawl.Accounted reached links :=
    Crawl.accounted_iterate (CrawlCall.kept_begin h) hbegun n
  have hbalanced := haccounted.balanced
  refine ⟨?_, hbalanced.discovered.symm, fun reason => hbalanced.counted (some reason),
    hbalanced.counted none, fun hraised => (haccounted.placed hraised).all, haccounted.reported⟩
  rw [← hbalanced.discovered]
  exact hbalanced.total

omit [StandardLibrary] in
/-- A page with a link to itself and one to another page, after two rounds. -/
theorem link_conservation_observed :
    letI := sampleLibrary
    ∃ c m, (sampleCrawlCall (.responded (sampleResponse ["/a", "/"])) true).begin none 0 = .ok (c, m) ∧
      (c.step^[2] m).skipCounts.total + queuedLinks (c.step^[2] m).pages
        = (c.journal 2 m).length := by
  let _ := sampleLibrary
  have hbegin : (sampleCrawlCall (.responded (sampleResponse ["/a", "/"])) true).begin none 0 =
      .ok (_, _) := rfl
  exact ⟨_, _, hbegin, (link_conservation .nothing hbegin 2).1⟩

end WebGuard
