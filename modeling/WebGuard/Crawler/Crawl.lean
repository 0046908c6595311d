import WebGuard.Crawler.Fetch

/-!
# `crawl_same_origin`

The breadth-first loop of `crawler.py` as a state machine. A state is what the function keeps in
its local variables; a step is one round of `while queue and len(pages) < maximum_pages`, with
everything behind the loop in the step that leaves it. An exception is a phase of its own, so
that a run can be looked at in every state it passes through, however it ends.

`begin` is what happens before the loop, for a fresh crawl and for a resumed one.
-/

namespace WebGuard

open UrlParse StandardLibrary

variable [StandardLibrary]

/-! ## What a response says -/

def responseContentType (response : SafeHttpResponse) : Option Text :=
  let named := response.headers.filter fun (name, value) =>
    lower name = "content-type".toList && !(stripped value).isEmpty
  match named.map fun (_, value) => lower (stripped (partition ';' value).1) with
  | [] => none
  | mediaType :: others =>
    if others.all (· = mediaType) && isMediaType mediaType then some mediaType else none

/-- The `href` that `_AnchorParser.handle_starttag` takes from a tag. -/
def StartTag.href (t : StartTag) : Option Text :=
  if lower t.tag = ['a'] then
    t.attrs.findSome? fun (name, value) => if lower name = "href".toList then value else none
  else none

def SafeHttpResponse.hrefs (response : SafeHttpResponse) : List Text :=
  response.startTags.filterMap (·.href)

/-! ## The machine -/

/-- A checkpoint that was handed to the observer, and the moment it was taken at. -/
structure Emission where
  state : CrawlResumeState
  tick : Nat
  /-- The last page was given up although a retry was due. -/
  midRetry : Bool

inductive CrawlPhase where
  | crawling
  | finished (execution : CrawlExecution)
  | raised (fault : CrawlFault)
  deriving DecidableEq

structure CrawlMachine where
  pages : List CrawlPageRecord
  queue : List CrawlPendingPage
  visited : SortedSet Text
  skipCounts : SkipCounts
  attemptsUsed : Nat
  tick : Nat
  requests : List CrawlRequest
  emitted : List Emission
  phase : CrawlPhase

/-- The machine after a fetch, with the page taken off the queue. -/
def CrawlMachine.fetched (m : CrawlMachine) (rest : List CrawlPendingPage) (spent : Expended) :
    CrawlMachine :=
  { m with
    queue := rest, attemptsUsed := spent.attemptsUsed, tick := spent.tick
    requests := spent.requests }

/-- How a round of the loop ends. -/
inductive Turn where
  /-- The loop is left. -/
  | leave (m : CrawlMachine) (reason : CrawlTerminationReason)
  /-- An exception leaves the function. -/
  | fail (m : CrawlMachine) (fault : CrawlFault)
  /-- A checkpoint is emitted, and then the loop is left if there is a reason to. -/
  | emit (m : CrawlMachine) (midRetry : Bool) (leaving : Option CrawlTerminationReason)

/-- What the links of one page change. -/
structure Discovery where
  queue : List CrawlPendingPage
  visited : SortedSet Text
  skipCounts : SkipCounts
  queuedLinks : Nat

namespace Crawl

variable (c : Crawl)

def snapshot (m : CrawlMachine) : Checked CrawlResumeState := do
  let skippedLinks ← m.skipCounts.summaries
  CrawlResumeState.new
    { rootUrl := c.rootUrl
      pages := m.pages
      pendingPages := m.queue
      visitedUrls := m.visited.toList
      skippedLinks := skippedLinks
      elapsedExecutionSeconds := c.elapsedBefore + max 0 (c.world.now m.tick - c.world.runStarted)
      attemptsUsed := m.attemptsUsed }

def emitCheckpoint (m : CrawlMachine) (midRetry : Bool) : CrawlMachine :=
  if c.observed then
    match c.snapshot m with
    | .ok state =>
      { m with emitted := m.emitted ++ [⟨state, m.tick, midRetry⟩], tick := m.tick + 1 }
    | .error e => { m with phase := .raised (.snapshot e), tick := m.tick + 1 }
  else { m with tick := m.tick + 1 }

/-! ## Links -/

/-- The loop over `parser.hrefs`: the skip counts and the candidates. -/
def collect (baseUrl : Text) (visited : SortedSet Text) :
    List Text → SkipCounts → SortedSet Text → SkipCounts × SortedSet Text
  | [], skipCounts, candidates => (skipCounts, candidates)
  | href :: rest, skipCounts, candidates =>
    match canonicalCandidate href baseUrl c.target.origin c.policy with
    | .error reason => collect baseUrl visited rest (skipCounts.add reason 1) candidates
    | .ok candidate =>
      if candidate ∈ visited ∨ candidate ∈ candidates then
        collect baseUrl visited rest (skipCounts.add .duplicate 1) candidates
      else collect baseUrl visited rest skipCounts (candidates.insert candidate)

/-- The loop over `sorted(candidates)`; `done` is `len(pages)`. -/
def enqueue (done : Nat) (page : CrawlPendingPage) :
    List Text → Discovery → Except CrawlFault Discovery
  | [], d => .ok d
  | candidate :: rest, d =>
    if c.policy.maximumPages ≤ done + 1 + d.queue.length then
      enqueue done page rest { d with skipCounts := d.skipCounts.add .pageLimit 1 }
    else
      match CrawlPendingPage.new ⟨candidate, page.depth + 1, some page.url⟩ with
      | .error e => .error (.pending e)
      | .ok pending =>
        enqueue done page rest
          { queue := d.queue ++ [pending]
            visited := d.visited.insert candidate
            skipCounts := d.skipCounts
            queuedLinks := d.queuedLinks + 1 }

/-- Whether the links of a page are followed. -/
def follows (page : CrawlPendingPage) (response : SafeHttpResponse) : Bool :=
  (responseContentType response).any c.policy.allowedContentTypes.contains &&
    page.depth < c.policy.maximumDepth

/-- The links of a response, with the number of them that were looked at. -/
def discover (done : Nat) (page : CrawlPendingPage) (response : SafeHttpResponse) (d : Discovery) :
    Except CrawlFault (Discovery × Nat) :=
  if c.follows page response then
    let hrefs := response.hrefs.take c.policy.maximumLinksPerPage
    let omitted := response.hrefs.length - c.policy.maximumLinksPerPage
    let (skipCounts, candidates) := c.collect page.url d.visited hrefs
      (d.skipCounts.add .linkLimit omitted) SortedSet.empty
    match c.enqueue done page candidates.toList { d with skipCounts := skipCounts } with
    | .error fault => .error fault
    | .ok d => .ok (d, hrefs.length)
  else .ok (d, 0)

/-! ## The end -/

/-- The reason after the loop, when the loop ended with `reason`. -/
def finalReason (m : CrawlMachine) (reason : CrawlTerminationReason) : CrawlTerminationReason :=
  if reason.isEarly then reason
  else if !m.queue.isEmpty || 0 < m.skipCounts .pageLimit then .pageLimitReached
  else reason

/-- The queue that no page is left for is dropped. -/
def dropQueue (m : CrawlMachine) (reason : CrawlTerminationReason) : CrawlMachine :=
  if reason.isEarly then m
  else
    { m with
      skipCounts := m.skipCounts.add .pageLimit m.queue.length
      visited := m.queue.foldl (fun visited pending => visited.erase pending.url) m.visited
      queue := [] }

/-- `return CrawlExecution(...)`. -/
def conclude (m : CrawlMachine) (reason : CrawlTerminationReason) : CrawlMachine :=
  match (do
    let skippedLinks ← m.skipCounts.summaries
    CrawlExecution.new
      { rootUrl := c.rootUrl
        pages := m.pages
        skippedLinks := skippedLinks
        terminationReason := reason
        pagesPending := if reason.isEarly then m.queue.length else 0 }) with
  | .ok execution => { m with phase := .finished execution }
  | .error e => { m with phase := .raised (.execution e) }

/-- What is behind the loop. -/
def finish (m : CrawlMachine) (reason : CrawlTerminationReason) (midRetry : Bool) :
    CrawlMachine :=
  let final := c.emitCheckpoint (dropQueue m reason) midRetry
  match final.phase with
  | .crawling => c.conclude final (finalReason m reason)
  | _ => final

/-! ## One round -/

/-- The checks in front of a fetch, which take four moments. -/
def holdBack (m : CrawlMachine) : Option CrawlTerminationReason :=
  match c.stopReason m.attemptsUsed m.tick with
  | some reason => some reason
  | none =>
    if !m.pages.isEmpty && 0 < c.policy.minimumDelaySeconds then
      c.wait c.policy.minimumDelaySeconds m.attemptsUsed (m.tick + 1)
    else none

/-- A page that got no response: its record, or its return to the queue if no request began. -/
def recordFailure (m : CrawlMachine) (page : CrawlPendingPage) (outcome : FetchOutcome) :
    Except CrawlFault CrawlMachine :=
  match outcome.attempts with
  | [] => .ok (if outcome.terminationReason.isSome then { m with queue := page :: m.queue } else m)
  | _ :: _ =>
    match outcome.failure with
    | none => .error (.page ⟨"page_failure_metadata_required",
        "Failed pages require failed attempt error metadata."⟩)
    | some (code, retryable) =>
      match CrawlPageRecord.new
          ⟨page.url, page.depth, page.parentUrl, .failed code retryable, outcome.attempts⟩ with
      | .error e => .error (.page e)
      | .ok record => .ok { m with pages := m.pages ++ [record] }

/-- The round of a page that got no response. -/
def afterFailure (m : CrawlMachine) (page : CrawlPendingPage) (outcome : FetchOutcome) : Turn :=
  match recordFailure m page outcome with
  | .error fault => .fail m fault
  | .ok recorded =>
    .emit recorded (outcome.terminationReason.isSome && !outcome.attempts.isEmpty)
      (outcome.terminationReason <|> if page.depth = 0 then some .rootRequestFailed else none)

/-- The round of a page that got a response. -/
def afterResponse (m : CrawlMachine) (page : CrawlPendingPage) (response : SafeHttpResponse)
    (attempts : List RequestAttempt) : Turn :=
  match c.discover m.pages.length page response ⟨m.queue, m.visited, m.skipCounts, 0⟩ with
  | .error fault => .fail m fault
  | .ok (d, discoveredLinks) =>
    match CrawlPageRecord.new
        ⟨page.url, page.depth, page.parentUrl,
          .succeeded (responseContentType response) response.connectedAddress response.status
            discoveredLinks d.queuedLinks, attempts⟩ with
    | .error e => .fail m (.page e)
    | .ok record =>
      .emit
        { m with
          pages := m.pages ++ [record], queue := d.queue, visited := d.visited
          skipCounts := d.skipCounts } false none

/-- A fetch with the machine's budget. -/
def fetchNext (m : CrawlMachine) (page : CrawlPendingPage) :
    Except CrawlFault FetchOutcome × Expended :=
  c.fetchWithRetry m.pages.length page ⟨m.attemptsUsed, m.tick + 4, m.requests⟩

/-- What a round does before it emits a checkpoint or leaves the loop. -/
def turn (m : CrawlMachine) : Turn :=
  match m.queue with
  | [] => .leave m .completed
  | page :: rest =>
    if c.policy.maximumPages ≤ m.pages.length then .leave m .completed
    else
      match c.holdBack m with
      | some reason => .leave { m with tick := m.tick + 4 } reason
      | none =>
        match c.fetchNext m page with
        | (.error fault, spent) => .fail (m.fetched rest spent) fault
        | (.ok outcome, spent) =>
          match outcome.response with
          | none => afterFailure (m.fetched rest spent) page outcome
          | some response => c.afterResponse (m.fetched rest spent) page response outcome.attempts

/-- The checkpoint of a round, and what is behind the loop if the round leaves it. -/
def settle : Turn → CrawlMachine
  | .leave m reason => c.finish m reason false
  | .fail m fault => { m with phase := .raised fault }
  | .emit m midRetry leaving =>
    let emitted := c.emitCheckpoint m midRetry
    match emitted.phase, leaving with
    | .crawling, some reason => c.finish emitted reason midRetry
    | _, _ => emitted

/-- One round of the loop, or what is behind it. -/
def step (m : CrawlMachine) : CrawlMachine :=
  match m.phase with
  | .crawling => c.settle (c.turn m)
  | _ => m

/-- The whole loop: no round is left after one for each page and the last. -/
def run (m : CrawlMachine) : CrawlMachine := c.step^[c.policy.maximumPages + 1] m

end Crawl

/-! ## The beginning -/

/-- What a caller of `crawl_same_origin` passes, and the world it is called in. -/
structure CrawlCall where
  target : ValidatedTarget
  policy : CrawlPolicy
  retryPolicy : RetryPolicy
  observed : Bool
  world : CrawlWorld

namespace CrawlCall

variable (call : CrawlCall)

/-- `_root_origin` and the canonical root URL. -/
def rootUrl : Checked Text := do
  let origin ← rootOrigin call.target
  match canonicalCandidate call.target.normalisedUrl call.target.normalisedUrl origin
      call.policy with
  | .error reason =>
    invalid (if reason = .queryRejected then "root_query_rejected" else "root_url_invalid")
      "The validated root URL is incompatible with the crawl policy."
  | .ok rootUrl => return rootUrl

def crawl (rootUrl : Text) (elapsedBefore : ℚ) : Crawl :=
  ⟨call.target, call.policy, call.retryPolicy, call.world, call.observed, rootUrl, elapsedBefore⟩

/-- The local variables of a fresh crawl, at a moment. -/
def freshMachine (root : CrawlPendingPage) (rootUrl : Text) (tick : Nat) : CrawlMachine where
  pages := []
  queue := [root]
  visited := SortedSet.ofList [rootUrl]
  skipCounts := fun _ => 0
  attemptsUsed := 0
  tick := tick
  requests := []
  emitted := []
  phase := .crawling

/-- The local variables of a resumed crawl, at a moment. -/
def resumedMachine (state : CrawlResumeState) (tick : Nat) : CrawlMachine where
  pages := state.pages
  queue := state.pendingPages
  visited := SortedSet.ofList state.visitedUrls
  skipCounts := SkipCounts.ofSummaries state.skippedLinks
  attemptsUsed := state.attemptsUsed
  tick := tick
  requests := []
  emitted := []
  phase := .crawling

/-- What is in front of the loop, without a resume state. -/
def beginFresh (tick : Nat) : Checked (Crawl × CrawlMachine) := do
  let rootUrl ← call.rootUrl
  let root ← CrawlPendingPage.new ⟨rootUrl, 0, none⟩
  let c := call.crawl rootUrl 0
  return (c, c.emitCheckpoint (freshMachine root rootUrl tick) false)

/-- What is in front of the loop, with a resume state. -/
def beginResumed (state : CrawlResumeState) (tick : Nat) : Checked (Crawl × CrawlMachine) := do
  let rootUrl ← call.rootUrl
  require (state.rootUrl = rootUrl) "resume_root_mismatch"
    "Resume state belongs to a different crawl root."
  require (state.pages.length + state.pendingPages.length ≤ call.policy.maximumPages)
    "resume_page_limit_exceeded" "Resume state exceeds policy.maximum_pages."
  require (state.pages.all (·.depth ≤ call.policy.maximumDepth) &&
      state.pendingPages.all (·.depth ≤ call.policy.maximumDepth))
    "resume_depth_limit_exceeded" "Resume state exceeds policy.maximum_depth."
  require (state.attemptsUsed ≤ call.policy.maximumRequestAttempts)
    "resume_attempt_budget_exceeded" "Resume state exceeds the request-attempt budget."
  let c := call.crawl rootUrl state.elapsedExecutionSeconds
  return (c, c.emitCheckpoint (resumedMachine state tick) false)

/-- `crawl_same_origin` up to its loop. -/
def begin (resume : Option CrawlResumeState) (tick : Nat) : Checked (Crawl × CrawlMachine) :=
  match resume with
  | none => call.beginFresh tick
  | some state => call.beginResumed state tick

end CrawlCall

/-! ## A small site -/

section

omit [StandardLibrary]

@[reducible] def sampleLibrary : StandardLibrary where
  lower := List.map Char.toLower
  nfkc := id
  ipAddress := fun _ => none
  lower_ascii := UrlParse.map_toLower_ascii

/-- The defaults of `CrawlPolicy`, without a delay. -/
def samplePolicy : CrawlPolicy where
  maximumPages := 10
  maximumDepth := 1
  maximumLinksPerPage := 100
  minimumDelaySeconds := 0
  queryMode := .drop
  maximumUrlLength := 2048
  maximumExecutionSeconds := 300
  maximumRequestAttempts := 150
  allowedContentTypes := ["text/html".toList]
  blockedPathSegments := ["logout".toList]
  pages_bounds := by decide
  depth_bound := by decide
  links_bounds := by decide
  length_bounds := by decide
  attempts_bounds := by decide
  execution_bounds := by norm_num
  delay_bounds := by norm_num

def sampleRetryPolicy : RetryPolicy where
  maximumAttempts := 1
  initialBackoffSeconds := 1 / 4
  backoffMultiplier := 2
  maximumBackoffSeconds := 2
  attempts_bounds := by decide
  initial_bounds := by norm_num
  multiplier_bounds := by norm_num
  maximum_bound := by norm_num

def sampleResponse (hrefs : List String) : SafeHttpResponse where
  status := 200
  connectedAddress := "192.0.2.1".toList
  headers := [("Content-Type".toList, "text/html; charset=utf-8".toList)]
  startTags := hrefs.map fun href => ⟨['a'], [("href".toList, some href.toList)]⟩

def sampleWorld (answer : FetchAnswer) : CrawlWorld where
  runStarted := 0
  now := fun _ => 0
  cancelled := fun _ => false
  answer := fun _ _ => answer

def sampleTarget : @ValidatedTarget sampleLibrary :=
  letI := sampleLibrary
  { normalisedUrl := "https://h/".toList
    scheme := https
    hostname := ['h']
    port := 443
    web := https_web
    host := .named (by decide) (List.all_eq_true.mp (by decide)) (by rintro a ⟨⟩) }

def sampleCrawlCall (answer : FetchAnswer) (observed : Bool) : @CrawlCall sampleLibrary :=
  letI := sampleLibrary
  ⟨sampleTarget, samplePolicy, sampleRetryPolicy, observed, sampleWorld answer⟩

end

end WebGuard
