import WebGuard.Contracts.ScanPermits
import WebGuard.Crawler.Fetch
import WebGuard.Crawler.SafeHttp
import WebGuard.Lib.Binary64

/-!
# The policies of a job

What the executor makes of the limits of an authorization and the claims of a permit
(`ScanJobExecutor._policies`), the constructors that these policies pass (`CrawlPolicy`,
`OwnedTargetExecutionPolicy`), and the limits that `validate_owned_target_preflight` compares them
with. A float is its value; every float here is finite.
-/

namespace WebGuard

open PyJson UrlParse Atomic

/-! ## `OwnedTargetLimits` -/

/-- `_bounded_integer` of `owned_targets.py`. -/
def boundedInteger (value : Int) (fieldName : String) (minimum maximum : Int) : Checked Int := do
  require (minimum ≤ value && value ≤ maximum) "owned_target_integer_invalid"
    (fieldName ++ " must be an integer from " ++ toString minimum ++ " to " ++ toString maximum
      ++ ".")
  return value

/-- `_bounded_number`, with the bounds as `format(·, "g")` writes them. -/
def boundedNumber (value : ℚ) (fieldName : String) (minimum maximum : ℚ) (range : String) :
    Checked ℚ := do
  require (minimum ≤ value && value ≤ maximum) "owned_target_number_invalid"
    (fieldName ++ " must be " ++ range ++ ".")
  return value

theorem boundedInteger_eq_ok {value stored : Int} {fieldName : String} {minimum maximum : Int} :
    boundedInteger value fieldName minimum maximum = .ok stored ↔
      stored = value ∧ minimum ≤ value ∧ value ≤ maximum := by
  unfold boundedInteger
  simp only [bind_ok_iff, require_eq_ok, Bool.and_eq_true, decide_eq_true_eq]
  constructor
  · rintro ⟨_, hrange, h⟩
    cases h
    exact ⟨rfl, hrange⟩
  · rintro ⟨rfl, hrange⟩
    exact ⟨(), hrange, rfl⟩

theorem boundedNumber_eq_ok {value stored : ℚ} {fieldName range : String} {minimum maximum : ℚ} :
    boundedNumber value fieldName minimum maximum range = .ok stored ↔
      stored = value ∧ minimum ≤ value ∧ value ≤ maximum := by
  unfold boundedNumber
  simp only [bind_ok_iff, require_eq_ok, Bool.and_eq_true, decide_eq_true_eq]
  constructor
  · rintro ⟨_, hrange, h⟩
    cases h
    exact ⟨rfl, hrange⟩
  · rintro ⟨rfl, hrange⟩
    exact ⟨(), hrange, rfl⟩

structure OwnedTargetLimitsFields where
  maximumPages : Int := 10
  maximumDepth : Int := 1
  maximumLinksPerPage : Int := 50
  minimumDelaySeconds : ℚ := 1
  maximumExecutionSeconds : ℚ := 60
  maximumRequestAttempts : Int := 15
  maximumAttemptsPerRequest : Int := 1
  timeoutSeconds : ℚ := 10
  maximumBodyBytes : Int := 1048576
  maximumHeaderBytes : Int := 65536
  maximumHeaderCount : Int := 100
  deriving DecidableEq

def OwnedTargetLimitsFields.postInit (raw : OwnedTargetLimitsFields) :
    Checked OwnedTargetLimitsFields := do
  let maximumPages ← boundedInteger raw.maximumPages "limits.maximum_pages" 1 50
  let maximumDepth ← boundedInteger raw.maximumDepth "limits.maximum_depth" 0 3
  let maximumLinksPerPage ← boundedInteger raw.maximumLinksPerPage "limits.maximum_links_per_page"
    1 500
  let minimumDelaySeconds ← boundedNumber raw.minimumDelaySeconds "limits.minimum_delay_seconds"
    (1 / 2) 5 "from 0.5 to 5"
  let maximumExecutionSeconds ← boundedNumber raw.maximumExecutionSeconds
    "limits.maximum_execution_seconds" 1 300 "from 1 to 300"
  let maximumRequestAttempts ← boundedInteger raw.maximumRequestAttempts
    "limits.maximum_request_attempts" 1 150
  let maximumAttemptsPerRequest ← boundedInteger raw.maximumAttemptsPerRequest
    "limits.maximum_attempts_per_request" 1 3
  let timeoutSeconds ← boundedNumber raw.timeoutSeconds "limits.timeout_seconds" 1 60 "from 1 to 60"
  let maximumBodyBytes ← boundedInteger raw.maximumBodyBytes "limits.maximum_body_bytes" 1 16777216
  let maximumHeaderBytes ← boundedInteger raw.maximumHeaderBytes "limits.maximum_header_bytes"
    1 1048576
  let maximumHeaderCount ←
    boundedInteger raw.maximumHeaderCount "limits.maximum_header_count" 1 1000
  return {
    maximumPages, maximumDepth, maximumLinksPerPage, minimumDelaySeconds, maximumExecutionSeconds,
    maximumRequestAttempts, maximumAttemptsPerRequest, timeoutSeconds, maximumBodyBytes,
    maximumHeaderBytes, maximumHeaderCount }

/-- Limits that came out of their check: the `limits` of a valid authorization. -/
structure OwnedTargetLimits extends OwnedTargetLimitsFields where
  built : ∃ raw, OwnedTargetLimitsFields.postInit raw = .ok toOwnedTargetLimitsFields

/-- The bounds of the limits. -/
structure OwnedTargetLimitsFields.Bounded (limits : OwnedTargetLimitsFields) : Prop where
  pages : 1 ≤ limits.maximumPages ∧ limits.maximumPages ≤ 50
  depth : 0 ≤ limits.maximumDepth ∧ limits.maximumDepth ≤ 3
  links : 1 ≤ limits.maximumLinksPerPage ∧ limits.maximumLinksPerPage ≤ 500
  delay : 1 / 2 ≤ limits.minimumDelaySeconds ∧ limits.minimumDelaySeconds ≤ 5
  execution : 1 ≤ limits.maximumExecutionSeconds ∧ limits.maximumExecutionSeconds ≤ 300
  attempts : 1 ≤ limits.maximumRequestAttempts ∧ limits.maximumRequestAttempts ≤ 150
  retries : 1 ≤ limits.maximumAttemptsPerRequest ∧ limits.maximumAttemptsPerRequest ≤ 3
  timeout : 1 ≤ limits.timeoutSeconds ∧ limits.timeoutSeconds ≤ 60
  body : 1 ≤ limits.maximumBodyBytes ∧ limits.maximumBodyBytes ≤ 16777216
  headerBytes : 1 ≤ limits.maximumHeaderBytes ∧ limits.maximumHeaderBytes ≤ 1048576
  headerCount : 1 ≤ limits.maximumHeaderCount ∧ limits.maximumHeaderCount ≤ 1000

theorem OwnedTargetLimits.bounded (limits : OwnedTargetLimits) :
    limits.toOwnedTargetLimitsFields.Bounded := by
  obtain ⟨raw, h⟩ := limits.built
  generalize limits.toOwnedTargetLimitsFields = fields at h
  unfold OwnedTargetLimitsFields.postInit at h
  obtain ⟨_, hpages, h⟩ := bind_ok h
  obtain ⟨_, hdepth, h⟩ := bind_ok h
  obtain ⟨_, hlinks, h⟩ := bind_ok h
  obtain ⟨_, hdelay, h⟩ := bind_ok h
  obtain ⟨_, hexecution, h⟩ := bind_ok h
  obtain ⟨_, hattempts, h⟩ := bind_ok h
  obtain ⟨_, hretries, h⟩ := bind_ok h
  obtain ⟨_, htimeout, h⟩ := bind_ok h
  obtain ⟨_, hbody, h⟩ := bind_ok h
  obtain ⟨_, hheaderBytes, h⟩ := bind_ok h
  obtain ⟨_, hheaderCount, h⟩ := bind_ok h
  rw [boundedInteger_eq_ok] at hpages hdepth hlinks hattempts hretries
  rw [boundedInteger_eq_ok] at hbody hheaderBytes hheaderCount
  rw [boundedNumber_eq_ok] at hdelay hexecution htimeout
  cases h
  refine ⟨?_, ?_, ?_, ?_, ?_, ?_, ?_, ?_, ?_, ?_, ?_⟩
  · exact hpages.1 ▸ hpages.2
  · exact hdepth.1 ▸ hdepth.2
  · exact hlinks.1 ▸ hlinks.2
  · exact hdelay.1 ▸ hdelay.2
  · exact hexecution.1 ▸ hexecution.2
  · exact hattempts.1 ▸ hattempts.2
  · exact hretries.1 ▸ hretries.2
  · exact htimeout.1 ▸ htimeout.2
  · exact hbody.1 ▸ hbody.2
  · exact hheaderBytes.1 ▸ hheaderBytes.2
  · exact hheaderCount.1 ▸ hheaderCount.2

/-! ## `CrawlPolicy` -/

/-- `_bounded_integer` of `crawler.py`. -/
def crawlInteger (value : Int) (name : String) (minimum maximum : Nat) :
    Checked { n : Nat // minimum ≤ n ∧ n ≤ maximum } :=
  if h : (minimum : Int) ≤ value ∧ value ≤ maximum then .ok ⟨value.toNat, by omega⟩
  else invalid (name ++ "_invalid")
    (name ++ " must be an integer from " ++ toString minimum ++ " to " ++ toString maximum ++ ".")

/-- A number of seconds in its range. -/
def crawlSeconds (value : ℚ) (range : ℚ → Prop) [DecidablePred range] (code message : String) :
    Checked { seconds : ℚ // range seconds } :=
  if h : range value then .ok ⟨value, h⟩ else invalid code message

def defaultAllowedContentTypes : List Text := ["application/xhtml+xml".toList, "text/html".toList]

def defaultBlockedPathSegments : List Text :=
  ["checkout", "close-account", "confirm-order", "delete", "delete-account", "destroy", "log-out",
    "logout", "pay", "payment", "place-order", "purchase", "remove", "sign-out", "signout",
    "terminate-account", "unsubscribe"].map (·.toList)

section

variable [StandardLibrary]

def normaliseMediaTypes (values : List Text) : Checked (List Text) := do
  require (!values.isEmpty) "allowed_content_types_invalid"
    "allowed_content_types must be a non-empty frozenset."
  return (← values.mapM (normaliseMediaType · "allowed_content_type")).dedup

/-- One round of the loop of `_normalise_blocked_segments`. -/
def normaliseBlockedSegment (value : Text) : Checked Text := do
  let segment := StandardLibrary.lower (stripped value)
  require (!segment.isEmpty && segment.length ≤ 64 && !segment.contains '/' &&
      !segment.contains '\\' && !segment.any isControlOrSpace) "blocked_path_segment_invalid"
    "Blocked path segments must be bounded single segments."
  return segment

def normaliseBlockedSegments (values : List Text) : Checked (List Text) := do
  require (!values.isEmpty) "blocked_path_segments_invalid"
    "blocked_path_segments must be a non-empty frozenset."
  return (← values.mapM normaliseBlockedSegment).dedup

structure CrawlPolicyFields where
  maximumPages : Int := 10
  maximumDepth : Int := 1
  maximumLinksPerPage : Int := 100
  minimumDelaySeconds : ℚ := Binary64.nearest (1 / 10)
  queryMode : CrawlQueryMode := .drop
  maximumUrlLength : Int := 2048
  maximumExecutionSeconds : ℚ := 300
  maximumRequestAttempts : Int := 150
  allowedContentTypes : List Text := defaultAllowedContentTypes
  blockedPathSegments : List Text := defaultBlockedPathSegments

/-- `CrawlPolicy(...)`. -/
def CrawlPolicyFields.new (raw : CrawlPolicyFields) : Checked CrawlPolicy := do
  let pages ← crawlInteger raw.maximumPages "maximum_pages" 1 50
  let depth ← crawlInteger raw.maximumDepth "maximum_depth" 0 3
  let links ← crawlInteger raw.maximumLinksPerPage "maximum_links_per_page" 1 500
  let urlLength ← crawlInteger raw.maximumUrlLength "maximum_url_length" 128 2048
  let attempts ← crawlInteger raw.maximumRequestAttempts "maximum_request_attempts" 1 150
  let execution ← crawlSeconds raw.maximumExecutionSeconds
    (fun seconds => 0 < seconds ∧ seconds ≤ 3600)
    "maximum_execution_seconds_invalid"
    "maximum_execution_seconds must be greater than zero and no more than 3600 seconds."
  let delay ← crawlSeconds raw.minimumDelaySeconds (fun seconds => 0 ≤ seconds ∧ seconds ≤ 5)
    "minimum_delay_invalid" "minimum_delay_seconds must be between 0 and 5 seconds."
  let types ← normaliseMediaTypes raw.allowedContentTypes
  let segments ← normaliseBlockedSegments raw.blockedPathSegments
  return {
    maximumPages := pages, maximumDepth := depth, maximumLinksPerPage := links
    minimumDelaySeconds := delay, queryMode := raw.queryMode, maximumUrlLength := urlLength
    maximumExecutionSeconds := execution, maximumRequestAttempts := attempts
    allowedContentTypes := types, blockedPathSegments := segments
    pages_bounds := pages.2, depth_bound := depth.2.2, links_bounds := links.2
    length_bounds := urlLength.2, attempts_bounds := attempts.2
    execution_bounds := execution.2, delay_bounds := delay.2 }

end

/-! ## `ScanJobExecutor._policies` -/

theorem singleAttempt_attempts : 1 ≤ 1 ∧ 1 ≤ 3 := by decide

theorem singleAttempt_initial : (0 : ℚ) ≤ 1 / 4 ∧ (1 / 4 : ℚ) ≤ 2 := by norm_num

theorem singleAttempt_multiplier : (1 : ℚ) ≤ 2 ∧ (2 : ℚ) ≤ 4 := by norm_num

theorem singleAttempt_maximum : (2 : ℚ) ≤ 5 := by norm_num

/-- `RetryPolicy(maximum_attempts=1)`. -/
def singleAttempt : RetryPolicy where
  maximumAttempts := 1
  initialBackoffSeconds := 1 / 4
  backoffMultiplier := 2
  maximumBackoffSeconds := 2
  attempts_bounds := singleAttempt_attempts
  initial_bounds := singleAttempt_initial
  multiplier_bounds := singleAttempt_multiplier
  maximum_bound := singleAttempt_maximum

section

variable {φ : Type} [PyFloat φ] [StandardLibrary]

/-- The policy of every request of a job. -/
def jobFetchPolicy (limits : OwnedTargetLimits) (claims : ScanPermits.Claims φ) :
    SafeHttp.FetchPolicy where
  timeoutSeconds := min 10 limits.timeoutSeconds
  maximumBodyBytes := min 1048576 limits.maximumBodyBytes
  maximumHeaderBytes := min 65536 limits.maximumHeaderBytes
  maximumHeaderCount := min 100 limits.maximumHeaderCount
  allowedMethods := claims.allowedHttpMethods.map characters
  maximumRequestBodyBytes := 65536

/-- The arguments of the policy of a crawl: `OWNED_DEFAULT_CRAWL_*`, the limits and the claims. -/
def jobCrawlFields (limits : OwnedTargetLimits) (claims : ScanPermits.Claims φ) :
    CrawlPolicyFields where
  maximumPages := min 10 limits.maximumPages
  maximumDepth := min 1 limits.maximumDepth
  maximumLinksPerPage := min 50 limits.maximumLinksPerPage
  minimumDelaySeconds := max (max 1 limits.minimumDelaySeconds)
    (Binary64.nearest (1 / PyFloat.value claims.maximumRequestsPerSecond))
  maximumExecutionSeconds := min 60 limits.maximumExecutionSeconds
  maximumRequestAttempts :=
    min (min 15 limits.maximumRequestAttempts) claims.maximumRequestAttempts

def policies (limits : OwnedTargetLimits) (claims : ScanPermits.Claims φ) (mode : ScanJobMode) :
    Checked (SafeHttp.FetchPolicy × RetryPolicy × Option CrawlPolicy) :=
  match mode with
  | .singlePage => .ok (jobFetchPolicy limits claims, singleAttempt, none)
  | .crawl => do
    let crawlPolicy ← (jobCrawlFields limits claims).new
    return (jobFetchPolicy limits claims, singleAttempt, some crawlPolicy)

end

/-! ## `OwnedTargetExecutionPolicy` -/

/-- `CrawlQueryMode(...).value`. -/
def CrawlQueryMode.value : CrawlQueryMode → String
  | .drop => "drop"
  | .reject => "reject"

structure OwnedTargetExecutionPolicyFields where
  timeoutSeconds : ℚ
  maximumBodyBytes : Int
  maximumHeaderBytes : Int
  maximumHeaderCount : Int
  maximumAttemptsPerRequest : Int
  crawlEnabled : Bool
  maximumPages : Option Int := none
  maximumDepth : Option Int := none
  maximumLinksPerPage : Option Int := none
  minimumDelaySeconds : Option ℚ := none
  maximumExecutionSeconds : Option ℚ := none
  maximumRequestAttempts : Option Int := none
  queryMode : Option String := none
  deriving DecidableEq

/-- The float nearest to `0.001`. -/
def millisecond : ℚ := Binary64.nearest (1 / 1000)

def OwnedTargetExecutionPolicyFields.postInit (raw : OwnedTargetExecutionPolicyFields) :
    Checked OwnedTargetExecutionPolicyFields := do
  let timeoutSeconds ← boundedNumber raw.timeoutSeconds "execution_policy.timeout_seconds"
    millisecond 60 "from 0.001 to 60"
  let maximumBodyBytes ← boundedInteger raw.maximumBodyBytes "execution_policy.maximum_body_bytes"
    1 16777216
  let maximumHeaderBytes ← boundedInteger raw.maximumHeaderBytes
    "execution_policy.maximum_header_bytes" 1 1048576
  let maximumHeaderCount ← boundedInteger raw.maximumHeaderCount
    "execution_policy.maximum_header_count" 1 1000
  let maximumAttemptsPerRequest ← boundedInteger raw.maximumAttemptsPerRequest
    "execution_policy.maximum_attempts_per_request" 1 3
  match raw.crawlEnabled, raw.maximumPages, raw.maximumDepth, raw.maximumLinksPerPage,
      raw.minimumDelaySeconds, raw.maximumExecutionSeconds, raw.maximumRequestAttempts,
      raw.queryMode with
  | false, none, none, none, none, none, none, none =>
    return {
      timeoutSeconds, maximumBodyBytes, maximumHeaderBytes, maximumHeaderCount,
      maximumAttemptsPerRequest, crawlEnabled := false }
  | false, _, _, _, _, _, _, _ =>
    invalid "owned_target_execution_policy_invalid"
      "Single-page execution policy cannot contain crawl settings."
  | true, some pages, some depth, some links, some delay, some execution, some attempts,
      some query =>
    let pages ← boundedInteger pages "execution_policy.maximum_pages" 1 50
    let depth ← boundedInteger depth "execution_policy.maximum_depth" 0 3
    let links ← boundedInteger links "execution_policy.maximum_links_per_page" 1 500
    let delay ← boundedNumber delay "execution_policy.minimum_delay_seconds" 0 5 "from 0 to 5"
    let execution ← boundedNumber execution "execution_policy.maximum_execution_seconds"
      millisecond 3600 "from 0.001 to 3600"
    let attempts ← boundedInteger attempts "execution_policy.maximum_request_attempts" 1 150
    require (query = "drop" || query = "reject") "owned_target_execution_policy_invalid"
      "query_mode must be 'drop' or 'reject'."
    return {
      timeoutSeconds, maximumBodyBytes, maximumHeaderBytes, maximumHeaderCount,
      maximumAttemptsPerRequest, crawlEnabled := true, maximumPages := some pages
      maximumDepth := some depth, maximumLinksPerPage := some links
      minimumDelaySeconds := some delay, maximumExecutionSeconds := some execution
      maximumRequestAttempts := some attempts, queryMode := some query }
  | true, _, _, _, _, _, _, _ =>
    invalid "owned_target_execution_policy_invalid"
      "Crawl execution policy requires every crawl setting."

def executionPolicy (fetchPolicy : SafeHttp.FetchPolicy) (retryPolicy : RetryPolicy)
    (crawlPolicy : Option CrawlPolicy) : Checked OwnedTargetExecutionPolicyFields :=
  OwnedTargetExecutionPolicyFields.postInit {
    timeoutSeconds := fetchPolicy.timeoutSeconds
    maximumBodyBytes := fetchPolicy.maximumBodyBytes
    maximumHeaderBytes := fetchPolicy.maximumHeaderBytes
    maximumHeaderCount := fetchPolicy.maximumHeaderCount
    maximumAttemptsPerRequest := retryPolicy.maximumAttempts
    crawlEnabled := crawlPolicy.isSome
    maximumPages := crawlPolicy.map fun policy => policy.maximumPages
    maximumDepth := crawlPolicy.map fun policy => policy.maximumDepth
    maximumLinksPerPage := crawlPolicy.map fun policy => policy.maximumLinksPerPage
    minimumDelaySeconds := crawlPolicy.map (·.minimumDelaySeconds)
    maximumExecutionSeconds := crawlPolicy.map (·.maximumExecutionSeconds)
    maximumRequestAttempts := crawlPolicy.map fun policy => policy.maximumRequestAttempts
    queryMode := crawlPolicy.map (·.queryMode.value) }

/-! ## `validate_owned_target_preflight` -/

/-- The limits of a crawl that a preflight compares, with what it raises. -/
def crawlComparisons (limits : OwnedTargetLimits) (crawlPolicy : CrawlPolicy) :
    List (ℚ × ℚ × String × String) :=
  [(crawlPolicy.maximumPages, limits.maximumPages, "owned_target_page_limit_exceeded",
      "Crawl page limit exceeds the authorization limit."),
    (crawlPolicy.maximumDepth, limits.maximumDepth, "owned_target_depth_limit_exceeded",
      "Crawl depth exceeds the authorization limit."),
    (crawlPolicy.maximumLinksPerPage, limits.maximumLinksPerPage,
      "owned_target_link_limit_exceeded", "Per-page link limit exceeds the authorization limit."),
    (crawlPolicy.maximumExecutionSeconds, limits.maximumExecutionSeconds,
      "owned_target_execution_limit_exceeded",
      "Crawl execution time exceeds the authorization limit."),
    (crawlPolicy.maximumRequestAttempts, limits.maximumRequestAttempts,
      "owned_target_request_budget_exceeded",
      "Crawl request budget exceeds the authorization limit.")]

/-- The comparisons of `validate_owned_target_preflight` with the limits of the authorization. -/
def preflightLimits (limits : OwnedTargetLimits) (fetchPolicy : SafeHttp.FetchPolicy)
    (retryPolicy : RetryPolicy) (crawlPolicy : Option CrawlPolicy) : Checked Unit := do
  require (fetchPolicy.timeoutSeconds ≤ limits.timeoutSeconds) "owned_target_timeout_limit_exceeded"
    "Per-request timeout exceeds the authorization limit."
  require (fetchPolicy.maximumBodyBytes ≤ limits.maximumBodyBytes)
    "owned_target_body_limit_exceeded"
    "Response body limit exceeds the authorization limit."
  require (fetchPolicy.maximumHeaderBytes ≤ limits.maximumHeaderBytes)
    "owned_target_header_bytes_limit_exceeded"
    "Response header byte limit exceeds the authorization limit."
  require (fetchPolicy.maximumHeaderCount ≤ limits.maximumHeaderCount)
    "owned_target_header_count_limit_exceeded"
    "Response header count exceeds the authorization limit."
  require (retryPolicy.maximumAttempts ≤ limits.maximumAttemptsPerRequest)
    "owned_target_retry_limit_exceeded" "Per-request attempts exceed the authorization limit."
  match crawlPolicy with
  | none => return ()
  | some crawlPolicy =>
    (crawlComparisons limits crawlPolicy).forM fun (actual, maximum, code, message) =>
      require (actual ≤ maximum) code message
    require (limits.minimumDelaySeconds ≤ crawlPolicy.minimumDelaySeconds)
      "owned_target_delay_below_minimum" "Crawl delay is below the authorization minimum."

end WebGuard
