import WebGuard.Contracts.ScanResults
import WebGuard.Crawler.Records

/-!
# Crawl reports

The contract of `crawl_scans.py`: the policy and the end of a crawl, the result of one page and the
report, with what their constructors make of the values they are given.

The times of a page are those of its attempts. A page without attempts has none; it is refused by
its constructor.
-/

namespace WebGuard.ScanReports

open PyJson UrlParse StandardLibrary FindingContract
open ScanPermits (sortedSet)

/-! ## Values -/

structure CrawlScanPolicy (φ : Type) where
  maximumPages : Int
  maximumDepth : Int
  maximumLinksPerPage : Int
  maximumUrlLength : Int
  minimumDelaySeconds : φ
  maximumExecutionSeconds : φ
  maximumRequestAttempts : Int
  queryMode : PyText
  allowedContentTypes : List PyText
  blockedPathSegments : List PyText
  deriving DecidableEq

structure CrawlScanTermination where
  reason : CrawlTerminationReason
  pagesPending : Int
  deriving DecidableEq

structure CrawlLinkSkip where
  reason : PyText
  count : Int
  deriving DecidableEq

structure CrawlPageScanResult (φ : Type) where
  url : PyText
  depth : Int
  parentUrl : Option PyText
  status : ScanStatus
  coverage : ScanCoverage
  requestAttempts : List (AttemptRecord φ)
  findings : List NormalizedFinding
  errors : List ScanError
  contentType : Option PyText
  connectedAddress : Option PyText
  httpStatus : Option Int
  discoveredLinks : Int
  queuedLinks : Int
  deriving DecidableEq

structure CrawlScanResult (φ : Type) where
  scanId : PyText
  scanType : PyText
  status : ScanStatus
  target : PyText
  engine : PyText
  engineVersion : PyText
  startedAt : Nat
  completedAt : Nat
  policy : CrawlScanPolicy φ
  pages : List (CrawlPageScanResult φ)
  skippedLinks : List CrawlLinkSkip
  termination : CrawlScanTermination
  deriving DecidableEq

/-- `started_at` of a page. -/
def CrawlPageScanResult.startedAt {φ : Type} (page : CrawlPageScanResult φ) : Option Nat :=
  page.requestAttempts.head?.map AttemptRecord.startedAt

/-- `completed_at` of a page. -/
def CrawlPageScanResult.completedAt {φ : Type} (page : CrawlPageScanResult φ) : Option Nat :=
  page.requestAttempts.getLast?.map AttemptRecord.completedAt

/-! ## Fields -/

def boundedInteger (value : Int) (name : String) (minimum maximum : Int) : Checked Unit :=
  require (minimum ≤ value && value ≤ maximum) (name ++ "_invalid")
    (name ++ " must be an integer from " ++ toString minimum ++ " to " ++ toString maximum ++ ".")

section

variable [LowerTable]

/-- `_media_type`. -/
def mediaTypeField (value : PyText) (name : String) : Checked PyText := do
  let cleaned := LowerTable.lower (← boundedText value name 255)
  require (isMediaType (characters cleaned)) (name ++ "_invalid")
    (name ++ " must be a valid media type.")
  return cleaned

/-- `_path_segment`. -/
def pathSegmentField (value : PyText) (name : String) : Checked PyText := do
  let cleaned := LowerTable.lower (← boundedText value name 64)
  require (!cleaned.contains 47 && !cleaned.contains 92 && cleaned.all (33 ≤ ·))
    (name ++ "_invalid") (name ++ " must be one bounded path segment.")
  return cleaned

/-- `_canonical_text_tuple`. -/
def canonicalTexts (values : List PyText) (name : String)
    (normalizer : PyText → String → Checked PyText) : Checked (List PyText) := do
  let normalized := sortedSet (← values.mapM (normalizer · name))
  require (normalized.length = values.length) (name ++ "s_duplicate")
    (name ++ "s cannot contain duplicates.")
  return normalized

/-- `__post_init__` of `CrawlScanTermination`. -/
def CrawlScanTermination.postInit (raw : CrawlScanTermination) : Checked CrawlScanTermination := do
  boundedInteger raw.pagesPending "crawl_termination_pages_pending" 0 50
  require (!((raw.reason = .completed || raw.reason = .rootRequestFailed)
      && raw.pagesPending ≠ 0))
    "crawl_termination_pending_pages_invalid"
    "This termination reason cannot retain pending pages."
  return raw

/-- `__post_init__` of `CrawlLinkSkip`. -/
def CrawlLinkSkip.postInit (raw : CrawlLinkSkip) : Checked CrawlLinkSkip := do
  let reason ← identifierField raw.reason "crawl_skip_reason"
  boundedInteger raw.count "crawl_skip_count" 1 2147483647
  return { raw with reason }

variable {φ : Type} [PyFloat φ]

/-- `__post_init__` of `CrawlScanPolicy`. -/
def CrawlScanPolicy.postInit (raw : CrawlScanPolicy φ) : Checked (CrawlScanPolicy φ) := do
  boundedInteger raw.maximumPages "crawl_policy_maximum_pages" 1 50
  boundedInteger raw.maximumDepth "crawl_policy_maximum_depth" 0 3
  boundedInteger raw.maximumLinksPerPage "crawl_policy_maximum_links_per_page" 1 500
  boundedInteger raw.maximumUrlLength "crawl_policy_maximum_url_length" 128 2048
  boundedInteger raw.maximumRequestAttempts "crawl_policy_maximum_request_attempts" 1 150
  require (PyFloat.isFinite raw.maximumExecutionSeconds
      && 0 < PyFloat.value raw.maximumExecutionSeconds
      && PyFloat.value raw.maximumExecutionSeconds ≤ 3600) "crawl_policy_execution_time_invalid"
    "maximum_execution_seconds must be greater than zero and no more than 3600 seconds."
  require (PyFloat.isFinite raw.minimumDelaySeconds && 0 ≤ PyFloat.value raw.minimumDelaySeconds
      && PyFloat.value raw.minimumDelaySeconds ≤ 5) "crawl_policy_delay_invalid"
    "minimum_delay_seconds must be between zero and five seconds."
  let queryMode ← identifierField raw.queryMode "crawl_policy_query_mode"
  require (queryMode = ofString "drop" || queryMode = ofString "reject")
    "crawl_policy_query_mode_invalid" "query_mode must be 'drop' or 'reject'."
  let allowedContentTypes ← canonicalTexts raw.allowedContentTypes
    "crawl_policy_allowed_content_type" mediaTypeField
  let blockedPathSegments ← canonicalTexts raw.blockedPathSegments
    "crawl_policy_blocked_path_segment" pathSegmentField
  require (!allowedContentTypes.isEmpty) "crawl_policy_allowed_content_types_invalid"
    "allowed_content_types cannot be empty."
  require (!blockedPathSegments.isEmpty) "crawl_policy_blocked_path_segments_invalid"
    "blocked_path_segments cannot be empty."
  return { raw with queryMode, allowedContentTypes, blockedPathSegments }

/-! ## Pages -/

/-- The parent that goes with a depth. -/
def checkParent (depth : Int) (parentUrl : Option PyText) : Checked Unit := do
  boundedInteger depth "crawl_page_depth" 0 3
  require (!(depth = 0 && parentUrl.isSome)) "crawl_page_root_parent_invalid"
    "A depth-zero crawl page cannot have a parent URL."
  require (!(0 < depth && parentUrl.isNone)) "crawl_page_parent_required"
    "A non-root crawl page requires a parent URL."

/-- Statuses of a page that was attempted. -/
def isPageStatus (status : ScanStatus) : Bool :=
  status = .completed || status = .completedWithErrors || status = .failed

/-- The attempts of a page, in the order of their numbers. -/
def checkPageAttempts (coverage : ScanCoverage) (attempts : List (AttemptRecord φ)) :
    Checked Unit := do
  require (attempts.map AttemptRecord.attemptNumber
      = (List.range attempts.length).map fun n => ((n + 1 : Nat) : Int))
    "crawl_page_attempt_sequence_invalid"
    "Page request attempts must be numbered consecutively from one."
  require (coverage.requestsAttempted = attempts.length) "crawl_page_attempt_count_mismatch"
    "Page coverage requests_attempted must match request_attempts."
  require (coverage.requestsSucceeded = (attempts.filter (·.outcome = .succeeded)).length)
    "crawl_page_attempt_success_mismatch"
    "Page coverage requests_succeeded must match request_attempts."

/-- The findings of the page at an origin and a path; `seen` has the fingerprints before them. -/
def checkPageFindings (fingerprint : NormalizedFinding → PyText) (origin path : PyText) :
    List PyText → List NormalizedFinding → Checked Unit
  | _, [] => .ok ()
  | seen, finding :: rest => do
    require (finding.identity.asset = origin && finding.identity.path = path
        && finding.identity.method = ofString "GET") "crawl_page_finding_ownership_invalid"
      "Every finding must belong to the crawled page URL."
    require (!seen.contains (fingerprint finding)) "crawl_page_finding_duplicate"
      "A crawl page cannot contain duplicate finding fingerprints."
    checkPageFindings fingerprint origin path (fingerprint finding :: seen) rest

variable [StandardLibrary]

/-- The address of a page, as it is stored. -/
def pageAddress (value : Option PyText) : Checked (Option PyText) :=
  match value with
  | none => .ok none
  | some text =>
    let refused := invalid "crawl_page_connected_address_invalid"
      "connected_address must be a valid IP address."
    match boundedText text "crawl_page_connected_address" 128 with
    | .error _ => refused
    | .ok cleaned =>
      match ipAddress (characters cleaned) with
      | none => refused
      | some address => .ok (some (codePoints address.compressed))

/-- The media type of a page, as it is stored. -/
def pageContentType (value : Option PyText) : Checked (Option PyText) :=
  match value with
  | none => .ok none
  | some text => (mediaTypeField text "crawl_page_content_type").map some

/-- The parent of a page, as it is stored. -/
def pageParent (value : Option PyText) : Checked (Option PyText) :=
  match value with
  | none => .ok none
  | some url => (canonicalTarget url).map some

/-- The links that were found on a page. -/
def checkPageLinks (page : CrawlPageScanResult φ) : Checked Unit := do
  require (page.httpStatus.all isStatusCode) "crawl_page_http_status_invalid"
    "http_status must be an integer from 100 to 599."
  boundedInteger page.discoveredLinks "crawl_page_discovered_links" 0 500
  boundedInteger page.queuedLinks "crawl_page_queued_links" 0 500
  require (page.queuedLinks ≤ page.discoveredLinks) "crawl_page_queued_links_invalid"
    "queued_links cannot exceed discovered_links."

/-- The fields that go with the outcome of a page; it has its fields as they are stored. -/
def checkPageOutcome (page : CrawlPageScanResult φ) : Checked Unit :=
  match page.status, page.requestAttempts.getLast? with
  | _, none => .ok ()
  | .failed, some final => do
    require (final.outcome = .failed && page.coverage.requestsSucceeded = 0
        && page.connectedAddress.isNone && page.httpStatus.isNone && page.contentType.isNone
        && page.findings.isEmpty && page.discoveredLinks = 0 && page.queuedLinks = 0)
      "crawl_page_failure_metadata_invalid"
      "Failed crawl pages cannot contain successful response metadata or findings."
    require (!page.errors.isEmpty) "crawl_page_failure_error_required"
      "Failed crawl pages require at least one error."
  | _, some final => do
    require (final.outcome = .succeeded && page.coverage.requestsSucceeded = 1
        && page.connectedAddress.isSome && page.httpStatus.isSome
        && final.connectedAddress = page.connectedAddress && final.httpStatus = page.httpStatus)
      "crawl_page_success_metadata_invalid"
      "Completed crawl pages require successful response metadata."
    require page.coverage.unaccountedChecks.isEmpty "crawl_page_coverage_incomplete"
      "Completed crawl pages must account for every planned check."

/-- The errors that go with a status. -/
def checkPageErrors (status : ScanStatus) (errors : List ScanError) : Checked Unit := do
  require (!(status = .completed && !errors.isEmpty)) "crawl_page_completed_has_errors"
    "A completed crawl page cannot contain errors."
  require (!(status = .completedWithErrors && errors.isEmpty)) "crawl_page_errors_required"
    "A completed_with_errors crawl page requires at least one error."

/-- `urlsplit(url).path or "/"` of a canonical URL. -/
def pagePath (url : PyText) : PyText :=
  match urlsplit (characters url) with
  | none => [47]
  | some parsed => if (urlPath url parsed).isEmpty then [47] else urlPath url parsed

variable [DecidableEq φ] (digest : List Char → PyText)

/-- `__post_init__` of `CrawlPageScanResult`. -/
def CrawlPageScanResult.postInit (raw : CrawlPageScanResult φ) :
    Checked (CrawlPageScanResult φ) := do
  let fingerprint := fun finding : NormalizedFinding => finding.identity.fingerprint φ digest
  let url ← canonicalTarget raw.url
  let parentUrl ← pageParent raw.parentUrl
  checkParent raw.depth parentUrl
  require (isPageStatus raw.status) "crawl_page_status_invalid"
    "Crawl page status must be completed, completed_with_errors, or failed."
  require (!raw.requestAttempts.isEmpty) "crawl_page_attempts_invalid"
    "request_attempts must contain at least one RequestAttempt."
  let requestAttempts :=
    raw.requestAttempts.insertionSort fun a b => a.attemptNumber ≤ b.attemptNumber
  checkPageAttempts raw.coverage requestAttempts
  let origin ← targetOrigin url
  checkPageFindings fingerprint origin (pagePath url) [] raw.findings
  let errors := sortedErrors raw.errors
  let contentType ← pageContentType raw.contentType
  let connectedAddress ← pageAddress raw.connectedAddress
  let page : CrawlPageScanResult φ := { raw with
    url, parentUrl, requestAttempts, errors, contentType, connectedAddress
    findings := raw.findings.insertionSort fun a b => fingerprint a ≤ fingerprint b }
  checkPageLinks page
  checkPageOutcome page
  checkPageErrors page.status page.errors
  return page

/-! ## Reports -/

/-- The checks in front of the loop over the pages. -/
def CrawlScanResult.checkLimits (raw : CrawlScanResult φ) (target : PyText) : Checked Unit := do
  require (raw.startedAt ≤ raw.completedAt) "completed_at_before_started_at"
    "completed_at cannot be earlier than started_at."
  require (!raw.pages.isEmpty || raw.termination.reason.isEarly) "crawl_scan_empty_pages_invalid"
    "Only an early budget stop or cancellation may produce a crawl report without attempted pages."
  require ((raw.pages.length : Int) ≤ raw.policy.maximumPages) "crawl_scan_page_limit_exceeded"
    "The report contains more pages than the policy permits."
  require (raw.pages.head?.all fun page => page.url = target && page.depth = 0)
    "crawl_scan_root_page_mismatch" "The first page must be the depth-zero crawl target."
  require ((raw.pages.length : Int) + raw.termination.pagesPending ≤ raw.policy.maximumPages)
    "crawl_scan_pending_page_limit_exceeded"
    "Attempted and pending pages exceed the configured page limit."

/-- What the loop keeps of the pages before. -/
structure SeenPages (φ : Type) where
  pages : List (CrawlPageScanResult φ)
  fingerprints : List PyText
  completedAt : Nat

/-- What the loop asks of a page, its findings apart. -/
def CrawlScanResult.checkPage (raw : CrawlScanResult φ) (origin : PyText)
    (seen : SeenPages φ) (page : CrawlPageScanResult φ) : Checked Unit := do
  let pageOrigin ← targetOrigin page.url
  require (pageOrigin = origin) "crawl_scan_page_origin_mismatch"
    "Every crawl page must use the target origin."
  require (!(seen.pages.map CrawlPageScanResult.url).contains page.url) "crawl_scan_page_duplicate"
    "A crawl scan cannot contain the same page twice."
  require (seen.pages.isEmpty || page.depth ≠ 0) "crawl_scan_multiple_roots"
    "Only the first crawl page may have depth zero."
  require (seen.pages.getLast?.all (·.depth ≤ page.depth)) "crawl_scan_page_order_invalid"
    "Crawl pages must remain in breadth-first depth order."
  require (page.depth ≤ raw.policy.maximumDepth) "crawl_scan_depth_limit_exceeded"
    "A crawl page exceeds the configured maximum depth."
  require (page.parentUrl.all fun parent =>
      (seen.pages.find? (·.url = parent)).any fun found => page.depth = found.depth + 1)
    "crawl_scan_parent_invalid"
    "Every non-root page must reference an earlier parent at the preceding depth."
  require (page.startedAt.all (seen.completedAt ≤ ·)) "crawl_scan_page_attempt_order_invalid"
    "Crawl page attempts cannot overlap or move backwards in time."
  require (page.coverage.plannedChecks
      = (raw.pages.head?.map fun first => first.coverage.plannedChecks).getD [])
    "crawl_scan_check_plan_mismatch" "Every crawl page must use the same planned check set."
  require (page.startedAt.all (raw.startedAt ≤ ·)
      && page.completedAt.all (· ≤ raw.completedAt))
    "crawl_scan_page_time_invalid"
    "Page request attempts must fall within the scan time window."

/-- The findings of a page after those of the pages before. -/
def addPageFindings (fingerprint : NormalizedFinding → PyText) :
    List PyText → List NormalizedFinding → Checked (List PyText)
  | seen, [] => .ok seen
  | seen, finding :: rest => do
    require (!seen.contains (fingerprint finding)) "crawl_scan_finding_duplicate"
      "A crawl scan cannot contain duplicate finding fingerprints."
    addPageFindings fingerprint (fingerprint finding :: seen) rest

/-- The loop over the pages. -/
def CrawlScanResult.checkPages (raw : CrawlScanResult φ) (origin : PyText)
    (fingerprint : NormalizedFinding → PyText) :
    SeenPages φ → List (CrawlPageScanResult φ) → Checked Unit
  | _, [] => .ok ()
  | seen, page :: rest => do
    raw.checkPage origin seen page
    let fingerprints ← addPageFindings fingerprint seen.fingerprints page.findings
    raw.checkPages origin fingerprint
      ⟨seen.pages ++ [page], fingerprints, page.completedAt.getD seen.completedAt⟩ rest

/-- The status that belongs to the pages and the reason of the end. -/
def CrawlScanResult.expectedStatus (raw : CrawlScanResult φ) : ScanStatus :=
  if raw.termination.reason = .cancelled then .cancelled
  else if raw.termination.reason = .timeLimitReached
      || raw.termination.reason = .requestAttemptLimitReached then .completedWithErrors
  else if raw.pages.head?.any (·.status = .failed) then .failed
  else if raw.pages.any (·.status ≠ .completed) then .completedWithErrors
  else .completed

/-- The checks behind the loop over the pages. -/
def CrawlScanResult.checkEnd (raw : CrawlScanResult φ) : Checked Unit := do
  let rootFailed := raw.pages.head?.any (·.status = .failed)
  require (raw.skippedLinks.map CrawlLinkSkip.reason).Nodup "crawl_scan_skip_duplicate"
    "A crawl skip reason can appear only once."
  require (!rootFailed || raw.pages.length = 1) "crawl_scan_pages_after_root_failure"
    "A crawl cannot contain child pages after the root request failed."
  require (raw.termination.reason ≠ .rootRequestFailed || rootFailed)
    "crawl_scan_root_failure_termination_invalid"
    "root_request_failed requires one failed root page."
  require (!rootFailed || raw.termination.reason = .rootRequestFailed
      || raw.termination.reason.isEarly) "crawl_scan_root_failure_termination_missing"
    "A failed root page requires an explicit root or budget termination reason."
  require (raw.status = raw.expectedStatus) "crawl_scan_status_inconsistent"
    "Crawl scan status is inconsistent with page outcomes."

/-- The order of a dataclass with `order=True`. -/
def CrawlLinkSkip.le (a b : CrawlLinkSkip) : Bool :=
  a.reason < b.reason || (a.reason = b.reason && a.count ≤ b.count)

/-- `__post_init__` of `CrawlScanResult`. -/
def CrawlScanResult.postInit [ReportLibrary φ] (raw : CrawlScanResult φ) :
    Checked (CrawlScanResult φ) := do
  let scanId ← scanIdField φ raw.scanId
  require (isTerminal raw.status) "crawl_scan_status_invalid" "Crawl scan status must be terminal."
  let target ← canonicalTarget raw.target
  raw.checkLimits target
  let origin ← targetOrigin target
  raw.checkPages origin (fun finding => finding.identity.fingerprint φ digest)
    ⟨[], [], raw.startedAt⟩ raw.pages
  raw.checkEnd
  let scanType ← identifierField raw.scanType "scan_type"
  let engine ← identifierField raw.engine "engine"
  let engineVersion ← boundedText raw.engineVersion "engine_version" 64
  return { raw with
    scanId, scanType, target, engine, engineVersion
    skippedLinks := raw.skippedLinks.insertionSort fun a b => a.le b = true }

/-- `findings` of a report. -/
def CrawlScanResult.findings (report : CrawlScanResult φ) : List NormalizedFinding :=
  (report.pages.flatMap CrawlPageScanResult.findings).insertionSort fun a b =>
    a.identity.fingerprint φ digest ≤ b.identity.fingerprint φ digest

end

end WebGuard.ScanReports
