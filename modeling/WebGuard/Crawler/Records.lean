import Mathlib.Algebra.Order.Ring.Nat
import Mathlib.Data.List.Lex
import Mathlib.Data.Char
import WebGuard.Lib.SortedSet
import WebGuard.Crawler.Urls

/-!
# Records of a crawl

The records that `crawler.py` builds while it crawls, with the checks of their constructors:
request attempts, page records, pending pages, skip summaries, the resume state that a checkpoint
observer is given, and the result.

The optional fields of the source that must be present together are constructors here: a failed
attempt has an error code and no address. What the constructors then still check is checked in
the source's order. The wall-clock times of an attempt are left out, and the texts of IP
addresses are taken as `_canonical_addresses` writes them.
-/

namespace WebGuard

open UrlParse Atomic List CrawlSkipReason

/-! ## Requests -/

/-- The codes of `SafeRequestError`, as `error_taxonomy.py` lists them. -/
inductive RequestErrorCode where
  | timeoutInvalid
  | bodyLimitInvalid
  | headerLimitInvalid
  | requestBodyLimitInvalid
  | headerCountInvalid
  | validatedAddressInvalid
  | validatedAddressesEmpty
  | validatedTargetMismatch
  | fragmentNotAllowed
  | schemeNotAllowed
  | methodNotAllowed
  | proxyTunnelNotAllowed
  | connectionTimeout
  | connectionRefused
  | connectionInterrupted
  | networkUnreachable
  | connectionFailed
  | tlsCertificateInvalid
  | tlsHandshakeFailed
  | tlsContextInsecure
  | tlsMetadataUnavailable
  | tlsCertificateMetadataInvalid
  | tlsCertificateMetadataTooLarge
  | httpProtocolError
  | connectionFailedMixed
  | redirectBlocked
  | responseBodyTooLarge
  | responseHeadersTooMany
  | responseHeadersTooLarge
  | requestBodyTooLarge
  | forbiddenRequestHeader
  | contentLengthInvalid
  | contentLengthAmbiguous
  deriving DecidableEq

/-- `is_retryable_error(stage="request", ...)`. -/
def isRetryableError : RequestErrorCode → Bool
  | .connectionTimeout => true
  | .connectionRefused => true
  | .connectionInterrupted => true
  | .networkUnreachable => true
  | .connectionFailed => true
  | _ => false

inductive RequestAttemptOutcome where
  | succeeded (connectedAddress : Text) (httpStatus : Nat)
  | failed (errorCode : RequestErrorCode) (retryable retryScheduled : Bool) (backoffSeconds : ℚ)
  deriving DecidableEq

structure RequestAttempt where
  attemptNumber : Nat
  outcome : RequestAttemptOutcome
  deriving DecidableEq

def RequestAttemptOutcome.check : RequestAttemptOutcome → Checked Unit
  | .succeeded _ httpStatus =>
    require (100 ≤ httpStatus && httpStatus ≤ 599) "request_attempt_http_status_invalid"
      "http_status must be an integer from 100 to 599."
  | .failed _ retryable retryScheduled backoffSeconds => do
    require (0 ≤ backoffSeconds && backoffSeconds ≤ 3600) "request_attempt_backoff_invalid"
      "backoff_seconds must be between 0 and 3600 seconds."
    require (!retryScheduled || retryable) "request_attempt_retry_not_allowed"
      "A non-retryable failure cannot schedule a retry."
    require (retryScheduled || backoffSeconds = 0) "request_attempt_backoff_without_retry"
      "backoff_seconds must be zero when no retry is scheduled."

/-- `RequestAttempt(...)`. -/
def RequestAttempt.new (attemptNumber : Nat) (outcome : RequestAttemptOutcome) :
    Checked RequestAttempt := do
  require (1 ≤ attemptNumber) "request_attempt_number_invalid"
    "attempt_number must be a positive integer."
  outcome.check
  return ⟨attemptNumber, outcome⟩

theorem RequestAttempt.new_eq_ok {attemptNumber : Nat} {outcome : RequestAttemptOutcome}
    {attempt : RequestAttempt} (h : RequestAttempt.new attemptNumber outcome = .ok attempt) :
    attempt = ⟨attemptNumber, outcome⟩ := by
  unfold RequestAttempt.new at h
  obtain ⟨_, -, h⟩ := bind_ok h
  obtain ⟨_, -, h⟩ := bind_ok h
  cases h
  rfl

/-! ## Pages -/

inductive CrawlPageOutcome where
  | succeeded (contentType : Option Text) (connectedAddress : Text) (httpStatus : Nat)
      (discoveredLinks queuedLinks : Nat)
  | failed (errorCode : RequestErrorCode) (retryable : Bool)
  deriving DecidableEq

def CrawlPageOutcome.isSucceeded : CrawlPageOutcome → Bool
  | .succeeded .. => true
  | .failed .. => false

/-- A character of `_MEDIA_TYPE`. -/
def isMediaCharacter (c : Char) : Bool :=
  isLower c || isDigit c || "!#$&^_.+-".toList.contains c

/-- `_MEDIA_TYPE.fullmatch`. -/
def isMediaType (t : Text) : Bool :=
  let (type, slash, subtype) := partition '/' t
  !type.isEmpty && type.all isMediaCharacter && slash && !subtype.isEmpty &&
    subtype.all isMediaCharacter

section

variable [StandardLibrary]

open StandardLibrary

def normaliseMediaType (value : Text) (fieldName : String) : Checked Text := do
  let cleaned := lower (stripped value)
  require (isMediaType cleaned) (fieldName ++ "_invalid")
    (fieldName ++ " must be a valid media type.")
  return cleaned

structure CrawlPageRecordFields where
  url : Text
  depth : Nat
  parentUrl : Option Text
  outcome : CrawlPageOutcome
  attempts : List RequestAttempt
  deriving DecidableEq

/-- The checks that depend on the outcome; the content type is stored as they return it. -/
def CrawlPageOutcome.check (final : RequestAttemptOutcome) :
    CrawlPageOutcome → Checked CrawlPageOutcome
  | .succeeded contentType connectedAddress httpStatus discoveredLinks queuedLinks => do
    require (discoveredLinks ≤ 500) "discovered_links_invalid"
      "discovered_links must be an integer from 0 to 500."
    require (queuedLinks ≤ 500) "queued_links_invalid"
      "queued_links must be an integer from 0 to 500."
    require (queuedLinks ≤ discoveredLinks) "queued_links_invalid"
      "queued_links cannot exceed discovered_links."
    let contentType ← contentType.mapM (normaliseMediaType · "page_content_type")
    require (100 ≤ httpStatus && httpStatus ≤ 599) "page_http_status_invalid"
      "http_status must be an integer from 100 to 599."
    require (final = .succeeded connectedAddress httpStatus) "page_success_metadata_required"
      "Successful pages require successful attempt metadata."
    return .succeeded contentType connectedAddress httpStatus discoveredLinks queuedLinks
  | .failed errorCode retryable => do
    require (match final with
        | .failed code retry _ _ => code = errorCode && retry = retryable
        | .succeeded .. => false) "page_failure_metadata_required"
      "Failed pages require failed attempt error metadata."
    return .failed errorCode retryable

def CrawlPageRecordFields.postInit (raw : CrawlPageRecordFields) :
    Checked CrawlPageRecordFields := do
  let url ← auditUrl raw.url "page_url"
  let parentUrl ← raw.parentUrl.mapM (auditUrl · "parent_url")
  require (raw.depth ≤ 3) "page_depth_invalid" "page_depth must be an integer from 0 to 3."
  require (raw.attempts.map (·.attemptNumber) = range' 1 raw.attempts.length)
    "page_attempt_sequence_invalid" "Page attempts must be numbered consecutively from one."
  match raw.attempts.getLast? with
  | none =>
    invalid "page_attempts_invalid" "attempts must contain at least one RequestAttempt."
  | some final => do
    let outcome ← raw.outcome.check final.outcome
    return { raw with url := url, parentUrl := parentUrl, outcome := outcome }

structure CrawlPageRecord extends CrawlPageRecordFields where
  built : ∃ raw, CrawlPageRecordFields.postInit raw = .ok toCrawlPageRecordFields
  deriving DecidableEq

/-- `CrawlPageRecord(...)`. -/
def CrawlPageRecord.new (raw : CrawlPageRecordFields) : Checked CrawlPageRecord :=
  match h : raw.postInit with
  | .ok fields => .ok { toCrawlPageRecordFields := fields, built := ⟨raw, h⟩ }
  | .error e => .error e

theorem CrawlPageRecord.new_eq_ok {raw : CrawlPageRecordFields} {record : CrawlPageRecord} :
    CrawlPageRecord.new raw = .ok record ↔ raw.postInit = .ok record.toCrawlPageRecordFields := by
  unfold CrawlPageRecord.new
  split
  · next fields h =>
    cases record
    simp [h]
  · next e h => simp [h]

/-! ## Pending pages -/

structure CrawlPendingPageFields where
  url : Text
  depth : Nat
  parentUrl : Option Text
  deriving DecidableEq

def CrawlPendingPageFields.postInit (raw : CrawlPendingPageFields) :
    Checked CrawlPendingPageFields := do
  let url ← auditUrl raw.url "pending_page_url"
  let parentUrl ← raw.parentUrl.mapM (auditUrl · "pending_parent_url")
  require (raw.depth ≤ 3) "pending_page_depth_invalid"
    "pending_page_depth must be an integer from 0 to 3."
  require (raw.depth ≠ 0 || parentUrl.isNone) "pending_root_parent_invalid"
    "A depth-zero pending page cannot have a parent."
  require (raw.depth = 0 || parentUrl.isSome) "pending_parent_required"
    "A non-root pending page requires a parent."
  return { raw with url := url, parentUrl := parentUrl }

structure CrawlPendingPage extends CrawlPendingPageFields where
  built : ∃ raw, CrawlPendingPageFields.postInit raw = .ok toCrawlPendingPageFields
  deriving DecidableEq

/-- `CrawlPendingPage(...)`. -/
def CrawlPendingPage.new (raw : CrawlPendingPageFields) : Checked CrawlPendingPage :=
  match h : raw.postInit with
  | .ok fields => .ok { toCrawlPendingPageFields := fields, built := ⟨raw, h⟩ }
  | .error e => .error e

theorem CrawlPendingPage.new_eq_ok {raw : CrawlPendingPageFields} {page : CrawlPendingPage} :
    CrawlPendingPage.new raw = .ok page ↔ raw.postInit = .ok page.toCrawlPendingPageFields := by
  unfold CrawlPendingPage.new
  split
  · next fields h =>
    cases page
    simp [h]
  · next e h => simp [h]

theorem CrawlPendingPageFields.postInit_eq_ok {raw fields : CrawlPendingPageFields} :
    raw.postInit = .ok fields ↔
      auditUrl raw.url "pending_page_url" = .ok fields.url ∧
        raw.parentUrl.mapM (auditUrl · "pending_parent_url") = .ok fields.parentUrl ∧
        fields.depth = raw.depth ∧ raw.depth ≤ 3 ∧ (raw.depth = 0 ↔ fields.parentUrl = none) := by
  unfold postInit
  simp only [bind_ok_iff, require_eq_ok]
  constructor
  · rintro ⟨url, hurl, parentUrl, hparent, _, hdepth, _, hroot, _, hchild, h⟩
    cases h
    refine ⟨hurl, hparent, rfl, by simpa using hdepth, ?_⟩
    cases parentUrl with
    | none => simpa using hchild
    | some parent => simpa using hroot
  · rintro ⟨hurl, hparent, hsame, hdepth, hroot⟩
    refine ⟨_, hurl, _, hparent, (), by simpa using hdepth, (), ?_, (), ?_, ?_⟩
    · by_cases h : raw.depth = 0
      · simp [hroot.mp h]
      · simp [h]
    · by_cases h : raw.depth = 0
      · simp [h]
      · cases hp : fields.parentUrl with
        | none => exact absurd (hroot.mpr hp) h
        | some parent => simp
    · cases fields
      simp only at hsame
      rw [← hsame]
      rfl

theorem CrawlPageOutcome.check_isSucceeded {final : RequestAttemptOutcome}
    {outcome checked : CrawlPageOutcome} (h : outcome.check final = .ok checked) :
    checked.isSucceeded = outcome.isSucceeded := by
  cases outcome with
  | succeeded contentType connectedAddress httpStatus discoveredLinks queuedLinks =>
    obtain ⟨_, -, h⟩ := bind_ok h
    obtain ⟨_, -, h⟩ := bind_ok h
    obtain ⟨_, -, h⟩ := bind_ok h
    obtain ⟨_, -, h⟩ := bind_ok h
    obtain ⟨_, -, h⟩ := bind_ok h
    obtain ⟨_, -, h⟩ := bind_ok h
    cases h
    rfl
  | failed errorCode retryable =>
    obtain ⟨_, -, h⟩ := bind_ok h
    cases h
    rfl

/-! ## Audited pages -/

theorem mapM_auditUrl_idem {value url : Option Text} {fieldName : String}
    (h : value.mapM (auditUrl · fieldName) = .ok url) (other : String) :
    url.mapM (auditUrl · other) = .ok url := by
  cases value with
  | none =>
    cases h
    rfl
  | some v =>
    obtain ⟨u, hu, h⟩ := bind_ok h
    cases h
    show (auditUrl u other >>= fun a => pure (some a)) = _
    rw [auditUrl_idem hu other]
    rfl

variable (page : CrawlPendingPage)

theorem CrawlPendingPage.audited (fieldName : String) :
    auditUrl page.url fieldName = .ok page.url := by
  obtain ⟨raw, hraw⟩ := page.built
  exact auditUrl_idem (CrawlPendingPageFields.postInit_eq_ok.mp hraw).1 fieldName

theorem CrawlPendingPage.parentAudited (fieldName : String) :
    page.parentUrl.mapM (auditUrl · fieldName) = .ok page.parentUrl := by
  obtain ⟨raw, hraw⟩ := page.built
  exact mapM_auditUrl_idem (CrawlPendingPageFields.postInit_eq_ok.mp hraw).2.1 fieldName

theorem CrawlPendingPage.depth_le : page.depth ≤ 3 := by
  obtain ⟨raw, hraw⟩ := page.built
  obtain ⟨-, -, hdepth, hle, -⟩ := CrawlPendingPageFields.postInit_eq_ok.mp hraw
  omega

theorem CrawlPageRecord.new_place {page : CrawlPendingPage} {outcome : CrawlPageOutcome}
    {attempts : List RequestAttempt} {record : CrawlPageRecord}
    (h : CrawlPageRecord.new ⟨page.url, page.depth, page.parentUrl, outcome, attempts⟩ =
      .ok record) :
    record.url = page.url ∧ record.depth = page.depth ∧ record.parentUrl = page.parentUrl ∧
      record.attempts = attempts ∧ record.outcome.isSucceeded = outcome.isSucceeded := by
  have h := CrawlPageRecord.new_eq_ok.mp h
  unfold CrawlPageRecordFields.postInit at h
  obtain ⟨url, hurl, h⟩ := bind_ok h
  obtain ⟨parentUrl, hparent, h⟩ := bind_ok h
  obtain ⟨_, -, h⟩ := bind_ok h
  obtain ⟨_, -, h⟩ := bind_ok h
  simp only at h
  split at h
  · cases h
  obtain ⟨checked, hchecked, h⟩ := bind_ok h
  have heq : record.toCrawlPageRecordFields = _ := (Except.ok.inj h).symm
  simp only at hurl hparent
  rw [page.audited "page_url"] at hurl
  rw [page.parentAudited "parent_url"] at hparent
  rw [heq]
  refine ⟨(Except.ok.inj hurl).symm, rfl, (Except.ok.inj hparent).symm, rfl, ?_⟩
  exact CrawlPageOutcome.check_isSucceeded hchecked

end

/-! ## Skipped links -/

/-- `CrawlSkipSummary`, with the bounds of its constructor. -/
structure CrawlSkipSummary where
  reason : CrawlSkipReason
  count : Nat
  bounds : 1 ≤ count ∧ count ≤ 2147483647
  deriving DecidableEq

/-- `CrawlSkipSummary(...)`. -/
def CrawlSkipSummary.new (reason : CrawlSkipReason) (count : Nat) : Checked CrawlSkipSummary :=
  if h : 1 ≤ count ∧ count ≤ 2147483647 then .ok ⟨reason, count, h⟩
  else invalid "skip_count_invalid" "skip_count must be an integer from 1 to 2147483647."

/-- `Counter[CrawlSkipReason]`: a reason that was never counted has the count zero. -/
abbrev SkipCounts := CrawlSkipReason → Nat

/-- `skip_counts[reason] += count`. -/
def SkipCounts.add (counts : SkipCounts) (reason : CrawlSkipReason) (count : Nat) : SkipCounts :=
  Function.update counts reason (counts reason + count)

theorem SkipCounts.add_apply (counts : SkipCounts) (reason other : CrawlSkipReason) (count : Nat) :
    counts.add reason count other = counts other + if other = reason then count else 0 := by
  unfold SkipCounts.add
  by_cases h : other = reason
  · subst h
    simp
  · simp [h]

/-- The summaries of the reasons that were counted. -/
def SkipCounts.summaries (counts : SkipCounts) : Checked (List CrawlSkipSummary) :=
  (all.filter (0 < counts ·)).mapM fun reason =>
    CrawlSkipSummary.new reason (counts reason)

/-- `Counter({item.reason: item.count for item in skipped_links})`: the last one counts. -/
def SkipCounts.ofSummaries (links : List CrawlSkipSummary) : SkipCounts := fun reason =>
  ((links.filter (·.reason = reason)).getLast?.map (·.count)).getD 0

/-- `sorted(skipped_links, key=lambda item: item.reason.value)`, which is stable. -/
def sortSkips (links : List CrawlSkipSummary) : List CrawlSkipSummary :=
  all.flatMap fun reason => links.filter (·.reason = reason)

variable {counts : SkipCounts} {links : List CrawlSkipSummary}

theorem SkipCounts.mapM_new {reasons : List CrawlSkipReason}
    (h : (reasons.mapM fun reason => CrawlSkipSummary.new reason (counts reason)) = .ok links) :
    links.map (·.reason) = reasons ∧ ∀ link ∈ links, link.count = counts link.reason := by
  induction reasons generalizing links with
  | nil =>
    cases h
    simp
  | cons reason rest ih =>
    rw [mapM_cons] at h
    obtain ⟨link, hlink, h⟩ := bind_ok h
    obtain ⟨others, hothers, h⟩ := bind_ok h
    cases h
    obtain ⟨hreasons, hcounts⟩ := ih hothers
    unfold CrawlSkipSummary.new at hlink
    split at hlink
    · cases hlink
      simp only [map_cons, hreasons, forall_mem_cons, true_and]
      exact hcounts
    · cases hlink

theorem SkipCounts.exists_summaries (h : ∀ reason, counts reason ≤ 2147483647) :
    ∃ links, counts.summaries = .ok links := by
  have hall : ∀ reasons : List CrawlSkipReason, (∀ reason ∈ reasons, 0 < counts reason) →
      ∃ links, (reasons.mapM fun reason => CrawlSkipSummary.new reason (counts reason))
        = .ok links := by
    intro reasons hpos
    induction reasons with
    | nil => exact ⟨[], rfl⟩
    | cons reason rest ih =>
      obtain ⟨links, hlinks⟩ := ih fun r hr => hpos r (mem_cons_of_mem reason hr)
      have hbounds : 1 ≤ counts reason ∧ counts reason ≤ 2147483647 :=
        ⟨hpos reason mem_cons_self, h reason⟩
      refine ⟨⟨reason, counts reason, hbounds⟩ :: links, ?_⟩
      rw [mapM_cons, CrawlSkipSummary.new, dif_pos hbounds, hlinks]
      rfl
  apply hall
  intro reason hreason
  simpa using (mem_filter.mp hreason).2

theorem sortSkips_of_filter {p : CrawlSkipReason → Bool}
    (h : links.map (·.reason) = all.filter p) : sortSkips links = links := by
  have hall : ∀ reasons : List CrawlSkipReason, reasons.Nodup →
      ∀ links : List CrawlSkipSummary, links.map (·.reason) = reasons.filter p →
        (reasons.flatMap fun reason => links.filter (·.reason = reason)) = links := by
    intro reasons hnodup
    induction reasons with
    | nil =>
      intro links hlinks
      simpa using hlinks.symm
    | cons reason rest ih =>
      obtain ⟨hnot, hrest⟩ := nodup_cons.mp hnodup
      intro links hlinks
      rw [filter_cons] at hlinks
      have hother : ∀ others : List CrawlSkipSummary, others.map (·.reason) = rest.filter p →
          others.filter (·.reason = reason) = [] := by
        intro others hothers
        rw [filter_eq_nil_iff]
        intro link hlink
        have hmem : link.reason ∈ rest.filter p := hothers ▸ mem_map_of_mem hlink
        simp only [decide_eq_true_eq]
        rintro rfl
        exact hnot (mem_filter.mp hmem).1
      by_cases hp : p reason = true
      · rw [if_pos hp] at hlinks
        obtain ⟨link, others, rfl, hlink, hothers⟩ := map_eq_cons_iff.mp hlinks
        have htail : (rest.flatMap fun r => (link :: others).filter (·.reason = r)) = others := by
          have hskip : ∀ r ∈ rest, (link :: others).filter (·.reason = r) =
              others.filter (·.reason = r) := by
            intro r hr
            rw [filter_cons, if_neg]
            simp only [decide_eq_true_eq, hlink]
            rintro rfl
            exact hnot hr
          rw [flatMap_congr hskip]
          exact ih hrest others hothers
        rw [flatMap_cons, htail, filter_cons, if_pos (by simp [hlink]),
          hother others hothers]
        rfl
      · rw [if_neg hp] at hlinks
        rw [flatMap_cons, hother links hlinks, nil_append]
        exact ih hrest links hlinks
  exact hall _ (by decide) links h

theorem SkipCounts.summaries_spec (h : counts.summaries = .ok links) :
    sortSkips links = links ∧ SkipCounts.ofSummaries links = counts ∧
      (links.map (·.reason)).Nodup := by
  obtain ⟨hreasons, hcounts⟩ := SkipCounts.mapM_new h
  have hnodup : (links.map (·.reason)).Nodup := by
    rw [hreasons]
    exact List.Nodup.filter _ (by decide)
  refine ⟨sortSkips_of_filter hreasons, ?_, hnodup⟩
  funext reason
  unfold SkipCounts.ofSummaries
  by_cases hzero : counts reason = 0
  · have hnone : links.filter (·.reason = reason) = [] := by
      rw [filter_eq_nil_iff]
      intro link hlink
      have hmem : link.reason ∈ all.filter (0 < counts ·) :=
        hreasons ▸ mem_map_of_mem hlink
      have hpos := (mem_filter.mp hmem).2
      simp only [decide_eq_true_eq] at hpos ⊢
      rintro rfl
      omega
    simp [hnone, hzero]
  · have hmem : reason ∈ links.map (·.reason) := by
      rw [hreasons, mem_filter]
      exact ⟨mem_all reason, by simpa using Nat.pos_of_ne_zero hzero⟩
    obtain ⟨link, hlink, rfl⟩ := mem_map.mp hmem
    cases hlast : (links.filter (·.reason = link.reason)).getLast? with
    | none =>
      rw [getLast?_eq_none_iff, filter_eq_nil_iff] at hlast
      exact absurd (by simp) (hlast link hlink)
    | some other =>
      have hother := mem_of_getLast? hlast
      rw [mem_filter, decide_eq_true_eq] at hother
      simp [hcounts other hother.1, hother.2]

variable [StandardLibrary]

/-! ## The resume state -/

structure CrawlResumeStateFields where
  rootUrl : Text
  pages : List CrawlPageRecord
  pendingPages : List CrawlPendingPage
  visitedUrls : List Text
  skippedLinks : List CrawlSkipSummary
  elapsedExecutionSeconds : ℚ
  attemptsUsed : Nat
  deriving DecidableEq

/-- Whether the first page is the root, if there is one. -/
def startsAtRoot (rootUrl : Text) (pages : List (Text × Nat × Option Text)) : Bool :=
  pages.head?.all (· = (rootUrl, 0, none))

def CrawlPageRecord.place (page : CrawlPageRecord) : Text × Nat × Option Text :=
  (page.url, page.depth, page.parentUrl)

def CrawlPendingPage.place (page : CrawlPendingPage) : Text × Nat × Option Text :=
  (page.url, page.depth, page.parentUrl)

/-- The URLs of the attempted pages, then of the pending ones. -/
def crawlUrls (pages : List CrawlPageRecord) (pending : List CrawlPendingPage) : List Text :=
  pages.map (·.url) ++ pending.map (·.url)

def attemptCount (pages : List CrawlPageRecord) : Nat := (pages.map (·.attempts.length)).sum

def CrawlResumeStateFields.postInit (raw : CrawlResumeStateFields) :
    Checked CrawlResumeStateFields := do
  let rootUrl ← auditUrl raw.rootUrl "resume_root_url"
  let attemptedUrls := raw.pages.map (·.url)
  let pendingUrls := raw.pendingPages.map (·.url)
  require attemptedUrls.Nodup "resume_page_duplicate" "Attempted pages contain duplicate URLs."
  require pendingUrls.Nodup "resume_pending_duplicate" "Pending pages contain duplicate URLs."
  require (!attemptedUrls.any pendingUrls.contains) "resume_page_overlap"
    "A URL cannot be both attempted and pending."
  require (startsAtRoot rootUrl (raw.pages.map (·.place))) "resume_root_page_invalid"
    "The first attempted page must be the root."
  require (!raw.pages.isEmpty || startsAtRoot rootUrl (raw.pendingPages.map (·.place)))
    "resume_pending_root_invalid" "An unattempted resume state must begin with the root."
  require (raw.visitedUrls = (SortedSet.ofList (attemptedUrls ++ pendingUrls)).toList)
    "resume_visited_inconsistent"
    "visited_urls must be the sorted attempted and pending URL projection."
  require (0 ≤ raw.elapsedExecutionSeconds) "resume_elapsed_invalid"
    "elapsed_execution_seconds must be a finite non-negative number."
  require (raw.attemptsUsed = attemptCount raw.pages) "resume_attempts_inconsistent"
    "attempts_used must match attempts stored by page records."
  return { raw with rootUrl := rootUrl, skippedLinks := sortSkips raw.skippedLinks }

structure CrawlResumeState extends CrawlResumeStateFields where
  built : ∃ raw, CrawlResumeStateFields.postInit raw = .ok toCrawlResumeStateFields
  deriving DecidableEq

/-- `CrawlResumeState(...)`. -/
def CrawlResumeState.new (raw : CrawlResumeStateFields) : Checked CrawlResumeState :=
  match h : raw.postInit with
  | .ok fields => .ok { toCrawlResumeStateFields := fields, built := ⟨raw, h⟩ }
  | .error e => .error e

theorem CrawlResumeState.new_eq_ok {raw : CrawlResumeStateFields} {state : CrawlResumeState} :
    CrawlResumeState.new raw = .ok state ↔ raw.postInit = .ok state.toCrawlResumeStateFields := by
  unfold CrawlResumeState.new
  split
  · next fields h =>
    cases state
    simp [h]
  · next e h => simp [h]

/-- What the constructor of a resume state asks of pages, queue, visited URLs and counters. -/
structure Resumable (rootUrl : Text) (pages : List CrawlPageRecord)
    (pending : List CrawlPendingPage) (visited : List Text) (attemptsUsed : Nat) : Prop where
  distinct : (crawlUrls pages pending).Nodup
  root : startsAtRoot rootUrl (pages.map (·.place) ++ pending.map (·.place)) = true
  visited_eq : visited = (SortedSet.ofList (crawlUrls pages pending)).toList
  attempts_eq : attemptsUsed = attemptCount pages

theorem CrawlResumeStateFields.postInit_eq_ok {raw fields : CrawlResumeStateFields} :
    raw.postInit = .ok fields ↔
      auditUrl raw.rootUrl "resume_root_url" = .ok fields.rootUrl ∧
        Resumable fields.rootUrl raw.pages raw.pendingPages raw.visitedUrls raw.attemptsUsed ∧
        0 ≤ raw.elapsedExecutionSeconds ∧
        fields = { raw with
          rootUrl := fields.rootUrl, skippedLinks := sortSkips raw.skippedLinks } := by
  have hroot : ∀ rootUrl : Text,
      startsAtRoot rootUrl (raw.pages.map (·.place) ++ raw.pendingPages.map (·.place)) =
        (startsAtRoot rootUrl (raw.pages.map (·.place)) &&
          (!raw.pages.isEmpty || startsAtRoot rootUrl (raw.pendingPages.map (·.place)))) := by
    intro rootUrl
    cases raw.pages with
    | nil => simp [startsAtRoot]
    | cons page rest => simp [startsAtRoot]
  have hnodup : (crawlUrls raw.pages raw.pendingPages).Nodup ↔
      (raw.pages.map (·.url)).Nodup ∧ (raw.pendingPages.map (·.url)).Nodup ∧
        (!(raw.pages.map (·.url)).any (raw.pendingPages.map (·.url)).contains) = true := by
    rw [crawlUrls, nodup_append']
    simp [List.Disjoint]
  unfold postInit
  simp only [bind_ok_iff, require_eq_ok]
  constructor
  · rintro ⟨rootUrl, haudit, _, h1, _, h2, _, h3, _, h4, _, h5, _, h6, _, h7, _, h8, h⟩
    cases h
    refine ⟨haudit, ⟨?_, ?_, by simpa [crawlUrls] using h6, by simpa using h8⟩, by simpa using h7, rfl⟩
    · rw [hnodup]
      exact ⟨by simpa using h1, by simpa using h2, h3⟩
    · rw [hroot, h4, h5]
      rfl
  · rintro ⟨haudit, hstate, helapsed, heq⟩
    obtain ⟨h1, h2, h3⟩ := hnodup.mp hstate.distinct
    have hstart := hstate.root
    rw [hroot, Bool.and_eq_true] at hstart
    refine ⟨fields.rootUrl, haudit, (), by simpa using h1, (), by simpa using h2, (), h3, (),
      hstart.1, (), hstart.2, (), ?_, (), by simpa using helapsed, (), ?_, ?_⟩
    · simpa [crawlUrls] using hstate.visited_eq
    · simpa using hstate.attempts_eq
    · rw [heq]
      rfl

/-! ## The result -/

inductive CrawlTerminationReason where
  | completed
  | pageLimitReached
  | rootRequestFailed
  | timeLimitReached
  | requestAttemptLimitReached
  | cancelled
  deriving DecidableEq

/-- `early_reasons`. -/
def CrawlTerminationReason.isEarly : CrawlTerminationReason → Bool
  | .timeLimitReached => true
  | .requestAttemptLimitReached => true
  | .cancelled => true
  | _ => false

structure CrawlExecution where
  rootUrl : Text
  pages : List CrawlPageRecord
  skippedLinks : List CrawlSkipSummary
  terminationReason : CrawlTerminationReason
  pagesPending : Nat
  deriving DecidableEq

/-- `CrawlExecution(...)`. -/
def CrawlExecution.new (raw : CrawlExecution) : Checked CrawlExecution := do
  let rootUrl ← auditUrl raw.rootUrl "crawl_root_url"
  require (raw.pagesPending ≤ 50) "crawl_pages_pending_invalid"
    "crawl_pages_pending must be an integer from 0 to 50."
  require (!raw.pages.isEmpty || raw.terminationReason.isEarly) "crawl_empty_pages_invalid"
    ("Only cancellation or an exhausted execution budget may produce a crawl without " ++
      "attempted pages.")
  require ((raw.pages.map (·.url)).head?.all (· = rootUrl)) "crawl_root_page_mismatch"
    "The first page must be the crawl root."
  require (raw.pages.map (·.url)).Nodup "crawl_page_duplicate"
    "A crawl cannot contain the same page more than once."
  require (raw.skippedLinks.map (·.reason)).Nodup "crawl_skip_duplicate"
    "A skip reason can appear only once."
  require (!(raw.terminationReason = .completed || raw.terminationReason = .rootRequestFailed) ||
      raw.pagesPending = 0) "crawl_pending_pages_invalid"
    "This termination reason cannot retain pending pages."
  require (raw.terminationReason ≠ .rootRequestFailed ||
      (raw.pages.length = 1 && raw.pages.head?.all (!·.outcome.isSucceeded)))
    "crawl_root_failure_invalid" "root_request_failed requires one failed root page."
  require (raw.pages.head?.all (·.outcome.isSucceeded) ||
      raw.terminationReason = .rootRequestFailed || raw.terminationReason.isEarly)
    "crawl_root_failure_termination_missing"
    "A failed root page requires an explicit root or budget termination reason."
  return { raw with rootUrl := rootUrl, skippedLinks := sortSkips raw.skippedLinks }

end WebGuard
