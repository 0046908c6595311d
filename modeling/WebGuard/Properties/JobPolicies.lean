import WebGuard.Crawler.Rounds
import WebGuard.Executor.Policies
import WebGuard.Properties.PermitCodec

/-!
# The policies of a job
-/

namespace WebGuard

open PyJson UrlParse Atomic Bool Binary64

/-! ## The constructor of a crawl policy -/

section

variable [StandardLibrary]

omit [StandardLibrary] in
theorem crawlInteger_of_range {value : Int} (name : String) {minimum maximum : Nat}
    (h : (minimum : Int) ≤ value ∧ value ≤ maximum) :
    ∃ n, crawlInteger value name minimum maximum = .ok n ∧ (n.1 : Int) = value := by
  refine ⟨⟨value.toNat, by omega⟩, dif_pos h, ?_⟩
  show (value.toNat : Int) = value
  omega

omit [StandardLibrary] in
theorem crawlSeconds_of_range {value : ℚ} {range : ℚ → Prop} [DecidablePred range]
    {code message : String} (h : range value) :
    crawlSeconds value range code message = .ok ⟨value, h⟩ := dif_pos h

theorem normaliseMediaTypes_default :
    normaliseMediaTypes defaultAllowedContentTypes = .ok defaultAllowedContentTypes := by
  have hall : defaultAllowedContentTypes.all isMediaType = true := by decide
  have hmap := mapM_eq_self (f := (normaliseMediaType · "allowed_content_type")) fun t ht =>
    Crawl.normaliseMediaType_eq_self (List.all_eq_true.mp hall t ht) "allowed_content_type"
  unfold normaliseMediaTypes
  rw [hmap]
  rfl

/-- A segment that is stored as it is. -/
def isPlainSegment (t : Text) : Bool := !t.isEmpty && t.length ≤ 64 && t.all isHostCharacter

theorem normaliseBlockedSegment_of_plain {t : Text} (h : isPlainSegment t = true) :
    normaliseBlockedSegment t = .ok t := by
  unfold isPlainSegment at h
  simp only [and_eq_true, decide_eq_true_eq, List.all_eq_true] at h
  obtain ⟨⟨hne, hlength⟩, hchars⟩ := h
  have hauthority : ∀ c ∈ t, isAuthorityCharacter c = true := fun c hc =>
    isAuthorityCharacter_of_host (hchars c hc)
  have hrange := fun c hc => range_of_isAuthorityCharacter (hauthority c hc)
  have hstrip : stripped t = t := trim_eq_self fun c hc => by
    have := hrange c hc
    simp only [isSpace, or_eq_false_iff, and_eq_false_iff, decide_eq_false_iff_not,
      beq_eq_false_iff_ne, ne_eq]
    omega
  have hslash : '/' ∉ t := fun hmem => absurd (hchars '/' hmem) (by decide)
  have hbackslash : '\\' ∉ t := fun hmem => absurd (hchars '\\' hmem) (by decide)
  have hcontrol : t.any isControlOrSpace = false := by
    rw [List.any_eq_false]
    intro c hc
    have := hrange c hc
    simp only [isControlOrSpace, or_eq_true, decide_eq_true_eq]
    omega
  unfold normaliseBlockedSegment
  simp only [hstrip, lower_eq_self hauthority]
  refine bind_ok_iff.mpr ⟨(), require_eq_ok.mpr ?_, rfl⟩
  simp [hne, hlength, hslash, hbackslash, hcontrol]

theorem normaliseBlockedSegments_default :
    ∃ segments, normaliseBlockedSegments defaultBlockedPathSegments = .ok segments := by
  have hall : defaultBlockedPathSegments.all isPlainSegment = true := by decide
  have hmap := mapM_eq_self (f := normaliseBlockedSegment) fun t ht =>
    normaliseBlockedSegment_of_plain (List.all_eq_true.mp hall t ht)
  unfold normaliseBlockedSegments
  rw [hmap]
  exact ⟨_, rfl⟩

/-- The bounds of the arguments of a crawl policy. -/
structure CrawlPolicyFields.Bounded (raw : CrawlPolicyFields) : Prop where
  pages : 1 ≤ raw.maximumPages ∧ raw.maximumPages ≤ 50
  depth : 0 ≤ raw.maximumDepth ∧ raw.maximumDepth ≤ 3
  links : 1 ≤ raw.maximumLinksPerPage ∧ raw.maximumLinksPerPage ≤ 500
  delay : 0 ≤ raw.minimumDelaySeconds ∧ raw.minimumDelaySeconds ≤ 5
  urlLength : 128 ≤ raw.maximumUrlLength ∧ raw.maximumUrlLength ≤ 2048
  execution : 0 < raw.maximumExecutionSeconds ∧ raw.maximumExecutionSeconds ≤ 3600
  attempts : 1 ≤ raw.maximumRequestAttempts ∧ raw.maximumRequestAttempts ≤ 150

/-- A crawl policy has the limits it was made of. -/
structure CrawlPolicy.Of (policy : CrawlPolicy) (raw : CrawlPolicyFields) : Prop where
  pages : (policy.maximumPages : Int) = raw.maximumPages
  depth : (policy.maximumDepth : Int) = raw.maximumDepth
  links : (policy.maximumLinksPerPage : Int) = raw.maximumLinksPerPage
  delay : policy.minimumDelaySeconds = raw.minimumDelaySeconds
  queryMode : policy.queryMode = raw.queryMode
  execution : policy.maximumExecutionSeconds = raw.maximumExecutionSeconds
  attempts : (policy.maximumRequestAttempts : Int) = raw.maximumRequestAttempts

theorem exists_crawlPolicy {raw : CrawlPolicyFields} (h : raw.Bounded)
    (htypes : raw.allowedContentTypes = defaultAllowedContentTypes)
    (hsegments : raw.blockedPathSegments = defaultBlockedPathSegments) :
    ∃ policy, raw.new = .ok policy ∧ policy.Of raw := by
  obtain ⟨pages, hpages, hpages'⟩ := crawlInteger_of_range "maximum_pages" h.pages
  obtain ⟨depth, hdepth, hdepth'⟩ := crawlInteger_of_range "maximum_depth" h.depth
  obtain ⟨links, hlinks, hlinks'⟩ := crawlInteger_of_range "maximum_links_per_page" h.links
  obtain ⟨urlLength, hurlLength, -⟩ :=
    crawlInteger_of_range "maximum_url_length" h.urlLength
  obtain ⟨attempts, hattempts, hattempts'⟩ :=
    crawlInteger_of_range "maximum_request_attempts" h.attempts
  obtain ⟨segments, hblocked⟩ := normaliseBlockedSegments_default
  unfold CrawlPolicyFields.new
  rw [hpages, ok_bind, hdepth, ok_bind, hlinks, ok_bind, hurlLength,
    ok_bind, hattempts, ok_bind, crawlSeconds_of_range h.execution, ok_bind,
    crawlSeconds_of_range h.delay, ok_bind, htypes, normaliseMediaTypes_default,
    ok_bind, hsegments, hblocked, ok_bind]
  exact ⟨_, rfl, hpages', hdepth', hlinks', rfl, rfl, rfl, hattempts'⟩

/-! ## The pause between two requests -/

omit [StandardLibrary] in
/-- The pause between two requests of a permit that was accepted. -/
theorem reciprocal_permitted {rate : ℚ} (hmin : ScanPermits.minimumRate ≤ rate)
    (hmax : rate ≤ ScanPermits.maximumRate) :
    nearest (1 / rate) ≤ 5 ∧ 1 - 1 / 2 ^ 53 ≤ nearest (1 / rate) * rate := by
  have hfifth : (1 / 5 : ℚ) ≤ ScanPermits.minimumRate := by norm_num [ScanPermits.minimumRate]
  have hpos : 0 < rate := by linarith
  obtain ⟨hupper, hlower⟩ := reciprocal_rate (hfifth.trans hmin) hmax
  refine ⟨hupper, ?_⟩
  calc (1 - 1 / 2 ^ 53 : ℚ) = (1 - 1 / 2 ^ 53) * (1 / rate) * rate := by field_simp
    _ ≤ nearest (1 / rate) * rate := mul_le_mul_of_nonneg_right hlower hpos.le

/-! ## Policies within an authority -/

/-- What a crawl may do by the limits of an authorization and the claims of a permit. -/
structure CrawlPolicy.Within {φ : Type} [PyFloat φ] (policy : CrawlPolicy)
    (limits : OwnedTargetLimits) (claims : ScanPermits.Claims φ) : Prop where
  pages : (policy.maximumPages : Int) ≤ limits.maximumPages
  depth : (policy.maximumDepth : Int) ≤ limits.maximumDepth
  links : (policy.maximumLinksPerPage : Int) ≤ limits.maximumLinksPerPage
  delay : limits.minimumDelaySeconds ≤ policy.minimumDelaySeconds
  execution : policy.maximumExecutionSeconds ≤ limits.maximumExecutionSeconds
  attempts : (policy.maximumRequestAttempts : Int) ≤ limits.maximumRequestAttempts
  budget : (policy.maximumRequestAttempts : Int) ≤ claims.maximumRequestAttempts
  pause : nearest (1 / PyFloat.value claims.maximumRequestsPerSecond)
    ≤ policy.minimumDelaySeconds
  rate : 1 - 1 / 2 ^ 53
    ≤ policy.minimumDelaySeconds * PyFloat.value claims.maximumRequestsPerSecond

/-- What a job may do. -/
structure WithinAuthority {φ : Type} [PyFloat φ] (limits : OwnedTargetLimits)
    (claims : ScanPermits.Claims φ) (fetchPolicy : SafeHttp.FetchPolicy) (retryPolicy : RetryPolicy)
    (crawlPolicy : Option CrawlPolicy) : Prop where
  timeout : fetchPolicy.timeoutSeconds ≤ limits.timeoutSeconds
  body : fetchPolicy.maximumBodyBytes ≤ limits.maximumBodyBytes
  headerBytes : fetchPolicy.maximumHeaderBytes ≤ limits.maximumHeaderBytes
  headerCount : fetchPolicy.maximumHeaderCount ≤ limits.maximumHeaderCount
  methods : fetchPolicy.allowedMethods = claims.allowedHttpMethods.map characters
  retries : (retryPolicy.maximumAttempts : Int) ≤ limits.maximumAttemptsPerRequest
  budget : (retryPolicy.maximumAttempts : Int) ≤ claims.maximumRequestAttempts
  crawl : ∀ policy, crawlPolicy = some policy → policy.Within limits claims

section

variable {φ : Type} [PyFloat φ]

/-- What the executor reads of the claims of a permit. -/
structure UsableClaims (claims : ScanPermits.Claims φ) : Prop where
  slowest : ScanPermits.minimumRate ≤ PyFloat.value claims.maximumRequestsPerSecond
  fastest : PyFloat.value claims.maximumRequestsPerSecond ≤ ScanPermits.maximumRate
  attempts : 1 ≤ claims.maximumRequestAttempts

variable {claims : ScanPermits.Claims φ}

theorem usableClaims [NetworkLibrary] [UnicodeTables] {raw : ScanPermits.ClaimsInput φ}
    (h : raw.postInit = .ok claims) : UsableClaims claims := by
  rw [ScanPermits.postInit_eq_ok] at h
  have hrate := ScanPermits.rateInRange_of_requestsPerSecond h.maximumRequestsPerSecond
  rw [ScanPermits.rateInRange, and_eq_true, and_eq_true, decide_eq_true_eq,
    decide_eq_true_eq] at hrate
  exact ⟨hrate.1.2, hrate.2, (ScanPermits.positiveInteger_of_ok h.maximumRequestAttempts).2.1⟩

variable (limits : OwnedTargetLimits)

omit [StandardLibrary] in
theorem jobCrawlFields_bounded (h : UsableClaims claims) :
    (jobCrawlFields limits claims).Bounded := by
  have hlimits := limits.bounded
  have hpages := hlimits.pages
  have hdepth := hlimits.depth
  have hlinks := hlimits.links
  have hattempts := hlimits.attempts
  have hclaims := h.attempts
  have hpause := (reciprocal_permitted h.slowest h.fastest).1
  refine ⟨?_, ?_, ?_, ?_, ?_, ?_, ?_⟩
  · simp only [jobCrawlFields]
    omega
  · simp only [jobCrawlFields]
    omega
  · simp only [jobCrawlFields]
    omega
  · simp only [jobCrawlFields]
    refine ⟨le_max_of_le_left (le_max_of_le_left zero_le_one), ?_⟩
    exact max_le (max_le (by norm_num) hlimits.delay.2) hpause
  · simp only [jobCrawlFields]
    omega
  · simp only [jobCrawlFields]
    exact ⟨lt_min (by norm_num) (by linarith [hlimits.execution.1]),
      (min_le_left _ _).trans (by norm_num)⟩
  · simp only [jobCrawlFields]
    omega

omit [StandardLibrary] in
theorem CrawlPolicy.Of.within {limits : OwnedTargetLimits} {policy : CrawlPolicy}
    (h : policy.Of (jobCrawlFields limits claims)) (hclaims : UsableClaims claims) :
    policy.Within limits claims := by
  have hrate := (reciprocal_permitted hclaims.slowest hclaims.fastest).2
  have hpause : nearest (1 / PyFloat.value claims.maximumRequestsPerSecond)
      ≤ policy.minimumDelaySeconds := h.delay ▸ le_max_right _ _
  have hpositive : 0 ≤ PyFloat.value claims.maximumRequestsPerSecond :=
    le_trans (by norm_num [ScanPermits.minimumRate]) hclaims.slowest
  have hbudget : (policy.maximumRequestAttempts : Int) =
      min (min 15 limits.maximumRequestAttempts) claims.maximumRequestAttempts := h.attempts
  refine ⟨?_, ?_, ?_, ?_, ?_, ?_, ?_, hpause, ?_⟩
  · exact h.pages ▸ min_le_right _ _
  · exact h.depth ▸ min_le_right _ _
  · exact h.links ▸ min_le_right _ _
  · exact h.delay ▸ le_max_of_le_left (le_max_right _ _)
  · exact h.execution ▸ min_le_right _ _
  · omega
  · omega
  · exact hrate.trans (mul_le_mul_of_nonneg_right hpause hpositive)

omit [PyFloat φ] [StandardLibrary] in
theorem validatePolicy_job (claims : ScanPermits.Claims φ) :
    SafeHttp.validatePolicy (jobFetchPolicy limits claims) = .ok () := by
  have hlimits := limits.bounded
  have hbody := hlimits.body
  have hbytes := hlimits.headerBytes
  have hcount := hlimits.headerCount
  unfold SafeHttp.validatePolicy
  simp only [bind_ok_iff, SafeHttp.demand_eq_ok, decide_eq_true_eq]
  simp only [jobFetchPolicy]
  refine ⟨(), lt_min (by norm_num) (by linarith [hlimits.timeout.1]), (), ?_, (), ?_, (), ?_, ?_⟩
  all_goals omega

variable {crawlPolicy : Option CrawlPolicy}

omit [StandardLibrary] in
theorem preflightLimits_of_within {limits : OwnedTargetLimits}
    {fetchPolicy : SafeHttp.FetchPolicy} {retryPolicy : RetryPolicy}
    (h : WithinAuthority limits claims fetchPolicy retryPolicy crawlPolicy) :
    preflightLimits limits fetchPolicy retryPolicy crawlPolicy = .ok () := by
  unfold preflightLimits
  simp only [bind_ok_iff, require_eq_ok, decide_eq_true_eq]
  refine ⟨(), h.timeout, (), h.body, (), h.headerBytes, (), h.headerCount, (), h.retries, ?_⟩
  cases hcrawl : crawlPolicy with
  | none => rfl
  | some policy =>
    have hpolicy := h.crawl policy hcrawl
    have hcomparisons : ∀ comparison ∈ crawlComparisons limits policy,
        require (comparison.1 ≤ comparison.2.1) comparison.2.2.1 comparison.2.2.2 = .ok () := by
      simp only [crawlComparisons, List.forall_mem_cons, require_eq_ok, decide_eq_true_eq]
      exact ⟨by exact_mod_cast hpolicy.pages, by exact_mod_cast hpolicy.depth,
        by exact_mod_cast hpolicy.links, hpolicy.execution, by exact_mod_cast hpolicy.attempts,
        fun _ h => absurd h List.not_mem_nil⟩
    dsimp only
    rw [bind_ok_iff]
    exact ⟨(), forM_ok_iff.mpr hcomparisons,
      require_eq_ok.mpr (by simpa using hpolicy.delay)⟩

omit [StandardLibrary] in
theorem exists_executionPolicy (claims : ScanPermits.Claims φ)
    (h : ∀ policy, crawlPolicy = some policy → policy.Of (jobCrawlFields limits claims)) :
    ∃ policy,
      executionPolicy (jobFetchPolicy limits claims) singleAttempt crawlPolicy = .ok policy := by
  have hlimits := limits.bounded
  have hbody := hlimits.body
  have hbytes := hlimits.headerBytes
  have hcount := hlimits.headerCount
  have htimeout : millisecond ≤ min 10 limits.timeoutSeconds ∧ min 10 limits.timeoutSeconds ≤ 60 :=
    ⟨le_min (by decide +kernel) (le_trans (by decide +kernel) hlimits.timeout.1),
      (min_le_left _ _).trans (by norm_num)⟩
  have hinteger : ∀ {value minimum maximum : Int} (name : String),
      minimum ≤ value ∧ value ≤ maximum →
      boundedInteger value name minimum maximum = .ok value :=
    fun _ hrange => boundedInteger_eq_ok.mpr ⟨rfl, hrange⟩
  have hnumber : ∀ {value minimum maximum : ℚ} (name range : String),
      minimum ≤ value ∧ value ≤ maximum →
      boundedNumber value name minimum maximum range = .ok value :=
    fun _ _ hrange => boundedNumber_eq_ok.mpr ⟨rfl, hrange⟩
  unfold executionPolicy OwnedTargetExecutionPolicyFields.postInit
  simp only [jobFetchPolicy, singleAttempt]
  rw [hnumber _ _ htimeout, ok_bind, hinteger _ (by omega), ok_bind,
    hinteger _ (by omega), ok_bind, hinteger _ (by omega), ok_bind,
    hinteger _ (by decide), ok_bind]
  cases hcrawl : crawlPolicy with
  | none => exact ⟨_, rfl⟩
  | some policy =>
    have hpages := policy.pages_bounds
    have hdepth := policy.depth_bound
    have hlinks := policy.links_bounds
    have hattempts := policy.attempts_bounds
    have hexecution : millisecond ≤ policy.maximumExecutionSeconds ∧
        policy.maximumExecutionSeconds ≤ 3600 := by
      refine ⟨?_, policy.execution_bounds.2⟩
      rw [(h policy hcrawl).execution]
      exact le_min (by decide +kernel) (le_trans (by decide +kernel) hlimits.execution.1)
    simp only [Option.map_some, Option.isSome_some]
    rw [hinteger _ (by omega), ok_bind, hinteger _ (by omega), ok_bind,
      hinteger _ (by omega), ok_bind, hnumber _ _ policy.delay_bounds, ok_bind,
      hnumber _ _ hexecution, ok_bind, hinteger _ (by omega), ok_bind]
    cases policy.queryMode with
    | drop => exact ⟨_, rfl⟩
    | reject => exact ⟨_, rfl⟩

/--
**Every authorised job has policies that pass every check, and they are within its authority.**

The pause between two requests is the reciprocal of the permitted rate as a float, so a crawl may be
faster than the rate by one part in `2 ^ 53`.
-/
theorem job_policies [NetworkLibrary] [UnicodeTables] (limits : OwnedTargetLimits)
    {raw : ScanPermits.ClaimsInput φ} {claims : ScanPermits.Claims φ}
    (h : raw.postInit = .ok claims) (mode : ScanJobMode) :
    ∃ fetchPolicy retryPolicy crawlPolicy,
      policies limits claims mode = .ok (fetchPolicy, retryPolicy, crawlPolicy) ∧
      (crawlPolicy.isSome ↔ mode = .crawl) ∧
      SafeHttp.validatePolicy fetchPolicy = .ok () ∧
      preflightLimits limits fetchPolicy retryPolicy crawlPolicy = .ok () ∧
      (∃ policy, executionPolicy fetchPolicy retryPolicy crawlPolicy = .ok policy) ∧
      WithinAuthority limits claims fetchPolicy retryPolicy crawlPolicy := by
  have hclaims := usableClaims h
  have hlimits := limits.bounded
  obtain ⟨crawlPolicy, hpolicies, hmode, hof⟩ : ∃ crawlPolicy,
      policies limits claims mode = .ok (jobFetchPolicy limits claims, singleAttempt, crawlPolicy) ∧
      (crawlPolicy.isSome ↔ mode = .crawl) ∧
      ∀ policy, crawlPolicy = some policy → policy.Of (jobCrawlFields limits claims) := by
    cases mode with
    | singlePage => exact ⟨none, rfl, by simp, by simp⟩
    | crawl =>
      obtain ⟨policy, hpolicy, hof⟩ :=
        exists_crawlPolicy (jobCrawlFields_bounded limits hclaims) rfl rfl
      refine ⟨some policy, ?_, by simp, ?_⟩
      · unfold policies
        dsimp only
        rw [hpolicy, ok_bind]
        rfl
      · rintro policy' ⟨⟩
        exact hof
  have hauthority : WithinAuthority limits claims (jobFetchPolicy limits claims) singleAttempt
      crawlPolicy :=
    ⟨min_le_right _ _, min_le_right _ _, min_le_right _ _, min_le_right _ _, rfl, hlimits.retries.1,
      hclaims.attempts, fun policy hpolicy => (hof policy hpolicy).within hclaims⟩
  exact ⟨_, _, crawlPolicy, hpolicies, hmode, validatePolicy_job limits claims,
    preflightLimits_of_within hauthority, exists_executionPolicy limits claims hof, hauthority⟩

end

end

/-! ## The default limits -/

/-- `OwnedTargetLimits()`. -/
def defaultLimits : OwnedTargetLimits where
  toOwnedTargetLimitsFields := {}
  built := ⟨{}, by decide +kernel⟩

theorem job_policies_crawl :
    letI := ScanPermits.oneFloat; letI := ScanPermits.asciiLibrary
    letI := ScanPermits.asciiNetwork; letI := ScanPermits.asciiTables
    ∃ fetchPolicy retryPolicy crawlPolicy,
      policies defaultLimits (ScanPermits.sampleClaims ScanPermits.sampleTarget) .crawl
        = .ok (fetchPolicy, retryPolicy, some crawlPolicy) := by
  let _ := ScanPermits.oneFloat
  let _ := ScanPermits.asciiLibrary
  let _ := ScanPermits.asciiNetwork
  let _ := ScanPermits.asciiTables
  have hbuilt : (ScanPermits.sampleClaims ScanPermits.sampleTarget).input.postInit
      = .ok (ScanPermits.sampleClaims ScanPermits.sampleTarget) := by decide +kernel
  obtain ⟨fetchPolicy, retryPolicy, crawlPolicy, hpolicies, hmode, -⟩ :=
    job_policies defaultLimits hbuilt .crawl
  obtain ⟨policy, rfl⟩ := Option.isSome_iff_exists.mp (hmode.mpr rfl)
  exact ⟨fetchPolicy, retryPolicy, policy, hpolicies⟩

/-- Floats that are all the float nearest to `0.7`. -/
@[reducible] def sevenTenths : PyFloat Unit where
  ofConstant _ := ()
  repr _ := "0.7".toList
  ofText _ := ()
  ofInt _ := some ()
  isFinite _ := true
  value _ := nearest (7 / 10)

/-- The reciprocal of `0.7` is rounded down, so a crawl is a little faster than its permit. -/
theorem pause_too_short :
    letI := sevenTenths; letI := ScanPermits.asciiLibrary
    letI := ScanPermits.asciiNetwork; letI := ScanPermits.asciiTables
    ∃ claims : ScanPermits.Claims Unit, claims.input.postInit = .ok claims ∧
      ∃ fetchPolicy retryPolicy crawlPolicy,
        policies defaultLimits claims .crawl = .ok (fetchPolicy, retryPolicy, some crawlPolicy) ∧
        crawlPolicy.minimumDelaySeconds * PyFloat.value claims.maximumRequestsPerSecond < 1 := by
  let _ := sevenTenths
  let _ := ScanPermits.asciiLibrary
  let _ := ScanPermits.asciiNetwork
  let _ := ScanPermits.asciiTables
  have hbuilt : (ScanPermits.sampleClaims ScanPermits.sampleTarget).input.postInit
      = .ok (ScanPermits.sampleClaims ScanPermits.sampleTarget) := by decide +kernel
  refine ⟨_, hbuilt, ?_⟩
  obtain ⟨policy, hpolicy, hof⟩ :=
    exists_crawlPolicy (jobCrawlFields_bounded defaultLimits (usableClaims hbuilt)) rfl rfl
  refine ⟨jobFetchPolicy defaultLimits (ScanPermits.sampleClaims ScanPermits.sampleTarget),
    singleAttempt, policy, ?_, ?_⟩
  · unfold policies
    dsimp only
    rw [hpolicy, ok_bind]
    rfl
  · rw [hof.delay]
    decide +kernel

end WebGuard
