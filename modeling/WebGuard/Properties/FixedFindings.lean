import WebGuard.Contracts.CrawlReports
import WebGuard.Detection.AnalyzerRegistry
import WebGuard.Properties.ReportComparison

/-!
# Fixed findings

A comparison of two reports labels a finding of the first one as fixed when the second one does not
have its fingerprint. What the second scan has looked at does not count.
-/

namespace WebGuard.ReportComparisons

open PyJson UrlParse StandardLibrary FindingContract Atomic List
open ScanReports
open Analyzers (belongsTo)
open ScanPermits (sortedSet oneFloat asciiTables asciiLibrary)

/-! ## Coverage -/

/-- The checks of a coverage that was made: what was executed or skipped was planned, and nothing
both. -/
structure CoverageFits (coverage : ScanCoverage) : Prop where
  executed_planned : ∀ check ∈ coverage.executedChecks, check ∈ coverage.plannedChecks
  not_skipped : ∀ check ∈ coverage.executedChecks,
    check ∉ coverage.skippedChecks.map SkippedCheck.checkId

theorem coverageFits [LowerTable] {raw coverage : ScanCoverage} (h : raw.postInit = .ok coverage) :
    CoverageFits coverage := by
  unfold ScanCoverage.postInit at h
  simp only [bind_ok_iff, require_eq_ok] at h
  obtain ⟨_, -, _, -, planned, -, executed, -, _, hplanned, _, -, _, -, _, hdisjoint, h⟩ := h
  cases h
  simp only [subset, all_eq_true, contains_eq_mem, decide_eq_true_eq,
    Bool.not_eq_true', decide_eq_false_iff_not] at hplanned hdisjoint
  refine ⟨hplanned, fun check hexecuted hskipped => ?_⟩
  have hperm := (perm_insertionSort
    (fun a b : SkippedCheck => a.checkId ≤ b.checkId) raw.skippedChecks).map SkippedCheck.checkId
  exact hdisjoint check (hperm.mem_iff.mp hskipped) hexecuted

variable {coverage : ScanCoverage}

theorem mem_unaccountedChecks {check : PyText} :
    check ∈ coverage.unaccountedChecks ↔ check ∈ coverage.plannedChecks
      ∧ check ∉ coverage.executedChecks
      ∧ check ∉ coverage.skippedChecks.map SkippedCheck.checkId := by
  simp [ScanCoverage.unaccountedChecks]

theorem executed_iff (h : CoverageFits coverage) (check : PyText) :
    check ∈ coverage.executedChecks ↔ check ∈ coverage.plannedChecks
      ∧ check ∉ coverage.skippedChecks.map SkippedCheck.checkId
      ∧ check ∉ coverage.unaccountedChecks := by
  rw [mem_unaccountedChecks]
  constructor
  · intro hexecuted
    exact ⟨h.executed_planned check hexecuted, h.not_skipped check hexecuted,
      fun hopen => hopen.2.1 hexecuted⟩
  · rintro ⟨hplanned, hskipped, hopen⟩
    by_contra hexecuted
    exact hopen ⟨hplanned, hexecuted, hskipped⟩

/-! ## Reports -/

theorem scanIdField_spec {φ : Type} [ReportLibrary φ] {value scanId : PyText}
    (h : scanIdField φ value = .ok scanId) :
    isCanonicalUuid (String.ofList (characters scanId)) = true := by
  unfold scanIdField at h
  dsimp only at h
  split at h
  · cases h
  next cleaned _ =>
  split at h
  · cases h
    assumption
  · cases huuid : ReportLibrary.uuid φ cleaned with
    | none =>
      rw [huuid] at h
      cases h
    | some canonical =>
      rw [huuid] at h
      cases h
      exact ReportLibrary.uuid_canonical huuid

variable {fingerprint : NormalizedFinding → PyText} {findings : List NormalizedFinding}

theorem checkPageFindings_assets {origin path : PyText} {seen : List PyText}
    (h : checkPageFindings fingerprint origin path seen findings = .ok ()) :
    ∀ finding ∈ findings, finding.identity.asset = origin := by
  induction findings generalizing seen with
  | nil => simp
  | cons finding rest ih =>
    simp only [checkPageFindings, bind_ok_iff, require_eq_ok, Bool.and_eq_true,
      decide_eq_true_eq] at h
    obtain ⟨_, ⟨⟨hasset, -⟩, -⟩, _, -, h⟩ := h
    exact forall_mem_cons.mpr ⟨hasset, ih h⟩

theorem addPageFindings_eq_ok {seen seen' : List PyText}
    (h : addPageFindings fingerprint seen findings = .ok seen') :
    (keysIn fingerprint findings).Nodup
    ∧ (∀ key ∈ keysIn fingerprint findings, key ∉ seen)
    ∧ ∀ key, key ∈ seen' ↔ key ∈ keysIn fingerprint findings ∨ key ∈ seen := by
  induction findings generalizing seen with
  | nil =>
    cases h
    simp [keysIn]
  | cons finding rest ih =>
    rw [addPageFindings] at h
    obtain ⟨_, hnew, h⟩ := bind_ok h
    obtain ⟨hnodup, hapart, hmem⟩ := ih h
    simp only [require_eq_ok, Bool.not_eq_true', contains_eq_mem,
      decide_eq_false_iff_not] at hnew
    simp only [keysIn, map_cons, nodup_cons, mem_cons] at *
    refine ⟨⟨fun hin => hapart _ hin (.inl rfl), hnodup⟩, ?_, fun key => ?_⟩
    · rintro key (rfl | hkey)
      · exact hnew
      · exact fun hin => hapart key hkey (.inr hin)
    · rw [hmem]
      tauto

section

variable [LowerTable] [StandardLibrary] [UnicodeTables] {φ : Type} [PyFloat φ] [ReportLibrary φ]
variable (digest : List Char → PyText)

/-- A report of one page or of a crawl. -/
inductive SomeReport (φ : Type) where
  | scan (report : ScanResult φ)
  | crawl (report : CrawlScanResult φ)

/-- A place that a scan attempted. -/
structure AttemptedPlace where
  url : PyText
  status : ScanStatus
  coverage : ScanCoverage

/-- What a comparison reads of a report. -/
def SomeReport.view : SomeReport φ → ReportView
  | .scan report => viewOf report
  | .crawl report => ⟨report.scanId, report.target, some report.completedAt,
      report.findings digest⟩

/-- What a report records of the places that it is about. -/
def SomeReport.places : SomeReport φ → List AttemptedPlace
  | .scan report => [⟨report.target, report.status, report.coverage⟩]
  | .crawl report => report.pages.map fun page => ⟨page.url, page.status, page.coverage⟩

/-- The report, its pages and their coverages come from their constructors. -/
def SomeReport.Made : SomeReport φ → Prop
  | .scan report => (∃ raw : ScanResult φ, raw.postInit digest = .ok report)
    ∧ ∃ raw : ScanCoverage, raw.postInit = .ok report.coverage
  | .crawl report => (∃ raw : CrawlScanResult φ, raw.postInit digest = .ok report)
    ∧ ∀ page ∈ report.pages, (∃ raw : CrawlPageScanResult φ, raw.postInit digest = .ok page)
      ∧ ∃ raw : ScanCoverage, raw.postInit = .ok page.coverage

/-- A place is that of a finding, and its page was answered. -/
structure IsReached (place : AttemptedPlace) (finding : NormalizedFinding) : Prop where
  origin : ScanReports.targetOrigin place.url = .ok finding.identity.asset
  path : pagePath place.url = finding.identity.path
  answered : place.status ≠ .failed

/-- The check of a finding was executed where the finding was. -/
def Retested (report : SomeReport φ) (finding : NormalizedFinding) : Prop :=
  ∃ place ∈ report.places, IsReached place finding ∧
    ∃ check ∈ place.coverage.executedChecks, belongsTo check finding.identity.ruleId = true

/-- The check of a finding was planned and not skipped where the finding was, and a scan that was
cancelled did not leave it open. -/
def Covered (report : SomeReport φ) (finding : NormalizedFinding) : Prop :=
  ∃ place ∈ report.places, IsReached place finding ∧
    ∃ check ∈ place.coverage.plannedChecks, belongsTo check finding.identity.ruleId = true
      ∧ check ∉ place.coverage.skippedChecks.map SkippedCheck.checkId
      ∧ (place.status = .cancelled → check ∉ place.coverage.unaccountedChecks)

variable {digest}

variable (φ digest) in
/-- What the constructor of a report has checked of what a comparison reads. -/
structure ReportFits (report : ReportView) : Prop where
  scanId : isCanonicalUuid (String.ofList (characters report.scanId)) = true
  target : ∃ raw, canonicalTarget raw = .ok report.target
  assets : ∀ finding ∈ report.findings, targetOrigin report.target = .ok finding.identity.asset
  nodup : (keysIn (fun finding => finding.identity.fingerprint φ digest) report.findings).Nodup

theorem scan_made {raw result : ScanResult φ} (h : raw.postInit digest = .ok result) :
    ReportFits φ digest (viewOf result)
    ∧ (result.completedAt.isSome = true → isTerminal result.status = true)
    ∧ (result.status = .completed ∨ result.status = .completedWithErrors →
      result.coverage.unaccountedChecks = []) := by
  unfold ScanResult.postInit at h
  obtain ⟨scanId, hid, h⟩ := bind_ok h
  obtain ⟨target, htarget, h⟩ := bind_ok h
  obtain ⟨origin, horigin, h⟩ := bind_ok h
  obtain ⟨_, htimes, h⟩ := bind_ok h
  obtain ⟨_, hfindings, h⟩ := bind_ok h
  obtain ⟨_, hstatus, h⟩ := bind_ok h
  obtain ⟨_, -, h⟩ := bind_ok h
  obtain ⟨_, -, h⟩ := bind_ok h
  have hkept : result.scanId = scanId ∧ result.target = target
      ∧ result.completedAt = raw.completedAt ∧ result.status = raw.status
      ∧ result.coverage = raw.coverage ∧ result.findings = raw.findings.insertionSort fun a b =>
        a.identity.fingerprint φ digest ≤ b.identity.fingerprint φ digest := by
    dsimp only at h
    split at h
    · obtain ⟨_, -, h⟩ := bind_ok h
      obtain ⟨_, -, h⟩ := bind_ok h
      obtain ⟨_, -, h⟩ := bind_ok h
      cases h
      exact ⟨rfl, rfl, rfl, rfl, rfl, rfl⟩
    · obtain ⟨_, -, h⟩ := bind_ok h
      obtain ⟨_, -, h⟩ := bind_ok h
      obtain ⟨_, -, h⟩ := bind_ok h
      obtain ⟨_, -, h⟩ := bind_ok h
      cases h
      exact ⟨rfl, rfl, rfl, rfl, rfl, rfl⟩
  obtain ⟨hscanId, hsameTarget, hcompleted, hsame, hcoverage, hsorted⟩ := hkept
  rw [viewOf, hscanId, hsameTarget, hcompleted, hsame, hcoverage, hsorted]
  refine ⟨?_, fun hend => ?_, fun hdone => ?_⟩
  · have hperm : (raw.findings.insertionSort fun a b =>
        a.identity.fingerprint φ digest ≤ b.identity.fingerprint φ digest).Perm raw.findings :=
      perm_insertionSort _ _
    obtain ⟨hassets, hnodup, -⟩ := checkFindings_eq_ok.mp hfindings
    refine ⟨scanIdField_spec hid, ⟨_, htarget⟩, fun finding hmem => ?_,
      (hperm.map _).nodup_iff.mpr hnodup⟩
    rw [hassets finding (hperm.mem_iff.mp hmem)]
    exact horigin
  · simp only [checkTimes, bind_ok_iff, require_eq_ok] at htimes
    obtain ⟨_, -, _, hterminal, -⟩ := htimes
    cases hbool : isTerminal raw.status with
    | true => rfl
    | false =>
      rw [hbool, Bool.false_or, Option.isNone_iff_eq_none] at hterminal
      rw [hterminal] at hend
      cases hend
  · simp only [checkStatus, bind_ok_iff, require_eq_ok] at hstatus
    obtain ⟨_, hopen, -⟩ := hstatus
    rcases hdone with hdone | hdone <;> simpa [hdone] using hopen

omit [ReportLibrary φ] [UnicodeTables] in
theorem page_made {raw page : CrawlPageScanResult φ} (h : raw.postInit digest = .ok page) :
    (∀ finding ∈ page.findings, targetOrigin page.url = .ok finding.identity.asset)
    ∧ (page.status = .failed
      ∨ (page.status = .completed ∨ page.status = .completedWithErrors)
        ∧ page.coverage.unaccountedChecks = []) := by
  unfold CrawlPageScanResult.postInit at h
  obtain ⟨url, -, h⟩ := bind_ok h
  obtain ⟨parentUrl, -, h⟩ := bind_ok h
  obtain ⟨_, -, h⟩ := bind_ok h
  obtain ⟨_, hstatus, h⟩ := bind_ok h
  obtain ⟨_, hattempts, h⟩ := bind_ok h
  obtain ⟨_, -, h⟩ := bind_ok h
  obtain ⟨origin, horigin, h⟩ := bind_ok h
  obtain ⟨_, hfindings, h⟩ := bind_ok h
  obtain ⟨contentType, -, h⟩ := bind_ok h
  obtain ⟨connectedAddress, -, h⟩ := bind_ok h
  obtain ⟨_, -, h⟩ := bind_ok h
  obtain ⟨_, houtcome, h⟩ := bind_ok h
  obtain ⟨_, -, h⟩ := bind_ok h
  cases h
  refine ⟨fun finding hmem => ?_, ?_⟩
  · rw [checkPageFindings_assets hfindings finding ((perm_insertionSort _ _).mem_iff.mp hmem)]
    exact horigin
  obtain ⟨final, hfinal⟩ : ∃ final, (raw.requestAttempts.insertionSort fun a b =>
      a.attemptNumber ≤ b.attemptNumber).getLast? = some final := by
    refine Option.ne_none_iff_exists'.mp fun hnone => ?_
    have hnil := getLast?_eq_none_iff.mp hnone
    have hlength := congrArg length hnil
    rw [length_insertionSort, length_nil, length_eq_zero_iff] at hlength
    simp [hlength, require_eq_ok] at hattempts
  simp only [isPageStatus, require_eq_ok, Bool.or_eq_true, decide_eq_true_eq] at hstatus
  unfold checkPageOutcome at houtcome
  dsimp only at houtcome ⊢
  rw [hfinal] at houtcome
  rcases hstatus with (hstatus | hstatus) | hstatus
  · rw [hstatus] at houtcome
    simp only [bind_ok_iff, require_eq_ok] at houtcome
    obtain ⟨_, -, hopen⟩ := houtcome
    exact .inr ⟨.inl hstatus, by simpa using hopen⟩
  · rw [hstatus] at houtcome
    simp only [bind_ok_iff, require_eq_ok] at houtcome
    obtain ⟨_, -, hopen⟩ := houtcome
    exact .inr ⟨.inr hstatus, by simpa using hopen⟩
  · exact .inl hstatus

variable {raw : CrawlScanResult φ} {origin : PyText} {seen : SeenPages φ}
  {pages : List (CrawlPageScanResult φ)}

omit [PyFloat φ] [ReportLibrary φ] [UnicodeTables] in
theorem checkPages_nodup (h : raw.checkPages origin fingerprint seen pages = .ok ()) :
    (keysIn fingerprint (pages.flatMap CrawlPageScanResult.findings)).Nodup
    ∧ ∀ key ∈ keysIn fingerprint (pages.flatMap CrawlPageScanResult.findings),
      key ∉ seen.fingerprints := by
  induction pages generalizing seen with
  | nil => simp [keysIn]
  | cons page rest ih =>
    rw [CrawlScanResult.checkPages] at h
    obtain ⟨_, -, h⟩ := bind_ok h
    obtain ⟨fingerprints, hadded, h⟩ := bind_ok h
    obtain ⟨hnodup, hapart, hmem⟩ := addPageFindings_eq_ok hadded
    obtain ⟨hrest, hrestApart⟩ := ih h
    dsimp only at hrestApart
    simp only [keysIn, flatMap_cons, map_append, nodup_append',
      mem_append] at *
    refine ⟨⟨hnodup, hrest, fun key hkey hlater => hrestApart key hlater
      ((hmem key).mpr (.inl hkey))⟩, fun key hkey => ?_⟩
    rcases hkey with hkey | hkey
    · exact hapart key hkey
    · exact fun hin => hrestApart key hkey ((hmem key).mpr (.inr hin))

omit [PyFloat φ] [ReportLibrary φ] [UnicodeTables] in
theorem checkPages_origin (h : raw.checkPages origin fingerprint seen pages = .ok ()) :
    ∀ page ∈ pages, targetOrigin page.url = .ok origin := by
  induction pages generalizing seen with
  | nil => simp
  | cons page rest ih =>
    rw [CrawlScanResult.checkPages] at h
    obtain ⟨_, hpage, h⟩ := bind_ok h
    obtain ⟨_, -, h⟩ := bind_ok h
    obtain ⟨pageOrigin, horigin, hpage⟩ := bind_ok hpage
    obtain ⟨_, hsame, -⟩ := bind_ok hpage
    rw [require_eq_ok, decide_eq_true_eq] at hsame
    exact forall_mem_cons.mpr ⟨hsame ▸ horigin, ih h⟩

omit [UnicodeTables] in
theorem crawl_made {raw result : CrawlScanResult φ} (h : raw.postInit digest = .ok result)
    (hmade : ∀ page ∈ result.pages, ∃ raw : CrawlPageScanResult φ, raw.postInit digest = .ok page) :
    ReportFits φ digest ((SomeReport.crawl result).view digest) := by
  unfold CrawlScanResult.postInit at h
  obtain ⟨scanId, hid, h⟩ := bind_ok h
  obtain ⟨_, -, h⟩ := bind_ok h
  obtain ⟨target, htarget, h⟩ := bind_ok h
  obtain ⟨_, -, h⟩ := bind_ok h
  obtain ⟨origin, horigin, h⟩ := bind_ok h
  obtain ⟨_, hpages, h⟩ := bind_ok h
  obtain ⟨_, -, h⟩ := bind_ok h
  obtain ⟨_, -, h⟩ := bind_ok h
  obtain ⟨_, -, h⟩ := bind_ok h
  obtain ⟨_, -, h⟩ := bind_ok h
  cases h
  have hperm := perm_insertionSort (fun a b : NormalizedFinding =>
    a.identity.fingerprint φ digest ≤ b.identity.fingerprint φ digest)
    (raw.pages.flatMap CrawlPageScanResult.findings)
  refine ⟨scanIdField_spec hid, ⟨_, htarget⟩, fun finding hmem => ?_,
    (hperm.map _).nodup_iff.mpr (checkPages_nodup hpages).1⟩
  obtain ⟨page, hpage, hfinding⟩ := mem_flatMap.mp (hperm.mem_iff.mp hmem)
  obtain ⟨rawPage, hrawPage⟩ := hmade page hpage
  have hasset := (page_made hrawPage).1 finding hfinding
  rw [checkPages_origin hpages page hpage] at hasset
  exact horigin.trans hasset

/-! ## What was tested once more -/

/-- A place of a report that is complete: it failed, the scan was cancelled, or no check is left
open. -/
structure PlaceFits (place : AttemptedPlace) : Prop where
  coverage : CoverageFits place.coverage
  accounted : place.status = .failed ∨ place.status = .cancelled
    ∨ place.coverage.unaccountedChecks = []

variable {report : SomeReport φ}

theorem placeFits_of_made (h : report.Made digest)
    (hend : (report.view digest).completedAt.isSome = true) :
    ∀ place ∈ report.places, PlaceFits place := by
  intro place hplace
  cases report with
  | scan report =>
    obtain rfl := mem_singleton.mp hplace
    obtain ⟨⟨raw, hraw⟩, rawCoverage, hcoverage⟩ := h
    obtain ⟨-, hterminal, hdone⟩ := scan_made hraw
    have hstatus := hterminal hend
    refine ⟨coverageFits hcoverage, ?_⟩
    simp only [isTerminal, Bool.or_eq_true, decide_eq_true_eq] at hstatus
    rcases hstatus with ((hstatus | hstatus) | hstatus) | hstatus
    · exact .inr (.inr (hdone (.inl hstatus)))
    · exact .inr (.inr (hdone (.inr hstatus)))
    · exact .inl hstatus
    · exact .inr (.inl hstatus)
  | crawl report =>
    obtain ⟨page, hpage, rfl⟩ := mem_map.mp hplace
    obtain ⟨⟨raw, hraw⟩, rawCoverage, hcoverage⟩ := h.2 page hpage
    refine ⟨coverageFits hcoverage, ?_⟩
    rcases (page_made hraw).2 with hfailed | ⟨-, hopen⟩
    · exact .inl hfailed
    · exact .inr (.inr hopen)

theorem retested_iff (h : report.Made digest)
    (hend : (report.view digest).completedAt.isSome = true) (finding : NormalizedFinding) :
    Retested report finding ↔ Covered report finding := by
  constructor
  · rintro ⟨place, hplace, hreached, check, hcheck, hbelongs⟩
    have hfits := placeFits_of_made h hend place hplace
    obtain ⟨hplanned, hskipped, hopen⟩ := (executed_iff hfits.coverage check).mp hcheck
    exact ⟨place, hplace, hreached, check, hplanned, hbelongs, hskipped, fun _ => hopen⟩
  · rintro ⟨place, hplace, hreached, check, hplanned, hbelongs, hskipped, hcancelled⟩
    have hfits := placeFits_of_made h hend place hplace
    refine ⟨place, hplace, hreached, check, ?_, hbelongs⟩
    refine (executed_iff hfits.coverage check).mpr ⟨hplanned, hskipped, ?_⟩
    rcases hfits.accounted with hfailed | hstopped | hopen
    · exact absurd hfailed hreached.answered
    · exact hcancelled hstopped
    · rw [hopen]
      exact not_mem_nil

/-! ## Fixed findings -/

variable {baseline current : ReportView} {comparison : ReportComparison}

omit [LowerTable] [StandardLibrary] [UnicodeTables] in
theorem accepts_of_made {generatedAt : Option Nat} {now : Nat}
    (h : buildReportComparison fingerprint baseline current generatedAt now = .ok comparison) :
    current.completedAt.isSome = true ∧ ∃ times,
      Accepts fingerprint (comparisonInput fingerprint baseline current times) comparison := by
  have hpeeled := h
  unfold buildReportComparison at hpeeled
  dsimp only at hpeeled
  simp only [bind_ok_iff, require_eq_ok, decide_eq_true_eq] at hpeeled
  obtain ⟨_, htarget, first, hfirst, last, hlast, _, horder, -⟩ := hpeeled
  have hcompleted : ∀ {report : ReportView} {t : Nat}, completedAt report = .ok t →
      report.completedAt = some t := by
    intro report t hreport
    unfold completedAt at hreport
    split at hreport
    · cases hreport
      assumption
    · cases hreport
  have hmade := (buildReportComparison_eq_ok fingerprint htarget (hcompleted hfirst)
    (hcompleted hlast) horder).mp h
  exact ⟨by rw [hcompleted hlast]; rfl, _, hmade.2⟩

omit [LowerTable] [StandardLibrary] [UnicodeTables] in
theorem mem_fixedFindings (hnodup : (keysIn fingerprint baseline.findings).Nodup)
    {times : Nat × Nat × Nat}
    (h : Accepts fingerprint (comparisonInput fingerprint baseline current times) comparison)
    (finding : NormalizedFinding) :
    finding ∈ comparison.fixedFindings.map ComparedFinding.finding ↔
      finding ∈ baseline.findings
        ∧ fingerprint finding ∉ keysIn fingerprint current.findings := by
  obtain ⟨-, -, hfixed⟩ := h.groups
  have hperm := (perm_inOrder fingerprint
    (comparisonInput fingerprint baseline current times).fixedFindings).map
      ComparedFinding.finding
  have hfindings : ∀ findings : List NormalizedFinding,
      (compared .fixed (fun _ => false) findings).map ComparedFinding.finding = findings := by
    intro findings
    rw [compared, map_map]
    exact map_id _
  rw [hfixed, hperm.mem_iff, comparisonInput, hfindings, mem_findingsOf fingerprint hnodup,
    mem_sortedKeys]
  simp only [Bool.not_eq_true', contains_eq_mem, decide_eq_false_iff_not]
  constructor
  · rintro ⟨hmem, -, hnew⟩
    exact ⟨hmem, hnew⟩
  · rintro ⟨hmem, hnew⟩
    exact ⟨hmem, mem_map_of_mem hmem, hnew⟩

theorem fits_of_made (h : report.Made digest) : ReportFits φ digest (report.view digest) := by
  cases report with
  | scan report =>
    obtain ⟨⟨raw, hraw⟩, -⟩ := h
    exact (scan_made hraw).1
  | crawl report =>
    obtain ⟨⟨raw, hraw⟩, hpages⟩ := h
    exact crawl_made hraw fun page hpage => (hpages page hpage).1

/-- **A report that was made is valid** if it has ended and its findings are stored ones. -/
theorem valid_of_postInit (h : report.Made digest)
    (hend : ∃ t < datetimeEnd, (report.view digest).completedAt = some t)
    (hstored : ∀ finding ∈ (report.view digest).findings, Stored finding) :
    ValidReport φ digest (report.view digest) := by
  have hfits := fits_of_made h
  exact ⟨hfits.scanId, hfits.target, hend,
    fun finding hmem => ⟨hstored finding hmem, hfits.assets finding hmem⟩, hfits.nodup⟩

/--
**A finding is fixed** if and only if the baseline has it and the current report does not. Every
fixed finding was tested once more if and only if the current report covers all of these.
-/
theorem fixed_retested_iff {baseline current : SomeReport φ} (hbaseline : baseline.Made digest)
    (hcurrent : current.Made digest) {generatedAt : Option Nat} {now : Nat}
    {comparison : ReportComparison}
    (hmade : buildReportComparison (fun finding => finding.identity.fingerprint φ digest)
      (baseline.view digest) (current.view digest) generatedAt now = .ok comparison) :
    (∀ finding, finding ∈ comparison.fixedFindings.map ComparedFinding.finding ↔
      finding ∈ (baseline.view digest).findings
        ∧ finding.identity.fingerprint φ digest
          ∉ keysIn (fun f => f.identity.fingerprint φ digest) (current.view digest).findings) ∧
    ((∀ item ∈ comparison.fixedFindings, Retested current item.finding) ↔
      ∀ finding ∈ (baseline.view digest).findings,
        finding.identity.fingerprint φ digest
          ∉ keysIn (fun f => f.identity.fingerprint φ digest) (current.view digest).findings →
        Covered current finding) := by
  obtain ⟨hend, times, haccepts⟩ := accepts_of_made hmade
  have hfixed := mem_fixedFindings (fits_of_made hbaseline).nodup haccepts
  refine ⟨hfixed, ?_⟩
  constructor
  · intro h finding hmem hnew
    obtain ⟨item, hitem, rfl⟩ := mem_map.mp ((hfixed finding).mpr ⟨hmem, hnew⟩)
    exact (retested_iff hcurrent hend _).mp (h item hitem)
  · intro h item hitem
    obtain ⟨hmem, hnew⟩ := (hfixed item.finding).mp (mem_map_of_mem hitem)
    exact (retested_iff hcurrent hend _).mpr (h _ hmem hnew)

end

/-! ## A scan that failed -/

def pageScan (digit : Nat) (status : ScanStatus) (executed : List PyText)
    (errors : List ScanError) (findings : List NormalizedFinding) : ScanResult Unit where
  scanId := ofString "00000000-0000-4000-8000-00000000000" ++ [digit]
  scanType := ofString "passive-headers"
  status := status
  target := samplePage
  engine := ofString "webguard"
  engineVersion := ofString "1.0"
  startedAt := 0
  coverage := ⟨[ofString "headers"], executed, [], 0, 0⟩
  completedAt := some second
  findings := findings
  errors := errors
  connectedAddresses := []
  httpStatuses := []
  requestAttempts := []

def firstScan : ScanResult Unit :=
  pageScan 49 .completed [ofString "headers"] [] [findingAt (ofString "/")]

def secondScan : ScanResult Unit := pageScan 50 .completed [ofString "headers"] [] []

def failedScan : ScanResult Unit :=
  pageScan 50 .failed [] [⟨ofString "connection_failed", ofString "No answer.", ofString "fetch",
    true⟩] []

theorem pageScans_made :
    letI := oneFloat; letI := plainReports; letI := asciiLower; letI := asciiLibrary
    letI := asciiTables
    (SomeReport.scan firstScan).Made sampleFingerprint
    ∧ (SomeReport.scan secondScan).Made sampleFingerprint
    ∧ (SomeReport.scan failedScan).Made sampleFingerprint := by
  let _ := oneFloat
  let _ := plainReports
  let _ := asciiLower
  let _ := asciiLibrary
  let _ := asciiTables
  exact ⟨⟨⟨firstScan, by decide⟩, firstScan.coverage, by decide⟩,
    ⟨⟨secondScan, by decide⟩, secondScan.coverage, by decide⟩,
    ⟨⟨failedScan, by decide⟩, failedScan.coverage, by decide⟩⟩

theorem second_scan_retests :
    letI := oneFloat; letI := plainReports; letI := asciiLower; letI := asciiLibrary
    letI := asciiTables
    ∃ comparison, buildReportComparison
        (fun finding => finding.identity.fingerprint Unit sampleFingerprint)
        ((SomeReport.scan firstScan).view sampleFingerprint)
        ((SomeReport.scan secondScan).view sampleFingerprint) none second = .ok comparison
      ∧ ∀ item ∈ comparison.fixedFindings, Retested (SomeReport.scan secondScan) item.finding := by
  let _ := oneFloat
  let _ := plainReports
  let _ := asciiLower
  let _ := asciiLibrary
  let _ := asciiTables
  obtain ⟨comparison, hmade⟩ := exists_ok_of_isOk (show (buildReportComparison
    (fun finding => finding.identity.fingerprint Unit sampleFingerprint)
    ((SomeReport.scan firstScan).view sampleFingerprint)
    ((SomeReport.scan secondScan).view sampleFingerprint) none second).isOk = true by
      decide)
  refine ⟨comparison, hmade, (fixed_retested_iff pageScans_made.1 pageScans_made.2.1 hmade).2.mpr
    fun finding hmem _ => ?_⟩
  obtain rfl : finding = findingAt (ofString "/") := mem_singleton.mp hmem
  exact ⟨⟨samplePage, .completed, secondScan.coverage⟩, mem_singleton.mpr rfl,
    ⟨by decide, by decide, by decide⟩, ofString "headers",
    by decide, by decide, by decide, fun h => by cases h⟩

/-- The finding of a page is fixed by a scan that gets no answer. -/
theorem failed_scan_fixes :
    letI := oneFloat; letI := plainReports; letI := asciiLower; letI := asciiLibrary
    letI := asciiTables
    (SomeReport.scan firstScan).Made sampleFingerprint
    ∧ (SomeReport.scan failedScan).Made sampleFingerprint
    ∧ ∃ comparison, buildReportComparison
        (fun finding => finding.identity.fingerprint Unit sampleFingerprint)
        ((SomeReport.scan firstScan).view sampleFingerprint)
        ((SomeReport.scan failedScan).view sampleFingerprint) none second = .ok comparison
      ∧ ¬ ∀ item ∈ comparison.fixedFindings,
        Retested (SomeReport.scan failedScan) item.finding := by
  let _ := oneFloat
  let _ := plainReports
  let _ := asciiLower
  let _ := asciiLibrary
  let _ := asciiTables
  refine ⟨pageScans_made.1, pageScans_made.2.2, ?_⟩
  have hone : (buildReportComparison
      (fun finding => finding.identity.fingerprint Unit sampleFingerprint)
      ((SomeReport.scan firstScan).view sampleFingerprint)
      ((SomeReport.scan failedScan).view sampleFingerprint) none second).map
        (fun comparison => comparison.fixedFindings.length) = .ok 1 := by decide
  obtain ⟨comparison, hmade, hlength⟩ := map_ok_iff.mp hone
  refine ⟨comparison, hmade, fun hall => ?_⟩
  have hsome : 0 < comparison.fixedFindings.length := by omega
  obtain ⟨item, hitem⟩ := exists_mem_of_length_pos hsome
  obtain ⟨place, hplace, hreached, -⟩ := hall item hitem
  obtain rfl := mem_singleton.mp hplace
  exact hreached.answered rfl

end WebGuard.ReportComparisons
