import WebGuard.Contracts.ComparisonReload
import WebGuard.Properties.FindingIdentity

/-!
# Comparing two reports

The groups are those of `Partitioned` whenever a comparison is made at all. It is the reading that
fails: every finding goes through its constructors again, and not every stored finding passes.
-/

namespace WebGuard.ReportComparisons

open PyJson UrlParse StandardLibrary FindingContract Atomic List ScanReports Bool
open ScanReports (ScanResult ReportLibrary)
open ScanPermits (sortedSet oneFloat asciiTables asciiLibrary)

/-! ## The groups by their fingerprints -/

variable {findings : List NormalizedFinding} {disposition : FindingDisposition}
  {changed : NormalizedFinding → Bool} {baseline current : ReportView}
  {comparison : ReportComparison} {keys : List PyText} {times : Nat × Nat × Nat}

section

variable (fingerprint : NormalizedFinding → PyText)

/-- The fingerprints of the findings of a report. -/
def keysIn (findings : List NormalizedFinding) : List PyText := findings.map fingerprint

variable {key : PyText} {finding : NormalizedFinding} {keep : PyText → Bool}

theorem byFingerprint_eq_some (h : byFingerprint fingerprint findings key = some finding) :
    finding ∈ findings ∧ fingerprint finding = key :=
  ⟨mem_reverse.mp (mem_of_find?_eq_some h),
    of_decide_eq_true (find?_some (p := fun f => decide (fingerprint f = key)) h)⟩

theorem exists_byFingerprint (h : key ∈ keysIn fingerprint findings) :
    ∃ finding, byFingerprint fingerprint findings key = some finding := by
  obtain ⟨finding, hmem, hkey⟩ := mem_map.mp h
  refine Option.isSome_iff_exists.mp (find?_isSome.mpr ⟨finding, mem_reverse.mpr hmem, ?_⟩)
  exact decide_eq_true hkey

theorem byFingerprint_of_mem (hnodup : (keysIn fingerprint findings).Nodup)
    (h : finding ∈ findings) :
    byFingerprint fingerprint findings (fingerprint finding) = some finding := by
  obtain ⟨found, hfound⟩ := exists_byFingerprint fingerprint
    (mem_map_of_mem (f := fingerprint) h)
  obtain ⟨hmem, hkey⟩ := byFingerprint_eq_some fingerprint hfound
  rw [hfound, inj_on_of_nodup_map hnodup hmem h hkey]

theorem mem_sortedKeys :
    key ∈ sortedKeys fingerprint findings keep ↔
      key ∈ keysIn fingerprint findings ∧ keep key = true := by
  unfold sortedKeys sortedSet keysIn
  rw [(perm_insertionSort _ _).mem_iff, mem_dedup, mem_filter]

/-- The findings that are looked up by some keys. -/
def findingsOf (findings : List NormalizedFinding) (keys : List PyText) : List NormalizedFinding :=
  keys.filterMap (byFingerprint fingerprint findings)

theorem keysIn_findingsOf (h : ∀ key ∈ keys, key ∈ keysIn fingerprint findings) :
    keysIn fingerprint (findingsOf fingerprint findings keys) = keys := by
  induction keys with
  | nil => rfl
  | cons key rest ih =>
    rw [forall_mem_cons] at h
    obtain ⟨finding, hfinding⟩ := exists_byFingerprint fingerprint h.1
    rw [findingsOf, filterMap_cons_some hfinding, keysIn, map_cons,
      (byFingerprint_eq_some fingerprint hfinding).2]
    exact congrArg _ (ih h.2)

theorem mem_findingsOf (hnodup : (keysIn fingerprint findings).Nodup) :
    finding ∈ findingsOf fingerprint findings keys ↔
      finding ∈ findings ∧ fingerprint finding ∈ keys := by
  unfold findingsOf
  rw [mem_filterMap]
  constructor
  · rintro ⟨key, hkey, hfound⟩
    obtain ⟨hmem, rfl⟩ := byFingerprint_eq_some fingerprint hfound
    exact ⟨hmem, hkey⟩
  · rintro ⟨hmem, hkey⟩
    exact ⟨_, hkey, byFingerprint_of_mem fingerprint hnodup hmem⟩

/-- What a group is made of. -/
def compared (disposition : FindingDisposition) (changed : NormalizedFinding → Bool)
    (findings : List NormalizedFinding) : List ComparedFinding :=
  findings.map fun finding => ⟨disposition, finding, changed finding⟩

theorem postInit_compared (h : disposition = .remaining ∨ ∀ finding, changed finding = false)
    (finding : NormalizedFinding) :
    ComparedFinding.postInit ⟨disposition, finding, changed finding⟩
      = .ok ⟨disposition, finding, changed finding⟩ := by
  refine bind_ok_iff.mpr ⟨(), require_eq_ok.mpr ?_, rfl⟩
  rcases h with rfl | hchanged
  · rfl
  · simp [hchanged]

theorem itemsOf_eq_ok (h : disposition = .remaining ∨ ∀ finding, changed finding = false)
    (findings : List NormalizedFinding) (keys : List PyText) :
    itemsOf fingerprint disposition findings changed keys
      = .ok (compared disposition changed (findingsOf fingerprint findings keys)) := by
  unfold itemsOf compared
  rw [funext (postInit_compared h)]
  exact (mapM_map ..).symm.trans (mapM_eq_self fun _ _ => rfl)

theorem keysOf_compared :
    keysOf fingerprint (compared disposition changed findings) = keysIn fingerprint findings := by
  unfold keysOf compared keysIn
  rw [map_map]
  rfl

/-- The arguments that the comparison of two reports is made of. -/
def comparisonInput (baseline current : ReportView) (times : Nat × Nat × Nat) :
    ComparisonInput Empty where
  baselineScanId := .str baseline.scanId
  currentScanId := .str current.scanId
  target := .str current.target
  baselineCompletedAt := times.1
  currentCompletedAt := times.2.1
  generatedAt := times.2.2
  newFindings := compared .new (fun _ => false) (findingsOf fingerprint current.findings
    (sortedKeys fingerprint current.findings
      (!(baseline.findings.map fingerprint).contains ·)))
  remainingFindings := compared .remaining (presentedOtherwise fingerprint baseline.findings)
    (findingsOf fingerprint current.findings
      (sortedKeys fingerprint current.findings (baseline.findings.map fingerprint).contains))
  fixedFindings := compared .fixed (fun _ => false) (findingsOf fingerprint baseline.findings
    (sortedKeys fingerprint baseline.findings
      (!(current.findings.map fingerprint).contains ·)))

theorem buildReportComparison_eq_ok {first last : Nat} {generatedAt : Option Nat} {now : Nat}
    (htarget : baseline.target = current.target) (hfirst : baseline.completedAt = some first)
    (hlast : current.completedAt = some last) (horder : first ≤ last) :
    buildReportComparison fingerprint baseline current generatedAt now = .ok comparison ↔
      last ≤ generatedAt.getD now ∧
        Accepts fingerprint (comparisonInput fingerprint baseline current
          (first, last, generatedAt.getD now)) comparison := by
  have hbaseline : completedAt baseline = .ok first := by rw [completedAt, hfirst]
  have hcurrent : completedAt current = .ok last := by rw [completedAt, hlast]
  unfold buildReportComparison
  dsimp only
  rw [hbaseline, hcurrent]
  simp only [bind_ok_iff, require_eq_ok, decide_eq_true_eq, Except.ok.injEq,
    itemsOf_eq_ok fingerprint (.inr fun _ => rfl), itemsOf_eq_ok fingerprint (.inl rfl)]
  constructor
  · rintro ⟨_, -, _, rfl, _, rfl, _, -, _, hgenerated, _, rfl, _, rfl, _, rfl, hmade⟩
    exact ⟨hgenerated, (postInit_eq_ok fingerprint).mp hmade⟩
  · rintro ⟨hgenerated, haccepts⟩
    exact ⟨(), htarget, _, rfl, _, rfl, (), horder, (), hgenerated, _, rfl, _, rfl, _, rfl,
      (postInit_eq_ok fingerprint).mpr haccepts⟩

/-- The groups are a partition of the fingerprints of both reports, by membership. -/
structure Partitioned (baseline current : List NormalizedFinding) (comparison : ReportComparison) :
    Prop where
  new : ∀ key, key ∈ keysOf fingerprint comparison.newFindings ↔
    key ∈ keysIn fingerprint current ∧ key ∉ keysIn fingerprint baseline
  remaining : ∀ key, key ∈ keysOf fingerprint comparison.remainingFindings ↔
    key ∈ keysIn fingerprint current ∧ key ∈ keysIn fingerprint baseline
  fixed : ∀ key, key ∈ keysOf fingerprint comparison.fixedFindings ↔
    key ∈ keysIn fingerprint baseline ∧ key ∉ keysIn fingerprint current
  nodup : (keysOf fingerprint comparison.items).Nodup

theorem keysOf_inOrder_perm :
    keysOf fingerprint (inOrder fingerprint (compared disposition changed
        (findingsOf fingerprint findings (sortedKeys fingerprint findings keep)))) ~
      sortedKeys fingerprint findings keep := by
  refine ((perm_inOrder fingerprint _).map _).trans (.of_eq ?_)
  rw [← keysOf, keysOf_compared]
  exact keysIn_findingsOf fingerprint fun key hkey => ((mem_sortedKeys fingerprint).mp hkey).1

theorem mem_keysOf_inOrder :
    key ∈ keysOf fingerprint (inOrder fingerprint (compared disposition changed
        (findingsOf fingerprint findings (sortedKeys fingerprint findings keep)))) ↔
      key ∈ keysIn fingerprint findings ∧ keep key = true := by
  rw [(keysOf_inOrder_perm fingerprint).mem_iff, mem_sortedKeys]

theorem partitioned
    (h : Accepts fingerprint (comparisonInput fingerprint baseline current times) comparison) :
    Partitioned fingerprint baseline.findings current.findings comparison := by
  obtain ⟨hnew, hremaining, hfixed⟩ := h.groups
  refine ⟨fun key => ?_, fun key => ?_, fun key => ?_, h.nodup⟩
  · rw [hnew, comparisonInput, mem_keysOf_inOrder]
    simp [keysIn]
  · rw [hremaining, comparisonInput, mem_keysOf_inOrder]
    simp [keysIn]
  · rw [hfixed, comparisonInput, mem_keysOf_inOrder]
    simp [keysIn]

end

/-! ## Valid reports -/

theorem keyCharacter_spec {n : Nat} (h : isKeyCharacter (asChar n) = true) :
    n ≠ 0 ∧ isSpace (asChar n) = false := by
  refine ⟨fun heq => ?_, by simpa using not_isSpace_of_isKeyCharacter h⟩
  rw [heq] at h
  revert h
  decide

theorem text_uuid {ψ : Type} {text : PyText}
    (h : isCanonicalUuid (String.ofList (characters text)) = true) (name : String) :
    comparisonText (Json.str (φ := ψ) text) name 64 = .ok text := by
  obtain ⟨hlength, hkeys⟩ := isCanonicalUuid_spec h
  rw [String.toList_ofList] at hlength hkeys
  rw [characters, length_map] at hlength
  have hspec : ∀ n ∈ text, n ≠ 0 ∧ isSpace (asChar n) = false := fun n hn =>
    keyCharacter_spec (hkeys _ (mem_map_of_mem hn))
  have hedges : stripText text = text := by
    refine stripText_of_ends ?_ ?_
    · cases hhead : text.head? with
      | none => rfl
      | some n => simpa using (hspec n (mem_of_head? hhead)).2
    · cases hlast : text.getLast? with
      | none => rfl
      | some n => simpa using (hspec n (mem_of_getLast? hlast)).2
  have hne : text ≠ [] := by
    rintro rfl
    cases hlength
  refine boundedText_eq_ok.mpr ⟨hedges.symm, ⟨hedges, hne, fun hzero => (hspec 0 hzero).1 rfl⟩, ?_⟩
  omega

section

variable {φ : Type} [PyFloat φ] [DecidableEq φ] [ReportLibrary φ] [LowerTable] [StandardLibrary]
  [UnicodeTables]

omit [PyFloat φ] [DecidableEq φ] [ReportLibrary φ] [UnicodeTables] in
theorem text_target {ψ : Type} (laws : LowerLaws) {raw target : PyText}
    (h : canonicalTarget raw = .ok target) {stored : PyText} :
    comparisonText (Json.str (φ := ψ) target) "target" 4096 = .ok stored ↔
      stored = stripText target ∧ (stripText target).length ≤ 4096 := by
  obtain ⟨hnull, -, hhead⟩ := plain_canonicalTarget laws h
  have hfirst : target.head?.all (fun n => !isSpace (asChar n)) = true := by
    rw [hhead]
    decide
  obtain ⟨spaces, heq, hspaces⟩ := exists_spaces hfirst
  have hne : stripText target ≠ [] := by
    intro hnil
    rw [hnil, nil_append] at heq
    have hspace := hspaces 104 (heq ▸ mem_of_head? hhead)
    revert hspace
    decide
  have hnone : 0 ∉ stripText target := fun hin => hnull (heq ▸ mem_append_left _ hin)
  unfold comparisonText
  dsimp only
  rw [boundedText_eq_ok]
  constructor
  · rintro ⟨rfl, -, hlength⟩
    exact ⟨rfl, hlength⟩
  · rintro ⟨rfl, hlength⟩
    exact ⟨rfl, ⟨stripText_stripText target, hne, hnone⟩, hlength⟩

variable (digest : List Char → PyText)

variable (φ) in
/-- What a terminal report has, of one page or of a crawl: a canonical identifier and target, the time
of its end, and stored findings on the origin of the target, with distinct fingerprints. -/
structure ValidReport (report : ReportView) : Prop where
  scanId : isCanonicalUuid (String.ofList (characters report.scanId)) = true
  target : ∃ raw, canonicalTarget raw = .ok report.target
  terminal : ∃ t < datetimeEnd, report.completedAt = some t
  findings : ∀ finding ∈ report.findings, Stored finding ∧
    targetOrigin report.target = .ok finding.identity.asset
  nodup : (keysIn (fun finding => finding.identity.fingerprint φ digest) report.findings).Nodup

omit [LowerTable] [StandardLibrary] [UnicodeTables] in
theorem checkFindings_eq_ok {fingerprint : NormalizedFinding → PyText} {origin : PyText}
    {seen : List PyText} :
    checkFindings fingerprint origin seen findings = .ok () ↔
      (∀ finding ∈ findings, finding.identity.asset = origin) ∧
        (keysIn fingerprint findings).Nodup ∧
        ∀ key ∈ keysIn fingerprint findings, key ∉ seen := by
  induction findings generalizing seen with
  | nil => simp [checkFindings, keysIn]
  | cons finding rest ih =>
    rw [checkFindings]
    simp only [bind_ok_iff, require_eq_ok, ih, keysIn, map_cons, forall_mem_cons,
      nodup_cons, decide_eq_true_eq, not_eq_true', contains_eq_mem,
      decide_eq_false_iff_not]
    constructor
    · rintro ⟨_, hasset, _, hnew, hassets, hnodup, hseen⟩
      exact ⟨⟨hasset, hassets⟩, ⟨fun hmem => hseen _ hmem mem_cons_self, hnodup⟩, hnew,
        fun key hkey hmem => hseen key hkey (mem_cons_of_mem _ hmem)⟩
    · rintro ⟨⟨hasset, hassets⟩, ⟨hnotMem, hnodup⟩, hnew, hseen⟩
      refine ⟨(), hasset, (), hnew, hassets, hnodup, fun key hkey hmem => ?_⟩
      rcases mem_cons.mp hmem with rfl | hmem
      · exact hnotMem hkey
      · exact hseen key hkey hmem

/-! ## The comparison of valid reports -/

variable {digest}

section

omit [DecidableEq φ] [ReportLibrary φ]

theorem kept_compared (laws : LowerLaws) {report : ReportView} (h : ValidReport φ digest report)
    (hchanged : disposition = .remaining ∨ ∀ finding, changed finding = false)
    {fingerprint : NormalizedFinding → PyText} {item : ComparedFinding}
    (hitem : item ∈ compared disposition changed (findingsOf fingerprint report.findings keys)) :
    Kept item := by
  obtain ⟨finding, hfinding, rfl⟩ := mem_map.mp hitem
  obtain ⟨key, -, hfound⟩ := mem_filterMap.mp hfinding
  obtain ⟨hstored, horigin⟩ := h.findings finding (byFingerprint_eq_some fingerprint hfound).1
  obtain ⟨raw, htarget⟩ := h.target
  obtain ⟨-, hbackslash, -⟩ := plain_canonicalTarget laws htarget
  exact ⟨hstored, backslash_targetOrigin laws hbackslash horigin, postInit_compared hchanged finding⟩

theorem madeComparison (laws : LowerLaws) (hbaseline : ValidReport φ digest baseline)
    (hcurrent : ValidReport φ digest current)
    (htimes : times.1 < datetimeEnd ∧ times.2.1 < datetimeEnd ∧ times.2.2 < datetimeEnd)
    (h : Accepts (fun finding => finding.identity.fingerprint φ digest)
      (comparisonInput (fun finding => finding.identity.fingerprint φ digest) baseline current times)
      comparison) :
    MadeComparison (φ := φ) digest comparison := by
  obtain ⟨hnew, hremaining, hfixed⟩ := h.groups
  obtain ⟨hfirst, hlast, hgenerated⟩ := h.times
  have hmem : ∀ {items : List ComparedFinding} {item : ComparedFinding},
      item ∈ inOrder (fun finding => finding.identity.fingerprint φ digest) items → item ∈ items :=
    fun hitem => (perm_inOrder _ _).mem_iff.mp hitem
  refine ⟨⟨_, h⟩, ?_, ?_⟩
  · simp only [ReportComparison.items, forall_mem_append]
    refine ⟨⟨fun item hitem => ?_, fun item hitem => ?_⟩, fun item hitem => ?_⟩
    · rw [hnew] at hitem
      exact kept_compared laws hcurrent (.inr fun _ => rfl) (hmem hitem)
    · rw [hremaining] at hitem
      exact kept_compared laws hcurrent (.inl rfl) (hmem hitem)
    · rw [hfixed] at hitem
      exact kept_compared laws hbaseline (.inr fun _ => rfl) (hmem hitem)
  · rw [hfirst, hlast, hgenerated]
    exact htimes

theorem forall_items (hbaseline : ValidReport φ digest baseline)
    (hcurrent : ValidReport φ digest current)
    (h : Accepts (fun finding => finding.identity.fingerprint φ digest)
      (comparisonInput (fun finding => finding.identity.fingerprint φ digest) baseline current times)
      comparison) (p : NormalizedFinding → Prop) :
    (∀ item ∈ comparison.items, p item.finding) ↔
      (∀ finding ∈ current.findings, p finding) ∧
        ∀ finding ∈ baseline.findings, finding.identity.fingerprint φ digest ∉
          keysIn (fun finding => finding.identity.fingerprint φ digest) current.findings →
            p finding := by
  obtain ⟨hnew, hremaining, hfixed⟩ := h.groups
  have hgroup : ∀ (disposition : FindingDisposition) (changed : NormalizedFinding → Bool)
      (report : ReportView), ValidReport φ digest report → ∀ keep : PyText → Bool,
      (∀ item ∈ inOrder (fun finding => finding.identity.fingerprint φ digest)
        (compared disposition changed (findingsOf (fun finding =>
          finding.identity.fingerprint φ digest) report.findings (sortedKeys (fun finding =>
            finding.identity.fingerprint φ digest) report.findings keep))), p item.finding) ↔
      ∀ finding ∈ report.findings, keep (finding.identity.fingerprint φ digest) = true →
        p finding := by
    intro disposition changed report hreport keep
    simp only [(perm_inOrder _ _).mem_iff, compared, forall_mem_map,
      mem_findingsOf _ hreport.nodup, mem_sortedKeys]
    exact ⟨fun hall finding hin hkeep => hall finding ⟨hin, mem_map_of_mem hin, hkeep⟩,
      fun hall finding hin => hall finding hin.1 hin.2.2⟩
  simp only [ReportComparison.items, forall_mem_append, hnew, hremaining, hfixed,
    comparisonInput, hgroup _ _ _ hcurrent, hgroup _ _ _ hbaseline, not_eq_true',
    contains_eq_mem, decide_eq_true_eq, decide_eq_false_iff_not, keysIn]
  constructor
  · rintro ⟨⟨habsent, hpresent⟩, hgone⟩
    refine ⟨fun finding hin => ?_, hgone⟩
    by_cases hkey : finding.identity.fingerprint φ digest ∈ map (fun finding =>
        finding.identity.fingerprint φ digest) baseline.findings
    · exact hpresent finding hin hkey
    · exact habsent finding hin hkey
  · rintro ⟨hall, hgone⟩
    exact ⟨⟨fun finding hin _ => hall finding hin, fun finding hin _ => hall finding hin⟩, hgone⟩

theorem exists_accepts (laws : LowerLaws) (hbaseline : ValidReport φ digest baseline)
    (hcurrent : ValidReport φ digest current) (hids : baseline.scanId ≠ current.scanId)
    {first last generated : Nat} (horder : first ≤ last) (hlate : last ≤ generated)
    (hlength : (stripText current.target).length ≤ 4096)
    (fingerprint : NormalizedFinding → PyText) :
    ∃ comparison, Accepts fingerprint
      (comparisonInput fingerprint baseline current (first, last, generated)) comparison := by
  obtain ⟨raw, hraw⟩ := hcurrent.target
  refine ⟨{
    baselineScanId := baseline.scanId
    currentScanId := current.scanId
    target := stripText current.target
    baselineCompletedAt := first
    currentCompletedAt := last
    generatedAt := generated
    newFindings := _
    remainingFindings := _
    fixedFindings := _ }, text_uuid hbaseline.scanId _, text_uuid hcurrent.scanId _, hids,
    (text_target laws hraw).mpr ⟨rfl, hlength⟩, horder, hlate, ⟨?_, ?_, ?_⟩, ⟨rfl, rfl, rfl⟩,
    ⟨rfl, rfl, rfl⟩, ?_⟩
  · exact forall_mem_map.mpr fun _ _ => rfl
  · exact forall_mem_map.mpr fun _ _ => rfl
  · exact forall_mem_map.mpr fun _ _ => rfl
  · -- a key of two groups would be in a report and not in it
    simp only [keysOf, map_append, nodup_append', disjoint_append_left]
    have hnodup : ∀ findings keep, (sortedKeys fingerprint findings keep).Nodup :=
      fun _ _ => (ScanPermits.sortedSet_spec _).1
    refine ⟨⟨(keysOf_inOrder_perm fingerprint).nodup_iff.mpr (hnodup _ _),
      (keysOf_inOrder_perm fingerprint).nodup_iff.mpr (hnodup _ _),
      fun key hnew hremaining => ?_⟩, (keysOf_inOrder_perm fingerprint).nodup_iff.mpr (hnodup _ _),
      fun key hnew hfixed => ?_, fun key hremaining hfixed => ?_⟩
    · have habsent := ((mem_keysOf_inOrder fingerprint).mp hnew).2
      have hpresent := ((mem_keysOf_inOrder fingerprint).mp hremaining).2
      rw [hpresent] at habsent
      cases habsent
    · have hcurrent := ((mem_keysOf_inOrder fingerprint).mp hnew).1
      have hgone := ((mem_keysOf_inOrder fingerprint).mp hfixed).2
      rw [not_eq_true', contains_eq_mem, decide_eq_false_iff_not] at hgone
      exact hgone hcurrent
    · have hcurrent := ((mem_keysOf_inOrder fingerprint).mp hremaining).1
      have hgone := ((mem_keysOf_inOrder fingerprint).mp hfixed).2
      rw [not_eq_true', contains_eq_mem, decide_eq_false_iff_not] at hgone
      exact hgone hcurrent

end

variable [TimeReader]

/--
**The comparison of two reports.** Two valid reports of one target, with different identifiers and
completed in order, are compared, the groups are the fingerprints of both by membership, and the
comparison is read as it was written: exactly if it is not made before the current report was
completed, the target without white space at its end is not too long, and the findings of the
comparison fit.
-/
theorem report_comparison (laws : LowerLaws) (cases : CaseLaws) (times : ReadsTimes)
    {baseline current : ReportView} (hbaseline : ValidReport φ digest baseline)
    (hcurrent : ValidReport φ digest current) (htarget : baseline.target = current.target)
    (hids : baseline.scanId ≠ current.scanId) {first last : Nat}
    (hfirst : baseline.completedAt = some first) (hlast : current.completedAt = some last)
    (horder : first ≤ last) {generatedAt : Option Nat} {now : Nat}
    (hgenerated : generatedAt.getD now < datetimeEnd) :
    (∃ comparison, buildReportComparison (fun finding => finding.identity.fingerprint φ digest)
        baseline current generatedAt now = .ok comparison
      ∧ Partitioned (fun finding => finding.identity.fingerprint φ digest) baseline.findings
          current.findings comparison
      ∧ loadReportComparison digest (.obj (comparison.toDict (φ := φ) digest)) = .ok comparison)
    ↔ last ≤ generatedAt.getD now ∧ (stripText current.target).length ≤ 4096
      ∧ (∀ finding ∈ current.findings, Fitting finding)
      ∧ ∀ finding ∈ baseline.findings, finding.identity.fingerprint φ digest ∉
          keysIn (fun finding => finding.identity.fingerprint φ digest) current.findings →
            Fitting finding := by
  obtain ⟨raw, hraw⟩ := hcurrent.target
  obtain ⟨t, htend, ht⟩ := hbaseline.terminal
  obtain ⟨u, huend, hu⟩ := hcurrent.terminal
  rw [hfirst, Option.some.injEq] at ht
  rw [hlast, Option.some.injEq] at hu
  subst ht hu
  have hload : ∀ comparison, Accepts (fun finding => finding.identity.fingerprint φ digest)
      (comparisonInput (fun finding => finding.identity.fingerprint φ digest) baseline current
        (first, last, generatedAt.getD now)) comparison →
      (loadReportComparison digest (.obj (comparison.toDict (φ := φ) digest)) = .ok comparison ↔
        (∀ finding ∈ current.findings, Fitting finding) ∧ ∀ finding ∈ baseline.findings,
          finding.identity.fingerprint φ digest ∉ keysIn (fun finding =>
            finding.identity.fingerprint φ digest) current.findings → Fitting finding) := by
    intro comparison haccepts
    rw [loadReportComparison_eq_ok digest laws cases times
      (madeComparison laws hbaseline hcurrent ⟨htend, huend, hgenerated⟩ haccepts),
      forall_items hbaseline hcurrent haccepts]
    exact and_iff_right rfl
  simp only [buildReportComparison_eq_ok _ htarget hfirst hlast horder]
  constructor
  · rintro ⟨comparison, ⟨hlate, haccepts⟩, -, hloaded⟩
    exact ⟨hlate, ((text_target laws hraw).mp haccepts.target).2,
      (hload comparison haccepts).mp hloaded⟩
  · rintro ⟨hlate, hlength, hfitting⟩
    obtain ⟨comparison, haccepts⟩ := exists_accepts laws hbaseline hcurrent hids horder hlate hlength
      _
    exact ⟨comparison, ⟨hlate, haccepts⟩, partitioned _ haccepts,
      (hload comparison haccepts).mpr hfitting⟩

end

/-! ## Samples -/

@[reducible] def plainReports : ReportLibrary Unit where
  percent _ _ := ()
  milliseconds n := n / 1000
  addressValue _ := 0
  uuid _ := none
  uuid_canonical h := nomatch h

theorem asciiHosts : letI := asciiLower; LowerLaws := by
  let _ := asciiLower
  have hstays : ∀ n : Nat, isUncased n = true → ¬(65 ≤ n ∧ n ≤ 90) := by
    intro n hn hletter
    have hall : ∀ m < 91, 65 ≤ m → isUncased m = false := by decide
    rw [hall n (by omega) hletter.1] at hn
    cases hn
  have hcased : ∀ n : Nat, 65 ≤ n ∧ n ≤ 90 → isUncased (n + 32) = false := by
    intro n hletter
    have hall : ∀ m < 123, 97 ≤ m → isUncased m = false := by decide
    exact hall (n + 32) (by omega) (by omega)
  refine ⟨fun text => ?_, fun a b h => ?_⟩
  · show (text.map fun n => if 65 ≤ n ∧ n ≤ 90 then n + 32 else n).filter isUncased = _
    induction text with
    | nil => rfl
    | cons n rest ih =>
      rw [map_cons, filter_cons, filter_cons, ih]
      by_cases hletter : 65 ≤ n ∧ n ≤ 90
      · have hnot : isUncased n = false := by
          rw [← not_eq_true]
          exact fun hn => hstays n hn hletter
        rw [if_pos hletter, hcased n hletter, hnot]
        rfl
      · rw [if_neg hletter]
  · have happend : LowerTable.lower (a ++ b) = LowerTable.lower a ++ LowerTable.lower b :=
      map_append
    have hlength : (LowerTable.lower a).length = a.length := length_map _
    rw [happend] at h
    exact (append_inj h hlength).1

def sampleReport (digit : Nat) (target : PyText) (findings : List NormalizedFinding) :
    ReportView where
  scanId := ofString "00000000-0000-4000-8000-00000000000" ++ [digit]
  target := target
  completedAt := some second
  findings := findings

theorem valid_sampleReport {digit : Nat} {target : PyText} (hdigit : digit = 49 ∨ digit = 50)
    (hone : findings.length ≤ 1)
    (htarget : letI := asciiLower; letI := asciiLibrary
      canonicalTarget target = .ok target)
    (hfindings : letI := asciiLower; letI := asciiLibrary; letI := asciiTables
      ∀ finding ∈ findings, Stored finding ∧
        targetOrigin target = .ok finding.identity.asset) :
    letI := oneFloat; letI := asciiLower; letI := asciiLibrary; letI := asciiTables
    ValidReport Unit sampleFingerprint (sampleReport digit target findings) := by
  let _ := oneFloat
  let _ := asciiLower
  let _ := asciiLibrary
  let _ := asciiTables
  have hend : second < datetimeEnd := by decide
  have hid : isCanonicalUuid (String.ofList (characters
      (ofString "00000000-0000-4000-8000-00000000000" ++ [digit]))) = true := by
    rcases hdigit with rfl | rfl <;> decide
  refine ⟨hid, ⟨target, htarget⟩, ⟨second, hend, rfl⟩, hfindings, ?_⟩
  have hshort : (keysIn (fun finding => finding.identity.fingerprint Unit sampleFingerprint)
      findings).length ≤ 1 := by rwa [keysIn, length_map]
  exact nodup_iff_count_le_one.mpr fun key => count_le_length.trans hshort

def samplePage : PyText := ofString "https://example.com/"

def findingAt (path : PyText) : NormalizedFinding :=
  sampleFinding (FindingContract.sampleIdentity path)

/-- The findings for `/a` and `/b` of two scans. -/
theorem report_comparison_sample :
    letI := oneFloat; letI := plainReports; letI := asciiLower; letI := asciiLibrary
    letI := asciiTables; letI := isoformatReader
    ∃ comparison, buildReportComparison
        (fun finding => finding.identity.fingerprint Unit sampleFingerprint)
        (sampleReport 49 samplePage [findingAt (ofString "/a")])
        (sampleReport 50 samplePage [findingAt (ofString "/b")]) none second
          = .ok comparison
      ∧ Partitioned (fun finding => finding.identity.fingerprint Unit sampleFingerprint)
          [findingAt (ofString "/a")]
          [findingAt (ofString "/b")] comparison
      ∧ loadReportComparison sampleFingerprint
          (.obj (comparison.toDict (φ := Unit) sampleFingerprint)) = .ok comparison := by
  let _ := oneFloat
  let _ := plainReports
  let _ := asciiLower
  let _ := asciiLibrary
  let _ := asciiTables
  let _ := isoformatReader
  have ha : (FindingContract.sampleIdentity (ofString "/a")).postInit
      = .ok (FindingContract.sampleIdentity (ofString "/a")) := by decide
  have hb : (FindingContract.sampleIdentity (ofString "/b")).postInit
      = .ok (FindingContract.sampleIdentity (ofString "/b")) := by decide
  have hasset : assetField (ofString "https://example.com")
      = .ok (ofString "https://example.com") := by decide
  have htarget : canonicalTarget samplePage = .ok samplePage := by decide
  have horigin : targetOrigin samplePage = .ok (ofString "https://example.com") := by
    decide
  have hids : ofString "00000000-0000-4000-8000-00000000000" ++ [49]
      ≠ ofString "00000000-0000-4000-8000-00000000000" ++ [50] := by decide
  have hnow : (none : Option Nat).getD second < datetimeEnd := by decide
  have hvalid := valid_sampleReport (.inl rfl) Nat.le.refl htarget fun finding hin => by
    rw [mem_singleton.mp hin]
    exact ⟨stored_sampleFinding ha, horigin⟩
  have hvalid' := valid_sampleReport (.inr rfl) Nat.le.refl htarget fun finding hin => by
    rw [mem_singleton.mp hin]
    exact ⟨stored_sampleFinding hb, horigin⟩
  have hrule : (ofString "headers.missing").length ≤ 128 := by decide
  have hmethod : (ofString "GET").length ≤ 32 := by decide
  have hsource : (ofString "scanner").length ≤ 128 := by decide
  have hfits : ∀ path, Fitting (findingAt path) := fun path =>
    ⟨hrule, hasset, hmethod, hsource, by simp [findingAt, sampleFinding],
      by simp [findingAt, sampleFinding]⟩
  refine (report_comparison asciiHosts asciiCases isoformatReader_times hvalid hvalid' rfl hids
    rfl rfl Nat.le.refl hnow).mpr ⟨Nat.le.refl, by decide, fun finding hin => ?_,
      fun finding hin _ => ?_⟩
  · rw [mem_singleton.mp hin]
    exact hfits _
  · rw [mem_singleton.mp hin]
    exact hfits _

/-- `http://a /`, whose host has a space. -/
def spacedTarget : PyText := ofString "http://a /"

/-- Two valid reports of one target have a comparison that cannot be read. -/
theorem comparison_not_loaded :
    letI := oneFloat; letI := plainReports; letI := asciiLower; letI := asciiLibrary
    letI := asciiTables; letI := isoformatReader
    ValidReport Unit sampleFingerprint (sampleReport 49 spacedTarget [])
    ∧ ValidReport Unit sampleFingerprint
        (sampleReport 50 spacedTarget [sampleFinding (spacedIdentity (ofString "http://a "))])
    ∧ ∃ comparison, buildReportComparison
        (fun finding => finding.identity.fingerprint Unit sampleFingerprint)
        (sampleReport 49 spacedTarget [])
        (sampleReport 50 spacedTarget [sampleFinding (spacedIdentity (ofString "http://a "))])
        none second = .ok comparison
      ∧ ∀ loaded, loadReportComparison sampleFingerprint
          (.obj (comparison.toDict (φ := Unit) sampleFingerprint)) ≠ .ok loaded := by
  let _ := oneFloat
  let _ := plainReports
  let _ := asciiLower
  let _ := asciiLibrary
  let _ := asciiTables
  let _ := isoformatReader
  have hspaced : (spacedIdentity (ofString "http://a /")).postInit
      = .ok (spacedIdentity (ofString "http://a ")) := by decide
  have htarget : canonicalTarget spacedTarget = .ok spacedTarget := by decide
  have horigin : targetOrigin spacedTarget = .ok (ofString "http://a ") := by
    decide
  have hids : ofString "00000000-0000-4000-8000-00000000000" ++ [49]
      ≠ ofString "00000000-0000-4000-8000-00000000000" ++ [50] := by decide
  have hasset : assetField (ofString "http://a ") ≠ .ok (ofString "http://a ") := by
    decide
  have hend : second < datetimeEnd := by decide
  have hnow : (none : Option Nat).getD second < datetimeEnd := by decide
  have hlength : (stripText spacedTarget).length ≤ 4096 := by decide
  have hbaseline : ValidReport Unit sampleFingerprint (sampleReport 49 spacedTarget []) :=
    valid_sampleReport (.inl rfl) (Nat.zero_le 1) htarget (forall_mem_nil _)
  have hcurrent : ValidReport Unit sampleFingerprint (sampleReport 50 spacedTarget
      [sampleFinding (spacedIdentity (ofString "http://a "))]) := by
    refine valid_sampleReport (.inr rfl) Nat.le.refl htarget fun finding hin => ?_
    rw [mem_singleton.mp hin]
    exact ⟨stored_sampleFinding hspaced, horigin⟩
  have horder : second ≤ second := Nat.le.refl
  have hlate : second ≤ (none : Option Nat).getD second := Nat.le.refl
  obtain ⟨comparison, haccepts⟩ := exists_accepts asciiHosts hbaseline hcurrent hids horder hlate
    hlength (fun finding => finding.identity.fingerprint Unit sampleFingerprint)
  have hended : ∀ digit findings, (sampleReport digit spacedTarget findings).completedAt
      = some second := fun _ _ => rfl
  have hsame : (sampleReport 49 spacedTarget []).target = (sampleReport 50 spacedTarget
      [sampleFinding (spacedIdentity (ofString "http://a "))]).target := rfl
  have hbuild := (buildReportComparison_eq_ok (fun finding =>
    finding.identity.fingerprint Unit sampleFingerprint) hsame (hended _ _) (hended _ _)
    horder).mpr ⟨hlate, haccepts⟩
  refine ⟨hbaseline, hcurrent, comparison, hbuild, ?_⟩
  intro loaded hloaded
  have hmade := madeComparison asciiHosts hbaseline hcurrent ⟨hend, hend, hnow⟩ haccepts
  have hitems := ((loadReportComparison_eq_ok sampleFingerprint asciiHosts asciiCases
    isoformatReader_times hmade).mp hloaded).2
  have hfitting := ((forall_items hbaseline hcurrent haccepts Fitting).mp hitems).1
  exact hasset (hfitting _ (mem_singleton.mpr rfl)).asset

end WebGuard.ReportComparisons
