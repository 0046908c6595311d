import WebGuard.Contracts.FindingAssets
import WebGuard.Contracts.FindingReload
import WebGuard.Contracts.ReportComparisons

/-!
# A written comparison, read

Every finding of a comparison is loaded from a report of its own, whose target, times and coverage
are made up. Nothing in that report stands in the way of a finding that fits: its asset is the origin
of the target (`targetOrigin_asset`), and the time of the finding is not compared with those of the
report. So a finding is loaded exactly if it fits (`loadNormalizedFinding_eq_ok`), and a comparison is
loaded as it is if its findings are (`loadReportComparison_toDict`).
-/

namespace WebGuard.ReportComparisons

open PyJson UrlParse StandardLibrary FindingContract Atomic ScanReports List
open ScanReports (ScanResult ScanCoverage ReportLibrary loadScanResult)
open ScanPermits (sortedSet member member_cons)

/-! ## The report of one finding -/

section

variable {φ : Type}

/-- `loaderTime`. -/
def loaderInstant : Nat := 63902822400000000

theorem zuluText_loaderInstant : zuluText loaderInstant = loaderTime := by decide

theorem loaderInstant_lt : loaderInstant < datetimeEnd := by decide

theorem nodup_rootKeys : rootKeys.Nodup := by decide

theorem nodup_coverageKeys : coverageKeys.Nodup := by decide

theorem nodup_summaryKeys : summaryKeys.Nodup := by decide

variable (asset : PyText) (value : Json PyText φ)

/-- The made-up report has the keys of a report. -/
theorem keys_syntheticReport :
    (syntheticReport asset value).map Prod.fst = rootKeys := rfl

theorem members_syntheticReport :
    member "schema_version" (syntheticReport asset value) = .str (ofString "1.1") ∧
      member "finding_count" (syntheticReport asset value) = .int 1 ∧
      member "findings" (syntheticReport asset value) = .arr [value] ∧
      member "error_count" (syntheticReport asset value) = .int 0 ∧
      member "errors" (syntheticReport asset value) = .arr [] ∧
      member "request_attempt_count" (syntheticReport asset value) = .int 0 ∧
      member "request_attempts" (syntheticReport asset value) = .arr [] :=
  ⟨rfl, rfl, rfl, rfl, rfl, rfl, rfl⟩

theorem distinct_syntheticReport {asset : PyText} {value : Json PyText φ} (h : Distinct value) :
    Distinct (.obj (syntheticReport asset value)) := by
  refine ⟨nodup_rootKeys, trivial, trivial, trivial, trivial, trivial, trivial, trivial, trivial,
    trivial, ⟨nodup_coverageKeys, trivial, trivial, trivial, trivial, trivial, trivial, trivial,
      trivial⟩, trivial, ⟨h, trivial⟩, trivial, trivial, trivial, trivial, trivial, trivial, trivial⟩

end

/-! ## Groups -/

section

variable {φ : Type} {name : String} {comparison : ReportComparison}
variable (fingerprint : NormalizedFinding → PyText)

/-- The fingerprints of the findings of a group. -/
def keysOf (items : List ComparedFinding) : List PyText := items.map (fingerprint ·.finding)

/-- The group in the order of its fingerprints. -/
def inOrder (items : List ComparedFinding) : List ComparedFinding :=
  items.insertionSort fun a b => fingerprint a.finding ≤ fingerprint b.finding

theorem perm_inOrder (items : List ComparedFinding) : (inOrder fingerprint items).Perm items :=
  perm_insertionSort _ items

theorem inOrder_inOrder (items : List ComparedFinding) :
    inOrder fingerprint (inOrder fingerprint items) = inOrder fingerprint items := by
  have : Std.Total fun a b : ComparedFinding => fingerprint a.finding ≤ fingerprint b.finding :=
    ⟨fun a b => le_total _ _⟩
  have : IsTrans ComparedFinding fun a b => fingerprint a.finding ≤ fingerprint b.finding :=
    ⟨fun _ _ _ => le_trans⟩
  exact (pairwise_insertionSort _ items).insertionSort_eq

theorem foldlM_addFingerprint {items : List ComparedFinding} {seen all : List PyText} :
    items.foldlM (addFingerprint fingerprint) seen = .ok all ↔
      all = (keysOf fingerprint items).reverse ++ seen ∧ (keysOf fingerprint items).Nodup ∧
        ∀ key ∈ keysOf fingerprint items, key ∉ seen := by
  induction items generalizing seen with
  | nil => simp [keysOf, pure, Except.pure, eq_comm]
  | cons item rest ih =>
    rw [foldlM_cons, bind_ok_iff]
    unfold addFingerprint
    simp only [keysOf, map_cons, reverse_cons, append_assoc, singleton_append,
      nodup_cons, forall_mem_cons]
    constructor
    · rintro ⟨added, hadded, hrest⟩
      obtain ⟨_, hnew, heq⟩ := bind_ok hadded
      cases heq
      obtain ⟨rfl, hnodup, hseen⟩ := ih.mp hrest
      have hnew' : fingerprint item.finding ∉ seen := by simpa using hnew
      exact ⟨rfl, ⟨fun hmem => hseen _ hmem (by simp), hnodup⟩, hnew',
        fun key hkey hmem => hseen key hkey (mem_cons_of_mem _ hmem)⟩
    · rintro ⟨rfl, ⟨hnotMem, hnodup⟩, hnew, hseen⟩
      refine ⟨_, bind_ok_iff.mpr ⟨(), require_eq_ok.mpr (by simpa using hnew), rfl⟩,
        ih.mpr ⟨rfl, hnodup, fun key hkey hmem => ?_⟩⟩
      rcases mem_cons.mp hmem with rfl | hmem
      · exact hnotMem hkey
      · exact hseen key hkey hmem

/-- What the check of a group accepts, and the order it puts it in. -/
theorem orderGroup_eq_ok {expected : FindingDisposition} {values ordered : List ComparedFinding}
    {seen all : List PyText} :
    orderGroup fingerprint name expected values seen = .ok (ordered, all) ↔
      (∀ item ∈ values, item.disposition = expected) ∧ ordered = inOrder fingerprint values ∧
        all = (keysOf fingerprint ordered).reverse ++ seen ∧ (keysOf fingerprint ordered).Nodup ∧
        ∀ key ∈ keysOf fingerprint ordered, key ∉ seen := by
  unfold orderGroup
  simp only [bind_ok_iff, require_eq_ok, all_eq_true, decide_eq_true_eq]
  constructor
  · rintro ⟨_, hall, all, hfold, h⟩
    cases h
    exact ⟨hall, rfl, (foldlM_addFingerprint fingerprint).mp hfold⟩
  · rintro ⟨hall, rfl, hfold⟩
    exact ⟨(), hall, _, (foldlM_addFingerprint fingerprint).mpr hfold, rfl⟩

/-- What makes the constructor accept its arguments, and what it makes of them. -/
structure Accepts (raw : ComparisonInput φ) (comparison : ReportComparison) : Prop where
  baseline : comparisonText raw.baselineScanId "baseline_scan_id" 64 = .ok comparison.baselineScanId
  current : comparisonText raw.currentScanId "current_scan_id" 64 = .ok comparison.currentScanId
  different : comparison.baselineScanId ≠ comparison.currentScanId
  target : comparisonText raw.target "target" 4096 = .ok comparison.target
  order : raw.baselineCompletedAt ≤ raw.currentCompletedAt
  generated : raw.currentCompletedAt ≤ raw.generatedAt
  dispositions : (∀ item ∈ raw.newFindings, item.disposition = .new) ∧
    (∀ item ∈ raw.remainingFindings, item.disposition = .remaining) ∧
    ∀ item ∈ raw.fixedFindings, item.disposition = .fixed
  times : comparison.baselineCompletedAt = raw.baselineCompletedAt ∧
    comparison.currentCompletedAt = raw.currentCompletedAt ∧ comparison.generatedAt = raw.generatedAt
  groups : comparison.newFindings = inOrder fingerprint raw.newFindings ∧
    comparison.remainingFindings = inOrder fingerprint raw.remainingFindings ∧
    comparison.fixedFindings = inOrder fingerprint raw.fixedFindings
  nodup : (keysOf fingerprint (comparison.newFindings ++ comparison.remainingFindings
    ++ comparison.fixedFindings)).Nodup

/-- The constructor accepts what `Accepts` says. -/
theorem postInit_eq_ok {raw : ComparisonInput φ} :
    raw.postInit fingerprint = .ok comparison ↔ Accepts fingerprint raw comparison := by
  unfold ComparisonInput.postInit
  simp only [bind_ok_iff, require_eq_ok, decide_eq_true_eq]
  constructor
  · rintro ⟨baseline, hbaseline, current, hcurrent, _, hne, target, htarget, _, horder, _,
      hgenerated, ⟨news, seen⟩, hnew, ⟨remaining, seen'⟩, hremaining, ⟨fixed, seen''⟩, hfixed, h⟩
    cases h
    obtain ⟨hnews, rfl, rfl, hnodup, -⟩ := (orderGroup_eq_ok fingerprint).mp hnew
    obtain ⟨hrest, rfl, rfl, hnodup', hnotMem'⟩ := (orderGroup_eq_ok fingerprint).mp hremaining
    obtain ⟨hfix, rfl, -, hnodup'', hnotMem''⟩ := (orderGroup_eq_ok fingerprint).mp hfixed
    refine ⟨hbaseline, hcurrent, hne, htarget, horder, hgenerated, ⟨hnews, hrest, hfix⟩,
      ⟨rfl, rfl, rfl⟩, ⟨rfl, rfl, rfl⟩, ?_⟩
    simp only [keysOf, map_append, nodup_append', disjoint_append_left]
    refine ⟨⟨hnodup, hnodup', fun key hkey hmem => hnotMem' key hmem ?_⟩, hnodup'',
      fun key hkey hmem => hnotMem'' key hmem ?_, fun key hkey hmem => hnotMem'' key hmem ?_⟩
    · exact mem_append_left _ (mem_reverse.mpr hkey)
    · exact mem_append_right _ (mem_append_left _ (mem_reverse.mpr hkey))
    · exact mem_append_left _ (mem_reverse.mpr hkey)
  · intro h
    obtain ⟨hnews, hrest, hfix⟩ := h.dispositions
    obtain ⟨hnew, hremaining, hfixed⟩ := h.groups
    obtain ⟨hbaselineAt, hcurrentAt, hgeneratedAt⟩ := h.times
    have hnodup := h.nodup
    simp only [keysOf, map_append, nodup_append', disjoint_append_left] at hnodup
    obtain ⟨⟨hnodup, hnodup', hdisjoint⟩, hnodup'', hdisjoint', hdisjoint''⟩ := hnodup
    refine ⟨_, h.baseline, _, h.current, (), h.different, _, h.target, (), h.order, (), h.generated,
      _, (orderGroup_eq_ok fingerprint).mpr ⟨hnews, hnew, rfl, hnodup, by simp⟩,
      _, (orderGroup_eq_ok fingerprint).mpr ⟨hrest, hremaining, rfl, hnodup', ?_⟩,
      _, (orderGroup_eq_ok fingerprint).mpr ⟨hfix, hfixed, rfl, hnodup'', ?_⟩, ?_⟩
    · intro key hkey hmem
      rw [append_nil, mem_reverse] at hmem
      exact hdisjoint hmem hkey
    · intro key hkey hmem
      rw [append_nil, mem_append, mem_reverse, mem_reverse] at hmem
      exact hmem.elim (fun hmem => hdisjoint'' hmem hkey) fun hmem => hdisjoint' hmem hkey
    · rw [← hbaselineAt, ← hcurrentAt, ← hgeneratedAt]
      rfl

/-- The findings of a comparison. -/
def ReportComparison.items (comparison : ReportComparison) : List ComparedFinding :=
  comparison.newFindings ++ comparison.remainingFindings ++ comparison.fixedFindings

/-- The arguments that a written comparison gives to its constructor. -/
def ReportComparison.input (comparison : ReportComparison) : ComparisonInput φ where
  baselineScanId := .str comparison.baselineScanId
  currentScanId := .str comparison.currentScanId
  target := .str comparison.target
  baselineCompletedAt := comparison.baselineCompletedAt
  currentCompletedAt := comparison.currentCompletedAt
  generatedAt := comparison.generatedAt
  newFindings := comparison.newFindings
  remainingFindings := comparison.remainingFindings
  fixedFindings := comparison.fixedFindings

theorem comparisonObject_of_keys {members : List (PyText × Json PyText φ)}
    {expected : List PyText} (h : members.map Prod.fst = expected) :
    comparisonObject (.obj members) name expected = .ok members := by
  subst h
  unfold comparisonObject
  simp

/-- A list is loaded exactly if its items are. -/
theorem eachItem_eq_ok {α : Type} {load : Json PyText φ → String → Checked α}
    {write : α → Json PyText φ} {test : α → Prop} {items : List α}
    (h : ∀ a ∈ items, ∀ path b, load (write a) path = .ok b ↔ b = a ∧ test a) (path : String)
    (index : Nat) {loaded : List α} :
    eachItem load path index (items.map write) = .ok loaded ↔
      loaded = items ∧ ∀ a ∈ items, test a := by
  induction items generalizing index loaded with
  | nil => simp [eachItem, eq_comm]
  | cons a rest ih =>
    rw [forall_mem_cons] at h
    have hrest := ih h.2
    rw [map_cons, eachItem]
    simp only [bind_ok_iff, h.1, hrest, forall_mem_cons]
    constructor
    · rintro ⟨_, ⟨rfl, htest⟩, _, ⟨rfl, hall⟩, heq⟩
      cases heq
      exact ⟨rfl, htest, hall⟩
    · rintro ⟨rfl, htest, hall⟩
      exact ⟨_, ⟨rfl, htest⟩, _, ⟨rfl, hall⟩, rfl⟩

theorem comparisonText_again {ψ : Type} {value : Json PyText ψ} {maximum : Nat} {text : PyText}
    (h : comparisonText value name maximum = .ok text) :
    comparisonText (Json.str (φ := φ) text) name maximum = .ok text := by
  cases value with
  | str raw => exact bounded_again h
  | _ => cases h

variable {fingerprint} in
/-- A comparison that was made is made again of what it holds. -/
theorem Accepts.again {raw : ComparisonInput Empty}
    {comparison : ReportComparison} (h : Accepts fingerprint raw comparison) :
    Accepts fingerprint (comparison.input (φ := φ)) comparison := by
  obtain ⟨hnew, hremaining, hfixed⟩ := h.groups
  obtain ⟨hbaselineAt, hcurrentAt, hgeneratedAt⟩ := h.times
  have hmem : ∀ items item, item ∈ inOrder fingerprint items → item ∈ items := fun items _ hitem =>
    (perm_inOrder fingerprint items).mem_iff.mp hitem
  refine ⟨comparisonText_again h.baseline, comparisonText_again h.current, h.different,
    comparisonText_again h.target, ?_, ?_, ⟨fun item hitem => ?_, fun item hitem => ?_,
      fun item hitem => ?_⟩, ⟨rfl, rfl, rfl⟩, ⟨?_, ?_, ?_⟩, h.nodup⟩
  · show comparison.baselineCompletedAt ≤ comparison.currentCompletedAt
    rw [hbaselineAt, hcurrentAt]
    exact h.order
  · show comparison.currentCompletedAt ≤ comparison.generatedAt
    rw [hcurrentAt, hgeneratedAt]
    exact h.generated
  · exact h.dispositions.1 item (hmem _ _ (hnew ▸ hitem))
  · exact h.dispositions.2.1 item (hmem _ _ (hremaining ▸ hitem))
  · exact h.dispositions.2.2 item (hmem _ _ (hfixed ▸ hitem))
  · show _ = inOrder fingerprint comparison.newFindings
    rw [hnew, inOrder_inOrder]
  · show _ = inOrder fingerprint comparison.remainingFindings
    rw [hremaining, inOrder_inOrder]
  · show _ = inOrder fingerprint comparison.fixedFindings
    rw [hfixed, inOrder_inOrder]

end

/-! ## A finding -/

variable {φ : Type} [PyFloat φ] [DecidableEq φ] [ReportLibrary φ] [LowerTable] [StandardLibrary]
  [UnicodeTables] [TimeReader]

/-- The coverage of a scan that planned nothing. -/
def emptyCoverage : ScanCoverage := ⟨[], [], [], 0, 0⟩

omit [StandardLibrary] [UnicodeTables] [TimeReader] in
theorem loadCoverage_empty :
    loadCoverage (.obj (emptyCoverage.toDict (φ := φ))) = .ok emptyCoverage := by
  have hkeys : (emptyCoverage.toDict (φ := φ)).map Prod.fst = coverageKeys := rfl
  have hdistinct : Distinct (.obj (emptyCoverage.toDict (φ := φ))) :=
    ⟨nodup_coverageKeys, trivial, trivial, trivial, trivial, trivial, trivial, trivial, trivial⟩
  have hsame : pyEq (.obj (emptyCoverage.toDict (φ := φ))) (.obj emptyCoverage.toDict) = true :=
    pyEq_spelled .plain _ hdistinct
  unfold loadCoverage
  rw [strictObject_of_perm (hkeys ▸ List.Perm.refl _), ok_bind]
  simp only [bind_ok_iff]
  exact ⟨[], rfl, [], rfl, [], rfl, [], rfl, 0, rfl, 0, rfl, emptyCoverage, rfl, (),
    require_eq_ok.mpr hsame, rfl⟩

variable {name : String} {finding : NormalizedFinding} {comparison : ReportComparison}

omit [StandardLibrary] [UnicodeTables] [TimeReader] [PyFloat φ] [DecidableEq φ] [ReportLibrary φ] in
theorem identifierField_ascii {text : PyText} (hbounded : boundedText text name 128 = .ok text)
    (hascii : ∀ n ∈ text, n < 128)
    (hsmall : (text.map fun n => if 65 ≤ n ∧ n ≤ 90 then n + 32 else n) = text)
    (hshape : isRuleId text = true) : identifierField text name = .ok text := by
  unfold identifierField
  rw [hbounded, ok_bind, LowerTable.lower_ascii text hascii, hsmall]
  exact bind_ok_iff.mpr ⟨(), require_eq_ok.mpr hshape, rfl⟩

variable (φ) in
/-- The report that a finding is loaded from, as a value. -/
def syntheticResult (finding : NormalizedFinding) : ScanResult φ where
  scanId := ofString "00000000-0000-4000-8000-000000000001"
  scanType := ofString "report-comparison-loader"
  status := .completed
  target := finding.identity.asset ++ [47]
  engine := ofString "webguard-native"
  engineVersion := ofString "0.1.0"
  startedAt := loaderInstant
  coverage := emptyCoverage
  completedAt := some loaderInstant
  findings := [finding]
  errors := []
  connectedAddresses := []
  httpStatuses := []
  requestAttempts := []

variable (digest : List Char → PyText)

omit [DecidableEq φ] [LowerTable] [StandardLibrary] [UnicodeTables] [TimeReader] in
theorem toDict_syntheticResult
    (h : finding.identity.asset.rdropWhile (· = 47) = finding.identity.asset) :
    (syntheticResult φ finding).toDict digest
      = syntheticReport finding.identity.asset (.obj (finding.toDict digest)) := by
  unfold syntheticReport
  rw [h, ← zuluText_loaderInstant]
  rfl

omit [TimeReader] [DecidableEq φ] in
/-- The constructor of the made-up report accepts it. -/
theorem postInit_syntheticResult (laws : LowerLaws) (cases : CaseLaws)
    (h : assetField finding.identity.asset = .ok finding.identity.asset)
    (hbackslash : 92 ∉ finding.identity.asset) :
    (syntheticResult φ finding).postInit digest = .ok (syntheticResult φ finding) := by
  have hid : scanIdField φ (ofString "00000000-0000-4000-8000-000000000001")
      = .ok (ofString "00000000-0000-4000-8000-000000000001") := by
    have hbounded : boundedText (ofString "00000000-0000-4000-8000-000000000001") "scan_id" 64
        = .ok (ofString "00000000-0000-4000-8000-000000000001") := by decide
    have hcanonical : isCanonicalUuid (String.ofList (characters
        (ofString "00000000-0000-4000-8000-000000000001"))) = true := by decide
    unfold scanIdField
    simp only [hbounded, hcanonical, if_true]
  have htarget := canonicalTarget_asset laws h hbackslash
  have horigin := targetOrigin_asset laws cases.lower_lower h
  have htype : identifierField (ofString "report-comparison-loader") "scan_type"
      = .ok (ofString "report-comparison-loader") :=
    identifierField_ascii (by decide) (by decide) (by decide) (by decide)
  have hengine : identifierField (ofString "webguard-native") "engine"
      = .ok (ofString "webguard-native") :=
    identifierField_ascii (by decide) (by decide) (by decide) (by decide)
  have hversion : boundedText (ofString "0.1.0") "engine_version" 64 = .ok (ofString "0.1.0") := by
    decide
  have htimes : checkTimes .completed loaderInstant (some loaderInstant) = .ok () := by
    decide
  have hfindings : checkFindings
      (fun finding => finding.identity.fingerprint φ digest) finding.identity.asset [] [finding]
        = .ok () :=
    bind_ok_iff.mpr ⟨(), require_eq_ok.mpr (decide_eq_true rfl),
      bind_ok_iff.mpr ⟨(), rfl, rfl⟩⟩
  have hstatus : checkStatus .completed emptyCoverage [] = .ok () := by decide
  unfold ScanReports.ScanResult.postInit syntheticResult
  dsimp only
  rw [hid, ok_bind, htarget, ok_bind, horigin, ok_bind, htimes,
    ok_bind, hfindings, ok_bind]
  exact bind_ok_iff.mpr ⟨(), hstatus, bind_ok_iff.mpr ⟨[], rfl,
    bind_ok_iff.mpr ⟨[], rfl, bind_ok_iff.mpr ⟨_, htype,
      bind_ok_iff.mpr ⟨_, hengine, bind_ok_iff.mpr ⟨_, hversion, rfl⟩⟩⟩⟩⟩⟩

omit [ReportLibrary φ] in
theorem loadFindings_singleton (value : Json PyText φ) :
    loadFindings digest 0 [value] = (loadFinding digest value 0).map fun f => [f] := by
  unfold loadFindings loadFindings
  cases loadFinding digest value 0 <;> rfl

theorem loadRoot_synthetic (times : ReadsTimes) (finding : NormalizedFinding) :
    loadRoot digest
        (syntheticReport finding.identity.asset (.obj (finding.toDict (φ := φ) digest)))
        [finding] [] []
      = ({ syntheticResult φ finding with
          target := finding.identity.asset.rdropWhile (· = 47) ++ [47] } : ScanResult φ).postInit
            digest := by
  have htime : ∀ path, reportTimestamp (Json.str (φ := φ) loaderTime) path = .ok loaderInstant := by
    intro path
    rw [← zuluText_loaderInstant]
    exact reportTimestamp_zuluText times loaderInstant_lt path
  have hcompleted : ∀ path, reportOptionalTimestamp (Json.str (φ := φ) loaderTime) path
      = .ok (some loaderInstant) := by
    intro path
    have hsome : reportOptionalTimestamp (Json.str (φ := φ) loaderTime) path
        = (reportTimestamp (Json.str (φ := φ) loaderTime) path).map some := rfl
    rw [hsome, htime]
    rfl
  have hstatus : ∀ path, reportEnum statuses statusValue
      (Json.str (φ := φ) (ofString "completed")) path = .ok .completed := fun _ => rfl
  have htext : ∀ (text : PyText) path, reportText (Json.str (φ := φ) text) path = .ok text :=
    fun _ _ => rfl
  have htexts : ∀ path, reportTextList (Json.arr [] : Json PyText φ) path = .ok [] := fun _ => rfl
  have hintegers : ∀ path, reportIntegerList (Json.arr [] : Json PyText φ) path
      = .ok [] := fun _ => rfl
  unfold loadRoot
  simp only [syntheticReport, member_cons, String.reduceEq, if_true, if_false]
  rw [htext, ok_bind, htext, ok_bind, hstatus, ok_bind, htext, ok_bind, htext, ok_bind, htext,
    ok_bind, htime, ok_bind, hcompleted, ok_bind]
  show (loadCoverage (.obj emptyCoverage.toDict) >>= _) = _
  rw [loadCoverage_empty, ok_bind, htexts, ok_bind, hintegers, ok_bind]
  rfl

omit [PyFloat φ] [DecidableEq φ] [ReportLibrary φ] [LowerTable] [StandardLibrary]
  [UnicodeTables] in
theorem parseTimestamp_zuluText (times : ReadsTimes) {t : Nat} (h : t < datetimeEnd)
    (name : String) :
    parseTimestamp (Json.str (φ := φ) (zuluText t)) name = .ok t := by
  unfold parseTimestamp
  dsimp only
  rw [withOffsets_zuluText, times t h]

variable (laws : LowerLaws) (cases : CaseLaws) (times : ReadsTimes)

include laws cases times

theorem loadVersion_synthetic (h : Stored finding) (hfitting : Fitting finding)
    (hbackslash : 92 ∉ finding.identity.asset) :
    loadVersion digest true
        (.obj (syntheticReport finding.identity.asset (.obj (finding.toDict (φ := φ) digest))))
      = .ok (syntheticResult φ finding) := by
  obtain ⟨scheme, host, configured, own⟩ := ownAsset laws hfitting.asset
  have hslash := own.rdropWhile_slash
  have hload : loadFinding digest (Json.obj (finding.toDict (φ := φ) digest)) 0 = .ok finding :=
    (loadFinding_spelled .plain times cases 0 h).mpr ⟨rfl, hfitting⟩
  have hcount : ∀ (count : Nat) name code message, checkCount
      (Json.int (φ := φ) count) name count code message = .ok () := fun _ _ _ _ =>
    bind_ok_iff.mpr ⟨_, rfl, require_eq_ok.mpr (decide_eq_true rfl)⟩
  have hlist : ∀ (items : List (Json PyText φ)) path, reportList (.arr items) path = .ok items :=
    fun _ _ => rfl
  have hattempts : loadAttempts (syntheticReport finding.identity.asset
      (.obj (finding.toDict (φ := φ) digest))) = .ok [] := by
    unfold loadAttempts
    simp only [members_syntheticReport]
    rw [hlist, ok_bind, eachItem]
  have hroot := loadRoot_synthetic digest (φ := φ) times finding
  rw [hslash] at hroot
  have hmade := hroot.trans (postInit_syntheticResult digest laws cases hfitting.asset hbackslash)
  have hdict := toDict_syntheticResult (φ := φ) digest hslash
  have hdistinct : Distinct (.obj (syntheticReport finding.identity.asset
      (.obj (finding.toDict (φ := φ) digest)))) := distinct_syntheticReport
    (distinct_findingDict finding (finding.identity.fingerprint φ digest))
  unfold loadVersion
  simp only [if_true]
  rw [strictObject_of_perm (keys_syntheticReport .. ▸ List.Perm.refl _), ok_bind, hattempts]
  simp only [members_syntheticReport, hlist, ok_bind, loadFindings_singleton, hload, Except.map,
    eachItem, hmade, hdict, bind_ok_iff]
  exact ⟨(), hcount 1 _ _ _, (), hcount 0 _ _ _, (), hcount 0 _ _ _, (), require_eq_ok.mpr
    (pyEq_spelled .plain _ hdistinct), rfl⟩

/-- The made-up report is loaded exactly if the finding fits. -/
theorem loadScanResult_synthetic {result : ScanResult φ} (h : Stored finding)
    (hbackslash : 92 ∉ finding.identity.asset) :
    loadScanResult digest
        (.obj (syntheticReport finding.identity.asset (.obj (finding.toDict (φ := φ) digest))))
      = .ok result ↔ result = syntheticResult φ finding ∧ Fitting finding := by
  have hversion : loadScanResult digest
      (.obj (syntheticReport finding.identity.asset (.obj (finding.toDict (φ := φ) digest))))
        = .ok result ↔ loadVersion digest true (.obj (syntheticReport
          finding.identity.asset (.obj (finding.toDict (φ := φ) digest)))) = .ok result := by
    unfold loadScanResult
    rw [mapError_ok_iff]
    dsimp only
    rw [pure_bind, (members_syntheticReport ..).1, reportText, ok_bind, if_pos rfl]
  rw [hversion]
  constructor
  · intro hload
    have hfitting : Fitting finding := by
      unfold loadVersion at hload
      simp only [if_true] at hload
      rw [strictObject_of_perm (keys_syntheticReport .. ▸ List.Perm.refl _), ok_bind,
        (members_syntheticReport ..).2.2.1] at hload
      obtain ⟨items, hitems, hload⟩ := bind_ok hload
      cases hitems
      obtain ⟨findings, hfindings, -⟩ := bind_ok hload
      rw [loadFindings_singleton, map_ok_iff] at hfindings
      obtain ⟨built, hbuilt, -⟩ := hfindings
      exact ((loadFinding_spelled .plain times cases 0 h).mp hbuilt).2
    rw [loadVersion_synthetic digest laws cases times h hfitting hbackslash] at hload
    cases hload
    exact ⟨rfl, hfitting⟩
  · rintro ⟨rfl, hfitting⟩
    exact loadVersion_synthetic digest laws cases times h hfitting hbackslash

/-- So is the finding on its own. -/
theorem loadNormalizedFinding_eq_ok {loaded : NormalizedFinding} (h : Stored finding)
    (hbackslash : 92 ∉ finding.identity.asset) :
    loadNormalizedFinding digest (.obj (finding.toDict (φ := φ) digest)) = .ok loaded ↔
      loaded = finding ∧ Fitting finding := by
  have hkeys : (finding.toDict (φ := φ) digest).map Prod.fst = findingKeys :=
    keys_findingDict finding _
  have hidentityKeys := keys_identityDict (φ := φ) finding.identity
  have hidentity : member "identity" (finding.toDict (φ := φ) digest)
      = .obj finding.identity.toDict := rfl
  have hasset : member "asset" (finding.identity.toDict (φ := φ)) = .str finding.identity.asset :=
    rfl
  have hreport : ∀ result : ScanResult φ, loadScanResult digest (.obj (syntheticReport
      finding.identity.asset (.obj (finding.toDict (φ := φ) digest)))) = .ok result ↔
        result = syntheticResult φ finding ∧ Fitting finding := fun _ =>
    loadScanResult_synthetic digest laws cases times h hbackslash
  unfold loadNormalizedFinding
  rw [comparisonObject_of_keys hkeys, ok_bind, hidentity,
    comparisonObject_of_keys hidentityKeys, ok_bind, hasset]
  dsimp only
  generalize loadScanResult digest (.obj (syntheticReport finding.identity.asset
    (.obj (finding.toDict (φ := φ) digest)))) = answer at hreport ⊢
  cases answer with
  | error e =>
    constructor
    · intro hload
      cases hload
    · rintro ⟨-, hfitting⟩
      cases (hreport (syntheticResult φ finding)).mpr ⟨rfl, hfitting⟩
  | ok result =>
    obtain ⟨rfl, hfitting⟩ := (hreport result).mp rfl
    have hfirst : firstFinding (.ok (syntheticResult φ finding)) = .ok finding := rfl
    rw [hfirst, Except.ok.injEq]
    exact ⟨fun heq => ⟨heq.symm, hfitting⟩, fun heq => heq.1.symm⟩

/-! ## The comparison -/

/-- What is known of an item of a comparison. -/
structure Kept (item : ComparedFinding) : Prop where
  stored : Stored item.finding
  backslash : 92 ∉ item.finding.identity.asset
  presented : item.postInit = .ok item

/-- An item is loaded exactly if its finding fits. -/
theorem loadItem_eq_ok {item : ComparedFinding} (h : Kept item) (name path : String)
    {loaded : ComparedFinding} :
    loadItem digest name item.disposition (.obj (item.toDict (φ := φ) digest)) path = .ok loaded ↔
      loaded = item ∧ Fitting item.finding := by
  have hkeys : (item.toDict (φ := φ) digest).map Prod.fst = itemKeys := rfl
  unfold loadItem
  rw [comparisonObject_of_keys hkeys, ok_bind]
  simp only [ComparedFinding.toDict, member_cons, String.reduceEq, if_true, if_false, bind_ok_iff,
    require_eq_ok, pyEq_str,
    loadNormalizedFinding_eq_ok digest laws cases times h.stored h.backslash]
  constructor
  · rintro ⟨_, -, _, ⟨rfl, hfitting⟩, hmade⟩
    rw [h.presented] at hmade
    cases hmade
    exact ⟨rfl, hfitting⟩
  · rintro ⟨rfl, hfitting⟩
    exact ⟨(), trivial, _, ⟨rfl, hfitting⟩, h.presented⟩

theorem loadGroup_eq_ok {items loaded : List ComparedFinding} {disposition : FindingDisposition}
    (h : ∀ item ∈ items, Kept item ∧ item.disposition = disposition) (name : String) :
    loadGroup digest (.arr (items.map fun i => .obj (i.toDict (φ := φ) digest))) name disposition
      = .ok loaded ↔ loaded = items ∧ ∀ item ∈ items, Fitting item.finding := by
  unfold loadGroup
  refine eachItem_eq_ok (fun item hitem path b => ?_) name 0
  obtain ⟨hkept, rfl⟩ := h item hitem
  exact loadItem_eq_ok digest laws cases times hkept name path

/-- A comparison that was made by its constructor, of stored findings. -/
structure MadeComparison (comparison : ReportComparison) : Prop where
  made : ∃ raw : ComparisonInput Empty,
    Accepts (fun finding => finding.identity.fingerprint φ digest) raw comparison
  kept : ∀ item ∈ comparison.items, Kept item
  times : comparison.baselineCompletedAt < datetimeEnd ∧ comparison.currentCompletedAt < datetimeEnd
    ∧ comparison.generatedAt < datetimeEnd

variable {loaded : ReportComparison}

/-- The groups are loaded exactly if all findings fit. -/
theorem loadComparison_eq_ok (h : MadeComparison (φ := φ) digest comparison) :
    loadComparison digest (comparison.toDict (φ := φ) digest) = .ok loaded ↔
      loaded = comparison ∧ ∀ item ∈ comparison.items, Fitting item.finding := by
  obtain ⟨raw, haccepts⟩ := h.made
  have hagain := haccepts.again (φ := φ)
  obtain ⟨hbaselineAt, hcurrentAt, hgeneratedAt⟩ := h.times
  have hkept := h.kept
  simp only [ReportComparison.items, forall_mem_append] at hkept ⊢
  obtain ⟨hnews, hrest, hfix⟩ := hagain.dispositions
  have hgroup : ∀ (items : List ComparedFinding) (disposition : FindingDisposition) (name : String)
      (loaded : List ComparedFinding), (∀ item ∈ items, Kept item ∧ item.disposition = disposition) →
      (loadGroup digest (.arr (items.map fun i => .obj (i.toDict (φ := φ) digest))) name disposition
        = .ok loaded ↔ loaded = items ∧ ∀ item ∈ items, Fitting item.finding) :=
    fun _ _ name _ hitems => loadGroup_eq_ok digest laws cases times hitems name
  unfold loadComparison
  simp only [ReportComparison.toDict, member_cons, String.reduceEq, if_true, if_false]
  rw [parseTimestamp_zuluText times hbaselineAt, ok_bind, parseTimestamp_zuluText times hcurrentAt,
    ok_bind, parseTimestamp_zuluText times hgeneratedAt, ok_bind]
  constructor
  · intro hload
    obtain ⟨news, hnew, hload⟩ := bind_ok hload
    obtain ⟨remaining, hremaining, hload⟩ := bind_ok hload
    obtain ⟨fixed, hfixed, hload⟩ := bind_ok hload
    obtain ⟨rfl, hfit⟩ := (hgroup _ _ _ _ fun item hitem =>
      ⟨hkept.1.1 item hitem, hnews item hitem⟩).mp hnew
    obtain ⟨rfl, hfit'⟩ := (hgroup _ _ _ _ fun item hitem =>
      ⟨hkept.1.2 item hitem, hrest item hitem⟩).mp hremaining
    obtain ⟨rfl, hfit''⟩ := (hgroup _ _ _ _ fun item hitem =>
      ⟨hkept.2 item hitem, hfix item hitem⟩).mp hfixed
    have hsame := (postInit_eq_ok _).mpr hagain
    have heq := hload.symm.trans hsame
    cases heq
    exact ⟨rfl, ⟨hfit, hfit'⟩, hfit''⟩
  · rintro ⟨rfl, ⟨hfit, hfit'⟩, hfit''⟩
    refine bind_ok_iff.mpr ⟨_, (hgroup _ _ _ _ fun item hitem =>
      ⟨hkept.1.1 item hitem, hnews item hitem⟩).mpr ⟨rfl, hfit⟩, bind_ok_iff.mpr
      ⟨_, (hgroup _ _ _ _ fun item hitem =>
        ⟨hkept.1.2 item hitem, hrest item hitem⟩).mpr ⟨rfl, hfit'⟩, bind_ok_iff.mpr
        ⟨_, (hgroup _ _ _ _ fun item hitem =>
          ⟨hkept.2 item hitem, hfix item hitem⟩).mpr ⟨rfl, hfit''⟩, ?_⟩⟩⟩
    exact (postInit_eq_ok _).mpr hagain

/-- A written comparison is loaded exactly if all findings fit, and is the same one then. -/
theorem loadReportComparison_eq_ok (h : MadeComparison (φ := φ) digest comparison) :
    loadReportComparison digest (.obj (comparison.toDict (φ := φ) digest)) = .ok loaded ↔
      loaded = comparison ∧ ∀ item ∈ comparison.items, Fitting item.finding := by
  have hkeys : (comparison.toDict (φ := φ) digest).map Prod.fst = comparisonKeys := rfl
  have hmembers : member "comparison_type" (comparison.toDict (φ := φ) digest) = .str comparisonType
      ∧ member "schema_version" (comparison.toDict (φ := φ) digest) = .str (ofString "1.0") ∧
      member "summary" (comparison.toDict (φ := φ) digest) = .obj comparison.summary :=
    ⟨rfl, rfl, rfl⟩
  have hsummaryKeys : (comparison.summary (φ := φ)).map Prod.fst = summaryKeys := rfl
  have hcounts : (comparison.summary (φ := φ)).forM checkSummaryItem = .ok () := rfl
  have hdistinct : Distinct (.obj (comparison.summary (φ := φ))) :=
    ⟨nodup_summaryKeys, trivial, trivial, trivial, trivial, trivial⟩
  have hsame : pyEq (.obj (comparison.summary (φ := φ))) (.obj comparison.summary) = true :=
    pyEq_spelled .plain _ hdistinct
  unfold loadReportComparison
  rw [comparisonObject_of_keys hkeys, ok_bind, hmembers.1, hmembers.2.1, hmembers.2.2]
  simp only [bind_ok_iff, require_eq_ok, pyEq_str,
    comparisonObject_of_keys hsummaryKeys, Except.ok.injEq,
    loadComparison_eq_ok digest laws cases times h]
  constructor
  · rintro ⟨_, -, _, -, _, rfl, _, -, _, ⟨rfl, hfit⟩, _, -, heq⟩
    cases heq
    exact ⟨rfl, hfit⟩
  · rintro ⟨rfl, hfit⟩
    exact ⟨(), trivial, (), trivial, _, rfl, (), hcounts, _, ⟨rfl, hfit⟩, (), hsame, rfl⟩

end WebGuard.ReportComparisons
