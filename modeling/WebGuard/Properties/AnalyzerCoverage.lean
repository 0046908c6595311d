import WebGuard.Detection.AnalyzerRegistry
import WebGuard.Lib.FailingFolds
import WebGuard.Contracts.FindingAssets
import WebGuard.Contracts.FindingDocuments
import WebGuard.Properties.FindingIdentity

/-!
# Coverage of the analyser pipeline
-/

namespace WebGuard.Analyzers

open PyJson FindingContract Atomic List
open ScanPermits (sortedSet asciiTables)
open ScanReports (SkippedCheck ScanError ScanCoverage identifierField)

/-! ## Check IDs -/

/-- What the registry makes of a check ID. -/
structure IsCheckId (checkId : PyText) : Prop where
  shape : isIdentifier checkId = true
  length_le : checkId.length ≤ 128

variable {condition : Bool} {code message : String} {u : Unit}

theorem orRegistry_eq_ok :
    orRegistry condition code message = .ok u ↔ condition = true := by
  unfold orRegistry
  split <;> simp_all

theorem orOutput_eq_ok :
    orOutput condition code message = .ok u ↔ condition = true := by
  unfold orOutput
  split <;> simp_all

theorem orContract_eq_ok {α : Type} {result : Checked α} {a : α} :
    orContract result = .ok a ↔ result = .ok a := by
  unfold orContract
  cases result with
  | error e => simp [Atomic.mapError_error]
  | ok b => simp [Atomic.mapError_ok]

theorem identifierCharacter_cases {n : Nat} (h : isIdentifierCharacter n = true) :
    (97 ≤ n ∧ n ≤ 122) ∨ (48 ≤ n ∧ n ≤ 57) ∨ n = 46 ∨ n = 95 ∨ n = 45 := by
  simpa [isIdentifierCharacter, isLowerLetter, or_assoc] using h

variable {checkId : PyText} {all : List PyText} {skipped : List (PyText × SkippedCheck)}

theorem IsCheckId.characters (h : IsCheckId checkId) :
    checkId ≠ [] ∧ ∀ n ∈ checkId, isIdentifierCharacter n = true := by
  have hshape := h.shape
  cases checkId with
  | nil => cases hshape
  | cons n rest =>
    simp only [isIdentifier, Bool.and_eq_true, all_eq_true] at hshape
    refine ⟨by simp, fun m hm => ?_⟩
    obtain rfl | hm := mem_cons.mp hm
    · simp [isIdentifierCharacter, hshape.1]
    · exact hshape.2 m hm

theorem not_space {n : Nat} (h : isIdentifierCharacter n = true) : isSpace (asChar n) = false := by
  have hsmall : ∀ n < 128, isIdentifierCharacter n = true → isSpace (asChar n) = false := by
    decide
  refine hsmall n ?_ h
  have := identifierCharacter_cases h
  omega

theorem IsCheckId.strip (h : IsCheckId checkId) : stripText checkId = checkId := by
  apply stripText_of_ends
  · cases hhead : checkId.head? with
    | none => rfl
    | some n => simp [not_space (h.characters.2 n (mem_of_head? hhead))]
  · cases hlast : checkId.getLast? with
    | none => rfl
    | some n => simp [not_space (h.characters.2 n (mem_of_getLast? hlast))]

section

variable [LowerTable]

theorem IsCheckId.lower (h : IsCheckId checkId) : LowerTable.lower checkId = checkId := by
  have hrange := fun n hn => identifierCharacter_cases (h.characters.2 n hn)
  rw [LowerTable.lower_ascii checkId fun n hn => by have := hrange n hn; omega]
  refine (map_congr_left fun n hn => ?_).trans (map_id checkId)
  have := hrange n hn
  rw [if_neg (by omega), id]

theorem IsCheckId.identifierField (h : IsCheckId checkId) {name : String} {stored : PyText} :
    identifierField checkId name = .ok stored ↔ isRuleId checkId = true ∧ stored = checkId := by
  have hbounded : boundedText checkId name 128 = .ok checkId := by
    unfold boundedText
    rw [h.strip]
    refine bind_ok_iff.mpr ⟨(), require_eq_ok.mpr ?_, rfl⟩
    have hzero : 0 ∉ checkId := fun hmem => absurd (h.characters.2 0 hmem) (by decide)
    simp [h.characters.1, h.length_le, hzero]
  unfold ScanReports.identifierField
  rw [hbounded, ok_bind, h.lower]
  constructor
  · intro hok
    obtain ⟨_, hrequire, hok⟩ := bind_ok hok
    cases hok
    exact ⟨require_eq_ok.mp hrequire, rfl⟩
  · rintro ⟨hshape, rfl⟩
    exact bind_ok_iff.mpr ⟨(), require_eq_ok.mpr hshape, rfl⟩

theorem isCheckId_of_identifier {value : PyText} {name : String}
    (h : identifier value name 128 = .ok checkId) : IsCheckId checkId := by
  unfold identifier at h
  obtain ⟨_, hcheck, h⟩ := bind_ok h
  cases h
  have hall := orRegistry_eq_ok.mp hcheck
  simp only [Bool.and_eq_true, decide_eq_true_eq] at hall
  exact ⟨hall.2, hall.1.2⟩

theorem PassiveAnalyzer.isCheckId (analyzer : PassiveAnalyzer) :
    ∀ checkId ∈ analyzer.checks, IsCheckId checkId := by
  obtain ⟨raw, h⟩ := analyzer.built
  unfold AnalyzerFields.postInit at h
  obtain ⟨analyzerId, -, h⟩ := bind_ok h
  obtain ⟨findingNamespace, -, h⟩ := bind_ok h
  obtain ⟨_, -, h⟩ := bind_ok h
  obtain ⟨checks, hchecks, h⟩ := bind_ok h
  obtain ⟨_, -, h⟩ := bind_ok h
  obtain ⟨_, -, h⟩ := bind_ok h
  obtain ⟨_, -, h⟩ := bind_ok h
  have hfields : analyzer.toAnalyzerFields.checks = checks.insertionSort (· ≤ ·) := by
    injection h with h
    rw [← h]
  intro checkId hmem
  rw [hfields, mem_insertionSort] at hmem
  obtain ⟨value, -, hvalue⟩ := exists_of_mapM hchecks _ hmem
  exact isCheckId_of_identifier hvalue

end

/-! ## Registries -/

theorem nodup_snoc {texts : List PyText} (h : texts.Nodup) {text : PyText} (hnew : text ∉ texts) :
    (texts ++ [text]).Nodup := by
  rw [← concat_eq_append]
  exact h.concat hnew

section

variable [UnicodeTables]

theorem registerCheck_eq_ok {owned out : List PyText} (h : registerCheck owned checkId = .ok out) :
    checkId ∉ owned ∧ out = owned ++ [checkId] := by
  unfold registerCheck at h
  obtain ⟨_, hnew, h⟩ := bind_ok h
  obtain ⟨_, -, h⟩ := bind_ok h
  cases h
  exact ⟨by simpa using orRegistry_eq_ok.mp hnew, rfl⟩

theorem registerChecks_eq_ok {checks owned out : List PyText} (hnodup : owned.Nodup)
    (h : checks.foldlM registerCheck owned = .ok out) :
    out = owned ++ checks ∧ out.Nodup := by
  refine foldlM_induct (fun done out => out = owned ++ done ∧ out.Nodup)
    ⟨by simp, hnodup⟩ ?_ h
  rintro done checkId rest m m' - ⟨rfl, hm⟩ hstep
  obtain ⟨hnew, rfl⟩ := registerCheck_eq_ok hstep
  exact ⟨by simp, nodup_snoc hm hnew⟩

/-- A registry that is accepted names no check twice. -/
theorem validateRegistry_eq_ok {analyzers registry : List AnalyzerFields}
    (h : validateAnalyzerRegistry analyzers = .ok registry) :
    registry = analyzers ∧ (analyzers.flatMap AnalyzerFields.checks).Nodup := by
  unfold validateAnalyzerRegistry at h
  obtain ⟨_, -, h⟩ := bind_ok h
  obtain ⟨state, hstate, h⟩ := bind_ok h
  cases h
  refine ⟨rfl, ?_⟩
  have hall := foldlM_induct
    (fun done state => state.2 = done.flatMap AnalyzerFields.checks ∧ state.2.Nodup)
    ⟨rfl, nodup_nil⟩ ?_ hstate
  · rw [← hall.1]
    exact hall.2
  · rintro done analyzer rest ⟨ids, owned⟩ m' - ⟨howned, hnodup⟩ hstep
    unfold registerAnalyzer at hstep
    obtain ⟨_, -, hstep⟩ := bind_ok hstep
    obtain ⟨out, hout, hstep⟩ := bind_ok hstep
    cases hstep
    obtain ⟨heq, hout⟩ := registerChecks_eq_ok hnodup hout
    refine ⟨?_, hout⟩
    simp only at howned ⊢
    rw [heq, howned]
    simp

theorem registeredChecks_eq_ok {analyzers : List AnalyzerFields}
    (h : registeredChecks analyzers = .ok all) :
    all.Nodup ∧ all.Pairwise (· ≤ ·) ∧
      ∀ checkId, checkId ∈ all ↔ ∃ analyzer ∈ analyzers, checkId ∈ analyzer.checks := by
  unfold registeredChecks at h
  obtain ⟨registry, hregistry, h⟩ := bind_ok h
  obtain ⟨heq, hnodup⟩ := validateRegistry_eq_ok hregistry
  rw [heq] at h
  cases h
  refine ⟨(perm_insertionSort _ _).nodup_iff.mpr hnodup, pairwise_insertionSort _ _, ?_⟩
  intro checkId
  rw [mem_insertionSort, mem_flatMap]

end

/-! ## Skipped checks -/

theorem setSkipped_new {key : PyText} {value : SkippedCheck} (h : key ∉ skipped.map Prod.fst) :
    setSkipped key value skipped = skipped ++ [(key, value)] := by
  unfold setSkipped
  rw [if_neg (by simpa using h)]

/-- A dict of skipped checks: its keys are different, and each is the ID of its value. -/
structure Keyed (skipped : List (PyText × SkippedCheck)) : Prop where
  nodup : (skipped.map Prod.fst).Nodup
  ids : ∀ item ∈ skipped, item.2.checkId = item.1

theorem Keyed.snoc (h : Keyed skipped) {key : PyText} {value : SkippedCheck}
    (hnew : key ∉ skipped.map Prod.fst) (hid : value.checkId = key) :
    Keyed (skipped ++ [(key, value)]) where
  nodup := by
    rw [map_append]
    exact nodup_snoc h.nodup hnew
  ids := by
    intro item hitem
    obtain hold | hlast := mem_append.mp hitem
    · exact h.ids item hold
    · cases mem_singleton.mp hlast
      exact hid

theorem Keyed.map_checkId (h : Keyed skipped) :
    (skipped.map Prod.snd).map SkippedCheck.checkId = skipped.map Prod.fst := by
  rw [map_map]
  exact map_congr_left h.ids

theorem preSkips_eq_ok {items : List SkippedCheck}
    (h : items.foldlM (preSkip all) [] = .ok skipped) :
    Keyed skipped ∧ skipped.map Prod.fst = items.map SkippedCheck.checkId ∧
      ∀ item ∈ items, item.checkId ∈ all := by
  refine foldlM_induct (fun done skipped => Keyed skipped ∧
    skipped.map Prod.fst = done.map SkippedCheck.checkId ∧ ∀ item ∈ done, item.checkId ∈ all)
    ⟨⟨by simp, by simp⟩, rfl, by simp⟩ ?_ h
  rintro done item rest m m' - ⟨hkeyed, hids, hall⟩ hstep
  unfold preSkip at hstep
  obtain ⟨_, hregistered, hstep⟩ := bind_ok hstep
  obtain ⟨_, hnew, hstep⟩ := bind_ok hstep
  cases hstep
  have hnew : item.checkId ∉ m.map Prod.fst := by simpa using orRegistry_eq_ok.mp hnew
  rw [setSkipped_new hnew]
  refine ⟨hkeyed.snoc hnew rfl, by simp [hids], fun other hother => ?_⟩
  obtain hold | hlast := mem_append.mp hother
  · exact hall other hold
  · cases mem_singleton.mp hlast
    simpa using orRegistry_eq_ok.mp hregistered

/-! ## One analyser -/

section

variable [UnicodeTables] [LowerTable] {fingerprint : NormalizedFinding → PyText}

omit [UnicodeTables] in
/-- Skipped checks are put at the end, one record each. -/
theorem skipChecks_eq_ok {reason : PyText} {active : List PyText}
    {out : List (PyText × SkippedCheck)} (hids : ∀ checkId ∈ active, IsCheckId checkId)
    (hnodup : active.Nodup) (hnew : ∀ checkId ∈ active, checkId ∉ skipped.map Prod.fst)
    (h : active.foldlM (skipCheck reason) skipped = .ok out) :
    ∃ new, out = skipped ++ new ∧ new.map Prod.fst = active ∧
      ∀ item ∈ new, item.2.checkId = item.1 := by
  refine foldlM_induct (fun done out => ∃ new, out = skipped ++ new ∧
    new.map Prod.fst = done ∧ ∀ item ∈ new, item.2.checkId = item.1) ⟨[], by simp⟩ ?_ h
  rintro done checkId rest m m' hactive ⟨new, rfl, hdone, hall⟩ hstep
  have hmem : checkId ∈ active := by simp [hactive]
  have hfresh : checkId ∉ (skipped ++ new).map Prod.fst := by
    rw [map_append, hdone, mem_append, not_or]
    rw [hactive, nodup_append] at hnodup
    refine ⟨hnew checkId hmem, fun hold => ?_⟩
    exact hnodup.2.2 checkId hold checkId mem_cons_self rfl
  unfold skipCheck at hstep
  obtain ⟨item, hitem, hstep⟩ := bind_ok hstep
  cases hstep
  have hid : item.checkId = checkId := by
    obtain ⟨stored, hstored, hitem⟩ := bind_ok (orContract_eq_ok.mp hitem)
    obtain ⟨text, -, hitem⟩ := bind_ok hitem
    cases hitem
    exact ((hids checkId hmem).identifierField.mp hstored).2
  rw [setSkipped_new hfresh]
  refine ⟨new ++ [(checkId, item)], by simp, by simp [hdone], fun other hother => ?_⟩
  obtain hold | hlast := mem_append.mp hother
  · exact hall other hold
  · cases mem_singleton.mp hlast
    exact hid

variable {out : PipelineState} {analyzer : AnalyzerFields}

omit [LowerTable] in
theorem collectFindings_eq_ok {state : PipelineState}
    {items : List (Option NormalizedFinding)}
    (h : items.foldlM (collectFinding fingerprint analyzer) state = .ok out) :
    ∃ found, out = { state with
        findings := state.findings ++ found
        fingerprints := state.fingerprints ++ found.map fingerprint } ∧
      (∀ finding ∈ found, belongsTo analyzer.findingNamespace finding.identity.ruleId = true ∧
        ∀ checkId ∈ state.skippedIds, belongsTo checkId finding.identity.ruleId = false) ∧
      (state.fingerprints.Nodup → (state.fingerprints ++ found.map fingerprint).Nodup) := by
  refine foldlM_induct (fun _ out => ∃ found, out = { state with
        findings := state.findings ++ found
        fingerprints := state.fingerprints ++ found.map fingerprint } ∧
      (∀ finding ∈ found, belongsTo analyzer.findingNamespace finding.identity.ruleId = true ∧
        ∀ checkId ∈ state.skippedIds, belongsTo checkId finding.identity.ruleId = false) ∧
      (state.fingerprints.Nodup → (state.fingerprints ++ found.map fingerprint).Nodup))
    ⟨[], by simp, by simp, by simp⟩ ?_ h
  rintro done item rest m m' - ⟨found, rfl, hall, hnodup⟩ hstep
  cases item with
  | none => cases hstep
  | some finding =>
    unfold collectFinding at hstep
    obtain ⟨_, howned, hstep⟩ := bind_ok hstep
    obtain ⟨_, hfresh, hstep⟩ := bind_ok hstep
    cases hstep
    unfold validateFindingOwnership at howned
    obtain ⟨_, hinside, hskipped⟩ := bind_ok howned
    have hskipped := orOutput_eq_ok.mp hskipped
    refine ⟨found ++ [finding], by simp, ?_, fun hstart => ?_⟩
    · intro other hother
      obtain hold | hlast := mem_append.mp hother
      · exact hall other hold
      · cases mem_singleton.mp hlast
        refine ⟨orOutput_eq_ok.mp hinside, ?_⟩
        simpa [PipelineState.skippedIds] using hskipped
    · have hfresh := orOutput_eq_ok.mp hfresh
      rw [map_append, ← append_assoc]
      exact nodup_snoc (hnodup hstart) (by simpa using hfresh)

/--
A finding of an analyser with a check that was executed.

It is in the namespace of the analyser. If it belongs to a check of the analyser, that check was
executed; and it belongs to no check that was skipped beforehand.
-/
structure Emitted (pre executed : List PyText) (analyzer : AnalyzerFields)
    (finding : NormalizedFinding) : Prop where
  active : ∃ checkId ∈ analyzer.checks, checkId ∈ executed
  inside : belongsTo analyzer.findingNamespace finding.identity.ruleId = true
  owned : ∀ checkId ∈ analyzer.checks, belongsTo checkId finding.identity.ruleId = true →
    checkId ∈ executed
  not_skipped : ∀ checkId ∈ pre, belongsTo checkId finding.identity.ruleId = false

/-- What a pipeline makes of one analyser: nothing, a failure, or findings and executed checks. -/
inductive Ran (fingerprint : NormalizedFinding → PyText) (state : PipelineState)
    (analyzer : AnalyzerFields) : PipelineState → Prop where
  | idle (h : activeChecks state analyzer = []) : Ran fingerprint state analyzer state
  | failed (error : ScanError) (new : List (PyText × SkippedCheck))
      (hkeys : new.map Prod.fst = activeChecks state analyzer)
      (hids : ∀ item ∈ new, item.2.checkId = item.1) :
      Ran fingerprint state analyzer { state with
        errors := state.errors ++ [error]
        skippedById := state.skippedById ++ new }
  | completed (found : List NormalizedFinding) (hactive : activeChecks state analyzer ≠ [])
      (howned : ∀ finding ∈ found,
        belongsTo analyzer.findingNamespace finding.identity.ruleId = true ∧
          ∀ checkId ∈ state.skippedIds, belongsTo checkId finding.identity.ruleId = false)
      (hnodup : state.fingerprints.Nodup →
        (state.fingerprints ++ found.map fingerprint).Nodup) :
      Ran fingerprint state analyzer { state with
        findings := state.findings ++ found
        executedChecks := state.executedChecks ++ activeChecks state analyzer
        fingerprints := state.fingerprints ++ found.map fingerprint }

variable {state : PipelineState} {analyzer : AnalyzerFields}

omit [UnicodeTables] [LowerTable] in
theorem mem_activeChecks :
    checkId ∈ activeChecks state analyzer ↔
      checkId ∈ analyzer.checks ∧ checkId ∉ state.skippedIds := by
  simp [activeChecks]

/-- An analyzer is idle, fails, or is completed. -/
theorem run_cases (hids : ∀ checkId ∈ analyzer.checks, IsCheckId checkId)
    (hnodup : analyzer.checks.Nodup)
    (h : runAnalyzer fingerprint state analyzer = .ok out) :
    Ran fingerprint state analyzer out := by
  unfold runAnalyzer at h
  split at h
  · next hidle =>
    cases h
    exact .idle (by simpa using hidle)
  · next hactive =>
    split at h
    · cases h
    · unfold failAnalyzer at h
      obtain ⟨⟨code, message⟩, -, h⟩ := bind_ok h
      obtain ⟨error, -, h⟩ := bind_ok h
      obtain ⟨skipped, hskipped, h⟩ := bind_ok h
      cases h
      obtain ⟨new, rfl, hkeys, hall⟩ := skipChecks_eq_ok
        (fun checkId hmem => hids checkId (mem_activeChecks.mp hmem).1) (hnodup.filter _)
        (fun checkId hmem => (mem_activeChecks.mp hmem).2) hskipped
      exact .failed error new hkeys hall
    · cases h
    · obtain ⟨collected, hcollected, h⟩ := bind_ok h
      cases h
      obtain ⟨found, rfl, howned, hdistinct⟩ := collectFindings_eq_ok hcollected
      exact .completed found (by simpa using hactive) howned hdistinct

/-! ## The pipeline -/

variable (fingerprint) in
/--
The state of a pipeline that has done some of the analysers of its registry.

The checks of those that are not done are skipped only if they were so beforehand.
-/
structure Kept (pre : List PyText) (done : List AnalyzerFields) (state : PipelineState) : Prop where
  keyed : Keyed state.skippedById
  pre_skipped : ∀ checkId ∈ pre, checkId ∈ state.skippedIds
  disjoint : ∀ checkId ∈ state.executedChecks, checkId ∉ state.skippedIds
  executed_owned : ∀ checkId ∈ state.executedChecks, ∃ analyzer ∈ done, checkId ∈ analyzer.checks
  skipped_owned : ∀ checkId ∈ state.skippedIds,
    checkId ∈ pre ∨ ∃ analyzer ∈ done, checkId ∈ analyzer.checks
  accounted : ∀ analyzer ∈ done, ∀ checkId ∈ analyzer.checks,
    checkId ∈ state.executedChecks ∨ checkId ∈ state.skippedIds
  emitted : ∀ finding ∈ state.findings, ∃ analyzer ∈ done,
    Emitted pre state.executedChecks analyzer finding
  fingerprints : state.fingerprints = state.findings.map fingerprint
  distinct : state.fingerprints.Nodup

omit [UnicodeTables] [LowerTable] in
theorem Emitted.mono {pre executed executed' : List PyText} {finding : NormalizedFinding}
    (h : Emitted pre executed analyzer finding)
    (hsub : ∀ checkId ∈ executed, checkId ∈ executed') :
    Emitted pre executed' analyzer finding where
  active := by
    obtain ⟨checkId, hmem, hexecuted⟩ := h.active
    exact ⟨checkId, hmem, hsub checkId hexecuted⟩
  inside := h.inside
  owned := fun checkId hmem hbelongs => hsub checkId (h.owned checkId hmem hbelongs)
  not_skipped := h.not_skipped

omit [UnicodeTables] [LowerTable] in
theorem kept_start {pre : List PyText} (hkeyed : Keyed skipped)
    (hpre : skipped.map Prod.fst = pre) :
    Kept fingerprint pre [] ⟨[], [], [], skipped, []⟩ where
  keyed := hkeyed
  pre_skipped := by
    rintro checkId hmem
    rwa [PipelineState.skippedIds, hpre]
  disjoint := by simp
  executed_owned := by simp
  skipped_owned := by
    intro checkId hmem
    rw [PipelineState.skippedIds, hpre] at hmem
    exact .inl hmem
  accounted := by simp
  emitted := by simp
  fingerprints := rfl
  distinct := nodup_nil

section

variable {pre : List PyText} {done : List AnalyzerFields} {state : PipelineState}
  {analyzer : AnalyzerFields}

section

omit [UnicodeTables] [LowerTable]

theorem exists_snoc {P : AnalyzerFields → Prop} (h : ∃ owner ∈ done, P owner) :
    ∃ owner ∈ done ++ [analyzer], P owner := by
  obtain ⟨owner, howner, hP⟩ := h
  exact ⟨owner, mem_append_left _ howner, hP⟩

theorem Kept.idle (h : Kept fingerprint pre done state) (hidle : activeChecks state analyzer = []) :
    Kept fingerprint pre (done ++ [analyzer]) state where
  keyed := h.keyed
  pre_skipped := h.pre_skipped
  disjoint := h.disjoint
  executed_owned := fun checkId hmem => exists_snoc (h.executed_owned checkId hmem)
  skipped_owned := fun checkId hmem => (h.skipped_owned checkId hmem).imp_right exists_snoc
  accounted := by
    intro owner howner checkId hmem
    obtain hold | hlast := mem_append.mp howner
    · exact h.accounted owner hold checkId hmem
    · cases mem_singleton.mp hlast
      right
      by_contra hnot
      have hactive := mem_activeChecks.mpr ⟨hmem, hnot⟩
      rw [hidle] at hactive
      cases hactive
  emitted := fun finding hmem => exists_snoc (h.emitted finding hmem)
  fingerprints := h.fingerprints
  distinct := h.distinct

variable {new : List (PyText × SkippedCheck)}

theorem Keyed.append (h : Keyed skipped)
    (hnodup : (new.map Prod.fst).Nodup)
    (hnew : ∀ checkId ∈ new.map Prod.fst, checkId ∉ skipped.map Prod.fst)
    (hids : ∀ item ∈ new, item.2.checkId = item.1) : Keyed (skipped ++ new) where
  nodup := by
    rw [map_append]
    exact nodup_append'.mpr ⟨h.nodup, hnodup, fun checkId hold hmem => hnew checkId hmem hold⟩
  ids := by
    intro item hitem
    obtain hold | hmem := mem_append.mp hitem
    · exact h.ids item hold
    · exact hids item hmem

theorem Kept.failed (h : Kept fingerprint pre done state) (hnodup : analyzer.checks.Nodup)
    (hapart : ∀ checkId ∈ analyzer.checks, ∀ owner ∈ done, checkId ∉ owner.checks)
    {error : ScanError} (hkeys : new.map Prod.fst = activeChecks state analyzer)
    (hids : ∀ item ∈ new, item.2.checkId = item.1) :
    Kept fingerprint pre (done ++ [analyzer]) { state with
      errors := state.errors ++ [error]
      skippedById := state.skippedById ++ new } := by
  have hskipped : ∀ checkId, checkId ∈ (state.skippedById ++ new).map Prod.fst ↔
      checkId ∈ state.skippedIds ∨ checkId ∈ activeChecks state analyzer := by
    intro checkId
    rw [map_append, hkeys, mem_append, PipelineState.skippedIds]
  exact {
    keyed := by
      refine h.keyed.append ?_ ?_ hids
      · rw [hkeys]
        exact hnodup.filter _
      · intro checkId hmem
        rw [hkeys] at hmem
        exact (mem_activeChecks.mp hmem).2
    pre_skipped := fun checkId hmem => (hskipped checkId).mpr (.inl (h.pre_skipped checkId hmem))
    disjoint := by
      intro checkId hmem hskip
      obtain hold | hactive := (hskipped checkId).mp hskip
      · exact h.disjoint checkId hmem hold
      · obtain ⟨owner, howner, hchecks⟩ := h.executed_owned checkId hmem
        exact hapart checkId (mem_activeChecks.mp hactive).1 owner howner hchecks
    executed_owned := fun checkId hmem => exists_snoc (h.executed_owned checkId hmem)
    skipped_owned := by
      intro checkId hmem
      obtain hold | hactive := (hskipped checkId).mp hmem
      · exact (h.skipped_owned checkId hold).imp_right exists_snoc
      · exact .inr ⟨analyzer, by simp, (mem_activeChecks.mp hactive).1⟩
    accounted := by
      intro owner howner checkId hmem
      obtain hold | hlast := mem_append.mp howner
      · exact (h.accounted owner hold checkId hmem).imp_right fun hskip =>
          (hskipped checkId).mpr (.inl hskip)
      · cases mem_singleton.mp hlast
        right
        refine (hskipped checkId).mpr ?_
        by_cases hskip : checkId ∈ state.skippedIds
        · exact .inl hskip
        · exact .inr (mem_activeChecks.mpr ⟨hmem, hskip⟩)
    emitted := fun finding hmem => exists_snoc (h.emitted finding hmem)
    fingerprints := h.fingerprints
    distinct := h.distinct }

theorem Kept.completed (h : Kept fingerprint pre done state) {found : List NormalizedFinding}
    (hactive : activeChecks state analyzer ≠ [])
    (howned : ∀ finding ∈ found,
      belongsTo analyzer.findingNamespace finding.identity.ruleId = true ∧
        ∀ checkId ∈ state.skippedIds, belongsTo checkId finding.identity.ruleId = false)
    (hdistinct : (state.fingerprints ++ found.map fingerprint).Nodup) :
    Kept fingerprint pre (done ++ [analyzer]) { state with
      findings := state.findings ++ found
      executedChecks := state.executedChecks ++ activeChecks state analyzer
      fingerprints := state.fingerprints ++ found.map fingerprint } where
  keyed := h.keyed
  pre_skipped := h.pre_skipped
  disjoint := by
    intro checkId hmem
    obtain hold | hnew := mem_append.mp hmem
    · exact h.disjoint checkId hold
    · exact (mem_activeChecks.mp hnew).2
  executed_owned := by
    intro checkId hmem
    obtain hold | hnew := mem_append.mp hmem
    · exact exists_snoc (h.executed_owned checkId hold)
    · exact ⟨analyzer, by simp, (mem_activeChecks.mp hnew).1⟩
  skipped_owned := by
    intro checkId hmem
    obtain hpre | ⟨owner, howner, hchecks⟩ := h.skipped_owned checkId hmem
    · exact .inl hpre
    · exact .inr ⟨owner, mem_append_left _ howner, hchecks⟩
  accounted := by
    intro owner howner checkId hmem
    obtain hold | hlast := mem_append.mp howner
    · exact (h.accounted owner hold checkId hmem).imp_left (mem_append_left _)
    · cases mem_singleton.mp hlast
      by_cases hskip : checkId ∈ state.skippedIds
      · exact .inr hskip
      · exact .inl (mem_append_right _ (mem_activeChecks.mpr ⟨hmem, hskip⟩))
  emitted := by
    intro finding hmem
    obtain hold | hnew := mem_append.mp hmem
    · obtain ⟨owner, howner, hemitted⟩ := h.emitted finding hold
      exact ⟨owner, mem_append_left _ howner,
        hemitted.mono fun checkId => mem_append_left _⟩
    · obtain ⟨hinside, hskips⟩ := howned finding hnew
      obtain ⟨checkId, hcheck⟩ := exists_mem_of_ne_nil _ hactive
      refine ⟨analyzer, by simp, ?_, hinside, ?_, ?_⟩
      · exact ⟨checkId, (mem_activeChecks.mp hcheck).1, mem_append_right _ hcheck⟩
      · intro other hother hbelongs
        refine mem_append_right _ (mem_activeChecks.mpr ⟨hother, fun hskip => ?_⟩)
        rw [hskips other hskip] at hbelongs
        cases hbelongs
      · exact fun other hother => hskips other (h.pre_skipped other hother)
  fingerprints := by
    simp only
    rw [h.fingerprints, map_append]
  distinct := hdistinct

/-- The step: one analyzer, in each of these cases. -/
theorem Kept.run (h : Kept fingerprint pre done state) (hnodup : analyzer.checks.Nodup)
    (hapart : ∀ checkId ∈ analyzer.checks, ∀ owner ∈ done, checkId ∉ owner.checks)
    (hran : Ran fingerprint state analyzer out) :
    Kept fingerprint pre (done ++ [analyzer]) out := by
  cases hran with
  | idle hidle => exact h.idle hidle
  | failed error new hkeys hids => exact h.failed hnodup hapart hkeys hids
  | completed found hactive howned hdistinct =>
    exact h.completed hactive howned (hdistinct h.distinct)

end

end

/-- So the records are kept through the whole registry. -/
theorem kept_of_run {registry : List AnalyzerFields} {pre : List PyText} {state : PipelineState}
    (hids : ∀ analyzer ∈ registry, ∀ checkId ∈ analyzer.checks, IsCheckId checkId)
    (hnodup : (registry.flatMap AnalyzerFields.checks).Nodup) (hkeyed : Keyed skipped)
    (hpre : skipped.map Prod.fst = pre)
    (h : registry.foldlM (runAnalyzer fingerprint) ⟨[], [], [], skipped, []⟩ = .ok state) :
    Kept fingerprint pre registry state := by
  refine foldlM_induct (fun done state => Kept fingerprint pre done state)
    (kept_start hkeyed hpre) ?_ h
  intro done analyzer rest m m' hregistry hkept hstep
  have hmem : analyzer ∈ registry := by simp [hregistry]
  have hchecks : analyzer.checks.Nodup := (nodup_flatMap.mp hnodup).1 analyzer hmem
  refine hkept.run hchecks ?_ (run_cases (hids analyzer hmem) hchecks hstep)
  intro checkId hcheck owner howner hother
  rw [hregistry, flatMap_append, nodup_append] at hnodup
  refine hnodup.2.2 checkId (mem_flatMap.mpr ⟨owner, howner, hother⟩) checkId ?_ rfl
  exact mem_flatMap.mpr ⟨analyzer, mem_cons_self, hcheck⟩

/-! ## The coverage -/

omit [UnicodeTables] in
/-- The coverage of such records is accepted by its constructor. -/
theorem coverage_accepted {executed : List PyText} {skipped : List SkippedCheck}
    {attempted succeeded : Int} (hids : ∀ checkId ∈ all, IsCheckId checkId)
    (hshape : ∀ checkId ∈ all, isRuleId checkId = true)
    (hnodup : (skipped.map SkippedCheck.checkId).Nodup)
    (hdisjoint : ∀ checkId ∈ executed, checkId ∉ skipped.map SkippedCheck.checkId)
    (hexact : ∀ checkId, checkId ∈ executed ∨ checkId ∈ skipped.map SkippedCheck.checkId ↔
      checkId ∈ all) (hpositive : 0 ≤ succeeded) (hle : succeeded ≤ attempted) :
    ∃ coverage, ScanCoverage.postInit ⟨all, executed, skipped, attempted, succeeded⟩ = .ok coverage ∧
      coverage.unaccountedChecks = [] := by
  have hkeep : ∀ name, ∀ checkId ∈ all, identifierField checkId name = .ok checkId :=
    fun name checkId hmem => (hids checkId hmem).identifierField.mpr ⟨hshape checkId hmem, rfl⟩
  have hplanned : all.mapM (identifierField · "planned_check_id") = .ok all :=
    mapM_eq_self (hkeep _)
  have hexecuted : executed.mapM (identifierField · "executed_check_id") = .ok executed :=
    mapM_eq_self fun checkId hmem => hkeep _ checkId ((hexact checkId).mp (.inl hmem))
  refine ⟨⟨sortedSet all, sortedSet executed,
    skipped.insertionSort fun a b => a.checkId ≤ b.checkId, attempted, succeeded⟩, ?_, ?_⟩
  · unfold ScanCoverage.postInit
    refine bind_ok_iff.mpr ⟨(), require_eq_ok.mpr (by simp; omega), ?_⟩
    refine bind_ok_iff.mpr ⟨(), require_eq_ok.mpr (by simp; omega), ?_⟩
    refine bind_ok_iff.mpr ⟨all, hplanned, ?_⟩
    refine bind_ok_iff.mpr ⟨executed, hexecuted, ?_⟩
    refine bind_ok_iff.mpr ⟨(), require_eq_ok.mpr ?_, ?_⟩
    · simp only [ScanReports.subset, all_eq_true, contains_iff_mem, mem_sortedSet]
      exact fun checkId hmem => (hexact checkId).mp (.inl hmem)
    refine bind_ok_iff.mpr ⟨(), require_eq_ok.mpr (decide_eq_true hnodup), ?_⟩
    refine bind_ok_iff.mpr ⟨(), require_eq_ok.mpr ?_, ?_⟩
    · simp only [ScanReports.subset, all_eq_true, contains_iff_mem, mem_sortedSet]
      exact fun checkId hmem => (hexact checkId).mp (.inr hmem)
    refine bind_ok_iff.mpr ⟨(), require_eq_ok.mpr ?_, rfl⟩
    simp only [all_eq_true, Bool.not_eq_true', contains_eq_mem, mem_sortedSet,
      decide_eq_false_iff_not]
    exact fun checkId hmem hexec => hdisjoint checkId hexec hmem
  · simp only [ScanCoverage.unaccountedChecks, filter_eq_nil_iff, mem_sortedSet]
    intro checkId hmem
    obtain hexec | hskip := (hexact checkId).mpr hmem
    · simp [mem_sortedSet, hexec]
    · obtain ⟨item, hitem, rfl⟩ := mem_map.mp hskip
      have hagain : item.checkId ∈ (skipped.insertionSort fun a b => a.checkId ≤ b.checkId).map
          SkippedCheck.checkId := mem_map.mpr ⟨item, (mem_insertionSort _).mpr hitem, rfl⟩
      simp [contains_eq_mem, hagain]

/-! ## The result -/

section

variable {pre : List PyText} {done : List AnalyzerFields} {state : PipelineState}

omit [UnicodeTables] [LowerTable]

theorem skippedIds_result (h : Keyed state.skippedById) :
    ((state.result fingerprint).skippedChecks.map SkippedCheck.checkId).Perm state.skippedIds := by
  have hperm := (perm_insertionSort (fun a b : SkippedCheck => a.checkId ≤ b.checkId)
    (state.skippedById.map Prod.snd)).map SkippedCheck.checkId
  rwa [h.map_checkId] at hperm

theorem mem_executed_result :
    checkId ∈ (state.result fingerprint).executedChecks ↔ checkId ∈ state.executedChecks :=
  mem_sortedSet

theorem Kept.disjoint_result (h : Kept fingerprint pre done state) :
    ∀ checkId ∈ (state.result fingerprint).executedChecks,
      checkId ∉ (state.result fingerprint).skippedChecks.map SkippedCheck.checkId := by
  intro checkId hmem
  rw [(skippedIds_result h.keyed).mem_iff]
  exact h.disjoint checkId (mem_executed_result.mp hmem)

/-- Each registered check is executed or skipped. -/
theorem Kept.exact_result (h : Kept fingerprint pre done state)
    (hpre : ∀ checkId ∈ pre, ∃ analyzer ∈ done, checkId ∈ analyzer.checks) (checkId : PyText) :
    checkId ∈ (state.result fingerprint).executedChecks ∨
        checkId ∈ (state.result fingerprint).skippedChecks.map SkippedCheck.checkId ↔
      ∃ analyzer ∈ done, checkId ∈ analyzer.checks := by
  rw [(skippedIds_result h.keyed).mem_iff, mem_executed_result]
  constructor
  · rintro (hmem | hmem)
    · exact h.executed_owned checkId hmem
    · exact (h.skipped_owned checkId hmem).elim (hpre checkId) id
  · rintro ⟨analyzer, hanalyzer, hmem⟩
    exact h.accounted analyzer hanalyzer checkId hmem

theorem Kept.distinct_result (h : Kept fingerprint pre done state) :
    ((state.result fingerprint).findings.map fingerprint).Nodup := by
  have hperm := (perm_insertionSort (fun a b => fingerprint a ≤ fingerprint b)
    state.findings).map fingerprint
  refine hperm.nodup_iff.mpr ?_
  rw [← h.fingerprints]
  exact h.distinct

end

variable (fingerprint) in
/-- What holds of the result of a pipeline. -/
structure Covers (registry : List AnalyzerFields) (pre : List SkippedCheck)
    (result : AnalyzerPipelineResult) : Prop where
  disjoint : ∀ checkId ∈ result.executedChecks,
    checkId ∉ result.skippedChecks.map SkippedCheck.checkId
  exact : ∀ checkId, checkId ∈ result.executedChecks ∨
    checkId ∈ result.skippedChecks.map SkippedCheck.checkId ↔
      ∃ analyzer ∈ registry, checkId ∈ analyzer.checks
  findings : ∀ finding ∈ result.findings, ∃ analyzer ∈ registry,
    Emitted (pre.map SkippedCheck.checkId) result.executedChecks analyzer finding
  distinct : (result.findings.map fingerprint).Nodup
  ordered : result.findings.Pairwise fun a b => fingerprint a ≤ fingerprint b
  coverage : (∀ analyzer ∈ registry, ∀ checkId ∈ analyzer.checks, isRuleId checkId = true) →
    ∀ attempted succeeded : Int, 0 ≤ succeeded → succeeded ≤ attempted →
      ∃ all coverage, registeredChecks registry = .ok all ∧
        ScanCoverage.postInit ⟨all, result.executedChecks, result.skippedChecks, attempted,
          succeeded⟩ = .ok coverage ∧ coverage.unaccountedChecks = []

/-- The fields of the analysers of a registry. -/
def fieldsOf (registry : List PassiveAnalyzer) : List AnalyzerFields :=
  registry.map PassiveAnalyzer.toAnalyzerFields

/-- **The checks of a pipeline are executed or skipped, and its findings are of analysers that ran.** -/
theorem analyzer_coverage {registry : List PassiveAnalyzer} {pre : List SkippedCheck}
    {result : AnalyzerPipelineResult}
    (h : executeAnalyzers fingerprint (fieldsOf registry) pre = .ok result) :
    Covers fingerprint (fieldsOf registry) pre result := by
  unfold executeAnalyzers at h
  obtain ⟨valid, hvalid, h⟩ := bind_ok h
  obtain ⟨heq, hnodup⟩ := validateRegistry_eq_ok hvalid
  rw [heq] at h
  obtain ⟨all, hall, h⟩ := bind_ok h
  obtain ⟨skipped, hskipped, h⟩ := bind_ok h
  obtain ⟨state, hstate, h⟩ := bind_ok h
  cases h
  obtain ⟨-, -, hmemAll⟩ := registeredChecks_eq_ok hall
  obtain ⟨hkeyed, hpre, hregistered⟩ := preSkips_eq_ok hskipped
  have hids : ∀ analyzer ∈ fieldsOf registry, ∀ checkId ∈ analyzer.checks, IsCheckId checkId := by
    intro analyzer hanalyzer
    obtain ⟨passive, -, rfl⟩ := mem_map.mp hanalyzer
    exact passive.isCheckId
  have hkept := kept_of_run hids hnodup hkeyed hpre hstate
  have hexact := hkept.exact_result fun checkId hmem => by
    obtain ⟨item, hitem, rfl⟩ := mem_map.mp hmem
    exact (hmemAll item.checkId).mp (hregistered item hitem)
  refine ⟨hkept.disjoint_result, hexact, fun finding hmem => ?_, hkept.distinct_result,
    pairwise_insertionSort _ _, fun hshape attempted succeeded hpositive hle => ?_⟩
  · obtain ⟨analyzer, hanalyzer, hemitted⟩ :=
      hkept.emitted finding ((mem_insertionSort _).mp hmem)
    exact ⟨analyzer, hanalyzer, hemitted.mono fun checkId => mem_executed_result.mpr⟩
  · have hall' : ∀ checkId ∈ all, IsCheckId checkId ∧ isRuleId checkId = true := by
      intro checkId hmem
      obtain ⟨analyzer, hanalyzer, hcheck⟩ := (hmemAll checkId).mp hmem
      exact ⟨hids analyzer hanalyzer checkId hcheck, hshape analyzer hanalyzer checkId hcheck⟩
    have hskippedNodup := (@skippedIds_result fingerprint state hkept.keyed).nodup_iff.mpr
      hkept.keyed.nodup
    obtain ⟨coverage, haccepted, haccounted⟩ := coverage_accepted (fun checkId hmem =>
      (hall' checkId hmem).1) (fun checkId hmem => (hall' checkId hmem).2) hskippedNodup
      hkept.disjoint_result (fun checkId => (hexact checkId).trans (hmemAll checkId).symm)
      hpositive hle
    exact ⟨all, coverage, hall, haccepted, haccounted⟩

end

def sharedAnalyzer : @PassiveAnalyzer asciiLower :=
  letI := asciiLower
  let fields : AnalyzerFields :=
    { analyzerId := ofString "one"
      checks := [ofString "web.test.one"]
      findingNamespace := ofString "web.test"
      analyze := .returned [some (sampleFinding
        { FindingContract.sampleIdentity [47] with ruleId := ofString "web.test.shared.issue" })] }
  ⟨fields, fields, by decide⟩

def failingAnalyzer : @PassiveAnalyzer asciiLower :=
  letI := asciiLower
  let fields : AnalyzerFields :=
    { analyzerId := ofString "two"
      checks := [ofString "web.test.two"]
      findingNamespace := ofString "web.test"
      analyze := .controlled (some (ofString "validated_target_mismatch"))
        (some (ofString "Controlled failure.")) }
  ⟨fields, fields, by decide⟩

def sampleRun : Except PipelineFailure AnalyzerPipelineResult :=
  letI := asciiLower
  letI := asciiTables
  executeAnalyzers (fun finding => finding.identity.ruleId)
    (fieldsOf [sharedAnalyzer, failingAnalyzer]) []

theorem analyzer_coverage_sample :
    letI := asciiLower
    letI := asciiTables
    ∃ result, sampleRun = .ok result ∧
      Covers (fun finding => finding.identity.ruleId)
        (fieldsOf [sharedAnalyzer, failingAnalyzer]) [] result := by
  let _ := asciiLower
  let _ := asciiTables
  have hok : sampleRun.isOk = true := by decide +kernel
  obtain ⟨result, hresult⟩ := exists_ok_of_isOk hok
  exact ⟨result, hresult, analyzer_coverage hresult⟩

/-- **A finding need not belong to a check that was executed.** -/
theorem finding_of_no_check :
    ∃ result, sampleRun = .ok result ∧ ¬∀ finding ∈ result.findings,
      ∃ checkId ∈ result.executedChecks, belongsTo checkId finding.identity.ruleId = true := by
  have hok : sampleRun.isOk = true := by decide +kernel
  obtain ⟨result, hresult⟩ := exists_ok_of_isOk hok
  refine ⟨result, hresult, fun hall => ?_⟩
  have hfalse : (sampleRun.toOption.all fun result => result.findings.all fun finding =>
      result.executedChecks.any (belongsTo · finding.identity.ruleId)) = false := by
    decide +kernel
  rw [hresult] at hfalse
  simp only [Except.toOption, Option.all_some, all_eq_false, any_eq_true] at hfalse
  obtain ⟨finding, hmem, hnone⟩ := hfalse
  obtain ⟨checkId, hcheck, hbelongs⟩ := hall finding hmem
  exact hnone ⟨checkId, hcheck, hbelongs⟩

def underscoreAnalyzer : @PassiveAnalyzer asciiLower :=
  letI := asciiLower
  let fields : AnalyzerFields :=
    { analyzerId := ofString "one"
      checks := [ofString "web.test_"]
      findingNamespace := ofString "web"
      analyze := .returned [] }
  ⟨fields, fields, by decide⟩

def underscoreRun : Except PipelineFailure AnalyzerPipelineResult :=
  letI := asciiLower
  letI := asciiTables
  executeAnalyzers (fun finding => finding.identity.ruleId) (fieldsOf [underscoreAnalyzer]) []

/-- **A coverage is refused** for a check whose identifier the contract does not take. -/
theorem coverage_of_underscore :
    letI := asciiLower
    ∃ result, underscoreRun = .ok result ∧
      (ScanCoverage.postInit ⟨[ofString "web.test_"], result.executedChecks, result.skippedChecks,
        0, 0⟩).isOk = false := by
  let _ := asciiLower
  have hok : underscoreRun.isOk = true := by decide
  obtain ⟨result, hresult⟩ := exists_ok_of_isOk hok
  refine ⟨result, hresult, ?_⟩
  have hrefused : (underscoreRun.toOption.any fun result => (ScanCoverage.postInit
      ⟨[ofString "web.test_"], result.executedChecks, result.skippedChecks, 0, 0⟩).isOk) = false := by
    decide
  rwa [hresult] at hrefused

end WebGuard.Analyzers
