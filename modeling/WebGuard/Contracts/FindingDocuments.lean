import WebGuard.Contracts.FindingLoader
import WebGuard.Contracts.PermitDocuments

/-!
# What a stored finding is read as

Every text of a finding was stripped and checked when the finding was made, so most fields pass
their checks again as they are. The checks look at the length before they change the case, so those
of the fields that are put into another case pass only if they did not become too long.
-/

namespace WebGuard.FindingContract

open PyJson UrlParse StandardLibrary Atomic List LowerTable UnicodeTables
open ScanPermits (sortedSet textList member Interpreter)

/-! ## Texts -/

/-- What is documented of the two cases: a text keeps its case, its edges and its null bytes. -/
structure CaseLaws [LowerTable] [UnicodeTables] : Prop where
  lower_lower : ∀ text, lower (lower text) = lower text
  upper_upper : ∀ text, upper (upper text) = upper text
  lower_edges : ∀ text, stripText text = text →
    stripText (lower text) = lower text
  upper_edges : ∀ text, stripText text = text →
    stripText (upper text) = upper text
  lower_plain : ∀ text, text ≠ [] → 0 ∉ text → lower text ≠ [] ∧ 0 ∉ lower text
  upper_plain : ∀ text, text ≠ [] → 0 ∉ text →
    upper text ≠ [] ∧ 0 ∉ upper text

theorem stripText_stripText (text : PyText) : stripText (stripText text) = stripText text := by
  have hrdrop : ∀ t : PyText, (t.reverse.dropWhile fun n => isSpace (asChar n)).reverse =
      t.rdropWhile fun n => isSpace (asChar n) := fun _ => rfl
  have hstrip : ∀ t : PyText, stripText t =
      (t.dropWhile fun n => isSpace (asChar n)).rdropWhile fun n => isSpace (asChar n) := fun _ => rfl
  have hhead : (stripText text).dropWhile (fun n => isSpace (asChar n)) = stripText text := by
    rw [dropWhile_eq_self_iff]
    intro hpos
    have hbefore : stripText text <+: text.dropWhile fun n => isSpace (asChar n) :=
      rdropWhile_prefix _ _
    rw [hbefore.getElem hpos]
    exact dropWhile_get_zero_not _ text (lt_of_lt_of_le hpos hbefore.length_le)
  rw [hstrip (stripText text), hhead, hstrip, rdropWhile_idempotent]

/-- A text that passed `_text`, but for its length. -/
structure Plain (text : PyText) : Prop where
  edges : stripText text = text
  nonempty : text ≠ []
  noNull : 0 ∉ text

variable {text stored raw : PyText} {maximum : Nat} {name : String} {finding : NormalizedFinding}

/-- What `_bounded_text` accepts is stripped, not empty and short enough. -/
theorem boundedText_eq_ok {value : PyText} :
    boundedText value name maximum = .ok text ↔
      text = stripText value ∧ Plain text ∧ text.length ≤ maximum := by
  unfold boundedText
  simp only [bind_ok_iff, require_eq_ok]
  constructor
  · rintro ⟨_, hcheck, h⟩
    cases h
    simp only [Bool.and_eq_true, Bool.not_eq_true', decide_eq_true_eq, isEmpty_eq_false_iff]
      at hcheck
    exact ⟨rfl, ⟨stripText_stripText value, hcheck.1.1, by simpa using hcheck.2⟩, hcheck.1.2⟩
  · rintro ⟨rfl, hplain, hlength⟩
    exact ⟨(), by simp [hplain.nonempty, hlength, hplain.noNull], rfl⟩

theorem Plain.bounded (h : Plain text) (name : String) :
    boundedText text name maximum = .ok text ↔ text.length ≤ maximum := by
  rw [boundedText_eq_ok, h.edges]
  exact ⟨fun h => h.2.2, fun hlength => ⟨rfl, h, hlength⟩⟩

theorem Plain.length_le (h : Plain text) (hbounded : boundedText text name maximum = .ok stored) :
    text.length ≤ maximum := by
  obtain ⟨rfl, -, hlength⟩ := boundedText_eq_ok.mp hbounded
  rwa [h.edges] at hlength

/-- A stored text is stored unchanged. -/
theorem bounded_again {value : PyText} (h : boundedText value name maximum = .ok text) :
    boundedText text name maximum = .ok text := by
  obtain ⟨-, hplain, hlength⟩ := boundedText_eq_ok.mp h
  exact (hplain.bounded name).mpr hlength

theorem optionalBounded_again {value text : Option PyText}
    (h : optionalBounded value name maximum = .ok text) :
    optionalBounded text name maximum = .ok text := by
  cases value with
  | none =>
    cases h
    rfl
  | some value =>
    cases hbounded : boundedText value name maximum with
    | error e => simp [optionalBounded, hbounded, Except.map] at h
    | ok stored =>
      simp only [optionalBounded, hbounded, Except.map, Except.ok.injEq] at h
      subst h
      simp [optionalBounded, bounded_again hbounded, Except.map]

variable [LowerTable] [StandardLibrary] [UnicodeTables]

section

omit [StandardLibrary]

theorem Plain.lower (laws : CaseLaws) (h : Plain text) : Plain (lower text) :=
  ⟨laws.lower_edges _ h.edges, (laws.lower_plain _ h.nonempty h.noNull).1,
    (laws.lower_plain _ h.nonempty h.noNull).2⟩

theorem Plain.upper (laws : CaseLaws) (h : Plain text) : Plain (upper text) :=
  ⟨laws.upper_edges _ h.edges, (laws.upper_plain _ h.nonempty h.noNull).1,
    (laws.upper_plain _ h.nonempty h.noNull).2⟩

/-! ## Fields that are put into another case -/

theorem ruleIdField_plain (laws : CaseLaws) (h : ruleIdField raw = .ok stored) : Plain stored := by
  obtain ⟨text, htext, h⟩ := bind_ok h
  obtain ⟨_, -, h⟩ := bind_ok h
  cases h
  exact (boundedText_eq_ok.mp htext).2.1.lower laws

/-- Lowering can make a rule longer than the limit that was checked before. -/
theorem ruleIdField_stored (laws : CaseLaws) (h : ruleIdField raw = .ok stored) :
    ruleIdField stored = .ok stored ↔ stored.length ≤ 128 := by
  have hplain := ruleIdField_plain laws h
  obtain ⟨text, htext, h⟩ := bind_ok h
  obtain ⟨_, hrule, h⟩ := bind_ok h
  cases h
  unfold ruleIdField
  rw [bind_ok_iff]
  constructor
  · rintro ⟨again, hagain, -⟩
    exact hplain.length_le hagain
  · intro hlength
    refine ⟨_, (hplain.bounded "rule_id").mpr hlength, ?_⟩
    rw [laws.lower_lower, bind_ok_iff]
    exact ⟨(), hrule, rfl⟩

theorem methodField_plain (laws : CaseLaws) (h : methodField raw = .ok stored) : Plain stored := by
  obtain ⟨text, htext, h⟩ := bind_ok h
  obtain ⟨_, -, h⟩ := bind_ok h
  cases h
  exact (boundedText_eq_ok.mp htext).2.1.upper laws

theorem methodField_stored (laws : CaseLaws) (h : methodField raw = .ok stored) :
    methodField stored = .ok stored ↔ stored.length ≤ 32 := by
  have hplain := methodField_plain laws h
  obtain ⟨text, htext, h⟩ := bind_ok h
  obtain ⟨_, hmethod, h⟩ := bind_ok h
  cases h
  unfold methodField
  rw [bind_ok_iff]
  constructor
  · rintro ⟨again, hagain, -⟩
    exact hplain.length_le hagain
  · intro hlength
    refine ⟨_, (hplain.bounded "method").mpr hlength, ?_⟩
    rw [laws.upper_upper, bind_ok_iff]
    exact ⟨(), hmethod, rfl⟩

theorem loweredField_plain (laws : CaseLaws)
    (h : (boundedText raw name maximum >>= fun text => pure (lower text)) = .ok stored) :
    Plain stored := by
  obtain ⟨text, htext, h⟩ := bind_ok h
  cases h
  exact (boundedText_eq_ok.mp htext).2.1.lower laws

theorem loweredField_stored (laws : CaseLaws)
    (h : (boundedText raw name maximum >>= fun text => pure (lower text)) = .ok stored) :
    (boundedText stored name maximum >>= fun text => pure (lower text)) = .ok stored ↔
      stored.length ≤ maximum := by
  have hplain := loweredField_plain laws h
  obtain ⟨text, htext, h⟩ := bind_ok h
  cases h
  rw [bind_ok_iff]
  constructor
  · rintro ⟨again, hagain, -⟩
    exact hplain.length_le hagain
  · intro hlength
    exact ⟨_, (hplain.bounded name).mpr hlength, by rw [laws.lower_lower]; rfl⟩

end

omit [LowerTable] [UnicodeTables] in
theorem pathField_again (h : pathField raw = .ok stored) : pathField stored = .ok stored := by
  unfold pathField at h ⊢
  obtain ⟨text, htext, h⟩ := bind_ok h
  obtain ⟨_, hroot, h⟩ := bind_ok h
  rw [bind_ok_iff]
  split at h
  · cases h
  next parsed hparsed =>
  obtain ⟨_, hparts, h⟩ := bind_ok h
  cases h
  refine ⟨_, bounded_again htext, bind_ok_iff.mpr ⟨(), hroot, ?_⟩⟩
  simp only [hparsed]
  exact bind_ok_iff.mpr ⟨(), hparts, rfl⟩

/-! ## Stored values -/

/-- The constructor of an identity, field by field. -/
theorem identity_postInit_eq_ok {raw identity : FindingIdentity} :
    raw.postInit = .ok identity ↔
      ruleIdField raw.ruleId = .ok identity.ruleId ∧ assetField raw.asset = .ok identity.asset ∧
      pathField raw.path = .ok identity.path ∧ methodField raw.method = .ok identity.method ∧
      optionalBounded raw.parameter "parameter" 512 = .ok identity.parameter := by
  unfold FindingIdentity.postInit
  simp only [bind_ok_iff]
  constructor
  · rintro ⟨_, hrule, _, hasset, _, hpath, _, hmethod, _, hparameter, h⟩
    cases h
    exact ⟨hrule, hasset, hpath, hmethod, hparameter⟩
  · rintro ⟨hrule, hasset, hpath, hmethod, hparameter⟩
    exact ⟨_, hrule, _, hasset, _, hpath, _, hmethod, _, hparameter, rfl⟩

/-- A stored identity passes again exactly if its changed texts still fit. -/
theorem identity_stored (laws : CaseLaws) {raw identity : FindingIdentity}
    (h : raw.postInit = .ok identity) :
    identity.postInit = .ok identity ↔ identity.ruleId.length ≤ 128 ∧
      assetField identity.asset = .ok identity.asset ∧ identity.method.length ≤ 32 := by
  obtain ⟨hrule, -, hpath, hmethod, hparameter⟩ := identity_postInit_eq_ok.mp h
  rw [identity_postInit_eq_ok, ruleIdField_stored laws hrule, methodField_stored laws hmethod]
  simp only [pathField_again hpath, optionalBounded_again hparameter, and_true, true_and]

section

omit [LowerTable] [StandardLibrary]

variable {raw identifier : ExternalIdentifier}

theorem identifier_plain [LowerTable] (laws : CaseLaws) (h : raw.postInit = .ok identifier) :
    Plain identifier.nameSpace := by
  unfold ExternalIdentifier.postInit at h
  obtain ⟨text, htext, h⟩ := bind_ok h
  obtain ⟨value, -, h⟩ := bind_ok h
  cases h
  exact (boundedText_eq_ok.mp htext).2.1.upper laws

theorem identifier_stored [LowerTable] (laws : CaseLaws) (h : raw.postInit = .ok identifier) :
    identifier.postInit = .ok identifier ↔ identifier.nameSpace.length ≤ 32 := by
  have hplain := identifier_plain laws h
  unfold ExternalIdentifier.postInit at h ⊢
  obtain ⟨text, htext, h⟩ := bind_ok h
  obtain ⟨value, hvalue, h⟩ := bind_ok h
  cases h
  rw [bind_ok_iff]
  constructor
  · rintro ⟨again, hagain, -⟩
    exact hplain.length_le hagain
  · intro hlength
    refine ⟨_, (hplain.bounded "identifier_namespace").mpr hlength, ?_⟩
    exact bind_ok_iff.mpr ⟨_, bounded_again hvalue, by rw [laws.upper_upper]; rfl⟩

omit [UnicodeTables] in
/-- Stored evidence always passes again. -/
theorem evidence_stored {raw evidence : Evidence} (h : raw.postInit = .ok evidence) :
    evidence.postInit = .ok evidence := by
  unfold Evidence.postInit at h ⊢
  obtain ⟨summary, hsummary, h⟩ := bind_ok h
  obtain ⟨reference, hreference, h⟩ := bind_ok h
  cases h
  exact bind_ok_iff.mpr ⟨_, bounded_again hsummary,
    bind_ok_iff.mpr ⟨_, optionalBounded_again hreference, rfl⟩⟩

end

/-! ## Sorted collections -/

section

omit [LowerTable] [StandardLibrary] [UnicodeTables]

theorem mem_sortedSet {texts : List PyText} : text ∈ sortedSet texts ↔ text ∈ texts := by
  unfold ScanPermits.sortedSet
  rw [mem_insertionSort, mem_dedup]

theorem sortedSet_sortedSet (texts : List PyText) :
    sortedSet (sortedSet texts) = sortedSet texts := by
  obtain ⟨hnodup, hsorted⟩ := ScanPermits.sortedSet_spec texts
  exact ScanPermits.sortedSet_of_sorted hnodup hsorted

instance : Std.Total (fun a b : ExternalIdentifier => a.le b = true) where
  total a b := by
    simp only [ExternalIdentifier.le, Bool.or_eq_true, Bool.and_eq_true, decide_eq_true_eq]
    rcases lt_trichotomy a.nameSpace b.nameSpace with h | h | h
    · exact Or.inl (Or.inl h)
    · rcases le_total a.value b.value with hvalue | hvalue
      · exact Or.inl (Or.inr ⟨h, hvalue⟩)
      · exact Or.inr (Or.inr ⟨h.symm, hvalue⟩)
    · exact Or.inr (Or.inl h)

instance : IsTrans ExternalIdentifier (fun a b => a.le b = true) where
  trans a b c hab hbc := by
    simp only [ExternalIdentifier.le, Bool.or_eq_true, Bool.and_eq_true, decide_eq_true_eq] at *
    rcases hab with hab | ⟨hab, hvalue⟩
    · rcases hbc with hbc | ⟨hbc, -⟩
      · exact Or.inl (lt_trans hab hbc)
      · exact Or.inl (hbc ▸ hab)
    · rcases hbc with hbc | ⟨hbc, hvalue'⟩
      · exact Or.inl (hab ▸ hbc)
      · exact Or.inr ⟨hab.trans hbc, le_trans hvalue hvalue'⟩

theorem sortedIdentifiers_again (identifiers : List ExternalIdentifier) :
    sortedIdentifiers (sortedIdentifiers identifiers) = sortedIdentifiers identifiers := by
  have hperm := perm_insertionSort (fun a b : ExternalIdentifier => a.le b = true)
    identifiers.dedup
  have hnodup : (sortedIdentifiers identifiers).Nodup :=
    hperm.nodup_iff.mpr (nodup_dedup identifiers)
  have hsorted : (sortedIdentifiers identifiers).Pairwise fun a b => a.le b = true :=
    pairwise_insertionSort _ _
  conv_lhs => rw [sortedIdentifiers, hnodup.dedup]
  exact hsorted.insertionSort_eq

end

/-! ## The finding -/

omit [UnicodeTables] in
/-- The constructor of a finding, field by field. -/
theorem finding_postInit_eq_ok {raw : NormalizedFinding} :
    raw.postInit = .ok finding ↔
      ∃ references tags, raw.references.mapM (boundedText · "reference" 2048) = .ok references ∧
        raw.tags.mapM tagField = .ok tags ∧
        ((sortedIdentifiers raw.identifiers).length ≤ 64 ∧ raw.evidence.length ≤ 32 ∧
          (sortedSet references).length ≤ 64 ∧ (sortedSet tags).length ≤ 64) ∧
        (sortedSet references).forM checkReference = .ok () ∧
        sourceField raw.source = .ok finding.source ∧
        optionalBounded raw.sourceRuleId "source_rule_id" 256 = .ok finding.sourceRuleId ∧
        boundedText raw.title "title" 256 = .ok finding.title ∧
        boundedText raw.description "description" 16384 = .ok finding.description ∧
        boundedText raw.remediation "remediation" 16384 = .ok finding.remediation ∧
        finding = { raw with
          source := finding.source
          sourceRuleId := finding.sourceRuleId
          title := finding.title
          description := finding.description
          remediation := finding.remediation
          identifiers := sortedIdentifiers raw.identifiers
          references := sortedSet references
          tags := sortedSet tags } := by
  unfold NormalizedFinding.postInit
  simp only [bind_ok_iff, require_eq_ok, Bool.and_eq_true, decide_eq_true_eq]
  constructor
  · rintro ⟨references, hreferences, tags, htags, _, hsizes, _, hchecks, _, hsource, _, hrule, _,
      htitle, _, hdescription, _, hremediation, h⟩
    cases h
    exact ⟨references, tags, hreferences, htags,
      ⟨hsizes.1.1.1, hsizes.1.1.2, hsizes.1.2, hsizes.2⟩, hchecks, hsource, hrule, htitle,
      hdescription, hremediation, rfl⟩
  · rintro ⟨references, tags, hreferences, htags, ⟨hidentifiers, hevidence, hr, ht⟩, hchecks, hsource,
      hrule, htitle, hdescription, hremediation, heq⟩
    refine ⟨references, hreferences, tags, htags, (), ⟨⟨⟨hidentifiers, hevidence⟩, hr⟩, ht⟩, (),
      hchecks, _, hsource, _, hrule, _, htitle, _, hdescription, _, hremediation, ?_⟩
    rw [heq]
    rfl

/-- A finding that was made by the constructors. -/
structure Stored (finding : NormalizedFinding) : Prop where
  identity : ∃ raw : FindingIdentity, raw.postInit = .ok finding.identity
  identifiers : ∀ identifier ∈ finding.identifiers,
    ∃ raw : ExternalIdentifier, raw.postInit = .ok identifier
  evidence : ∀ evidence ∈ finding.evidence, ∃ raw : Evidence, raw.postInit = .ok evidence
  made : ∃ raw : NormalizedFinding, raw.postInit = .ok finding
  detectedAt : finding.detectedAt < datetimeEnd

/-- The fields that may fail the checks they have passed. -/
structure Fitting (finding : NormalizedFinding) : Prop where
  ruleId : finding.identity.ruleId.length ≤ 128
  asset : assetField finding.identity.asset = .ok finding.identity.asset
  method : finding.identity.method.length ≤ 32
  source : finding.source.length ≤ 128
  nameSpaces : ∀ identifier ∈ finding.identifiers, identifier.nameSpace.length ≤ 32
  tags : ∀ tag ∈ finding.tags, tag.length ≤ 64

/-- The constructors, given a stored finding. -/
def NormalizedFinding.again (finding : NormalizedFinding) : Checked NormalizedFinding := do
  let identifiers ← finding.identifiers.mapM ExternalIdentifier.postInit
  let evidence ← finding.evidence.mapM Evidence.postInit
  let identity ← finding.identity.postInit
  NormalizedFinding.postInit { finding with identity, identifiers, evidence }

omit [StandardLibrary] in
theorem tag_stored (laws : CaseLaws) (h : tagField raw = .ok stored) :
    tagField stored = .ok stored ↔ stored.length ≤ 64 := loweredField_stored laws h

theorem Stored.tag {finding : NormalizedFinding} (h : Stored finding) {tag : PyText}
    (htag : tag ∈ finding.tags) : ∃ raw, tagField raw = .ok tag := by
  obtain ⟨raw, hraw⟩ := h.made
  obtain ⟨references, tags, -, htags, -, -, -, -, -, -, -, heq⟩ := finding_postInit_eq_ok.mp hraw
  rw [heq] at htag
  obtain ⟨a, -, ha⟩ := exists_of_mapM htags tag (mem_sortedSet.mp htag)
  exact ⟨a, ha⟩

/-- A stored finding that fits is made again unchanged. -/
theorem again_of_fitting (laws : CaseLaws) (h : Stored finding) (hfitting : Fitting finding) :
    finding.again = .ok finding := by
  obtain ⟨rawIdentity, hidentity⟩ := h.identity
  obtain ⟨raw, hraw⟩ := h.made
  obtain ⟨references, tags, hreferences, htags, hsizes, hchecks, hsource, hrule, htitle,
    hdescription, hremediation, heq⟩ := finding_postInit_eq_ok.mp hraw
  have hidentifiers : finding.identifiers.mapM ExternalIdentifier.postInit =
      .ok finding.identifiers := mapM_eq_self fun identifier hmem => by
    obtain ⟨raw, hraw⟩ := h.identifiers identifier hmem
    exact (identifier_stored laws hraw).mpr (hfitting.nameSpaces identifier hmem)
  have hevidence : finding.evidence.mapM Evidence.postInit = .ok finding.evidence :=
    mapM_eq_self fun evidence hmem => by
      obtain ⟨raw, hraw⟩ := h.evidence evidence hmem
      exact evidence_stored hraw
  have hagain := (identity_stored laws hidentity).mpr
    ⟨hfitting.ruleId, hfitting.asset, hfitting.method⟩
  have href : finding.references = sortedSet references := by rw [heq]
  have htag : finding.tags = sortedSet tags := by rw [heq]
  have hids : finding.identifiers = sortedIdentifiers raw.identifiers := by rw [heq]
  have hevi : finding.evidence = raw.evidence := by rw [heq]
  unfold NormalizedFinding.again
  rw [bind_ok_iff]
  refine ⟨_, hidentifiers, bind_ok_iff.mpr ⟨_, hevidence, bind_ok_iff.mpr
    ⟨_, hagain, finding_postInit_eq_ok.mpr ⟨finding.references, finding.tags, ?_, ?_, ?_, ?_, ?_, ?_,
      bounded_again htitle, bounded_again hdescription, bounded_again hremediation, ?_⟩⟩⟩⟩
  · refine mapM_eq_self fun reference hmem => ?_
    rw [href, mem_sortedSet] at hmem
    obtain ⟨a, -, ha⟩ := exists_of_mapM hreferences reference hmem
    exact bounded_again ha
  · refine mapM_eq_self fun tag hmem => ?_
    obtain ⟨a, ha⟩ := h.tag hmem
    exact (tag_stored laws ha).mpr (hfitting.tags tag hmem)
  · rw [href, htag, sortedSet_sortedSet, sortedSet_sortedSet, hids, sortedIdentifiers_again, hevi]
    exact hsizes
  · rw [href, sortedSet_sortedSet]
    exact hchecks
  · exact (loweredField_stored laws hsource).mpr hfitting.source
  · exact optionalBounded_again hrule
  · have hreferences' : sortedSet finding.references = finding.references := by
      rw [href, sortedSet_sortedSet]
    have htags' : sortedSet finding.tags = finding.tags := by rw [htag, sortedSet_sortedSet]
    have hidentifiers' : sortedIdentifiers finding.identifiers = finding.identifiers := by
      rw [hids, sortedIdentifiers_again]
    rw [hreferences', htags', hidentifiers']

/-- And one that is made again with the same asset fits. -/
theorem fitting_of_again (laws : CaseLaws) {again : NormalizedFinding} (h : Stored finding)
    (hagain : finding.again = .ok again) (hasset : again.identity.asset = finding.identity.asset) :
    Fitting finding := by
  obtain ⟨identifiers, hidentifiers, hrest⟩ := bind_ok hagain
  obtain ⟨evidence, -, hrest⟩ := bind_ok hrest
  obtain ⟨identity, hidentity, hfinding⟩ := bind_ok hrest
  obtain ⟨references, tags, -, htags, -, -, hsource, -, -, -, -, heq⟩ :=
    finding_postInit_eq_ok.mp hfinding
  obtain ⟨hrule, hasset', -, hmethod, -⟩ := identity_postInit_eq_ok.mp hidentity
  have hsame : again.identity = identity := by rw [heq]
  rw [hsame] at hasset
  obtain ⟨rawIdentity, hrawIdentity⟩ := h.identity
  obtain ⟨hrawRule, -, -, hrawMethod, -⟩ := identity_postInit_eq_ok.mp hrawIdentity
  obtain ⟨raw, hraw⟩ := h.made
  obtain ⟨-, -, -, -, -, -, hrawSource, -⟩ := finding_postInit_eq_ok.mp hraw
  refine ⟨?_, ?_, ?_, ?_, fun identifier hmem => ?_, fun tag hmem => ?_⟩
  · obtain ⟨text, htext, -⟩ := bind_ok hrule
    exact (ruleIdField_plain laws hrawRule).length_le htext
  · rwa [hasset] at hasset'
  · obtain ⟨text, htext, -⟩ := bind_ok hmethod
    exact (methodField_plain laws hrawMethod).length_le htext
  · obtain ⟨text, htext, -⟩ := bind_ok hsource
    exact (loweredField_plain laws hrawSource).length_le htext
  · obtain ⟨raw, hraw⟩ := h.identifiers identifier hmem
    obtain ⟨made, hmade⟩ := exists_mapM_ok_iff.mp ⟨_, hidentifiers⟩ identifier hmem
    obtain ⟨text, htext, -⟩ := bind_ok hmade
    exact (identifier_plain laws hraw).length_le htext
  · obtain ⟨raw, hraw⟩ := h.tag hmem
    obtain ⟨made, hmade⟩ := exists_mapM_ok_iff.mp ⟨_, htags⟩ tag hmem
    obtain ⟨text, htext, -⟩ := bind_ok hmade
    exact (loweredField_plain laws hraw).length_le htext

end WebGuard.FindingContract
