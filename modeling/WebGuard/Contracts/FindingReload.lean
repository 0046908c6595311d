import WebGuard.Contracts.FindingDocuments
import WebGuard.Contracts.TimestampOrder

/-!
# A written finding, read

The loader reads each member by its name, so the order of the keys does not matter to it: the document
of a stored finding gives the stored fields to the constructors again (`buildFinding_spelled`), and is
loaded exactly if the fields fit (`loadFinding_spelled`). It can be read back from a text if its texts
can be encoded (`reloadFinding_eq_some`).
-/

namespace WebGuard.FindingContract

open PyJson UrlParse StandardLibrary Atomic NormalizedFinding List Char
open ScanPermits (sortedSet textList member member_cons member_spelled Interpreter)

/-- `fromisoformat` reads what `isoformat` writes. -/
def ReadsTimes [TimeReader] : Prop :=
  ∀ t, t < datetimeEnd → TimeReader.fromIsoFormat (ofString (isoformat t)) = some (.aware t)

variable {α : Type} {finding : NormalizedFinding} {fingerprint : PyText}

section

variable {φ : Type}

/-! ## Members by their names -/

variable {members : List (PyText × Json PyText φ)}

/-- The order of the keys does not matter. -/
theorem strictObject_of_perm {expected : List PyText} (h : (members.map Prod.fst).Perm expected)
    (path : String) : strictObject (.obj members) path expected = .ok members := by
  have hmissing : expected.filter (!(members.map Prod.fst).contains ·) = [] := by
    rw [filter_eq_nil_iff]
    intro key hkey
    simpa using h.mem_iff.mpr hkey
  have hunexpected : (members.map Prod.fst).filter (!expected.contains ·) = [] := by
    rw [filter_eq_nil_iff]
    intro key hkey
    simpa using h.mem_iff.mp hkey
  have hnil : (sortedSet []).isEmpty = true := rfl
  unfold strictObject
  simp only [hmissing, hunexpected, hnil, Bool.and_self, if_true]

variable (σ : Spelling φ)

/-- Nor does the spelling of the document. -/
theorem strictObject_spelled {expected : List PyText}
    (h : members.map Prod.fst = expected) (path : String) :
    strictObject (σ.value (.obj members)) path expected = .ok (σ.members members) := by
  rw [σ.obj]
  exact strictObject_of_perm (h ▸ σ.keys members) path

/-- A list of written items is loaded item by item. -/
theorem eachItem_map {β : Type} {load : Json PyText φ → String → Checked β} {f : α → Checked β}
    {write : α → Json PyText φ} (h : ∀ a path, load (write a) path = f a) (path : String)
    (items : List α) (index : Nat) : eachItem load path index (items.map write) = items.mapM f := by
  induction items generalizing index with
  | nil => rfl
  | cons a rest ih => rw [map_cons, eachItem, h, ih, mapM_cons]

theorem reportTextList_textList (texts : List PyText) (path : String) :
    reportTextList (φ := φ) (textList texts) path = .ok texts := by
  have h : eachItem reportText path 0 (texts.map (Json.str (φ := φ))) = texts.mapM .ok :=
    eachItem_map (fun _ _ => rfl) path texts 0
  rw [mapM_eq_self fun _ _ => rfl] at h
  exact h

theorem spelled_nullable (value : Option PyText) :
    σ.value (nullable value) = nullable value := by
  cases value with
  | none => exact σ.null
  | some text => exact σ.str text

theorem spelled_textList (texts : List PyText) :
    σ.value (textList texts) = textList texts := by
  rw [textList, σ.arr, map_map]
  exact congrArg Json.arr (map_congr_left fun text _ => σ.str text)

theorem reportOptionalText_nullable (value : Option PyText) (path : String) :
    reportOptionalText (φ := φ) (nullable value) path = .ok value := by
  cases value <;> rfl

/-- A member of an enumeration is read back from its value. -/
theorem reportEnum_value [UnicodeTables] {all : List α} {valueOf : α → PyText} {a : α}
    (hmem : a ∈ all) (hinjective : ∀ b ∈ all, valueOf b = valueOf a → b = a) (path : String) :
    reportEnum all valueOf (Json.str (φ := φ) (valueOf a)) path = .ok a := by
  obtain ⟨b, hfind⟩ : ∃ b, all.find? (fun b => valueOf b = valueOf a) = some b :=
    Option.isSome_iff_exists.mp (find?_isSome.mpr ⟨a, hmem, by simp⟩)
  obtain rfl : b = a :=
    hinjective b (mem_of_find?_eq_some hfind) (by simpa using find?_some hfind)
  unfold reportEnum
  rw [bind_ok_iff]
  exact ⟨_, rfl, by rw [hfind]⟩

theorem reportSeverity [UnicodeTables] (severity : Severity) (path : String) :
    reportEnum Severity.all Severity.value (Json.str (φ := φ) severity.value) path
      = .ok severity := by
  refine reportEnum_value (by cases severity <;> decide) (fun other _ h => ?_) path
  cases severity <;> cases other <;> first | rfl | exact absurd h (by decide)

theorem reportConfidence [UnicodeTables] (confidence : Confidence) (path : String) :
    reportEnum Confidence.all Confidence.value (Json.str (φ := φ) confidence.value) path
      = .ok confidence := by
  refine reportEnum_value (by cases confidence <;> decide) (fun other _ h => ?_) path
  cases confidence <;> cases other <;> first | rfl | exact absurd h (by decide)

end

/-! ## Times -/

theorem digits_ne_Z (width n : Nat) : ∀ c ∈ digits width n, c ≠ 'Z' := by
  induction width generalizing n with
  | zero => simp [digits]
  | succ width ih =>
    intro c hc
    rw [digits, mem_append, mem_singleton] at hc
    rcases hc with hc | rfl
    · exact ih _ c hc
    · have hdigit : ∀ d < 10, ofNat (48 + d) ≠ 'Z' := by decide
      exact hdigit _ (Nat.mod_lt _ (by decide))

theorem secondsText_ne_Z (n : Nat) : ∀ c ∈ secondsText n, c ≠ 'Z' := by
  intro c hc
  simp only [secondsText, mem_append, mem_singleton] at hc
  rcases hc with
    (((((((((hc | rfl) | hc) | rfl) | hc) | rfl) | hc) | rfl) | hc) | rfl) | hc
  all_goals first | exact digits_ne_Z _ _ c hc | decide

theorem withOffsets_append (a b : PyText) : withOffsets (a ++ b) = withOffsets a ++ withOffsets b :=
  flatMap_append

theorem withOffsets_of_ne_Z {text : List Char} (h : ∀ c ∈ text, c ≠ 'Z') :
    withOffsets (text.map toNat) = text.map toNat := by
  induction text with
  | nil => rfl
  | cons c rest ih =>
    rw [forall_mem_cons] at h
    have hc : c.toNat ≠ 90 := fun heq => h.1 (toNat_inj.mp heq)
    rw [map_cons, withOffsets, flatMap_cons, if_neg hc, ← withOffsets, ih h.2]
    rfl

/-- The `Z` of a written instant becomes an offset. -/
theorem withOffsets_zuluText (t : Nat) : withOffsets (zuluText t) = ofString (isoformat t) := by
  have hfraction : ∀ c ∈ (if t % 1000000 = 0 then [] else '.' :: digits 6 (t % 1000000)),
      c ≠ 'Z' := by
    split
    · simp
    · rw [forall_mem_cons]
      exact ⟨by decide, digits_ne_Z _ _⟩
  have hzone : withOffsets (['Z'].map toNat) = ("+00:00".toList).map toNat := by
    decide
  unfold zuluText isoformat
  rw [ofString, String.toList_ofList, map_append, map_append, withOffsets_append,
    withOffsets_append, withOffsets_of_ne_Z (secondsText_ne_Z _), withOffsets_of_ne_Z hfraction,
    hzone, map_append, map_append]

/-- A written instant is read back. -/
theorem reportTimestamp_zuluText {φ : Type} [TimeReader] (laws : ReadsTimes) {t : Nat}
    (h : t < datetimeEnd) (path : String) :
    reportTimestamp (Json.str (φ := φ) (zuluText t)) path = .ok t := by
  unfold reportTimestamp
  rw [bind_ok_iff]
  exact ⟨_, rfl, by rw [withOffsets_zuluText, laws t h]⟩

theorem isEncodable_zuluText (t : Nat) : isEncodable (zuluText t) = true := by
  have h := isEncodable_ofString (String.ofList (secondsText (t / 1000000)
    ++ (if t % 1000000 = 0 then [] else '.' :: digits 6 (t % 1000000)) ++ ['Z']))
  rwa [ofString, String.toList_ofList] at h

/-! ## A document of a finding -/

section

variable {φ : Type}

theorem keys_findingDict (finding : NormalizedFinding) (fingerprint : PyText) :
    (finding.dictWith (φ := φ) fingerprint).map Prod.fst = findingKeys := rfl

theorem keys_identityDict (identity : FindingIdentity) :
    (identity.toDict (φ := φ)).map Prod.fst = identityKeys := rfl

theorem keys_identifierDict (identifier : ExternalIdentifier) :
    (identifier.toDict (φ := φ)).map Prod.fst = identifierKeys := rfl

theorem keys_evidenceDict (evidence : Evidence) :
    (evidence.toDict (φ := φ)).map Prod.fst = evidenceKeys := rfl

theorem nodup_findingKeys : findingKeys.Nodup := by decide

theorem nodup_identityKeys : identityKeys.Nodup := by decide

theorem nodup_identifierKeys : identifierKeys.Nodup := by decide

theorem nodup_evidenceKeys : evidenceKeys.Nodup := by decide

variable [LowerTable] [StandardLibrary] [UnicodeTables] (σ : Spelling φ)

omit [LowerTable] [StandardLibrary] in
/-- A written identifier is given to its constructor again. -/
theorem loadIdentifier_spelled (identifier : ExternalIdentifier) (path : String) :
    loadIdentifier (σ.value (.obj identifier.toDict)) path = identifier.postInit := by
  have hmember := member_spelled σ (keys_identifierDict identifier) nodup_identifierKeys
  unfold loadIdentifier
  rw [strictObject_spelled σ (keys_identifierDict identifier), ok_bind]
  simp (disch := decide) only [hmember]
  simp only [ExternalIdentifier.toDict, member_cons, String.reduceEq, if_true, if_false, σ.str]
  rfl

omit [LowerTable] [StandardLibrary] [UnicodeTables] in
/-- A written piece of evidence is given to its constructor again. -/
theorem loadEvidence_spelled (evidence : Evidence) (path : String) :
    loadEvidence (σ.value (.obj evidence.toDict)) path = evidence.postInit := by
  have hmember := member_spelled σ (keys_evidenceDict evidence) nodup_evidenceKeys
  unfold loadEvidence
  rw [strictObject_spelled σ (keys_evidenceDict evidence), ok_bind]
  simp (disch := decide) only [hmember]
  simp only [Evidence.toDict, member_cons, String.reduceEq, if_true, if_false, σ.str,
    spelled_nullable, reportOptionalText_nullable]
  rfl

/-- A written identity is given to its constructor again. -/
theorem loadIdentity_spelled (identity : FindingIdentity) (path : String) :
    loadIdentity (σ.members identity.toDict) path = identity.postInit := by
  have hmember := member_spelled σ (keys_identityDict identity) nodup_identityKeys
  unfold loadIdentity
  simp (disch := decide) only [hmember]
  simp only [FindingIdentity.toDict, member_cons, String.reduceEq, if_true, if_false, σ.str,
    spelled_nullable, reportOptionalText_nullable]
  rfl

variable [TimeReader]

/-- The constructor of the finding is given the stored fields. -/
theorem findingInput_spelled (laws : ReadsTimes) (h : finding.detectedAt < datetimeEnd)
    (fingerprint : PyText) (path : String) (identifiers : List ExternalIdentifier)
    (evidence : List Evidence) :
    findingInput (σ.members (finding.dictWith fingerprint)) path
        (σ.members finding.identity.toDict) identifiers evidence
      = finding.identity.postInit.map fun identity =>
          { finding with identity, identifiers, evidence } := by
  have hmember := member_spelled σ (keys_findingDict finding fingerprint) nodup_findingKeys
  unfold findingInput
  rw [loadIdentity_spelled]
  simp (disch := decide) only [hmember]
  simp only [dictWith, member_cons, String.reduceEq, if_true, if_false, σ.str, spelled_nullable,
    spelled_textList, reportOptionalText_nullable, reportTextList_textList, reportSeverity,
    reportConfidence, reportTimestamp_zuluText laws h]
  rfl

omit [LowerTable] [StandardLibrary] [UnicodeTables] [TimeReader] in
theorem reportList_spelled (write : α → Json PyText φ) (items : List α) (path : String) :
    reportList (σ.value (.arr (items.map write))) path
      = .ok (items.map fun a => σ.value (write a)) := by
  rw [σ.arr, map_map]
  rfl

/-- A written finding is made again of its stored fields. -/
theorem buildFinding_spelled (laws : ReadsTimes) (h : finding.detectedAt < datetimeEnd)
    (fingerprint : PyText) (path : String) :
    buildFinding (σ.value (.obj (finding.dictWith fingerprint))) path = finding.again := by
  have hmember := member_spelled σ (keys_findingDict finding fingerprint) nodup_findingKeys
  have hschema : ∀ message, require (ofString "1.0" = ofString "1.0")
      "finding_schema_version_unsupported" message = .ok () :=
    fun _ => require_eq_ok.mpr (decide_eq_true rfl)
  have hplain : member "schema_version" (finding.dictWith (φ := φ) fingerprint)
      = .str (ofString "1.0") ∧
      member "identity" (finding.dictWith (φ := φ) fingerprint) = .obj finding.identity.toDict ∧
      member "identifiers" (finding.dictWith (φ := φ) fingerprint)
        = .arr (finding.identifiers.map fun i => .obj i.toDict) ∧
      member "evidence" (finding.dictWith (φ := φ) fingerprint)
        = .arr (finding.evidence.map fun e => .obj e.toDict) := ⟨rfl, rfl, rfl, rfl⟩
  unfold buildFinding
  rw [strictObject_spelled σ (keys_findingDict finding fingerprint), ok_bind]
  simp (disch := decide) only [hmember, hplain, σ.str]
  rw [strictObject_spelled σ (keys_identityDict finding.identity), reportText, ok_bind, hschema,
    ok_bind, ok_bind, reportList_spelled, ok_bind, eachItem_map (loadIdentifier_spelled σ)]
  unfold again
  refine bind_congr fun identifiers => ?_
  rw [reportList_spelled, ok_bind, eachItem_map (loadEvidence_spelled σ)]
  refine bind_congr fun evidence => ?_
  rw [findingInput_spelled σ laws h]
  cases finding.identity.postInit <;> rfl

end

/-! ## Texts that can be encoded -/

def FindingIdentity.texts (identity : FindingIdentity) : List PyText :=
  [identity.ruleId, identity.asset, identity.path, identity.method] ++ identity.parameter.toList

def ExternalIdentifier.texts (identifier : ExternalIdentifier) : List PyText :=
  [identifier.nameSpace, identifier.value]

def Evidence.texts (evidence : Evidence) : List PyText :=
  evidence.summary :: evidence.artifactReference.toList

/-- The texts of a finding. -/
def NormalizedFinding.texts (finding : NormalizedFinding) : List PyText :=
  finding.identity.texts ++ finding.source :: finding.sourceRuleId.toList
    ++ [finding.title, finding.description, finding.remediation]
    ++ finding.identifiers.flatMap ExternalIdentifier.texts
    ++ finding.evidence.flatMap Evidence.texts ++ finding.references ++ finding.tags

/-- No text of a finding holds a surrogate. -/
def NormalizedFinding.Encodable (finding : NormalizedFinding) : Prop :=
  ∀ text ∈ finding.texts, isEncodable text = true

section

variable {φ : Type} [PyFloat φ] {hooks : Hooks Unit φ} {depth : Nat}

section

omit [PyFloat φ]

variable {p : PyText → Bool} {q : φ → Bool}

theorem all_nullable {value : Option PyText} :
    (nullable (φ := φ) value).all p q = true ↔ ∀ text ∈ value.toList, p text = true := by
  cases value with
  | none => simp [nullable, Json.all]
  | some text => simp [nullable, Json.all]

theorem allItems_map {write : α → Json PyText φ}
    {items : List α} :
    allItems p q (items.map write) = true ↔ ∀ a ∈ items, (write a).all p q = true := by
  induction items with
  | nil => simp [allItems]
  | cons a rest ih => rw [map_cons, allItems, Bool.and_eq_true, ih, forall_mem_cons]

/-- The texts of a finding, field by field. -/
theorem encodable_iff :
    finding.Encodable ↔
      (isEncodable finding.identity.ruleId = true ∧ isEncodable finding.identity.asset = true ∧
        isEncodable finding.identity.path = true ∧ isEncodable finding.identity.method = true ∧
        ∀ text ∈ finding.identity.parameter.toList, isEncodable text = true) ∧
      isEncodable finding.source = true ∧
      (∀ text ∈ finding.sourceRuleId.toList, isEncodable text = true) ∧
      isEncodable finding.title = true ∧ isEncodable finding.description = true ∧
      isEncodable finding.remediation = true ∧
      (∀ i ∈ finding.identifiers, isEncodable i.nameSpace = true ∧ isEncodable i.value = true) ∧
      (∀ e ∈ finding.evidence, isEncodable e.summary = true ∧
        ∀ text ∈ e.artifactReference.toList, isEncodable text = true) ∧
      (∀ text ∈ finding.references, isEncodable text = true) ∧
      ∀ text ∈ finding.tags, isEncodable text = true := by
  simp only [NormalizedFinding.Encodable, texts, FindingIdentity.texts,
    ExternalIdentifier.texts, Evidence.texts, forall_mem_append, forall_mem_cons,
    forall_mem_flatMap, not_mem_nil, IsEmpty.forall_iff, implies_true, and_true,
    and_assoc]

end

/-- A finding can be dumped exactly if its texts can be encoded. -/
theorem all_findingDict (hfingerprint : isEncodable fingerprint = true) :
    (Json.obj (finding.dictWith (φ := φ) fingerprint)).all
        (fun s => Mode.utf8 = .ascii || isEncodable s) PyFloat.isFinite = true
      ↔ finding.Encodable := by
  have hkey : ∀ s : String, isEncodable (ofString s) = true := isEncodable_ofString
  have hseverity : isEncodable finding.severity.value = true := by
    cases finding.severity <;> exact hkey _
  have hconfidence : isEncodable finding.confidence.value = true := by
    cases finding.confidence <;> exact hkey _
  rw [encodable_iff]
  simp only [reduceCtorEq, decide_false, Bool.false_or, dictWith, Json.all,
    allMembers, hkey, hfingerprint, hseverity, hconfidence, isEncodable_zuluText, Bool.true_and,
    Bool.and_true, Bool.and_eq_true, all_nullable, allItems_map, textList,
    FindingIdentity.toDict, ExternalIdentifier.toDict, Evidence.toDict]

theorem fits_nullable {value : Option PyText}
    (h : ∀ text ∈ value.toList, isEncodable text = true) :
    Fits .utf8 hooks depth (nullable (φ := φ) value) := by
  cases value with
  | none => trivial
  | some text => exact h text (by simp)

theorem fits_map {write : α → Json PyText φ} {items : List α} (hdepth : depth ≠ 0)
    (h : ∀ a ∈ items, Fits .utf8 hooks (depth - 1) (write a)) :
    Fits .utf8 hooks depth (.arr (items.map write)) := by
  refine ⟨hdepth, ?_⟩
  induction items with
  | nil => trivial
  | cons a rest ih =>
    rw [forall_mem_cons] at h
    exact ⟨h.1, ih h.2⟩

/-- The document of a finding is three levels deep and can be read back. -/
theorem fits_findingDict (hdepth : 3 ≤ depth) (hfingerprint : isEncodable fingerprint = true)
    (h : finding.Encodable) :
    Fits .utf8 hooks depth (.obj (finding.dictWith (φ := φ) fingerprint)) := by
  have hkey : ∀ s : String, readsBack .utf8 (ofString s) = true := isEncodable_ofString
  have hseverity : readsBack .utf8 finding.severity.value = true := by
    cases finding.severity <;> exact hkey _
  have hconfidence : readsBack .utf8 finding.confidence.value = true := by
    cases finding.confidence <;> exact hkey _
  obtain ⟨⟨hrule, hasset, hpath, hmethod, hparameter⟩, hsource, hsourceRule, htitle, hdescription,
    hremediation, hidentifiers, hevidence, hreferences, htags⟩ := encodable_iff.mp h
  refine ⟨by omega, nodup_findingKeys, hkey _, hkey _, hkey _, hfingerprint, hkey _,
    ⟨by omega, nodup_identityKeys, hkey _, hrule, hkey _, hasset, hkey _, hpath, hkey _, hmethod,
      hkey _, fits_nullable hparameter, trivial⟩,
    hkey _, hsource, hkey _, fits_nullable hsourceRule, hkey _, htitle, hkey _, hdescription,
    hkey _, hseverity, hkey _, hconfidence, hkey _, hremediation, hkey _, isEncodable_zuluText _,
    hkey _, fits_map (by omega) fun i hi => ?_, hkey _, fits_map (by omega) fun e he => ?_, hkey _,
    fits_map (by omega) hreferences, hkey _, fits_map (by omega) htags, trivial⟩
  · exact ⟨by omega, nodup_identifierKeys, hkey _, (hidentifiers i hi).1, hkey _,
      (hidentifiers i hi).2, trivial⟩
  · exact ⟨by omega, nodup_evidenceKeys, hkey _, (hevidence e he).1, hkey _,
      fits_nullable (hevidence e he).2, trivial⟩

omit [PyFloat φ] in
theorem keepsPairs_reportHooks (interpreter : Interpreter) :
    KeepsPairs (reportHooks (φ := φ) interpreter) := fun _ hnodup => if_pos hnodup

end

/-! ## The finding, loaded -/

section

variable {φ : Type} [PyFloat φ] [DecidableEq φ] [LowerTable] [StandardLibrary] [UnicodeTables]
  [TimeReader]

variable {again : NormalizedFinding}

omit [LowerTable] [StandardLibrary] [UnicodeTables] [TimeReader] in
/-- Documents that compare equal name the same asset. -/
theorem asset_of_pyEq (σ : Spelling φ) {fingerprint' : PyText}
    (h : pyEq (.obj (again.dictWith fingerprint'))
      (σ.value (.obj (finding.dictWith fingerprint))) = true) :
    again.identity.asset = finding.identity.asset := by
  have hlookup : ∀ (name : String) {members others : List (PyText × Json PyText φ)}
      {value other : Json PyText φ}, pyEq (.obj members) (σ.value (.obj others)) = true →
      (ofString name, value) ∈ members → (ofString name, other) ∈ others →
      (others.map Prod.fst).Nodup → pyEq value (σ.value other) = true := by
    intro name members others value other h hvalue hother hnodup
    rw [σ.obj, pyEq_obj] at h
    obtain ⟨_, heq, -, hmembers⟩ := h
    cases heq
    obtain ⟨found, hfound, hsame⟩ := hmembers _ hvalue
    rw [σ.lookup hnodup hother] at hfound
    cases hfound
    exact hsame
  have hidentity : pyEq (.obj (again.identity.toDict (φ := φ)))
      (σ.value (.obj finding.identity.toDict)) = true :=
    hlookup "identity" h (by simp [dictWith])
      (by simp [dictWith]) nodup_findingKeys
  have hasset : pyEq (.str again.identity.asset : Json PyText φ)
      (σ.value (.str finding.identity.asset)) = true :=
    hlookup "asset" hidentity (by simp [FindingIdentity.toDict])
      (by simp [FindingIdentity.toDict]) nodup_identityKeys
  rw [σ.str, pyEq_str] at hasset
  exact (Json.str.inj hasset).symm

section

omit [PyFloat φ] [DecidableEq φ] [LowerTable] [StandardLibrary] [UnicodeTables] [TimeReader]

theorem distinct_nullable (value : Option PyText) : Distinct (nullable (φ := φ) value) := by
  cases value <;> trivial

theorem distinct_textList (texts : List PyText) : Distinct (textList (φ := φ) texts) :=
  distinct_map fun _ _ => trivial

/-- The document has no key twice. -/
theorem distinct_findingDict (finding : NormalizedFinding) (fingerprint : PyText) :
    Distinct (.obj (finding.dictWith (φ := φ) fingerprint)) := by
  refine ⟨nodup_findingKeys, trivial, trivial, ⟨nodup_identityKeys, trivial, trivial, trivial, trivial,
    distinct_nullable _, trivial⟩, trivial, distinct_nullable _, trivial, trivial, trivial, trivial,
    trivial, trivial, distinct_map fun _ _ => ⟨nodup_identifierKeys, trivial, trivial, trivial⟩,
    distinct_map fun _ _ => ⟨nodup_evidenceKeys, trivial, distinct_nullable _, trivial⟩,
    distinct_textList _, distinct_textList _, trivial⟩

end

variable {digest : List Char → PyText}

/-- A stored finding is loaded exactly if its fields fit, and is the same finding then. -/
theorem loadFinding_spelled (σ : Spelling φ) (times : ReadsTimes) (cases : CaseLaws) (index : Nat)
    (h : Stored finding) :
    loadFinding digest (σ.value (.obj (finding.toDict digest))) index = .ok again ↔
      again = finding ∧ Fitting finding := by
  unfold loadFinding
  simp only [bind_ok_iff, require_eq_ok]
  rw [toDict, buildFinding_spelled σ times h.detectedAt]
  constructor
  · rintro ⟨built, hbuilt, _, hsame, heq⟩
    have hfitting := fitting_of_again cases h hbuilt (asset_of_pyEq σ hsame)
    rw [again_of_fitting cases h hfitting] at hbuilt
    cases hbuilt
    cases heq
    exact ⟨rfl, hfitting⟩
  · rintro ⟨rfl, hfitting⟩
    exact ⟨_, again_of_fitting cases h hfitting, (), pyEq_spelled σ _ (distinct_findingDict _ _), rfl⟩

/-- Through a text, its texts have to be encodable too. -/
theorem reloadFinding_eq_some (laws : FloatLaws φ) (cases : CaseLaws) (times : ReadsTimes)
    (hdigest : ∀ bytes, isEncodable (digest bytes) = true)
    (interpreter : Interpreter) (index : Nat) (h : Stored finding) :
    reloadFinding φ digest interpreter index finding = some again ↔
      again = finding ∧ Fitting finding ∧ finding.Encodable := by
  have hdepth : 3 ≤ interpreter.recursionLimit := by
    have hroom := interpreter.room
    omega
  have hfingerprint := hdigest (finding.identity.payload φ)
  have hall : (Json.obj (finding.toDict (φ := φ) digest)).all
      (fun s => Mode.utf8 = .ascii || isEncodable s) PyFloat.isFinite = true
        ↔ finding.Encodable := all_findingDict hfingerprint
  have hfits : finding.Encodable → Fits .utf8 (reportHooks (φ := φ) interpreter)
      interpreter.recursionLimit (.obj (finding.toDict digest)) :=
    fits_findingDict hdepth hfingerprint
  have htoOption : ∀ {ε α : Type} {x : Except ε α} {a : α}, x.toOption = some a ↔ x = .ok a := by
    intro ε α x a
    cases x <;> simp [Except.toOption]
  unfold reloadFinding
  simp only [Option.bind_eq_bind, Option.bind_eq_some_iff, htoOption]
  constructor
  · rintro ⟨document, hdumps, value, hloads, hload⟩
    have hencodable := hall.mp (ScanPermits.all_of_dumps hdumps)
    rw [loads_dumps laws (keepsPairs_reportHooks interpreter) (hfits hencodable) hdumps] at hloads
    cases hloads
    obtain ⟨heq, hfitting⟩ := (loadFinding_spelled .sorted times cases index h).mp hload
    exact ⟨heq, hfitting, hencodable⟩
  · rintro ⟨rfl, hfitting, hencodable⟩
    have hdumps := ScanPermits.dumps_of_all (hall.mpr hencodable)
    exact ⟨_, hdumps, _,
      loads_dumps laws (keepsPairs_reportHooks interpreter) (hfits hencodable) hdumps,
      (loadFinding_spelled .sorted times cases index h).mpr ⟨rfl, hfitting⟩⟩

end

end WebGuard.FindingContract
