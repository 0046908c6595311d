import WebGuard.Detection.RefusedPaths
import WebGuard.Properties.DiscoveryProjection

/-!
# No probe that changes state

A keyword in the path or a parameter keeps a candidate that is not a GET from being projected. A GET
is classed as safe without a look at its keywords, and the keywords do not show everything that the
crawler refuses to follow.
-/

namespace WebGuard.AttackSurface

open PyJson UrlParse StandardLibrary Atomic List
open FindingContract (LowerTable asciiLower)
open Pagination (Interpreter)
open RequestTemplates (RequestTemplate unnamedFloats cpython)
open ScanPermits (oneFloat asciiTables)

/--
What `str.lower` makes of ASCII does not depend on what is around it.

A final sigma is the one letter for which it does.
-/
structure KeywordLaws [LowerTable] : Prop where
  infix_lower : ∀ a b c w : PyText, (∀ n ∈ w, n < 128) → w <:+: LowerTable.lower b →
    w <:+: LowerTable.lower (a ++ b ++ c)

section

variable [LowerTable]

omit [LowerTable] in
theorem ascii_of_mem_keywords {keyword : PyText} (h : keyword ∈ stateChangingKeywords) :
    ∀ n ∈ keyword, n < 128 := by
  have hall : stateChangingKeywords.all (fun k => k.all (· < 128)) = true := by decide
  intro n hn
  simpa using all_eq_true.mp (all_eq_true.mp hall keyword h) n hn

theorem hasKeyword_lower (laws : KeywordLaws) {part whole : PyText} (h : part <:+: whole)
    (hkeyword : hasKeyword (LowerTable.lower part) = true) :
    hasKeyword (LowerTable.lower whole) = true := by
  obtain ⟨front, back, rfl⟩ := h
  unfold hasKeyword at hkeyword ⊢
  obtain ⟨keyword, hmem, hfound⟩ := any_eq_true.mp hkeyword
  have hfound : keyword <:+: LowerTable.lower part := by simpa using hfound
  refine any_eq_true.mpr ⟨keyword, hmem, ?_⟩
  simpa using laws.infix_lower front part back keyword (ascii_of_mem_keywords hmem) hfound

omit [LowerTable] in
theorem infix_intercalate {name : PyText} {names : List PyText} (h : name ∈ names)
    (separator : PyText) : name <:+: intercalate separator names := by
  induction names with
  | nil => cases h
  | cons first rest ih =>
    cases rest with
    | nil =>
      rw [intercalate_singleton, mem_singleton.mp h]
    | cons next more =>
      rw [intercalate_cons_cons]
      rcases mem_cons.mp h with rfl | h
      · exact ((prefix_append _ _).trans (prefix_append _ _)).isInfix
      · exact (ih h).trans (suffix_append _ _).isInfix

theorem quiet_of_classifySafety (laws : KeywordLaws) {method path : PyText}
    {fieldNames : List PyText}
    (h : classifySafety method path fieldNames = .requiresExplicitActiveAuthorization) :
    hasKeyword (LowerTable.lower path) = false ∧
      ∀ name ∈ fieldNames, hasKeyword (LowerTable.lower name) = false := by
  have hnone : hasKeyword (LowerTable.lower (path ++ 32 :: intercalate [32] fieldNames)) =
      false := by
    unfold classifySafety at h
    split at h
    · cases h
    · split at h
      · cases h
      next hnone => simpa using hnone
  constructor
  · by_contra hkeyword
    have hwithin : path <:+: path ++ 32 :: intercalate [32] fieldNames :=
      (prefix_append path _).isInfix
    have hkeyword := hasKeyword_lower laws hwithin (Bool.eq_true_of_not_eq_false hkeyword)
    rw [hnone] at hkeyword
    cases hkeyword
  · intro name hname
    by_contra hkeyword
    have hwithin : name <:+: path ++ 32 :: intercalate [32] fieldNames :=
      (infix_intercalate hname [32]).trans ((suffix_cons 32 _).trans
        (suffix_append path _)).isInfix
    have hkeyword := hasKeyword_lower laws hwithin (Bool.eq_true_of_not_eq_false hkeyword)
    rw [hnone] at hkeyword
    cases hkeyword

end

section

variable [StandardLibrary] [LowerTable]

/-! ## Places -/

/-- A place without a keyword in its path or its parameter, which the crawler would follow. -/
def Quiet (endpoint : Text) (parameter : PyText) : Prop :=
  ∀ parsed, urlsplit endpoint = some parsed →
    hasKeyword (LowerTable.lower (codePoints parsed.path)) = false ∧
      hasKeyword (LowerTable.lower parameter) = false ∧ crawlerRefuses parsed.path = false

namespace AttackSurfaceCandidate

variable (candidate : AttackSurfaceCandidate)

/-- A keyword is in the path or in the parameter. -/
def namesChange : Bool :=
  hasKeyword (LowerTable.lower (codePoints candidate.parsed.path))
    || hasKeyword (LowerTable.lower candidate.parameter)

/-- What the keywords of discovery miss: a GET, which is not looked at, and a path that the crawler
refuses without a keyword. -/
def EscapesKeywords : Prop :=
  (candidate.method = ofString "GET" ∧ candidate.namesChange = true)
    ∨ refusedUnnamed candidate.parsed.path = true

instance : Decidable candidate.EscapesKeywords :=
  inferInstanceAs (Decidable (_ ∧ _ ∨ _))

theorem quiet_iff (hnamed : candidate.method ≠ ofString "GET" → candidate.namesChange = false) :
    Quiet (characters candidate.endpoint) candidate.parameter ↔ ¬candidate.EscapesKeywords := by
  have hplace : Quiet (characters candidate.endpoint) candidate.parameter ↔
      candidate.namesChange = false ∧ crawlerRefuses candidate.parsed.path = false := by
    unfold Quiet namesChange
    simp only [candidate.splits, Option.some.injEq, forall_eq', Bool.or_eq_false_iff, and_assoc]
  rw [hplace]
  constructor
  · rintro ⟨hnone, hfollowed⟩ (⟨-, hchange⟩ | hrefused)
    · rw [hnone] at hchange
      cases hchange
    · rw [crawlerRefuses_of_refusedUnnamed hrefused] at hfollowed
      cases hfollowed
  · intro hseen
    have hnone : candidate.namesChange = false := by
      by_cases hget : candidate.method = ofString "GET"
      · by_contra hchange
        exact hseen (.inl ⟨hget, Bool.eq_true_of_not_eq_false hchange⟩)
      · exact hnamed hget
    refine ⟨hnone, ?_⟩
    by_contra hrefused
    have hpath := (Bool.or_eq_false_iff.mp hnone).1
    exact hseen (.inr
      (refusedUnnamed_of_crawlerRefuses (Bool.eq_true_of_not_eq_false hrefused) hpath))

end AttackSurfaceCandidate

/-! ## Paths in endpoints -/

omit [LowerTable] in
theorem netloc_ne_nil_of_onTarget {target : PyTarget} (hhost : target.hostname ≠ [])
    {parsed : SplitResult} (h : onOrigin target parsed = some true) : parsed.netloc ≠ [] := by
  obtain ⟨-, -, -, hname, -⟩ := onOrigin_eq_true.mp h
  intro hnil
  have hinfo : parsed.hostinfo = ([], []) := by
    unfold SplitResult.hostinfo
    rw [hnil]
    rfl
  have hnone : parsed.hostname = none := by simp [SplitResult.hostname, hinfo]
  rw [hnone, Option.getD_none, lower_ascii [] (by simp)] at hname
  exact hhost hname.symm

omit [LowerTable] in
theorem kept_documentUrl {target : PyTarget}
    (hweb : target.scheme = http ∨ target.scheme = https) {documentUrl : Text}
    (h : DocumentUrl target documentUrl) : ∀ c ∈ documentUrl, IsKept c := by
  obtain ⟨path, hpath, hurl⟩ := h.joined
  obtain ⟨parsed, hparsed, hon⟩ := requireSameOrigin_eq_ok.mp h.origin
  obtain ⟨-, -, hscheme, -⟩ := onOrigin_eq_true.mp hon
  have hreference : path.dropWhile (· = '/') ≠ [] := by
    have hall : openapiWellKnownPaths.all (fun p => !(p.dropWhile (· = '/')).isEmpty) = true := by
      decide
    simpa using all_eq_true.mp hall path hpath
  have hjoin := joined_eq_ok.mp hurl
  have hhierarchical := hierarchical_of_web hweb
  have hbase : originBaseUrl target = target.scheme ++ ':' :: ('/' :: '/' :: target.hostname
      ++ (if target.port = defaultPort target.scheme then []
        else ':' :: Nat.toDigits 10 target.port) ++ ['/']) := by
    simp [originBaseUrl]
  -- the base was taken apart on the way
  obtain ⟨b, hb⟩ : ∃ b, urlsplit (originBaseUrl target) = some b := by
    cases hb : urlsplit (originBaseUrl target) with
    | some b => exact ⟨b, rfl⟩
    | none =>
      have hne : originBaseUrl target ≠ [] := by
        rw [hbase]
        simp
      unfold urljoin at hjoin
      rw [if_neg (by simpa using hne), if_neg (by simpa using hreference), hb] at hjoin
      cases hjoin
  have hbscheme : b.scheme = target.scheme := by
    rw [hbase] at hb
    exact scheme_of_urlsplit hhierarchical hb
  exact kept_of_urljoin hb (hbscheme ▸ hhierarchical) hjoin hparsed
    (hscheme.trans hbscheme.symm) fun hnil => absurd hnil hreference

omit [StandardLibrary] [LowerTable] in
theorem characters_withSurrogates (path : PyText) (absolute : Text) :
    characters (withSurrogates path absolute) = absolute := by
  unfold withSurrogates
  split
  · exact characters_codePoints absolute
  · unfold characters
    rw [map_map]
    calc absolute.map (asChar ∘ fun c => if c.toNat = 0xFFFF then 0xD800 else c.toNat)
        = absolute.map id := ?_
      _ = absolute := map_id absolute
    refine map_congr_left fun c _ => ?_
    show asChar (if c.toNat = 0xFFFF then 0xD800 else c.toNat) = c
    split
    next h =>
      rw [← Char.ofNat_toNat c, h]
      decide
    next h => exact asChar_toNat c

omit [StandardLibrary] [LowerTable] in
theorem infix_withSurrogates {key : PyText} {absolute part : Text}
    (hpart : part <:+: absolute.takeWhile fun c => c ≠ '?' && c ≠ '#')
    (hkey : isEncodable ((withSurrogates key absolute).takeWhile fun n => n ≠ 63 && n ≠ 35) = true) :
    codePoints part <:+: withSurrogates key absolute := by
  have hprefix : (absolute.takeWhile fun c => c ≠ '?' && c ≠ '#') <:+: absolute :=
    (List.takeWhile_prefix _).isInfix
  unfold withSurrogates at hkey ⊢
  by_cases hencodable : isEncodable key = true
  · rw [if_pos hencodable]
    exact (hpart.trans hprefix).map Char.toNat
  · rw [if_neg hencodable] at hkey ⊢
    have hstop : ((fun n => decide (n ≠ 63) && decide (n ≠ 35)) ∘
        fun c : Char => if c.toNat = 0xFFFF then 0xD800 else c.toNat) =
        fun c => decide (c ≠ '?') && decide (c ≠ '#') := by
      funext c
      have hmark : c.toNat = 63 ↔ c = '?' :=
        ⟨fun h => by rw [← Char.ofNat_toNat c, h], fun h => by rw [h]; rfl⟩
      have hhash : c.toNat = 35 ↔ c = '#' :=
        ⟨fun h => by rw [← Char.ofNat_toNat c, h], fun h => by rw [h]; rfl⟩
      have hone : ∀ n, n < 0xD800 → ((if c.toNat = 0xFFFF then 0xD800 else c.toNat) = n ↔
          c.toNat = n) := by
        intro n hn
        split <;> omega
      simp [hone, hmark, hhash]
    rw [takeWhile_map, hstop] at hkey
    -- no character of the part stands for a surrogate
    have hsame : part.map (fun c => if c.toNat = 0xFFFF then 0xD800 else c.toNat) =
        codePoints part := by
      refine map_congr_left fun c hc => if_neg fun hsurrogate => ?_
      have hscalar := all_eq_true.mp hkey _ (mem_map_of_mem (hpart.subset hc))
      rw [if_pos hsurrogate] at hscalar
      exact absurd hscalar (by decide)
    rw [← hsame]
    exact (hpart.trans hprefix).map _

/-! ## Candidates -/

section

variable [UnicodeTables] {allowPost allowJson : Bool} {target : PyTarget}
  {budget : AttackSurfaceBudget} {candidate : AttackSurfaceCandidate}

omit [LowerTable] [UnicodeTables] in
theorem safety_of_isProjected (h : candidate.isProjected allowPost allowJson = true)
    (hget : candidate.method ≠ ofString "GET") :
    candidate.safety = .requiresExplicitActiveAuthorization ∧
      (candidate.inputLocation = .form ∨ candidate.inputLocation = .jsonBody) := by
  unfold AttackSurfaceCandidate.isProjected at h
  split at h
  · exact absurd (of_decide_eq_true h) hget
  next hsafety =>
    refine ⟨hsafety, ?_⟩
    simp only [Bool.or_eq_true, Bool.and_eq_true, decide_eq_true_eq] at h
    exact h.imp (·.2) (·.2)
  · cases h

omit [UnicodeTables] in
theorem namesChange_of_pageCandidate (laws : KeywordLaws) {pageUrl : Text}
    (h : PageCandidate target pageUrl candidate.toCandidateFields)
    (hprojected : candidate.isProjected allowPost allowJson = true)
    (hget : candidate.method ≠ ofString "GET") : candidate.namesChange = false := by
  obtain ⟨hsafety, -⟩ := safety_of_isProjected hprojected hget
  obtain ⟨fields, parsed, candidateId, splits⟩ := candidate
  dsimp only at h
  cases h with
  | form form reference actionUrl located fields fieldName hjoined horigin hparsed hfield =>
    obtain ⟨hpath, hfields⟩ := quiet_of_classifySafety laws hsafety
    have hsame : located = parsed := by
      have hsplits : urlsplit (characters (codePoints actionUrl)) = some parsed := splits
      rw [characters_codePoints, hparsed] at hsplits
      exact Option.some.inj hsplits
    subst hsame
    unfold AttackSurfaceCandidate.namesChange
    rw [Bool.or_eq_false_iff]
    exact ⟨hpath, hfields fieldName hfield⟩
  | link reference absolute located parameter hjoined horigin hparsed => exact absurd rfl hget
  | literal literal absolute hjoined horigin => exact absurd rfl hget

theorem namesChange_of_siteCandidate (laws : KeywordLaws)
    (hweb : target.scheme = http ∨ target.scheme = https) (hhost : target.hostname ≠ [])
    {φ : Type} [PyFloat φ] [NamedFloats φ]
    (h : SiteCandidate φ target budget candidate.toCandidateFields)
    (hprojected : candidate.isProjected allowPost allowJson = true)
    (hget : candidate.method ≠ ofString "GET") : candidate.namesChange = false := by
  obtain ⟨hsafety, hlocation⟩ := safety_of_isProjected hprojected hget
  obtain ⟨fields, parsed, candidateId, splits⟩ := candidate
  dsimp only at h
  cases h with
  | loc url located parameter horigin hparsed => exact absurd rfl hget
  | robots path absolute hjoined horigin => exact absurd rfl hget
  | operation documentUrl path method absolute hdocument hjoined horigin hmethod =>
    rcases hlocation with hlocation | hlocation <;> cases hlocation
  | body documentUrl path method absolute operation _ hdocument hjoined horigin hmethod hkey
      hfields =>
    obtain ⟨hendpoint, rfl, -, -, paths, hparameter, hclass⟩ := mem_jsonBodyCandidates hfields
    obtain ⟨hpath, hnames⟩ := quiet_of_classifySafety laws (hclass.symm.trans hsafety)
    have hbase := requireSameOrigin_eq_ok.mp hdocument.origin
    obtain ⟨p, hp, hon⟩ := onTarget_of_joined hweb hbase hjoined horigin
    obtain ⟨b, hb, hbon⟩ := hbase
    obtain ⟨-, -, hpscheme, -⟩ := onOrigin_eq_true.mp hon
    obtain ⟨-, -, hbscheme, -⟩ := onOrigin_eq_true.mp hbon
    have hhierarchical := hierarchical_of_web hweb
    have hsame : p = parsed := by
      have hsplits : urlsplit (characters fields.endpoint) = some parsed := splits
      rw [hendpoint, characters_withSurrogates, hp] at hsplits
      exact Option.some.inj hsplits
    have hkept : ∀ c ∈ absolute, IsKept c :=
      kept_of_urljoin hb (hbscheme ▸ hhierarchical) (joined_eq_ok.mp hjoined) hp
        (hpscheme.trans hbscheme.symm) fun _ => kept_documentUrl hweb hdocument
    have hwithin : codePoints p.path <:+: withSurrogates path absolute := by
      refine infix_withSurrogates (path_within hp (hpscheme ▸ hhierarchical.ne_nil)
        (netloc_ne_nil_of_onTarget hhost hon) hkept) ?_
      unfold CandidateFields.hasEncodableKey at hkey
      simp only [Bool.and_eq_true] at hkey
      rw [hendpoint] at hkey
      exact hkey.1.1.1
    subst hsame
    unfold AttackSurfaceCandidate.namesChange
    rw [Bool.or_eq_false_iff]
    refine ⟨?_, hnames _ hparameter⟩
    by_contra hkeyword
    rw [hasKeyword_lower laws hwithin (Bool.eq_true_of_not_eq_false hkeyword)] at hpath
    cases hpath

end

/-! ## Projections -/

section

variable [UnicodeTables] {allowPost allowJson : Bool} {candidates : List AttackSurfaceCandidate}

omit [LowerTable] in
theorem place_of_build {candidate : AttackSurfaceCandidate} {template : RequestTemplate}
    (h : candidate.buildRequestTemplate = .ok template) :
    template.endpoint = characters candidate.endpoint ∧
      template.parameter = candidate.parameter := by
  have hpostInit : ∀ raw : RequestTemplate, raw.postInit = .ok template →
      template.endpoint = raw.endpoint ∧ template.parameter = raw.parameter := by
    intro raw hraw
    unfold RequestTemplate.postInit at hraw
    split at hraw
    · cases hraw
    · split at hraw
      · cases hraw
      · cases hraw
        exact ⟨rfl, rfl⟩
  unfold AttackSurfaceCandidate.buildRequestTemplate at h
  split at h
  · exact hpostInit _ h
  · split at h
    · exact hpostInit _ h
    · exact hpostInit _ h
    · cases h

omit [UnicodeTables] [LowerTable] in
theorem toDetectionCandidates_eq_ok {detections : List DetectionCandidate}
    (h : toDetectionCandidates candidates = .ok detections) :
    detections = (candidates.filter (·.isEligible)).map fun candidate =>
      ⟨candidate.endpoint, candidate.parameter, candidate.baselineValue⟩ := by
  induction candidates generalizing detections with
  | nil =>
    cases h
    rfl
  | cons candidate rest ih =>
    unfold toDetectionCandidates at h
    by_cases heligible : candidate.isEligible = true
    · have hfilter : (candidate :: rest).filter (·.isEligible) =
          candidate :: rest.filter (·.isEligible) := filter_cons_of_pos heligible
      rw [if_pos heligible] at h
      split at h
      · cases h
      next detection hdetection =>
        obtain ⟨others, hothers, rfl⟩ := map_ok_iff.mp h
        have hsame : detection =
            ⟨candidate.endpoint, candidate.parameter, candidate.baselineValue⟩ := by
          unfold DetectionCandidate.postInit at hdetection
          split at hdetection
          · cases hdetection
          · split at hdetection
            · cases hdetection
            · cases hdetection
              rfl
        rw [hfilter, map_cons, hsame, ih hothers]
    · have hfilter : (candidate :: rest).filter (·.isEligible) = rest.filter (·.isEligible) :=
        filter_cons_of_neg heligible
      rw [if_neg heligible] at h
      rw [hfilter]
      exact ih h

/-- Every place that is given to detectors is quiet. -/
def ProbesQuietly (allowPost allowJson : Bool) (candidates : List AttackSurfaceCandidate) : Prop :=
  (∀ templates, toRequestTemplates allowPost allowJson candidates = .ok templates →
    ∀ template ∈ templates, Quiet template.endpoint template.parameter) ∧
  ∀ detections, toDetectionCandidates candidates = .ok detections →
    ∀ detection ∈ detections, Quiet (characters detection.url) detection.parameter

/-- A candidate whose place is given to detectors, by one of the projections. -/
def IsProbed (allowPost allowJson : Bool) (candidates : List AttackSurfaceCandidate)
    (candidate : AttackSurfaceCandidate) : Prop :=
  ((toRequestTemplates allowPost allowJson candidates).isOk = true ∧
    candidate.isProjected allowPost allowJson = true) ∨
  ((toDetectionCandidates candidates).isOk = true ∧ candidate.isEligible = true)

omit [LowerTable] in
instance (candidate : AttackSurfaceCandidate) :
    Decidable (IsProbed allowPost allowJson candidates candidate) :=
  inferInstanceAs (Decidable (_ ∧ _ ∨ _ ∧ _))

theorem probesQuietly_iff_places :
    ProbesQuietly allowPost allowJson candidates ↔
      ∀ candidate ∈ candidates, IsProbed allowPost allowJson candidates candidate →
        Quiet (characters candidate.endpoint) candidate.parameter := by
  constructor
  · rintro ⟨htemplates, hdetections⟩ candidate hmem (⟨hok, hprojected⟩ | ⟨hok, heligible⟩)
    · obtain ⟨templates, hall⟩ := exists_ok_of_isOk hok
      have hforall := toRequestTemplates_eq_ok.mp hall
      have hfiltered : candidate ∈ candidates.filter (·.isProjected allowPost allowJson) :=
        mem_filter.mpr ⟨hmem, hprojected⟩
      obtain ⟨index, hindex, rfl⟩ := getElem_of_mem hfiltered
      have hlength : index < templates.length := hforall.length_eq ▸ hindex
      obtain ⟨hendpoint, hparameter⟩ := place_of_build (hforall.get hindex hlength)
      have hquiet := htemplates templates hall templates[index] (getElem_mem hlength)
      exact hendpoint ▸ hparameter ▸ hquiet
    · obtain ⟨detections, hall⟩ := exists_ok_of_isOk hok
      refine hdetections detections hall
        ⟨candidate.endpoint, candidate.parameter, candidate.baselineValue⟩ ?_
      rw [toDetectionCandidates_eq_ok hall]
      exact mem_map_of_mem (mem_filter.mpr ⟨hmem, heligible⟩)
  · intro hquiet
    constructor
    · intro templates hall template htemplate
      have hforall := toRequestTemplates_eq_ok.mp hall
      obtain ⟨index, hindex, rfl⟩ := getElem_of_mem htemplate
      have hlength : index < (candidates.filter (·.isProjected allowPost allowJson)).length :=
        hforall.length_eq ▸ hindex
      obtain ⟨hendpoint, hparameter⟩ := place_of_build (hforall.get hlength hindex)
      obtain ⟨hmem, hprojected⟩ := mem_filter.mp (getElem_mem hlength)
      simp only [get_eq_getElem] at hendpoint hparameter
      rw [hendpoint, hparameter]
      exact hquiet _ hmem (.inl ⟨by rw [hall]; rfl, hprojected⟩)
    · intro detections hall detection hdetection
      rw [toDetectionCandidates_eq_ok hall] at hdetection
      obtain ⟨candidate, hcandidate, rfl⟩ := mem_map.mp hdetection
      obtain ⟨hmem, heligible⟩ := mem_filter.mp hcandidate
      exact hquiet candidate hmem (.inr ⟨by rw [hall]; rfl, heligible⟩)

theorem probesQuietly_iff
    (hnamed : ∀ candidate ∈ candidates, candidate.isProjected allowPost allowJson = true →
      candidate.method ≠ ofString "GET" → candidate.namesChange = false) :
    ProbesQuietly allowPost allowJson candidates ↔
      ∀ candidate ∈ candidates, IsProbed allowPost allowJson candidates candidate →
        ¬candidate.EscapesKeywords := by
  rw [probesQuietly_iff_places]
  refine forall_congr' fun candidate => forall_congr' fun hmem => forall_congr' fun hprobed => ?_
  refine candidate.quiet_iff fun hget => ?_
  rcases hprobed with ⟨-, hprojected⟩ | ⟨-, heligible⟩
  · exact hnamed candidate hmem hprojected hget
  · unfold AttackSurfaceCandidate.isEligible AttackSurfaceCandidate.isQuery at heligible
    simp only [Bool.and_eq_true, decide_eq_true_eq] at heligible
    exact absurd heligible.1.2.2 hget

end

end

/-! ## Samples -/

theorem asciiKeywords : letI := asciiLower; KeywordLaws := by
  let _ := asciiLower
  refine ⟨fun a b c w _ h => ?_⟩
  show w <:+: (a ++ b ++ c).map _
  rw [map_append, map_append]
  exact h.trans (infix_append _ _ _)

def deletePage : List HtmlEvent :=
  [.startTag ⟨['a'], [("href".toList, some "/delete?id=1".toList)]⟩]

theorem login_seen :
    letI := transitionLibrary; letI := oneFloat; letI := unnamedFloats; letI := asciiTables
    letI := asciiLower
    (match discoverPageAttackSurface id sampleTarget {} "https://h.com/".toList
        (fun _ => .ok loginPage) [] with
      | .ok result => decide (result.candidates.length = 2 ∧
          ∀ candidate ∈ result.candidates, ¬candidate.EscapesKeywords)
      | .error _ => false) = true ∧
    (match discoverSiteAttackSurface id sampleTarget Unit cpython {} (servingDocument loginDocument)
      with
      | .ok result => decide (result.candidates.length = 2 ∧
          ∀ candidate ∈ result.candidates, ¬candidate.EscapesKeywords)
      | .error _ => false) = true := by
  decide +kernel

theorem deletePage_probed :
    letI := transitionLibrary; letI := oneFloat; letI := unnamedFloats; letI := asciiTables
    letI := asciiLower
    (match discoverPageAttackSurface id sampleTarget {} "https://h.com/".toList
        (fun _ => .ok deletePage) [] with
      | .ok result =>
        match result.candidates with
        | [candidate] => decide (candidate.EscapesKeywords ∧
            IsProbed false false [candidate] candidate ∧
            crawlerRefuses candidate.parsed.path = true)
        | _ => false
      | .error _ => false) = true := by
  decide

end WebGuard.AttackSurface
