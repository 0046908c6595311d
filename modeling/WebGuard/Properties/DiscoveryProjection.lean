import WebGuard.Detection.CandidateProjection
import WebGuard.Detection.FoundCandidates
import WebGuard.Detection.OriginUrls
import WebGuard.Properties.FindingIdentity
import WebGuard.Properties.MutationFrame
import WebGuard.Properties.Targets

/-!
# What becomes of discovered candidates

A page's candidates are projected as they should be. A site's are not if an operation of an OpenAPI
document is a GET: its candidate is classed as safe, but no template can be built of it. And a JSON
body is projected whatever its method is, although only POST was asserted.
-/

namespace WebGuard.AttackSurface

open PyJson UrlParse StandardLibrary List
open FindingContract (LowerTable asciiLower)
open Pagination (Interpreter)
open RequestTemplates (RequestTemplate MutationFailure refuseTemplate unnamedFloats cpython)
open ScanPermits (oneFloat asciiTables)

section

variable [StandardLibrary]

/-! ## The projection that is wanted -/

namespace AttackSurfaceCandidate

variable (allowPost allowJson : Bool) (permitted : List PyText) (candidate : AttackSurfaceCandidate)

/-- A safe GET candidate of a query or a form, or an authorised form or JSON body whose method is
permitted; that POST is permitted is what `allow_post` says. -/
def isWanted : Bool :=
  (candidate.safety = .safeToProbe && candidate.isQuery)
    || (candidate.safety = .requiresExplicitActiveAuthorization
      && ((allowPost && candidate.method = ofString "POST" && candidate.inputLocation = .form)
        || (allowJson && candidate.inputLocation = .jsonBody
          && permitted.contains candidate.method)))

/-- An operation of an OpenAPI document that is a GET. -/
def IsGetOperation : Prop :=
  candidate.discoveryMethod = .openapiDocument ∧ candidate.method = ofString "GET"

/-- An authorised JSON body whose method is not permitted. -/
def IsUnpermittedBody : Prop :=
  allowJson = true ∧ candidate.inputLocation = .jsonBody ∧
    candidate.safety = .requiresExplicitActiveAuthorization ∧ candidate.method ∉ permitted

instance : Decidable candidate.IsGetOperation :=
  inferInstanceAs (Decidable (candidate.discoveryMethod = _ ∧ candidate.method = _))

instance : Decidable (candidate.IsUnpermittedBody allowJson permitted) :=
  inferInstanceAs (Decidable (allowJson = true ∧ candidate.inputLocation = _ ∧
    candidate.safety = _ ∧ candidate.method ∉ permitted))

/-- What is projected of a candidate is what is wanted. -/
def Fits [UnicodeTables] : Prop :=
  candidate.isProjected allowPost allowJson = true →
    candidate.isWanted allowPost allowJson permitted = true ∧
      ∃ template, candidate.buildRequestTemplate = .ok template

end AttackSurfaceCandidate

/-- The projection returns, with one template for each candidate that is wanted, in order. -/
def Projects [UnicodeTables] (allowPost allowJson : Bool) (permitted : List PyText)
    (candidates : List AttackSurfaceCandidate) : Prop :=
  ∃ templates, toRequestTemplates allowPost allowJson candidates = .ok templates ∧
    List.Forall₂ (fun candidate template => candidate.buildRequestTemplate = .ok template)
      (candidates.filter (·.isWanted allowPost allowJson permitted)) templates

section

variable [UnicodeTables] {allowPost allowJson : Bool} {permitted : List PyText}

variable {candidates : List AttackSurfaceCandidate}

theorem toRequestTemplates_eq_ok {templates : List RequestTemplate} :
    toRequestTemplates allowPost allowJson candidates = .ok templates ↔
      List.Forall₂ (fun candidate template => candidate.buildRequestTemplate = .ok template)
        (candidates.filter (·.isProjected allowPost allowJson)) templates := by
  induction candidates generalizing templates with
  | nil =>
    rw [toRequestTemplates, filter_nil, forall₂_nil_left_iff]
    simp [eq_comm]
  | cons candidate rest ih =>
    unfold toRequestTemplates
    by_cases hprojected : candidate.isProjected allowPost allowJson = true
    · have hfilter : (candidate :: rest).filter (·.isProjected allowPost allowJson) =
          candidate :: rest.filter (·.isProjected allowPost allowJson) :=
        filter_cons_of_pos hprojected
      rw [if_pos hprojected, hfilter]
      cases hbuild : candidate.buildRequestTemplate with
      | error failure =>
        constructor
        · rintro ⟨⟩
        · intro h
          cases h with
          | cons hbuilt _ =>
            rw [hbuild] at hbuilt
            cases hbuilt
      | ok template =>
        simp only [Atomic.map_ok_iff, ih]
        constructor
        · rintro ⟨others, hothers, rfl⟩
          exact .cons hbuild hothers
        · intro h
          cases h with
          | cons hbuilt hothers =>
            rw [hbuild] at hbuilt
            cases hbuilt
            exact ⟨_, hothers, rfl⟩
    · have hfilter : (candidate :: rest).filter (·.isProjected allowPost allowJson) =
          rest.filter (·.isProjected allowPost allowJson) := filter_cons_of_neg hprojected
      rw [if_neg hprojected, hfilter]
      exact ih

omit [UnicodeTables] in
theorem isProjected_of_isWanted {candidate : AttackSurfaceCandidate}
    (h : candidate.isWanted allowPost allowJson permitted = true) :
    candidate.isProjected allowPost allowJson = true := by
  unfold AttackSurfaceCandidate.isWanted AttackSurfaceCandidate.isQuery at h
  unfold AttackSurfaceCandidate.isProjected
  cases hsafety : candidate.safety <;> simp_all
  tauto

theorem exists_templates
    (h : ∀ candidate ∈ candidates, ∃ template, candidate.buildRequestTemplate = .ok template) :
    ∃ templates, List.Forall₂
      (fun candidate template => candidate.buildRequestTemplate = .ok template)
      candidates templates := by
  induction candidates with
  | nil => exact ⟨[], .nil⟩
  | cons candidate rest ih =>
    obtain ⟨template, htemplate⟩ := h candidate mem_cons_self
    obtain ⟨templates, htemplates⟩ := ih fun other hother => h other (mem_cons_of_mem _ hother)
    exact ⟨template :: templates, .cons htemplate htemplates⟩

theorem projects_iff :
    Projects allowPost allowJson permitted candidates ↔
      ∀ candidate ∈ candidates, candidate.Fits allowPost allowJson permitted := by
  constructor
  · rintro ⟨templates, htemplates, hwanted⟩ candidate hmem hprojected
    have hprojects := toRequestTemplates_eq_ok.mp htemplates
    -- as many are wanted as are projected
    have hsublist : (candidates.filter (·.isWanted allowPost allowJson permitted)).Sublist
        (candidates.filter (·.isProjected allowPost allowJson)) :=
      monotone_filter_right _ fun _ => isProjected_of_isWanted
    have hsame := hsublist.eq_of_length (hwanted.length_eq.trans hprojects.length_eq.symm)
    have hfiltered : candidate ∈ candidates.filter (·.isProjected allowPost allowJson) :=
      mem_filter.mpr ⟨hmem, hprojected⟩
    refine ⟨(mem_filter.mp (hsame ▸ hfiltered)).2, ?_⟩
    obtain ⟨index, hindex, rfl⟩ := getElem_of_mem hfiltered
    have hlength : index < templates.length := hprojects.length_eq ▸ hindex
    exact ⟨templates[index], hprojects.get hindex hlength⟩
  · intro hfits
    have hsame : candidates.filter (·.isWanted allowPost allowJson permitted) =
        candidates.filter (·.isProjected allowPost allowJson) := by
      refine filter_congr fun candidate hmem => ?_
      rw [Bool.eq_iff_iff]
      exact ⟨isProjected_of_isWanted, fun hprojected => (hfits candidate hmem hprojected).1⟩
    have hbuilt : ∀ candidate ∈ candidates.filter (·.isProjected allowPost allowJson),
        ∃ template, candidate.buildRequestTemplate = .ok template := by
      intro candidate hcandidate
      obtain ⟨hmem, hprojected⟩ := mem_filter.mp hcandidate
      exact (hfits candidate hmem hprojected).2
    obtain ⟨templates, htemplates⟩ := exists_templates hbuilt
    exact ⟨templates, toRequestTemplates_eq_ok.mpr htemplates, hsame ▸ htemplates⟩

/-! ## Templates that can be built -/

omit [StandardLibrary] in
theorem exists_postInit {template : RequestTemplate} (hendpoint : ':' ∈ template.endpoint)
    (hmethod : stripText template.method ≠ []) :
    ∃ built, template.postInit = .ok built := by
  unfold RequestTemplate.postInit
  rw [if_neg (by simpa using stripText_ne_nil_of_colon hendpoint), if_neg (by simpa using hmethod)]
  exact ⟨_, rfl⟩

section

variable {candidate : AttackSurfaceCandidate} (hendpoint : ':' ∈ characters candidate.endpoint)

include hendpoint

theorem exists_queryTemplate (hquery : candidate.isQuery = true) :
    ∃ template, candidate.buildRequestTemplate = .ok template := by
  have hmethod : stripText (ofString "GET") ≠ [] := by decide
  unfold AttackSurfaceCandidate.buildRequestTemplate
  rw [if_pos hquery]
  exact exists_postInit hendpoint hmethod

theorem exists_formTemplate (hlocation : candidate.inputLocation = .form)
    (hmethod : candidate.method = ofString "POST") :
    ∃ template, candidate.buildRequestTemplate = .ok template := by
  have hpost : stripText (ofString "POST") ≠ [] := by decide
  have hquery : candidate.isQuery = false := by
    have hne : ofString "POST" ≠ ofString "GET" := by decide
    simp [AttackSurfaceCandidate.isQuery, hmethod, hne]
  unfold AttackSurfaceCandidate.buildRequestTemplate
  rw [if_neg (by simp [hquery]), hlocation]
  refine exists_postInit hendpoint ?_
  show stripText candidate.method ≠ []
  rw [hmethod]
  exact hpost

theorem exists_jsonTemplate (hlocation : candidate.inputLocation = .jsonBody)
    (hmethod : stripText candidate.method ≠ []) :
    ∃ template, candidate.buildRequestTemplate = .ok template := by
  unfold AttackSurfaceCandidate.buildRequestTemplate
  rw [if_neg (by simp [AttackSurfaceCandidate.isQuery, hlocation]), hlocation]
  exact exists_postInit hendpoint hmethod

end

/-! ## Kinds of candidates -/

section

variable {candidate : AttackSurfaceCandidate}

theorem fits_unsupported (hunsupported : candidate.safety = .unsupported) :
    candidate.Fits allowPost allowJson permitted := by
  intro hprojected
  rw [AttackSurfaceCandidate.isProjected, hunsupported] at hprojected
  cases hprojected

theorem fits_query (hendpoint : ':' ∈ characters candidate.endpoint)
    (hquery : candidate.isQuery = true) (hsafe : candidate.safety = .safeToProbe) :
    candidate.Fits allowPost allowJson permitted := by
  intro _
  refine ⟨?_, exists_queryTemplate hendpoint hquery⟩
  simp [AttackSurfaceCandidate.isWanted, hsafe, hquery]

theorem fits_form (hendpoint : ':' ∈ characters candidate.endpoint)
    (hlocation : candidate.inputLocation = .form) :
    candidate.Fits allowPost allowJson permitted := by
  intro hprojected
  unfold AttackSurfaceCandidate.isProjected at hprojected
  cases hsafety : candidate.safety with
  | safeToProbe =>
    rw [hsafety] at hprojected
    have hquery : candidate.isQuery = true := by
      have hget : candidate.method = ofString "GET" := by simpa using hprojected
      simp [AttackSurfaceCandidate.isQuery, hlocation, hget]
    exact ⟨by simp [AttackSurfaceCandidate.isWanted, hsafety, hquery],
      exists_queryTemplate hendpoint hquery⟩
  | requiresExplicitActiveAuthorization =>
    rw [hsafety] at hprojected
    have hpost : allowPost = true ∧ candidate.method = ofString "POST" := by
      simpa [hlocation] using hprojected
    exact ⟨by simp [AttackSurfaceCandidate.isWanted, hsafety, hlocation, hpost],
      exists_formTemplate hendpoint hlocation hpost.2⟩
  | potentiallyStateChanging =>
    rw [hsafety] at hprojected
    cases hprojected
  | unsupported =>
    rw [hsafety] at hprojected
    cases hprojected

theorem fits_operation_iff (hlocation : candidate.inputLocation = .path)
    (hsafe : candidate.safety = .safeToProbe ↔ candidate.method = ofString "GET") :
    candidate.Fits allowPost allowJson permitted ↔ candidate.method ≠ ofString "GET" := by
  have hwanted : candidate.isWanted allowPost allowJson permitted = false := by
    simp [AttackSurfaceCandidate.isWanted, AttackSurfaceCandidate.isQuery, hlocation]
  have hprojected : candidate.isProjected allowPost allowJson = true ↔
      candidate.method = ofString "GET" := by
    unfold AttackSurfaceCandidate.isProjected
    cases hsafety : candidate.safety <;> simp [hsafety, hlocation] at hsafe ⊢ <;> exact hsafe
  unfold AttackSurfaceCandidate.Fits
  rw [hprojected, hwanted]
  simp

theorem fits_body_iff (hendpoint : ':' ∈ characters candidate.endpoint)
    (hlocation : candidate.inputLocation = .jsonBody) (hmethod : stripText candidate.method ≠ [])
    (hsafe : candidate.safety = .safeToProbe ↔ candidate.method = ofString "GET") :
    candidate.Fits allowPost allowJson permitted ↔
      candidate.method ≠ ofString "GET" ∧ ¬candidate.IsUnpermittedBody allowJson permitted := by
  have hbuilt := exists_jsonTemplate hendpoint hlocation hmethod
  have hquery : candidate.isQuery = false := by
    simp [AttackSurfaceCandidate.isQuery, hlocation]
  unfold AttackSurfaceCandidate.Fits AttackSurfaceCandidate.isWanted
    AttackSurfaceCandidate.isProjected AttackSurfaceCandidate.IsUnpermittedBody
  by_cases hget : candidate.method = ofString "GET"
  · rw [hsafe.mpr hget]
    simp [hget, hquery]
  · have hnot : candidate.safety ≠ .safeToProbe := fun h => hget (hsafe.mp h)
    cases hsafety : candidate.safety with
    | safeToProbe => exact absurd hsafety hnot
    | requiresExplicitActiveAuthorization =>
      cases allowJson with
      | false => simp [hget, hlocation]
      | true => simp [hget, hlocation, hbuilt]
    | potentiallyStateChanging => simp [hget]
    | unsupported => simp [hget]

end

end

/-! ## Pages and sites -/

section

variable [UnicodeTables] [LowerTable] {sha256 : List Nat → PyText} {target : PyTarget}
  {budget : AttackSurfaceBudget} {allowPost allowJson : Bool} {permitted : List PyText}

omit [StandardLibrary] [UnicodeTables] in
theorem classifySafety_eq_safe {method path : PyText} {fieldNames : List PyText} :
    classifySafety method path fieldNames = .safeToProbe ↔ method = ofString "GET" := by
  unfold classifySafety
  split
  next h => simp [h]
  next h => split <;> simp [h]

section

omit [StandardLibrary] [UnicodeTables] [LowerTable]

theorem colon_mem_canonicalEndpoint (parsed : SplitResult) (path : Text) :
    ':' ∈ characters (ActiveDetection.canonicalEndpoint parsed path) := by
  unfold ActiveDetection.canonicalEndpoint
  rw [characters_codePoints]
  simp

theorem colon_mem_withSurrogates {path : PyText} {absolute : Text} (h : ':' ∈ absolute) :
    ':' ∈ characters (withSurrogates path absolute) := by
  unfold withSurrogates
  split
  · rw [characters_codePoints]
    exact h
  · exact mem_map.mpr ⟨':'.toNat, mem_map.mpr ⟨':', h, by decide⟩, by decide⟩

theorem stripText_of_mem_operationMethods {method : PyText} (h : method ∈ operationMethods) :
    stripText method ≠ [] := by
  have hall : operationMethods.all (fun m => !(stripText m).isEmpty) = true := by decide
  simpa using all_eq_true.mp hall method h

end

variable (hweb : target.scheme = http ∨ target.scheme = https)

include hweb

variable {candidate : AttackSurfaceCandidate}

theorem fits_of_pageCandidate {pageUrl : Text} (hpage : OnTarget target pageUrl)
    (h : PageCandidate target pageUrl candidate.toCandidateFields) :
    candidate.Fits allowPost allowJson permitted := by
  obtain ⟨fields, parsed, candidateId, splits⟩ := candidate
  dsimp only at h
  cases h with
  | form form reference actionUrl _ fields fieldName hjoined horigin _ hfield =>
    refine fits_form ?_ rfl
    show ':' ∈ characters (codePoints actionUrl)
    rw [characters_codePoints]
    exact colon_mem_of_joined hweb hpage hjoined horigin
  | link reference absolute located parameter hjoined horigin hparsed =>
    exact fits_query (colon_mem_canonicalEndpoint _ _) rfl rfl
  | literal literal absolute hjoined horigin => exact fits_unsupported rfl

theorem fits_siteCandidate_iff {φ : Type} [PyFloat φ] [NamedFloats φ]
    (h : SiteCandidate φ target budget candidate.toCandidateFields) :
    candidate.Fits allowPost allowJson permitted ↔
      ¬candidate.IsGetOperation ∧ ¬candidate.IsUnpermittedBody allowJson permitted := by
  obtain ⟨fields, parsed, candidateId, splits⟩ := candidate
  dsimp only at h
  cases h with
  | loc url located parameter horigin hparsed =>
    refine iff_of_true (fits_query (colon_mem_canonicalEndpoint _ _) rfl rfl) ⟨?_, ?_⟩
    · rintro ⟨hmethod, -⟩
      cases hmethod
    · rintro ⟨-, hlocation, -⟩
      cases hlocation
  | robots path absolute hjoined horigin =>
    refine iff_of_true (fits_unsupported rfl) ⟨?_, ?_⟩
    · rintro ⟨hmethod, -⟩
      cases hmethod
    · rintro ⟨-, hlocation, -⟩
      cases hlocation
  | operation documentUrl path method absolute hdocument hjoined horigin hmethod =>
    rw [fits_operation_iff rfl classifySafety_eq_safe]
    constructor
    · intro hget
      refine ⟨fun h => hget h.2, ?_⟩
      rintro ⟨-, hlocation, -⟩
      cases hlocation
    · rintro ⟨hget, -⟩ hmethod
      exact hget ⟨rfl, hmethod⟩
  | body documentUrl path method absolute operation _ hdocument hjoined horigin hmethod _ hfields =>
    obtain ⟨hendpoint, rfl, hlocation, hopenapi, paths, -, hsafety⟩ :=
      mem_jsonBodyCandidates hfields
    have hcolon : ':' ∈ characters fields.endpoint := by
      rw [hendpoint]
      exact colon_mem_withSurrogates
        (colon_mem_of_joined hweb (requireSameOrigin_eq_ok.mp hdocument.origin) hjoined horigin)
    have hsafe : fields.safety = .safeToProbe ↔ fields.method = ofString "GET" := by
      rw [hsafety]
      exact classifySafety_eq_safe
    rw [fits_body_iff hcolon hlocation (stripText_of_mem_operationMethods hmethod) hsafe]
    refine and_congr_left fun _ => ?_
    constructor
    · intro hget h
      exact hget h.2
    · intro hget hmethod
      exact hget ⟨hopenapi, hmethod⟩

end

/--
**A page's candidates are projected as they should be; a site's are, if and only if none of them is a
GET operation of an OpenAPI document or an authorised JSON body whose method is not permitted.**
-/
theorem discovered_projects_iff [UnicodeTables] [LowerTable] [NetworkLibrary] (φ : Type) [PyFloat φ]
    [NamedFloats φ] (sha256 : List Nat → PyText) (interpreter : Interpreter)
    (budget : AttackSurfaceBudget) (allowPost allowJson : Bool) (permitted : List PyText)
    {url : PyText} {policy : ValidationPolicy} {resolver : Resolver} {target : PyTarget}
    (htarget : validateTarget url policy resolver = .ok target) :
    (∀ pageUrl feed htmlBody result, ActiveDetection.requireSameOrigin target pageUrl = .ok () →
      discoverPageAttackSurface sha256 target budget pageUrl feed htmlBody = .ok result →
      Projects allowPost allowJson permitted result.candidates) ∧
    ∀ surroundings result,
      discoverSiteAttackSurface sha256 target φ interpreter budget surroundings = .ok result →
      (Projects allowPost allowJson permitted result.candidates ↔
        ∀ candidate ∈ result.candidates,
          ¬candidate.IsGetOperation ∧ ¬candidate.IsUnpermittedBody allowJson permitted) := by
  have hweb : target.scheme = http ∨ target.scheme = https := by
    obtain ⟨-, -, -, -, parsed, fields, -, hfields, rfl⟩ := validateTarget_eq_ok.mp htarget
    exact hfields.web
  constructor
  · intro pageUrl feed htmlBody result hpage hresult
    rw [projects_iff]
    intro candidate hcandidate
    exact fits_of_pageCandidate hweb (requireSameOrigin_eq_ok.mp hpage)
      (pageCandidate_of_discover hresult candidate hcandidate)
  · intro surroundings result hresult
    rw [projects_iff]
    refine forall_congr' fun candidate => forall_congr' fun hcandidate => ?_
    exact fits_siteCandidate_iff hweb (siteCandidate_of_discover hresult candidate hcandidate)

end

/-! ## One host -/

def sampleTarget : PyTarget := scannedTarget "https://h.com/" "https://h.com/" "8.8.8.8"

theorem sampleTarget_accepted :
    letI := transitionLibrary; letI := transitionNetwork
    validateTarget (ofString "https://h.com/") commercialPolicy (answering "8.8.8.8")
      = .ok sampleTarget := by
  decide +kernel

/-- A site without a sitemap and a `robots.txt`, and with an OpenAPI document. -/
def servingDocument (document : String) : SiteSurroundings where
  cancelled _ := false
  exchange place :=
    if place = 2 then .answered ⟨200, ofString document⟩ else .answered ⟨404, []⟩

def loginPage : List HtmlEvent :=
  [.startTag ⟨"form".toList, [("method".toList, some "post".toList)]⟩,
    .startTag ⟨"input".toList, [("name".toList, some "user".toList)]⟩,
    .endTag "form".toList,
    .startTag ⟨['a'], [("href".toList, some "/search?q=1".toList)]⟩]

def loginDocument : String :=
  "\x7b\"paths\": \x7b\"/login\": \x7b\"post\": \x7b\"requestBody\": \x7b\"content\": "
    ++ "\x7b\"application/json\": \x7b\"example\": \x7b\"user\": \"a\""
    ++ "\x7d\x7d\x7d\x7d\x7d\x7d\x7d\x7d"

def itemsDocument : String :=
  "\x7b\"paths\": \x7b\"/items\": \x7b\"get\": \x7b\x7d\x7d\x7d\x7d"

theorem loginSite_candidates :
    letI := transitionLibrary; letI := oneFloat; letI := unnamedFloats; letI := asciiTables
    letI := asciiLower
    (match discoverSiteAttackSurface id sampleTarget Unit cpython {} (servingDocument loginDocument)
      with
    | .ok result => decide (result.candidates.length = 2 ∧ ∀ candidate ∈ result.candidates,
        ¬candidate.IsGetOperation ∧
          ¬candidate.IsUnpermittedBody true [ofString "GET", ofString "POST"])
    | .error _ => false) = true := by
  decide +kernel

def unsupportedOperation : MutationFailure :=
  .template (.requestTemplate "request_template_unsupported_candidate"
    ("Cannot build a request template for input location <InputLocation.PATH: 'path'> "
      ++ "and method 'GET'."))

theorem itemsSite_projection :
    letI := transitionLibrary; letI := oneFloat; letI := unnamedFloats; letI := asciiTables
    letI := asciiLower
    (match discoverSiteAttackSurface id sampleTarget Unit cpython {} (servingDocument itemsDocument)
      with
    | .ok result =>
      match toRequestTemplates false false result.candidates with
      | .error failure => decide (failure = unsupportedOperation)
      | .ok _ => false
    | .error _ => false) = true := by
  decide +kernel

theorem discovered_projects_login :
    letI := transitionLibrary; letI := oneFloat; letI := unnamedFloats; letI := asciiTables
    letI := asciiLower
    (∃ result, discoverPageAttackSurface id sampleTarget {} "https://h.com/".toList
        (fun _ => .ok loginPage) [] = .ok result ∧
      result.candidates.length = 2 ∧
      Projects true true [ofString "GET", ofString "POST"] result.candidates) ∧
    ∃ result, discoverSiteAttackSurface id sampleTarget Unit cpython {}
        (servingDocument loginDocument) = .ok result ∧
      result.candidates.length = 2 ∧
      Projects true true [ofString "GET", ofString "POST"] result.candidates := by
  let _ := transitionLibrary
  let _ := transitionNetwork
  let _ := oneFloat
  let _ := unnamedFloats
  let _ := asciiTables
  let _ := asciiLower
  obtain ⟨hpages, hsites⟩ := discovered_projects_iff Unit id cpython {} true true
    [ofString "GET", ofString "POST"] sampleTarget_accepted
  constructor
  · have hlength : (discoverPageAttackSurface id sampleTarget {} "https://h.com/".toList
        (fun _ => .ok loginPage) []).toOption.map (·.candidates.length) = some 2 := by
      decide +kernel
    cases hresult : discoverPageAttackSurface id sampleTarget {} "https://h.com/".toList
        (fun _ => .ok loginPage) [] with
    | error failure =>
      rw [hresult] at hlength
      cases hlength
    | ok result =>
      rw [hresult] at hlength
      exact ⟨result, rfl, Option.some.inj hlength,
        hpages _ _ _ result (by decide +kernel) hresult⟩
  · have hcandidates := loginSite_candidates
    split at hcandidates
    next result hresult =>
      obtain ⟨hlength, hfits⟩ := of_decide_eq_true hcandidates
      exact ⟨result, hresult, hlength, (hsites _ result hresult).mpr hfits⟩
    next => cases hcandidates

/-- A GET operation of an OpenAPI document ends the projection with an error. -/
theorem get_operation_not_projected :
    letI := transitionLibrary; letI := oneFloat; letI := unnamedFloats; letI := asciiTables
    letI := asciiLower
    ∃ result, discoverSiteAttackSurface id sampleTarget Unit cpython {}
        (servingDocument itemsDocument) = .ok result ∧
      toRequestTemplates false false result.candidates = .error unsupportedOperation ∧
      ¬Projects false false [ofString "GET"] result.candidates := by
  let _ := transitionLibrary
  let _ := oneFloat
  let _ := unnamedFloats
  let _ := asciiTables
  let _ := asciiLower
  have hsite := itemsSite_projection
  split at hsite
  next result hresult =>
    split at hsite
    next failure hfailure =>
      have herror := hfailure.trans (congrArg Except.error (of_decide_eq_true hsite))
      refine ⟨result, hresult, herror, ?_⟩
      rintro ⟨templates, htemplates, -⟩
      rw [herror] at htemplates
      cases htemplates
    next => cases hsite
  next => cases hsite

end WebGuard.AttackSurface
