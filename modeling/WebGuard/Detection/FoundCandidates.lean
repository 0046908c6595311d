import WebGuard.Detection.SiteDiscovery

/-!
# What discovery finds

Each candidate of a result comes from a form, a link, a script, a sitemap, `robots.txt` or an
operation of an OpenAPI document, and its URL has passed the check of the origin.
-/

namespace WebGuard.AttackSurface

open PyJson UrlParse Atomic List
open FindingContract (LowerTable)
open Pagination (Interpreter plainHooks)

variable [StandardLibrary] [UnicodeTables] {sha256 : List Nat → PyText}

/-! ## Loops -/

/-- The constructor has made the candidate. -/
def Discovered (sha256 : List Nat → PyText) (candidate : AttackSurfaceCandidate) : Prop :=
  candidate.toCandidateFields.postInit sha256 = .ok candidate

/-- All candidates so far were made by the constructor and have a property of their fields. -/
def Collected.Sound (sha256 : List Nat → PyText) (P : CandidateFields → Prop)
    (collected : Collected) : Prop :=
  ∀ candidate ∈ collected.candidates, Discovered sha256 candidate ∧ P candidate.toCandidateFields

/-- A loop or one of its rounds keeps a property of the fields. -/
def Keeps (sha256 : List Nat → PyText) (P : CandidateFields → Prop)
    (step : Collected → Except DiscoveryFailure Collected) : Prop :=
  ∀ collected added, step collected = .ok added →
    collected.Sound sha256 P → added.Sound sha256 P

variable {candidate : AttackSurfaceCandidate} {fields : CandidateFields} {collected : Collected}
  {result : DiscoveryResult}

theorem postInit_eq_ok (h : fields.postInit sha256 = .ok candidate) :
    candidate.toCandidateFields = fields ∧ fields.hasEncodableKey = true := by
  unfold CandidateFields.postInit at h
  split at h
  · cases h
  · split at h
    next hkey =>
      cases h
      exact ⟨rfl, hkey⟩
    · cases h

theorem discovered_of_postInit (h : fields.postInit sha256 = .ok candidate) :
    Discovered sha256 candidate := by
  unfold Discovered
  rw [(postInit_eq_ok h).1]
  exact h

section

variable {P : CandidateFields → Prop}

theorem Collected.Sound.append (h : collected.Sound sha256 P)
    (hcandidate : Discovered sha256 candidate ∧ P candidate.toCandidateFields) :
    ({ collected with candidates := collected.candidates ++ [candidate] } : Collected).Sound sha256 P := by
  intro other hother
  rcases mem_append.mp hother with hother | hother
  · exact h other hother
  · rw [mem_singleton.mp hother]
    exact hcandidate

theorem Collected.Sound.add (h : collected.Sound sha256 P)
    (hcandidate : Discovered sha256 candidate ∧ P candidate.toCandidateFields)
    (maximumEndpoints : Nat) : (collected.add maximumEndpoints candidate).1.Sound sha256 P := by
  unfold Collected.add
  split
  · exact h
  · split
    · exact h
    · exact h.append hcandidate

variable {fields : List CandidateFields}

theorem keeps_addAll (maximumEndpoints : Nat) (hfields : ∀ f ∈ fields, P f) : Keeps sha256 P
    (addAll sha256 maximumEndpoints fields) := by
  induction fields with
  | nil =>
    intro collected added h hsound
    cases h
    exact hsound
  | cons f rest ih =>
    intro collected added h hsound
    unfold addAll at h
    split at h
    · cases h
    · next candidate hcandidate =>
      have hf : P candidate.toCandidateFields := by
        rw [(postInit_eq_ok hcandidate).1]
        exact hfields f mem_cons_self
      have hadded := hsound.add ⟨discovered_of_postInit hcandidate, hf⟩ maximumEndpoints
      dsimp only at h
      split at h
      · exact ih (fun g hg => hfields g (mem_cons_of_mem f hg)) _ _ h hadded
      · cases h
        exact hadded

theorem keeps_extendAll (hfields : ∀ f ∈ fields, f.hasEncodableKey = true → P f) :
    Keeps sha256 P (extendAll sha256 fields) := by
  induction fields with
  | nil =>
    intro collected added h hsound
    cases h
    exact hsound
  | cons f rest ih =>
    intro collected added h hsound
    unfold extendAll at h
    split at h
    · cases h
    · next candidate hcandidate =>
      refine ih (fun g hg => hfields g (mem_cons_of_mem f hg)) _ _ h
        (hsound.append ⟨discovered_of_postInit hcandidate, ?_⟩)
      obtain ⟨hsame, hkey⟩ := postInit_eq_ok hcandidate
      rw [hsame]
      exact hfields f mem_cons_self hkey

theorem keeps_collectAll {α : Type} {round : α → Collected → Except DiscoveryFailure Collected}
    {items : List α} (hround : ∀ item ∈ items, Keeps sha256 P (round item)) :
    Keeps sha256 P (collectAll round items) := by
  induction items with
  | nil =>
    intro collected added h hsound
    cases h
    exact hsound
  | cons item rest ih =>
    intro collected added h hsound
    unfold collectAll at h
    split at h
    · cases h
    · next after hafter =>
      exact ih (fun other hother => hround other (mem_cons_of_mem item hother)) _ _ h
        (hround item mem_cons_self _ _ hafter hsound)

end

/-! ## Pages -/

section

variable [LowerTable] {target : PyTarget} {pageUrl : Text} {budget : AttackSurfaceBudget}

/-- Where a candidate of a page comes from. -/
inductive PageCandidate (target : PyTarget) (pageUrl : Text) : CandidateFields → Prop
  | form (form : FormState) (reference actionUrl : Text) (parsed : SplitResult)
      (fields : List PyText) (fieldName : PyText) (hjoined : joined pageUrl reference = .ok actionUrl)
      (horigin : sameOrigin target actionUrl = .ok true) (hparsed : urlsplit actionUrl = some parsed)
      (hfield : fieldName ∈ fields) :
      PageCandidate target pageUrl (formCandidate form actionUrl pageUrl parsed.path fields fieldName)
  | link (reference absolute : Text) (parsed : SplitResult) (parameter : Text × List Text)
      (hjoined : joined pageUrl reference = .ok absolute)
      (horigin : sameOrigin target absolute = .ok true) (hparsed : urlsplit absolute = some parsed) :
      PageCandidate target pageUrl (queryCandidate parsed pageUrl .linkParameter parameter)
  | literal (literal absolute : Text) (hjoined : joined pageUrl literal = .ok absolute)
      (horigin : sameOrigin target absolute = .ok true) :
      PageCandidate target pageUrl (literalCandidate literal absolute pageUrl)

theorem keeps_addForm (form : FormState) :
    Keeps sha256 (PageCandidate target pageUrl) (addForm sha256 target budget pageUrl form) := by
  intro collected added h hsound
  unfold addForm at h
  split at h
  · cases h
  next actionUrl hjoined =>
  split at h
  · cases h
  · cases h
    exact hsound
  next horigin =>
  dsimp only at h
  split at h
  · split at h
    · cases h
      exact hsound
    · cases h
  next parsed hparsed =>
  refine keeps_addAll _ ?_ _ _ h hsound
  intro f hf
  obtain ⟨name, hname, rfl⟩ := mem_map.mp hf
  exact .form form _ actionUrl parsed _ name hjoined horigin hparsed hname

theorem keeps_addLink (href : Text) :
    Keeps sha256 (PageCandidate target pageUrl) (addLink sha256 target budget pageUrl href) := by
  intro collected added h hsound
  unfold addLink at h
  split at h
  · cases h
  next absolute hjoined =>
  split at h
  · cases h
  · cases h
    exact hsound
  next horigin =>
  split at h
  · cases h
  next parsed hparsed =>
  refine keeps_addAll _ ?_ _ _ h hsound
  intro f hf
  obtain ⟨parameter, -, rfl⟩ := mem_map.mp hf
  exact .link href absolute parsed parameter hjoined horigin hparsed

theorem keeps_addLiteral (literal : Text) :
    Keeps sha256 (PageCandidate target pageUrl) (addLiteral sha256 target budget pageUrl literal) := by
  intro collected added h hsound
  unfold addLiteral at h
  split at h
  · cases h
  next absolute hjoined =>
  split at h
  · cases h
  · cases h
    exact hsound
  next horigin =>
  refine keeps_addAll _ ?_ _ _ h hsound
  intro f hf
  rw [mem_singleton.mp hf]
  exact .literal literal absolute hjoined horigin

theorem sound_collectPage {parser : SurfaceHtmlParser}
    (h : collectPage sha256 target budget pageUrl parser = .ok collected) :
    collected.Sound sha256 (PageCandidate target pageUrl) := by
  unfold collectPage at h
  obtain ⟨forms, hforms, h⟩ := bind_ok h
  obtain ⟨links, hlinks, h⟩ := bind_ok h
  have hstart : Collected.Sound sha256 (PageCandidate target pageUrl) {} := by
    intro candidate hcandidate
    cases hcandidate
  have hforms := keeps_collectAll (fun form _ => keeps_addForm form) _ _ hforms hstart
  have hlinks := keeps_collectAll (fun href _ => keeps_addLink href) _ _ hlinks hforms
  exact keeps_collectAll (fun literal _ => keeps_addLiteral literal) _ _ h hlinks

theorem pageCandidate_of_discover {feed : Text → Except String (List HtmlEvent)}
    {htmlBody : List Nat}
    (h : discoverPageAttackSurface sha256 target budget pageUrl feed htmlBody = .ok result) :
    ∀ candidate ∈ result.candidates, PageCandidate target pageUrl candidate.toCandidateFields := by
  unfold discoverPageAttackSurface at h
  split at h
  · cases h
    simp
  · split at h
    · cases h
      simp
    · obtain ⟨collected, hcollected, rfl⟩ := map_ok_iff.mp h
      exact fun candidate hcandidate => (sound_collectPage hcollected candidate hcandidate).2

end

/-! ## Sites -/

section

variable {φ : Type} [PyFloat φ] [NamedFloats φ] [LowerTable] {interpreter : Interpreter}
  {target : PyTarget} {budget : AttackSurfaceBudget}

variable {documentUrl : Text} {surroundings : SiteSurroundings}

omit [StandardLibrary] [UnicodeTables] in
theorem mem_jsonBodyCandidates {endpoint method : PyText} {operation : Json PyText φ}
    (h : fields ∈ jsonBodyCandidates budget documentUrl endpoint method operation) :
    fields.endpoint = endpoint ∧ fields.method = method ∧ fields.inputLocation = .jsonBody ∧
      fields.discoveryMethod = .openapiDocument ∧
      ∃ paths, fields.parameter ∈ paths ∧ fields.safety = classifySafety method endpoint paths := by
  unfold jsonBodyCandidates at h
  dsimp only at h
  split at h
  · cases h
  · obtain ⟨path, hpath, rfl⟩ := mem_map.mp h
    exact ⟨rfl, rfl, rfl, rfl, _, hpath, rfl⟩

/-- The URL of an OpenAPI document that was fetched. -/
structure DocumentUrl (target : PyTarget) (documentUrl : Text) : Prop where
  joined : ∃ path ∈ openapiWellKnownPaths, originUrl target path = .ok documentUrl
  origin : ActiveDetection.requireSameOrigin target documentUrl = .ok ()

/-- Where a candidate of a site comes from. -/
inductive SiteCandidate (φ : Type) [PyFloat φ] [NamedFloats φ] (target : PyTarget)
    (budget : AttackSurfaceBudget) : CandidateFields → Prop
  | loc (url : Text) (parsed : SplitResult) (parameter : Text × List Text)
      (horigin : sameOrigin target url = .ok true) (hparsed : urlsplit url = some parsed) :
      SiteCandidate φ target budget (queryCandidate parsed url .sitemap parameter)
  | robots (path absolute : Text) (hjoined : originUrl target path = .ok absolute)
      (horigin : sameOrigin target absolute = .ok true) :
      SiteCandidate φ target budget (robotsCandidate absolute)
  | operation (documentUrl : Text) (path method : PyText) (absolute : Text)
      (hdocument : DocumentUrl target documentUrl)
      (hjoined : joined documentUrl (characters path) = .ok absolute)
      (horigin : sameOrigin target absolute = .ok true) (hmethod : method ∈ operationMethods) :
      SiteCandidate φ target budget
        (operationCandidate documentUrl (withSurrogates path absolute) path method)
  | body (documentUrl : Text) (path method : PyText) (absolute : Text)
      (operation : Json PyText φ) (fields : CandidateFields)
      (hdocument : DocumentUrl target documentUrl)
      (hjoined : joined documentUrl (characters path) = .ok absolute)
      (horigin : sameOrigin target absolute = .ok true) (hmethod : method ∈ operationMethods)
      (hkey : fields.hasEncodableKey = true)
      (hfields : fields ∈ jsonBodyCandidates budget documentUrl (withSurrogates path absolute) method
        operation) :
      SiteCandidate φ target budget fields

variable {P : CandidateFields → Prop}

omit [LowerTable] in
theorem keeps_onlySameOrigin {text : PyText} {url : Text}
    {next : Collected → Except DiscoveryFailure Collected}
    (hnext : sameOrigin target url = .ok true → Keeps sha256 P next) :
    Keeps sha256 P (onlySameOrigin target text url next) := by
  intro collected added h hsound
  unfold onlySameOrigin at h
  split at h
  · cases h
  · cases h
    exact hsound
  next horigin => exact hnext horigin collected added h hsound

theorem keeps_addLoc (url : Text) :
    Keeps sha256 (SiteCandidate φ target budget) (addLoc sha256 target url) := by
  refine keeps_onlySameOrigin fun horigin => ?_
  intro collected added h hsound
  split at h
  · cases h
  next parsed hparsed =>
  refine keeps_extendAll ?_ _ _ h hsound
  intro f hf _
  obtain ⟨parameter, -, rfl⟩ := mem_map.mp hf
  exact .loc url parsed parameter horigin hparsed

theorem keeps_addRobotsPath (path : Text) :
    Keeps sha256 (SiteCandidate φ target budget) (addRobotsPath sha256 target path) := by
  intro collected added h hsound
  unfold addRobotsPath at h
  split at h
  · cases h
  next absolute hjoined =>
  refine keeps_onlySameOrigin (fun horigin => keeps_extendAll ?_) _ _ h hsound
  intro f hf _
  rw [mem_singleton.mp hf]
  exact .robots path absolute hjoined horigin

theorem keeps_addOpenapiPath (hdocument : DocumentUrl target documentUrl)
    (entry : PyText × Json PyText φ) :
    Keeps sha256 (SiteCandidate φ target budget)
      (addOpenapiPath sha256 target budget documentUrl entry) := by
  intro collected added h hsound
  unfold addOpenapiPath at h
  split at h
  next operations hoperations =>
    split at h
    · cases h
    next absolute hjoined =>
    refine keeps_onlySameOrigin (fun horigin => keeps_extendAll ?_) _ _ h hsound
    intro f hf hkey
    unfold operationCandidates at hf
    obtain ⟨operation, -, hf⟩ := mem_flatMap.mp hf
    dsimp only at hf
    split at hf
    next hmethod =>
      have hmethod := contains_iff_mem.mp hmethod
      rcases mem_cons.mp hf with rfl | hf
      · exact .operation documentUrl entry.1 _ absolute hdocument hjoined horigin hmethod
      · exact .body documentUrl entry.1 _ absolute operation.2 f hdocument hjoined horigin
          hmethod hkey hf
    · cases hf
  · cases h
    exact hsound

theorem keeps_addOpenapiDocument (hdocument : DocumentUrl target documentUrl) (body : List Nat) :
    Keeps sha256 (SiteCandidate φ target budget)
      (addOpenapiDocument sha256 target φ interpreter budget documentUrl body) := by
  intro collected added h hsound
  unfold addOpenapiDocument at h
  dsimp only at h
  split at h
  · cases h
    exact hsound
  split at h
  · cases h
  · cases h
  · cases h
    exact hsound
  · split at h
    · exact keeps_collectAll (fun entry _ => keeps_addOpenapiPath hdocument entry) _ _ h hsound
    · cases h
      exact hsound
  · cases h
    exact hsound

variable {exchange : ActiveDetection.Exchange}

omit [LowerTable] in
theorem keeps_addFile {path : Text} {reason : String}
    {next : List Nat → Collected → Except DiscoveryFailure Collected}
    (hnext : ∀ body, Keeps sha256 P (next body)) :
    Keeps sha256 P (addFile target budget path reason exchange next) := by
  intro collected added h hsound
  unfold addFile at h
  split at h
  · cases h
  · split at h
    · exact hnext _ _ _ h hsound
    · cases h
      exact hsound
  · cases h
    exact hsound

omit [UnicodeTables] [LowerTable] in
theorem requireSameOrigin_of_fetchPath {path url : Text}
    {response : Option ActiveDetection.ProbeResponse}
    (h : fetchPath target path exchange = .ok response) (hurl : originUrl target path = .ok url) :
    ActiveDetection.requireSameOrigin target url = .ok () := by
  unfold fetchPath at h
  rw [hurl] at h
  dsimp only at h
  split at h
  · cases h
  · assumption

variable (exchange : ActiveDetection.Exchange)

theorem keeps_addSitemap :
    Keeps sha256 (SiteCandidate φ target budget) (addSitemap sha256 target budget exchange) :=
  keeps_addFile fun _ => keeps_collectAll fun url _ => keeps_addLoc url

theorem keeps_addRobots :
    Keeps sha256 (SiteCandidate φ target budget) (addRobots sha256 target budget exchange) :=
  keeps_addFile fun _ => keeps_collectAll fun path _ => keeps_addRobotsPath path

theorem keeps_addOpenapi (surroundings : SiteSurroundings) (paths : List Text)
    (hpaths : ∀ path ∈ paths, path ∈ openapiWellKnownPaths) :
    ∀ place fetched, Keeps sha256 (SiteCandidate φ target budget)
      (addOpenapi sha256 target φ interpreter budget surroundings place fetched paths) := by
  induction paths with
  | nil =>
    intro place fetched collected added h hsound
    cases h
    exact hsound
  | cons path rest ih =>
    have ih := ih fun other hother => hpaths other (mem_cons_of_mem path hother)
    intro place fetched collected added h hsound
    unfold addOpenapi at h
    split at h
    · cases h
      exact hsound
    split at h
    · cases h
      exact hsound
    split at h
    · cases h
    · exact ih _ _ _ _ h hsound
    next response hfetch =>
    split at h
    · split at h
      · cases h
      next documentUrl hurl =>
      have hdocument : DocumentUrl target documentUrl :=
        ⟨⟨path, hpaths path mem_cons_self, hurl⟩, requireSameOrigin_of_fetchPath hfetch hurl⟩
      split at h
      · cases h
      next after hafter =>
      exact ih _ _ _ _ h (keeps_addOpenapiDocument hdocument _ _ _ hafter hsound)
    · exact ih _ _ _ _ h hsound

omit [UnicodeTables] [LowerTable] in
theorem mem_dedupe {maximumEndpoints : Nat} (candidates : List AttackSurfaceCandidate)
    (collected : Collected)
    (h : candidate ∈ (dedupe maximumEndpoints candidates collected).candidates) :
    candidate ∈ collected.candidates ∨ candidate ∈ candidates := by
  induction candidates generalizing collected with
  | nil => exact .inl h
  | cons first rest ih =>
    unfold dedupe at h
    split at h
    · rcases ih _ h with h | h
      · exact .inl h
      · exact .inr (mem_cons_of_mem first h)
    · have hadded : candidate ∈ collected.candidates ++ [first] →
          candidate ∈ collected.candidates ∨ candidate ∈ first :: rest := by
        intro hmem
        rcases mem_append.mp hmem with hmem | hmem
        · exact .inl hmem
        · exact .inr (mem_singleton.mp hmem ▸ mem_cons_self)
      dsimp only at h
      split at h
      · exact hadded h
      · rcases ih _ h with h | h
        · exact hadded h
        · exact .inr (mem_cons_of_mem first h)

/-- What a pass over a site has collected when it ends or comes to the de-duplication. -/
def collectSite (sha256 : List Nat → PyText) (target : PyTarget) (φ : Type) [PyFloat φ]
    [NamedFloats φ] (interpreter : Interpreter) (budget : AttackSurfaceBudget)
    (surroundings : SiteSurroundings) : Except DiscoveryFailure Collected :=
  if surroundings.cancelled 0 then .ok {}
  else
    match addSitemap sha256 target budget (surroundings.exchange 0) {} with
    | .error failure => .error failure
    | .ok sitemap =>
      if surroundings.cancelled 1 then .ok sitemap
      else
        match addRobots sha256 target budget (surroundings.exchange 1) sitemap with
        | .error failure => .error failure
        | .ok robots =>
          addOpenapi sha256 target φ interpreter budget surroundings 2 0 openapiWellKnownPaths robots

theorem sound_collectSite
    (h : collectSite sha256 target φ interpreter budget surroundings = .ok collected) :
    collected.Sound sha256 (SiteCandidate φ target budget) := by
  have hstart : Collected.Sound sha256 (SiteCandidate φ target budget) {} := by
    intro candidate hcandidate
    cases hcandidate
  unfold collectSite at h
  split at h
  · cases h
    exact hstart
  split at h
  · cases h
  next sitemap hsitemap =>
  have hsitemap := keeps_addSitemap _ _ _ hsitemap hstart
  split at h
  · cases h
    exact hsitemap
  split at h
  · cases h
  next robots hrobots =>
  have hrobots := keeps_addRobots _ _ _ hrobots hsitemap
  exact keeps_addOpenapi _ _ (fun _ hpath => hpath) _ _ _ _ h hrobots

theorem collectSite_of_discover
    (h : discoverSiteAttackSurface sha256 target φ interpreter budget surroundings = .ok result) :
    ∃ collected, collectSite sha256 target φ interpreter budget surroundings = .ok collected ∧
      if surroundings.cancelled 0 ∨ surroundings.cancelled 1 then
        result.candidates = collected.candidates
      else result = collected.deduped budget.maximumEndpoints := by
  unfold discoverSiteAttackSurface at h
  split at h
  next hcancelled =>
    cases h
    refine ⟨{}, by rw [collectSite, if_pos hcancelled], ?_⟩
    rw [if_pos (.inl hcancelled)]
  next hrunning =>
  split at h
  · cases h
  next sitemap hsitemap =>
  split at h
  next hcancelled =>
    cases h
    refine ⟨sitemap, by simp only [collectSite, if_neg hrunning, hsitemap, if_pos hcancelled], ?_⟩
    rw [if_pos (.inr hcancelled)]
    rfl
  next hgoing =>
  split at h
  · cases h
  next robots hrobots =>
  obtain ⟨collected, hcollected, rfl⟩ := map_ok_iff.mp h
  refine ⟨collected, ?_, ?_⟩
  · simpa only [collectSite, if_neg hrunning, hsitemap, if_neg hgoing, hrobots] using hcollected
  · rw [if_neg fun hcancelled => hcancelled.elim hrunning hgoing]

theorem siteCandidate_of_discover
    (h : discoverSiteAttackSurface sha256 target φ interpreter budget surroundings = .ok result) :
    ∀ candidate ∈ result.candidates,
      SiteCandidate φ target budget candidate.toCandidateFields := by
  obtain ⟨collected, hcollected, hresult⟩ := collectSite_of_discover h
  have hsound := sound_collectSite hcollected
  intro candidate hcandidate
  split at hresult
  · rw [hresult] at hcandidate
    exact (hsound candidate hcandidate).2
  · rw [hresult] at hcandidate
    rcases mem_dedupe _ _ hcandidate with hmem | hmem
    · cases hmem
    · exact (hsound candidate hmem).2

end

end WebGuard.AttackSurface
