import WebGuard.Detection.ResourceGraph
import WebGuard.Properties.Targets

/-!
# Which resources are compared

A resource is compared with one of another identity that has the same endpoint but for the identifier.
`_endpoint_template` puts a placeholder for the last segment that is the identifier, and leaves out
the query and the fragment; two resources are compared if their templates are equal as texts.
-/

namespace WebGuard.ActiveDetection

open PyJson UrlParse StandardLibrary List ActiveDetection AuthorizationResource
open ScanPermits (asciiTables)

/-! ## Replaced elements -/

/-- The last element that is `old` is replaced. -/
def lastReplaced (old new : PyText) : List PyText → Option (List PyText)
  | [] => none
  | first :: rest =>
    match lastReplaced old new rest with
    | some replaced => some (first :: replaced)
    | none => if first = old then some (new :: rest) else none

theorem lastReplaced_eq_none {old new : PyText} {parts : List PyText} :
    lastReplaced old new parts = none ↔ old ∉ parts := by
  induction parts with
  | nil => simp [lastReplaced]
  | cons first rest ih =>
    unfold lastReplaced
    rw [mem_cons, not_or]
    cases h : lastReplaced old new rest with
    | some replaced =>
      have hmem : ¬old ∉ rest := fun hnot => by
        rw [ih.mpr hnot] at h
        cases h
      exact ⟨fun hnone => (nomatch hnone), fun hnot => absurd hnot.2 hmem⟩
    | none =>
      have hrest := ih.mp h
      by_cases hfirst : first = old
      · simp [hfirst]
      · simp [hfirst, hrest, Ne.symm hfirst]

theorem lastReplaced_eq_some {old new : PyText} {parts replaced : List PyText} :
    lastReplaced old new parts = some replaced ↔
      ∃ front back, parts = front ++ old :: back ∧ old ∉ back ∧ replaced = front ++ new :: back := by
  induction parts generalizing replaced with
  | nil => simp [lastReplaced]
  | cons first rest ih =>
    unfold lastReplaced
    cases h : lastReplaced old new rest with
    | some others =>
      obtain ⟨front, back, hrest, hback, hothers⟩ := ih.mp h
      constructor
      · intro hreplaced
        cases hreplaced
        exact ⟨first :: front, back, by rw [hrest]; rfl, hback, by rw [hothers]; rfl⟩
      · rintro ⟨start, tail, hparts, htail, hreplaced⟩
        cases start with
        | nil =>
          cases hparts
          exact absurd (hrest ▸ mem_append_right _ mem_cons_self) htail
        | cons other start =>
          cases hparts
          have hsame := ih.mpr ⟨start, tail, rfl, htail, rfl⟩
          rw [h, Option.some.injEq] at hsame
          rw [hreplaced, hsame]
          rfl
    | none =>
      have hrest := lastReplaced_eq_none.mp h
      by_cases hfirst : first = old
      · subst hfirst
        rw [if_pos rfl]
        constructor
        · intro hreplaced
          cases hreplaced
          exact ⟨[], rest, rfl, hrest, rfl⟩
        · rintro ⟨start, tail, hparts, -, hreplaced⟩
          cases start with
          | nil =>
            cases hparts
            rw [hreplaced]
            rfl
          | cons other start =>
            cases hparts
            exact absurd (mem_append_right _ mem_cons_self) hrest
      · rw [if_neg hfirst]
        refine ⟨fun hnone => (nomatch hnone), ?_⟩
        rintro ⟨start, tail, hparts, -, -⟩
        cases start with
        | nil =>
          cases hparts
          exact absurd rfl hfirst
        | cons other start =>
          cases hparts
          exact absurd (mem_append_right _ mem_cons_self) hrest

/-- `"{identifier}"`. -/
def placeholder : PyText := ofString "\x7bidentifier\x7d"

theorem not_mem_placeholder : 47 ∉ placeholder := by decide

variable {front back : List PyText}

theorem templateSegments_of_mem {identifier : PyText} (h : identifier ∉ back) :
    templateSegments identifier (front ++ identifier :: back) = front ++ placeholder :: back := by
  induction front with
  | nil =>
    rw [nil_append, templateSegments, if_neg h, if_pos rfl]
    rfl
  | cons first front ih =>
    rw [cons_append, templateSegments, if_pos (by simp), ih]
    rfl

theorem exists_last {identifier : PyText} {segments : List PyText} (h : identifier ∈ segments) :
    ∃ front back, segments = front ++ identifier :: back ∧ identifier ∉ back := by
  cases hreplaced : lastReplaced identifier identifier segments with
  | none => exact absurd h (lastReplaced_eq_none.mp hreplaced)
  | some replaced =>
    obtain ⟨front, back, hsegments, hback, -⟩ := lastReplaced_eq_some.mp hreplaced
    exact ⟨front, back, hsegments, hback⟩

/-! ## Segments of a path -/

theorem not_mem_of_mem_splitOn {separator : Nat} {text part : PyText}
    (h : part ∈ text.splitOn separator) : separator ∉ part := by
  induction text generalizing part with
  | nil =>
    rw [splitOn_nil, mem_singleton] at h
    subst h
    simp
  | cons n rest ih =>
    rw [splitOn_cons_eq_if_modifyHead] at h
    split at h
    · rcases mem_cons.mp h with rfl | h
      · simp
      · exact ih h
    next hother =>
      cases hparts : rest.splitOn separator with
      | nil => exact absurd hparts (splitOn_ne_nil separator rest)
      | cons first others =>
        rw [hparts, modifyHead_cons] at h
        have hne : separator ≠ n := fun heq => hother (by simp [heq])
        rcases mem_cons.mp h with rfl | h
        · rw [mem_cons, not_or]
          exact ⟨hne, ih (hparts ▸ mem_cons_self)⟩
        · exact ih (hparts ▸ mem_cons_of_mem _ h)

theorem intercalate_around (front back : List PyText) :
    ∃ before after, (after = [] ∨ after.head? = some 47) ∧
      ∀ middle : PyText, intercalate [47] (front ++ middle :: back) =
        before ++ middle ++ after := by
  have hback : ∃ after : PyText, (after = [] ∨ after.head? = some 47) ∧
      ∀ middle : PyText, intercalate [47] (middle :: back) = middle ++ after := by
    cases back with
    | nil => exact ⟨[], .inl rfl, fun middle => by simp⟩
    | cons next rest =>
      refine ⟨47 :: intercalate [47] (next :: rest), .inr rfl, fun middle => ?_⟩
      rw [intercalate_cons_cons, append_assoc, singleton_append]
  obtain ⟨after, hafter, hjoin⟩ := hback
  induction front with
  | nil => exact ⟨[], after, hafter, hjoin⟩
  | cons first rest ih =>
    obtain ⟨before, after, hafter, hjoin⟩ := ih
    refine ⟨first ++ 47 :: before, after, hafter, fun middle => ?_⟩
    have hne : rest ++ middle :: back ≠ [] := by simp
    rw [cons_append, intercalate_cons_of_ne_nil hne, hjoin]
    simp only [append_assoc, cons_append, nil_append]

/-! ## Shapes -/

section

variable [StandardLibrary]

/-- `path.split("/")`. -/
def AuthorizationResource.segments (resource : AuthorizationResource) : List PyText :=
  (codePoints resource.parsed.path).splitOn 47

/-- `query.split("&")`. -/
def AuthorizationResource.queryItems (resource : AuthorizationResource) : List PyText :=
  (codePoints resource.parsed.query).splitOn 38

/-- The item of a query that an identifier is the value of. -/
def queryItem (name value : PyText) : PyText := name ++ 61 :: value

variable (primary secondary : AuthorizationResource)

/-- The endpoint of the secondary resource is that of the primary one with the other identifier in the
place of the segment, or of the item of the query, that is the primary identifier. -/
def SameShape : Prop :=
  primary.parsed.scheme = secondary.parsed.scheme ∧
  primary.parsed.netloc = secondary.parsed.netloc ∧
  primary.parsed.fragment = secondary.parsed.fragment ∧
  match primary.identifierLocation with
  | .path =>
    primary.parsed.query = secondary.parsed.query ∧ primary.identifierValue ≠ [] ∧
      lastReplaced primary.identifierValue secondary.identifierValue primary.segments =
        some secondary.segments
  | .query =>
    primary.parsed.path = secondary.parsed.path ∧
      lastReplaced (queryItem primary.identifierName primary.identifierValue)
        (queryItem primary.identifierName secondary.identifierValue) primary.queryItems =
          some secondary.queryItems
  | .none => False

/-- What equal templates do not show: the parts of the endpoints that are not in the template agree,
the texts are taken apart at the same places, and both identifiers are segments at one place of the
path, or stand in one item of queries that agree otherwise. -/
def FitsTemplate : Prop :=
  primary.parsed.scheme = secondary.parsed.scheme ∧
  primary.parsed.netloc = secondary.parsed.netloc ∧
  primary.parsed.fragment = secondary.parsed.fragment ∧
  primary.identifierName = secondary.identifierName ∧
  match primary.identifierLocation with
  | .path =>
    primary.parsed.query = secondary.parsed.query ∧ primary.identifierValue ≠ [] ∧
      ∃ front back, primary.segments = front ++ primary.identifierValue :: back ∧
        primary.identifierValue ∉ back ∧
        secondary.segments[front.length]? = some secondary.identifierValue
  | .query =>
    primary.parsed.path.isEmpty = secondary.parsed.path.isEmpty ∧
      lastReplaced (queryItem primary.identifierName primary.identifierValue)
        (queryItem primary.identifierName secondary.identifierValue) primary.queryItems =
          some secondary.queryItems
  | .none => False

/-- The path of a template. -/
def AuthorizationResource.templatePath (resource : AuthorizationResource) : PyText :=
  if resource.identifierLocation = .path ∧ resource.identifierValue ≠ [] then
    intercalate [47] (templateSegments resource.identifierValue
      ((codePoints (rootedPath resource.parsed)).splitOn 47))
  else codePoints (rootedPath resource.parsed)

theorem endpointTemplate_eq (resource : AuthorizationResource) :
    resource.endpointTemplate = canonicalEndpoint resource.parsed [] ++ (resource.templatePath ++
      (124 :: resource.method ++ 124 :: resource.identifierLocation.value ++ [124]
        ++ resource.identifierName)) := by
  unfold endpointTemplate joinBars
  simp [intercalate, intersperse, templatePath]

theorem isEligible_eq_true {primary secondary : AuthorizationResource}
    (h : isEligibleForComparison primary secondary = true) :
    primary.owningTestIdentity ≠ secondary.owningTestIdentity ∧
    primary.resourceType = secondary.resourceType ∧ primary.method = secondary.method ∧
    primary.identifierLocation = secondary.identifierLocation ∧
    primary.identifierLocation ≠ .none ∧
    primary.expectedAccess = .privateToOwner ∧ secondary.expectedAccess = .privateToOwner ∧
    primary.endpointTemplate = secondary.endpointTemplate := by
  unfold isEligibleForComparison at h
  simp only [Bool.and_eq_true, decide_eq_true_eq] at h
  obtain ⟨⟨⟨⟨⟨⟨⟨⟨⟨⟨⟨howner, htype⟩, hmethod⟩, -⟩, hlocation⟩, hsome⟩, hprimary⟩, hsecondary⟩, -⟩, -⟩,
    -⟩, htemplate⟩ := h
  exact ⟨howner, htype, hmethod, hlocation, hsome, hprimary, hsecondary, htemplate⟩

/-! ## Paths of templates -/

omit [StandardLibrary] in
theorem codePoints_rootedPath (parsed : SplitResult) :
    codePoints (rootedPath parsed) =
      if parsed.path.isEmpty then [47] else codePoints parsed.path := by
  unfold rootedPath
  split <;> rfl

variable {resource : AuthorizationResource}

theorem path_isEmpty_of_mem {segment : PyText} (h : segment ∈ resource.segments)
    (hne : segment ≠ []) : resource.parsed.path.isEmpty = false := by
  by_contra hempty
  rw [Bool.not_eq_false, List.isEmpty_iff] at hempty
  unfold segments at h
  rw [hempty, codePoints, map_nil, splitOn_nil, mem_singleton] at h
  exact hne h

theorem templatePath_of_mem (hlocation : resource.identifierLocation = .path)
    (hne : resource.identifierValue ≠ [])
    (hsegments : resource.segments = front ++ resource.identifierValue :: back)
    (hback : resource.identifierValue ∉ back) :
    resource.templatePath = intercalate [47] (front ++ placeholder :: back) := by
  have hpath : resource.parsed.path.isEmpty = false :=
    path_isEmpty_of_mem (hsegments ▸ mem_append_right _ mem_cons_self) hne
  unfold templatePath
  rw [if_pos ⟨hlocation, hne⟩, codePoints_rootedPath, hpath, if_neg Bool.false_ne_true]
  unfold segments at hsegments
  rw [hsegments, templateSegments_of_mem hback]

theorem templatePath_of_nil (hnil : resource.identifierValue = []) :
    resource.templatePath = codePoints (rootedPath resource.parsed) := by
  unfold templatePath
  rw [if_neg fun h => h.2 hnil]

theorem intercalate_segments (resource : AuthorizationResource) :
    intercalate [47] resource.segments = codePoints resource.parsed.path :=
  intercalate_splitOn 47

theorem splitOn_template {segment : PyText}
    (hsegments : resource.segments = front ++ segment :: back) :
    (intercalate [47] (front ++ placeholder :: back)).splitOn 47 =
      front ++ placeholder :: back := by
  refine splitOn_intercalate 47 (fun part hpart => ?_) (by simp)
  have hall : ∀ part ∈ resource.segments, 47 ∉ part := fun part h => not_mem_of_mem_splitOn h
  rw [hsegments] at hall
  rcases mem_append.mp hpart with h | h
  · exact hall part (mem_append_left _ h)
  · rcases mem_cons.mp h with rfl | h
    · exact not_mem_placeholder
    · exact hall part (mem_append_right _ (mem_cons_of_mem _ h))

/-! ## Equal templates -/

section

variable {primary secondary : AuthorizationResource}

/-- What stands behind the path in the template of an eligible resource. -/
def templateRest (resource : AuthorizationResource) : PyText :=
  124 :: resource.method ++ 124 :: resource.identifierLocation.value ++ [124]
    ++ resource.identifierName

theorem templatePath_append (h : isEligibleForComparison primary secondary = true)
    (hscheme : primary.parsed.scheme = secondary.parsed.scheme)
    (hnetloc : primary.parsed.netloc = secondary.parsed.netloc) :
    primary.templatePath ++ templateRest primary =
      secondary.templatePath ++ templateRest secondary := by
  obtain ⟨-, -, -, -, -, -, -, htemplate⟩ := isEligible_eq_true h
  rw [endpointTemplate_eq, endpointTemplate_eq] at htemplate
  have hcanonical : canonicalEndpoint primary.parsed [] = canonicalEndpoint secondary.parsed [] := by
    unfold canonicalEndpoint
    rw [hscheme, hnetloc]
  rw [hcanonical] at htemplate
  exact append_cancel_left htemplate

theorem templateRest_eq_iff (h : isEligibleForComparison primary secondary = true) :
    templateRest primary = templateRest secondary ↔
      primary.identifierName = secondary.identifierName := by
  obtain ⟨-, -, hmethod, hlocation, -⟩ := isEligible_eq_true h
  unfold templateRest
  rw [hmethod, hlocation]
  simp

theorem templatePath_eq_iff (h : isEligibleForComparison primary secondary = true)
    (hscheme : primary.parsed.scheme = secondary.parsed.scheme)
    (hnetloc : primary.parsed.netloc = secondary.parsed.netloc) :
    primary.templatePath = secondary.templatePath ↔
      primary.identifierName = secondary.identifierName := by
  have hsame := templatePath_append h hscheme hnetloc
  rw [← templateRest_eq_iff h]
  constructor
  · intro hpath
    rw [hpath] at hsame
    exact append_cancel_left hsame
  · intro hrest
    rw [hrest] at hsame
    exact append_cancel_right hsame

theorem names_of_replaced (h : isEligibleForComparison primary secondary = true)
    (hlocation : primary.identifierLocation = .path) (hne : primary.identifierValue ≠ [])
    (hscheme : primary.parsed.scheme = secondary.parsed.scheme)
    (hnetloc : primary.parsed.netloc = secondary.parsed.netloc)
    (hprimary : primary.segments = front ++ primary.identifierValue :: back)
    (hback : primary.identifierValue ∉ back)
    (hsecondary : secondary.segments = front ++ secondary.identifierValue :: back) :
    primary.identifierName = secondary.identifierName := by
  obtain ⟨-, -, -, hlocations, -⟩ := isEligible_eq_true h
  have hsame := templatePath_append h hscheme hnetloc
  have htemplate := templatePath_of_mem hlocation hne hprimary hback
  obtain ⟨before, after, hafter, hjoin⟩ := intercalate_around front back
  rw [htemplate, hjoin] at hsame
  by_cases hnil : secondary.identifierValue = []
  · -- a placeholder would stand where the secondary template has a slash or a bar
    exfalso
    rw [templatePath_of_nil hnil, codePoints_rootedPath] at hsame
    have hpath := intercalate_segments secondary
    rw [hsecondary, hjoin, hnil, append_nil] at hpath
    by_cases hempty : secondary.parsed.path.isEmpty = true
    · rw [List.isEmpty_iff.mp hempty, codePoints, map_nil, append_eq_nil_iff] at hpath
      rw [hempty, if_pos rfl, hpath.1, hpath.2] at hsame
      cases hsame
    · rw [if_neg hempty, ← hpath, append_assoc, append_assoc, append_assoc] at hsame
      have hbehind := append_cancel_left hsame
      rcases hafter with rfl | hafter
      · cases hbehind
      · cases after with
        | nil => cases hafter
        | cons n after =>
          cases hafter
          cases hbehind
  · have hmem : secondary.identifierValue ∈ secondary.segments := by
      rw [hsecondary]
      exact mem_append_right _ mem_cons_self
    obtain ⟨front', back', hsegments, hback'⟩ := exists_last hmem
    have htemplate' := templatePath_of_mem (hlocations ▸ hlocation) hnil hsegments hback'
    obtain ⟨before', after', -, hjoin'⟩ := intercalate_around front' back'
    rw [htemplate', hjoin'] at hsame
    -- both templates are as long as the secondary path with its identifier replaced
    have hlength : (before ++ placeholder ++ after).length =
        (before' ++ placeholder ++ after').length := by
      have hpath := congrArg length
        ((hjoin secondary.identifierValue).symm.trans ((congrArg _ (hsecondary.symm.trans
          hsegments)).trans (hjoin' secondary.identifierValue)))
      simp only [length_append] at hpath ⊢
      omega
    exact (templateRest_eq_iff h).mp (append_inj hsame hlength).2

theorem replaced_of_templatePath (hlocation : primary.identifierLocation = .path)
    (hlocations : primary.identifierLocation = secondary.identifierLocation)
    (hne : primary.identifierValue ≠ [])
    (hprimary : primary.segments = front ++ primary.identifierValue :: back)
    (hback : primary.identifierValue ∉ back)
    (hpath : primary.templatePath = secondary.templatePath)
    (hplace : secondary.segments[front.length]? = some secondary.identifierValue) :
    secondary.segments = front ++ secondary.identifierValue :: back := by
  have htemplate := templatePath_of_mem hlocation hne hprimary hback
  have hsplit := splitOn_template hprimary
  rw [← htemplate, hpath] at hsplit
  by_cases hnil : secondary.identifierValue = []
  · exfalso
    rw [templatePath_of_nil hnil, codePoints_rootedPath] at hsplit
    by_cases hempty : secondary.parsed.path.isEmpty = true
    · rw [hempty, if_pos rfl] at hsplit
      have hfirst : placeholder ∈ ([[], []] : List PyText) := by
        have hslash : ([47] : PyText).splitOn 47 = [[], []] := by decide
        rw [← hslash, hsplit]
        exact mem_append_right _ mem_cons_self
      exact absurd hfirst (by decide)
    · rw [if_neg hempty] at hsplit
      have hsegments : secondary.segments = front ++ placeholder :: back := hsplit
      rw [hsegments, getElem?_append_right (Nat.le_refl _), Nat.sub_self,
        getElem?_cons_zero, hnil] at hplace
      exact absurd (Option.some.inj hplace) (by decide)
  · obtain ⟨front', back', hsegments, hback'⟩ := exists_last (mem_of_getElem? hplace)
    rw [templatePath_of_mem (hlocations ▸ hlocation) hnil hsegments hback',
      splitOn_template hsegments] at hsplit
    by_cases hholder : secondary.identifierValue = placeholder
    · rw [hsegments, hholder]
      exact hsplit
    · have hlength : front.length = front'.length := by
        rcases Nat.lt_trichotomy front.length front'.length with hlt | heq | hgt
        · -- the placeholder would be the secondary identifier
          exfalso
          have hat : (front' ++ placeholder :: back')[front.length]? = some placeholder := by
            rw [hsplit, getElem?_append_right (Nat.le_refl _), Nat.sub_self,
              getElem?_cons_zero]
          rw [hsegments, getElem?_append_left hlt] at hplace
          rw [getElem?_append_left hlt, hplace] at hat
          exact hholder (Option.some.inj hat)
        · exact heq
        · exfalso
          rw [hsegments, getElem?_append_right (Nat.le_of_lt hgt)] at hplace
          obtain ⟨k, hk⟩ : ∃ k, front.length - front'.length = k + 1 :=
            ⟨front.length - front'.length - 1, by omega⟩
          rw [hk, getElem?_cons_succ] at hplace
          exact hback' (mem_of_getElem? hplace)
      obtain ⟨rfl, hrest⟩ := append_inj hsplit hlength.symm
      cases hrest
      exact hsegments

theorem sameShape_iff (h : isEligibleForComparison primary secondary = true) :
    SameShape primary secondary ↔ FitsTemplate primary secondary := by
  obtain ⟨-, -, -, hlocations, -⟩ := isEligible_eq_true h
  unfold SameShape FitsTemplate
  refine and_congr_right fun hscheme => and_congr_right fun hnetloc => and_congr_right fun _ => ?_
  have hnames := templatePath_eq_iff h hscheme hnetloc
  cases hlocation : primary.identifierLocation with
  | path =>
    dsimp only
    constructor
    · rintro ⟨hquery, hne, hreplaced⟩
      obtain ⟨front, back, hprimary, hback, hsecondary⟩ := lastReplaced_eq_some.mp hreplaced
      refine ⟨names_of_replaced h hlocation hne hscheme hnetloc hprimary hback hsecondary, hquery,
        hne, front, back, hprimary, hback, ?_⟩
      rw [hsecondary, getElem?_append_right (Nat.le_refl _), Nat.sub_self,
        getElem?_cons_zero]
    · rintro ⟨hname, hquery, hne, front, back, hprimary, hback, hplace⟩
      exact ⟨hquery, hne, lastReplaced_eq_some.mpr ⟨front, back, hprimary, hback,
        replaced_of_templatePath hlocation hlocations hne hprimary hback (hnames.mpr hname) hplace⟩⟩
  | query =>
    dsimp only
    have htemplate : ∀ resource : AuthorizationResource, resource.identifierLocation = .query →
        resource.templatePath = codePoints (rootedPath resource.parsed) := by
      intro resource hquery
      unfold templatePath
      rw [if_neg fun hpath => by rw [hquery] at hpath; cases hpath.1]
    rw [htemplate primary hlocation, htemplate secondary (hlocations ▸ hlocation),
      codePoints_rootedPath, codePoints_rootedPath] at hnames
    constructor
    · rintro ⟨hpath, hitems⟩
      exact ⟨hnames.mp (by rw [hpath]), by rw [hpath], hitems⟩
    · rintro ⟨hname, hempty, hitems⟩
      refine ⟨?_, hitems⟩
      have hpaths := hnames.mpr hname
      rw [hempty] at hpaths
      by_cases hnil : secondary.parsed.path.isEmpty = true
      · rw [List.isEmpty_iff.mp hnil, List.isEmpty_iff.mp (hempty.trans hnil)]
      · rw [if_neg hnil, if_neg hnil] at hpaths
        rw [← characters_codePoints primary.parsed.path, hpaths, characters_codePoints]
  | none => exact ⟨fun hfalse => hfalse.elim, fun hfits => hfits.2.elim⟩

end

/-! ## All pairs -/

/-- What is asked of the pairs that are compared. -/
structure PairsComparable (primaryIdentity secondaryIdentity : PyText) (maximumPairs : Int)
    (pairs : List AuthorizationResourcePair) : Prop where
  bounded : (pairs.length : Int) ≤ max 0 maximumPairs
  primary_once : (pairs.map (·.primaryResource.resourceId)).Nodup
  secondary_once : (pairs.map (·.secondaryResource.resourceId)).Nodup
  disjoint : ∀ pair ∈ pairs, ∀ other ∈ pairs, pair.primaryResource ≠ other.secondaryResource
  owners : ∀ pair ∈ pairs, pair.primaryResource.owningTestIdentity = primaryIdentity ∧
    pair.secondaryResource.owningTestIdentity = secondaryIdentity ∧
    primaryIdentity ≠ secondaryIdentity
  alike : ∀ pair ∈ pairs,
    pair.primaryResource.resourceType = pair.secondaryResource.resourceType ∧
    pair.primaryResource.method = pair.secondaryResource.method ∧
    pair.primaryResource.identifierLocation = pair.secondaryResource.identifierLocation
  «private» : ∀ pair ∈ pairs, pair.primaryResource.expectedAccess = .privateToOwner ∧
    pair.secondaryResource.expectedAccess = .privateToOwner
  sameShape : ∀ pair ∈ pairs, SameShape pair.primaryResource pair.secondaryResource

/-- The condition on the resources: the first eligible one of those that are left fits, for as many
primary resources as there is room for pairs. -/
def FirstMatchesFit : Int → List AuthorizationResource → List AuthorizationResource → Prop
  | _, _, [] => True
  | room, left, primary :: rest =>
    room ≤ 0 ∨
      match left.find? (isEligibleForComparison primary) with
      | none => FirstMatchesFit room left rest
      | some secondary => FitsTemplate primary secondary ∧
          FirstMatchesFit (room - 1)
            (left.filter fun other => other.resourceId ≠ secondary.resourceId) rest

variable (pairs : List AuthorizationResourcePair) (resources : List AuthorizationResource)

/-- What is left when some pairs have been formed. -/
def unpaired :
    List AuthorizationResource :=
  resources.filter fun resource => resource.resourceId ∉ pairs.map (·.secondaryResource.resourceId)

theorem unpaired_append :
    unpaired (pairs ++ [⟨primary, secondary⟩]) resources =
      (unpaired pairs resources).filter fun other => other.resourceId ≠ secondary.resourceId := by
  unfold unpaired
  rw [filter_filter]
  refine filter_congr fun other _ => ?_
  rw [map_append, map_singleton]
  simp only [mem_append, mem_singleton, not_or, Bool.decide_and, Bool.and_comm]

theorem firstMatchesFit_iff (maximumPairs : Int) (secondaryResources : List AuthorizationResource)
    (pairs added : List AuthorizationResourcePair) (primaryResources : List AuthorizationResource)
    (h : pairUpTo maximumPairs secondaryResources pairs primaryResources = pairs ++ added) :
    (∀ pair ∈ added, FitsTemplate pair.primaryResource pair.secondaryResource) ↔
      FirstMatchesFit (maximumPairs - pairs.length) (unpaired pairs secondaryResources)
        primaryResources := by
  induction primaryResources generalizing pairs added with
  | nil =>
    rw [pairUpTo, self_eq_append_right] at h
    simp [h, FirstMatchesFit]
  | cons primary rest ih =>
    unfold pairUpTo at h
    unfold FirstMatchesFit
    have hfind : (unpaired pairs secondaryResources).find? (isEligibleForComparison primary) =
        secondaryResources.find? fun secondary =>
          secondary.resourceId ∉ pairs.map (·.secondaryResource.resourceId)
            && isEligibleForComparison primary secondary := by
      unfold unpaired
      rw [find?_filter]
      simp only [Bool.decide_and, Bool.decide_eq_true]
    rw [hfind]
    split at h
    next hfull =>
      rw [self_eq_append_right] at h
      simp only [h, not_mem_nil, false_implies, implies_true, true_iff]
      exact .inl (by omega)
    next hroom =>
      have hleft : ¬maximumPairs - (pairs.length : Int) ≤ 0 := by omega
      rw [or_iff_right hleft]
      cases hfound : secondaryResources.find? fun secondary =>
          secondary.resourceId ∉ pairs.map (·.secondaryResource.resourceId)
            && isEligibleForComparison primary secondary with
      | none =>
        rw [hfound] at h
        exact ih pairs added h
      | some secondary =>
        rw [hfound] at h
        dsimp only at h ⊢
        obtain ⟨others, hothers, -⟩ := pairUpTo_spec maximumPairs secondaryResources
          (pairs ++ [⟨primary, secondary⟩]) rest
        obtain rfl : added = ⟨primary, secondary⟩ :: others := by
          rw [hothers, append_assoc] at h
          exact (append_cancel_left h).symm
        have hrest := ih (pairs ++ [⟨primary, secondary⟩]) others hothers
        rw [unpaired_append, length_append, length_singleton, Nat.cast_add, Nat.cast_one,
          ← Int.sub_sub] at hrest
        rw [forall_mem_cons, hrest]

/--
**The pairs are as they should be exactly if the first matches fit what the templates do not show.**

Everything but the shape of the endpoints holds of all pairs, for every graph and every bound.
-/
theorem comparison_pairs_iff (graph : AuthorizationResourceGraph)
    (primaryIdentity secondaryIdentity : PyText) (maximumPairs : Int) :
    PairsComparable primaryIdentity secondaryIdentity maximumPairs
        (graph.buildComparisonPairs primaryIdentity secondaryIdentity maximumPairs) ↔
      FirstMatchesFit maximumPairs (graph.resourcesFor secondaryIdentity)
        (graph.resourcesFor primaryIdentity) := by
  obtain ⟨pairs, hpairs, hsublist, heligible, hnodup, hlength⟩ := pairUpTo_spec maximumPairs
    (graph.resourcesFor secondaryIdentity) [] (graph.resourcesFor primaryIdentity)
  have hmatches := firstMatchesFit_iff maximumPairs (graph.resourcesFor secondaryIdentity) [] pairs
    (graph.resourcesFor primaryIdentity) hpairs
  have hall : unpaired [] (graph.resourcesFor secondaryIdentity) =
      graph.resourcesFor secondaryIdentity := filter_eq_self.mpr fun _ _ => by simp
  rw [hall, length_nil, Nat.cast_zero, Int.sub_zero] at hmatches
  have hbuilt : graph.buildComparisonPairs primaryIdentity secondaryIdentity maximumPairs = pairs :=
    hpairs.trans (nil_append pairs)
  rw [nil_append] at hnodup hlength
  rw [hbuilt, ← hmatches]
  have hshape : ∀ pair ∈ pairs, SameShape pair.primaryResource pair.secondaryResource ↔
      FitsTemplate pair.primaryResource pair.secondaryResource := fun pair hpair =>
    sameShape_iff (heligible pair hpair).2
  have howners : ∀ pair ∈ pairs, pair.primaryResource.owningTestIdentity = primaryIdentity ∧
      pair.secondaryResource.owningTestIdentity = secondaryIdentity := fun pair hpair =>
    ⟨graph.owner_of_mem (hsublist.subset (mem_map_of_mem hpair)),
      graph.owner_of_mem (heligible pair hpair).1⟩
  have hother : ∀ pair ∈ pairs, primaryIdentity ≠ secondaryIdentity := by
    intro pair hpair hsame
    obtain ⟨hprimary, hsecondary⟩ := howners pair hpair
    exact (isEligible_eq_true (heligible pair hpair).2).1
      (hprimary.trans (hsame.trans hsecondary.symm))
  constructor
  · intro hcomparable pair hpair
    exact (hshape pair hpair).mp (hcomparable.sameShape pair hpair)
  · intro hfits
    refine {
      bounded := by simpa using hlength
      primary_once := ?_
      secondary_once := hnodup nodup_nil
      disjoint := fun pair hpair other hother' hsame => ?_
      owners := fun pair hpair => ⟨(howners pair hpair).1, (howners pair hpair).2, hother pair hpair⟩
      alike := fun pair hpair => ?_
      «private» := fun pair hpair => ?_
      sameShape := fun pair hpair => (hshape pair hpair).mpr (hfits pair hpair) }
    · have hids := hsublist.map (·.resourceId)
      rw [map_map] at hids
      exact hids.nodup (graph.nodup_resourcesFor primaryIdentity)
    · refine hother pair hpair ?_
      rw [← (howners pair hpair).1, hsame, (howners other hother').2]
    · obtain ⟨-, htype, hmethod, hlocation, -⟩ := isEligible_eq_true (heligible pair hpair).2
      exact ⟨htype, hmethod, hlocation⟩
    · obtain ⟨-, -, -, -, -, hprimary, hsecondary, -⟩ := isEligible_eq_true (heligible pair hpair).2
      exact ⟨hprimary, hsecondary⟩

end

/-! ## Two orders -/

def orderFields (owner endpoint number : String) : ResourceFields where
  resourceType := ofString "orders"
  endpoint := ofString endpoint
  method := ofString "GET"
  identifierLocation := .path
  identifierName := ofString "id"
  identifierValue := ofString number
  owningTestIdentity := ofString owner
  expectedAccess := .privateToOwner
  ownerMarker := []
  provenance := .jsonField

def alicesOrder : ResourceFields := orderFields "alice" "https://h.com/orders/1?view=full" "1"

def bobsOrder : ResourceFields := orderFields "bob" "https://h.com/orders/2?view=brief" "2"

/-- The two orders are a pair, and the endpoint of the second one is not that of the first one with
the other number. -/
theorem comparison_of_two_queries :
    letI := transitionLibrary; letI := asciiTables
    ∃ primary secondary : AuthorizationResource,
      alicesOrder.postInit id = .ok primary ∧ bobsOrder.postInit id = .ok secondary ∧
      ¬PairsComparable (ofString "alice") (ofString "bob") 20
        (((AuthorizationResourceGraph.empty.add (ofString "alice") [primary]).add (ofString "bob")
          [secondary]).buildComparisonPairs (ofString "alice") (ofString "bob") 20) := by
  let _ := transitionLibrary
  let _ := asciiTables
  have hrun : (do
      let primary ← alicesOrder.postInit id
      let secondary ← bobsOrder.postInit id
      let graph := (AuthorizationResourceGraph.empty.add (ofString "alice") [primary]).add
        (ofString "bob") [secondary]
      return (graph.buildComparisonPairs (ofString "alice") (ofString "bob") 20).any fun pair =>
        pair.primaryResource.identifierLocation = .path &&
          pair.primaryResource.parsed.query ≠ pair.secondaryResource.parsed.query :
      Except Failure Bool) = .ok true := by
    decide
  obtain ⟨primary, hprimary, hrun⟩ := Atomic.bind_ok hrun
  obtain ⟨secondary, hsecondary, hrun⟩ := Atomic.bind_ok hrun
  refine ⟨primary, secondary, hprimary, hsecondary, fun hcomparable => ?_⟩
  obtain ⟨pair, hpair, hquery⟩ := any_eq_true.mp (Except.ok.inj hrun)
  rw [Bool.and_eq_true, decide_eq_true_eq, decide_eq_true_eq] at hquery
  have hshape := (hcomparable.sameShape pair hpair).2.2.2
  rw [hquery.1] at hshape
  exact hquery.2 hshape.1

end WebGuard.ActiveDetection
