import WebGuard.Lib.FirstOfKey
import WebGuard.Lib.JoinedFields
import WebGuard.Executor.PageDetection
import WebGuard.Properties.DiscoveryProjection

/-!
# What de-duplication drops

A candidate is told apart by its endpoint, method, content type, location and parameter, joined with
bars. A site chooses paths, methods and names, and a bar may stand in each of them. The executor
merges the requests of a page and of a site by their endpoints and parameters only.
-/

namespace WebGuard.AttackSurface

open PyJson UrlParse Atomic List AttackSurfaceCandidate
open ActiveDetection (canonicalEndpoint joinBars mergeCandidates)
open FindingContract (LowerTable asciiLower)
open FirstOfKey (firstOfEach)
open JoinedFields (Shifted)
open Pagination (Interpreter)
open RequestTemplates (RequestTemplate unnamedFloats)
open ScanPermits (oneFloat asciiTables)

/-! ## Bytes -/

theorem utf8Bytes_append_inj {n m : Nat} {rest others : List Nat}
    (h : utf8Bytes n ++ rest = utf8Bytes m ++ others) : n = m ∧ rest = others := by
  unfold utf8Bytes at h
  split_ifs at h <;> simp only [cons_append, nil_append, cons.injEq] at h <;> grind

theorem flatMap_utf8Bytes_inj {text other : PyText}
    (h : text.flatMap utf8Bytes = other.flatMap utf8Bytes) : text = other := by
  have hne : ∀ n, utf8Bytes n ≠ [] := by
    intro n
    unfold utf8Bytes
    split_ifs <;> simp
  induction text generalizing other with
  | nil =>
    cases other with
    | nil => rfl
    | cons m others =>
      rw [flatMap_cons, flatMap_nil] at h
      exact absurd (append_eq_nil_iff.mp h.symm).1 (hne m)
  | cons n rest ih =>
    cases other with
    | nil =>
      rw [flatMap_cons, flatMap_nil] at h
      exact absurd (append_eq_nil_iff.mp h).1 (hne n)
    | cons m others =>
      obtain ⟨rfl, hrest⟩ := utf8Bytes_append_inj h
      rw [ih hrest]

/-! ## Identities -/

section

variable [StandardLibrary] [UnicodeTables]

variable (candidate : AttackSurfaceCandidate)

/-- What tells injection points apart: the endpoint without its query, the method, the content type,
the location and the parameter. -/
def AttackSurfaceCandidate.place : List PyText :=
  [canonicalEndpoint candidate.parsed (ActiveDetection.rootedPath candidate.parsed),
    UnicodeTables.upper candidate.method, candidate.contentType,
    ofString candidate.inputLocation.value, candidate.parameter]

/-- `identity_key`, which `candidate_id` is the digest of. -/
def AttackSurfaceCandidate.identityKey : PyText :=
  candidate.toCandidateFields.identityKey candidate.parsed

theorem identityKey_eq :
    candidate.identityKey = JoinedFields.join 124 candidate.place := rfl

/-- Equal keys have equal places unless the separator is shifted. -/
theorem identityKey_iff (a b : AttackSurfaceCandidate) :
    (a.identityKey = b.identityKey → a.place = b.place) ↔ ¬Shifted 124 a.place b.place :=
  JoinedFields.eq_of_join_iff 124 rfl

variable {sha256 : List Nat → PyText}

theorem candidateId_of_postInit {fields : CandidateFields} {candidate : AttackSurfaceCandidate}
    (h : fields.postInit sha256 = .ok candidate) :
    candidate.candidateId = sha256 ((fields.identityKey candidate.parsed).flatMap utf8Bytes) := by
  unfold CandidateFields.postInit at h
  split at h
  · cases h
  · split at h
    · cases h
      rfl
    · cases h

/-- Equal identifiers are equal keys. -/
theorem candidateId_eq_iff (hsha : Function.Injective sha256) {a b : AttackSurfaceCandidate}
    (ha : Discovered sha256 a) (hb : Discovered sha256 b) :
    a.candidateId = b.candidateId ↔ a.identityKey = b.identityKey := by
  rw [candidateId_of_postInit ha, candidateId_of_postInit hb]
  constructor
  · intro h
    exact flatMap_utf8Bytes_inj (hsha h)
  · intro h
    unfold identityKey at h
    rw [h]

theorem places_of_ids_iff (hsha : Function.Injective sha256) {items : List AttackSurfaceCandidate}
    (hitems : ∀ c ∈ items, Discovered sha256 c) :
    (∀ c ∈ items, c.place ∈ (firstOfEach (·.candidateId) [] items).map (·.place)) ↔
      ∀ a ∈ items, ∀ b ∈ items, ¬Shifted 124 a.place b.place := by
  rw [FirstOfKey.places_kept_nil_iff (fun c : AttackSurfaceCandidate => c.candidateId)]
  · refine forall₂_congr fun a ha => forall₂_congr fun b hb => ?_
    rw [candidateId_eq_iff hsha (hitems a ha) (hitems b hb), identityKey_iff]
  · intro a ha b hb hplace
    rw [candidateId_eq_iff hsha (hitems a ha) (hitems b hb), identityKey_eq, identityKey_eq, hplace]

/-! ## Passes -/

/-- The candidates that a pass has compared: the first ones that are offered, all of them unless there
are as many as there may be. One of each identifier is kept. -/
structure Compared (sha256 : List Nat → PyText) (maximumEndpoints : Nat)
    (offered : List CandidateFields) (kept compared : List AttackSurfaceCandidate) : Prop where
  discovered : ∀ c ∈ compared, Discovered sha256 c
  kept_eq : kept = firstOfEach (·.candidateId) [] compared
  offered_eq : ∃ unseen, offered = compared.map (·.toCandidateFields) ++ unseen ∧
    (unseen ≠ [] → maximumEndpoints ≤ kept.length)

/-- What a part of a pass does when it is offered some candidates. -/
def Grows (sha256 : List Nat → PyText) (maximumEndpoints : Nat) (offered : List CandidateFields)
    (before after : Collected) : Prop :=
  ∃ compared unseen, offered = compared.map (·.toCandidateFields) ++ unseen ∧
    (∀ c ∈ compared, Discovered sha256 c) ∧
    after.candidates = firstOfEach (·.candidateId) before.candidates compared ∧
    (unseen ≠ [] → maximumEndpoints ≤ after.candidates.length) ∧
    (maximumEndpoints ≤ before.candidates.length → compared = [])

variable {maximumEndpoints : Nat} {offered others : List CandidateFields}
  {before middle after : Collected}

theorem Grows.refl (h : after.candidates = before.candidates) :
    Grows sha256 maximumEndpoints [] before after :=
  ⟨[], [], rfl, by simp, h, by simp, fun _ => rfl⟩

theorem Grows.trans (h : Grows sha256 maximumEndpoints offered before middle)
    (hnext : Grows sha256 maximumEndpoints others middle after) :
    Grows sha256 maximumEndpoints (offered ++ others) before after := by
  obtain ⟨compared, unseen, rfl, hdiscovered, hmiddle, hfull, hstop⟩ := h
  obtain ⟨compared', unseen', rfl, hdiscovered', hafter, hfull', hstop'⟩ := hnext
  by_cases hunseen : unseen = []
  · subst hunseen
    refine ⟨compared ++ compared', unseen', ?_, ?_, ?_, hfull', ?_⟩
    · rw [map_append, append_nil, append_assoc]
    · exact forall_mem_append.mpr ⟨hdiscovered, hdiscovered'⟩
    · rw [hafter, hmiddle, FirstOfKey.firstOfEach_append]
    · intro hbefore
      have hnone := hstop hbefore
      rw [hnone] at hmiddle
      rw [hnone, nil_append]
      exact hstop' (hmiddle ▸ hbefore)
  · -- there are as many as there may be, and nothing more is compared
    have hnone := hstop' (hfull hunseen)
    rw [hnone] at hafter
    have hsame : after.candidates = middle.candidates := hafter
    refine ⟨compared, unseen ++ unseen', ?_, hdiscovered, ?_, ?_, hstop⟩
    · rw [hnone, map_nil, nil_append, append_assoc]
    · rw [hsame, hmiddle]
    · intro _
      rw [hsame]
      exact hfull hunseen

/-- Candidates are added in the order in which they are offered. -/
theorem grows_addAll {fields : List CandidateFields}
    (h : addAll sha256 maximumEndpoints fields before = .ok after) :
    Grows sha256 maximumEndpoints fields before after := by
  induction fields generalizing before with
  | nil =>
    cases h
    exact .refl rfl
  | cons f rest ih =>
    unfold addAll at h
    split at h
    · cases h
    next candidate hcandidate =>
      have hfields : f = candidate.toCandidateFields := (postInit_eq_ok hcandidate).1.symm
      have hdiscovered : ∀ c ∈ [candidate], Discovered sha256 c := by
        simpa using discovered_of_postInit hcandidate
      have hone : ∀ collected : Collected, before.candidates.length < maximumEndpoints →
          collected.candidates = firstOfEach (·.candidateId) before.candidates [candidate] →
          Grows sha256 maximumEndpoints [f] before collected := fun collected hroom hkept =>
        ⟨[candidate], [], by rw [hfields]; rfl, hdiscovered, hkept, by simp, fun hfull => by omega⟩
      unfold Collected.add at h
      split at h
      next hfull =>
        cases h
        exact ⟨[], f :: rest, rfl, by simp, rfl, fun _ => hfull, fun _ => rfl⟩
      next hroom =>
        have hroom := Nat.lt_of_not_le hroom
        split at h
        next hknown =>
          refine (hone _ hroom ?_).trans (ih h)
          rw [firstOfEach, if_pos (contains_iff_mem.mp hknown)]
          rfl
        next hnew =>
          refine (hone _ hroom ?_).trans (ih h)
          rw [firstOfEach, if_neg fun hmem => hnew (contains_iff_mem.mpr hmem)]
          rfl

theorem grows_collectAll {α : Type} {round : α → Collected → Except DiscoveryFailure Collected}
    {offers : α → List CandidateFields} {items : List α}
    (hround : ∀ item ∈ items, ∀ {before after : Collected}, round item before = .ok after →
      Grows sha256 maximumEndpoints (offers item) before after)
    (h : collectAll round items before = .ok after) :
    Grows sha256 maximumEndpoints (items.flatMap offers) before after := by
  induction items generalizing before with
  | nil =>
    cases h
    exact .refl rfl
  | cons item rest ih =>
    unfold collectAll at h
    split at h
    · cases h
    next middle hmiddle =>
      rw [flatMap_cons]
      exact (hround item mem_cons_self hmiddle).trans
        (ih (fun other hother => hround other (mem_cons_of_mem item hother)) h)

/-! ## Pages -/

section

variable [LowerTable] (target : PyTarget) (budget : AttackSurfaceBudget) (pageUrl : Text)

/-- What a URL offers that is on the origin of the target. -/
def offersOf (offers : Text → SplitResult → List CandidateFields) (url : Text) :
    List CandidateFields :=
  match joined pageUrl url with
  | .error _ => []
  | .ok absolute =>
    if sameOrigin target absolute = .ok true then
      match urlsplit absolute with
      | none => []
      | some parsed => offers absolute parsed
    else []

/-- The fields of a form. -/
def formOffers (form : FormState) : List CandidateFields :=
  offersOf target pageUrl (fun actionUrl parsed =>
    (form.fields.take budget.maximumParametersPerEndpoint).map
      (formCandidate form actionUrl pageUrl parsed.path
        (form.fields.take budget.maximumParametersPerEndpoint)))
    (if form.action.isEmpty then pageUrl else form.action)

/-- The parameters of a link. -/
def linkOffers : Text → List CandidateFields :=
  offersOf target pageUrl fun _ parsed =>
    ((parseQs parsed.query).take budget.maximumParametersPerEndpoint).map
      (queryCandidate parsed pageUrl .linkParameter)

/-- A literal of a script. -/
def literalOffers (literal : Text) : List CandidateFields :=
  offersOf target pageUrl (fun absolute _ => [literalCandidate literal absolute pageUrl]) literal

/-- The candidates that a page offers, in their order. -/
def pageOffers (feed : Text → Except String (List HtmlEvent)) (htmlBody : List Nat) :
    List CandidateFields :=
  if budget.maximumResponseBytes < htmlBody.length then []
  else
    match feed (decodeUtf8 htmlBody.length htmlBody) with
    | .error _ => []
    | .ok events =>
      let parser := parsePage budget events
      parser.forms.flatMap (formOffers target budget pageUrl)
        ++ parser.links.flatMap (linkOffers target budget pageUrl)
        ++ (scriptLiterals budget parser).flatMap (literalOffers target pageUrl)

variable {target budget pageUrl}

section

omit [UnicodeTables] [LowerTable]

theorem urlsplit_of_sameOrigin {absolute : Text} (h : sameOrigin target absolute = .ok true) :
    ∃ parsed, urlsplit absolute = some parsed := by
  unfold sameOrigin at h
  split at h
  · cases h
  next parsed hparsed => exact ⟨parsed, hparsed⟩

variable {offers : Text → SplitResult → List CandidateFields} {url absolute : Text}

theorem offersOf_off (hjoined : joined pageUrl url = .ok absolute)
    (h : sameOrigin target absolute = .ok false) :
    offersOf target pageUrl offers url = [] := by
  simp [offersOf, hjoined, h]

theorem offersOf_eq {parsed : SplitResult} (hjoined : joined pageUrl url = .ok absolute)
    (horigin : sameOrigin target absolute = .ok true) (hparsed : urlsplit absolute = some parsed) :
    offersOf target pageUrl offers url = offers absolute parsed := by
  simp [offersOf, hjoined, horigin, hparsed]

end

theorem grows_addForm (form : FormState)
    (h : addForm sha256 target budget pageUrl form before = .ok after) :
    Grows sha256 budget.maximumEndpoints (formOffers target budget pageUrl form) before after := by
  unfold addForm at h
  split at h
  · cases h
  next actionUrl hjoined =>
  split at h
  · cases h
  next horigin =>
    cases h
    rw [formOffers, offersOf_off hjoined horigin]
    exact .refl rfl
  next horigin =>
  obtain ⟨parsed, hparsed⟩ := urlsplit_of_sameOrigin horigin
  rw [formOffers, offersOf_eq hjoined horigin hparsed]
  simp only [hparsed] at h
  exact grows_addAll h

omit [LowerTable] in
theorem grows_addLink (href : Text)
    (h : addLink sha256 target budget pageUrl href before = .ok after) :
    Grows sha256 budget.maximumEndpoints (linkOffers target budget pageUrl href) before after := by
  unfold addLink at h
  split at h
  · cases h
  next absolute hjoined =>
  split at h
  · cases h
  next horigin =>
    cases h
    rw [linkOffers, offersOf_off hjoined horigin]
    exact .refl rfl
  next horigin =>
  obtain ⟨parsed, hparsed⟩ := urlsplit_of_sameOrigin horigin
  rw [linkOffers, offersOf_eq hjoined horigin hparsed]
  simp only [hparsed] at h
  exact grows_addAll h

omit [LowerTable] in
theorem grows_addLiteral (literal : Text)
    (h : addLiteral sha256 target budget pageUrl literal before = .ok after) :
    Grows sha256 budget.maximumEndpoints (literalOffers target pageUrl literal) before after := by
  unfold addLiteral at h
  split at h
  · cases h
  next absolute hjoined =>
  split at h
  · cases h
  next horigin =>
    cases h
    rw [literalOffers, offersOf_off hjoined horigin]
    exact .refl rfl
  next horigin =>
  obtain ⟨parsed, hparsed⟩ := urlsplit_of_sameOrigin horigin
  rw [literalOffers, offersOf_eq hjoined horigin hparsed]
  exact grows_addAll h

theorem compared_of_page {feed : Text → Except String (List HtmlEvent)} {htmlBody : List Nat}
    {result : DiscoveryResult}
    (h : discoverPageAttackSurface sha256 target budget pageUrl feed htmlBody = .ok result) :
    ∃ compared, Compared sha256 budget.maximumEndpoints
      (pageOffers target budget pageUrl feed htmlBody) result.candidates compared := by
  unfold discoverPageAttackSurface at h
  split at h
  next hlong =>
    cases h
    have hnone : pageOffers target budget pageUrl feed htmlBody = [] := by simp [pageOffers, hlong]
    exact ⟨[], by simp, rfl, [], hnone, by simp⟩
  next hlong =>
  split at h
  next hfeed =>
    cases h
    have hnone : pageOffers target budget pageUrl feed htmlBody = [] := by simp [pageOffers, hfeed]
    exact ⟨[], by simp, rfl, [], hnone, by simp⟩
  next events hfeed =>
  obtain ⟨collected, hcollected, rfl⟩ := map_ok_iff.mp h
  unfold collectPage at hcollected
  obtain ⟨forms, hforms, hcollected⟩ := bind_ok hcollected
  obtain ⟨links, hlinks, hliterals⟩ := bind_ok hcollected
  obtain ⟨compared, unseen, hoffered, hdiscovered, hkept, hfull, -⟩ :=
    ((grows_collectAll (fun form _ => grows_addForm form) hforms).trans
      (grows_collectAll (fun href _ => grows_addLink href) hlinks)).trans
      (grows_collectAll (fun literal _ => grows_addLiteral literal) hliterals)
  refine ⟨compared, hdiscovered, hkept, unseen, ?_, hfull⟩
  rw [← hoffered]
  simp only [pageOffers, hfeed, if_neg hlong]

end

/-! ## Sites -/

omit [UnicodeTables] in
theorem exists_dedupe (candidates : List AttackSurfaceCandidate) (collected : Collected) :
    ∃ compared unseen, candidates = compared ++ unseen ∧
      (dedupe maximumEndpoints candidates collected).candidates =
        firstOfEach (·.candidateId) collected.candidates compared ∧
      (unseen ≠ [] →
        maximumEndpoints ≤ (dedupe maximumEndpoints candidates collected).candidates.length) := by
  induction candidates generalizing collected with
  | nil => exact ⟨[], [], rfl, rfl, by simp⟩
  | cons candidate rest ih =>
    unfold dedupe
    dsimp only
    split
    next hknown =>
      obtain ⟨compared, unseen, hrest, hkept, hfull⟩ :=
        ih (collected.skip "duplicate" candidate.endpoint)
      refine ⟨candidate :: compared, unseen, by rw [hrest]; rfl, ?_, hfull⟩
      rw [hkept, firstOfEach, if_pos (contains_iff_mem.mp hknown)]
      rfl
    next hnew =>
      have hone : firstOfEach (·.candidateId) collected.candidates [candidate] =
          collected.candidates ++ [candidate] := by
        rw [firstOfEach, if_neg fun hmem => hnew (contains_iff_mem.mpr hmem)]
        rfl
      split
      next hfull => exact ⟨[candidate], rest, rfl, hone.symm, fun _ => hfull⟩
      next =>
        obtain ⟨compared, unseen, hrest, hkept, hfull⟩ :=
          ih { collected with candidates := collected.candidates ++ [candidate] }
        refine ⟨candidate :: compared, unseen, by rw [hrest]; rfl, ?_, hfull⟩
        rw [hkept, ← hone, ← FirstOfKey.firstOfEach_append]
        rfl

theorem compared_of_deduped {collected : Collected}
    (h : ∀ c ∈ collected.candidates, Discovered sha256 c) :
    ∃ compared, Compared sha256 maximumEndpoints
      (collected.candidates.map (·.toCandidateFields))
      (collected.deduped maximumEndpoints).candidates compared := by
  obtain ⟨compared, unseen, hcandidates, hkept, hfull⟩ :=
    exists_dedupe collected.candidates { skipped := collected.skipped }
  refine ⟨compared, fun c hc => h c ?_, hkept, unseen.map (·.toCandidateFields), ?_, fun hunseen => ?_⟩
  · rw [hcandidates]
    exact mem_append_left _ hc
  · rw [hcandidates, map_append]
  · refine hfull fun hnil => hunseen ?_
    rw [hnil, map_nil]

/-! ## Several passes -/

section

omit [UnicodeTables]

variable (candidates : List AttackSurfaceCandidate) (collected : Collected)

variable (maximumEndpoints) in
theorem exists_mergeInto :
    ∃ added, (mergeInto maximumEndpoints candidates collected).candidates =
        collected.candidates ++ added ∧
      (maximumEndpoints ≤ collected.candidates.length → added = []) := by
  induction candidates generalizing collected with
  | nil => exact ⟨[], (append_nil _).symm, fun _ => rfl⟩
  | cons candidate rest ih =>
    unfold mergeInto
    split
    · exact ih _
    split
    · exact ih _
    next hroom =>
      obtain ⟨added, hadded, -⟩ :=
        ih { collected with candidates := collected.candidates ++ [candidate] }
      refine ⟨candidate :: added, ?_, fun hfull => absurd hfull hroom⟩
      rw [hadded, append_assoc, singleton_append]

variable (maximumEndpoints) in
theorem mergeInto_eq :
    (mergeInto maximumEndpoints candidates collected).candidates =
        firstOfEach (·.candidateId) collected.candidates (candidates.filter fun c =>
          c.candidateId ∈
            (mergeInto maximumEndpoints candidates collected).candidates.map (·.candidateId)) ∧
      ∀ c ∈ candidates, c.candidateId ∉
          (mergeInto maximumEndpoints candidates collected).candidates.map (·.candidateId) →
        maximumEndpoints ≤ (mergeInto maximumEndpoints candidates collected).candidates.length := by
  induction candidates generalizing collected with
  | nil => exact ⟨rfl, by simp⟩
  | cons candidate rest ih =>
    obtain ⟨added, hadded, hstop⟩ :=
      exists_mergeInto maximumEndpoints (candidate :: rest) collected
    unfold mergeInto at hadded ⊢
    by_cases hknown : candidate.candidateId ∈ collected.candidates.map (·.candidateId)
    · rw [if_pos (contains_iff_mem.mpr hknown)] at hadded ⊢
      obtain ⟨hkept, hlater⟩ := ih (collected.skip "duplicate" candidate.endpoint)
      have hthere : candidate.candidateId ∈ (mergeInto maximumEndpoints rest
          (collected.skip "duplicate" candidate.endpoint)).candidates.map (·.candidateId) := by
        rw [hadded, map_append]
        exact mem_append_left _ hknown
      refine ⟨?_, forall_mem_cons.mpr ⟨fun hnot => absurd hthere hnot, hlater⟩⟩
      rw [filter_cons_of_pos (by simpa using hthere), firstOfEach, if_pos hknown]
      exact hkept
    · have hunknown := fun h => hknown (contains_iff_mem.mp h)
      rw [if_neg hunknown] at hadded ⊢
      split
      next hfull =>
        rw [if_pos hfull] at hadded
        obtain ⟨hkept, hlater⟩ := ih ({ collected with truncated := true }.skip
          "max_endpoints_reached" candidate.endpoint)
        rw [hstop hfull, append_nil] at hadded
        have hnot : candidate.candidateId ∉ (mergeInto maximumEndpoints rest
            ({ collected with truncated := true }.skip "max_endpoints_reached"
              candidate.endpoint)).candidates.map (·.candidateId) := by
          rw [hadded]
          exact hknown
        refine ⟨?_, forall_mem_cons.mpr ⟨fun _ => ?_, hlater⟩⟩
        · rw [filter_cons_of_neg (by simpa using hnot)]
          exact hkept
        · rw [hadded]
          exact hfull
      next hroom =>
        obtain ⟨more, hmore, -⟩ := exists_mergeInto maximumEndpoints rest
          { collected with candidates := collected.candidates ++ [candidate] }
        obtain ⟨hkept, hlater⟩ :=
          ih { collected with candidates := collected.candidates ++ [candidate] }
        have hthere : candidate.candidateId ∈ (mergeInto maximumEndpoints rest
            { collected with candidates := collected.candidates ++ [candidate] }).candidates.map
              (·.candidateId) := by
          rw [hmore]
          simp
        refine ⟨?_, forall_mem_cons.mpr ⟨fun hnot => absurd hthere hnot, hlater⟩⟩
        rw [filter_cons_of_pos (by simpa using hthere), firstOfEach, if_neg hknown]
        exact hkept

theorem mergeInto_congr {collected other : Collected} (candidates : List AttackSurfaceCandidate)
    (h : collected.candidates = other.candidates) :
    (mergeInto maximumEndpoints candidates collected).candidates =
      (mergeInto maximumEndpoints candidates other).candidates := by
  induction candidates generalizing collected other with
  | nil => exact h
  | cons candidate rest ih =>
    unfold mergeInto
    rw [h]
    split
    · exact ih h
    split
    · exact ih rfl
    · exact ih rfl

/-- Merging twice is merging what comes one after the other. -/
theorem mergeInto_append (candidates others : List AttackSurfaceCandidate) (collected : Collected) :
    mergeInto maximumEndpoints (candidates ++ others) collected =
      mergeInto maximumEndpoints others (mergeInto maximumEndpoints candidates collected) := by
  induction candidates generalizing collected with
  | nil => rfl
  | cons candidate rest ih =>
    rw [cons_append, mergeInto, mergeInto]
    split
    · exact ih _
    split
    · exact ih _
    · exact ih _

theorem candidates_mergeResults (results : List DiscoveryResult) (collected : Collected) :
    (results.foldl (mergeResult maximumEndpoints) collected).candidates =
      (mergeInto maximumEndpoints (results.flatMap (·.candidates)) collected).candidates := by
  induction results generalizing collected with
  | nil => rfl
  | cons result rest ih =>
    rw [foldl_cons, ih, flatMap_cons, mergeInto_append]
    exact mergeInto_congr _ (mergeInto_congr _ rfl)

end

/-! ## Pages with sites -/

/-- What the executor tells requests apart by. -/
def AttackSurfaceCandidate.mergeKey : Text × PyText :=
  (characters candidate.endpoint, candidate.parameter)

/-- The request of a candidate. -/
def Builds (template : RequestTemplate) : Prop :=
  candidate.buildRequestTemplate = .ok template

omit [StandardLibrary] in
theorem key_of_postInit {template built : RequestTemplate} (h : template.postInit = .ok built) :
    built.endpoint = template.endpoint ∧ built.parameter = template.parameter := by
  unfold RequestTemplate.postInit RequestTemplates.refuseTemplate at h
  split_ifs at h
  cases h
  exact ⟨rfl, rfl⟩

theorem Builds.key {candidate : AttackSurfaceCandidate} {template : RequestTemplate}
    (h : Builds candidate template) :
    (template.endpoint, template.parameter) = candidate.mergeKey := by
  have hsame : template.endpoint = characters candidate.endpoint ∧
      template.parameter = candidate.parameter := by
    unfold Builds buildRequestTemplate at h
    split at h
    · exact key_of_postInit h
    · split at h
      · exact key_of_postInit h
      · exact key_of_postInit h
      · cases h
  unfold mergeKey
  rw [hsame.1, hsame.2]

theorem map_key_of_builds {candidates : List AttackSurfaceCandidate}
    {templates : List RequestTemplate} (h : List.Forall₂ Builds candidates templates) :
    (templates.map fun t => (t.endpoint, t.parameter)) = candidates.map (·.mergeKey) := by
  induction h with
  | nil => rfl
  | cons hbuilds _ ih => rw [map_cons, map_cons, hbuilds.key, ih]

theorem builds_mergeCandidates {page site : List AttackSurfaceCandidate}
    {found extras : List RequestTemplate} (hfound : List.Forall₂ Builds page found)
    (hextras : List.Forall₂ Builds site extras) :
    List.Forall₂ Builds (firstOfEach (·.mergeKey) page site) (mergeCandidates found extras) := by
  induction hextras generalizing page found with
  | nil => exact hfound
  | cons hbuilds _ ih =>
    unfold firstOfEach mergeCandidates
    rw [map_key_of_builds hfound, hbuilds.key]
    split
    next hknown =>
      rw [if_pos (contains_iff_mem.mpr hknown)]
      exact ih hfound
    next hnew =>
      rw [if_neg fun h => hnew (contains_iff_mem.mp h)]
      exact ih (rel_append hfound (.cons hbuilds .nil))

/-! ## What is lost -/

/-- Each of the candidates has one that is kept at its place. -/
def NothingLost (kept compared : List AttackSurfaceCandidate) : Prop :=
  ∀ c ∈ compared, c.place ∈ kept.map (·.place)

/-- No two of the candidates are shifted. -/
def Unshifted (compared : List AttackSurfaceCandidate) : Prop :=
  ∀ a ∈ compared, ∀ b ∈ compared, ¬Shifted 124 a.place b.place

theorem Compared.nothingLost_iff (hsha : Function.Injective sha256)
    {kept compared : List AttackSurfaceCandidate}
    (h : Compared sha256 maximumEndpoints offered kept compared) :
    NothingLost kept compared ↔ Unshifted compared := by
  unfold NothingLost Unshifted
  rw [h.kept_eq]
  exact places_of_ids_iff hsha h.discovered

/-- The candidates of several results whose identifier is there in the end. -/
def mergeCompared (results : List DiscoveryResult) (budget : AttackSurfaceBudget) :
    List AttackSurfaceCandidate :=
  (results.flatMap (·.candidates)).filter fun c =>
    c.candidateId ∈ (mergeAttackSurfaceResults results budget).candidates.map (·.candidateId)

/-- Merging loses nothing exactly if nothing is shifted. -/
theorem merge_nothingLost_iff (hsha : Function.Injective sha256) {results : List DiscoveryResult}
    (hresults : ∀ result ∈ results, ∀ c ∈ result.candidates, Discovered sha256 c)
    (budget : AttackSurfaceBudget) :
    (∀ c ∈ results.flatMap (·.candidates), c ∉ mergeCompared results budget →
      budget.maximumEndpoints ≤ (mergeAttackSurfaceResults results budget).candidates.length) ∧
    (NothingLost (mergeAttackSurfaceResults results budget).candidates (mergeCompared results budget) ↔
      Unshifted (mergeCompared results budget)) := by
  have hcandidates : (mergeAttackSurfaceResults results budget).candidates =
      (mergeInto budget.maximumEndpoints (results.flatMap (·.candidates)) {}).candidates :=
    candidates_mergeResults results {}
  obtain ⟨hkept, hlater⟩ := mergeInto_eq budget.maximumEndpoints
    (results.flatMap (·.candidates)) {}
  rw [← hcandidates] at hkept hlater
  constructor
  · intro c hc hnot
    refine hlater c hc fun hthere => hnot ?_
    exact mem_filter.mpr ⟨hc, by simpa using hthere⟩
  · unfold NothingLost Unshifted
    rw [hkept]
    refine places_of_ids_iff hsha fun c hc => ?_
    obtain ⟨result, hresult, hmem⟩ := mem_flatMap.mp (mem_of_mem_filter hc)
    exact hresults result hresult c hmem

/-- What tells two candidates apart for the executor, with their places. -/
def AttackSurfaceCandidate.keyedPlace :
    (Text × PyText) × List PyText :=
  (candidate.mergeKey, candidate.place)

/-- Candidates of a site with the endpoint and the parameter of one of the page are of the place of
one of those, and the other ones with one endpoint and one parameter are of one place. -/
def KeyedAlike (page site : List AttackSurfaceCandidate) : Prop :=
  (∀ c ∈ site, c.mergeKey ∈ page.map (·.mergeKey) → c.keyedPlace ∈ page.map (·.keyedPlace)) ∧
  ∀ a ∈ site, ∀ b ∈ site, a.mergeKey ∉ page.map (·.mergeKey) → a.mergeKey = b.mergeKey →
    a.place = b.place

theorem executor_nothingLost_iff (page site : List AttackSurfaceCandidate) :
    (∀ c ∈ site, c.keyedPlace ∈ (firstOfEach (·.mergeKey) page site).map (·.keyedPlace)) ↔
      KeyedAlike page site := by
  rw [FirstOfKey.places_kept_iff (fun c : AttackSurfaceCandidate => c.mergeKey)
    fun a _ b _ h => congrArg Prod.fst h]
  refine and_congr_right fun _ => forall₂_congr fun a _ => forall₂_congr fun b _ => ?_
  refine forall₂_congr fun _ hkey => ?_
  unfold keyedPlace
  rw [Prod.mk.injEq, and_iff_right hkey]

/--
**What de-duplication keeps**, if no two identities have one digest.

An identity tells two candidates apart exactly if their fields are not shifted. Discovery on a page
or a site and the merge of several results lose no place exactly if no two of the candidates that
they compare are shifted, and the executor loses none exactly if endpoint and parameter tell the
places apart.
-/
theorem candidate_identity_iff [LowerTable] (φ : Type) [PyFloat φ] [NamedFloats φ]
    (hsha : Function.Injective sha256) :
    (∀ a b, Discovered sha256 a → Discovered sha256 b →
      (a.candidateId = b.candidateId ↔ a.identityKey = b.identityKey) ∧
      ((a.identityKey = b.identityKey → a.place = b.place) ↔ ¬Shifted 124 a.place b.place)) ∧
    (∀ target budget pageUrl feed htmlBody result,
      discoverPageAttackSurface sha256 target budget pageUrl feed htmlBody = .ok result →
      ∃ compared, Compared sha256 budget.maximumEndpoints
          (pageOffers target budget pageUrl feed htmlBody) result.candidates compared ∧
        (NothingLost result.candidates compared ↔ Unshifted compared)) ∧
    (∀ target interpreter budget surroundings result,
      discoverSiteAttackSurface sha256 target φ interpreter budget surroundings = .ok result →
      ∃ collected, collectSite sha256 target φ interpreter budget surroundings = .ok collected ∧
        (result.candidates = collected.candidates ∨
          ∃ compared, Compared sha256 budget.maximumEndpoints
              (collected.candidates.map (·.toCandidateFields)) result.candidates compared ∧
            (NothingLost result.candidates compared ↔ Unshifted compared))) ∧
    (∀ results budget,
      (∀ result ∈ results, ∀ c ∈ result.candidates, Discovered sha256 c) →
      (∀ c ∈ results.flatMap (·.candidates), c ∉ mergeCompared results budget →
        budget.maximumEndpoints ≤ (mergeAttackSurfaceResults results budget).candidates.length) ∧
      (NothingLost (mergeAttackSurfaceResults results budget).candidates
        (mergeCompared results budget) ↔ Unshifted (mergeCompared results budget))) ∧
    ∀ allowPost allowJson page site found extras,
      toRequestTemplates allowPost allowJson page = .ok found →
      toRequestTemplates allowPost allowJson site = .ok extras →
      ∃ kept, List.Forall₂ Builds kept (mergeCandidates found extras) ∧
        ((∀ c ∈ site, c.isProjected allowPost allowJson = true →
            c.keyedPlace ∈ kept.map (·.keyedPlace)) ↔
          KeyedAlike (page.filter (·.isProjected allowPost allowJson))
            (site.filter (·.isProjected allowPost allowJson))) := by
  refine ⟨fun a b ha hb => ⟨candidateId_eq_iff hsha ha hb, identityKey_iff a b⟩, ?_, ?_, ?_, ?_⟩
  · intro target budget pageUrl feed htmlBody result hresult
    obtain ⟨compared, hcompared⟩ := compared_of_page hresult
    exact ⟨compared, hcompared, hcompared.nothingLost_iff hsha⟩
  · intro target interpreter budget surroundings result hresult
    obtain ⟨collected, hcollected, hmade⟩ := collectSite_of_discover hresult
    refine ⟨collected, hcollected, ?_⟩
    split at hmade
    · exact .inl hmade
    · have hdiscovered := fun c hc => (sound_collectSite hcollected c hc).1
      obtain ⟨compared, hcompared⟩ := compared_of_deduped hdiscovered
      rw [hmade]
      exact .inr ⟨compared, hcompared, hcompared.nothingLost_iff hsha⟩
  · exact fun results budget hresults => merge_nothingLost_iff hsha hresults budget
  · intro allowPost allowJson page site found extras hfound hextras
    refine ⟨_, builds_mergeCandidates (toRequestTemplates_eq_ok.mp hfound)
      (toRequestTemplates_eq_ok.mp hextras), ?_⟩
    rw [← executor_nothingLost_iff]
    simp only [mem_filter, and_imp]

end

theorem candidate_identity_login :
    letI := transitionLibrary; letI := oneFloat; letI := unnamedFloats; letI := asciiTables
    letI := asciiLower
    ∃ result compared, discoverPageAttackSurface id sampleTarget {} "https://h.com/".toList
        (fun _ => .ok loginPage) [] = .ok result ∧ result.candidates.length = 2 ∧
      Compared id 40 (pageOffers sampleTarget {} "https://h.com/".toList (fun _ => .ok loginPage) [])
        result.candidates compared ∧
      (NothingLost result.candidates compared ↔ Unshifted compared) := by
  let _ := transitionLibrary
  let _ := oneFloat
  let _ := unnamedFloats
  let _ := asciiTables
  let _ := asciiLower
  have hrun : (discoverPageAttackSurface id sampleTarget {} "https://h.com/".toList
      (fun _ => .ok loginPage) []).map (·.candidates.length) = .ok 2 := by
    decide
  obtain ⟨result, hresult, hlength⟩ := map_ok_iff.mp hrun
  obtain ⟨-, hpages, -⟩ := candidate_identity_iff Unit Function.injective_id
  obtain ⟨compared, hcompared, hlossless⟩ := hpages _ _ _ _ _ result hresult
  exact ⟨result, compared, hresult, hlength, hcompared, hlossless⟩

/-! ## Two forms -/

def getForm (action name : String) : List HtmlEvent :=
  [.startTag ⟨"form".toList, [("action".toList, some action.toList)]⟩,
    .startTag ⟨"input".toList, [("name".toList, some name.toList)]⟩,
    .endTag "form".toList]

def shiftedPage : List HtmlEvent :=
  getForm "/a" "q|GET||form|p" ++ getForm "/a|GET||form|q" "p"

/-- The identities of the two fields are equal, and the page loses the second one. -/
theorem shifted_forms :
    letI := transitionLibrary; letI := asciiTables; letI := asciiLower
    ∃ a b result, Discovered id a ∧ Discovered id b ∧
      pageOffers sampleTarget {} "https://h.com/".toList (fun _ => .ok shiftedPage) [] =
        [a.toCandidateFields, b.toCandidateFields] ∧
      discoverPageAttackSurface id sampleTarget {} "https://h.com/".toList
        (fun _ => .ok shiftedPage) [] = .ok result ∧
      a.identityKey = b.identityKey ∧ a.place ≠ b.place ∧
      b.place ∉ result.candidates.map (·.place) := by
  let _ := transitionLibrary
  let _ := asciiTables
  let _ := asciiLower
  have hrun : (match pageOffers sampleTarget {} "https://h.com/".toList (fun _ => .ok shiftedPage) []
      with
      | [first, second] => do
        let a ← first.postInit id
        let b ← second.postInit id
        let result ← discoverPageAttackSurface id sampleTarget {} "https://h.com/".toList
          (fun _ => .ok shiftedPage) []
        return decide (a.identityKey = b.identityKey ∧ a.place ≠ b.place ∧
          b.place ∉ result.candidates.map (·.place))
      | [] => .ok false
      | [_] => .ok false
      | _ :: _ :: _ :: _ => .ok false : Except DiscoveryFailure Bool) = .ok true := by
    decide
  split at hrun
  next first second hoffers =>
    obtain ⟨a, ha, hrun⟩ := bind_ok hrun
    obtain ⟨b, hb, hrun⟩ := bind_ok hrun
    obtain ⟨result, hresult, hrun⟩ := bind_ok hrun
    refine ⟨a, b, result, discovered_of_postInit ha, discovered_of_postInit hb, ?_, hresult,
      of_decide_eq_true (Except.ok.inj hrun)⟩
    rw [hoffers, (postInit_eq_ok ha).1, (postInit_eq_ok hb).1]
  all_goals cases hrun

end WebGuard.AttackSurface
