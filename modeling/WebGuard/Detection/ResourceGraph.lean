import WebGuard.Detection.AuthorizationResources

/-!
# The resource graph

`AuthorizationResourceGraph` of `resource_graph.py` keeps the resources of each identity, one for
each resource identifier. `build_comparison_pairs` goes through those of the primary identity, and
takes for each the first eligible one of the secondary identity that is not yet in a pair.
-/

namespace WebGuard.ActiveDetection

open PyJson UrlParse StandardLibrary List

variable [StandardLibrary]

/-! ## Resources of an identity -/

variable {identityLabel : PyText}

theorem mem_addResources {bucket resources : List AuthorizationResource}
    {resource : AuthorizationResource}
    (h : resource ∈ addResources identityLabel bucket resources) :
    resource ∈ bucket ∨ resource ∈ resources ∧ resource.owningTestIdentity = identityLabel := by
  induction resources generalizing bucket with
  | nil => exact .inl h
  | cons first rest ih =>
    unfold addResources at h
    split at h
    · exact (ih h).imp_right fun ⟨hmem, howner⟩ => ⟨mem_cons_of_mem _ hmem, howner⟩
    next hnew =>
      rw [not_or, not_not] at hnew
      rcases ih h with hmem | ⟨hmem, howner⟩
      · rcases mem_append.mp hmem with hmem | hmem
        · exact .inl hmem
        · obtain rfl := mem_singleton.mp hmem
          exact .inr ⟨mem_cons_self, hnew.1⟩
      · exact .inr ⟨mem_cons_of_mem _ hmem, howner⟩

theorem nodup_addResources {bucket : List AuthorizationResource}
    (h : (bucket.map (·.resourceId)).Nodup) (resources : List AuthorizationResource) :
    ((addResources identityLabel bucket resources).map (·.resourceId)).Nodup := by
  induction resources generalizing bucket with
  | nil => exact h
  | cons first rest ih =>
    unfold addResources
    split
    · exact ih h
    next hnew =>
      rw [not_or] at hnew
      refine ih ?_
      rw [map_append, map_singleton]
      exact List.Nodup.append h (nodup_singleton _) (disjoint_singleton.mpr hnew.2)

/-- `AuthorizationResourceGraph`. An identity has its own resources only, each identifier once. -/
structure AuthorizationResourceGraph where
  buckets : List (PyText × List AuthorizationResource)
  owned : ∀ bucket ∈ buckets, ∀ resource ∈ bucket.2, resource.owningTestIdentity = bucket.1
  distinct : ∀ bucket ∈ buckets, (bucket.2.map (·.resourceId)).Nodup

namespace AuthorizationResourceGraph

def empty : AuthorizationResourceGraph where
  buckets := []
  owned := by simp
  distinct := by simp

/-- `setdefault(identity_label, {})`, and the resources that are added to it. -/
def addTo (identityLabel : PyText) (resources : List AuthorizationResource) :
    List (PyText × List AuthorizationResource) → List (PyText × List AuthorizationResource)
  | [] => [(identityLabel, addResources identityLabel [] resources)]
  | (label, bucket) :: rest =>
    if label = identityLabel then (label, addResources identityLabel bucket resources) :: rest
    else (label, bucket) :: addTo identityLabel resources rest

theorem mem_addTo {resources : List AuthorizationResource}
    {buckets : List (PyText × List AuthorizationResource)}
    {bucket : PyText × List AuthorizationResource}
    (h : bucket ∈ addTo identityLabel resources buckets) :
    bucket ∈ buckets ∨ bucket = (identityLabel, addResources identityLabel [] resources) ∨
      ∃ before, (identityLabel, before) ∈ buckets ∧
        bucket = (identityLabel, addResources identityLabel before resources) := by
  induction buckets with
  | nil => exact .inr (.inl (mem_singleton.mp h))
  | cons first rest ih =>
    obtain ⟨label, before⟩ := first
    unfold addTo at h
    split at h
    next hlabel =>
      subst hlabel
      rcases mem_cons.mp h with rfl | h
      · exact .inr (.inr ⟨before, mem_cons_self, rfl⟩)
      · exact .inl (mem_cons_of_mem _ h)
    · rcases mem_cons.mp h with rfl | h
      · exact .inl mem_cons_self
      · rcases ih h with h | h | ⟨before, h, hbucket⟩
        · exact .inl (mem_cons_of_mem _ h)
        · exact .inr (.inl h)
        · exact .inr (.inr ⟨before, mem_cons_of_mem _ h, hbucket⟩)

/-- `add_resources`. -/
def add (graph : AuthorizationResourceGraph) (identityLabel : PyText)
    (resources : List AuthorizationResource) : AuthorizationResourceGraph where
  buckets := addTo identityLabel resources graph.buckets
  owned := by
    intro bucket hbucket resource hresource
    rcases mem_addTo hbucket with h | rfl | ⟨before, h, rfl⟩
    · exact graph.owned bucket h resource hresource
    · rcases mem_addResources hresource with hmem | ⟨-, howner⟩
      · cases hmem
      · exact howner
    · rcases mem_addResources hresource with hmem | ⟨-, howner⟩
      · exact graph.owned _ h resource hmem
      · exact howner
  distinct := by
    intro bucket hbucket
    rcases mem_addTo hbucket with h | rfl | ⟨before, h, rfl⟩
    · exact graph.distinct bucket h
    · exact nodup_addResources (by simp) resources
    · exact nodup_addResources (graph.distinct _ h) resources

def resourcesFor (graph : AuthorizationResourceGraph) (identityLabel : PyText) :
    List AuthorizationResource :=
  (graph.buckets.lookup identityLabel).getD []

variable {graph : AuthorizationResourceGraph}

theorem mem_buckets_of_resourcesFor :
    graph.resourcesFor identityLabel = [] ∨
      (identityLabel, graph.resourcesFor identityLabel) ∈ graph.buckets := by
  unfold resourcesFor
  cases h : graph.buckets.lookup identityLabel with
  | none => exact .inl rfl
  | some bucket =>
    obtain ⟨before, after, hbuckets, -⟩ := lookup_eq_some_iff.mp h
    refine .inr ?_
    rw [hbuckets, Option.getD_some]
    exact mem_append_right _ mem_cons_self

theorem owner_of_mem {resource : AuthorizationResource}
    (h : resource ∈ graph.resourcesFor identityLabel) :
    resource.owningTestIdentity = identityLabel := by
  rcases graph.mem_buckets_of_resourcesFor with hnil | hmem
  · rw [hnil] at h
    cases h
  · exact graph.owned _ hmem resource h

theorem nodup_resourcesFor (graph : AuthorizationResourceGraph) (identityLabel : PyText) :
    ((graph.resourcesFor identityLabel).map (·.resourceId)).Nodup := by
  rcases graph.mem_buckets_of_resourcesFor with hnil | hmem
  · rw [hnil]
    exact nodup_nil
  · exact graph.distinct _ hmem

end AuthorizationResourceGraph

/-! ## Pairs -/

def AuthorizationResourceGraph.buildComparisonPairs (graph : AuthorizationResourceGraph)
    (primaryIdentity secondaryIdentity : PyText) (maximumPairs : Int) :
    List AuthorizationResourcePair :=
  pairUpTo maximumPairs (graph.resourcesFor secondaryIdentity) [] (graph.resourcesFor primaryIdentity)

theorem pairUpTo_spec (maximumPairs : Int) (secondaryResources : List AuthorizationResource)
    (pairs : List AuthorizationResourcePair) (primaryResources : List AuthorizationResource) :
    ∃ added, pairUpTo maximumPairs secondaryResources pairs primaryResources = pairs ++ added ∧
      (added.map (·.primaryResource)).Sublist primaryResources ∧
      (∀ pair ∈ added, pair.secondaryResource ∈ secondaryResources ∧
        isEligibleForComparison pair.primaryResource pair.secondaryResource = true) ∧
      ((pairs.map (·.secondaryResource.resourceId)).Nodup →
        ((pairs ++ added).map (·.secondaryResource.resourceId)).Nodup) ∧
      ((pairs ++ added).length : Int) ≤ max (pairs.length : Int) maximumPairs := by
  induction primaryResources generalizing pairs with
  | nil => exact ⟨[], by rw [pairUpTo, append_nil], .slnil, by simp, by simp, by simp⟩
  | cons primary rest ih =>
    unfold pairUpTo
    split
    · exact ⟨[], by rw [append_nil], nil_sublist _, by simp, by simp, by simp⟩
    next hroom =>
      split
      next =>
        obtain ⟨added, hpairs, hsublist, heligible, hnodup, hlength⟩ := ih pairs
        exact ⟨added, hpairs, hsublist.cons primary, heligible, hnodup, hlength⟩
      next secondary hfound =>
        obtain ⟨added, hpairs, hsublist, heligible, hnodup, hlength⟩ :=
          ih (pairs ++ [⟨primary, secondary⟩])
        have hmem := mem_of_find?_eq_some hfound
        have hfits := find?_some hfound
        rw [Bool.and_eq_true, decide_eq_true_eq] at hfits
        refine ⟨⟨primary, secondary⟩ :: added, ?_, ?_, ?_, ?_, ?_⟩
        · rw [hpairs, append_assoc, singleton_append]
        · rw [map_cons]
          exact hsublist.cons_cons primary
        · exact forall_mem_cons.mpr ⟨⟨hmem, hfits.2⟩, heligible⟩
        · intro hdistinct
          have hmore := hnodup (by
            rw [map_append, map_singleton]
            exact List.Nodup.append hdistinct (nodup_singleton _)
              (disjoint_singleton.mpr hfits.1))
          rwa [append_assoc, singleton_append] at hmore
        · rw [append_assoc, singleton_append] at hlength
          simp only [length_append, length_cons, length_nil] at hlength ⊢
          omega

end WebGuard.ActiveDetection
