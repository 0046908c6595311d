import WebGuard.Lib.JsonRoundTrip

/-!
# Canonical documents

`dumps` sorts the keys of every object and writes the sorted value. Sorting twice is sorting once,
and a value that can be read back can be read back when it is sorted, so that a canonical document
is read as the sorted value and written again as the same document.
-/

namespace PyJson

open List

variable {ε σ φ : Type}

/-! ## Sorting -/

section Keys

variable [LinearOrder σ]

theorem sortItems_eq_map (items : List (Json σ φ)) : sortItems items = items.map sortKeys := by
  induction items with
  | nil => rfl
  | cons item rest ih => rw [sortItems, ih, map_cons]

theorem sortMembers_eq_map (members : List (σ × Json σ φ)) :
    sortMembers members = members.map fun member => (member.1, sortKeys member.2) := by
  induction members with
  | nil => rfl
  | cons member rest ih => rw [sortMembers, ih, map_cons]

instance : IsTrans (σ × Json σ φ) (fun a b => a.1 ≤ b.1) := ⟨fun _ _ _ => le_trans⟩

instance : Std.Total (fun a b : σ × Json σ φ => a.1 ≤ b.1) := ⟨fun a b => le_total a.1 b.1⟩

theorem pairwise_byKey (members : List (σ × Json σ φ)) :
    (byKey members).Pairwise (fun a b => a.1 ≤ b.1) :=
  pairwise_insertionSort _ members

variable {members : List (σ × Json σ φ)}

theorem byKey_of_pairwise (h : members.Pairwise (fun a b => a.1 ≤ b.1)) : byKey members = members :=
  h.insertionSort_eq

theorem perm_byKey (members : List (σ × Json σ φ)) : (byKey members).Perm members :=
  perm_insertionSort _ members

theorem sortMembers_byKey (members : List (σ × Json σ φ)) :
    sortMembers (byKey members) = byKey (sortMembers members) := by
  rw [sortMembers_eq_map, sortMembers_eq_map]
  exact map_insertionSort _ _ _ _ (by simp)

theorem byKey_eq_of_perm {others : List (σ × Json σ φ)} (hnodup : (members.map Prod.fst).Nodup)
    (h : members.Perm others) : byKey members = byKey others := by
  have hperm : (byKey members).Perm (byKey others) :=
    (perm_byKey members).trans (h.trans (perm_byKey others).symm)
  refine hperm.eq_of_pairwise ?_ (pairwise_byKey members) (pairwise_byKey others)
  intro a b ha hb hab hba
  have hmem : b ∈ members := (perm_byKey members).mem_iff.mp (hperm.mem_iff.mpr hb)
  exact inj_on_of_nodup_map hnodup ((perm_byKey members).mem_iff.mp ha) hmem
    (le_antisymm hab hba)

theorem keys_byKey_sortMembers (members : List (σ × Json σ φ)) :
    ((byKey (sortMembers members)).map Prod.fst).Perm (members.map Prod.fst) := by
  have hkeys : (sortMembers members).map Prod.fst = members.map Prod.fst := by
    rw [sortMembers_eq_map, map_map]
    rfl
  rw [← hkeys]
  exact (perm_byKey (sortMembers members)).map Prod.fst

theorem lookup_sorted [DecidableEq σ] (hnodup : (members.map Prod.fst).Nodup) {key : σ}
    {value : Json σ φ} (h : (key, value) ∈ members) :
    lookup key (byKey (sortMembers members)) = some (sortKeys value) := by
  refine lookup_of_mem ((keys_byKey_sortMembers members).nodup_iff.mpr hnodup) ?_
  rw [(perm_byKey _).mem_iff, sortMembers_eq_map]
  exact mem_map_of_mem (f := fun member => (member.1, sortKeys member.2)) h

mutual

theorem sortKeys_sortKeys : ∀ value : Json σ φ, sortKeys (sortKeys value) = sortKeys value
  | .null => rfl
  | .bool _ => rfl
  | .int _ => rfl
  | .float _ => rfl
  | .str _ => rfl
  | .arr items => by
    rw [sortKeys, sortKeys, sortItems_sortItems items]
  | .obj members => by
    rw [sortKeys, sortKeys, sortMembers_byKey, sortMembers_sortMembers members,
      byKey_of_pairwise (pairwise_byKey _)]

theorem sortItems_sortItems : ∀ items : List (Json σ φ), sortItems
    (sortItems items) = sortItems items
  | [] => rfl
  | item :: rest => by
    rw [sortItems, sortItems, sortKeys_sortKeys item, sortItems_sortItems rest]

theorem sortMembers_sortMembers :
    ∀ members : List (σ × Json σ φ), sortMembers (sortMembers members) = sortMembers members
  | [] => rfl
  | (key, value) :: rest => by
    rw [sortMembers, sortMembers, sortKeys_sortKeys value, sortMembers_sortMembers rest]

end

end Keys

section All

variable {p : PyText → Bool} {q : φ → Bool}

theorem allMembers_eq_all (members : List (PyText × Json PyText φ)) :
    allMembers p q members = members.all fun member => p member.1 && member.2.all p q := by
  induction members with
  | nil => rfl
  | cons member rest ih => rw [allMembers, ih, all_cons]

mutual

theorem all_sortKeys : ∀ value : Json PyText φ, (sortKeys value).all p q = value.all p q
  | .null => rfl
  | .bool _ => rfl
  | .int _ => rfl
  | .float _ => rfl
  | .str _ => rfl
  | .arr items => allItems_sortItems items
  | .obj members => by
    rw [sortKeys, Json.all, Json.all, ← allMembers_sortMembers members, allMembers_eq_all,
      allMembers_eq_all, (perm_byKey _).all_eq]

theorem allItems_sortItems :
    ∀ items : List (Json PyText φ), allItems p q (sortItems items) = allItems p q items
  | [] => rfl
  | item :: rest => by
    rw [sortItems, allItems, allItems, all_sortKeys item, allItems_sortItems rest]

theorem allMembers_sortMembers : ∀ members : List (PyText × Json PyText φ),
    allMembers p q (sortMembers members) = allMembers p q members
  | [] => rfl
  | (_, value) :: rest => by
    rw [sortMembers, allMembers, allMembers, all_sortKeys value, allMembers_sortMembers rest]

end

end All

/-! ## Reading back -/

variable [PyFloat φ] {hooks : Hooks ε φ} {mode : Mode}

theorem fitsMembers_iff {depth : Nat} {members : List (PyText × Json PyText φ)} :
    FitsMembers mode hooks depth members
      ↔ ∀ member ∈ members, readsBack mode member.1 = true ∧ Fits mode hooks depth member.2 := by
  induction members with
  | nil => simp [FitsMembers]
  | cons member rest ih =>
    rw [FitsMembers, ih, forall_mem_cons, and_assoc]

mutual

theorem fits_sortKeys : ∀ (value : Json PyText φ) {depth : Nat}, Fits mode hooks depth value →
    Fits mode hooks depth (sortKeys value)
  | .null, _, h => h
  | .bool _, _, h => h
  | .int _, _, h => h
  | .float _, _, h => h
  | .str _, _, h => h
  | .arr items, _, h => ⟨h.1, fitsItems_sortItems items h.2⟩
  | .obj members, depth, h => by
    obtain ⟨hdepth, hnodup, hmembers⟩ := h
    refine ⟨hdepth, ?_, ?_⟩
    · rw [((perm_byKey _).map Prod.fst).nodup_iff, sortMembers_eq_map, map_map]
      exact hnodup
    · rw [fitsMembers_iff]
      intro member hmember
      exact fitsMembers_iff.mp (fitsMembers_sortMembers members hmembers) member
        ((perm_byKey _).mem_iff.mp hmember)

theorem fitsItems_sortItems : ∀ (items : List (Json PyText φ)) {depth : Nat},
    FitsItems mode hooks depth items → FitsItems mode hooks depth (sortItems items)
  | [], _, h => h
  | item :: rest, _, h => ⟨fits_sortKeys item h.1, fitsItems_sortItems rest h.2⟩

theorem fitsMembers_sortMembers : ∀ (members : List (PyText × Json PyText φ)) {depth : Nat},
    FitsMembers mode hooks depth members → FitsMembers mode hooks depth (sortMembers members)
  | [], _, h => h
  | (_, value) :: rest, _, h =>
    ⟨h.1, fits_sortKeys value h.2.1, fitsMembers_sortMembers rest h.2.2⟩

end

theorem dumps_sortKeys (value : Json PyText φ) : dumps mode
    (sortKeys value) = dumps mode value := by
  unfold dumps
  rw [all_sortKeys, sortKeys_sortKeys]

theorem dumps_eq_some {value : Json PyText φ} {document : List Char}
    (h : dumps mode value = some document) : document = render mode (sortKeys value) := by
  unfold dumps at h
  split at h
  · exact (Option.some.inj h).symm
  · cases h

theorem loads_dumps (laws : FloatLaws φ) (hpairs : KeepsPairs hooks) {value : Json PyText φ}
    {document : List Char} (hfits : Fits mode hooks hooks.recursionLimit value)
    (h : dumps mode value = some document) : loads hooks document = .ok (sortKeys value) := by
  rw [dumps_eq_some h]
  exact loads_render laws hpairs (fits_sortKeys value hfits)

end PyJson
