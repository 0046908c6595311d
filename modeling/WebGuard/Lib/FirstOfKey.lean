import Mathlib.Data.List.Nodup

/-!
# The first item of each key

Items are taken in their order, and an item whose key is already there is dropped.
-/

namespace FirstOfKey

open List

variable {α κ π : Type*} [DecidableEq κ] (key : α → κ)

/-- The items with a new key, behind those that are there. -/
def firstOfEach : List α → List α → List α
  | kept, [] => kept
  | kept, item :: rest =>
    if key item ∈ kept.map key then firstOfEach kept rest else firstOfEach (kept ++ [item]) rest

theorem firstOfEach_append (kept items others : List α) :
    firstOfEach key kept (items ++ others) = firstOfEach key (firstOfEach key kept items) others := by
  induction items generalizing kept with
  | nil => rfl
  | cons item rest ih =>
    rw [cons_append, firstOfEach, firstOfEach]
    split
    · exact ih kept
    · exact ih (kept ++ [item])

/-- What is taken. -/
theorem exists_added (kept items : List α) :
    ∃ added, firstOfEach key kept items = kept ++ added ∧ added.Sublist items ∧
      (added.map key).Nodup ∧ (∀ item ∈ added, key item ∉ kept.map key) ∧
      ∀ item ∈ items, key item ∈ (kept ++ added).map key := by
  induction items generalizing kept with
  | nil => exact ⟨[], (append_nil kept).symm, .slnil, nodup_nil, by simp, by simp⟩
  | cons item rest ih =>
    unfold firstOfEach
    split
    next hkey =>
      obtain ⟨added, hkept, hsublist, hnodup, hnew, hall⟩ := ih kept
      refine ⟨added, hkept, hsublist.cons item, hnodup, hnew, forall_mem_cons.mpr ⟨?_, hall⟩⟩
      rw [map_append]
      exact mem_append_left _ hkey
    next hkey =>
      obtain ⟨added, hkept, hsublist, hnodup, hnew, hall⟩ := ih (kept ++ [item])
      have hfresh : ∀ other ∈ added, key other ∉ kept.map key ∧ key other ≠ key item := by
        intro other hother
        have hout := hnew other hother
        rw [map_append, mem_append, not_or, map_singleton, mem_singleton] at hout
        exact hout
      rw [append_assoc, singleton_append] at hkept hall
      refine ⟨item :: added, hkept, hsublist.cons_cons item, ?_, ?_, ?_⟩
      · rw [map_cons, nodup_cons]
        refine ⟨fun hmem => ?_, hnodup⟩
        obtain ⟨other, hother, hsame⟩ := mem_map.mp hmem
        exact (hfresh other hother).2 hsame
      · exact forall_mem_cons.mpr ⟨hkey, fun other hother => (hfresh other hother).1⟩
      · exact forall_mem_cons.mpr ⟨mem_map_of_mem (by simp), hall⟩

/-- Nothing is lost if no item is dropped whose place is not kept. -/
theorem places_kept_iff {place : α → π} {kept items : List α}
    (hplace : ∀ a ∈ kept ++ items, ∀ b ∈ kept ++ items, place a = place b → key a = key b) :
    (∀ item ∈ items, place item ∈ (firstOfEach key kept items).map place) ↔
      (∀ item ∈ items, key item ∈ kept.map key → place item ∈ kept.map place) ∧
      ∀ a ∈ items, ∀ b ∈ items, key a ∉ kept.map key → key a = key b → place a = place b := by
  obtain ⟨added, hkept, hsublist, hnodup, hnew, hall⟩ := exists_added key kept items
  rw [hkept]
  have hsub : ∀ c ∈ kept ++ added, c ∈ kept ++ items := fun c hc =>
    ((List.Sublist.refl kept).append hsublist).subset hc
  constructor
  · intro hlossless
    -- the one that is kept has the key of the item
    have hfound : ∀ item ∈ items, ∃ c ∈ kept ++ added, place c = place item ∧ key c = key item := by
      intro item hitem
      obtain ⟨c, hc, hsame⟩ := mem_map.mp (hlossless item hitem)
      exact ⟨c, hc, hsame, hplace c (hsub c hc) item (mem_append_right _ hitem) hsame⟩
    constructor
    · intro item hitem hkey
      obtain ⟨c, hc, hsame, hsamekey⟩ := hfound item hitem
      rcases mem_append.mp hc with hc | hc
      · exact hsame ▸ mem_map_of_mem hc
      · exact absurd (hsamekey ▸ hkey) (hnew c hc)
    · intro a ha b hb hkey hsame
      have hin : ∀ item ∈ items, key item = key a →
          ∃ c ∈ added, place c = place item ∧ key c = key a := by
        intro item hitem hitemkey
        obtain ⟨c, hc, hplaced, hckey⟩ := hfound item hitem
        rcases mem_append.mp hc with hc | hc
        · exact absurd (hitemkey ▸ hckey ▸ mem_map_of_mem hc) hkey
        · exact ⟨c, hc, hplaced, hckey.trans hitemkey⟩
      obtain ⟨c, hc, hplacec, hckey⟩ := hin a ha rfl
      obtain ⟨d, hd, hplaced, hdkey⟩ := hin b hb hsame.symm
      obtain rfl : c = d := inj_on_of_nodup_map hnodup hc hd (hckey.trans hdkey.symm)
      exact hplacec.symm.trans hplaced
  · rintro ⟨hthere, hnewer⟩ item hitem
    rw [map_append]
    by_cases hkey : key item ∈ kept.map key
    · exact mem_append_left _ (hthere item hitem hkey)
    · have hmem := hall item hitem
      rw [map_append] at hmem
      obtain ⟨c, hc, hsame⟩ := mem_map.mp ((mem_append.mp hmem).resolve_left hkey)
      rw [hnewer item hitem c (hsublist.subset hc) hkey hsame.symm]
      exact mem_append_right _ (mem_map_of_mem hc)

theorem places_kept_nil_iff {place : α → π} {items : List α}
    (hplace : ∀ a ∈ items, ∀ b ∈ items, place a = place b → key a = key b) :
    (∀ item ∈ items, place item ∈ (firstOfEach key [] items).map place) ↔
      ∀ a ∈ items, ∀ b ∈ items, key a = key b → place a = place b := by
  rw [places_kept_iff key (by simpa using hplace)]
  simp

end FirstOfKey
