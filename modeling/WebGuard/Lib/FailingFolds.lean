import WebGuard.Lib.Atomic
import Mathlib.Data.List.Forall2

/-!
# Loops that can fail

A loop over a list whose body may fail is `List.foldlM` in `Except`. The rule of its invariants:
what holds at the start and is kept by each pass holds at the end of a loop that did not fail.

A loop that collects what it computes is `List.mapM`, and one that only checks is `List.forM`.
Both succeed exactly if they do so on every element (`mapM_ok_iff`, `forM_ok_iff`).
-/

namespace Atomic

variable {ε α σ : Type} {body : σ → α → Except ε σ}

theorem foldlM_cons_ok {a : α} {rest : List α} {s t : σ} :
    (a :: rest).foldlM body s = .ok t ↔ ∃ m, body s a = .ok m ∧ rest.foldlM body m = .ok t := by
  rw [List.foldlM_cons]
  exact bind_ok_iff

variable {items : List α}

theorem foldlM_induct {s t : σ} (motive : List α → σ → Prop)
    (start : motive [] s)
    (step : ∀ done a rest m m', items = done ++ a :: rest → motive done m → body m a = .ok m' →
      motive (done ++ [a]) m')
    (h : items.foldlM body s = .ok t) : motive items t := by
  have general : ∀ rest done m, items = done ++ rest → motive done m →
      rest.foldlM body m = .ok t → motive items t := by
    intro rest
    induction rest with
    | nil =>
      intro done m hitems hm h
      cases h
      rwa [hitems, List.append_nil]
    | cons a rest ih =>
      intro done m hitems hm h
      obtain ⟨m', hbody, h⟩ := foldlM_cons_ok.mp h
      refine ih (done ++ [a]) m' ?_ (step done a rest m m' hitems hm hbody) h
      rw [hitems, List.append_assoc]
      rfl
  exact general items [] s rfl start h

/-! ## Collecting -/

variable {β : Type} {f : α → Except ε β}

variable {outputs : List β}

theorem mapM_ok_iff :
    items.mapM f = .ok outputs ↔ List.Forall₂ (fun a b => f a = .ok b) items outputs := by
  induction items generalizing outputs with
  | nil =>
    rw [List.mapM_nil, List.forall₂_nil_left_iff]
    constructor
    · rintro ⟨⟩
      rfl
    · rintro rfl
      rfl
  | cons a rest ih =>
    simp only [List.mapM_cons, bind_ok_iff, List.forall₂_cons_left_iff]
    constructor
    · rintro ⟨b, hb, others, hothers, ⟨⟩⟩
      exact ⟨b, others, hb, ih.mp hothers, rfl⟩
    · rintro ⟨b, others, hb, hothers, rfl⟩
      exact ⟨b, hb, others, ih.mpr hothers, rfl⟩

theorem exists_mapM_ok_iff :
    (∃ outputs, items.mapM f = .ok outputs) ↔ ∀ a ∈ items, ∃ b, f a = .ok b := by
  simp only [mapM_ok_iff]
  induction items with
  | nil => simp
  | cons a rest ih =>
    rw [List.forall_mem_cons, ← ih]
    constructor
    · rintro ⟨_, _ | ⟨hfirst, hrest⟩⟩
      exact ⟨⟨_, hfirst⟩, _, hrest⟩
    · rintro ⟨⟨b, hfirst⟩, outputs, hrest⟩
      exact ⟨b :: outputs, .cons hfirst hrest⟩

theorem exists_of_mapM (h : items.mapM f = .ok outputs) :
    ∀ b ∈ outputs, ∃ a ∈ items, f a = .ok b := by
  have hall := mapM_ok_iff.mp h
  clear h
  induction hall with
  | nil => simp
  | cons hfirst _ ih =>
    refine List.forall_mem_cons.mpr ⟨⟨_, List.mem_cons_self, hfirst⟩, fun b hb => ?_⟩
    obtain ⟨a, ha, heq⟩ := ih b hb
    exact ⟨a, List.mem_cons_of_mem _ ha, heq⟩

theorem eq_map_of_mapM {g : α → β}
    (hg : ∀ a b, f a = .ok b → b = g a) (h : items.mapM f = .ok outputs) :
    outputs = items.map g := by
  have hall := mapM_ok_iff.mp h
  clear h
  induction hall with
  | nil => rfl
  | cons hfirst _ ih => rw [List.map_cons, hg _ _ hfirst, ih]

theorem mapM_eq_map {g : α → β} (h : ∀ a ∈ items, f a = .ok (g a)) :
    items.mapM f = .ok (items.map g) := by
  rw [mapM_ok_iff, List.forall₂_map_right_iff, List.forall₂_same]
  exact h

theorem mapM_eq_self {f : α → Except ε α} (h : ∀ a ∈ items, f a = .ok a) :
    items.mapM f = .ok items := by
  have hmap := mapM_eq_map (g := id) h
  rwa [List.map_id] at hmap

/-! ## Checking -/

theorem forM_ok_iff {check : α → Except ε Unit} :
    items.forM check = .ok () ↔ ∀ a ∈ items, check a = .ok () := by
  induction items with
  | nil => simp [pure, Except.pure]
  | cons a rest ih =>
    rw [List.forM, List.forall_mem_cons, ← ih, bind_ok_iff]
    constructor
    · rintro ⟨_, hfirst, hrest⟩
      exact ⟨hfirst, hrest⟩
    · rintro ⟨hfirst, hrest⟩
      exact ⟨(), hfirst, hrest⟩

end Atomic
