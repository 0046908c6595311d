import Mathlib.Data.Set.Basic

/-!
# Keys of recurring work

Recurring work names each of its runs by a slot and takes the key of the slot from a space of
unique keys that it shares with others. When it has taken the key it moves on to a later slot.
-/

namespace Recurring

variable {I K : Type*}

/-- What a step does to the keys in use and to the slots that come next. -/
inductive Step [DecidableEq I] (key : I → Nat → K) (D : I → Nat → Prop) (used used' : Set K)
    (slot slot' : I → Option Nat) : Prop where
  /-- No slot moves, and nobody takes the key of one. -/
  | foreign (hslot : slot' = slot) (hused : ∀ i t, D i t → key i t ∈ used' → key i t ∈ used)
  /-- The work `i` takes the key of its slot and moves on. -/
  | taken {i : I} {t t' : Nat} (hslot : slot i = some t) (hlater : t < t') (hplaced : D i t')
      (hslot' : ∀ j, slot' j = if j = i then some t' else slot j)
      (hused : ∀ k ∈ used', k ∈ used ∨ k = key i t)

/-- The keys of the slots to come are free, apart from those in use at the start. -/
structure Ahead (key : I → Nat → K) (D : I → Nat → Prop) (start used : Set K)
    (slot : I → Option Nat) : Prop where
  placed : ∀ i t, slot i = some t → D i t
  free : ∀ i t u, slot i = some t → t ≤ u → D i u → key i u ∈ used → key i u ∈ start

variable {key : I → Nat → K} {D : I → Nat → Prop} {start used used' : Set K}
  {slot slot' : I → Option Nat}

theorem Ahead.refl (h : ∀ i t, slot i = some t → D i t) : Ahead key D used used slot :=
  ⟨h, fun _ _ _ _ _ _ hused => hused⟩

/-- A step keeps this if only the run itself takes the key of a slot. -/
theorem Ahead.step [DecidableEq I]
    (hkey : ∀ i t j u, D i t → D j u → key i t = key j u → i = j ∧ t = u)
    (h : Ahead key D start used slot) (hstep : Step key D used used' slot slot') :
    Ahead key D start used' slot' := by
  cases hstep with
  | foreign hslot hused =>
    subst hslot
    exact ⟨h.placed, fun i t u hi hle hu hk => h.free i t u hi hle hu (hused i u hu hk)⟩
  | @taken i t t' hslot hlater hplaced hslot' hused =>
    refine ⟨?_, ?_⟩
    · intro j v hj
      rw [hslot'] at hj
      split at hj
      · next hji =>
        cases hj
        exact hji ▸ hplaced
      · exact h.placed j v hj
    · intro j v u hj hle hu hk
      rw [hslot'] at hj
      rcases hused _ hk with hold | hnew
      · split at hj
        · next hji =>
          cases hj
          subst hji
          exact h.free j t u hslot (le_trans (le_of_lt hlater) hle) hu hold
        · exact h.free j v u hj hle hu hold
      · -- The key just taken is that of an earlier slot of the same work.
        obtain ⟨rfl, rfl⟩ := hkey j u i t hu (h.placed i t hslot) hnew
        rw [if_pos rfl] at hj
        cases hj
        exact absurd hle (not_le.mpr hlater)

end Recurring
