import Mathlib.Data.List.Basic

/-!
# Fields with a separator between them

Texts are joined with a separator that may stand in the texts themselves, so two lists of fields can
give one text.
-/

namespace JoinedFields

open List

variable {α : Type*} (bar : α)

/-- `bar.join(fields)`. -/
def join (fields : List (List α)) : List α := intercalate [bar] fields

theorem join_cons {rest : List (List α)} (first : List α) (h : rest ≠ []) :
    join bar (first :: rest) = first ++ bar :: join bar rest := by
  unfold join
  rw [intercalate_cons_of_ne_nil h, append_assoc, singleton_append]

/-- At the first field that differs, one list goes on with a separator and a text, and the other has
this text in front of the fields that the first one has behind it. -/
def Shifted : List (List α) → List (List α) → Prop
  | first :: rest, other :: others =>
    (first = other ∧ Shifted rest others) ∨
    (∃ more, other = first ++ bar :: more ∧ join bar rest = more ++ bar :: join bar others) ∨
    ∃ more, first = other ++ bar :: more ∧ join bar others = more ++ bar :: join bar rest
  | _, _ => False

theorem not_shifted_self (fields : List (List α)) : ¬Shifted bar fields fields := by
  induction fields with
  | nil => exact id
  | cons first rest ih =>
    rintro (⟨-, h⟩ | ⟨more, h, -⟩ | ⟨more, h, -⟩)
    · exact ih h
    · exact absurd (self_eq_append_right.mp h) (cons_ne_nil _ _)
    · exact absurd (self_eq_append_right.mp h) (cons_ne_nil _ _)

variable {fields others : List (List α)}

/-- When two lists of fields give one text. -/
theorem join_eq_iff (h : fields.length = others.length) :
    join bar fields = join bar others ↔ fields = others ∨ Shifted bar fields others := by
  induction fields generalizing others with
  | nil =>
    rw [eq_nil_of_length_eq_zero h.symm]
    simp
  | cons first rest ih =>
    cases others with
    | nil => cases h
    | cons other others =>
      have hlength : rest.length = others.length := Nat.succ.inj h
      cases rest with
      | nil =>
        obtain rfl := eq_nil_of_length_eq_zero hlength.symm
        simp [Shifted, join]
      | cons second rest =>
        have hne : others ≠ [] := by
          rintro rfl
          cases hlength
        rw [join_cons bar first (cons_ne_nil _ _), join_cons bar other hne,
          append_eq_append_iff]
        constructor
        · rintro (⟨more, hother, hrest⟩ | ⟨more, hfirst, hrest⟩)
          · cases more with
            | nil =>
              rw [nil_append, cons.injEq] at hrest
              rw [append_nil] at hother
              rcases (ih hlength).mp hrest.2 with hsame | hshifted
              · exact .inl (by rw [hother, hsame])
              · exact .inr (.inl ⟨hother.symm, hshifted⟩)
            | cons c more =>
              rw [cons_append, cons.injEq] at hrest
              exact .inr (.inr (.inl ⟨more, hrest.1 ▸ hother, hrest.2⟩))
          · cases more with
            | nil =>
              rw [nil_append, cons.injEq] at hrest
              rw [append_nil] at hfirst
              rcases (ih hlength).mp hrest.2.symm with hsame | hshifted
              · exact .inl (by rw [hfirst, hsame])
              · exact .inr (.inl ⟨hfirst, hshifted⟩)
            | cons c more =>
              rw [cons_append, cons.injEq] at hrest
              exact .inr (.inr (.inr ⟨more, hrest.1 ▸ hfirst, hrest.2⟩))
        · rintro (hsame | ⟨hfirst, hshifted⟩ | ⟨more, hother, hrest⟩ | ⟨more, hfirst, hrest⟩)
          · cases hsame
            exact .inl ⟨[], (append_nil _).symm, rfl⟩
          · refine .inl ⟨[], by rw [hfirst, append_nil], ?_⟩
            rw [(ih hlength).mpr (.inr hshifted), nil_append]
          · exact .inl ⟨bar :: more, hother, by rw [hrest, cons_append]⟩
          · exact .inr ⟨bar :: more, hfirst, by rw [hrest, cons_append]⟩

theorem eq_of_join_iff (h : fields.length = others.length) :
    (join bar fields = join bar others → fields = others) ↔ ¬Shifted bar fields others := by
  rw [join_eq_iff bar h]
  constructor
  · intro hsame hshifted
    refine not_shifted_self bar others ?_
    rwa [hsame (.inr hshifted)] at hshifted
  · rintro hshifted (hsame | hbad)
    · exact hsame
    · exact absurd hbad hshifted

end JoinedFields
