import Mathlib.Data.List.Infix

/-!
# Occurrences of a part

A part of a list occurs at a place: what is in front of it and what follows. A longer part occurs
where a part of it does, with the rest of it around that place.
-/

namespace Occurrences

open List

variable {α : Type*}

/-- A place of a part in a list. -/
def Occurrence (part whole front back : List α) : Prop := whole = front ++ part ++ back

theorem infix_iff_exists {part whole : List α} :
    part <:+: whole ↔ ∃ front back, Occurrence part whole front back := by
  constructor
  · rintro ⟨front, back, h⟩
    exact ⟨front, back, h.symm⟩
  · rintro ⟨front, back, h⟩
    exact ⟨front, back, h.symm⟩

/-- A part, and the place of its middle. -/
theorem infix_iff_occurrence {left middle right whole : List α} :
    left ++ middle ++ right <:+: whole ↔
      ∃ front back, Occurrence middle whole front back ∧ left <:+ front ∧ right <+: back := by
  constructor
  · rintro ⟨front, back, h⟩
    refine ⟨front ++ left, right ++ back, ?_, suffix_append _ _, prefix_append _ _⟩
    rw [Occurrence, ← h]
    simp only [append_assoc]
  · rintro ⟨_, _, h, ⟨front, rfl⟩, ⟨back, rfl⟩⟩
    refine ⟨front, back, ?_⟩
    rw [h]
    simp only [append_assoc]

theorem infix_left_iff {left middle whole : List α} :
    left ++ middle <:+: whole ↔
      ∃ front back, Occurrence middle whole front back ∧ left <:+ front := by
  have h : left ++ middle ++ [] <:+: whole ↔ _ := infix_iff_occurrence
  rw [append_nil] at h
  rw [h]
  simp only [ nil_prefix, and_true]

theorem infix_right_iff {middle right whole : List α} :
    middle ++ right <:+: whole ↔
      ∃ front back, Occurrence middle whole front back ∧ right <+: back := by
  have h : [] ++ middle ++ right <:+: whole ↔ _ := infix_iff_occurrence
  rw [nil_append] at h
  rw [h]
  simp only [nil_suffix, true_and]

/-- The places in what a list begins with. -/
theorem Occurrence.append {part whole front back : List α} (h : Occurrence part whole front back)
    (more : List α) : Occurrence part (whole ++ more) front (back ++ more) := by
  rw [Occurrence] at h ⊢
  rw [h]
  simp only [append_assoc]

end Occurrences
