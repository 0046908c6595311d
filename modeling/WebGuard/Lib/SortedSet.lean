import Mathlib.Data.List.Sort
import Mathlib.Tactic.Tauto

/-!
# Finite sets as sorted lists

A set over a linear order, kept as the strictly increasing list of its members. Two sets with
the same members are the same value, so a set that was written out in order and read back is the
set it was: there is nothing to quotient by, and everything computes.
-/

/-- A strictly increasing list. -/
structure SortedSet (α : Type*) [LinearOrder α] where
  toList : List α
  sorted : toList.Pairwise (· < ·)
  deriving DecidableEq

namespace SortedSet

open List

variable {α : Type*} [LinearOrder α]

instance : Membership α (SortedSet α) := ⟨fun s a => a ∈ s.toList⟩

instance (a : α) (s : SortedSet α) : Decidable (a ∈ s) := inferInstanceAs (Decidable (a ∈ s.toList))

variable {a : α} {s : SortedSet α} {l : List α}

@[simp] theorem mem_toList : a ∈ s.toList ↔ a ∈ s := Iff.rfl

theorem ext {t : SortedSet α} (h : ∀ a, a ∈ s ↔ a ∈ t) : s = t := by
  obtain ⟨l, hl⟩ := s
  obtain ⟨k, hk⟩ := t
  have : l = k := hl.eq_of_mem_iff hk h
  subst this
  rfl

def empty : SortedSet α := ⟨[], List.Pairwise.nil⟩

@[simp] theorem not_mem_empty : ¬ a ∈ (empty : SortedSet α) := not_mem_nil

theorem sorted_orderedInsert (hl : l.Pairwise (· < ·)) (ha : a ∉ l) :
    (l.orderedInsert (· ≤ ·) a).Pairwise (· < ·) := by
  have hle : l.Pairwise (· ≤ ·) := hl.imp le_of_lt
  have hnodup : (l.orderedInsert (· ≤ ·) a).Nodup := by
    rw [(perm_orderedInsert (· ≤ ·) a l).nodup_iff, nodup_cons]
    exact ⟨ha, hl.imp ne_of_lt⟩
  exact (List.Pairwise.orderedInsert a l hle).imp₂ (fun _ _ h hne => lt_of_le_of_ne h hne) hnodup

/-- The set with one more member. -/
def insert (a : α) (s : SortedSet α) : SortedSet α :=
  if h : a ∈ s then s else ⟨s.toList.orderedInsert (· ≤ ·) a, sorted_orderedInsert s.sorted h⟩

@[simp] theorem mem_insert {b : α} : b ∈ s.insert a ↔ b = a ∨ b ∈ s := by
  unfold insert
  split
  · next h =>
    constructor
    · exact Or.inr
    · rintro (rfl | hb)
      · exact h
      · exact hb
  · exact mem_orderedInsert (· ≤ ·)

theorem length_insert_le (a : α) (s : SortedSet α) :
    (s.insert a).toList.length ≤ s.toList.length + 1 := by
  unfold insert
  split
  · omega
  · exact le_of_eq (orderedInsert_length (· ≤ ·) s.toList a)

/-- The set without a member. -/
def erase (s : SortedSet α) (a : α) : SortedSet α :=
  ⟨s.toList.filter (· ≠ a), s.sorted.filter _⟩

@[simp] theorem mem_erase {b : α} : b ∈ s.erase a ↔ b ∈ s ∧ b ≠ a := by
  show b ∈ s.toList.filter (· ≠ a) ↔ _
  simp

/-- The set of the members of a list. -/
def ofList (l : List α) : SortedSet α := l.foldr insert empty

@[simp] theorem mem_ofList : a ∈ ofList l ↔ a ∈ l := by
  induction l with
  | nil => simp [ofList]
  | cons b l ih =>
    show a ∈ (ofList l).insert b ↔ _
    rw [mem_insert, ih, mem_cons]

@[simp] theorem ofList_toList (s : SortedSet α) : ofList s.toList = s := by
  apply ext
  intro a
  rw [mem_ofList, mem_toList]

theorem ofList_eq_iff : ofList l = s ↔ ∀ a, a ∈ l ↔ a ∈ s := by
  constructor
  · rintro rfl a
    rw [mem_ofList]
  · intro h
    apply ext
    intro a
    rw [mem_ofList, h]

theorem mem_foldl_insert : a ∈ l.foldl (fun s b => s.insert b) s ↔ a ∈ s ∨ a ∈ l := by
  induction l generalizing s with
  | nil => simp
  | cons b l ih =>
    rw [foldl_cons, ih, mem_insert, mem_cons]
    tauto

theorem toList_injective {t : SortedSet α} (h : s.toList = t.toList) : s = t := by
  rw [← ofList_toList s, h, ofList_toList]

theorem nodup_toList (s : SortedSet α) : s.toList.Nodup := s.sorted.imp ne_of_lt

end SortedSet
