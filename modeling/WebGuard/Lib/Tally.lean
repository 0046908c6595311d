import Mathlib.Data.List.Perm.Basic

/-!
# Tallies

How often each value occurs, counted in a table as the values come: a table starts empty, and a
value without an entry is put at its end.
-/

namespace Tally

variable {α : Type*} [DecidableEq α]

/-- `table[a] = table.get(a, 0) + 1`. -/
def add (table : List (α × Nat)) (a : α) : List (α × Nat) :=
  match table with
  | [] => [(a, 1)]
  | (b, n) :: rest => if b = a then (b, n + 1) :: rest else (b, n) :: add rest a

/-- The table of some values. -/
def count (values : List α) : List (α × Nat) := values.foldl add []

/-- `table.get(a, 0)`. -/
def read (table : List (α × Nat)) (a : α) : Nat := (table.lookup a).getD 0

theorem read_cons (table : List (α × Nat)) (b a : α) (n : Nat) :
    read ((b, n) :: table) a = if a = b then n else read table a := by
  unfold read
  by_cases h : a = b
  · rw [if_pos h, List.lookup_cons, beq_iff_eq.mpr h]
    rfl
  · rw [if_neg h, List.lookup_cons, beq_false_of_ne h]

theorem read_add (table : List (α × Nat)) (a b : α) :
    read (add table a) b = read table b + if b = a then 1 else 0 := by
  induction table with
  | nil =>
    have hnil : read ([] : List (α × Nat)) b = 0 := rfl
    rw [add, read_cons, hnil, Nat.zero_add]
  | cons entry rest ih =>
    obtain ⟨c, n⟩ := entry
    rw [add]
    split
    · next h =>
      subst h
      rw [read_cons, read_cons]
      split <;> rfl
    · next h =>
      rw [read_cons, read_cons, ih]
      by_cases hc : b = c
      · rw [if_pos hc, if_pos hc, if_neg (fun hb => h (hc.symm.trans hb)), Nat.add_zero]
      · rw [if_neg hc, if_neg hc]

/-- What a table has for a value is how often it came. -/
theorem read_count (values : List α) (a : α) : read (count values) a = values.count a := by
  have hfold : ∀ table, read (values.foldl add table) a = read table a + values.count a := by
    induction values with
    | nil =>
      intro table
      rfl
    | cons v rest ih =>
      intro table
      have hone : (if a = v then 1 else 0) = if v == a then 1 else 0 := by
        by_cases h : a = v
        · rw [if_pos h, if_pos (beq_iff_eq.mpr h.symm)]
        · rw [if_neg h, if_neg (by simpa using fun hv : v = a => h hv.symm)]
      rw [List.foldl_cons, ih, read_add, List.count_cons, Nat.add_assoc, hone,
        Nat.add_comm (ite ..)]
  rw [count, hfold, read, List.lookup_nil, Option.getD_none, Nat.zero_add]

end Tally
