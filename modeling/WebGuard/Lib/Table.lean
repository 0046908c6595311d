import Mathlib.Data.List.Nodup

/-!
# Tables with unique columns

A relational table is a list of rows together with the columns declared `PRIMARY KEY` or
`UNIQUE`. The type carries the constraint, so a table with two rows of one key cannot be built:
`insert` answers `none` where a database answers with an integrity error, and `update` asks for
a proof that the `SET` clause leaves the unique columns alone.

Reads go through `get?`, the lookup by one unique column. Every other lemma of this file says
what an insert or an update does to that lookup.
-/

namespace Relational

open List

variable {α κ : Type*}

/-- Rows whose declared columns have no duplicate value. -/
structure Table (α : Type*) {κ : Type*} (columns : List (α → κ)) where
  rows : List α
  unique : ∀ c ∈ columns, (rows.map c).Nodup

namespace Table

variable {columns : List (α → κ)} {c : α → κ} {k : κ}

/-- The table without rows. -/
def empty : Table α columns where
  rows := []
  unique := by intro c _; exact nodup_nil

theorem eq_of_column_eq (t : Table α columns) (hc : c ∈ columns) {a b : α} (ha : a ∈ t.rows)
    (hb : b ∈ t.rows) (h : c a = c b) : a = b :=
  inj_on_of_nodup_map (t.unique c hc) ha hb h

section Lookup

variable [DecidableEq κ]

/-- `SELECT * FROM t WHERE c = k`, for a unique column. -/
def get? (t : Table α columns) (c : α → κ) (k : κ) : Option α :=
  t.rows.find? (fun r => c r = k)

variable {t t' : Table α columns} {r : α}

theorem get?_eq_some_iff (hc : c ∈ columns) : t.get? c k = some r ↔ r ∈ t.rows ∧ c r = k := by
  constructor
  · intro h
    exact ⟨mem_of_find?_eq_some h, by simpa using find?_some h⟩
  · rintro ⟨hr, hk⟩
    cases hf : t.get? c k with
    | none =>
      have hno := find?_eq_none.mp hf r hr
      simp [hk] at hno
    | some r' =>
      have hr' : r' ∈ t.rows := mem_of_find?_eq_some hf
      have hk' : c r' = k := by simpa using find?_some hf
      rw [t.eq_of_column_eq hc hr' hr (hk'.trans hk.symm)]

theorem mem_of_get? (h : t.get? c k = some r) : r ∈ t.rows :=
  mem_of_find?_eq_some h

theorem column_of_get? (h : t.get? c k = some r) : c r = k := by
  simpa using find?_some h

theorem get?_eq_none_iff : t.get? c k = none ↔ ∀ r ∈ t.rows, c r ≠ k := by
  simp [get?, find?_eq_none]

theorem any_rows_eq [BEq κ] [LawfulBEq κ] (t : Table α columns) (hc : c ∈ columns) (q : α → Bool) :
    t.rows.any (fun r => c r == k && q r) = (t.get? c k).any q := by
  rw [Bool.eq_iff_iff, any_eq_true, Option.any_eq_true]
  constructor
  · rintro ⟨r, hr, hboth⟩
    rw [Bool.and_eq_true, beq_iff_eq] at hboth
    exact ⟨r, (get?_eq_some_iff hc).mpr ⟨hr, hboth.1⟩, hboth.2⟩
  · rintro ⟨r, hr, hq⟩
    obtain ⟨hmem, hk⟩ := (get?_eq_some_iff hc).mp hr
    exact ⟨r, hmem, by simp [hk, hq]⟩

/-! ## INSERT -/

/-- `INSERT`. The answer is `none` where a unique column already holds the value. -/
def insert (t : Table α columns) (r : α) : Option (Table α columns) :=
  if h : ∀ c ∈ columns, c r ∉ t.rows.map c then
    some
      { rows := t.rows ++ [r]
        unique := by
          intro c hc
          rw [map_append, map_cons, map_nil, nodup_append]
          refine ⟨t.unique c hc, nodup_singleton _, ?_⟩
          intro a ha b hb hab
          rw [mem_singleton] at hb
          exact h c hc (hb ▸ hab ▸ ha) }
  else none

theorem rows_of_insert (h : t.insert r = some t') : t'.rows = t.rows ++ [r] := by
  unfold insert at h
  split at h
  · rw [← Option.some.inj h]
  · simp at h

theorem not_mem_of_insert (h : t.insert r = some t') (hc : c ∈ columns) :
    t.get? c (c r) = none := by
  unfold insert at h
  split at h
  · next hno =>
    rw [get?_eq_none_iff]
    intro x hx he
    exact hno c hc (mem_map.mpr ⟨x, hx, he⟩)
  · simp at h

theorem exists_insert (h : ∀ c ∈ columns, t.get? c (c r) = none) : ∃ t', t.insert r = some t' := by
  have hfresh : ∀ c ∈ columns, c r ∉ t.rows.map c := by
    intro c hc hr
    obtain ⟨x, hx, he⟩ := mem_map.mp hr
    exact get?_eq_none_iff.mp (h c hc) x hx he
  unfold insert
  rw [dif_pos hfresh]
  exact ⟨_, rfl⟩

theorem exists_insert_of_get? {t : Table α [c]} (h : t.get? c (c r) = none) :
    ∃ t', t.insert r = some t' := by
  refine exists_insert ?_
  intro d hd
  rw [mem_singleton.mp hd]
  exact h

theorem mem_insert {x : α} (h : t.insert r = some t') : x ∈ t'.rows ↔ x ∈ t.rows ∨ x = r := by
  rw [rows_of_insert h, mem_append, mem_singleton]

theorem get?_insert (h : t.insert r = some t') (hc : c ∈ columns) :
    t'.get? c k = if k = c r then some r else t.get? c k := by
  split
  · next hk =>
    exact (get?_eq_some_iff hc).mpr ⟨(mem_insert h).mpr (Or.inr rfl), hk.symm⟩
  · next hk =>
    unfold get?
    rw [rows_of_insert h, find?_append]
    have hr : find? (fun x => decide (c x = k)) [r] = none := by
      simp [Ne.symm hk]
    rw [hr, Option.or_none]

/-! ## UPDATE -/

/--
`UPDATE t SET f WHERE c = k AND guard`, with the row count.

`c` is a unique column, so at most one row changes.
-/
def update (t : Table α columns) (c : α → κ) (k : κ) (guard : α → Bool) (f : α → α)
    (keeps : ∀ c ∈ columns, ∀ r, c (f r) = c r) : Table α columns × Nat :=
  ({ rows := t.rows.map (fun r => if c r = k ∧ guard r = true then f r else r)
     unique := by
       intro d hd
       have hmap : (t.rows.map (fun r => if c r = k ∧ guard r = true then f r else r)).map d
           = t.rows.map d := by
         rw [map_map]
         refine map_congr_left ?_
         intro r _
         show d (if c r = k ∧ guard r = true then f r else r) = d r
         split
         · exact keeps d hd r
         · rfl
       rw [hmap]
       exact t.unique d hd },
   t.rows.countP (fun r => c r = k ∧ guard r = true))

variable {guard : α → Bool} {f : α → α} {keeps : ∀ c ∈ columns, ∀ r, c (f r) = c r}

theorem mem_update {x : α} (hx : x ∈ (t.update c k guard f keeps).1.rows) :
    ∃ r ∈ t.rows, x = if c r = k ∧ guard r = true then f r else r := by
  obtain ⟨r, hr, he⟩ := mem_map.mp hx
  exact ⟨r, hr, he.symm⟩

theorem get?_update {d : α → κ} {j : κ} (hd : d ∈ columns) :
    (t.update c k guard f keeps).1.get? d j
      = (t.get? d j).map (fun r => if c r = k ∧ guard r = true then f r else r) := by
  have hkey : ∀ r, d (if c r = k ∧ guard r = true then f r else r) = d r := by
    intro r
    split
    · exact keeps d hd r
    · rfl
  cases hf : t.get? d j with
  | none =>
    rw [Option.map_none, get?_eq_none_iff]
    intro x hx
    obtain ⟨r, hr, rfl⟩ := mem_update hx
    rw [hkey]
    exact get?_eq_none_iff.mp hf r hr
  | some r =>
    obtain ⟨hr, hj⟩ := (get?_eq_some_iff hd).mp hf
    rw [Option.map_some, get?_eq_some_iff hd]
    exact ⟨mem_map.mpr ⟨r, hr, rfl⟩, (hkey r).trans hj⟩

theorem get?_update_self {t : Table α columns} (hc : c ∈ columns) {j : κ} :
    (t.update c k guard f keeps).1.get? c j
      = if j = k then (t.get? c k).map (fun r => if guard r = true then f r else r)
        else t.get? c j := by
  rw [get?_update hc]
  split
  · next hj =>
    subst hj
    cases hf : t.get? c j with
    | none => rfl
    | some r => simp [column_of_get? hf]
  · next hj =>
    cases hf : t.get? c j with
    | none => rfl
    | some r =>
      have hne : ¬ c r = k := by rw [column_of_get? hf]; exact hj
      simp [hne]

theorem update_count_le_one (hc : c ∈ columns) : (t.update c k guard f keeps).2 ≤ 1 := by
  show t.rows.countP _ ≤ 1
  have hnd := nodup_iff_count_le_one.mp (t.unique c hc) k
  refine Nat.le_trans ?_ hnd
  rw [count, countP_map]
  refine countP_mono_left ?_
  intro r _ hr
  simp only [decide_eq_true_eq] at hr
  simp [hr.1]

theorem update_count_eq_one (hc : c ∈ columns) :
    (t.update c k guard f keeps).2 = 1 ↔ ∃ r, t.get? c k = some r ∧ guard r = true := by
  have hle : (t.update c k guard f keeps).2 ≤ 1 := update_count_le_one hc
  constructor
  · intro h
    have hpos : 0 < t.rows.countP (fun r => c r = k ∧ guard r = true) := by
      show 0 < (t.update c k guard f keeps).2
      omega
    obtain ⟨r, hr, hp⟩ := countP_pos_iff.mp hpos
    simp only [decide_eq_true_eq] at hp
    exact ⟨r, (get?_eq_some_iff hc).mpr ⟨hr, hp.1⟩, hp.2⟩
  · rintro ⟨r, hr, hg⟩
    have hpos : 0 < (t.update c k guard f keeps).2 := by
      refine countP_pos_iff.mpr ⟨r, mem_of_get? hr, ?_⟩
      simp [column_of_get? hr, hg]
    omega

theorem update_count (hc : c ∈ columns) (hr : t.get? c k = some r) :
    (t.update c k guard f keeps).2 = if guard r = true then 1 else 0 := by
  have hle : (t.update c k guard f keeps).2 ≤ 1 := update_count_le_one hc
  split
  · next hg => exact (update_count_eq_one hc).mpr ⟨r, hr, hg⟩
  · next hg =>
    have hne : (t.update c k guard f keeps).2 ≠ 1 := by
      intro hone
      obtain ⟨r', hr', hg'⟩ := (update_count_eq_one hc).mp hone
      rw [hr] at hr'
      cases hr'
      exact hg hg'
    omega

theorem update_count_congr (hc : c ∈ columns) (h : t'.get? c k = t.get? c k) :
    (t'.update c k guard f keeps).2 = (t.update c k guard f keeps).2 := by
  have hle : (t.update c k guard f keeps).2 ≤ 1 := update_count_le_one hc
  have hle' : (t'.update c k guard f keeps).2 ≤ 1 := update_count_le_one hc
  have hiff : (t'.update c k guard f keeps).2 = 1 ↔ (t.update c k guard f keeps).2 = 1 := by
    rw [update_count_eq_one hc, update_count_eq_one hc, h]
  omega

end Lookup

end Table

end Relational
