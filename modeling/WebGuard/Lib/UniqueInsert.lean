import Mathlib.Data.List.Basic
import Mathlib.Data.List.Perm.Basic

/-!
# Concurrent inserts under a unique index

A table whose rows may not clash, while several transactions insert into it. A row is its
transaction's own until the commit, but the index knows of it at once: an insert that clashes with
a committed row is refused, and one that clashes with a row of an open transaction waits for that
transaction to end.

* `Separate` — no two rows clash, the uncommitted ones included. Every operation keeps it, so no
  order of commits publishes two rows that clash.
-/

namespace UniqueInsert

open List

structure Heap (V T : Type*) where
  committed : List V
  /-- The rows that open transactions have inserted. -/
  pending : List (T × V)

/-- What an insert comes to. -/
inductive Outcome where
  | inserted
  | waits
  | violation
  deriving DecidableEq

namespace Heap

variable {V T : Type*}

def empty : Heap V T where
  committed := []
  pending := []

/-- Every row there is. -/
def rows (d : Heap V T) : List V := d.committed ++ d.pending.map Prod.snd

/-- The transaction gets the row. -/
def push (d : Heap V T) (t : T) (v : V) : Heap V T := { d with pending := d.pending ++ [(t, v)] }

/-- No two rows clash. -/
def Separate (clash : V → V → Bool) (d : Heap V T) : Prop :=
  d.rows.Pairwise fun a b => clash a b = false

section

variable [DecidableEq T]

def tryInsert (clash : V → V → Bool) (d : Heap V T) (t : T) (v : V) : Outcome :=
  if d.committed.any (clash v) then .violation
  else if d.pending.any (fun p => p.1 ≠ t && clash v p.2) then .waits
  else .inserted

def commit (d : Heap V T) (t : T) : Heap V T where
  committed := d.committed ++ (d.pending.filter (fun p => p.1 = t)).map Prod.snd
  pending := d.pending.filter (fun p => !decide (p.1 = t))

def abort (d : Heap V T) (t : T) : Heap V T :=
  { d with pending := d.pending.filter (fun p => !decide (p.1 = t)) }

variable {clash : V → V → Bool} {d : Heap V T} {t : T} {v : V}

theorem tryInsert_inserted (h : d.tryInsert clash t v = .inserted) :
    (∀ w ∈ d.committed, clash v w = false) ∧
      ∀ p ∈ d.pending, p.1 ≠ t → clash v p.2 = false := by
  unfold tryInsert at h
  split at h
  · cases h
  · next hcommitted =>
    split at h
    · cases h
    · next hpending =>
      simp only [any_eq_true, not_exists, not_and, Bool.not_eq_true] at hcommitted hpending
      refine ⟨hcommitted, ?_⟩
      intro p hp hne
      simpa [hne] using hpending p hp

theorem tryInsert_violation (h : d.tryInsert clash t v = .violation) :
    ∃ w ∈ d.committed, clash v w = true := by
  unfold tryInsert at h
  split at h
  · next hcommitted => simpa using hcommitted
  · split at h <;> cases h

theorem Separate.push (h : d.Separate clash) (hsymm : ∀ a b, clash a b = clash b a)
    (hown : ∀ p ∈ d.pending, p.1 ≠ t) (hinsert : d.tryInsert clash t v = .inserted) :
    (d.push t v).Separate clash := by
  obtain ⟨hcommitted, hpending⟩ := tryInsert_inserted hinsert
  have hrows : (d.push t v).rows = d.rows ++ [v] := by
    simp [rows, Heap.push]
  unfold Separate
  rw [hrows, pairwise_append]
  refine ⟨h, pairwise_singleton _ _, ?_⟩
  intro a ha b hb
  rw [mem_singleton] at hb
  rw [hb, hsymm]
  rcases mem_append.mp ha with hold | hopen
  · exact hcommitted a hold
  · obtain ⟨p, hp, rfl⟩ := mem_map.mp hopen
    exact hpending p hp (hown p hp)

theorem rows_commit (d : Heap V T) (t : T) : (d.commit t).rows.Perm d.rows := by
  unfold rows commit
  rw [append_assoc, ← map_append]
  exact ((filter_append_perm (fun p : T × V => decide (p.1 = t)) d.pending).map
    Prod.snd).append_left d.committed

theorem Separate.commit (h : d.Separate clash) (hsymm : ∀ a b, clash a b = clash b a) :
    (d.commit t).Separate clash := by
  refine (List.Perm.pairwise_iff ?_ (rows_commit d t)).mpr h
  intro a b hab
  rw [hsymm]
  exact hab

theorem Separate.abort (h : d.Separate clash) : (d.abort t).Separate clash := by
  refine List.Pairwise.sublist ?_ h
  unfold rows Heap.abort
  exact List.Sublist.append_left (filter_sublist.map Prod.snd) d.committed

theorem mem_committed_commit {w : V} :
    w ∈ (d.commit t).committed ↔ w ∈ d.committed ∨ (t, w) ∈ d.pending := by
  simp [Heap.commit]

theorem mem_pending_released {d' : Heap V T}
    (hd' : d'.pending = d.pending.filter (fun p => !decide (p.1 = t))) {p : T × V} :
    p ∈ d'.pending ↔ p ∈ d.pending ∧ p.1 ≠ t := by
  rw [hd']
  simp

end

theorem Separate.filter_length {clash : V → V → Bool} {d : Heap V T} (h : d.Separate clash)
    {p : V → Bool} (hp : ∀ a b, p a = true → p b = true → clash a b = true) :
    (d.committed.filter p).length ≤ 1 := by
  have hpairwise : (d.committed.filter p).Pairwise fun a b => clash a b = false :=
    (h.sublist (sublist_append_left _ _)).sublist filter_sublist
  match hrows : d.committed.filter p with
  | [] => simp
  | [a] => simp
  | a :: b :: rest =>
    rw [hrows] at hpairwise
    have ha : a ∈ d.committed.filter p := by simp [hrows]
    have hb : b ∈ d.committed.filter p := by simp [hrows]
    have hfalse := (pairwise_cons.mp hpairwise).1 b (by simp)
    rw [hp a b (mem_filter.mp ha).2 (mem_filter.mp hb).2] at hfalse
    cases hfalse

end Heap

end UniqueInsert
