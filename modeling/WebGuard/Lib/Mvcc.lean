import Mathlib.Data.Option.Basic

/-!
# Row versions at READ COMMITTED

A table under multi-version concurrency control. A transaction writes new versions of rows it
has locked; they are its own until it commits. A statement reads a snapshot: what was committed
when the statement began, under the transaction's own versions. It does not see what others have
written since, and its locks cover the rows it locked and no other.

An `UPDATE` whose row is locked by somebody else is taken from the moment the lock is free.

* `Follows` — every version in flight succeeds the committed one. It is kept by whatever statement
  writes successors of the row it sees, and makes a commit move each row to a successor.
* `Writes` — what a transaction does between two commits, and what that leaves alone.
-/

namespace Mvcc

open Option

/-- A lock on a row: who holds it, and the version written under it. -/
structure RowLock (V T : Type*) where
  holder : T
  version : Option V

structure Database (K V T : Type*) where
  /-- The keys in use, in the order of their insertion. -/
  keys : List K
  committed : K → Option V
  lock : K → Option (RowLock V T)

/-- An `UPDATE` of the row of one key. -/
structure Update (K V : Type*) where
  key : K
  guard : V → Bool
  set : V → V

namespace Database

variable {K V T : Type*}

def empty : Database K V T where
  keys := []
  committed := fun _ => none
  lock := fun _ => none

variable {v : V} {k j : K} {t' : T}

section

variable [DecidableEq T]

/-- The version of the row that the transaction has written. -/
def written (d : Database K V T) (t : T) (k : K) : Option V :=
  (d.lock k).bind fun l => if l.holder = t then l.version else none

/-- The row as the transaction sees it. -/
def view (d : Database K V T) (t : T) (k : K) : Option V := (d.written t k).or (d.committed k)

/-- Nobody else holds the lock on the row. -/
def available (d : Database K V T) (t : T) (k : K) : Bool := (d.lock k).all (fun l => l.holder = t)

/-- The version of the row that was written last, by whoever. -/
def newest (d : Database K V T) (k : K) : Option V :=
  ((d.lock k).bind RowLock.version).or (d.committed k)

/-- The locks of the others. -/
def released (d : Database K V T) (t : T) (k : K) : Option (RowLock V T) :=
  (d.lock k).filter (fun l => l.holder ≠ t)

def commit (d : Database K V T) (t : T) : Database K V T :=
  { d with committed := d.view t, lock := d.released t }

def abort (d : Database K V T) (t : T) : Database K V T := { d with lock := d.released t }

variable {d : Database K V T} {t : T}

/-- `t` has written `v` as the new version of the row `k`. -/
def Wrote (d : Database K V T) (t : T) (k : K) (v : V) : Prop := d.written t k = some v

theorem wrote_iff : d.Wrote t k v ↔ ∃ l, d.lock k = some l ∧ l.holder = t ∧ l.version = some v := by
  unfold Wrote written
  rw [bind_eq_some_iff]
  constructor
  · rintro ⟨l, hl, hv⟩
    split at hv
    · next hholder => exact ⟨l, hl, hholder, hv⟩
    · cases hv
  · rintro ⟨l, hl, hholder, hv⟩
    exact ⟨l, hl, by rw [if_pos hholder, hv]⟩

/-- A transaction sees what it wrote, or else what is committed. -/
theorem view_eq_some (h : d.view t k = some v) : d.Wrote t k v ∨ d.committed k = some v := by
  unfold view at h
  cases hw : d.written t k with
  | some w =>
    rw [hw, some_or] at h
    exact Or.inl (hw.trans h)
  | none =>
    rw [hw, none_or] at h
    exact Or.inr h

theorem view_of_wrote_self (h : d.Wrote t k v) : d.view t k = some v := by
  rw [view, show d.written t k = some v from h, some_or]

theorem view_of_not_wrote (h : ∀ v, ¬ d.Wrote t k v) : d.view t k = d.committed k := by
  have hnone : d.written t k = none := eq_none_iff_forall_ne_some.mpr h
  rw [view, hnone, none_or]

theorem view_isSome (h : d.committed k = some v) : ∃ w, d.view t k = some w := by
  unfold view
  cases hw : d.written t k with
  | some w => exact ⟨w, rfl⟩
  | none => exact ⟨v, by rw [h]; rfl⟩

theorem view_of_wrote (h : d.Wrote t' k v) (hne : t' ≠ t) : d.view t k = d.committed k := by
  obtain ⟨l, hl, hholder, -⟩ := wrote_iff.mp h
  have hnone : d.written t k = none := by
    unfold written
    rw [hl, bind_some, if_neg (by rw [hholder]; exact hne)]
  rw [view, hnone, none_or]

/-- The end of a transaction leaves the versions of the others. -/
theorem wrote_of_released {d' : Database K V T} (hlock : d'.lock = d.released t)
    (h : d'.Wrote t' j v) : t' ≠ t ∧ d.Wrote t' j v := by
  obtain ⟨l, hl, hholder, hv⟩ := wrote_iff.mp h
  rw [hlock] at hl
  unfold released at hl
  rw [filter_eq_some_iff] at hl
  refine ⟨?_, wrote_iff.mpr ⟨l, hl.1, hholder, hv⟩⟩
  rw [← hholder]
  simpa using hl.2

end

section

variable [DecidableEq K]

/-- A new row, by a transaction of its own. -/
def insert (d : Database K V T) (k : K) (v : V) : Database K V T :=
  if (d.committed k).isSome then d
  else
    { d with
      keys := d.keys ++ [k], committed := fun j => if j = k then some v else d.committed j }

theorem lock_insert (d : Database K V T) (k : K) (v : V) : (d.insert k v).lock = d.lock := by
  unfold insert
  split <;> rfl

variable {w : V} {u : Update K V} {l : RowLock V T} {d : Database K V T}

theorem mem_keys_insert (hkeys : ∀ j w, d.committed j = some w → j ∈ d.keys)
    (h : (d.insert k v).committed j = some w) : j ∈ (d.insert k v).keys := by
  unfold insert at h ⊢
  split at h
  · next hsome =>
    rw [if_pos hsome]
    exact hkeys j w h
  · next hsome =>
    rw [if_neg hsome]
    by_cases hj : j = k
    · simp [hj]
    · simp only [hj, if_false] at h
      exact List.mem_append_left _ (hkeys j w h)

theorem committed_insert (h : (d.insert k v).committed j = some w) :
    d.committed j = some w ∨ (d.committed j = none ∧ w = v) := by
  unfold insert at h
  split at h
  · exact Or.inl h
  · next hnone =>
    by_cases hj : j = k
    · subst hj
      refine Or.inr ⟨by simpa using hnone, ?_⟩
      simpa using h.symm
    · refine Or.inl ?_
      simpa [hj] using h

theorem committed_insert_of_some (h : d.committed j = some w) :
    (d.insert k v).committed j = some w := by
  unfold insert
  split
  · exact h
  · next hnone =>
    have hj : j ≠ k := by
      rintro rfl
      rw [h] at hnone
      simp at hnone
    simpa [hj] using h

variable [DecidableEq T]

def acquire (d : Database K V T) (t : T) (k : K) : Database K V T :=
  { d with lock := fun j => if j = k then some ⟨t, d.written t k⟩ else d.lock j }

def write (d : Database K V T) (t : T) (k : K) (v : V) : Database K V T :=
  { d with lock := fun j => if j = k then some ⟨t, some v⟩ else d.lock j }

/-- A new row of an open transaction. -/
def stage (d : Database K V T) (t : T) (k : K) (v : V) : Database K V T :=
  { d.write t k v with keys := if k ∈ d.keys then d.keys else d.keys ++ [k] }

/-- The statement on a row nobody else has locked; the flag says whether the row was updated. -/
def update (d : Database K V T) (t : T) (u : Update K V) : Database K V T × Bool :=
  match d.view t u.key with
  | some v => if u.guard v then (d.write t u.key (u.set v), true) else (d, false)
  | none => (d, false)

variable {d : Database K V T} {t : T}

/-- A statement publishes nothing. -/
@[simp] theorem committed_update (u : Update K V) : (d.update t u).1.committed = d.committed := by
  unfold update
  split
  · split <;> rfl
  · rfl

@[simp] theorem keys_update (u : Update K V) : (d.update t u).1.keys = d.keys := by
  unfold update
  split
  · split <;> rfl
  · rfl

theorem wrote_acquire (h : (d.acquire t k).Wrote t' j v) : d.Wrote t' j v := by
  obtain ⟨l, hl, hholder, hv⟩ := wrote_iff.mp h
  by_cases hj : j = k
  · subst hj
    have hlock : some (⟨t, d.written t j⟩ : RowLock V T) = some l := by
      rw [← hl]
      simp [acquire]
    cases hlock
    rw [show t' = t from hholder.symm]
    exact hv
  · have hlock : d.lock j = some l := by
      rw [← hl]
      simp [acquire, hj]
    exact wrote_iff.mpr ⟨l, hlock, hholder, hv⟩

theorem view_acquire (k j : K) : (d.acquire t k).view t j = d.view t j := by
  have hwritten : (d.acquire t k).written t j = d.written t j := by
    by_cases hj : j = k
    · subst hj
      simp [written, acquire]
    · simp [written, acquire, hj]
  rw [view, hwritten]
  rfl

theorem wrote_write (h : (d.write t k v).Wrote t' j w) :
    (t' = t ∧ j = k ∧ w = v) ∨ (j ≠ k ∧ d.Wrote t' j w) := by
  obtain ⟨l, hl, hholder, hw⟩ := wrote_iff.mp h
  by_cases hj : j = k
  · have hlock : some (⟨t, some v⟩ : RowLock V T) = some l := by
      rw [← hl]
      simp [write, hj]
    cases hlock
    exact Or.inl ⟨hholder.symm, hj, (some.inj hw).symm⟩
  · have hlock : d.lock j = some l := by
      rw [← hl]
      simp [write, hj]
    exact Or.inr ⟨hj, wrote_iff.mpr ⟨l, hlock, hholder, hw⟩⟩

theorem wrote_write_self (k : K) (v : V) : (d.write t k v).Wrote t k v :=
  wrote_iff.mpr ⟨⟨t, some v⟩, by simp [write], rfl, rfl⟩

theorem wrote_write_other (hj : j ≠ k) (h : d.Wrote t' j w) : (d.write t k v).Wrote t' j w := by
  obtain ⟨l, hl, hholder, hw⟩ := wrote_iff.mp h
  exact wrote_iff.mpr ⟨l, by simpa [write, hj] using hl, hholder, hw⟩

/-- An update adds at most the one version it sets. -/
theorem wrote_update (h : (d.update t u).1.Wrote t' j v) :
    d.Wrote t' j v ∨
      (t' = t ∧ j = u.key ∧ ∃ old, d.view t u.key = some old ∧ u.guard old = true ∧
        v = u.set old) := by
  unfold update at h
  split at h
  · next old hview =>
    split at h
    · next hguard =>
      obtain ⟨l, hl, hholder, hv⟩ := wrote_iff.mp h
      by_cases hj : j = u.key
      · have hlock : some (⟨t, some (u.set old)⟩ : RowLock V T) = some l := by
          rw [← hl]
          simp [write, hj]
        cases hlock
        exact Or.inr ⟨hholder.symm, hj, old, hview, hguard, (some.inj hv).symm⟩
      · have hlock : d.lock j = some l := by
          rw [← hl]
          simp [write, hj]
        exact Or.inl (wrote_iff.mpr ⟨l, hlock, hholder, hv⟩)
    · exact Or.inl h
  · exact Or.inl h

/-! ## The locks of the others -/

omit [DecidableEq K] in
/-- A key that another transaction holds is not an available one. -/
theorem ne_of_available (havailable : d.available t k = true) (hl : d.lock j = some l)
    (hne : l.holder ≠ t) : j ≠ k := by
  rintro rfl
  unfold available at havailable
  rw [hl, all_some, decide_eq_true_eq] at havailable
  exact hne havailable

omit [DecidableEq K] in
theorem ne_of_wrote (havailable : d.available t k = true) (h : d.Wrote t' j v) (hne : t' ≠ t) :
    j ≠ k := by
  obtain ⟨l, hl, hholder, -⟩ := wrote_iff.mp h
  exact ne_of_available havailable hl (by rw [hholder]; exact hne)

theorem lock_acquire_other (havailable : d.available t k = true) (hl : d.lock j = some l)
    (hne : l.holder ≠ t) : (d.acquire t k).lock j = some l := by
  have hj := ne_of_available havailable hl hne
  simpa [acquire, hj] using hl

/-- An update leaves the locks of the others. -/
theorem lock_update_other (havailable : d.available t u.key = true) (hl : d.lock j = some l)
    (hne : l.holder ≠ t) : (d.update t u).1.lock j = some l := by
  have hj := ne_of_available havailable hl hne
  unfold update
  split
  · split
    · simpa [write, hj] using hl
    · exact hl
  · exact hl

omit [DecidableEq K] in
theorem lock_released_other (hl : d.lock j = some l) (hne : l.holder ≠ t) :
    d.released t j = some l := by
  unfold released
  rw [hl, filter_some, if_pos (by simpa using hne)]

theorem wrote_update_other (havailable : d.available t u.key = true) (h : d.Wrote t' j v)
    (hne : t' ≠ t) : (d.update t u).1.Wrote t' j v := by
  obtain ⟨l, hl, hholder, hv⟩ := wrote_iff.mp h
  have hlock := lock_update_other havailable hl (by rw [hholder]; exact hne)
  exact wrote_iff.mpr ⟨l, hlock, hholder, hv⟩

theorem available_acquire (k : K) : (d.acquire t k).available t k = true := by
  simp [available, acquire]

theorem view_update (hview : d.view t u.key = some v) (hguard : u.guard v = true) :
    (d.update t u).1.view t u.key = some (u.set v) := by
  unfold update
  rw [hview]
  simp [hguard, Database.view, written, write]

theorem update_of_not_guard (hview : d.view t u.key = some v) (hguard : u.guard v = false) :
    (d.update t u).1 = d := by
  unfold update
  rw [hview]
  simp [hguard]

theorem wrote_update_self (hview : d.view t u.key = some v) (hguard : u.guard v = true) :
    (d.update t u).1.Wrote t u.key (u.set v) := by
  unfold update
  rw [hview]
  simp [hguard, Wrote, written, write]

/-- What is written stays written, perhaps in a later version. -/
theorem exists_wrote_update (havailable : d.available t u.key = true) (h : d.Wrote t' j v) :
    ∃ v', (d.update t u).1.Wrote t' j v' := by
  obtain ⟨l, hl, hholder, hv⟩ := wrote_iff.mp h
  by_cases ht : t' = t
  · subst ht
    unfold update
    split
    · next old hview =>
      split
      · by_cases hj : j = u.key
        · exact ⟨u.set old, wrote_iff.mpr ⟨⟨t', some (u.set old)⟩, by simp [write, hj], rfl, rfl⟩⟩
        · exact ⟨v, wrote_iff.mpr ⟨l, by simpa [write, hj] using hl, hholder, hv⟩⟩
      · exact ⟨v, h⟩
    · exact ⟨v, h⟩
  · have hlock := lock_update_other havailable hl (by rw [hholder]; exact ht)
    exact ⟨v, wrote_iff.mpr ⟨l, hlock, hholder, hv⟩⟩

omit [DecidableEq K] in
theorem wrote_released_other {d' : Database K V T} (hlock : d'.lock = d.released t)
    (h : d.Wrote t' j v) (hne : t' ≠ t) : d'.Wrote t' j v := by
  obtain ⟨l, hl, hholder, hv⟩ := wrote_iff.mp h
  refine wrote_iff.mpr ⟨l, ?_, hholder, hv⟩
  rw [hlock]
  exact lock_released_other hl (by rw [hholder]; exact hne)

/-! ## Versions that succeed the committed row -/

section Follows

variable {R : V → V → Prop}

section

omit [DecidableEq K]

/-- Every version that a transaction has written succeeds the committed row. -/
def Follows (R : V → V → Prop) (d : Database K V T) : Prop :=
  ∀ t k v, d.Wrote t k v → ∃ w, d.committed k = some w ∧ R w v

theorem follows_empty : (empty : Database K V T).Follows R := by
  intro t k v h
  obtain ⟨l, hl, -⟩ := wrote_iff.mp h
  cases hl

/-- What a transaction sees is related to what is committed. -/
theorem Follows.view (h : d.Follows R) (hrefl : ∀ v, R v v) (hview : d.view t k = some v) :
    ∃ w, d.committed k = some w ∧ R w v := by
  rcases view_eq_some hview with hwrote | hcommitted
  · exact h t k v hwrote
  · exact ⟨v, hcommitted, hrefl v⟩

end

theorem Follows.acquire (h : d.Follows R) (k : K) : (d.acquire t k).Follows R := by
  intro t' j v hwrote
  exact h t' j v (wrote_acquire hwrote)

/-- Updates that move along `R` keep it. -/
theorem Follows.update (h : d.Follows R) (hrefl : ∀ v, R v v)
    (htrans : ∀ a b c, R a b → R b c → R a c) (hset : ∀ v, u.guard v = true → R v (u.set v)) :
    (d.update t u).1.Follows R := by
  intro t' j v hwrote
  rw [committed_update]
  rcases wrote_update hwrote with hold | ⟨rfl, rfl, old, hview, hguard, rfl⟩
  · exact h t' j v hold
  · obtain ⟨w, hw, hR⟩ := h.view hrefl hview
    exact ⟨w, hw, htrans w old _ hR (hset old hguard)⟩

omit [DecidableEq K] in
theorem Follows.commit (h : d.Follows R) : (d.commit t).Follows R := by
  intro t' j v hwrote
  obtain ⟨hne, hold⟩ := wrote_of_released rfl hwrote
  obtain ⟨w, hw, hR⟩ := h t' j v hold
  exact ⟨w, (view_of_wrote hold hne).trans hw, hR⟩

omit [DecidableEq K] in
theorem Follows.abort (h : d.Follows R) : (d.abort t).Follows R := by
  intro t' j v hwrote
  exact h t' j v (wrote_of_released rfl hwrote).2

theorem Follows.insert (h : d.Follows R) (k : K) (v : V) : (d.insert k v).Follows R := by
  intro t' j w hwrote
  have hold : d.Wrote t' j w := by
    rw [wrote_iff] at hwrote ⊢
    rwa [lock_insert] at hwrote
  obtain ⟨w', hw', hR⟩ := h t' j w hold
  exact ⟨w', committed_insert_of_some hw', hR⟩

omit [DecidableEq K] in
/-- A committed row moves along `R` when a transaction commits. -/
theorem Follows.committed_commit (h : d.Follows R) (hrefl : ∀ v, R v v)
    (hw : d.committed k = some w) : ∃ w', (d.commit t).committed k = some w' ∧ R w w' := by
  obtain ⟨v, hv⟩ := view_isSome hw (t := t)
  obtain ⟨w', hw', hR⟩ := h.view hrefl hv
  rw [hw] at hw'
  cases hw'
  exact ⟨v, hv, hR⟩

end Follows

/-! ## The statements of one transaction -/

/-- `t` has gone from one state to the other by taking free locks and by statements that write
successors. -/
inductive Writes (R : V → V → Prop) (t : T) (d : Database K V T) : Database K V T → Prop where
  | refl : Writes R t d d
  | acquire {d' : Database K V T} {k : K} (h : Writes R t d d')
      (havailable : d'.available t k = true) : Writes R t d (d'.acquire t k)
  | update {d' : Database K V T} {u : Update K V} (h : Writes R t d d')
      (havailable : d'.available t u.key = true)
      (hset : ∀ v, u.guard v = true → R v (u.set v)) : Writes R t d (d'.update t u).1

section Writes

variable {R : V → V → Prop} {d' : Database K V T}

theorem Writes.committed (h : Writes R t d d') : d'.committed = d.committed := by
  induction h with
  | refl => rfl
  | acquire _ _ ih => exact ih
  | update _ _ _ ih => rw [committed_update, ih]

/-- So do the writes of a transaction. -/
theorem Writes.follows (h : Writes R t d d') (hrefl : ∀ v, R v v)
    (htrans : ∀ a b c, R a b → R b c → R a c) (hd : d.Follows R) : d'.Follows R := by
  induction h with
  | refl => exact hd
  | acquire _ _ ih => exact ih.acquire _
  | update _ _ hset ih => exact ih.update hrefl htrans hset

theorem Writes.lock_other (h : Writes R t d d') (hl : d.lock k = some l) (hne : l.holder ≠ t) :
    d'.lock k = some l := by
  induction h with
  | refl => exact hl
  | acquire _ havailable ih => exact lock_acquire_other havailable ih hne
  | update _ havailable _ ih => exact lock_update_other havailable ih hne

end Writes

end

/-! ## Facts about every version of every row -/

section Rows

variable [DecidableEq T]

/-- Every version of a row is as `P` says. -/
structure Rows (P : V → Prop) (d : Database K V T) : Prop where
  committed : ∀ k v, d.committed k = some v → P v
  written : ∀ t k v, d.Wrote t k v → P v

variable {P : V → Prop} {d : Database K V T} {t : T}

theorem rows_empty : (empty : Database K V T).Rows P where
  committed := fun _ _ h => nomatch h
  written := by
    intro t k v h
    obtain ⟨l, hl, -⟩ := wrote_iff.mp h
    cases hl

theorem Rows.view (h : d.Rows P) (hview : d.view t k = some v) : P v := by
  rcases view_eq_some hview with hwrote | hcommitted
  · exact h.written t k v hwrote
  · exact h.committed k v hcommitted

/-- A commit keeps what holds of every row and of every written version. -/
theorem Rows.commit (h : d.Rows P) : (d.commit t).Rows P where
  committed := fun _ _ hview => h.view hview
  written := fun t' k v hwrote => h.written t' k v (wrote_of_released rfl hwrote).2

theorem Rows.abort (h : d.Rows P) : (d.abort t).Rows P where
  committed := h.committed
  written := fun t' k v hwrote => h.written t' k v (wrote_of_released rfl hwrote).2

variable [DecidableEq K]

theorem Rows.write (h : d.Rows P) (hv : P v) (k : K) : (d.write t k v).Rows P where
  committed := h.committed
  written := by
    intro t' j w hwrote
    rcases wrote_write hwrote with ⟨-, -, rfl⟩ | ⟨-, hold⟩
    · exact hv
    · exact h.written t' j w hold

theorem Rows.stage (h : d.Rows P) (hv : P v) (k : K) : (d.stage t k v).Rows P where
  committed := h.committed
  written := (h.write (t := t) hv k).written

end Rows

end Database

end Mvcc
