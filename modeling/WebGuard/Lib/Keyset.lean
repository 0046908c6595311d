import WebGuard.Lib.FailingFolds
import Mathlib.Algebra.Order.Ring.Nat
import Mathlib.Data.List.Sort

/-!
# Keyset pagination

A listing in descending order of a key, read page after page. A page is what
`WHERE key < position ORDER BY key DESC LIMIT limit + 1` gives: its first `limit` rows, decoded,
and whether there was one more. The next page starts at the position of the last record.

The rows may change between two reads. `follow_eq` says when this does not matter: as long as the
rows below the position are the same ones, the pages put together are the whole listing of the
first read, decoded in one go.
-/

namespace Keyset

open List

variable {α β κ π σ ε : Type*}

variable {front back : List α}

section Rows

variable [LinearOrder κ] (key : α → κ)

/-- `ORDER BY key DESC`. -/
def descending (rows : List α) : List α := rows.insertionSort (fun a b => key b ≤ key a)

/-- `WHERE key < position`, or no condition at the start of the listing. -/
def below (after : Option κ) (rows : List α) : List α :=
  rows.filter (fun r => after.all (fun k => decide (key r < k)))

/-- What is left of the listing after a position. -/
def remaining (after : Option κ) (rows : List α) : List α := descending key (below key after rows)

variable {key} {rows start : List α} {after : Option κ}

variable {r : α}

@[simp] theorem mem_descending : r ∈ descending key rows ↔ r ∈ rows := by
  simp [descending]

theorem mem_below : r ∈ below key after rows ↔ r ∈ rows ∧ ∀ k ∈ after, key r < k := by
  cases after <;> simp [below]

theorem mem_remaining : r ∈ remaining key after rows ↔ r ∈ rows ∧ ∀ k ∈ after, key r < k := by
  rw [remaining, mem_descending, mem_below]

theorem descending_strict (h : (rows.map key).Nodup) :
    (descending key rows).Pairwise (fun a b => key b < key a) := by
  have hsorted : (descending key rows).Pairwise (fun a b => key b ≤ key a) := by
    have : Std.Total (fun a b : α => key b ≤ key a) := ⟨fun a b => le_total (key b) (key a)⟩
    have : IsTrans α (fun a b => key b ≤ key a) := ⟨fun _ _ _ hab hbc => hbc.trans hab⟩
    exact pairwise_insertionSort _ rows
  have hdistinct : (descending key rows).Pairwise (fun a b => key a ≠ key b) := by
    have hperm : (descending key rows).Perm rows := perm_insertionSort _ rows
    exact pairwise_map.mp ((hperm.map key).nodup_iff.mpr h)
  exact (hsorted.and hdistinct).imp fun both => lt_of_le_of_ne both.1 both.2.symm

theorem remaining_strict (h : (rows.map key).Nodup) :
    (remaining key after rows).Pairwise (fun a b => key b < key a) := by
  apply descending_strict
  exact h.sublist (filter_sublist.map key)

theorem remaining_congr (hrows : (rows.map key).Nodup) (hstart : (start.map key).Nodup)
    (h : ∀ r, (∀ k ∈ after, key r < k) → (r ∈ rows ↔ r ∈ start)) :
    remaining key after rows = remaining key after start := by
  have hasymm : Std.Asymm (fun a b : α => key b < key a) := ⟨fun _ _ hab hba => lt_asymm hab hba⟩
  apply (remaining_strict hrows).eq_of_mem_iff (remaining_strict hstart)
  intro r
  rw [mem_remaining, mem_remaining]
  constructor
  · rintro ⟨hr, hk⟩
    exact ⟨(h r hk).mp hr, hk⟩
  · rintro ⟨hr, hk⟩
    exact ⟨(h r hk).mpr hr, hk⟩

theorem remaining_after (hstart : (start.map key).Nodup) {a : α}
    (h : remaining key after start = front ++ a :: back) :
    remaining key (some (key a)) start = back := by
  have hstrict : (remaining key after start).Pairwise (fun a b => key b < key a) :=
    remaining_strict hstart
  rw [h, pairwise_append, pairwise_cons] at hstrict
  obtain ⟨-, ⟨hback, hsorted⟩, hfront⟩ := hstrict
  have hasymm : Std.Asymm (fun a b : α => key b < key a) := ⟨fun _ _ hab hba => lt_asymm hab hba⟩
  apply (remaining_strict hstart).eq_of_mem_iff hsorted
  intro r
  have hmem : r ∈ remaining key after start ↔ r ∈ front ∨ r = a ∨ r ∈ back := by
    rw [h, mem_append, mem_cons]
  have ha : a ∈ remaining key after start := by
    rw [h]
    simp
  rw [mem_remaining] at hmem ha ⊢
  simp only [Option.mem_some_iff, forall_eq']
  constructor
  · rintro ⟨hr, hlt⟩
    rcases hmem.mp ⟨hr, fun k hk => hlt.trans (ha.2 k hk)⟩ with hr | rfl | hr
    · exact absurd (hfront r hr a mem_cons_self) (lt_asymm hlt)
    · exact absurd hlt (lt_irrefl _)
    · exact hr
  · intro hr
    exact ⟨(hmem.mpr (.inr (.inr hr))).1, hback r hr⟩

end Rows

section Pages

/-- One page of decoded rows, and whether the listing goes on behind it. -/
def page [LinearOrder κ] (key : α → κ) (read : α → Except ε β) (rows : List α) (limit : Nat)
    (after : Option κ) : Except ε (List β × Bool) :=
  let fetched := (remaining key after rows).take (limit + 1)
  ((fetched.take limit).mapM read).map (fun records => (records, decide (limit < fetched.length)))

/--
Reads on from a position, one page from each source, until a page is the last one.

The answer has the records of all pages and whether the end was reached.
-/
def follow (page : σ → Option π → Except ε (List β × Bool)) (position : β → π) :
    Option π → List σ → Except ε (List β × Bool)
  | _, [] => .ok ([], false)
  | after, s :: rest =>
    page s after >>= fun answer =>
      match answer.2, answer.1.getLast? with
      | true, some last =>
        (follow page position (some (position last)) rest).map
          (fun later => (answer.1 ++ later.1, later.2))
      | _, _ => .ok (answer.1, true)

variable [LinearOrder κ] {key : α → κ} {read : α → Except ε β}

variable {rows : List α} {limit : Nat} {after : Option κ}

theorem page_last (h : (remaining key after rows).length ≤ limit) :
    page key read rows limit after
      = ((remaining key after rows).mapM read).map (fun records => (records, false)) := by
  have htake : (remaining key after rows).take (limit + 1) = remaining key after rows :=
    take_of_length_le (by omega)
  simp only [page, htake, take_of_length_le h]
  congr 2
  funext records
  simp only [Prod.mk.injEq, decide_eq_false_iff_not, true_and]
  omega

theorem page_more (h : remaining key after rows = front ++ back) (hfront : front.length = limit)
    (hback : back ≠ []) :
    page key read rows limit after = (front.mapM read).map (fun records => (records, true)) := by
  have hpos : 0 < back.length := length_pos_iff.mpr hback
  have htake : ((remaining key after rows).take (limit + 1)).take limit = front := by
    rw [take_take, Nat.min_eq_left (by omega), h, ← hfront, take_left]
  have hlength : limit < ((remaining key after rows).take (limit + 1)).length := by
    rw [length_take, h, length_append]
    omega
  simp only [page, htake, hlength, decide_true]

theorem exists_cut {l : List α} {limit : Nat} (hpos : 1 ≤ limit) (h : limit < l.length) :
    ∃ front a back, l = front ++ a :: back ∧ (front ++ [a]).length = limit ∧ back ≠ [] := by
  refine ⟨l.take (limit - 1), l[limit - 1], l.drop limit, ?_, ?_, ?_⟩
  · calc l = l.take (limit - 1) ++ l.drop (limit - 1) := (take_append_drop _ l).symm
      _ = _ := by rw [drop_eq_getElem_cons (by omega), Nat.sub_add_cancel hpos]
  · simp only [length_append, length_take, length_singleton]
    omega
  · rw [ne_eq, drop_eq_nil_iff]
    omega

variable {page' : σ → Option π → Except ε (List β × Bool)} {position : β → π}

variable {s : σ} {rest : List σ} {after : Option π}

theorem follow_starts {records : List β} {more : Bool}
    {answer : List β × Bool} (hpage : page' s after = .ok (records, more))
    (h : follow page' position after (s :: rest) = .ok answer) :
    ∃ later, answer.1 = records ++ later := by
  rw [follow, hpage] at h
  simp only [bind, Except.bind] at h
  split at h
  · next last _ =>
    cases hrest : follow page' position (some (position last)) rest with
    | error e =>
      rw [hrest] at h
      cases h
    | ok later =>
      rw [hrest] at h
      cases h
      exact ⟨later.1, rfl⟩
  · cases h
    exact ⟨[], (append_nil records).symm⟩

theorem follow_more {a : α}
    (hpage : page' s after = ((front ++ [a]).mapM read).map (fun records => (records, true)))
    (hrest : ∀ b, read a = .ok b → follow page' position (some (position b)) rest
      = (back.mapM read).map (fun records => (records, true))) :
    follow page' position after (s :: rest)
      = ((front ++ a :: back).mapM read).map (fun records => (records, true)) := by
  rw [follow, hpage, mapM_append, mapM_append]
  cases front.mapM read with
  | error e => rfl
  | ok records =>
    cases ha : read a with
    | error e =>
      rw [mapM_cons, mapM_cons, ha]
      rfl
    | ok b =>
      have hlast : (records ++ [b]).getLast? = some b := by simp
      rw [mapM_cons, mapM_cons, ha]
      change (match true, (records ++ [b]).getLast? with
        | true, some last => _
        | _, _ => _) = _
      rw [hlast]
      change (follow page' position (some (position b)) rest).map _ = _
      rw [hrest b ha]
      cases back.mapM read with
      | error e => rfl
      | ok later =>
        change Except.ok ((records ++ [b]) ++ later, true) = Except.ok (records ++ b :: later, true)
        rw [append_assoc, singleton_append]

variable {place : π → κ} {rows : σ → List α} {limit : σ → Nat}

theorem follow_eq {start : List α} (hstart : (start.map key).Nodup)
    (hplace : ∀ a b, read a = .ok b → place (position b) = key a) (reads : List σ)
    (hpage : ∀ s ∈ reads, ∀ after, (∀ p ∈ after, ∃ b a, read a = .ok b ∧ p = position b) →
      page' s after = page key read (rows s) (limit s) (after.map place))
    (hrows : ∀ s ∈ reads, ((rows s).map key).Nodup) (hlimit : ∀ s ∈ reads, 1 ≤ limit s)
    (hsame : ∀ s ∈ reads, ∀ a ∈ start, ∀ r, key r < key a → (r ∈ rows s ↔ r ∈ start))
    (after : Option π) (hposition : ∀ p ∈ after, ∃ b a, read a = .ok b ∧ p = position b)
    (hafter : ∀ s ∈ reads.head?, ∀ r, (∀ k ∈ after.map place, key r < k) →
      (r ∈ rows s ↔ r ∈ start))
    (hne : reads ≠ [])
    (henough : (remaining key (after.map place) start).length ≤ (reads.map limit).sum) :
    follow page' position after reads
      = ((remaining key (after.map place) start).mapM read).map (fun records => (records, true)) := by
  induction reads generalizing after with
  | nil => exact absurd rfl hne
  | cons s rest ih =>
    rw [forall_mem_cons] at hpage hrows hlimit hsame
    have hleft : remaining key (after.map place) (rows s) = remaining key (after.map place) start :=
      remaining_congr hrows.1 hstart (hafter s (by simp))
    have hpage' := hpage.1 after hposition
    by_cases hlast : (remaining key (after.map place) start).length ≤ limit s
    · rw [follow, hpage', page_last (by rw [hleft]; exact hlast), hleft]
      cases (remaining key (after.map place) start).mapM read <;> rfl
    · -- the page ends at a row of `start`, where the next one begins
      obtain ⟨front, a, back, hcut, hfront, hback⟩ :=
        exists_cut hlimit.1 (Nat.lt_of_not_le hlast)
      have hcut' : remaining key (after.map place) start = (front ++ [a]) ++ back := by
        rw [hcut, append_assoc, singleton_append]
      have hmem : a ∈ remaining key (after.map place) start := by
        rw [hcut]
        simp
      have hnext : remaining key (some (key a)) start = back := remaining_after hstart hcut
      have hlength : back.length ≤ (rest.map limit).sum := by
        rw [hcut', length_append, hfront, map_cons, sum_cons] at henough
        omega
      have hrest : rest ≠ [] := by
        rintro rfl
        exact hback (length_eq_zero_iff.mp (Nat.le_zero.mp hlength))
      rw [hcut]
      apply follow_more (hpage'.trans (page_more (hleft.trans hcut') hfront hback))
      intro b hb
      have hkey : (some (position b)).map place = some (key a) := by
        rw [Option.map_some, hplace a b hb]
      have hstep := ih hpage.2 hrows.2 hlimit.2 hsame.2 (some (position b))
        (fun p hp => ⟨b, a, hb, (Option.mem_some_iff.mp hp).symm⟩)
        (by
          intro s' hs' r hr
          rw [hkey] at hr
          exact hsame.2 s' (mem_of_mem_head? hs') a (mem_remaining.mp hmem).1 r (hr _ rfl))
        hrest (by rw [hkey, hnext]; exact hlength)
      rwa [hkey, hnext] at hstep

end Pages

end Keyset
