import Mathlib.Data.List.Forall2

/-!
# Runs of a step function

A system is a step function `σ → ι → σ`: one input, one atomic step. A run feeds it a list of
inputs. Concurrency is in the list: whoever supplies the inputs, and in whatever order they are
interleaved, the system sees one sequence.
-/

namespace Runs

open List

variable {σ ι : Type*} (step : σ → ι → σ)

/-- The state after a list of inputs. -/
def run (s : σ) (inputs : List ι) : σ := inputs.foldl step s

@[simp] theorem run_cons (s : σ) (i : ι) (is : List ι) :
    run step s (i :: is) = run step (step s i) is := rfl

theorem run_append (s : σ) (is js : List ι) :
    run step s (is ++ js) = run step (run step s is) js := foldl_append

variable {step}

variable {s : σ} {P : σ → Prop} {G : σ → ι → Prop} {e : σ → ι → Bool}

/-- What every step keeps, every run keeps. -/
theorem run_induction (hstep : ∀ s i, P s → P (step s i)) (h : P s) (is : List ι) :
    P (run step s is) := by
  induction is generalizing s with
  | nil => exact h
  | cons i is ih => exact ih (hstep s i h)

/-! ## Runs whose steps meet a condition -/

variable (step) in
/-- Every step of the run meets `G`, which may look at the state before the step. -/
def Along (G : σ → ι → Prop) : σ → List ι → Prop
  | _, [] => True
  | s, i :: is => G s i ∧ Along G (step s i) is

instance decidableAlong {G : σ → ι → Prop} [∀ s i, Decidable (G s i)] :
    (s : σ) → (is : List ι) → Decidable (Along step G s is)
  | _, [] => isTrue trivial
  | s, i :: is => @instDecidableAnd (G s i) (Along step G (step s i) is) _
    (decidableAlong (step s i) is)

variable {is : List ι}

/-- The same for runs whose steps all meet a side condition. -/
theorem along_induction (hstep : ∀ s i, P s → G s i → P (step s i)) (h : P s)
    (hG : Along step G s is) : P (run step s is) := by
  induction is generalizing s with
  | nil => exact h
  | cons i is ih => exact ih (hstep s i h hG.1) hG.2

theorem along_of_invariant {H : σ → ι → Prop} (hstep : ∀ s i, P s → G s i → P (step s i))
    (hH : ∀ s i, P s → G s i → H s i) (h : P s) (hG : Along step G s is) :
    Along step H s is := by
  induction is generalizing s with
  | nil => trivial
  | cons i is ih => exact ⟨hH s i h hG.1, ih (hstep s i h hG.1) hG.2⟩

theorem along_of_forall {G : ι → Prop} (h : ∀ i ∈ is, G i) :
    Along step (fun _ i => G i) s is := by
  induction is generalizing s with
  | nil => trivial
  | cons i is ih => exact ⟨h i (by simp), ih fun j hj => h j (by simp [hj])⟩

/-! ## Counting steps -/

variable (step) in
/-- How many steps of the run are of the kind `e`. -/
def occurrences (e : σ → ι → Bool) : σ → List ι → Nat
  | _, [] => 0
  | s, i :: is => (if e s i then 1 else 0) + occurrences e (step s i) is

theorem occurrences_eq_zero {D : σ → Prop} (hkeep : ∀ s i, D s → D (step s i))
    (hnot : ∀ s i, D s → e s i = false) (h : D s) (is : List ι) : occurrences step e s is = 0 := by
  induction is generalizing s with
  | nil => rfl
  | cons i is ih =>
    rw [occurrences, hnot s i h, ih (hkeep s i h)]
    simp

/-- An absorbing state bounds how often a kind of step happens. -/
theorem occurrences_le_one {D : σ → Prop} (hestablish : ∀ s i, e s i = true → D (step s i))
    (hkeep : ∀ s i, D s → D (step s i)) (hnot : ∀ s i, D s → e s i = false) (s : σ) (is : List ι) :
    occurrences step e s is ≤ 1 := by
  induction is generalizing s with
  | nil => exact Nat.zero_le _
  | cons i is ih =>
    rw [occurrences]
    cases he : e s i with
    | true =>
      rw [occurrences_eq_zero hkeep hnot (hestablish s i he) is]
      simp
    | false => simpa using ih (step s i)

/-- So does a measure. -/
theorem occurrences_add_le {μ : σ → Nat} (hP : ∀ s i, P s → G s i → P (step s i))
    (hμ : ∀ s i, P s → G s i → μ s + (if e s i then 1 else 0) ≤ μ (step s i)) (h : P s)
    (hG : Along step G s is) : μ s + occurrences step e s is ≤ μ (run step s is) := by
  induction is generalizing s with
  | nil => exact Nat.le_refl _
  | cons i is ih =>
    have h1 := hμ s i h hG.1
    have h2 := ih (hP s i h hG.1) hG.2
    rw [occurrences, run_cons]
    omega

/-! ## Two systems side by side -/

section

variable {τ β γ : Type*}

/-- The answers to a list of calls, in order. -/
def answers (call : σ → ι → β × σ) : σ → List ι → List β
  | _, [] => []
  | s, i :: is => (call s i).1 :: answers call (call s i).2 is

variable {call : σ → ι → β × σ}

/-- What every call of a run answers. -/
theorem answers_forall {A : β → Prop}
    (hstep : ∀ s i, P s → G s i → A (call s i).1 ∧ P (call s i).2) (h : P s) {is : List ι}
    (hG : Along (fun s i => (call s i).2) G s is) : ∀ a ∈ answers call s is, A a := by
  induction is generalizing s with
  | nil => exact fun a ha => nomatch ha
  | cons i is ih =>
    obtain ⟨hanswer, hkeep⟩ := hstep s i h hG.1
    intro a ha
    obtain rfl | hrest := mem_cons.mp ha
    · exact hanswer
    · exact ih hkeep hG.2 a hrest

/-- Two systems whose steps answer alike and keep a relation answer alike for ever. -/
theorem answers_of_simulation {call' : τ → ι → γ × τ} {f : β → γ} {R : σ → τ → Prop}
    (hstep : ∀ s t i, R s t → G s i →
      (call' t i).1 = f (call s i).1 ∧ R (call s i).2 (call' t i).2) {t : τ} (h : R s t)
    {is : List ι} (hG : Along (fun s i => (call s i).2) G s is) :
    answers call' t is = (answers call s is).map f ∧
      R (run (fun s i => (call s i).2) s is) (run (fun t i => (call' t i).2) t is) := by
  induction is generalizing s t with
  | nil => exact ⟨rfl, h⟩
  | cons i is ih =>
    obtain ⟨hanswer, hrelated⟩ := hstep s t i h hG.1
    obtain ⟨hanswers, hend⟩ := ih hrelated hG.2
    refine ⟨?_, hend⟩
    rw [answers, answers, map_cons, hanswer, hanswers]

/-- The runs on which two systems answer alike, where a condition says it of every step. -/
theorem answers_agree_iff {call' : τ → ι → β × τ} {R : σ → τ → Prop} {G : τ → ι → Prop}
    (hanswer : ∀ s t i, R s t → ((call s i).1 = (call' t i).1 ↔ G t i))
    (hkeep : ∀ s t i, R s t → G t i → R (call s i).2 (call' t i).2) {t : τ} (h : R s t)
    (is : List ι) :
    answers call s is = answers call' t is ↔ Along (fun t i => (call' t i).2) G t is := by
  induction is generalizing s t with
  | nil => exact ⟨fun _ => trivial, fun _ => rfl⟩
  | cons i is ih =>
    rw [answers, answers, cons.injEq, hanswer s t i h, Along]
    exact and_congr_right fun hG => ih (hkeep s t i h hG)

theorem answers_getElem? (call : σ → ι → β × σ) (s : σ) (is : List ι) (k : Nat) :
    (answers call s is)[k]?
      = is[k]?.map fun i => (call (run (fun s i => (call s i).2) s (is.take k)) i).1 := by
  induction is generalizing s k with
  | nil => rfl
  | cons i is ih =>
    cases k with
    | zero => rfl
    | succ k =>
      rw [answers, getElem?_cons_succ, getElem?_cons_succ, ih, take_succ_cons,
        run_cons]

theorem countP_zip_answers (call : σ → ι → β × σ) (e : ι → β → Bool) (s : σ) (is : List ι) :
    (is.zip (answers call s is)).countP (fun p => e p.1 p.2)
      = occurrences (fun s i => (call s i).2) (fun s i => e i (call s i).1) s is := by
  induction is generalizing s with
  | nil => rfl
  | cons i is ih =>
    rw [answers, zip_cons_cons, countP_cons, ih, occurrences, Nat.add_comm]

end

/-! ## One cell of the state -/

section

variable {α β κ : Type*}

/-- A cell that was moved by some inputs, one after the other. -/
inductive Path (r : ι → α → α → Prop) : List ι → α → α → Prop where
  | nil {a : α} : Path r [] a a
  | cons {i : ι} {is : List ι} {a b c : α} (h : r i a b) (hs : Path r is b c) : Path r (i :: is) a c

variable {r : ι → α → α → Prop} {is : List ι} {a b : α}

/-- What runs do to one cell of the state. -/
theorem path_of_run {C : σ → Option α} (hP : ∀ s i, P s → P (step s i))
    (hstep : ∀ s i a, P s → C s = some a → ∃ b, C (step s i) = some b ∧ (b = a ∨ r i a b))
    (hs : P s) (h : C s = some a) (is : List ι) :
    ∃ b moves, C (run step s is) = some b ∧ moves.Sublist is ∧ Path r moves a b := by
  induction is generalizing s a with
  | nil => exact ⟨a, [], h, List.Sublist.slnil, .nil⟩
  | cons i is ih =>
    obtain ⟨b, hb, hmove⟩ := hstep s i a hs h
    obtain ⟨c, moves, hc, hsublist, hpath⟩ := ih (hP s i hs) hb
    rcases hmove with rfl | hmove
    · exact ⟨c, moves, hc, hsublist.cons i, hpath⟩
    · exact ⟨c, i :: moves, hc, hsublist.cons_cons i, .cons hmove hpath⟩

theorem Path.keeps {f : α → β} (hr : ∀ i a b, r i a b → f b = f a) (h : Path r is a b) :
    f b = f a := by
  induction h with
  | nil => rfl
  | cons h _ ih => exact ih.trans (hr _ _ _ h)

theorem Path.version {v : α → Nat} (hr : ∀ i a b, r i a b → v b = v a + 1) (h : Path r is a b) :
    v b = v a + is.length := by
  induction h with
  | nil => rfl
  | cons h _ ih =>
    rw [ih, hr _ _ _ h, length_cons]
    omega

/-- The versions tell the contents of the cell apart. -/
theorem Path.eq_of_version {v : α → Nat} (hr : ∀ i a b, r i a b → v b = v a + 1)
    (h : Path r is a b) (hv : v b = v a) : b = a := by
  cases h with
  | nil => rfl
  | cons h hs =>
    have hfirst := hr _ _ _ h
    have hrest := hs.version hr
    omega

theorem Path.simulate {q : ι → κ → Prop} {t : κ → β → β → Prop} {f : α → β} {I : α → Prop}
    (hr : ∀ i a b, I a → r i a b → I b ∧ ∃ k, q i k ∧ t k (f a) (f b)) (h : Path r is a b)
    (ha : I a) : ∃ ks, List.Forall₂ q is ks ∧ Path t ks (f a) (f b) := by
  induction h with
  | nil => exact ⟨[], .nil, .nil⟩
  | cons h _ ih =>
    obtain ⟨hb, k, hk, hmove⟩ := hr _ _ _ ha h
    obtain ⟨ks, hks, hpath⟩ := ih hb
    exact ⟨k :: ks, .cons hk hks, .cons hmove hpath⟩

end

end Runs
