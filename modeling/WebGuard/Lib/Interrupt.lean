import Mathlib.Logic.Basic

/-!
# Programs that may stop between two writes

A program reads the state and writes it, one write after another, and ends with an answer or
raises. It may also stop: `stop p n s` is the state in which `p` leaves `s` when nothing of it
happens after its first `n` writes.

* `Triple I p s Q` — from `s`, every state after a write of `p` has `I`, and the end has `Q`.
  It gives `Q` of a full run (`triple_run`) and `I` wherever the program stops (`triple_stop`).
* `Each G E p` — whatever `p` reads, its writes are in `G` and what it raises is in `E`.
* `Respects R p` — from related states, `p` answers alike and ends in related states.
-/

namespace Interrupt

/-- Reads and writes of a state `σ`, ending with an `α` or raising an `ε`. -/
inductive Program (σ ε : Type) (α : Type) where
  | ret (a : α)
  | raise (e : ε)
  | read (next : σ → Program σ ε α)
  | write (f : σ → σ) (next : Program σ ε α)

namespace Program

variable {σ ε α β : Type}

protected def bind : Program σ ε α → (α → Program σ ε β) → Program σ ε β
  | ret a, f => f a
  | raise e, _ => raise e
  | read next, f => read fun s => (next s).bind f
  | write g next, f => write g (next.bind f)

instance : Monad (Program σ ε) where
  pure := ret
  bind := Program.bind

/-- The state. -/
def get : Program σ ε σ := read ret

/-- One write. -/
def modify (f : σ → σ) : Program σ ε Unit := write f (ret ())

def ofExcept : Except ε α → Program σ ε α
  | .ok a => ret a
  | .error e => raise e

/-- `try … except …`. -/
def rescue {ε' : Type} : Program σ ε α → (ε → Program σ ε' α) → Program σ ε' α
  | ret a, _ => ret a
  | raise e, f => f e
  | read next, f => read fun s => (next s).rescue f
  | write g next, f => write g (next.rescue f)

/-- `try … except … as exc: raise …`. -/
def mapError {ε' : Type} (f : ε → ε') (p : Program σ ε α) : Program σ ε' α :=
  p.rescue fun e => raise (f e)

/-- The answer and the state at the end. -/
def run : Program σ ε α → σ → Except ε α × σ
  | ret a, s => (.ok a, s)
  | raise e, s => (.error e, s)
  | read next, s => (next s).run s
  | write f next, s => next.run (f s)

/-- The state after the first `n` writes, or at the end if there are fewer. -/
def stop : Program σ ε α → Nat → σ → σ
  | ret _, _, s => s
  | raise _, _, s => s
  | read next, n, s => (next s).stop n s
  | write _ _, 0, s => s
  | write f next, n + 1, s => next.stop n (f s)

/-! ## Full runs -/

@[simp] theorem run_get (s : σ) : (get : Program σ ε σ).run s = (.ok s, s) := rfl

@[simp] theorem run_ofExcept (x : Except ε α) (s : σ) :
    (ofExcept x : Program σ ε α).run s = (x, s) := by
  cases x <;> rfl

theorem run_bind (p : Program σ ε α) (f : α → Program σ ε β) (s : σ) :
    (p >>= f).run s =
      match p.run s with
      | (.ok a, s') => (f a).run s'
      | (.error e, s') => (.error e, s') := by
  induction p generalizing s with
  | ret a => rfl
  | raise e => rfl
  | read next ih => exact ih s s
  | write g next ih => exact ih (g s)

variable {p : Program σ ε α}

theorem run_bind_of_ok {f : α → Program σ ε β} {s s' : σ} {a : α}
    (h : p.run s = (.ok a, s')) : (p >>= f).run s = (f a).run s' := by
  rw [run_bind, h]

variable {f : α → Program σ ε β} {e : ε} {ε' : Type}

theorem run_bind_of_error {s s' : σ} (h : p.run s = (.error e, s')) :
    (p >>= f).run s = (.error e, s') := by
  rw [run_bind, h]

/-- A sequence that answers went through both programs. -/
theorem ok_of_run_bind {s s' : σ} {b : β} (h : (p >>= f).run s = (.ok b, s')) :
    ∃ a s₁, p.run s = (.ok a, s₁) ∧ (f a).run s₁ = (.ok b, s') := by
  rw [run_bind] at h
  split at h
  · exact ⟨_, _, by assumption, h⟩
  · cases h

theorem run_of_mapError {f : ε → ε'} {s s' : σ} {a : α}
    (h : (p.mapError f).run s = (.ok a, s')) : p.run s = (.ok a, s') := by
  unfold mapError at h
  induction p generalizing s with
  | ret b =>
    cases h
    rfl
  | raise e => cases h
  | read next ih => exact ih s h
  | write g next ih => exact ih h

/-! ## What holds wherever the program stops -/

/-- Every state after a write has `I`, and the end has `Q`. -/
def Triple (I : σ → Prop) : Program σ ε α → σ → (Except ε α → σ → Prop) → Prop
  | ret a, s, Q => Q (.ok a) s
  | raise e, s, Q => Q (.error e) s
  | read next, s, Q => Triple I (next s) s Q
  | write f next, s, Q => I (f s) ∧ Triple I next (f s) Q

variable {I : σ → Prop} {p : Program σ ε α} {s : σ} {Q Q' : Except ε α → σ → Prop}

/-- A triple holds of the whole run. -/
theorem triple_run (h : Triple I p s Q) : Q (p.run s).1 (p.run s).2 := by
  induction p generalizing s with
  | ret a => exact h
  | raise e => exact h
  | read next ih => exact ih s h
  | write f next ih => exact ih h.2

theorem triple_of_run (h : Q (p.run s).1 (p.run s).2) : Triple (fun _ => True) p s Q := by
  induction p generalizing s with
  | ret a => exact h
  | raise e => exact h
  | read next ih => exact ih s h
  | write f next ih => exact ⟨trivial, ih h⟩

/-- Its invariant holds wherever the run is stopped. -/
theorem triple_stop (hs : I s) (h : Triple I p s Q) (n : Nat) : I (p.stop n s) := by
  induction p generalizing s n with
  | ret a => exact hs
  | raise e => exact hs
  | read next ih => exact ih s hs h n
  | write f next ih =>
    cases n with
    | zero => exact hs
    | succ n => exact ih h.1 h.2 n

theorem Triple.mono (h : Triple I p s Q) (hQ : ∀ r s', Q r s' → Q' r s') : Triple I p s Q' := by
  induction p generalizing s with
  | ret a => exact hQ _ _ h
  | raise e => exact hQ _ _ h
  | read next ih => exact ih s h
  | write f next ih => exact ⟨h.1, ih h.2⟩

theorem Triple.weaken {J : σ → Prop} (h : Triple I p s Q) (hI : ∀ s', I s' → J s') :
    Triple J p s Q := by
  induction p generalizing s with
  | ret a => exact h
  | raise e => exact h
  | read next ih => exact ih s h
  | write f next ih => exact ⟨hI _ h.1, ih h.2⟩

theorem triple_bind {Q : Except ε β → σ → Prop}
    (h : Triple I p s fun r s' =>
      match r with
      | .ok a => Triple I (f a) s' Q
      | .error e => Q (.error e) s') :
    Triple I (p >>= f) s Q := by
  induction p generalizing s with
  | ret a => exact h
  | raise e => exact h
  | read next ih => exact ih s h
  | write g next ih => exact ⟨h.1, ih h.2⟩

/-- A postcondition may name the run itself. -/
theorem Triple.and_run (h : Triple I p s Q) :
    Triple I p s fun r s' => Q r s' ∧ p.run s = (r, s') := by
  induction p generalizing s with
  | ret a => exact ⟨h, rfl⟩
  | raise e => exact ⟨h, rfl⟩
  | read next ih => exact ih s h
  | write f next ih => exact ⟨h.1, ih h.2⟩

theorem Triple.and_inv (h : Triple I p s Q) (hs : I s) :
    Triple I p s fun r s' => Q r s' ∧ I s' := by
  induction p generalizing s with
  | ret a => exact ⟨h, hs⟩
  | raise e => exact ⟨h, hs⟩
  | read next ih => exact ih s h hs
  | write f next ih => exact ⟨h.1, ih h.2 h.1⟩

/-- Once `I` holds, it holds after every write. -/
def Preserves (I : σ → Prop) (p : Program σ ε α) : Prop :=
  ∀ s, I s → Triple I p s fun _ s' => I s'

theorem preserves_pure (a : α) : Preserves I (pure a : Program σ ε α) := fun _ h => h

theorem preserves_raise (e : ε) : Preserves I (raise e : Program σ ε α) := fun _ h => h

theorem preserves_ofExcept (x : Except ε α) : Preserves I (ofExcept x : Program σ ε α) := by
  cases x with
  | ok a => exact preserves_pure a
  | error e => exact preserves_raise e

theorem preserves_read {f : σ → Program σ ε β}
    (hf : ∀ s, I s → Triple I (f s) s fun _ s' => I s') : Preserves I (get >>= f) := hf

/-- Programs one after the other keep what each of them keeps. -/
theorem preserves_bind (hp : Preserves I p) (hf : ∀ a, Preserves I (f a)) :
    Preserves I (p >>= f) := by
  intro s hs
  refine triple_bind ((hp s hs).mono fun r s' h => ?_)
  cases r with
  | ok a => exact hf a s' h
  | error e => exact h

/-- From a state with `I`, `I` holds after every write and every answer is an `A`. -/
def Upholds (I : σ → Prop) (A : α → Prop) (p : Program σ ε α) : Prop :=
  ∀ s, I s → Triple I p s fun r s' => I s' ∧ ∀ a, r = .ok a → A a

variable {A : α → Prop} {B : β → Prop}

theorem upholds_pure {a : α} (ha : A a) : Upholds I A (pure a : Program σ ε α) := by
  refine fun s hs => ⟨hs, ?_⟩
  rintro _ ⟨⟩
  exact ha

theorem upholds_raise (e : ε) : Upholds I A (raise e : Program σ ε α) :=
  fun _ hs => ⟨hs, fun _ he => nomatch he⟩

theorem upholds_ofExcept {x : Except ε α} (h : ∀ a, x = .ok a → A a) :
    Upholds I A (ofExcept x : Program σ ε α) := by
  cases x with
  | ok a => exact upholds_pure (h a rfl)
  | error e => exact upholds_raise e

theorem upholds_modify {f : σ → σ} (hf : ∀ s, I s → I (f s)) :
    Upholds I (fun _ => True) (modify f : Program σ ε Unit) :=
  fun s hs => ⟨hf s hs, hf s hs, fun _ _ => trivial⟩

theorem upholds_read {f : σ → Program σ ε β} (hf : ∀ s, I s → Upholds I B (f s)) :
    Upholds I B (get >>= f) := fun s hs => hf s hs s hs

/-- The second program may rely on what the first one answered. -/
theorem upholds_bind (hp : Upholds I A p) (hf : ∀ a, A a → Upholds I B (f a)) :
    Upholds I B (p >>= f) := by
  intro s hs
  refine triple_bind ((hp s hs).mono fun r s' h => ?_)
  cases r with
  | ok a => exact hf a (h.2 a rfl) s' h.1
  | error e => exact ⟨h.1, fun _ he => nomatch he⟩

theorem upholds_rescue {f : ε → Program σ ε' α} (h : Upholds I A p) (hf : ∀ e, Upholds I A (f e)) :
    Upholds I A (p.rescue f) := by
  intro s hs
  have hend := h s hs
  clear h
  induction p generalizing s with
  | ret a =>
    refine ⟨hend.1, ?_⟩
    rintro _ ⟨⟩
    exact hend.2 a rfl
  | raise e => exact hf e s hend.1
  | read next ih => exact ih s s hs hend
  | write g next ih => exact ⟨hend.1, ih _ hend.1 hend.2⟩

theorem upholds_mapError {f : ε → ε'} (h : Upholds I A p) :
    Upholds I A (p.mapError f) := upholds_rescue h fun e => upholds_raise (f e)

/-- What is upheld holds after a whole run, and of its answer. -/
theorem Upholds.run (h : Upholds I A p) (hs : I s) :
    I (p.run s).2 ∧ ∀ a, (p.run s).1 = .ok a → A a := triple_run (h s hs)

/-! ## The writes of a program -/

/-- Whatever is read, every write is a `G`, and what is raised is an `E`. -/
def Each (G : (σ → σ) → Prop) (E : ε → Prop) : Program σ ε α → Prop
  | ret _ => True
  | raise e => E e
  | read next => ∀ s, Each G E (next s)
  | write f next => G f ∧ Each G E next

variable {G : (σ → σ) → Prop} {E : ε → Prop}

/-- Every step of a sequence is a step of one of its parts. -/
theorem each_bind (hp : Each G E p) (hf : ∀ a, Each G E (f a)) : Each G E (p >>= f) := by
  induction p with
  | ret a => exact hf a
  | raise e => exact hp
  | read next ih => exact fun s => ih s (hp s)
  | write g next ih => exact ⟨hp.1, ih hp.2⟩

theorem each_pure (a : α) : Each G E (pure a : Program σ ε α) := trivial

theorem each_raise (he : E e) : Each G E (raise e : Program σ ε α) := he

theorem each_modify {f : σ → σ} (hf : G f) : Each G E (modify f : Program σ ε Unit) :=
  ⟨hf, trivial⟩

theorem each_read {f : σ → Program σ ε β} (hf : ∀ s, Each G E (f s)) : Each G E (get >>= f) := hf

theorem each_rescue {E' : ε' → Prop} {f : ε → Program σ ε' α} (hp : Each G E p)
    (hf : ∀ e, E e → Each G E' (f e)) : Each G E' (p.rescue f) := by
  induction p with
  | ret a => trivial
  | raise e => exact hf e hp
  | read next ih => exact fun s => ih s (hp s)
  | write g next ih => exact ⟨hp.1, ih hp.2⟩

theorem each_mapError {E' : ε' → Prop} {f : ε → ε'} (hp : Each G E p) (hf : ∀ e, E e → E' (f e)) :
    Each G E' (p.mapError f) :=
  each_rescue hp hf

theorem each_ofExcept {x : Except ε α} (h : ∀ e, x = .error e → E e) :
    Each G E (ofExcept x : Program σ ε α) := by
  cases x with
  | ok a => trivial
  | error e => exact h e rfl

/-- A property that every step keeps is an invariant of the program. -/
theorem triple_of_each (h : Each (fun f => ∀ s, I s → I (f s)) E p) (hs : I s) :
    Triple I p s fun r s' => I s' ∧ ∀ e, r = .error e → E e := by
  induction p generalizing s with
  | ret a => exact ⟨hs, fun _ he => nomatch he⟩
  | raise e =>
    refine ⟨hs, ?_⟩
    rintro _ ⟨⟩
    exact h
  | read next ih => exact ih s (h s) hs
  | write f next ih => exact ⟨h.1 s hs, ih h.2 (h.1 s hs)⟩

theorem error_of_each (h : Each G E p) (he : (p.run s).1 = .error e) : E e := by
  induction p generalizing s with
  | ret a => cases he
  | raise e' =>
    cases he
    exact h
  | read next ih => exact ih s (h s) he
  | write f next ih => exact ih h.2 he

/-! ## Related states -/

/-- From related states the program answers alike and ends in related states. -/
def Respects (R : σ → σ → Prop) (p : Program σ ε α) : Prop :=
  ∀ s t, R s t → (p.run s).1 = (p.run t).1 ∧ R (p.run s).2 (p.run t).2

variable {R : σ → σ → Prop}

theorem respects_pure (a : α) : Respects R (pure a : Program σ ε α) := fun _ _ h => ⟨rfl, h⟩

theorem respects_raise (e : ε) : Respects R (raise e : Program σ ε α) := fun _ _ h => ⟨rfl, h⟩

theorem respects_ofExcept (x : Except ε α) : Respects R (ofExcept x : Program σ ε α) := by
  intro s t h
  simpa using h

theorem respects_modify {f : σ → σ} (hf : ∀ s t, R s t → R (f s) (f t)) :
    Respects R (modify f : Program σ ε Unit) := fun s t h => ⟨rfl, hf s t h⟩

theorem respects_read {f : σ → Program σ ε β}
    (hf : ∀ s t, R s t → ((f s).run s).1 = ((f t).run t).1 ∧ R ((f s).run s).2 ((f t).run t).2) :
    Respects R (get >>= f) := hf

/-- Related states stay related, and get the same answers. -/
theorem respects_bind (hp : Respects R p) (hf : ∀ a, Respects R (f a)) : Respects R (p >>= f) := by
  intro s t h
  obtain ⟨hanswer, hstate⟩ := hp s t h
  rw [run_bind, run_bind]
  revert hanswer hstate
  generalize p.run s = x
  generalize p.run t = y
  rintro hanswer hstate
  obtain ⟨r, s'⟩ := x
  obtain ⟨r', t'⟩ := y
  obtain rfl : r = r' := hanswer
  cases r with
  | error e => exact ⟨rfl, hstate⟩
  | ok a => exact hf a s' t' hstate

end Program

end Interrupt
