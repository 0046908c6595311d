import WebGuard.Lib.Interrupt
import WebGuard.Lib.Run

/-!
# Programs side by side

Callers run programs over one state. A turn of a caller is one read or one write of its program,
so a list of turns is an interleaving, and every interleaving is one. A caller that is done, or
that has raised, may start again.
-/

namespace Interrupt

/-- A state, and for each caller what it runs and the remainder of its program. -/
structure Pool (σ ε α κ T : Type) where
  shared : σ
  task : T → Option (κ × Program σ ε α)

inductive Turn (κ T : Type) where
  | call (t : T) (request : κ)
  | go (t : T)

namespace Pool

variable {σ ε α κ T : Type} [DecidableEq T]

/-- Nobody runs anything. -/
def idle (s : σ) : Pool σ ε α κ T where
  shared := s
  task := fun _ => none

def put (s : Pool σ ε α κ T) (t : T) (task : Option (κ × Program σ ε α)) : Pool σ ε α κ T :=
  { s with task := fun t' => if t' = t then task else s.task t' }

/-- The next read or write of a caller. -/
def go (s : Pool σ ε α κ T) (t : T) : Pool σ ε α κ T :=
  match s.task t with
  | some (request, .read next) => s.put t (some (request, next s.shared))
  | some (request, .write f next) => { s with shared := f s.shared }.put t (some (request, next))
  | _ => s.put t none

/-- The write that a caller is about to make, with what it is made for. -/
def due (s : Pool σ ε α κ T) (t : T) : Option (κ × (σ → σ)) :=
  match s.task t with
  | some (request, .write f _) => some (request, f)
  | _ => none

def step (code : κ → Program σ ε α) (s : Pool σ ε α κ T) : Turn κ T → Pool σ ε α κ T
  | .call t request => if (s.task t).isNone then s.put t (some (request, code request)) else s
  | .go t => s.go t

variable {G : κ → (σ → σ) → Prop} {code : κ → Program σ ε α} {s : Pool σ ε α κ T}

/-- Every write that is still to come for a request is one of its `G`. -/
def Writes (G : κ → (σ → σ) → Prop) (s : Pool σ ε α κ T) : Prop :=
  ∀ t request p, s.task t = some (request, p) → p.Each (G request) (fun _ => True)

omit [DecidableEq T] in
theorem writes_idle (s : σ) : (idle s : Pool σ ε α κ T).Writes G := by
  intro t request p h
  cases h

theorem Writes.put (h : s.Writes G) (shared : σ) {t : T} {task : Option (κ × Program σ ε α)}
    (htask : ∀ request p, task = some (request, p) → p.Each (G request) (fun _ => True)) :
    ({ s with shared := shared }.put t task).Writes G := by
  intro t' request p hp
  by_cases ht : t' = t
  · subst ht
    simp only [Pool.put, if_true] at hp
    exact htask request p hp
  · simp only [Pool.put, ht, if_false] at hp
    exact h t' request p hp

/-- What is true of the writes of a program stays true of what is left of it. -/
theorem Writes.step (hcode : ∀ request, (code request).Each (G request) (fun _ => True))
    (h : s.Writes G) (turn : Turn κ T) : (s.step code turn).Writes G := by
  cases turn with
  | call t request =>
    simp only [Pool.step]
    split
    · refine h.put s.shared ?_
      rintro _ _ ⟨rfl, rfl⟩
      exact hcode request
    · exact h
  | go t =>
    simp only [Pool.step, Pool.go]
    split
    · next request next htask =>
      refine h.put s.shared ?_
      rintro _ _ ⟨rfl, rfl⟩
      exact h t request _ htask s.shared
    · next request f next htask =>
      refine h.put _ ?_
      rintro _ _ ⟨rfl, rfl⟩
      exact (h t request _ htask).2
    · refine h.put s.shared ?_
      rintro _ _ ⟨⟩

omit [DecidableEq T] in
theorem Writes.due (h : s.Writes G) {t : T} {request : κ} {f : σ → σ}
    (hdue : s.due t = some (request, f)) : G request f := by
  unfold Pool.due at hdue
  split at hdue
  · next request' f' next htask =>
    cases hdue
    exact (h t request _ htask).1
  · cases hdue

theorem shared_step (s : Pool σ ε α κ T) (turn : Turn κ T) :
    (s.step code turn).shared = s.shared ∨
      ∃ t request f, turn = .go t ∧ s.due t = some (request, f) ∧
        (s.step code turn).shared = f s.shared := by
  cases turn with
  | call t request =>
    refine Or.inl ?_
    simp only [Pool.step]
    split <;> rfl
  | go t =>
    cases htask : s.task t with
    | none => exact Or.inl (by simp only [Pool.step, Pool.go, htask]; rfl)
    | some task =>
      obtain ⟨request, p⟩ := task
      cases p with
      | ret a => exact Or.inl (by simp only [Pool.step, Pool.go, htask]; rfl)
      | raise e => exact Or.inl (by simp only [Pool.step, Pool.go, htask]; rfl)
      | read next => exact Or.inl (by simp only [Pool.step, Pool.go, htask]; rfl)
      | write f next =>
        refine Or.inr ⟨t, request, f, rfl, ?_, ?_⟩
        · simp only [Pool.due, htask]
        · simp only [Pool.step, Pool.go, htask]
          rfl

/-- Every write due keeps the invariant, if it is one that the programs started with. -/
theorem shared_run {I : σ → Prop} {C : Pool σ ε α κ T → Turn κ T → Prop}
    (hcode : ∀ request, (code request).Each (G request) (fun _ => True))
    (hwrite : ∀ s t request f, I s.shared → C s (.go t) → s.due t = some (request, f) →
      G request f → I (f s.shared))
    {start : σ} (hstart : I start) {turns : List (Turn κ T)}
    (hC : Runs.Along (step code) C (idle start) turns) :
    I (Runs.run (step code) (idle start) turns).shared := by
  have h : I (Runs.run (step code) (idle start) turns).shared ∧
      (Runs.run (step code) (idle start) turns).Writes G := by
    refine Runs.along_induction (P := fun s : Pool σ ε α κ T => I s.shared ∧ s.Writes G) ?_
      ⟨hstart, writes_idle start⟩ hC
    rintro s turn ⟨hI, hwrites⟩ hturn
    refine ⟨?_, hwrites.step hcode turn⟩
    rcases shared_step s turn with hsame | ⟨t, request, f, rfl, hdue, hshared⟩
    · rw [hsame]
      exact hI
    · rw [hshared]
      exact hwrite s t request f hI hturn hdue (hwrites.due hdue)
  exact h.1

end Pool

end Interrupt
