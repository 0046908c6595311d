import WebGuard.Lib.Atomic
import WebGuard.Lib.Interrupt

/-!
# Programs over a part of the state, and failing storage

* `zoom` — a program over one part of a larger state;
* `faulty` — a call of the storage that fails before it is carried out, or after.
-/

namespace Interrupt.Program

open Atomic (Fault)

variable {σ τ ε ε' α β : Type}

/-! ## Parts of a state -/

/-- The program over the part that `part` reads and `put` writes. -/
def zoom (part : τ → σ) (put : σ → τ → τ) : Program σ ε α → Program τ ε α
  | ret a => ret a
  | raise e => raise e
  | read next => read fun t => (next (part t)).zoom part put
  | write f next => write (fun t => put (f (part t)) t) (next.zoom part put)

/-- A part is what was written to it, and writing it back changes nothing. -/
structure IsPart (part : τ → σ) (put : σ → τ → τ) : Prop where
  part_put : ∀ s t, part (put s t) = s
  put_part : ∀ t, put (part t) t = t
  put_put : ∀ s s' t, put s (put s' t) = put s t

theorem run_zoom {part : τ → σ} {put : σ → τ → τ} (h : IsPart part put) (p : Program σ ε α)
    (t : τ) : (p.zoom part put).run t = ((p.run (part t)).1, put (p.run (part t)).2 t) := by
  induction p generalizing t with
  | ret a =>
    rw [zoom, run, run, h.put_part]
  | raise e =>
    rw [zoom, run, run, h.put_part]
  | read next ih => exact ih (part t) t
  | write f next ih =>
    rw [zoom, run, ih, h.part_put, h.put_put]
    rfl

/-! ## Calls that fail -/

/-- A call of the storage; the fault says whether it fails before or after it is carried out, and
`raised` how the caller sees the error. -/
def faulty (raised : ε' → ε) (fault : Option (Fault ε')) (p : Program σ ε α) : Program σ ε α :=
  match fault with
  | none => p
  | some (.before e) => raise (raised e)
  | some (.after e) => p >>= fun _ => raise (raised e)

variable {raised : ε' → ε} {fault : Option (Fault ε')} {p : Program σ ε α} {s : σ}

theorem run_faulty_state (raised : ε' → ε) (fault : Option (Fault ε')) (p : Program σ ε α) (s : σ) :
    ((faulty raised fault p).run s).2 = s ∨ ((faulty raised fault p).run s).2 = (p.run s).2 := by
  unfold faulty
  split
  · exact Or.inr rfl
  · exact Or.inl rfl
  · right
    rw [run_bind]
    cases hrun : p.run s with
    | mk answer s' =>
      cases answer with
      | ok a => rfl
      | error e => rfl

theorem run_faulty_ok {a : α} {s' : σ} (h : (faulty raised fault p).run s = (.ok a, s')) :
    fault = none ∧ p.run s = (.ok a, s') := by
  unfold faulty at h
  split at h
  · exact ⟨rfl, h⟩
  · cases h
  · rw [run_bind] at h
    cases hrun : p.run s with
    | mk answer s'' =>
      rw [hrun] at h
      cases answer with
      | ok a' => cases h
      | error e => cases h

/-! ## Success -/

theorem run_mapError (f : ε → ε') (p : Program σ ε α) (s : σ) :
    (p.mapError f).run s = ((p.run s).1.mapError f, (p.run s).2) := by
  unfold mapError
  induction p generalizing s with
  | ret a => rfl
  | raise e => rfl
  | read next ih => exact ih s s
  | write g next ih => exact ih (g s)

/-- The run has an answer. -/
def Succeeds (p : Program σ ε α) (s : σ) : Prop := ∃ a, (p.run s).1 = .ok a

theorem succeeds_pure (a : α) (s : σ) : Succeeds (pure a : Program σ ε α) s := ⟨a, rfl⟩

theorem succeeds_bind {f : α → Program σ ε β} :
    Succeeds (p >>= f) s ↔ ∃ a, (p.run s).1 = .ok a ∧ Succeeds (f a) (p.run s).2 := by
  unfold Succeeds
  rw [run_bind]
  cases hrun : p.run s with
  | mk answer s' =>
    cases answer with
    | ok a => simp
    | error e => simp

theorem succeeds_step {f : α → Program σ ε β} {P R : Prop} (hp : Succeeds p s ↔ P)
    (hf : ∀ a s, Succeeds (f a) s ↔ R) : Succeeds (p >>= f) s ↔ P ∧ R := by
  rw [succeeds_bind, ← hp]
  constructor
  · rintro ⟨a, ha, hrest⟩
    exact ⟨⟨a, ha⟩, (hf a _).mp hrest⟩
  · rintro ⟨⟨a, ha⟩, hrest⟩
    exact ⟨a, ha, (hf a _).mpr hrest⟩

theorem succeeds_mapError {f : ε → ε'} : Succeeds (p.mapError f) s ↔ Succeeds p s := by
  unfold Succeeds
  rw [run_mapError]
  cases (p.run s).1 with
  | ok a => simp [Atomic.mapError_ok]
  | error e => simp [Atomic.mapError_error]

theorem succeeds_zoom {part : τ → σ} {put : σ → τ → τ} (h : IsPart part put) {t : τ} :
    Succeeds (p.zoom part put) t ↔ Succeeds p (part t) := by
  unfold Succeeds
  rw [run_zoom h]

theorem succeeds_faulty : Succeeds (faulty raised fault p) s ↔ fault = none ∧ Succeeds p s := by
  constructor
  · rintro ⟨a, ha⟩
    obtain ⟨hfault, hrun⟩ := @run_faulty_ok _ _ _ _ raised fault p s _
      ((faulty raised fault p).run s).2 (Prod.ext ha rfl)
    exact ⟨hfault, a, by rw [hrun]⟩
  · rintro ⟨rfl, h⟩
    exact h

end Interrupt.Program
