import Mathlib.Order.Lattice

/-!
# Work under fenced leases

The abstract machine behind a queue whose workers may die: one piece of work waits, is taken
under a lease (a holder, a token drawn for this lease, an expiry), may be extended by that
holder, and is closed by it. A lease that lapses is recovered: the work waits again, or is
closed when it was asked to stop or has been tried too often.

What a whole history owes to the steps:

* **versions** — every step is a new version (`Step.version_succ`).
* **fencing** — a token that was lost stays lost (`Spent.step`).
* **stopping** — once asked to stop, the work never waits to be taken again (`Halting.step`).
* **bounded retry** — with one limit the work is taken at most that often (`Bounded.step`).
-/

namespace FencedLease

/-- Where the work stands. -/
inductive Phase (H T τ O : Type*) where
  | waiting
  /-- In progress without a lease, so never recovered. -/
  | unleased
  | held (holder : H) (token : T) (expires : τ)
  | closed (outcome : O)

/-- The work with its stop request, the leases taken so far and its version. -/
structure State (H T τ O : Type*) where
  phase : Phase H T τ O
  stopping : Bool
  attempts : Nat
  version : Nat

/-- What is asked of the work. -/
inductive Action (H T τ O : Type*) where
  | start
  | acquire (holder : H) (token : T)
  | extend (holder : H) (token : T) (now : τ)
  | stop
  | recover (now : τ) (limit : Nat)
  | close (credential : Option (H × T)) (now : τ) (outcome : O)

variable {H T τ O : Type*} [LinearOrder τ]

/-- The steps that take effect. A request whose guard fails changes nothing and has no step. -/
inductive Step : State H T τ O → Action H T τ O → State H T τ O → Prop where
  | start {s} (hw : s.phase = .waiting) (hs : s.stopping = false) :
      Step s .start { s with phase := .unleased, version := s.version + 1 }
  | acquire {s} (h : H) (t : T) (e : τ) (hw : s.phase = .waiting) (hs : s.stopping = false) :
      Step s (.acquire h t)
        { s with phase := .held h t e, attempts := s.attempts + 1, version := s.version + 1 }
  | extend {s} {h : H} {t : T} {e now : τ} (e' : τ) (hh : s.phase = .held h t e) (he : now < e) :
      Step s (.extend h t now) { s with phase := .held h t e', version := s.version + 1 }
  | stopWaiting {s} (o : O) (hw : s.phase = .waiting) :
      Step s .stop { s with phase := .closed o, stopping := true, version := s.version + 1 }
  | stopUnleased {s} (hu : s.phase = .unleased) :
      Step s .stop { s with stopping := true, version := s.version + 1 }
  | stopHeld {s} {h : H} {t : T} {e : τ} (hh : s.phase = .held h t e) :
      Step s .stop { s with stopping := true, version := s.version + 1 }
  | recoverStopped {s} {h : H} {t : T} {e now : τ} {limit : Nat} (o : O)
      (hh : s.phase = .held h t e) (he : e ≤ now) (hs : s.stopping = true) :
      Step s (.recover now limit) { s with phase := .closed o, version := s.version + 1 }
  | recoverExhausted {s} {h : H} {t : T} {e now : τ} {limit : Nat} (o : O)
      (hh : s.phase = .held h t e) (he : e ≤ now) (hs : s.stopping = false)
      (hl : limit ≤ s.attempts) :
      Step s (.recover now limit) { s with phase := .closed o, version := s.version + 1 }
  | recoverRetry {s} {h : H} {t : T} {e now : τ} {limit : Nat}
      (hh : s.phase = .held h t e) (he : e ≤ now) (hs : s.stopping = false)
      (hl : s.attempts < limit) :
      Step s (.recover now limit) { s with phase := .waiting, version := s.version + 1 }
  | closeHeld {s} {h : H} {t : T} {e now : τ} (o : O) (hh : s.phase = .held h t e)
      (he : now < e) :
      Step s (.close (some (h, t)) now o) { s with phase := .closed o, version := s.version + 1 }
  | closeUnleased {s} {now : τ} (o : O) (hu : s.phase = .unleased) :
      Step s (.close none now o) { s with phase := .closed o, version := s.version + 1 }

variable {s s' : State H T τ O} {a : Action H T τ O}

/-! ## Versions -/

theorem Step.version_succ (h : Step s a s') : s'.version = s.version + 1 := by
  cases h <;> rfl

/-! ## Fencing -/

/-- No lease in force carries the token `t`. -/
def Spent (t : T) (s : State H T τ O) : Prop := ∀ h e, s.phase ≠ .held h t e

theorem Spent.step {t : T} (hsp : Spent t s) (h : Step s a s')
    (hfresh : ∀ holder, a ≠ .acquire holder t) : Spent t s' := by
  intro holder e hc
  cases h with
  | acquire h' t' e' hw hs =>
    have ht : t' = t := by
      have := Phase.held.inj hc
      exact this.2.1
    exact hfresh h' (by rw [ht])
  | extend e' hh he =>
    have ht := (Phase.held.inj hc).2.1
    exact hsp _ _ (ht ▸ hh)
  | stopUnleased hu => exact hsp _ _ hc
  | stopHeld hh => exact hsp _ _ hc
  | _ => simp at hc

/-! ## Stopping -/

/-- Asked to stop, and not waiting to be taken. -/
def Halting (s : State H T τ O) : Prop := s.stopping = true ∧ s.phase ≠ .waiting

theorem Halting.step (hh : Halting s) (h : Step s a s') : Halting s' := by
  obtain ⟨hstop, hwait⟩ := hh
  cases h with
  | start hw hs => exact absurd hw hwait
  | acquire h t e hw hs => exact absurd hw hwait
  | stopWaiting o hw => exact absurd hw hwait
  | stopUnleased hu => exact ⟨rfl, hwait⟩
  | stopHeld hl => exact ⟨rfl, hwait⟩
  | recoverRetry hl he hs hlt => rw [hstop] at hs; simp at hs
  | _ => exact ⟨hstop, by simp⟩

/-! ## Bounded retry -/

/-- The leases taken so far leave room for another where the work is waiting. -/
def Bounded (limit : Nat) (s : State H T τ O) : Prop :=
  s.attempts ≤ limit ∧ (s.phase = .waiting → s.attempts < limit)

theorem Bounded.step {limit : Nat} (hb : Bounded limit s) (h : Step s a s')
    (hl : ∀ now l, a = .recover now l → l = limit) : Bounded limit s' := by
  obtain ⟨hle, hwait⟩ := hb
  cases h with
  | acquire h t e hw hs =>
    have := hwait hw
    exact ⟨this, by simp⟩
  | stopUnleased hu => exact ⟨hle, hwait⟩
  | stopHeld hh => exact ⟨hle, hwait⟩
  | recoverRetry hh he hs hlt =>
    have hlim := hl _ _ rfl
    exact ⟨hle, fun _ => by rw [← hlim]; exact hlt⟩
  | _ => exact ⟨hle, by simp⟩

end FencedLease
