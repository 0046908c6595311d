import Mathlib.Logic.Basic

/-!
# Transactions with a continuation after the commit

A call on a database opens a transaction, reads and writes, commits, and then goes on to build
its answer from what it read. An exception before the commit rolls everything back; one after
it reaches the caller although the writes are kept. `transaction` keeps the two apart.

The connection can fail as well, before the commit reached the database or after it
(`Fault`). `attempt` is the call as a caller sees it through such a connection: an answer is
always the answer of the call, while an error says nothing about what was committed.
-/

namespace Atomic

section

variable {ε α β : Type} {x : Except ε α} {next : α → Except ε β}

/-- What succeeds has succeeded step by step. -/
theorem bind_ok {b : β} (h : (x >>= next) = .ok b) : ∃ a, x = .ok a ∧ next a = .ok b := by
  cases x with
  | error e => cases h
  | ok a => exact ⟨a, rfl, h⟩

theorem bind_ok_iff {b : β} :
    (x >>= next) = .ok b ↔ ∃ a, x = .ok a ∧ next a = .ok b := by
  refine ⟨bind_ok, ?_⟩
  rintro ⟨a, rfl, h⟩
  exact h

theorem ok_bind (a : α) (next : α → Except ε β) : (Except.ok a >>= next) = next a :=
  rfl

theorem map_ok_iff {f : α → β} {b : β} :
    x.map f = .ok b ↔ ∃ a, x = .ok a ∧ f a = b := by
  cases x with
  | error e =>
    constructor
    · rintro ⟨⟩
    · rintro ⟨a, ⟨⟩, -⟩
  | ok a =>
    constructor
    · rintro ⟨⟩
      exact ⟨a, rfl, rfl⟩
    · rintro ⟨a', ⟨⟩, rfl⟩
      rfl

theorem exists_bind_ok :
    (∃ b, (x >>= next) = .ok b) ↔ ∃ a, x = .ok a ∧ ∃ b, next a = .ok b := by
  simp only [bind_ok_iff]
  exact ⟨fun ⟨b, a, ha, hb⟩ => ⟨a, ha, b, hb⟩, fun ⟨a, ha, b, hb⟩ => ⟨b, a, ha, hb⟩⟩

theorem bind_error_iff {e : ε} :
    (x >>= next) = .error e ↔ x = .error e ∨ ∃ a, x = .ok a ∧ next a = .error e := by
  cases x with
  | error e' => simp [bind, Except.bind]
  | ok a => simp [bind, Except.bind]

variable {ε' : Type} {f : ε → ε'}

theorem mapError_ok {a : α} :
    (Except.ok a : Except ε α).mapError f = .ok a := rfl

theorem mapError_error {e : ε} :
    (Except.error e : Except ε α).mapError f = .error (f e) := rfl

theorem mapError_ok_iff {a : α} :
    x.mapError f = .ok a ↔ x = .ok a := by
  cases x with
  | error e => simp [mapError_error]
  | ok b => simp [mapError_ok]

end

variable {σ ε α β : Type*}

theorem exists_ok_of_isOk {x : Except ε α} (h : x.isOk = true) : ∃ a, x = .ok a := by
  cases x with
  | error e => cases h
  | ok a => exact ⟨a, rfl⟩

/--
`body` runs inside the transaction and `finish` after its commit.

The second component of the answer is the committed state.
-/
def transaction (body : σ → Except ε (β × σ)) (finish : β → σ → Except ε α) (s : σ) :
    Except ε α × σ :=
  match body s with
  | .error e => (.error e, s)
  | .ok (b, s') => (finish b s', s')

variable (body : σ → Except ε (β × σ)) (finish : β → σ → Except ε α) {s : σ}

theorem transaction_of_ok {b : β} {s' : σ} (h : body s = .ok (b, s')) :
    transaction body finish s = (finish b s', s') := by
  simp [transaction, h]

theorem transaction_of_error {e : ε} (h : body s = .error e) :
    transaction body finish s = (.error e, s) := by
  simp [transaction, h]

theorem transaction_state (s : σ) :
    (transaction body finish s).2 = s ∨
      ∃ b, body s = .ok (b, (transaction body finish s).2) := by
  cases h : body s with
  | error e => exact Or.inl (by rw [transaction_of_error _ _ h])
  | ok p => exact Or.inr ⟨p.1, by rw [transaction_of_ok _ _ h]⟩

variable {body finish} in
theorem transaction_keeps {P : σ → Prop} (hs : P s) (h : ∀ b s', body s = .ok (b, s') → P s') :
    P (transaction body finish s).2 := by
  rcases transaction_state body finish s with hsame | ⟨b, hb⟩
  · rw [hsame]
    exact hs
  · exact h b _ hb

theorem transaction_answer {a : α} (h : (transaction body finish s).1 = .ok a) :
    ∃ b, body s = .ok (b, (transaction body finish s).2) ∧
      finish b (transaction body finish s).2 = .ok a := by
  cases hb : body s with
  | error e => rw [transaction_of_error _ _ hb] at h; simp at h
  | ok p =>
    rw [transaction_of_ok _ _ hb] at h ⊢
    exact ⟨p.1, rfl, h⟩

/-! ## Faults of the connection -/

/-- Where the connection fails, and what the caller sees raised. -/
inductive Fault (ε : Type*) where
  | before (e : ε)
  | after (e : ε)
  deriving DecidableEq

variable {ε' : Type*}

/-- A call through a connection that fails as the fault says; its own errors are wrapped. -/
def attempt (wrap : ε → ε') (fault : Option (Fault ε')) (call : σ → Except ε α × σ) (s : σ) :
    Except ε' α × σ :=
  match fault with
  | none => ((call s).1.mapError wrap, (call s).2)
  | some (.before e) => (.error e, s)
  | some (.after e) => (.error e, (call s).2)

variable {wrap : ε → ε'} {fault : Option (Fault ε')} {call : σ → Except ε α × σ}

theorem attempt_state (wrap : ε → ε') (fault : Option (Fault ε')) (call : σ → Except ε α × σ)
    (s : σ) : (attempt wrap fault call s).2 = s ∨ (attempt wrap fault call s).2 = (call s).2 := by
  unfold attempt
  split
  · exact Or.inr rfl
  · exact Or.inl rfl
  · exact Or.inr rfl

theorem attempt_answer {a : α} (h : (attempt wrap fault call s).1 = .ok a) :
    (call s).1 = .ok a ∧ (attempt wrap fault call s).2 = (call s).2 := by
  unfold attempt at h ⊢
  split at h
  · cases hc : (call s).1 with
    | error e =>
      rw [hc] at h
      cases h
    | ok b =>
      rw [hc] at h
      cases h
      exact ⟨rfl, rfl⟩
  · cases h
  · cases h

end Atomic
