import Mathlib.Data.List.MinMax
import WebGuard.Callbacks.Brokers
import WebGuard.Lib.Run

/-!
# What the callback brokers accept, and how they classify it

The broker in memory counts the observations of a token; the function that records them in
PostgreSQL does not. The wait in memory classifies an observation by the time of the poll that
finds it, the one on PostgreSQL by the time of the observation itself.
-/

namespace WebGuard

open Runs CallbackDesk PostgresCallbackRegistrationRepository List AList

variable {ρ : Type} [Seconds ρ] {W : Type} [DecidableEq W]

/-! ## What is asked of a run -/

/-- The call is an accepted observation of the token. -/
def acceptedFor (tokenValue : String) : CallbackCall ρ W → CallbackAnswer Unit → Bool
  | .observe token .., .observed true => token == tokenValue
  | _, _ => false

/--
At most `limit` observations of a token are accepted, and each of them while its registration is
neither expired nor revoked: `registration` is the registrations before the run.
-/
structure BoundedUse (limit : Nat) (registration : String → Option ScopedCallbackRegistration)
    (calls : List (CallbackCall ρ W)) (answers : List (CallbackAnswer Unit)) : Prop where
  bounded : ∀ tokenValue,
    (calls.zip answers).countP (fun p => acceptedFor tokenValue p.1 p.2) ≤ limit
  timely : ∀ (k : Nat) tokenValue method sourceClass now,
    calls[k]? = some (.observe tokenValue method sourceClass now) →
    answers[k]? = some (.observed true) →
    ∃ r, registration tokenValue = some r ∧ now < r.expiresAt ∧
      ∀ j < k, ∀ moment, calls[j]? ≠ some (.revoke tokenValue r.organizationId moment)

/-- A call with its answer classified. -/
def classified {σ : Type} (call : σ → CallbackCall ρ W → CallbackAnswer CallbackObservation × σ)
    (d : σ) (c : CallbackCall ρ W) : CallbackAnswer Unit × σ :=
  ((call d c).1.classification, (call d c).2)

/-- The brokers after both have registered the same tokens, under one quota and one lifetime. -/
inductive Issued : CallbackRepository ρ → PostgresCallbackBroker ρ → Prop where
  | new (baseUrl baseUrl' : String) {policy policy' : CallbackPolicy ρ}
    (hquota : policy.maximumObservationsPerToken = policy'.maximumObservationsPerToken)
    (httl : policy.tokenTtlSeconds = policy'.tokenTtlSeconds) :
    Issued (.new baseUrl policy) (.new baseUrl' policy')
  | register {m m' : CallbackRepository ρ} {p p' : PostgresCallbackBroker ρ}
    {token token' : CallbackToken} (request : CallbackRequest) (now : Nat) (h : Issued m p)
    (hm : m.register request now = .ok (token, m'))
    (hp : p.register request now = .ok (token', p')) : Issued m' p'

/-- When the first of the observations was made. -/
def earliestObserved (rows : List CallbackObservation) : Option Nat :=
  (rows.map (·.observedAt)).min?

/--
A live token is observed only below its quota; a poll that finds an observation does so on the side
of the primary deadline that the earliest observation was made on, before the end of the grace
period.
-/
def Agreeable (p : CallbackDesk (PostgresCallbackBroker ρ) (PostgresCallbackBroker.Wait ρ) W) :
    CallbackCall ρ W → Prop
  | .observe tokenValue _ _ now =>
    ∀ row ∈ p.broker.repository.registration tokenValue, row.revokedAt = none →
      now < row.expiresAt →
      (p.broker.repository.observed tokenValue).length < p.broker.policy.maximumObservationsPerToken
  | .poll waiter cancelled monotonic =>
    ∀ w ∈ p.waits waiter, cancelled = false →
      ∀ time ∈ earliestObserved (p.broker.repository.observed w.tokenValue),
        time ≤ w.graceEvidenceDeadline ∧
          (Seconds.le monotonic w.deadlinePrimary = true ↔ time ≤ w.primaryEvidenceDeadline)
  | .revoke .. => True
  | .wait .. => True

/-! ## The two states side by side -/

/-- Both brokers hold the same registrations and observations. -/
structure SameTokens (m : CallbackRepository ρ) (p : PostgresCallbackBroker ρ) : Prop where
  quota : m.policy.maximumObservationsPerToken = p.policy.maximumObservationsPerToken
  ttl : m.policy.tokenTtlSeconds = p.policy.tokenTtlSeconds
  registrations : ∀ tokenValue,
    m.registrations.lookup tokenValue = p.repository.registration tokenValue
  expiry : ∀ tokenValue, (m.broker.tokens.lookup tokenValue).map (·.expiresAt)
    = (p.repository.registration tokenValue).map (·.expiresAt)
  observed : ∀ tokenValue, m.broker.observed tokenValue = p.repository.observed tokenValue

variable {m m' : CallbackRepository ρ} {p p' : PostgresCallbackBroker ρ}

theorem InMemoryCallbackBroker.observed_insert (b : InMemoryCallbackBroker) (t t' : String)
    (rows : List CallbackObservation) :
    (({ b with observations := b.observations.insert t rows } : InMemoryCallbackBroker).observed t')
      = if t' = t then rows else b.observed t' := by
  unfold observed
  split
  · next h => rw [h, lookup_insert, Option.getD_some]
  · next h => rw [lookup_insert_ne h]

theorem SameTokens.register (h : SameTokens m p) {request : CallbackRequest} {now : Nat}
    {token token' : CallbackToken} (hm : m.register request now = .ok (token, m'))
    (hp : p.register request now = .ok (token', p'))
    (hunobserved : ∀ tokenValue, m.broker.observed tokenValue = []) :
    SameTokens m' p' ∧ ∀ tokenValue, m'.broker.observed tokenValue = [] := by
  simp only [CallbackRepository.register, InMemoryCallbackBroker.register] at hm
  simp only [PostgresCallbackBroker.register, PostgresCallbackRegistrationRepository.register] at hp
  split at hm
  · cases hm
  next broker hbroker =>
  split at hbroker
  · cases hbroker
  cases hbroker
  cases hm
  split at hp
  · cases hp
  split at hp
  · cases hp
  next table hinsert =>
  cases hp
  have hlookup : ∀ t, table.get? (·.tokenValue) t = if t = request.drawn then
      some (request.registration now (now + Seconds.timedelta p.policy.tokenTtlSeconds))
      else p.repository.registration t := by
    intro t
    exact Relational.Table.get?_insert hinsert (by simp)
  have hempty : ∀ t, InMemoryCallbackBroker.observed
      { m.broker with
        tokens := m.broker.tokens.insert request.drawn
          (request.token m.broker.baseUrl (now + Seconds.timedelta m.policy.tokenTtlSeconds))
        observations := m.broker.observations.insert request.drawn [] } t = [] := by
    intro t
    refine (InMemoryCallbackBroker.observed_insert m.broker request.drawn t []).trans ?_
    rw [hunobserved, ite_self]
  refine ⟨⟨h.quota, h.ttl, fun t => ?_, fun t => ?_, fun t => ?_⟩, hempty⟩
  · refine Eq.trans ?_ (hlookup t).symm
    rw [← h.ttl]
    split
    · next ht =>
      rw [ht]
      exact lookup_insert _
    · next ht =>
      rw [← h.registrations]
      exact lookup_insert_ne ht
  · refine Eq.trans ?_ (congrArg (Option.map (·.expiresAt)) (hlookup t).symm)
    rw [← h.ttl]
    split
    · next ht =>
      rw [ht, lookup_insert]
      rfl
    · next ht =>
      rw [lookup_insert_ne ht]
      exact h.expiry t
  · rw [hempty, ← hunobserved t]
    exact h.observed t

theorem Issued.sameTokens (h : Issued m p) :
    SameTokens m p ∧ ∀ tokenValue, m.broker.observed tokenValue = [] := by
  induction h with
  | new baseUrl baseUrl' hquota httl =>
    exact ⟨⟨hquota, httl, fun _ => rfl, fun _ => rfl, fun _ => rfl⟩, fun _ => rfl⟩
  | register request now _ hm hp ih => exact ih.1.register hm hp ih.2

/-! ## Observations -/

theorem CallbackRepository.recordObservation_eq (h : SameTokens m p)
    (tokenValue method sourceClass : String) (now : Nat) :
    m.recordObservation tokenValue method sourceClass now
      = match p.repository.registration tokenValue with
        | none => (false, m)
        | some row =>
          if row.revokedAt.isSome ∨ row.expiresAt ≤ now
            ∨ p.policy.maximumObservationsPerToken ≤ (p.repository.observed tokenValue).length
          then (false, m)
          else
            (true, { m with
              broker.observations := m.broker.observations.insert tokenValue
                (m.broker.observed tokenValue ++ [⟨tokenValue, now, method, sourceClass⟩]) }) := by
  have hexpiry := h.expiry tokenValue
  unfold recordObservation InMemoryCallbackBroker.recordObservation
  rw [h.registrations, ← h.quota, ← h.observed]
  cases hrow : p.repository.registration tokenValue with
  | none =>
    rw [hrow, Option.map_none, Option.map_eq_none_iff] at hexpiry
    simp [hexpiry]
  | some row =>
    rw [hrow, Option.map_some, Option.map_eq_some_iff] at hexpiry
    obtain ⟨token, htoken, hsame⟩ := hexpiry
    simp only [htoken, hsame, Option.any_some]
    by_cases hrevoked : row.revokedAt.isSome = true
    · simp [hrevoked]
    by_cases hexpired : row.expiresAt ≤ now
    · simp [hexpired]
    by_cases hfull : m.policy.maximumObservationsPerToken ≤ (m.broker.observed tokenValue).length
    · simp [hfull]
    simp [hrevoked, hexpired, hfull]

theorem PostgresCallbackBroker.recordObservation_eq (tokenValue method sourceClass : String)
    (now : Nat) :
    p.recordObservation tokenValue method sourceClass now
      = match p.repository.registration tokenValue with
        | none => (false, p)
        | some row =>
          if row.revokedAt.isSome ∨ row.expiresAt ≤ now then (false, p)
          else
            (true, { p with
              repository.observations :=
                p.repository.observations ++ [⟨tokenValue, now, method, sourceClass⟩] }) := by
  unfold recordObservation PostgresCallbackRegistrationRepository.recordObservation
  cases p.repository.registration tokenValue with
  | none => rfl
  | some row => simp only [Bool.or_eq_true, decide_eq_true_eq]; split <;> rfl

theorem SameTokens.recorded (h : SameTokens m p) (tokenValue method sourceClass : String)
    (now : Nat) :
    SameTokens
      { m with
        broker.observations := m.broker.observations.insert tokenValue
          (m.broker.observed tokenValue ++ [⟨tokenValue, now, method, sourceClass⟩]) }
      { p with
        repository.observations :=
          p.repository.observations ++ [⟨tokenValue, now, method, sourceClass⟩] } := by
  refine ⟨h.quota, h.ttl, h.registrations, h.expiry, fun t => ?_⟩
  refine (InMemoryCallbackBroker.observed_insert m.broker tokenValue t _).trans ?_
  simp only [PostgresCallbackRegistrationRepository.observed, filter_append,
    filter_singleton]
  by_cases ht : t = tokenValue
  · subst ht
    simp only [if_true, decide_true, cond_true]
    exact congrArg (· ++ _) (h.observed t)
  · simp only [if_neg ht, Ne.symm ht, decide_false, cond_false, append_nil]
    exact h.observed t

theorem SameTokens.observe (h : SameTokens m p) (tokenValue method sourceClass : String)
    (now : Nat) :
    ((m.recordObservation tokenValue method sourceClass now).1
        = (p.recordObservation tokenValue method sourceClass now).1 ↔
      ∀ row ∈ p.repository.registration tokenValue, row.revokedAt = none → now < row.expiresAt →
        (p.repository.observed tokenValue).length < p.policy.maximumObservationsPerToken) ∧
    ((m.recordObservation tokenValue method sourceClass now).1
        = (p.recordObservation tokenValue method sourceClass now).1 →
      SameTokens (m.recordObservation tokenValue method sourceClass now).2
        (p.recordObservation tokenValue method sourceClass now).2) := by
  rw [CallbackRepository.recordObservation_eq h, PostgresCallbackBroker.recordObservation_eq]
  cases p.repository.registration tokenValue with
  | none => exact ⟨iff_of_true rfl nofun, fun _ => h⟩
  | some row =>
    by_cases hdead : row.revokedAt.isSome = true ∨ row.expiresAt ≤ now
    · have hdead' : row.revokedAt.isSome = true ∨ row.expiresAt ≤ now
          ∨ p.policy.maximumObservationsPerToken ≤ (p.repository.observed tokenValue).length :=
        hdead.imp_right Or.inl
      simp only [if_pos hdead, if_pos hdead']
      refine ⟨iff_of_true trivial ?_, fun _ => h⟩
      rintro _ ⟨rfl⟩ hunrevoked hunexpired
      obtain hrevoked | hexpired := hdead
      · rw [hunrevoked] at hrevoked
        cases hrevoked
      · omega
    · have hlive : row.revokedAt = none ∧ now < row.expiresAt := by simpa using hdead
      simp only [if_neg hdead]
      by_cases hfull : p.policy.maximumObservationsPerToken
          ≤ (p.repository.observed tokenValue).length
      · simp only [if_pos (Or.inr (Or.inr hfull)), reduceCtorEq, false_iff, false_implies, and_true]
        intro hquota
        have hroom := hquota row rfl hlive.1 hlive.2
        omega
      · have hopen : ¬ (row.revokedAt.isSome = true ∨ row.expiresAt ≤ now
            ∨ p.policy.maximumObservationsPerToken ≤ (p.repository.observed tokenValue).length) := by
          rintro (hrevoked | hexpired | hover)
          · exact hdead (Or.inl hrevoked)
          · exact hdead (Or.inr hexpired)
          · exact hfull hover
        simp only [if_neg hopen]
        exact ⟨iff_of_true trivial fun _ _ _ _ => by omega,
          fun _ => h.recorded tokenValue method sourceClass now⟩

/-! ## Revocations -/

theorem filter_eq_ite {α : Type} (o : Option α) (q : α → Prop) [DecidablePred q] :
    o.filter (fun a => q a) = match o with
      | none => none
      | some a => if q a then some a else none := by
  cases o <;> simp [Option.filter]

variable {tokenValue : String}

theorem registration_revoked {r : PostgresCallbackRegistrationRepository}
    {row : ScopedCallbackRegistration} (hrow : r.registration tokenValue = some row) (now : Nat)
    (t : String) :
    (r.registrations.update ScopedCallbackRegistration.tokenValue tokenValue
        (·.organizationId == row.organizationId) (revokedRow now) (revokedRow_keeps now)).1.get?
        ScopedCallbackRegistration.tokenValue t
      = if t = tokenValue then some (revokedRow now row) else r.registration t := by
  have hget : r.registrations.get? ScopedCallbackRegistration.tokenValue tokenValue = some row :=
    hrow
  rw [Relational.Table.get?_update_self (by simp), hget]
  simp [registration]

theorem SameTokens.revoke (h : SameTokens m p) (tokenValue organizationId : String) (now : Nat) :
    (m.revokeRegistration tokenValue organizationId now).1
        = (p.revokeRegistration tokenValue organizationId now).1 ∧
    SameTokens (m.revokeRegistration tokenValue organizationId now).2
      (p.revokeRegistration tokenValue organizationId now).2 := by
  unfold CallbackRepository.revokeRegistration PostgresCallbackBroker.revokeRegistration
    PostgresCallbackRegistrationRepository.revokeRegistration
  rw [h.registrations, filter_eq_ite]
  cases hrow : p.repository.registration tokenValue with
  | none => exact ⟨rfl, h⟩
  | some row =>
    by_cases horganization : row.organizationId = organizationId
    · subst horganization
      simp only [ne_eq, not_true_eq_false, if_true, if_false]
      have hafter := registration_revoked hrow now
      have hexpiry : ∀ t, (if t = tokenValue then some (revokedRow now row)
          else p.repository.registration t).map (·.expiresAt)
          = (p.repository.registration t).map (·.expiresAt) := by
        intro t
        split
        · next ht =>
          rw [ht, hrow]
          rfl
        · rfl
      by_cases hrevoked : row.revokedAt.isSome = true
      · -- The second revocation changes nothing.
        obtain ⟨moment, hmoment⟩ := Option.isSome_iff_exists.mp hrevoked
        have hsame : revokedRow now row = row := by
          unfold revokedRow
          rw [hmoment, Option.getD_some, ← hmoment]
        rw [if_pos hrevoked]
        refine ⟨by rw [hsame], h.quota, h.ttl, fun t => ?_, fun t => ?_, h.observed⟩
        · refine (h.registrations t).trans (Eq.trans ?_ (hafter t).symm)
          split
          · next ht => rw [ht, hrow, hsame]
          · rfl
        · exact (h.expiry t).trans
            ((hexpiry t).symm.trans (congrArg (Option.map (·.expiresAt)) (hafter t).symm))
      · have hnow : { row with revokedAt := some now } = revokedRow now row := by
          unfold revokedRow
          rw [Option.not_isSome_iff_eq_none.mp hrevoked, Option.getD_none]
        rw [if_neg hrevoked]
        refine ⟨congrArg Except.ok hnow, h.quota, h.ttl, fun t => ?_, fun t => ?_, h.observed⟩
        · refine Eq.trans ?_ (hafter t).symm
          rw [← hnow, ← h.registrations]
          split
          · next ht =>
            rw [ht]
            exact lookup_insert _
          · next ht => exact lookup_insert_ne ht
        · exact (h.expiry t).trans
            ((hexpiry t).symm.trans (congrArg (Option.map (·.expiresAt)) (hafter t).symm))
    · simp only [horganization, ne_eq, not_false_eq_true, if_true, if_false]
      exact ⟨trivial, h⟩

/-! ## Waits -/

theorem SameTokens.getRegistration (h : SameTokens m p) (tokenValue organizationId : String) :
    m.getRegistration tokenValue organizationId
      = p.repository.getRegistration tokenValue organizationId := by
  unfold CallbackRepository.getRegistration PostgresCallbackRegistrationRepository.getRegistration
  rw [h.registrations, filter_eq_ite]
  cases p.repository.registration tokenValue with
  | none => rfl
  | some row =>
    by_cases horganization : row.organizationId = organizationId
    · simp [horganization]
    · simp [horganization]

theorem SameTokens.startWait (h : SameTokens m p) (token : CallbackToken) (organizationId : String)
    (policy : CallbackPolicy ρ) (now : Nat) (monotonic : ρ) :
    m.startWait token organizationId policy monotonic
      = (p.startWait token organizationId policy now monotonic).map (·.toWait) := by
  unfold CallbackRepository.startWait PostgresCallbackBroker.startWait
  rw [h.getRegistration]
  cases p.repository.getRegistration token.value organizationId <;> rfl

theorem EarliestRow.pick_eq (order : EarliestRow) (rows : List CallbackObservation) :
    (order.pick rows).map (·.observedAt) = earliestObserved rows := by
  unfold earliestObserved
  cases hpick : order.pick rows with
  | none =>
    have hnil : rows = [] := by
      by_contra hne
      have hsome := order.isSome_pick rows hne
      rw [hpick] at hsome
      cases hsome
    rw [hnil]
    rfl
  | some row =>
    refine (min?_eq_some_iff.mpr ⟨?_, fun b hb => ?_⟩).symm
    · exact mem_map_of_mem (order.mem_of_pick rows row hpick)
    · obtain ⟨other, hother, rfl⟩ := mem_map.mp hb
      exact order.pick_le rows row hpick other hother

theorem SameTokens.poll (h : SameTokens m p) (order : EarliestRow)
    (w : PostgresCallbackBroker.Wait ρ) (cancelled : Bool) (monotonic : ρ) :
    (m.broker.poll w.toWait cancelled monotonic).map (·.map fun _ => ())
        = (p.poll order w cancelled monotonic).map (·.map fun _ => ()) ↔
      (cancelled = false →
        ∀ time ∈ earliestObserved (p.repository.observed w.tokenValue),
          time ≤ w.graceEvidenceDeadline ∧
            (Seconds.le monotonic w.deadlinePrimary = true ↔
              time ≤ w.primaryEvidenceDeadline)) := by
  unfold InMemoryCallbackBroker.poll PostgresCallbackBroker.poll
  rw [h.observed, ← order.pick_eq]
  cases cancelled with
  | true => simp
  | false =>
    cases hrows : p.repository.observed w.tokenValue with
    | nil => simp [order.pick_nil]
    | cons first rest =>
      obtain ⟨found, hfound⟩ := Option.isSome_iff_exists.mp
        (order.isSome_pick (first :: rest) (cons_ne_nil _ _))
      simp only [hfound, Option.map_some, Option.mem_some_iff, forall_eq',
        Bool.false_eq_true, if_false, true_implies]
      by_cases hgrace : w.graceEvidenceDeadline < found.observedAt
      · have hlate : ¬ found.observedAt ≤ w.graceEvidenceDeadline := by omega
        simp [hgrace, hlate, WaitOutcome.map, WaitOutcome.nothing]
      · have hintime : found.observedAt ≤ w.graceEvidenceDeadline := by omega
        have hflags : (Seconds.le monotonic w.deadlinePrimary
              = decide (found.observedAt ≤ w.primaryEvidenceDeadline)) ↔
            (Seconds.le monotonic w.deadlinePrimary = true ↔
              found.observedAt ≤ w.primaryEvidenceDeadline) := by
          rw [Bool.eq_iff_iff, decide_eq_true_eq]
        simp [hgrace, hintime, WaitOutcome.map, hflags]

theorem isSome_eq_of_map_eq {α β γ : Type} {f : α → γ} {g : β → γ} {o : Option α} {o' : Option β}
    (h : o.map f = o'.map g) : o.isSome = o'.isSome := by
  have hsome := congrArg Option.isSome h
  simpa using hsome

/-! ## Runs -/

/-- The two desks between calls. -/
structure SameDesks
    (m : CallbackDesk (CallbackRepository ρ) (InMemoryCallbackBroker.Wait ρ) W)
    (p : CallbackDesk (PostgresCallbackBroker ρ) (PostgresCallbackBroker.Wait ρ) W) : Prop where
  tokens : SameTokens m.broker p.broker
  waits : ∀ waiter, m.waits waiter = (p.waits waiter).map (·.toWait)

section Desks

variable {d : CallbackDesk (CallbackRepository ρ) (InMemoryCallbackBroker.Wait ρ) W}
  {e : CallbackDesk (PostgresCallbackBroker ρ) (PostgresCallbackBroker.Wait ρ) W}

theorem SameDesks.setWait (h : SameDesks d e) (waiter : W)
    (wait : Option (PostgresCallbackBroker.Wait ρ)) :
    SameDesks (d.setWait waiter (wait.map (·.toWait))) (e.setWait waiter wait) := by
  refine ⟨h.tokens, fun other => ?_⟩
  simp only [CallbackDesk.setWait]
  split
  · rfl
  · exact h.waits other

theorem SameDesks.answer_iff (h : SameDesks d e) (order : EarliestRow) (c : CallbackCall ρ W) :
    (classified memoryCall d c).1 = (classified (postgresCall order) e c).1 ↔ Agreeable e c := by
  cases c with
  | observe tokenValue method sourceClass now =>
    refine Iff.trans ?_ (h.tokens.observe tokenValue method sourceClass now).1
    simp [classified, memoryCall, postgresCall, CallbackAnswer.classification, CallbackAnswer.map]
  | revoke tokenValue organizationId now =>
    have hanswer := (h.tokens.revoke tokenValue organizationId now).1
    simp [classified, memoryCall, postgresCall, CallbackAnswer.classification, CallbackAnswer.map,
      hanswer, Agreeable]
  | wait waiter token organizationId policy now monotonic =>
    simp only [classified, memoryCall, postgresCall, Agreeable, iff_true,
      h.tokens.startWait token organizationId policy now monotonic]
    cases e.broker.startWait token organizationId policy now monotonic <;> rfl
  | poll waiter cancelled monotonic =>
    simp only [classified, memoryCall, postgresCall, CallbackDesk.polled, Agreeable, h.waits,
      CallbackAnswer.classification, CallbackAnswer.map, CallbackAnswer.polled.injEq]
    cases e.waits waiter with
    | none => simp
    | some w =>
      refine (h.tokens.poll order w cancelled monotonic).trans ?_
      simp

theorem SameDesks.step (h : SameDesks d e) (order : EarliestRow) (c : CallbackCall ρ W)
    (hc : Agreeable e c) :
    SameDesks (classified memoryCall d c).2 (classified (postgresCall order) e c).2 := by
  cases c with
  | observe tokenValue method sourceClass now =>
    have hobserve := h.tokens.observe tokenValue method sourceClass now
    exact ⟨hobserve.2 (hobserve.1.mpr hc), h.waits⟩
  | revoke tokenValue organizationId now =>
    exact ⟨(h.tokens.revoke tokenValue organizationId now).2, h.waits⟩
  | wait waiter token organizationId policy now monotonic =>
    simp only [classified, memoryCall, postgresCall,
      h.tokens.startWait token organizationId policy now monotonic]
    cases e.broker.startWait token organizationId policy now monotonic with
    | error _ => exact h
    | ok w => exact h.setWait waiter (some w)
  | poll waiter cancelled monotonic =>
    simp only [classified, memoryCall, postgresCall, CallbackDesk.polled, h.waits]
    cases hw : e.waits waiter with
    | none => exact h
    | some w =>
      have houtcome := isSome_eq_of_map_eq
        ((h.tokens.poll order w cancelled monotonic).mpr (hc w hw))
      simp only [Option.map_some, Option.bind_some, houtcome]
      split
      · exact h.setWait waiter none
      · exact h

end Desks

/-! ## The broker in memory keeps to its bounds -/

section Memory

variable {d : CallbackDesk (CallbackRepository ρ) (InMemoryCallbackBroker.Wait ρ) W}

theorem CallbackRepository.recordObservation_cases (m : CallbackRepository ρ)
    (tokenValue method sourceClass : String) (now : Nat) :
    m.recordObservation tokenValue method sourceClass now = (false, m) ∨
    ∃ token, m.broker.tokens.lookup tokenValue = some token ∧ now < token.expiresAt ∧
      (∀ r ∈ m.registrations.lookup tokenValue, r.revokedAt = none) ∧
      (m.broker.observed tokenValue).length < m.policy.maximumObservationsPerToken ∧
      m.recordObservation tokenValue method sourceClass now
        = (true, { m with
            broker.observations := m.broker.observations.insert tokenValue
              (m.broker.observed tokenValue ++ [⟨tokenValue, now, method, sourceClass⟩]) }) := by
  unfold recordObservation InMemoryCallbackBroker.recordObservation
  by_cases hrevoked : (m.registrations.lookup tokenValue).any (·.revokedAt.isSome) = true
  · exact .inl (by rw [if_pos hrevoked])
  rw [if_neg hrevoked]
  cases htoken : m.broker.tokens.lookup tokenValue with
  | none => exact .inl rfl
  | some token =>
    by_cases hexpired : token.expiresAt ≤ now
    · exact .inl (by simp [hexpired])
    by_cases hfull : m.policy.maximumObservationsPerToken ≤ (m.broker.observed tokenValue).length
    · exact .inl (by simp [hexpired, hfull])
    refine .inr ⟨token, rfl, by omega, fun r hr => ?_, by omega, by simp [hexpired, hfull]⟩
    rw [Option.mem_def.mp hr] at hrevoked
    simpa using hrevoked

/-- What lasts of the desk in memory. -/
structure KeepsBounds (limit : Nat)
    (d : CallbackDesk (CallbackRepository ρ) (InMemoryCallbackBroker.Wait ρ) W) : Prop where
  policy : d.broker.policy.maximumObservationsPerToken = limit
  expiry : ∀ t, (d.broker.broker.tokens.lookup t).map (·.expiresAt)
    = (d.broker.registrations.lookup t).map (·.expiresAt)
  bounded : ∀ t, (d.broker.broker.observed t).length ≤ limit

theorem CallbackRepository.revokeRegistration_kept (m : CallbackRepository ρ)
    (tokenValue organizationId : String) (now : Nat) :
    (m.revokeRegistration tokenValue organizationId now).2.broker = m.broker ∧
    (m.revokeRegistration tokenValue organizationId now).2.policy = m.policy ∧
    ∀ t, ((m.revokeRegistration tokenValue organizationId now).2.registrations.lookup t).map
      (·.expiresAt) = (m.registrations.lookup t).map (·.expiresAt) := by
  unfold revokeRegistration
  split
  · exact ⟨rfl, rfl, fun _ => rfl⟩
  next registration hlookup =>
  split
  · exact ⟨rfl, rfl, fun _ => rfl⟩
  split
  · exact ⟨rfl, rfl, fun _ => rfl⟩
  refine ⟨rfl, rfl, fun t => ?_⟩
  by_cases ht : t = tokenValue
  · rw [ht, lookup_insert, hlookup]
    rfl
  · rw [lookup_insert_ne ht]

omit [DecidableEq W] in
theorem CallbackDesk.begin_broker [DecidableEq W] (waiter : W)
    (answer : Except CallbackServiceError (InMemoryCallbackBroker.Wait ρ)) :
    (d.begin waiter answer).2.broker = d.broker := by
  cases answer <;> rfl

theorem CallbackDesk.polled_broker (waiter : W)
    (outcome : Option (WaitOutcome CallbackObservation)) :
    (d.polled waiter outcome).2.broker = d.broker := by
  cases outcome <;> rfl

variable {limit : Nat}

theorem KeepsBounds.step (h : KeepsBounds limit d) (c : CallbackCall ρ W) :
    KeepsBounds limit (classified memoryCall d c).2 ∧
    ∀ t, (d.broker.broker.observed t).length
        + (if acceptedFor t c (classified memoryCall d c).1 then 1 else 0)
      ≤ ((classified memoryCall d c).2.broker.broker.observed t).length := by
  have hunchanged : ∀ d' : CallbackDesk (CallbackRepository ρ) (InMemoryCallbackBroker.Wait ρ) W,
      d'.broker = d.broker → KeepsBounds limit d' ∧
        ∀ t, (d.broker.broker.observed t).length ≤ (d'.broker.broker.observed t).length := by
    intro d' hd'
    refine ⟨⟨?_, ?_, ?_⟩, ?_⟩
    · rw [hd']
      exact h.policy
    · rw [hd']
      exact h.expiry
    · rw [hd']
      exact h.bounded
    · intro t
      rw [hd']
  cases c with
  | observe tokenValue method sourceClass now =>
    obtain hrefused | ⟨token, htoken, hnow, hrevoked, hroom, haccepted⟩ :=
      d.broker.recordObservation_cases tokenValue method sourceClass now
    · have hstep : classified memoryCall d (.observe tokenValue method sourceClass now)
          = (.observed false, d) := by
        simp only [classified, memoryCall, hrefused, CallbackAnswer.classification,
          CallbackAnswer.map]
      rw [hstep]
      exact ⟨h, fun t => Nat.le_refl _⟩
    · simp only [classified, memoryCall, haccepted, CallbackAnswer.classification,
        CallbackAnswer.map, acceptedFor, beq_iff_eq]
      refine ⟨⟨h.policy, h.expiry, fun t => ?_⟩, fun t => ?_⟩
      · rw [InMemoryCallbackBroker.observed_insert]
        have hbounded := h.bounded t
        have hpolicy := h.policy
        split
        · simp only [length_append, length_singleton]
          omega
        · exact hbounded
      · rw [InMemoryCallbackBroker.observed_insert]
        by_cases ht : t = tokenValue
        · simp [ht]
        · simp [ht, Ne.symm ht]
  | revoke tokenValue organizationId now =>
    obtain ⟨hbroker, hpolicy, hexpiry⟩ :=
      d.broker.revokeRegistration_kept tokenValue organizationId now
    simp only [classified, memoryCall, CallbackAnswer.classification, CallbackAnswer.map,
      acceptedFor, Bool.false_eq_true, if_false, Nat.add_zero, hbroker]
    refine ⟨⟨?_, fun t => ?_, ?_⟩, fun t => Nat.le_refl _⟩
    · rw [hpolicy]
      exact h.policy
    · rw [hbroker, hexpiry]
      exact h.expiry t
    · rw [hbroker]
      exact h.bounded
  | wait waiter token organizationId policy now monotonic =>
    exact hunchanged _ (d.begin_broker waiter _)
  | poll waiter cancelled monotonic =>
    exact hunchanged _ (d.polled_broker waiter _)

variable {r : ScopedCallbackRegistration}

theorem lookup_before_call (c : CallbackCall ρ W) (hunrevoked : r.revokedAt = none)
    (hr : (classified memoryCall d c).2.broker.registrations.lookup tokenValue = some r) :
    d.broker.registrations.lookup tokenValue = some r ∧
      ∀ moment, c ≠ .revoke tokenValue r.organizationId moment := by
  cases c with
  | observe token method sourceClass now =>
    refine ⟨?_, nofun⟩
    obtain hrefused | ⟨_, _, _, _, _, haccepted⟩ :=
      d.broker.recordObservation_cases token method sourceClass now
    · simpa only [classified, memoryCall, hrefused] using hr
    · simpa only [classified, memoryCall, haccepted] using hr
  | revoke token organizationId now =>
    simp only [classified, memoryCall, CallbackRepository.revokeRegistration] at hr
    simp only [ne_eq, CallbackCall.revoke.injEq, not_and]
    split at hr
    · next hnone =>
      refine ⟨hr, fun moment ht => ?_⟩
      rw [ht, hr] at hnone
      cases hnone
    next registration hlookup =>
    split at hr
    · next horganization =>
      refine ⟨hr, fun moment ht hsame => ?_⟩
      rw [ht, hr, Option.some.injEq] at hlookup
      rw [← hlookup, hsame] at horganization
      exact absurd rfl horganization
    split at hr
    · next hrevoked =>
      refine ⟨hr, fun moment ht => ?_⟩
      rw [ht, hr, Option.some.injEq] at hlookup
      rw [← hlookup, hunrevoked] at hrevoked
      cases hrevoked
    · by_cases ht : tokenValue = token
      · rw [ht, lookup_insert, Option.some.injEq] at hr
        rw [← hr] at hunrevoked
        cases hunrevoked
      · rw [lookup_insert_ne ht] at hr
        exact ⟨hr, fun moment hsame => absurd hsame.symm ht⟩
  | wait waiter token organizationId policy now monotonic =>
    refine ⟨?_, nofun⟩
    rwa [← d.begin_broker waiter]
  | poll waiter cancelled monotonic =>
    refine ⟨?_, nofun⟩
    rwa [← d.polled_broker waiter]

theorem lookup_before_run (hunrevoked : r.revokedAt = none)
    (calls : List (CallbackCall ρ W))
    (hr : (run (fun d c => (classified memoryCall d c).2) d calls).broker.registrations.lookup
      tokenValue = some r) :
    d.broker.registrations.lookup tokenValue = some r ∧
      ∀ c ∈ calls, ∀ moment, c ≠ .revoke tokenValue r.organizationId moment := by
  induction calls generalizing d with
  | nil => exact ⟨hr, nofun⟩
  | cons c calls ih =>
    obtain ⟨hnext, hrest⟩ := ih hr
    obtain ⟨hbefore, hhead⟩ := lookup_before_call c hunrevoked hnext
    refine ⟨hbefore, fun c' hc' => ?_⟩
    obtain rfl | hc' := mem_cons.mp hc'
    · exact hhead
    · exact hrest c' hc'

theorem KeepsBounds.run (h : KeepsBounds limit d) (calls : List (CallbackCall ρ W)) :
    KeepsBounds limit (run (fun d c => (classified memoryCall d c).2) d calls) :=
  run_induction (P := KeepsBounds limit) (fun _ c hs => (hs.step c).1) h calls

theorem memory_boundedUse (h : KeepsBounds limit d) (calls : List (CallbackCall ρ W)) :
    BoundedUse limit (fun t => d.broker.registrations.lookup t) calls
      (answers (classified memoryCall) d calls) where
  bounded := by
    intro t
    rw [countP_zip_answers (classified memoryCall) (acceptedFor t) d calls]
    have hevery : Along (fun d c => (classified memoryCall d c).2) (fun _ _ => True) d calls :=
      along_of_forall (G := fun _ => True) fun _ _ => trivial
    have hcount := occurrences_add_le (e := fun d c => acceptedFor t c (classified memoryCall d c).1)
      (P := KeepsBounds limit) (μ := fun d => (d.broker.broker.observed t).length)
      (fun _ c hs _ => (hs.step c).1) (fun _ c hs _ => (hs.step c).2 t) h hevery
    have hbounded := (h.run calls).bounded t
    omega
  timely := by
    intro k t method sourceClass now hcall hanswer
    rw [answers_getElem?, hcall, Option.map_some, Option.some.injEq] at hanswer
    have hat := h.run (calls.take k)
    revert hat hanswer
    generalize hd' : run (fun d c => (classified memoryCall d c).2) d (calls.take k) = d'
    intro hanswer hat
    obtain hrefused | ⟨token, htoken, hnow, hrevoked, -, -⟩ :=
      d'.broker.recordObservation_cases t method sourceClass now
    · simp [classified, memoryCall, hrefused, CallbackAnswer.classification,
        CallbackAnswer.map] at hanswer
    · have hexpiry := hat.expiry t
      rw [htoken, Option.map_some, eq_comm, Option.map_eq_some_iff] at hexpiry
      obtain ⟨r, hr, hsame⟩ := hexpiry
      obtain ⟨hstart, hnever⟩ := lookup_before_run (hrevoked r hr) (calls.take k) (hd' ▸ hr)
      refine ⟨r, hstart, by omega, fun j hj moment hrevoke => ?_⟩
      have hmem : CallbackCall.revoke t r.organizationId moment ∈ calls.take k := by
        refine mem_of_getElem? (i := j) ?_
        rw [getElem?_take_of_lt hj, hrevoke]
      exact hnever _ hmem moment rfl

end Memory

/-! ## Both brokers -/

instance (p : CallbackDesk (PostgresCallbackBroker ρ) (PostgresCallbackBroker.Wait ρ) W)
    (c : CallbackCall ρ W) : Decidable (Agreeable p c) := by
  cases c with
  | observe => exact inferInstanceAs (Decidable (∀ row ∈ _, _))
  | poll => exact inferInstanceAs (Decidable (∀ w ∈ _, _ → ∀ time ∈ _, _))
  | revoke => exact isTrue trivial
  | wait => exact isTrue trivial

/--
**Both brokers bound every token's observations, take none after its expiry or revocation, and
accept and classify them alike, exactly in the runs** where no live token is observed beyond its
quota and every poll finds its observation on the side of the deadline where it was made.
-/
theorem callback_brokers_agree (order : EarliestRow) (issued : Issued m p)
    (calls : List (CallbackCall ρ W)) :
    (BoundedUse m.policy.maximumObservationsPerToken (fun t => m.registrations.lookup t) calls
        (answers (classified memoryCall) (idle m) calls) ∧
      BoundedUse p.policy.maximumObservationsPerToken p.repository.registration calls
        (answers (classified (postgresCall order)) (idle p) calls) ∧
      answers (classified memoryCall) (idle m) calls
        = answers (classified (postgresCall order)) (idle p) calls) ↔
      Along (fun d c => (classified (postgresCall order) d c).2) Agreeable (idle p) calls := by
  obtain ⟨htokens, hempty⟩ := issued.sameTokens
  have hstart : SameDesks (W := W) (idle m) (idle p) := ⟨htokens, fun _ => rfl⟩
  have hkeeps : KeepsBounds (W := W) m.policy.maximumObservationsPerToken (idle m) := by
    refine ⟨rfl, fun t => ?_, fun t => ?_⟩
    · exact (htokens.expiry t).trans (congrArg _ (htokens.registrations t).symm)
    · have hnone : (idle (ω := InMemoryCallbackBroker.Wait ρ) (W := W) m).broker.broker.observed t
          = [] := hempty t
      rw [hnone]
      exact Nat.zero_le _
  have hagree : answers (classified memoryCall) (idle m) calls
        = answers (classified (postgresCall order)) (idle p) calls ↔
      Along (fun d c => (classified (postgresCall order) d c).2) Agreeable (idle p) calls :=
    answers_agree_iff (fun _ _ c h => h.answer_iff order c) (fun _ _ c h hc => h.step order c hc)
      hstart calls
  have hmemory := memory_boundedUse hkeeps calls
  rw [← hagree]
  refine ⟨fun h => h.2.2, fun hsame => ⟨hmemory, ?_, hsame⟩⟩
  have hregistrations : p.repository.registration = fun t => m.registrations.lookup t :=
    funext fun t => (htokens.registrations t).symm
  rw [← hsame, ← htokens.quota, hregistrations]
  exact hmemory

/-! ## Samples -/

@[reducible] def wholeSeconds : Seconds Nat where
  ofNat n := n
  add := (· + ·)
  lt a b := decide (a < b)
  le a b := decide (a ≤ b)
  timedelta n := n * 1000000

def firstRecorded : EarliestRow where
  pick rows := rows.argmin (·.observedAt)
  pick_nil := rfl
  isSome_pick rows hne := by
    rw [Option.isSome_iff_ne_none, ne_eq, argmin_eq_none]
    exact hne
  mem_of_pick _ _ h := argmin_mem h
  pick_le _ _ h other hother := le_of_mem_argmin hother h

def sampleCallbackPolicy : letI := wholeSeconds; CallbackPolicy Nat :=
  let _ := wholeSeconds
  { maximumWaitSeconds := 3
    graceSeconds := 2
    pollIntervalSeconds := 1
    tokenTtlSeconds := 300
    valid := rfl }

def sampleCallbackRequest : CallbackRequest where
  drawn := "token"
  scanId := "scan"
  candidateFingerprint := "candidate"
  organizationId := "organization"
  target := "https://example.com/"
  authorizationId := "authorization"

def sampleCallbackToken : CallbackToken :=
  sampleCallbackRequest.token (slashed "https://callback.example") 300000000

def sampleRepository : letI := wholeSeconds; CallbackRepository Nat :=
  let _ := wholeSeconds
  { broker :=
      { baseUrl := slashed "https://callback.example"
        tokens := (∅ : AList _).insert "token" sampleCallbackToken
        observations := (∅ : AList _).insert "token" [] }
    policy := sampleCallbackPolicy
    registrations := (∅ : AList _).insert "token" (sampleCallbackRequest.registration 0 300000000) }

def sampleBroker : letI := wholeSeconds; PostgresCallbackBroker Nat :=
  let _ := wholeSeconds
  { repository := ⟨⟨[sampleCallbackRequest.registration 0 300000000], by decide⟩, []⟩
    baseUrl := slashed "https://callback.example"
    policy := sampleCallbackPolicy }

theorem sample_issued : letI := wholeSeconds; Issued sampleRepository sampleBroker := by
  let _ := wholeSeconds
  have hnew : Issued (.new "https://callback.example" sampleCallbackPolicy)
      (.new "https://callback.example" sampleCallbackPolicy) := .new _ _ rfl rfl
  have hmemory : (CallbackRepository.new "https://callback.example" sampleCallbackPolicy).register
      sampleCallbackRequest 0 = .ok (sampleCallbackToken, sampleRepository) := rfl
  have hpostgres : (PostgresCallbackBroker.new "https://callback.example" sampleCallbackPolicy).register
      sampleCallbackRequest 0 = .ok (sampleCallbackToken, sampleBroker) := rfl
  exact .register sampleCallbackRequest 0 hnew hmemory hpostgres

def observedInTime : letI := wholeSeconds; List (CallbackCall Nat Unit) :=
  let _ := wholeSeconds
  [.wait () sampleCallbackToken "organization" sampleCallbackPolicy 1000000 7, .poll () false 7,
    .observe "token" "GET" "external" 2000000, .poll () false 8,
    .revoke "token" "organization" 3000000, .observe "token" "GET" "external" 4000000]

def sixObservations : letI := wholeSeconds; List (CallbackCall Nat Unit) :=
  let _ := wholeSeconds
  replicate 6 (.observe "token" "GET" "external" 2000000)

def foundLate : letI := wholeSeconds; List (CallbackCall Nat Unit) :=
  let _ := wholeSeconds
  [.wait () sampleCallbackToken "organization" sampleCallbackPolicy 1000000 7, .poll () false 7,
    .observe "token" "GET" "external" 2000000, .poll () false 11]

theorem callback_brokers_agree_sample :
    letI := wholeSeconds
    BoundedUse 5 (fun t => sampleRepository.registrations.lookup t) observedInTime
        (answers (classified memoryCall) (idle sampleRepository) observedInTime) ∧
      BoundedUse 5 sampleBroker.repository.registration observedInTime
        (answers (classified (postgresCall firstRecorded)) (idle sampleBroker) observedInTime) ∧
      answers (classified memoryCall) (idle sampleRepository) observedInTime
        = answers (classified (postgresCall firstRecorded)) (idle sampleBroker) observedInTime := by
  have hagreeable : Along
      (fun d c => (@classified Nat wholeSeconds Unit _
        (@postgresCall Nat wholeSeconds Unit _ firstRecorded) d c).2)
      (@Agreeable Nat wholeSeconds Unit) (idle sampleBroker) observedInTime := by
    decide
  let _ := wholeSeconds
  exact (callback_brokers_agree firstRecorded sample_issued observedInTime).mpr hagreeable

/--
PostgreSQL accepts a sixth observation, which the broker in memory refuses; and the two classify
an observation differently that was made within the primary window and found after it.
-/
theorem callback_brokers_disagree :
    letI := wholeSeconds
    Issued sampleRepository sampleBroker ∧
      ¬ BoundedUse 5 sampleBroker.repository.registration sixObservations
        (answers (classified (postgresCall firstRecorded)) (idle sampleBroker) sixObservations) ∧
      answers (classified memoryCall) (idle sampleRepository) sixObservations
        ≠ answers (classified (postgresCall firstRecorded)) (idle sampleBroker) sixObservations ∧
      answers (classified memoryCall) (idle sampleRepository) foundLate
        ≠ answers (classified (postgresCall firstRecorded)) (idle sampleBroker) foundLate := by
  let _ := wholeSeconds
  refine ⟨sample_issued, fun h => ?_, ?_, ?_⟩
  · have hbounded := h.bounded "token"
    revert hbounded
    decide
  · decide
  · decide

end WebGuard
