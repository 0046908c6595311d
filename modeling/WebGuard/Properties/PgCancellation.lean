import WebGuard.Store.Operations
import WebGuard.Postgres.Cancellation
import WebGuard.Postgres.Moves

/-!
# Cancellation requests on PostgreSQL

`request_cancellation` reads the row, and then updates it where the revision is still the one it
read. A heartbeat or a claim that commits in between has moved the revision on: the `UPDATE`
matches no row, nobody looks at its row count, and the call returns the job as it is now, running
and not flagged. `heartbeat_hides_cancellation` is that history.

`UpdatesCurrent` is the condition that rules it out: at its `UPDATE` a request meets the revision
that it read, or a row that needs no request any more. Under it a job is finished or flagged when
the request returns (`pg_cancellation_kept`), and it stays so whatever comes later.
-/

namespace WebGuard

open Mvcc Option

/-- Finished, or flagged for cancellation. -/
def JobRow.Settled (row : JobRow) : Prop :=
  row.state.isTerminal = true ∨ row.cancellationRequested = true

theorem RowMove.settled {row row' : JobRow} (h : RowMove row row') (hrow : row.Settled) :
    row'.Settled := by
  cases h with
  | claim hstate =>
    rcases hrow with hterminal | hflag
    · rw [hstate] at hterminal
      cases hterminal
    · exact Or.inr hflag
  | renew hstate =>
    rcases hrow with hterminal | hflag
    · exact Or.inl hterminal
    · exact Or.inr hflag
  | @recover now limit hexpired htoken =>
    have hflag : row.cancellationRequested = true := by
      rcases hrow with hterminal | hflag
      · rw [(JobRow.leaseExpired_iff.mp hexpired).1] at hterminal
        cases hterminal
      · exact hflag
    rcases JobRow.recovered_cases htoken now limit with ⟨-, hcase⟩ | ⟨hno, -⟩ | ⟨hno, -⟩
    · rw [hcase]
      exact Or.inl rfl
    · rw [hflag] at hno
      cases hno
    · rw [hflag] at hno
      cases hno
  | terminate hterminal hstate => exact Or.inl hterminal
  | cancelQueued => exact Or.inl rfl
  | flagCancellation => exact Or.inr rfl

variable (jobId : String) (read row : JobRow) (now : Nat)

theorem settled_cancelStatement :
    ((Cluster.cancelStatement jobId read now).set row).Settled := by
  unfold Cluster.cancelStatement
  split
  · exact Or.inl rfl
  · exact Or.inr rfl

@[simp] theorem key_cancelStatement (jobId : String) (read : JobRow) (now : Nat) :
    (Cluster.cancelStatement jobId read now).key = jobId := by
  unfold Cluster.cancelStatement
  split <;> rfl

@[simp] theorem guard_cancelStatement :
    (Cluster.cancelStatement jobId read now).guard row = (row.revision == read.revision) := by
  unfold Cluster.cancelStatement
  split <;> rfl

/-- The row that an `UPDATE` is about to look at, and whether it will match the row given. -/
def Session.pending (row : JobRow) : Session → Option (String × Bool)
  | .updating u => some (u.key, u.guard row)
  | _ => none

variable {k : String}

namespace Cluster

variable {T : Type} {s : Cluster T} {t : T}

/-- The committed row of the job is settled. -/
def Settled (s : Cluster T) (k : String) : Prop :=
  ∃ job, s.db.committed k = some job ∧ job.row.Settled

variable [DecidableEq T]

/-- The job is settled once the session has committed. -/
def Sealed (s : Cluster T) (t : T) (k : String) : Prop :=
  (∃ job, s.db.Wrote t k job ∧ job.row.Settled) ∨ s.Settled k

theorem sealed_of_view {job : PgJob} (hview : s.db.view t k = some job) (hjob : job.row.Settled) :
    s.Sealed t k := by
  rcases Database.view_eq_some hview with hwrote | hcommitted
  · exact Or.inl ⟨job, hwrote, hjob⟩
  · exact Or.inr ⟨job, hcommitted, hjob⟩

section

variable [Primitives]

theorem Steady.settled_step (h : s.Steady) (input : PgInput T) (hk : s.Settled k) :
    (s.step input).Settled k := by
  obtain ⟨job, hjob, hsettled⟩ := hk
  obtain ⟨job', hjob', hdescends⟩ := h.committed_step input hjob
  exact ⟨job', hjob', hdescends.keeps (fun _ _ => RowMove.settled) hsettled⟩

theorem Steady.sealed_step (h : s.Steady) {input : PgInput T} (hacts : acts input ≠ some t)
    (hk : s.Sealed t k) : (s.step input).Sealed t k := by
  rcases hk with ⟨job, hwrote, hsettled⟩ | hk
  · obtain ⟨l, hl, hholder, hversion⟩ := Database.wrote_iff.mp hwrote
    have hlock := h.lock_step hl (by rw [hholder]; exact hacts)
    exact Or.inl ⟨job, Database.wrote_iff.mpr ⟨l, hlock, hholder, hversion⟩, hsettled⟩
  · exact Or.inr (h.settled_step input hk)

theorem Steady.settled_commit (h : s.Steady) (hk : s.Sealed t k)
    (hsession : s.session t = .finished) : (s.step (.commit t)).Settled k := by
  rcases hk with ⟨job, hwrote, hsettled⟩ | hk
  · refine ⟨job, ?_, hsettled⟩
    simp only [Cluster.step, hsession]
    show (s.db.written t k).or (s.db.committed k) = some job
    rw [show s.db.written t k = some job from hwrote, some_or]
  · exact h.settled_step _ hk

omit [Primitives] in
theorem sealed_advance {jobId : String} {read : JobRow} {now : Nat} {job : PgJob}
    (hsession : s.session t = .updating (cancelStatement jobId read now))
    (havailable : s.db.available t jobId = true) (hview : s.db.view t jobId = some job)
    (hcurrent : job.row.revision = read.revision ∨ job.row.Settled) :
    (s.advance t).Sealed t jobId ∧ (s.advance t).session t = .finished := by
  have hkey : (cancelStatement jobId read now).statement.key = jobId :=
    key_cancelStatement jobId read now
  have hadvance : s.advance t = Cluster.enter
      { s with db := (s.db.update t (cancelStatement jobId read now).statement).1 } t
        .finished := by
    unfold Cluster.advance
    rw [hsession]
    simp only [key_cancelStatement, if_pos havailable]
  refine ⟨?_, by rw [hadvance, session_enter_self]⟩
  rw [hadvance]
  cases hguard : (cancelStatement jobId read now).statement.guard job with
  | true =>
    have hwritten := Database.view_update (by rw [hkey]; exact hview) hguard
    rw [hkey] at hwritten
    exact sealed_of_view hwritten (settled_cancelStatement jobId read job.row now)
  | false =>
    have hrevision : (cancelStatement jobId read now).guard job.row = false := hguard
    rw [guard_cancelStatement, beq_eq_false_iff_ne] at hrevision
    rw [Database.update_of_not_guard (by rw [hkey]; exact hview) hguard]
    exact sealed_of_view hview (hcurrent.resolve_left hrevision)

end

end Cluster

namespace CancellationDesk

variable {T : Type} [DecidableEq T] {s : CancellationDesk T} {t : T}

/--
The `UPDATE` of a request meets the revision that the request has read, unless the job has been
finished or flagged since.
-/
def UpdatesCurrent (s : CancellationDesk T) : CancellationInput T → Prop
  | .statement (.advance t) =>
    ∀ jobId read now job,
      s.cluster.session t = .updating (Cluster.cancelStatement jobId read now) →
      s.cluster.db.available t jobId = true → s.cluster.db.view t jobId = some job →
      job.row.revision = read.revision ∨ job.row.Settled
  | _ => True

theorem updatesCurrent_of_none (row : JobRow) (h : (s.cluster.session t).pending row = none) :
    s.UpdatesCurrent (.statement (.advance t)) := by
  intro jobId read now job hsession
  rw [hsession] at h
  cases h

theorem updatesCurrent_of_pending (k : String) (row : JobRow)
    (h : (s.cluster.session t).pending row = some (k, true))
    (hrow : (s.cluster.db.view t k).map PgJob.row = some row) :
    s.UpdatesCurrent (.statement (.advance t)) := by
  intro jobId read now job hsession _ hview
  rw [hsession, Session.pending, key_cancelStatement, guard_cancelStatement] at h
  obtain ⟨rfl, hrevision⟩ := Prod.mk.inj (some.inj h)
  rw [hview] at hrow
  cases hrow
  exact Or.inl (by simpa using hrevision)

/-- Where the request of a session stands. -/
inductive Serving (s : CancellationDesk T) (t : T) : CancellationRequest → Prop where
  | updating {jobId : String} {read : JobRow} {now : Nat} {job : PgJob}
      (hsession : s.cluster.session t = .updating (Cluster.cancelStatement jobId read now))
      (hjob : s.cluster.db.committed jobId = some job) : Serving s t ⟨jobId, none⟩
  | finished {jobId : String} {answer : Option JobRow} (hsession : s.cluster.session t = .finished)
      (hsealed : s.cluster.Sealed t jobId) : Serving s t ⟨jobId, answer⟩

/-- Every request is on its way to a settled job, and what was promised is so. -/
structure Kept (s : CancellationDesk T) : Prop where
  steady : s.cluster.Steady
  requests : ∀ t request, s.request t = some request → s.Serving t request
  returned : ∀ k ∈ s.returned, s.cluster.Settled k

theorem kept_empty : (empty : CancellationDesk T).Kept where
  steady := Cluster.steady_empty
  requests := by
    intro t request h
    cases h
  returned := by
    intro k h
    cases h

theorem Serving.busy {request : CancellationRequest} (h : s.Serving t request) :
    s.cluster.session t ≠ .idle := by
  cases h with
  | updating hsession hjob => simp [hsession]
  | finished hsession hsealed => simp [hsession]

@[simp] theorem request_serve_self (request : Option CancellationRequest) :
    (s.serve t request).request t = request := by
  simp [serve]

theorem request_serve_other {t' : T} (h : t' ≠ t) (request : Option CancellationRequest) :
    (s.serve t request).request t' = s.request t' := by
  simp [serve, h]

theorem cluster_reread : (s.reread t).cluster = s.cluster := by
  unfold CancellationDesk.reread
  split <;> rfl

section

variable [Primitives] {s' : CancellationDesk T}

theorem Serving.step (hsteady : s.cluster.Steady) {request : CancellationRequest}
    (h : s.Serving t request) {input : PgInput T} (hacts : Cluster.acts input ≠ some t)
    (hs' : s'.cluster = s.cluster.step input) :
    s'.Serving t request := by
  have hsame := Cluster.session_step_other hacts h.busy
  cases h with
  | updating hsession hjob =>
    obtain ⟨job', hjob', -⟩ := hsteady.committed_step input hjob
    exact .updating (by rw [hs', hsame, hsession]) (by rw [hs']; exact hjob')
  | finished hsession hsealed =>
    refine .finished (by rw [hs', hsame, hsession]) ?_
    rw [hs']
    exact hsteady.sealed_step hacts hsealed

theorem Kept.others (h : s.Kept) (input : PgInput T) (hs' : s'.cluster = s.cluster.step input)
    (hrequests : ∀ t request, s'.request t = some request →
      s'.Serving t request ∨ (s.request t = some request ∧ Cluster.acts input ≠ some t))
    (hreturned : ∀ k ∈ s'.returned, k ∈ s.returned ∨ s'.cluster.Settled k) : s'.Kept := by
  refine ⟨?_, ?_, ?_⟩
  · rw [hs']
    exact h.steady.step input
  · intro t request hrequest
    rcases hrequests t request hrequest with hserving | ⟨hold, hacts⟩
    · exact hserving
    · exact (h.requests t request hold).step h.steady hacts hs'
  · intro k hk
    rcases hreturned k hk with hold | hnew
    · rw [hs']
      exact h.steady.settled_step input (h.returned k hold)
    · exact hnew

theorem Kept.advance (h : s.Kept) (hcurrent : s.UpdatesCurrent (.statement (.advance t))) :
    Kept { s with cluster := s.cluster.step (.advance t) } := by
  refine h.others (.advance t) rfl ?_ (fun k hk => Or.inl hk)
  intro t' request hrequest
  by_cases ht : t' = t
  · subst ht
    refine Or.inl ?_
    cases h.requests t' request hrequest with
    | @updating jobId read now job hsession hjob =>
      by_cases havailable : s.cluster.db.available t' jobId = true
      · obtain ⟨seen, hview⟩ := Database.view_isSome hjob (t := t')
        obtain ⟨hsealed, hfinished⟩ := Cluster.sealed_advance hsession havailable hview
          (hcurrent jobId read now seen hsession havailable hview)
        exact .finished hfinished hsealed
      · -- The row is locked by somebody else, and the statement waits.
        have hwaits : s.cluster.advance t' = s.cluster := by
          unfold Cluster.advance
          rw [hsession]
          simp only [key_cancelStatement, if_neg havailable]
        have hsession' : (s.cluster.advance t').session t'
            = .updating (Cluster.cancelStatement jobId read now) := by
          rw [hwaits, hsession]
        have hjob' : (s.cluster.advance t').db.committed jobId = some job := by
          rw [hwaits, hjob]
        exact .updating hsession' hjob'
    | finished hsession hsealed =>
      have hdone : s.cluster.advance t' = s.cluster := by
        unfold Cluster.advance
        rw [hsession]
      refine .finished ?_ ?_
      · show (s.cluster.advance t').session t' = _
        rw [hdone, hsession]
      · show (s.cluster.advance t').Sealed t' _
        rw [hdone]
        exact hsealed
  · refine Or.inr ⟨hrequest, ?_⟩
    rintro ⟨⟩
    exact ht rfl

theorem Kept.commit (h : s.Kept) : (s.commit t).Kept := by
  have hothers : ∀ t' request, t' ≠ t → s.request t' = some request →
      s.request t' = some request ∧ Cluster.acts (.commit t : PgInput T) ≠ some t' := by
    intro t' request ht hrequest
    refine ⟨hrequest, ?_⟩
    rintro ⟨⟩
    exact ht rfl
  unfold CancellationDesk.commit
  split
  · next hnone =>
    refine h.others (.commit t) rfl ?_ (fun k hk => Or.inl hk)
    intro t' request hrequest
    have ht : t' ≠ t := by
      rintro rfl
      rw [hnone] at hrequest
      cases hrequest
    exact Or.inr (hothers t' request ht hrequest)
  · exact h
  · next jobId row hrequest =>
    refine h.others (.commit t) rfl ?_ ?_
    · intro t' request' hrequest'
      have ht : t' ≠ t := by
        rintro rfl
        rw [request_serve_self] at hrequest'
        cases hrequest'
      rw [request_serve_other ht] at hrequest'
      exact Or.inr (hothers t' request' ht hrequest')
    · intro k hk
      have hcase : k ∈ s.returned ∨ k = jobId := by
        dsimp only at hk
        split at hk
        · exact (List.mem_cons.mp hk).symm
        · exact Or.inl hk
      rcases hcase with hold | rfl
      · exact Or.inl hold
      · refine Or.inr ?_
        cases h.requests t _ hrequest with
        | finished hsession hsealed => exact h.steady.settled_commit hsealed hsession

theorem Kept.open (h : s.Kept) {jobId : String} {now : Nat} (hidle : s.cluster.session t = .idle) :
    ({ s with cluster := s.cluster.step (.requestCancellation t jobId now) }.serve t
      (s.opened t jobId)).Kept := by
  have hstep : s.cluster.step (.requestCancellation t jobId now)
      = s.cluster.begin (.requestCancellation t jobId now) := by
    have howner : Cluster.owner (.requestCancellation t jobId now) = some t := rfl
    rcases Cluster.step_of_owner howner (s := s.cluster) with hsame | ⟨-, hbegin⟩
    · simp [Cluster.step, Cluster.owner, hidle] at hsame ⊢
    · exact hbegin
  refine h.others (.requestCancellation t jobId now) rfl ?_ (fun k hk => Or.inl hk)
  intro t' request hrequest
  by_cases ht : t' = t
  · subst ht
    rw [request_serve_self] at hrequest
    refine Or.inl ?_
    unfold opened at hrequest
    split at hrequest
    · cases hrequest
    · next job hview =>
      split at hrequest
      · cases hrequest
      · next record hrecord =>
        obtain ⟨-, hstate, -⟩ := recordFromRow_keeps hrecord
        have hafter : s.cluster.step (.requestCancellation t' jobId now) = s.cluster.enter t'
            (if record.state.isTerminal then .finished
              else .updating (Cluster.cancelStatement jobId job.row now)) := by
          rw [hstep]
          simp only [Cluster.begin, Cluster.afterRead, hview, hrecord, bind, Except.bind, pure,
            Except.pure]
          split <;> simp_all
        cases hterminal : record.state.isTerminal with
        | true =>
          rw [hterminal, if_pos rfl] at hafter
          simp only [hterminal, if_true, some.injEq] at hrequest
          subst hrequest
          refine .finished ?_ ?_
          · show (s.cluster.step (.requestCancellation t' jobId now)).session t' = _
            rw [hafter, Cluster.session_enter_self]
          · show (s.cluster.step (.requestCancellation t' jobId now)).Sealed t' jobId
            rw [hafter]
            exact Cluster.sealed_of_view hview (Or.inl (by rw [← hstate]; exact hterminal))
        | false =>
          rw [hterminal, if_neg (by simp)] at hafter
          simp only [hterminal, Bool.false_eq_true, if_false, some.injEq] at hrequest
          subst hrequest
          obtain ⟨committed, hcommitted, -⟩ := h.steady.versions.view Descends.refl hview
          have hsession' : (s.cluster.step (.requestCancellation t' jobId now)).session t'
              = .updating (Cluster.cancelStatement jobId job.row now) := by
            rw [hafter, Cluster.session_enter_self]
          have hjob' : (s.cluster.step (.requestCancellation t' jobId now)).db.committed jobId
              = some committed := by
            rw [hafter]
            exact hcommitted
          exact .updating hsession' hjob'
  · rw [request_serve_other ht] at hrequest
    refine Or.inr ⟨hrequest, ?_⟩
    rintro ⟨⟩

omit [Primitives] in
theorem Kept.reread (h : s.Kept) : (s.reread t).Kept := by
  unfold CancellationDesk.reread
  split
  · next jobId hrequest hsession =>
    refine ⟨h.steady, ?_, h.returned⟩
    intro t' request' hrequest'
    by_cases ht : t' = t
    · subst ht
      rw [request_serve_self] at hrequest'
      cases hrequest'
      cases h.requests t' _ hrequest with
      | updating hupdating _ =>
        rw [hsession] at hupdating
        cases hupdating
      | finished _ hsealed => exact .finished hsession hsealed
    · rw [request_serve_other ht] at hrequest'
      cases h.requests t' request' hrequest' with
      | updating hupdating hjob => exact .updating hupdating hjob
      | finished hfinished hsealed => exact .finished hfinished hsealed
  · exact h

theorem Kept.step (h : s.Kept) (input : CancellationInput T) (hcurrent : s.UpdatesCurrent input) :
    (s.step input).Kept := by
  have hother : ∀ input : PgInput T, Cluster.acts input = none →
      Kept { s with cluster := s.cluster.step input } := by
    intro input hacts
    refine h.others input rfl ?_ (fun k hk => Or.inl hk)
    intro t request hrequest
    exact Or.inr ⟨hrequest, by simp [hacts]⟩
  cases input with
  | reread t => exact h.reread
  | statement input =>
    cases input with
    | commit t => exact h.commit
    | abort t =>
      refine h.others (.abort t) rfl ?_ (fun k hk => Or.inl hk)
      intro t' request hrequest
      by_cases ht : t' = t
      · subst ht
        simp [CancellationDesk.step] at hrequest
      · simp only [CancellationDesk.step] at hrequest
        rw [request_serve_other ht] at hrequest
        refine Or.inr ⟨hrequest, ?_⟩
        rintro ⟨⟩
        exact ht rfl
    | requestCancellation t jobId now =>
      simp only [CancellationDesk.step]
      split
      · next hidle => exact h.open hidle
      · exact h
    | advance t => exact h.advance hcurrent
    | insert job => exact hother _ rfl
    | administer permits assignments => exact hother _ rfl
    | claimNextLeased t now workerId leaseSeconds leaseToken => exact hother _ rfl
    | renewLease t jobId workerId leaseToken now leaseSeconds => exact hother _ rfl
    | recoverExpiredLeases t now maximumAttempts => exact hother _ rfl
    | terminalUpdate t jobId write now => exact hother _ rfl

theorem cluster_step (s : CancellationDesk T) (input : PgInput T) :
    (s.step (.statement input)).cluster = s.cluster ∨
      (s.step (.statement input)).cluster = s.cluster.step input := by
  cases input with
  | commit t =>
    simp only [CancellationDesk.step, CancellationDesk.commit]
    split
    · exact Or.inr rfl
    · exact Or.inl rfl
    · exact Or.inr rfl
  | requestCancellation t jobId now =>
    simp only [CancellationDesk.step]
    split
    · exact Or.inr rfl
    · exact Or.inl rfl
  | _ => exact Or.inr rfl

theorem settled_run (hsteady : s.cluster.Steady) (hk : s.cluster.Settled k)
    (later : List (CancellationInput T)) : (s.run later).cluster.Settled k := by
  have h : (s.run later).cluster.Steady ∧ (s.run later).cluster.Settled k := by
    refine Runs.run_induction (P := fun s : CancellationDesk T =>
      s.cluster.Steady ∧ s.cluster.Settled k) ?_ ⟨hsteady, hk⟩ later
    rintro s input ⟨hs, hsettled⟩
    cases input with
    | reread t =>
      rw [CancellationDesk.step, cluster_reread]
      exact ⟨hs, hsettled⟩
    | statement statement =>
      rcases cluster_step s statement with hsame | hstep
      · rw [hsame]
        exact ⟨hs, hsettled⟩
      · rw [hstep]
        exact ⟨hs.step statement, hs.settled_step statement hsettled⟩
  exact h.2

/--
**A cancellation that was requested is not lost**: in every run whose requests update the revision
they have read, a job is finished or flagged when a request for it has returned, and stays so.
-/
theorem pg_cancellation_kept {inputs : List (CancellationInput T)}
    (hcurrent : Runs.Along step UpdatesCurrent empty inputs) {jobId : String}
    (hreturned : jobId ∈ (empty.run inputs).returned) (later : List (CancellationInput T)) :
    ((empty.run inputs).run later).cluster.Settled jobId := by
  have h : (empty.run inputs).Kept :=
    Runs.along_induction (P := Kept) (fun s input hs hG => hs.step input hG) kept_empty hcurrent
  exact settled_run h.steady (h.returned jobId hreturned) later

end

end CancellationDesk

/-! ## A heartbeat between the read and the write -/

def sampleRunningJob : List (CancellationInput Bool) :=
  letI := samplePrimitives
  [.statement (.insert { row := newJobRow sampleJobId sampleRequest 100 }),
    .statement (.claimNextLeased true 200 "worker-a" (30 * second) "lease-a"),
    .statement (.advance true), .statement (.advance true), .statement (.commit true)]

def sampleClaimedRow : JobRow :=
  letI := samplePrimitives
  (newJobRow sampleJobId sampleRequest 100).claimLeased 200 1 "worker-a" "lease-a"
    (200 + 30 * second)

def requestThenHeartbeat : List (CancellationInput Bool) :=
  sampleRunningJob ++
    [.statement (.requestCancellation false sampleJobId 300), .statement (.advance false),
      .reread false, .statement (.commit false)]

def heartbeat : List (CancellationInput Bool) :=
  [.statement (.renewLease true sampleJobId "worker-a" "lease-a" 400 (30 * second)),
    .statement (.advance true), .statement (.commit true)]

/-- The worker's heartbeat is committed between the read and the `UPDATE` of the request. -/
def heartbeatInRequest : List (CancellationInput Bool) :=
  sampleRunningJob ++ [.statement (.requestCancellation false sampleJobId 300)] ++ heartbeat ++
    [.statement (.advance false), .reread false, .statement (.commit false)]

instance (s : Cluster Bool) (k : String) : Decidable (s.Settled k) :=
  match hk : s.db.committed k with
  | none => isFalse fun ⟨_, hjob, _⟩ => by
    rw [hk] at hjob
    cases hjob
  | some job =>
    decidable_of_iff (job.row.state.isTerminal = true ∨ job.row.cancellationRequested = true)
      ⟨fun hsettled => ⟨job, hk, hsettled⟩, fun ⟨_, hjob, hsettled⟩ =>
        some.inj (hk.symm.trans hjob) ▸ hsettled⟩

/-- The request that comes first flags the job, and the heartbeat that follows is renewed on it. -/
theorem pg_cancellation_kept_heartbeat :
    letI := samplePrimitives
    sampleJobId ∈ (CancellationDesk.empty.run requestThenHeartbeat).returned ∧
      ((CancellationDesk.empty.run requestThenHeartbeat).run heartbeat).cluster.Settled
        sampleJobId := by
  let _ := samplePrimitives
  have hreturned : sampleJobId ∈ (CancellationDesk.empty.run requestThenHeartbeat).returned := by
    decide
  have hclaim₁ : (CancellationDesk.empty.run (requestThenHeartbeat.take 2)).UpdatesCurrent
      (.statement (.advance true)) :=
    CancellationDesk.updatesCurrent_of_none sampleClaimedRow (by decide)
  have hclaim₂ : (CancellationDesk.empty.run (requestThenHeartbeat.take 3)).UpdatesCurrent
      (.statement (.advance true)) :=
    CancellationDesk.updatesCurrent_of_none sampleClaimedRow (by decide)
  have hrequest : (CancellationDesk.empty.run (requestThenHeartbeat.take 6)).UpdatesCurrent
      (.statement (.advance false)) :=
    CancellationDesk.updatesCurrent_of_pending sampleJobId sampleClaimedRow
      (by decide) (by decide)
  refine ⟨hreturned, CancellationDesk.pg_cancellation_kept ?_ hreturned heartbeat⟩
  exact ⟨trivial, trivial, hclaim₁, hclaim₂, trivial, trivial, hrequest, trivial, trivial, trivial⟩

/-- **A heartbeat between the read and the write hides the request**, which returns all the same. -/
theorem heartbeat_hides_cancellation :
    letI := samplePrimitives
    ¬ ∀ (inputs : List (CancellationInput Bool)) (jobId : String),
      jobId ∈ (CancellationDesk.empty.run inputs).returned →
        (CancellationDesk.empty.run inputs).cluster.Settled jobId := by
  let _ := samplePrimitives
  intro h
  have hreturned : sampleJobId ∈ (CancellationDesk.empty.run heartbeatInRequest).returned := by
    decide
  have hsettled := h heartbeatInRequest sampleJobId hreturned
  revert hsettled
  decide

end WebGuard
