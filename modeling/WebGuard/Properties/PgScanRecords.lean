import WebGuard.Store.Operations
import WebGuard.Postgres.ScanRecords

/-!
# Scan records and the end of their job

A worker function that fails or cancels a job closes the open records of the job in the same
transaction. One that completes a job does not: it relies on `complete_scan` having closed the
record of the attempt that succeeded, and an earlier attempt, whose worker crashed and whose job
was put back in the queue, has left a record that nobody closes (`requeued_record_stays_open`).
Likewise nobody keeps a late `create_scan` from a job that has ended, nor a late `complete_scan`
from a record that is closed.

`Orderly` names the three steps. In a run without them a job that has ended has closed records
only, and a closed record is never changed again (`pg_scan_records_follow`).
-/

namespace WebGuard

open Mvcc Database Option

namespace Cluster

variable {T : Type} [DecidableEq T] {s : Cluster T} {t : T}

theorem wrote_advance {t' : T} {k : String} {job : PgJob} (h : (s.advance t).db.Wrote t' k job) :
    s.db.Wrote t' k job ∨ (t' = t ∧
      (job.row.state = .running ∨
        (∃ u old, s.session t = .updating u ∧ k = u.key ∧ s.db.available t u.key = true ∧
          s.db.view t u.key = some old ∧ u.guard old.row = true ∧ job.row = u.set old.row) ∨
        ∃ now limit rest old, s.session t = .recovering now limit (k :: rest) ∧
          s.db.available t k = true ∧ s.db.view t k = some old ∧
          old.row.leaseExpired now = true ∧ old.row.leaseToken.isSome = true ∧
          job.row = old.row.recovered now limit)) := by
  unfold Cluster.advance at h
  split at h
  · exact Or.inl h
  · next claim q k' rest hsession =>
    unfold Cluster.tryLock at h
    split at h
    · split at h
      · split at h
        · exact Or.inl (wrote_acquire h)
        · exact Or.inl h
      · exact Or.inl h
    · exact Or.inl h
  · next claim k' revision submittedAt hsession =>
    rcases wrote_update h with hold | ⟨ht, -, old, -, -, hset⟩
    · exact Or.inl hold
    · refine Or.inr ⟨ht, Or.inl ?_⟩
      rw [hset]
      rfl
  · next u hsession =>
    split at h
    · next havailable =>
      rcases wrote_update h with hold | ⟨ht, hk, old, hview, hguard, hset⟩
      · exact Or.inl hold
      · refine Or.inr ⟨ht, Or.inr (Or.inl ⟨u, old, hsession, hk, havailable, hview, hguard, ?_⟩)⟩
        rw [hset]
        rfl
    · exact Or.inl h
  · exact Or.inl h
  · next now limit k' rest hsession =>
    unfold Cluster.recoverNext at h
    split at h
    · next hready =>
      rw [Bool.and_eq_true] at hready
      rcases wrote_update h with hold | ⟨ht, hk, old, hview, hguard, hset⟩
      · exact Or.inl (wrote_acquire hold)
      · have hk' : k = k' := hk
        subst hk'
        have hview' : s.db.view t k = some old := by
          rw [← hview]
          exact (view_acquire k k).symm
        have hguard' : (old.row.leaseExpired now && old.row.leaseToken.isSome) = true := hguard
        rw [Bool.and_eq_true] at hguard'
        refine Or.inr ⟨ht, Or.inr (Or.inr ⟨now, limit, rest, old, hsession, hready.1, hview',
          hguard'.1, hguard'.2, ?_⟩)⟩
        rw [hset]
        rfl
    · exact Or.inl h
  · exact Or.inl h

@[simp] theorem committed_advance : (s.advance t).db.committed = s.db.committed := by
  unfold Cluster.advance
  split
  · rfl
  · unfold Cluster.tryLock
    split
    · split
      · split <;> rfl
      · rfl
    · rfl
  · exact committed_update _
  · split
    · exact committed_update _
    · rfl
  · rfl
  · unfold Cluster.recoverNext
    split
    · exact committed_update _
    · rfl
  · rfl

end Cluster

theorem reconciled_of_recovered {row : JobRow} {now limit : Nat}
    (htoken : row.leaseToken.isSome = true)
    (hterminal : (row.recovered now limit).state.isTerminal = true) :
    ∃ status, (row.recovered now limit).state.reconciled = some status := by
  rcases JobRow.recovered_cases htoken now limit with ⟨-, hcase⟩ | ⟨-, -, hcase⟩ | ⟨-, -, hcase⟩
  · exact ⟨.cancelled, by rw [hcase]; rfl⟩
  · exact ⟨.failed, by rw [hcase]; rfl⟩
  · rw [hcase] at hterminal
    cases hterminal

namespace ScanDesk

variable {T : Type} {s : ScanDesk T} {t : T}

/-! ## Vocabulary -/

/-- The job is committed as terminal. -/
def Ended (s : ScanDesk T) (jobId : String) : Prop :=
  ∃ job, s.cluster.db.committed jobId = some job ∧ job.row.state.isTerminal = true

/-- Every record of the job has `completed_at` set. -/
def RecordsClosed (s : ScanDesk T) (jobId : String) : Prop :=
  ∀ k r, s.records.committed k = some r → r.jobId = jobId → r.completedAt.isSome = true

/-- Once a job is terminal, its records are closed. -/
def Followed (s : ScanDesk T) : Prop := ∀ jobId, s.Ended jobId → s.RecordsClosed jobId

theorem not_followed_of_open {jobId scanId : String} (hended : s.Ended jobId)
    (hopen : (s.records.committed scanId).any
      (fun r => r.jobId == jobId && r.completedAt.isNone) = true) : ¬ s.Followed := by
  intro h
  obtain ⟨r, hr, hrecord⟩ := (any_eq_true _ _).mp hopen
  rw [Bool.and_eq_true, beq_iff_eq, isNone_iff_eq_none] at hrecord
  have hclosed := h jobId hended scanId r hr hrecord.1
  rw [hrecord.2] at hclosed
  cases hclosed

variable [DecidableEq T]

/-- The job is terminal, or an open transaction has written it as terminal. -/
def Ending (s : ScanDesk T) (jobId : String) : Prop :=
  s.Ended jobId ∨
    ∃ t job, s.cluster.db.Wrote t jobId job ∧ job.row.state.isTerminal = true

instance (s : ScanDesk T) (jobId : String) : Decidable (s.Ended jobId) :=
  decidable_of_iff ((s.cluster.db.committed jobId).any (fun job => job.row.state.isTerminal) = true)
    (any_eq_true _ _)

instance (s : ScanDesk Bool) (jobId : String) : Decidable (s.Ending jobId) :=
  decidable_of_iff
    (s.Ended jobId ∨
      ∃ t, (s.cluster.db.written t jobId).any (fun job => job.row.state.isTerminal) = true)
    (or_congr Iff.rfl (exists_congr fun _ => any_eq_true _ _))

/-- A record that the transaction has closed, or will have closed before it commits. -/
inductive Closes (s : ScanDesk T) (t : T) (jobId k : String) : Prop where
  | wrote {r : ScanRecordRow} (h : s.records.Wrote t k r)
  | reconciling {e : Reconcile} (hwork : s.work t = .reconciling e) (hjob : e.jobId = jobId)
  | touching {e : Reconcile} {rest : List String} (hwork : s.work t = .touching e rest)
      (hjob : e.jobId = jobId) (hk : k ∈ rest)

/--
The steps that the design counts on:

* a `create_scan` commits while its job is neither terminal nor about to be;
* a `complete_scan` meets a record that is open;
* an `UPDATE` that ends a job without reconciling its records finds them closed.
-/
def Orderly [Primitives] (s : ScanDesk T) : Input T → Prop
  | .job (.commit t) => ∀ record, s.work t = .inserting record → ¬ s.Ending record.jobId
  | .job (.advance t) =>
    (∀ c r, s.work t = .completing c → s.records.view t c.scanId = some r →
      r.completedAt = none) ∧
    ∀ u job, s.cluster.session t = .updating u → s.plan t = none →
      s.cluster.db.view t u.key = some job → u.guard job.row = true →
      (u.set job.row).state.isTerminal = true → s.RecordsClosed u.key
  | _ => True

def orderlyAdvance (s : ScanDesk T) (t : T) : Bool :=
  (match s.work t with
    | .completing c => (s.records.view t c.scanId).all fun r => r.completedAt.isNone
    | _ => true) &&
  match s.cluster.session t with
  | .updating _ => (s.plan t).isSome
  | _ => true

theorem orderly_of_advance [Primitives] (h : s.orderlyAdvance t = true) :
    s.Orderly (.job (.advance t)) := by
  unfold orderlyAdvance at h
  rw [Bool.and_eq_true] at h
  refine ⟨?_, ?_⟩
  · intro c r hwork hview
    have hopen := h.1
    rw [hwork] at hopen
    simpa [hview] using hopen
  · intro u job hsession hplan
    have hplanned := h.2
    rw [hsession, hplan] at hplanned
    cases hplanned

theorem orderly_of_commit [Primitives]
    (h : (match s.work t with | .inserting _ => false | _ => true) = true) :
    s.Orderly (.job (.commit t)) := by
  intro record hwork
  rw [hwork] at h
  cases h

def addsTo (s : ScanDesk T) (t : T) : Option String :=
  match s.work t with
  | .inserting record => some record.jobId
  | _ => none

theorem orderly_of_addsTo [Primitives] (jobId : String) (h : s.addsTo t = some jobId)
    (hopen : ¬ s.Ending jobId) : s.Orderly (.job (.commit t)) := by
  intro record hwork
  unfold addsTo at h
  rw [hwork] at h
  cases h
  exact hopen

/-! ## The invariant -/

structure Reconciled (s : ScanDesk T) : Prop where
  followed : s.Followed
  keyed : ∀ k r, s.records.committed k = some r → k ∈ s.records.keys
  versions : ∀ t k v, s.records.Wrote t k v → v.completedAt.isSome = true ∧
    ∃ r, s.records.committed k = some r ∧ r.completedAt = none ∧ v.jobId = r.jobId
  ending : ∀ t jobId job, s.cluster.db.Wrote t jobId job → job.row.state.isTerminal = true →
    ∀ k r, s.records.committed k = some r → r.jobId = jobId →
      r.completedAt.isSome = true ∨ s.Closes t jobId k
  plans : ∀ t u e, s.cluster.session t = .updating u → s.plan t = some e → e.jobId = u.key

theorem reconciled_empty : (empty : ScanDesk T).Reconciled where
  followed := by
    rintro jobId ⟨job, hjob, -⟩
    cases hjob
  keyed := by
    intro k r h
    cases h
  versions := by
    intro t k v h
    obtain ⟨l, hl, -⟩ := wrote_iff.mp h
    cases hl
  ending := by
    intro t jobId job h
    obtain ⟨l, hl, -⟩ := wrote_iff.mp h
    cases hl
  plans := by
    intro t u e h
    cases h

variable {k : String} {r : ScanRecordRow}

theorem Reconciled.view_closed (h : s.Reconciled) (hr : s.records.committed k = some r)
    (hclosed : r.completedAt.isSome = true) :
    s.records.view t k = some r := by
  obtain ⟨v, hv⟩ := view_isSome hr (t := t)
  rcases view_eq_some hv with hwrote | hcommitted
  · obtain ⟨-, r', hr', hopen, -⟩ := h.versions t k v hwrote
    rw [hr] at hr'
    cases hr'
    rw [hopen] at hclosed
    cases hclosed
  · rw [hv, ← hr, hcommitted]

theorem Reconciled.committed_of_open (h : s.Reconciled) (hview : s.records.view t k = some r)
    (hopen : r.completedAt = none) :
    s.records.committed k = some r := by
  rcases view_eq_some hview with hwrote | hcommitted
  · have hclosed := (h.versions t k r hwrote).1
    rw [hopen] at hclosed
    cases hclosed
  · exact hcommitted

@[simp] theorem work_turn_self (next : RecordWork) : (s.turn t next).work t = next := by
  simp [turn]

theorem work_turn_other {t' : T} (h : t' ≠ t) (next : RecordWork) :
    (s.turn t next).work t' = s.work t' := by
  simp [turn, h]

theorem Closes.other {s' : ScanDesk T} {jobId k : String} (h : s.Closes t jobId k)
    (hwork : s'.work t = s.work t)
    (hwrote : ∀ r, s.records.Wrote t k r → ∃ r', s'.records.Wrote t k r') :
    s'.Closes t jobId k := by
  cases h with
  | wrote h =>
    obtain ⟨r', hr'⟩ := hwrote _ h
    exact .wrote hr'
  | reconciling hw hjob => exact .reconciling (by rw [hwork, hw]) hjob
  | touching hw hjob hk => exact .touching (by rw [hwork, hw]) hjob hk

/-! ## Statements on the records -/

variable {next : RecordWork}

theorem Reconciled.keep (h : s.Reconciled) {records : Database String ScanRecordRow T}
    (hcommitted : records.committed = s.records.committed)
    (hkeys : records.keys = s.records.keys)
    (hversions : ∀ t k v, records.Wrote t k v → v.completedAt.isSome = true ∧
      ∃ r, s.records.committed k = some r ∧ r.completedAt = none ∧ v.jobId = r.jobId)
    (hwrote : ∀ t k v, s.records.Wrote t k v → ∃ v', records.Wrote t k v')
    (hcloses : ∀ jobId k r, s.records.committed k = some r → r.jobId = jobId →
      s.Closes t jobId k → r.completedAt.isSome = true ∨
        Closes (turn { s with records := records } t next) t jobId k) :
    (turn { s with records := records } t next).Reconciled := by
  refine ⟨?_, ?_, ?_, ?_, h.plans⟩
  · intro jobId hended k r hr hjob
    exact h.followed jobId hended k r ((congrFun hcommitted k).symm.trans hr) hjob
  · intro k r hr
    show k ∈ records.keys
    rw [hkeys]
    exact h.keyed k r ((congrFun hcommitted k).symm.trans hr)
  · intro t' k v hv
    obtain ⟨hclosed, r, hr, hrest⟩ := hversions t' k v hv
    exact ⟨hclosed, r, (congrFun hcommitted k).trans hr, hrest⟩
  · intro t' jobId job hjob hterminal k r hr hrjob
    have hr' : s.records.committed k = some r := (congrFun hcommitted k).symm.trans hr
    rcases h.ending t' jobId job hjob hterminal k r hr' hrjob with hclosed | hold
    · exact Or.inl hclosed
    · by_cases ht : t' = t
      · subst ht
        exact hcloses jobId k r hr' hrjob hold
      · exact Or.inr (hold.other (work_turn_other ht next) (hwrote t' k))

theorem Reconciled.update (h : s.Reconciled) {u : Update String ScanRecordRow}
    (havailable : s.records.available t u.key = true)
    (hset : ∀ r, s.records.view t u.key = some r → u.guard r = true →
      r.completedAt = none ∧ (u.set r).completedAt.isSome = true ∧ (u.set r).jobId = r.jobId)
    (hcloses : ∀ jobId k r, s.records.committed k = some r → r.jobId = jobId →
      s.Closes t jobId k → r.completedAt.isSome = true ∨
        Closes (turn { s with records := (s.records.update t u).1 } t next) t jobId k) :
    (turn { s with records := (s.records.update t u).1 } t next).Reconciled := by
  refine h.keep (committed_update _) (keys_update _) ?_
    (fun t' k v => exists_wrote_update havailable) hcloses
  intro t' k v hv
  rcases wrote_update hv with hold | ⟨-, rfl, old, hview, hguard, rfl⟩
  · exact h.versions t' k v hold
  · obtain ⟨hopen, hclosed, hjob⟩ := hset old hview hguard
    exact ⟨hclosed, old, h.committed_of_open hview hopen, hopen, hjob⟩

theorem Reconciled.completing (h : s.Reconciled) {c : CompleteScan}
    (hwork : s.work t = .completing c) (havailable : s.records.available t c.scanId = true)
    (hopen : ∀ r, s.records.view t c.scanId = some r → r.completedAt = none) :
    (turn { s with records := (s.records.update t c.statement).1 } t .completed).Reconciled := by
  refine h.update havailable ?_ ?_
  · intro r hview _
    exact ⟨hopen r hview, rfl, rfl⟩
  · intro jobId k r _ _ hold
    cases hold with
    | wrote hv =>
      obtain ⟨v', hv'⟩ := exists_wrote_update (u := c.statement) havailable hv
      exact Or.inr (.wrote hv')
    | reconciling hw _ =>
      rw [hwork] at hw
      cases hw
    | touching hw _ _ =>
      rw [hwork] at hw
      cases hw

theorem Reconciled.reconciling (h : s.Reconciled) {e : Reconcile}
    (hwork : s.work t = .reconciling e) :
    (s.turn t (.touching e (s.openRecords t e.jobId))).Reconciled := by
  refine h.keep rfl rfl h.versions (fun _ _ v hv => ⟨v, hv⟩) ?_
  intro jobId k r hr hjob hold
  cases hold with
  | wrote hv => exact Or.inr (.wrote hv)
  | touching hw _ _ =>
    rw [hwork] at hw
    cases hw
  | reconciling hw hjob' =>
    rw [hwork] at hw
    cases hw
    obtain ⟨v, hv⟩ := view_isSome hr (t := t)
    rcases view_eq_some hv with hwrote | hcommitted
    · exact Or.inr (.wrote hwrote)
    · rw [hr] at hcommitted
      cases hcommitted
      cases hcompleted : r.completedAt with
      | some moment => exact Or.inl rfl
      | none =>
        refine Or.inr (.touching (work_turn_self _) hjob' ?_)
        refine List.mem_filter.mpr ⟨h.keyed k r hr, ?_⟩
        rw [hv, any_some, hcompleted, hjob, hjob']
        simp

theorem Reconciled.touching (h : s.Reconciled) {e : Reconcile} {rest : List String}
    (hwork : s.work t = .touching e (k :: rest)) (havailable : s.records.available t k = true) :
    (turn { s with records := (s.records.update t (e.statement k)).1 } t
      (.touching e rest)).Reconciled := by
  refine h.update havailable ?_ ?_
  · intro r _ hguard
    have hguard' : (r.jobId == e.jobId && r.completedAt.isNone) = true := hguard
    rw [Bool.and_eq_true, isNone_iff_eq_none] at hguard'
    refine ⟨hguard'.2, ?_, rfl⟩
    show (r.completedAt.or (some e.moment)).isSome = true
    rw [hguard'.2]
    rfl
  · intro jobId k' r hr hjob hold
    have hwrites : ∀ v, s.records.Wrote t k' v → Closes (turn
        { s with records := (s.records.update t (e.statement k)).1 } t (.touching e rest))
          t jobId k' := by
      intro v hv
      obtain ⟨v', hv'⟩ := exists_wrote_update (u := e.statement k) havailable hv
      exact .wrote hv'
    cases hold with
    | wrote hv => exact Or.inr (hwrites _ hv)
    | reconciling hw _ =>
      rw [hwork] at hw
      cases hw
    | touching hw hjob' hk =>
      rw [hwork] at hw
      cases hw
      rcases List.mem_cons.mp hk with rfl | hrest
      · -- The record at hand: closed already, or closed by this statement.
        obtain ⟨v, hv⟩ := view_isSome hr (t := t)
        rcases view_eq_some hv with hwrote | hcommitted
        · exact Or.inr (hwrites v hwrote)
        · rw [hr] at hcommitted
          cases hcommitted
          cases hcompleted : r.completedAt with
          | some moment => exact Or.inl rfl
          | none =>
            refine Or.inr (.wrote (wrote_update_self (u := e.statement k') hv ?_))
            show (r.jobId == e.jobId && r.completedAt.isNone) = true
            rw [hcompleted, hjob, hjob']
            simp
      · exact Or.inr (.touching (work_turn_self _) hjob' hrest)

/-! ## Statements on the jobs -/

theorem Reconciled.jobStatement (h : s.Reconciled) (hwork : s.work t = .none)
    (horderly : ∀ u job, s.cluster.session t = .updating u → s.plan t = none →
      s.cluster.db.view t u.key = some job → u.guard job.row = true →
      (u.set job.row).state.isTerminal = true → s.RecordsClosed u.key)
    (hnext : ∀ e, s.due t = some e → next = .reconciling e) :
    (turn { s with cluster := s.cluster.advance t } t next).Reconciled := by
  refine ⟨?_, h.keyed, h.versions, ?_, ?_⟩
  · rintro jobId ⟨job, hjob, hterminal⟩
    exact h.followed jobId ⟨job, by rw [← hjob]; simp [turn], hterminal⟩
  · intro t' jobId job hjob hterminal k r hr hrjob
    have hkept : ∀ t', s.Closes t' jobId k →
        Closes (turn { s with cluster := s.cluster.advance t } t next) t' jobId k := by
      intro t' hold
      by_cases ht : t' = t
      · subst ht
        cases hold with
        | wrote hv => exact .wrote hv
        | reconciling hw _ =>
          rw [hwork] at hw
          cases hw
        | touching hw _ _ =>
          rw [hwork] at hw
          cases hw
      · exact hold.other (work_turn_other ht next) (fun v hv => ⟨v, hv⟩)
    rcases Cluster.wrote_advance hjob with hold | ⟨rfl, hrunning | hupdated | hrecovered⟩
    · exact (h.ending t' jobId job hold hterminal k r hr hrjob).imp id (hkept t')
    · rw [hrunning] at hterminal
      cases hterminal
    · obtain ⟨u, old, hsession, rfl, havailable, hview, hguard, hset⟩ := hupdated
      rw [hset] at hterminal
      cases hplan : s.plan t' with
      | none => exact Or.inl (horderly u old hsession hplan hview hguard hterminal k r hr hrjob)
      | some e =>
        have hdue : s.due t' = some e := by
          unfold due
          rw [hsession]
          simp only [havailable, hview, any_some, hguard, Bool.and_self, if_true]
          exact hplan
        refine Or.inr (.reconciling ?_ (h.plans t' u e hsession hplan))
        rw [work_turn_self, hnext e hdue]
    · obtain ⟨now, limit, rest, old, hsession, havailable, hview, hexpired, htoken, hset⟩ :=
        hrecovered
      rw [hset] at hterminal
      obtain ⟨status, hstatus⟩ := reconciled_of_recovered htoken hterminal
      have hdue : s.due t' = some
          { jobId, status, moment := noEarlierThan now old.row.submittedAt } := by
        unfold due
        rw [hsession]
        simp [havailable, hview, hexpired, htoken, hstatus]
      have hturn := work_turn_self (s := { s with cluster := s.cluster.advance t' }) (t := t') next
      rw [hnext _ hdue] at hturn
      rw [hnext _ hdue]
      exact Or.inr (.reconciling hturn rfl)
  · intro t' u e hsession hplan
    exact h.plans t' u e (Cluster.updating_advance hsession) hplan

/-! ## Ends of transactions -/

theorem Reconciled.committed_commit (h : s.Reconciled)
    (hr : (s.records.commit t).committed k = some r) :
    (r.completedAt.isSome = true ∧ ∃ v, s.records.Wrote t k v) ∨
      s.records.committed k = some r := by
  rcases view_eq_some hr with hwrote | hcommitted
  · exact Or.inl ⟨(h.versions t k r hwrote).1, r, hwrote⟩
  · exact Or.inr hcommitted

theorem Reconciled.closed_of_wrote (h : s.Reconciled) {r v : ScanRecordRow}
    (hr : (s.records.commit t).committed k = some r) (hv : s.records.Wrote t k v) :
    r.completedAt.isSome = true := by
  have hview : s.records.view t k = some r := hr
  rw [view, show s.records.written t k = some v from hv, some_or] at hview
  rw [← some.inj hview]
  exact (h.versions t k v hv).1

theorem Reconciled.keyed_commit (h : s.Reconciled)
    (hr : (s.records.commit t).committed k = some r) : k ∈ (s.records.commit t).keys := by
  rcases view_eq_some hr with hwrote | hcommitted
  · obtain ⟨-, r', hr', -⟩ := h.versions t k r hwrote
    exact h.keyed k r' hr'
  · exact h.keyed k r hcommitted

theorem Reconciled.versions_commit (h : s.Reconciled) {t' : T} {v : ScanRecordRow}
    (hv : (s.records.commit t).Wrote t' k v) : v.completedAt.isSome = true ∧
      ∃ r, (s.records.commit t).committed k = some r ∧ r.completedAt = none ∧
        v.jobId = r.jobId := by
  obtain ⟨hne, hold⟩ := wrote_of_released rfl hv
  obtain ⟨hclosed, r, hr, hrest⟩ := h.versions t' k v hold
  exact ⟨hclosed, r, (view_of_wrote hold hne).trans hr, hrest⟩

theorem Reconciled.ending_commit (h : s.Reconciled) (s' : ScanDesk T)
    (hrecords : s'.records = s.records.commit t) (hwork : ∀ t', t' ≠ t → s'.work t' = s.work t')
    {t' : T} (hne : t' ≠ t) {jobId : String} {job : PgJob}
    (hjob : s.cluster.db.Wrote t' jobId job) (hterminal : job.row.state.isTerminal = true)
    (hr : s'.records.committed k = some r)
    (hrjob : r.jobId = jobId) : r.completedAt.isSome = true ∨ s'.Closes t' jobId k := by
  rw [hrecords] at hr
  rcases h.committed_commit hr with ⟨hclosed, -⟩ | hold
  · exact Or.inl hclosed
  · refine (h.ending t' jobId job hjob hterminal k r hold hrjob).imp id ?_
    intro hcloses
    refine hcloses.other (hwork t' hne) ?_
    intro v hv
    rw [hrecords]
    exact ⟨v, wrote_released_other rfl hv hne⟩

theorem Reconciled.commitCompleted (h : s.Reconciled) (hwork : s.work t = .completed) :
    (turn { s with records := s.records.commit t } t .none).Reconciled := by
  refine ⟨?_, fun k r => h.keyed_commit, fun t' k v => h.versions_commit, ?_, h.plans⟩
  · intro jobId hended k r hr hjob
    rcases h.committed_commit hr with ⟨hclosed, -⟩ | hold
    · exact hclosed
    · exact h.followed jobId hended k r hold hjob
  · intro t' jobId job hjob hterminal k r hr hrjob
    by_cases ht : t' = t
    · subst ht
      refine Or.inl ?_
      rcases h.committed_commit hr with ⟨hclosed, -⟩ | hold
      · exact hclosed
      · rcases h.ending t' jobId job hjob hterminal k r hold hrjob with hclosed | hcloses
        · exact hclosed
        · cases hcloses with
          | wrote hv => exact h.closed_of_wrote hr hv
          | reconciling hw _ =>
            rw [hwork] at hw
            cases hw
          | touching hw _ _ =>
            rw [hwork] at hw
            cases hw
    · exact h.ending_commit (turn { s with records := s.records.commit t } t .none) rfl
        (fun t' hne => work_turn_other hne _) ht hjob hterminal hr hrjob

theorem Reconciled.commitInserted (h : s.Reconciled) {record : ScanRecordRow}
    (hwork : s.work t = .inserting record) (hending : ¬ s.Ending record.jobId) :
    (turn { s with records := s.records.insert record.scanId record } t .none).Reconciled := by
  have hcommitted : ∀ k r, (s.records.insert record.scanId record).committed k = some r →
      s.records.committed k = some r ∨ r = record := by
    intro k r hr
    rcases committed_insert hr with hold | ⟨-, hnew⟩
    · exact Or.inl hold
    · exact Or.inr hnew
  have hwrote : ∀ t' k v, (s.records.insert record.scanId record).Wrote t' k v ↔
      s.records.Wrote t' k v := by
    intro t' k v
    rw [wrote_iff, wrote_iff, lock_insert]
  refine ⟨?_, ?_, ?_, ?_, h.plans⟩
  · intro jobId hended k r hr hjob
    rcases hcommitted k r hr with hold | rfl
    · exact h.followed jobId hended k r hold hjob
    · exact absurd (Or.inl (hjob ▸ hended)) hending
  · intro k r hr
    exact mem_keys_insert h.keyed hr
  · intro t' k v hv
    obtain ⟨hclosed, r, hr, hrest⟩ := h.versions t' k v ((hwrote t' k v).mp hv)
    exact ⟨hclosed, r, committed_insert_of_some hr, hrest⟩
  · intro t' jobId job hjob hterminal k r hr hrjob
    rcases hcommitted k r hr with hold | rfl
    · refine (h.ending t' jobId job hjob hterminal k r hold hrjob).imp id ?_
      intro hcloses
      by_cases ht : t' = t
      · subst ht
        cases hcloses with
        | wrote hv => exact .wrote ((hwrote t' k _).mpr hv)
        | reconciling hw _ =>
          rw [hwork] at hw
          cases hw
        | touching hw _ _ =>
          rw [hwork] at hw
          cases hw
      · refine hcloses.other (work_turn_other ht _) ?_
        intro v hv
        exact ⟨v, (hwrote t' k v).mpr hv⟩
    · exact absurd (Or.inr ⟨t', job, hrjob ▸ hjob, hterminal⟩) hending

section

variable [Primitives]

omit [Primitives] in
theorem Reconciled.commitJob (h : s.Reconciled) (hwork : s.work t = .none)
    {cluster : Cluster T} (hdb : cluster.db = s.cluster.db.commit t)
    (hsession : ∀ t' u, cluster.session t' = .updating u → s.cluster.session t' = .updating u) :
    Reconciled { s with cluster := cluster, records := s.records.commit t } := by
  have hown : ∀ jobId job k r, s.cluster.db.Wrote t jobId job →
      job.row.state.isTerminal = true → (s.records.commit t).committed k = some r →
      r.jobId = jobId → r.completedAt.isSome = true := by
    intro jobId job k r hjob hterminal hr hrjob
    rcases h.committed_commit hr with ⟨hclosed, -⟩ | hold
    · exact hclosed
    · rcases h.ending t jobId job hjob hterminal k r hold hrjob with hclosed | hcloses
      · exact hclosed
      · cases hcloses with
        | wrote hv => exact h.closed_of_wrote hr hv
        | reconciling hw _ =>
          rw [hwork] at hw
          cases hw
        | touching hw _ _ =>
          rw [hwork] at hw
          cases hw
  refine ⟨?_, fun k r => h.keyed_commit, fun t' k v => h.versions_commit, ?_, ?_⟩
  · rintro jobId ⟨job, hjob, hterminal⟩ k r hr hrjob
    have hview : s.cluster.db.view t jobId = some job := by
      have hjob' : cluster.db.committed jobId = some job := hjob
      rw [hdb] at hjob'
      exact hjob'
    rcases view_eq_some hview with hwrote | hcommitted
    · exact hown jobId job k r hwrote hterminal hr hrjob
    · rcases h.committed_commit hr with ⟨hclosed, -⟩ | hold
      · exact hclosed
      · exact h.followed jobId ⟨job, hcommitted, hterminal⟩ k r hold hrjob
  · intro t' jobId job hjob hterminal k r hr hrjob
    have hjob' : cluster.db.Wrote t' jobId job := hjob
    rw [hdb] at hjob'
    obtain ⟨hne, hold⟩ := wrote_of_released rfl hjob'
    exact h.ending_commit { s with cluster := cluster, records := s.records.commit t } rfl
      (fun _ _ => rfl) hne hold hterminal hr hrjob
  · intro t' u e hu hplan
    exact h.plans t' u e (hsession t' u hu) hplan

theorem Reconciled.commit (h : s.Reconciled) (horderly : s.Orderly (.job (.commit t))) :
    (s.commit t).Reconciled := by
  unfold ScanDesk.commit
  split
  · next record hwork => exact h.commitInserted hwork (horderly record hwork)
  · next hwork => exact h.commitCompleted hwork
  · next hwork =>
    have hidle : ∀ (t' : T) (u : RowUpdate),
        (Cluster.enter { s.cluster with db := s.cluster.db.commit t } t .idle).session t'
          = .updating u → s.cluster.session t' = .updating u := by
      intro t' u hu
      by_cases ht : t' = t
      · subst ht
        rw [Cluster.session_enter_self] at hu
        cases hu
      · rw [Cluster.session_enter_other ht] at hu
        exact hu
    split
    · next hsession =>
      refine h.commitJob hwork ?_ ?_
      · simp only [Cluster.step, hsession]
        rfl
      · simp only [Cluster.step, hsession]
        exact hidle
    · next hsession =>
      refine h.commitJob hwork ?_ ?_
      · simp only [Cluster.step, hsession]
        rfl
      · simp only [Cluster.step, hsession]
        exact hidle
    · exact h
  · exact h

theorem Reconciled.abort (h : s.Reconciled) :
    ((turn { s with cluster := s.cluster.step (.abort t), records := s.records.abort t } t
      .none).expect t none).Reconciled := by
  refine ⟨h.followed, h.keyed, ?_, ?_, ?_⟩
  · intro t' k v hv
    obtain ⟨-, hold⟩ := wrote_of_released rfl hv
    exact h.versions t' k v hold
  · intro t' jobId job hjob hterminal k r hr hrjob
    obtain ⟨hne, hold⟩ := wrote_of_released rfl hjob
    refine (h.ending t' jobId job hold hterminal k r hr hrjob).imp id ?_
    intro hcloses
    refine hcloses.other (work_turn_other hne _) ?_
    intro v hv
    exact ⟨v, wrote_released_other rfl hv hne⟩
  · intro t' u e hu hplan
    by_cases ht : t' = t
    · subst ht
      simp [expect] at hplan
    · have hu' : (Cluster.enter { s.cluster with db := s.cluster.db.abort t } t .idle).session t'
          = .updating u := hu
      rw [Cluster.session_enter_other ht] at hu'
      refine h.plans t' u e hu' ?_
      simpa [expect, turn, ht] using hplan

/-! ## Beginnings -/

theorem Reconciled.begin (h : s.Reconciled) {input : PgInput T} {plan : Option Reconcile}
    (howner : Cluster.owner input = some t)
    (hplan : ∀ u e, (s.cluster.step input).session t = .updating u → plan = some e →
      e.jobId = u.key) :
    (expect { s with cluster := s.cluster.step input } t plan).Reconciled := by
  have hdb : (s.cluster.step input).db = s.cluster.db := by
    rcases Cluster.step_of_owner howner (s := s.cluster) with hsame | ⟨-, hbegin⟩
    · rw [hsame]
    · rw [hbegin, Cluster.db_begin]
  refine ⟨?_, h.keyed, h.versions, ?_, ?_⟩
  · rintro jobId ⟨job, hjob, hterminal⟩
    refine h.followed jobId ⟨job, ?_, hterminal⟩
    rw [← hdb]
    exact hjob
  · intro t' jobId job hjob hterminal k r hr hrjob
    have hjob' : (s.cluster.step input).db.Wrote t' jobId job := hjob
    rw [hdb] at hjob'
    refine (h.ending t' jobId job hjob' hterminal k r hr hrjob).imp id ?_
    intro hcloses
    exact hcloses.other rfl (fun v hv => ⟨v, hv⟩)
  · intro t' u e hu hplan'
    by_cases ht : t' = t
    · subst ht
      refine hplan u e hu ?_
      simpa [expect] using hplan'
    · have hsession : (s.cluster.step input).session t' = s.cluster.session t' := by
        rcases Cluster.step_of_owner howner (s := s.cluster) with hsame | ⟨-, hbegin⟩
        · rw [hsame]
        · rw [hbegin]
          exact Cluster.session_begin_other howner ht
      refine h.plans t' u e (hsession.symm.trans hu) ?_
      simpa [expect, ht] using hplan'

theorem key_terminalUpdate {c : Cluster T} {jobId : String} {write : PgTerminalWrite} {now : Nat}
    {u : RowUpdate} (hidle : c.session t = .idle)
    (h : (c.step (.terminalUpdate t jobId write now)).session t = .updating u) :
    u.key = jobId := by
  have howner : Cluster.owner (.terminalUpdate t jobId write now) = some t := rfl
  rcases Cluster.step_of_owner howner (s := c) with hsame | ⟨-, hbegin⟩
  · rw [hsame, hidle] at h
    cases h
  · rw [hbegin] at h
    simp only [Cluster.begin] at h
    split at h
    · rw [hidle] at h
      cases h
    · unfold Cluster.afterRead at h
      split at h
      · rw [Cluster.session_enter_self] at h
        cases h
      · split at h
        · next statement hstatement =>
          rw [Cluster.session_enter_self] at h
          cases h
          obtain ⟨_, -, hstatement⟩ := Atomic.bind_ok hstatement
          obtain ⟨_, -, hstatement⟩ := Atomic.bind_ok hstatement
          cases hstatement
          rfl
        · rw [Cluster.session_enter_self] at h
          cases h

omit [Primitives] [DecidableEq T] in
theorem work_of_free (h : s.free t = true) : s.work t = .none ∧ s.cluster.session t = .idle := by
  unfold free at h
  split at h
  · next hwork hsession => exact ⟨hwork, hsession⟩
  · cases h

omit [Primitives] in
theorem Reconciled.start (h : s.Reconciled) (hfree : s.free t = true) (next : RecordWork) :
    (s.turn t next).Reconciled := by
  refine h.keep rfl rfl h.versions (fun _ _ v hv => ⟨v, hv⟩) ?_
  intro jobId k r _ _ hold
  have hwork := (work_of_free hfree).1
  cases hold with
  | wrote hv => exact Or.inr (.wrote hv)
  | reconciling hw _ =>
    rw [hwork] at hw
    cases hw
  | touching hw _ _ =>
    rw [hwork] at hw
    cases hw

/-! ## Every step, every run -/

theorem Reconciled.advance (h : s.Reconciled) (horderly : s.Orderly (.job (.advance t))) :
    (s.advance t).Reconciled := by
  unfold ScanDesk.advance
  split
  · exact h
  · exact h
  · next c hwork =>
    split
    · next havailable => exact h.completing hwork havailable fun r => horderly.1 c r hwork
    · exact h
  · next e hwork => exact h.reconciling hwork
  · next e hwork =>
    refine h.keep rfl rfl h.versions (fun _ _ v hv => ⟨v, hv⟩) ?_
    intro jobId k r _ _ hold
    cases hold with
    | wrote hv => exact Or.inr (.wrote hv)
    | reconciling hw _ =>
      rw [hwork] at hw
      cases hw
    | touching hw _ hk =>
      rw [hwork] at hw
      cases hw
      cases hk
  · next e k rest hwork =>
    split
    · next havailable => exact h.touching hwork havailable
    · exact h
  · next hwork =>
    refine h.jobStatement hwork horderly.2 ?_
    intro e he
    rw [he]

theorem Reconciled.outside (h : s.Reconciled) {input : PgInput T}
    (howner : Cluster.owner input = none) (hacts : Cluster.acts input = none) :
    Reconciled { s with cluster := s.cluster.step input } := by
  cases input with
  | insert job =>
    simp only [Cluster.step]
    split
    · next hqueued =>
      refine ⟨?_, h.keyed, h.versions, ?_, h.plans⟩
      · rintro jobId ⟨job', hjob', hterminal⟩
        rcases committed_insert hjob' with hold | ⟨-, rfl⟩
        · exact h.followed jobId ⟨job', hold, hterminal⟩
        · rw [hqueued] at hterminal
          cases hterminal
      · intro t' jobId job' hjob' hterminal k r hr hrjob
        have hold : s.cluster.db.Wrote t' jobId job' := by
          rw [wrote_iff] at hjob' ⊢
          rwa [lock_insert] at hjob'
        refine (h.ending t' jobId job' hold hterminal k r hr hrjob).imp id ?_
        intro hcloses
        exact hcloses.other rfl (fun v hv => ⟨v, hv⟩)
    · exact h
  | administer permits assignments =>
    refine ⟨h.followed, h.keyed, h.versions, ?_, h.plans⟩
    intro t' jobId job hjob hterminal k r hr hrjob
    refine (h.ending t' jobId job hjob hterminal k r hr hrjob).imp id ?_
    intro hcloses
    exact hcloses.other rfl (fun v hv => ⟨v, hv⟩)
  | advance t => cases hacts
  | commit t => cases hacts
  | abort t => cases hacts
  | _ => cases howner

theorem Reconciled.step (h : s.Reconciled) (input : Input T) (horderly : s.Orderly input) :
    (s.step input).Reconciled := by
  have hbegin : ∀ (t : T) (input : PgInput T), Cluster.owner input = some t →
      Reconciled (if s.free t then expect { s with cluster := s.cluster.step input } t none
        else s) := by
    intro t input howner
    split
    · refine h.begin howner ?_
      intro u e _ hnone
      cases hnone
    · exact h
  cases input with
  | createScan t scanId organizationId jobId now =>
    simp only [ScanDesk.step]
    split
    · next hready =>
      rw [Bool.and_eq_true, Bool.and_eq_true] at hready
      exact h.start hready.1.1 _
    · exact h
  | completeScan t scan =>
    simp only [ScanDesk.step]
    split
    · next hfree => exact h.start hfree _
    · exact h
  | job input =>
    cases input with
    | advance t => exact h.advance horderly
    | commit t => exact h.commit horderly
    | abort t => exact h.abort
    | terminalUpdate t jobId write now =>
      simp only [ScanDesk.step]
      split
      · next hfree =>
        refine h.begin rfl ?_
        intro u e hu he
        rw [key_terminalUpdate (work_of_free hfree).2 hu]
        unfold planned at he
        split at he
        · cases he
          rfl
        · cases he
      · exact h
    | insert job => exact h.outside rfl rfl
    | administer permits assignments => exact h.outside rfl rfl
    | claimNextLeased t now workerId leaseSeconds leaseToken => exact hbegin t _ rfl
    | renewLease t jobId workerId leaseToken now leaseSeconds => exact hbegin t _ rfl
    | recoverExpiredLeases t now maximumAttempts => exact hbegin t _ rfl
    | requestCancellation t jobId now => exact hbegin t _ rfl

theorem Reconciled.closed_step (h : s.Reconciled) (input : Input T) {k : String}
    {r : ScanRecordRow} (hr : s.records.committed k = some r)
    (hclosed : r.completedAt.isSome = true) : (s.step input).records.committed k = some r := by
  cases input with
  | createScan t scanId organizationId jobId now =>
    simp only [ScanDesk.step]
    split <;> exact hr
  | completeScan t scan =>
    simp only [ScanDesk.step]
    split <;> exact hr
  | job input =>
    cases input with
    | advance t =>
      simp only [ScanDesk.step, ScanDesk.advance]
      split
      · exact hr
      · exact hr
      · split
        · exact (congrFun (committed_update _) k).trans hr
        · exact hr
      · exact hr
      · exact hr
      · split
        · exact (congrFun (committed_update _) k).trans hr
        · exact hr
      · exact hr
    | commit t =>
      simp only [ScanDesk.step, ScanDesk.commit]
      split
      · exact committed_insert_of_some hr
      · exact h.view_closed hr hclosed
      · split
        · exact h.view_closed hr hclosed
        · exact h.view_closed hr hclosed
        · exact hr
      · exact hr
    | abort t => exact hr
    | terminalUpdate t jobId write now =>
      simp only [ScanDesk.step]
      split <;> exact hr
    | insert job => exact hr
    | administer permits assignments => exact hr
    | claimNextLeased t now workerId leaseSeconds leaseToken =>
      simp only [ScanDesk.step, Cluster.owner]
      split <;> exact hr
    | renewLease t jobId workerId leaseToken now leaseSeconds =>
      simp only [ScanDesk.step, Cluster.owner]
      split <;> exact hr
    | recoverExpiredLeases t now maximumAttempts =>
      simp only [ScanDesk.step, Cluster.owner]
      split <;> exact hr
    | requestCancellation t jobId now =>
      simp only [ScanDesk.step, Cluster.owner]
      split <;> exact hr

end

end ScanDesk

/-! ## Two attempts -/

def sampleScanId : String := "00000000-0000-4000-8000-0000000000a1"

def otherScanId : String := "00000000-0000-4000-8000-0000000000a2"

def sampleAttempt (t : Bool) (worker token scanId : String) (now : Nat) :
    List (ScanDesk.Input Bool) :=
  letI := samplePrimitives
  [.job (.claimNextLeased t now worker (30 * second) token), .job (.advance t), .job (.advance t),
    .job (.commit t), .createScan t scanId sampleOrganizationId sampleJobId now, .job (.commit t)]

def sampleSubmitted : List (ScanDesk.Input Bool) :=
  letI := samplePrimitives
  [.job (.insert { row := newJobRow sampleJobId sampleRequest 100 })]

def failedAttempt : List (ScanDesk.Input Bool) :=
  letI := samplePrimitives
  sampleSubmitted ++ sampleAttempt true "worker-a" "lease-a" sampleScanId 200 ++
    [.job (.terminalUpdate true sampleJobId
        { state := .failed, workerId := some "worker-a", leaseToken := some "lease-a"
          errorCode := some "scan_failed", errorMessage := some "The scan failed."
          terminal := rfl } 300),
      .job (.advance true), .job (.advance true), .job (.advance true), .job (.advance true),
      .job (.commit true)]

def requeuedAttempt : List (ScanDesk.Input Bool) :=
  letI := samplePrimitives
  sampleSubmitted ++ sampleAttempt true "worker-a" "lease-a" sampleScanId 200 ++
    [.job (.recoverExpiredLeases false (40 * second) 3), .job (.advance false),
      .job (.advance false), .job (.commit false)] ++
    sampleAttempt false "worker-b" "lease-b" otherScanId (41 * second) ++
    [.completeScan false
        { scanId := otherScanId, organizationId := sampleOrganizationId, status := .completed
          reportRef := some "report.json", findingCount := 0, now := 42 * second },
      .job (.advance false), .job (.commit false),
      .job (.terminalUpdate false sampleJobId
        { state := .completed, workerId := some "worker-b", leaseToken := some "lease-b"
          scanId := some otherScanId, resultStatus := some .completed
          reportRef := some "report.json", auditRef := some "audit.json"
          terminal := rfl } (43 * second)),
      .job (.advance false), .job (.commit false)]

end WebGuard
