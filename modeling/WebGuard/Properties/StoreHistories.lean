import WebGuard.Postgres.Moves
import WebGuard.Properties.PermitChecks
import WebGuard.Properties.Permits
import WebGuard.Properties.Schedules
import WebGuard.Store.Refinement

/-!
# The histories of a job, a schedule and a permit

Whatever is called and in whatever order, a row that is there stays, and goes from version to
version by the moves of its kind (`Runs.Path`). Every move raises the revision, so a reader who
finds the revision that it has seen finds the row that it has seen.
-/

namespace WebGuard

open Relational Atomic Option Cluster Runs

section

variable [Primitives]

/-! ## Jobs -/

/-- What a call can do to a job, whatever else the store holds. -/
def JobMove (op : Op) (row row' : JobRow) : Prop := ∃ s, RowStep s op row row'

/-- The columns that a request fixes. -/
def JobRow.requested (row : JobRow) : String × String × ScanJobRequestFields :=
  (row.jobId, row.requestFingerprint, row.requestFields)

variable {op : Op} {j id : String} {row : ScheduleRow}

theorem JobMove.spec {row row' : JobRow} (h : JobMove op row row') :
    row'.revision = row.revision + 1 ∧ row'.requested = row.requested := by
  obtain ⟨s, h⟩ := h
  cases h with
  | @recover now limit _ hlimit hexpired htoken =>
    rcases JobRow.recovered_cases htoken now limit with ⟨-, hrow⟩ | ⟨-, -, hrow⟩ | ⟨-, -, hrow⟩
    all_goals
      rw [hrow]
      exact ⟨rfl, rfl⟩
  | _ => exact ⟨rfl, rfl⟩

variable {s : Store}

theorem job_path {row : JobRow} (hrow : s.job j = some row) (ops : List Op) :
    ∃ row' calls, (s.run ops).job j = some row' ∧ calls.Sublist ops ∧
      Runs.Path JobMove calls row row' := by
  refine path_of_run (P := fun _ => True) (C := fun t : Store => t.job j)
    (fun _ _ _ => trivial) ?_ trivial hrow ops
  intro t op r _ hr
  obtain ⟨r', hr', hsame | hstep⟩ := job_apply_isSome hr op
  · exact ⟨r', hr', Or.inl hsame⟩
  · exact ⟨r', hr', Or.inr ⟨t, hstep⟩⟩

theorem binding_run {row : JobRow} (hrow : s.job j = some row) (ops : List Op) :
    (s.run ops).binding j = s.binding j := by
  have hkept : (∃ r, (s.run ops).job j = some r) ∧ (s.run ops).binding j = s.binding j := by
    refine run_induction
      (P := fun t : Store => (∃ r, t.job j = some r) ∧ t.binding j = s.binding j)
      ?_ ⟨⟨row, hrow⟩, rfl⟩ ops
    rintro t op ⟨⟨r, hr⟩, hbinding⟩
    obtain ⟨r', hr', -⟩ := job_apply_isSome hr op
    exact ⟨⟨r', hr'⟩, (binding_apply hr op).trans hbinding⟩
  exact hkept.2

variable (before after : List Op)

/--
**A job is never lost, and its history is one of the lease machine.**

Of the calls after a point, some have moved the job, each by the action of the fenced lease that it
performs, and the revision counts them. What was requested, and under which permit, stays.
-/
theorem job_history {j : String} {row : JobRow}
    (hrow : (Store.empty.run before).job j = some row) :
    ∃ row' calls actions, (Store.empty.run (before ++ after)).job j = some row' ∧
      calls.Sublist after ∧ List.Forall₂ Performs calls actions ∧
      Runs.Path (fun action lease lease' => FencedLease.Step lease action lease') actions
        row.lease row'.lease ∧
      row'.revision = row.revision + calls.length ∧
      (row'.revision = row.revision → row' = row) ∧ row'.requested = row.requested ∧
      (Store.empty.run (before ++ after)).binding j = (Store.empty.run before).binding j := by
  have hrun : Store.empty.run (before ++ after) = (Store.empty.run before).run after :=
    run_append _ _ _ _
  obtain ⟨row', calls, hrow', hsublist, hpath⟩ := job_path hrow after
  have hsimulate : ∀ op r r', r.LeaseColumns → JobMove op r r' →
      r'.LeaseColumns ∧
        ∃ action, Performs op action ∧ FencedLease.Step r.lease action r'.lease := by
    rintro op r r' hr ⟨t, hstep⟩
    exact ⟨hstep.leaseColumns hr, hstep.refines hr⟩
  obtain ⟨actions, hactions, hlease⟩ := hpath.simulate (q := Performs)
    (t := fun action lease lease' => FencedLease.Step lease action lease') (f := JobRow.lease)
    hsimulate (leaseColumns_run before j row hrow)
  have hversion : ∀ op r r', JobMove op r r' → r'.revision = r.revision + 1 :=
    fun _ _ _ h => h.spec.1
  rw [hrun]
  exact ⟨row', calls, actions, hrow', hsublist, hactions, hlease, hpath.version hversion,
    hpath.eq_of_version hversion, hpath.keeps fun _ _ _ h => h.spec.2, binding_run hrow after⟩

omit [Primitives] in
/-- A job that is bound to a permit and claimed. -/
theorem job_history_claimed :
    letI := samplePrimitives
    ∃ row row' actions, (Store.empty.run boundJobOps).job sampleJobId = some row ∧
      (Store.empty.run (boundJobOps ++ [.claimNext 5])).job sampleJobId = some row' ∧
      List.Forall₂ Performs [.claimNext 5] actions ∧
      Runs.Path (fun action lease lease' => FencedLease.Step lease action lease') actions
        row.lease row'.lease ∧
      row'.revision = row.revision + 1 ∧ row'.state = .running ∧
      row'.requested = row.requested := by
  let _ := samplePrimitives
  have hthere : ((Store.empty.run boundJobOps).job sampleJobId).isSome = true := by decide
  obtain ⟨row, hrow⟩ := isSome_iff_exists.mp hthere
  obtain ⟨row', calls, actions, hrow', hsublist, hactions, hpath, hrevision, -, hrequested, -⟩ :=
    job_history boundJobOps [.claimNext 5] hrow
  have hclaimed : ((Store.empty.run (boundJobOps ++ [.claimNext 5])).job sampleJobId).map
      (fun r => (r.revision, r.state))
        = ((Store.empty.run boundJobOps).job sampleJobId).map fun r =>
          (r.revision + 1, .running) := by
    decide
  rw [hrow, hrow', map_some, map_some, some_inj, Prod.mk.injEq] at hclaimed
  obtain rfl : calls = [.claimNext 5] :=
    hsublist.eq_of_length (Nat.add_left_cancel (hrevision.symm.trans hclaimed.1))
  exact ⟨row, row', actions, hrow, hrow', hactions, hpath, hclaimed.1, hclaimed.2, hrequested⟩

/-! ## Jobs of a cluster -/

omit [Primitives] in
theorem RowMove.spec {row row' : JobRow} (h : RowMove row row') :
    row'.revision = row.revision + 1 ∧ row'.requested = row.requested := by
  cases h with
  | @recover now limit _ htoken =>
    rcases JobRow.recovered_cases htoken now limit with ⟨-, hrow⟩ | ⟨-, -, hrow⟩ | ⟨-, -, hrow⟩
    all_goals
      rw [hrow]
      exact ⟨rfl, rfl⟩
  | _ => exact ⟨rfl, rfl⟩

omit [Primitives] in
theorem Descends.spec {old new : PgJob} (h : Descends old new) :
    old.row.revision ≤ new.row.revision ∧ new.row.requested = old.row.requested ∧
      (new.row.revision = old.row.revision → new = old) := by
  obtain ⟨horganization, hbinding, hrow⟩ := h
  have hmoves : old.row.revision ≤ new.row.revision ∧ new.row.requested = old.row.requested ∧
      (new.row.revision = old.row.revision → new.row = old.row) := by
    clear horganization hbinding
    generalize new.row = row at hrow
    induction hrow with
    | refl => exact ⟨Nat.le_refl _, rfl, fun _ => rfl⟩
    | tail _ hlast ih =>
      obtain ⟨hrevision, hrequested⟩ := hlast.spec
      exact ⟨by omega, hrequested.trans ih.2.1, by omega⟩
  refine ⟨hmoves.1, hmoves.2.1, ?_⟩
  intro hrevision
  have hsame := hmoves.2.2 hrevision
  cases old
  cases new
  simp only at horganization hbinding hsame
  rw [horganization, hbinding, hsame]

/--
**A committed job keeps its tenant, its permit and its request, and no revision comes back with
another row,** whatever the sessions do between the statements of each other.
-/
theorem pg_job_history {T : Type} [DecidableEq T] (before after : List (PgInput T)) {k : String}
    {job : PgJob}
    (hjob : (run step (empty : Cluster T) before).db.committed k = some job) :
    ∃ job', (run step (empty : Cluster T) (before ++ after)).db.committed k
        = some job' ∧
      job'.organizationId = job.organizationId ∧ job'.binding = job.binding ∧
      job'.row.requested = job.row.requested ∧ job.row.revision ≤ job'.row.revision ∧
      (job'.row.revision = job.row.revision → job' = job) := by
  have hsteady : (run step (empty : Cluster T) before).Steady :=
    run_induction (fun _ input h => h.step input) steady_empty before
  rw [run_append]
  obtain ⟨-, job', hjob', hdescends⟩ := run_induction
    (P := fun t : Cluster T => t.Steady ∧ ∃ job', t.db.committed k = some job' ∧
      Descends job job')
    (by
      rintro t input ⟨ht, job', hjob', hdescends⟩
      obtain ⟨job'', hjob'', hlast⟩ := ht.committed_step input hjob'
      exact ⟨ht.step input, job'', hjob'', Descends.trans _ _ _ hdescends hlast⟩)
    ⟨hsteady, job, hjob, Descends.refl job⟩ after
  obtain ⟨hle, hrequested, hsame⟩ := hdescends.spec
  exact ⟨job', hjob', hdescends.organizationId, hdescends.binding, hrequested, hle, hsame⟩

omit [Primitives] in
/-- A job that one session claims. -/
theorem pg_job_history_claimed :
    letI := samplePrimitives
    ∃ job', (run step (empty : Cluster Bool)
        ([.insert { row := newJobRow sampleJobId sampleRequest 100 }] ++
          [.claimNextLeased true 200 "worker-a" (30 * second) "lease-a", .advance true,
            .advance true, .commit true])).db.committed sampleJobId = some job' ∧
      job'.row.revision = 1 ∧ job'.row.state = .running ∧ job'.organizationId = none ∧
      job'.binding = none ∧
      job'.row.requested = (newJobRow sampleJobId sampleRequest 100).requested := by
  let _ := samplePrimitives
  obtain ⟨job', hjob', horganization, hbinding, hrequested, -⟩ := pg_job_history (T := Bool)
    [.insert { row := newJobRow sampleJobId sampleRequest 100 }]
    [.claimNextLeased true 200 "worker-a" (30 * second) "lease-a", .advance true, .advance true,
      .commit true] (k := sampleJobId) rfl
  have hclaimed : ((run step (empty : Cluster Bool)
      ([.insert { row := newJobRow sampleJobId sampleRequest 100 }] ++
        [.claimNextLeased true 200 "worker-a" (30 * second) "lease-a", .advance true,
          .advance true, .commit true])).db.committed sampleJobId).map
            (fun job => (job.row.revision, job.row.state)) = some (1, .running) := by
    decide
  rw [hjob', map_some, some_inj, Prod.mk.injEq] at hclaimed
  exact ⟨job', hjob', hclaimed.1, hclaimed.2, horganization, hbinding, hrequested⟩

/-! ## Schedules -/

/-- What a call can do to a schedule that is there. -/
inductive ScheduleMove : Op → ScheduleRow → ScheduleRow → Prop where
  | setState {organizationId : String} {state : ScanScheduleState} {now : Nat}
      {nextRunAt : Option Nat} {row : ScheduleRow} :
      ScheduleMove (.setScheduleState row.scheduleId organizationId state now nextRunAt) row
        (scheduleStateSet row state now (nextRunAt.getD row.nextRunAt) (row.revision + 1))
  | enqueue {request : EnqueueRequest} {jobId : String} {now nextRunAt : Nat} {row : ScheduleRow}
      (hid : request.scheduleId = row.scheduleId) (hactive : row.state = .active)
      (hrevision : row.revision = request.expectedRevision) (hdue : row.nextRunAt ≤ now)
      (hnext : nextScheduleTime row.nextRunAt row.intervalSeconds now = .ok nextRunAt) :
      ScheduleMove (.enqueueDueSchedule request jobId now) row
        (scheduleAdvanced row request.authorizationSha256 jobId now nextRunAt)
  | block {errorCode : String} {now : Nat} {row : ScheduleRow} (hactive : row.state = .active) :
      ScheduleMove (.blockDueSchedule row.scheduleId row.revision errorCode now) row
        (scheduleBlocked row errorCode now)

/-- The columns that no call rewrites: the others are blanked out. -/
def scheduleTerms (row : ScheduleRow) : ScheduleRow :=
  { row with
    authorizationSha256 := "", state := .active, updatedAt := 0, nextRunAt := 0, revision := 0,
    lastEnqueuedAt := none, lastJobId := none, lastErrorCode := none, lastErrorAt := none }

theorem ScheduleMove.spec {row' : ScheduleRow} (h : ScheduleMove op row row') :
    row'.revision = row.revision + 1 ∧ scheduleTerms row' = scheduleTerms row := by
  cases h with
  | _ => exact ⟨rfl, rfl⟩

/-- The schedule is there, as before or moved by the call. -/
def Store.Moved (op : Op) (id : String) (row : ScheduleRow) (s' : Store) : Prop :=
  ∃ row', s'.schedule id = some row' ∧ (row' = row ∨ ScheduleMove op row row')

theorem Store.Rescheduled.moved {old new : ScheduleRow} {s s' : Store}
    (h : s.Rescheduled s' old new) (hrow : s.schedule id = some row)
    (hmove : ScheduleMove op old new) : Store.Moved op id row s' := by
  unfold Store.Moved
  rw [h.schedule]
  split
  · next hid =>
    have hold := h.old
    rw [← hid, hrow] at hold
    cases hold
    exact ⟨new, rfl, Or.inr hmove⟩
  · exact ⟨row, hrow, Or.inl rfl⟩

theorem schedule_apply (hrow : s.schedule id = some row) (op : Op) :
    Store.Moved op id row (s.apply op) := by
  have hsame : Store.Moved op id row s := ⟨row, hrow, Or.inl rfl⟩
  by_cases hop : op.onSchedule = false
  · refine ⟨row, ?_, Or.inl rfl⟩
    unfold Store.schedule at hrow ⊢
    rw [schedules_apply s hop]
    exact hrow
  cases op with
  | createSchedule scheduleId request permitId permitSha256 now =>
    refine transaction_keeps (P := Store.Moved _ id row) hsame ?_
    intro record s' h
    obtain ⟨hfresh, -, hschedule, -⟩ := createScheduleBody_ok h
    refine ⟨row, ?_, Or.inl rfl⟩
    rw [hschedule, if_neg, hrow]
    rintro rfl
    rw [hfresh] at hrow
    cases hrow
  | setScheduleState scheduleId organizationId state now nextRunAt =>
    refine transaction_keeps (P := Store.Moved _ id row) hsame ?_
    intro read s' h
    obtain ⟨old, rfl, hrescheduled⟩ := setScheduleStateBody_ok h
    exact hrescheduled.moved hrow .setState
  | enqueueDueSchedule request jobId now =>
    rcases enqueue_atomic s request jobId now with heq | ⟨old, jobRequest, nextRunAt, h⟩
    · rw [heq]
      exact hsame
    · have hid := Store.scheduleId_of_schedule h.old
      have hrescheduled : ∀ j, (s.apply (.enqueueDueSchedule request jobId now)).schedule j = _ :=
        h.schedule
      unfold Store.Moved
      rw [hrescheduled]
      split
      · next heq =>
        rw [heq, h.old] at hrow
        cases hrow
        exact ⟨_, rfl, Or.inr (.enqueue hid.symm h.active h.revision h.due h.next)⟩
      · exact ⟨row, hrow, Or.inl rfl⟩
  | blockDueSchedule scheduleId expectedRevision errorCode now =>
    refine transaction_keeps (P := Store.Moved _ id row) hsame ?_
    intro answer s' h
    rcases blockDueScheduleBody_ok h with ⟨-, rfl⟩ | ⟨old, rfl, rfl, hactive, hrescheduled⟩
    · exact hsame
    · exact hrescheduled.moved hrow (.block hactive)
  | _ => exact absurd rfl hop

theorem inactive_run (hrow : s.schedule id = some row) (hstate : row.state ≠ .active)
    (ops : List Op)
    (hops : ∀ organizationId now nextRunAt,
      .setScheduleState id organizationId .active now nextRunAt ∉ ops) :
    ∃ row', (s.run ops).schedule id = some row' ∧ row'.state ≠ .active := by
  induction ops generalizing s row with
  | nil => exact ⟨row, hrow, hstate⟩
  | cons op ops ih =>
    obtain ⟨row', hrow', hmove⟩ := schedule_apply hrow op
    refine ih hrow' ?_ fun o n t hmem => hops o n t (List.mem_cons_of_mem op hmem)
    rcases hmove with rfl | hmove
    · exact hstate
    cases hmove with
    | @setState organizationId state now nextRunAt _ =>
      rintro (rfl : state = .active)
      refine hops organizationId now nextRunAt ?_
      rw [← Store.scheduleId_of_schedule hrow]
      exact List.mem_cons_self
    | enqueue hid hactive => exact absurd hactive hstate
    | block hactive => exact absurd hactive hstate

/--
**A schedule that is paused enqueues nothing until it is resumed,** whoever still holds a snapshot
of it from before the pause.
-/
theorem paused_schedule_inert (hrow : (Store.empty.run before).schedule id = some row)
    (hstate : row.state ≠ .active)
    (hafter : ∀ organizationId now nextRunAt,
      .setScheduleState id organizationId .active now nextRunAt ∉ after) :
    (∃ row', (Store.empty.run (before ++ after)).schedule id = some row' ∧
      row'.state ≠ .active) ∧
    ∀ request jobId now, request.scheduleId = id →
      (Store.empty.run (before ++ after)).apply (.enqueueDueSchedule request jobId now) =
        Store.empty.run (before ++ after) := by
  have hrun : Store.empty.run (before ++ after) = (Store.empty.run before).run after :=
    run_append _ _ _ _
  obtain ⟨row', hrow', hinactive⟩ := inactive_run hrow hstate after hafter
  rw [hrun]
  refine ⟨⟨row', hrow', hinactive⟩, ?_⟩
  rintro request jobId now rfl
  rcases enqueue_atomic _ request jobId now with heq | ⟨old, _, _, h⟩
  · exact heq
  · have hold := h.old
    rw [hrow'] at hold
    cases hold
    exact absurd h.active hinactive

omit [Primitives] in
/-- A schedule is blocked while a coordinator still has its due run in hand. -/
theorem paused_schedule_inert_blocked :
    letI := samplePrimitives
    ∃ row', (Store.empty.run
      (backlogHistory.take 2 ++ [.blockDueSchedule sampleScheduleId 0 "target_refused" 1000000]
        ++ backlogHistory.drop 2)).schedule sampleScheduleId = some row' ∧
      row'.state ≠ .active := by
  let _ := samplePrimitives
  have hthere : ((Store.empty.run (backlogHistory.take 2 ++
      [.blockDueSchedule sampleScheduleId 0 "target_refused" 1000000])).schedule
        sampleScheduleId).any (fun row => row.state != .active) = true := by decide
  rw [any_eq_true] at hthere
  obtain ⟨row, hrow, hstate⟩ := hthere
  exact (paused_schedule_inert _ (backlogHistory.drop 2) hrow (by simpa using hstate)
    (by simp [backlogHistory])).1

/-! ## Permits -/

/-- A revoked permit is as before. -/
def Store.KeepsRevoked (s s' : Store) : Prop :=
  ∀ id p, s.permit id = some p → p.revokedAt.isSome = true → s'.permit id = some p

omit [Primitives] in
theorem Store.keepsRevoked_of_eq {s s' : Store} (h : s'.scanPermits = s.scanPermits) :
    s.KeepsRevoked s' := by
  intro id p hp _
  unfold Store.permit at hp ⊢
  rw [h]
  exact hp

omit [Primitives] in
theorem Store.KeepsRevoked.refl (s : Store) : s.KeepsRevoked s := Store.keepsRevoked_of_eq rfl

omit [Primitives] in
theorem keepsRevoked_createScanPermit (s : Store) (permit : PermitRow) :
    s.KeepsRevoked (createScanPermit permit s).2 := by
  refine transaction_keeps (P := s.KeepsRevoked) (.refl s) ?_
  intro row s' h
  obtain ⟨t, ht, h⟩ := bind_ok h
  cases h
  rw [found_eq_ok] at ht
  unfold Store.insertPermit at ht
  obtain ⟨permits, hinsert, rfl⟩ := map_eq_some_iff.mp ht
  intro id p hp _
  have hfresh := Table.not_mem_of_insert hinsert (c := PermitRow.permitId) (by simp)
  unfold Store.permit at hp ⊢
  rw [Table.get?_insert hinsert (c := PermitRow.permitId) (by simp) (k := id), if_neg, hp]
  rintro rfl
  rw [hfresh] at hp
  cases hp

omit [Primitives] in
theorem keepsRevoked_revokeScanPermitScoped (s : Store)
    (permitId organizationId revokedBy : String) (now : Nat) :
    s.KeepsRevoked (revokeScanPermitScoped permitId organizationId revokedBy now s).2 := by
  refine transaction_keeps (P := s.KeepsRevoked) (.refl s) ?_
  intro row s' h
  obtain ⟨_, -, h⟩ := bind_ok h
  obtain ⟨_, -, h⟩ := bind_ok h
  cases h
  intro id p hp hrevoked
  unfold Store.permit at hp ⊢
  simp only
  rw [Table.get?_update_self (by simp)]
  split
  · next heq =>
    -- The statement sets the column only where it is `NULL`.
    have hguard : p.revokedAt.isNone = false := by simpa using hrevoked
    rw [← heq, hp, map_some, hguard]
    simp
  · exact hp

theorem keepsRevoked_apply (hs : s.BoundInScope) (op : Op) :
    s.KeepsRevoked (s.apply op) := by
  have hbind : ∀ {s' : Store}, (s' = s ∨ ∃ j, s.Binds s' j) → s.KeepsRevoked s' := by
    rintro s' (rfl | ⟨j, hbinds⟩)
    · exact .refl s'
    · exact fun id p hp _ => (hbinds.permit id).trans hp
  cases op with
  | createScanPermit permit => exact keepsRevoked_createScanPermit s permit
  | revokeScanPermitScoped permitId organizationId revokedBy now =>
    exact keepsRevoked_revokeScanPermitScoped s permitId organizationId revokedBy now
  | assignAuthorizations assignments => exact Store.keepsRevoked_of_eq rfl
  | submit request jobId organizationId submittedBy permitId permitSha256 =>
    exact hbind (binds_submit hs request jobId organizationId submittedBy permitId permitSha256)
  | createSchedule scheduleId request permitId permitSha256 now =>
    refine transaction_keeps (P := s.KeepsRevoked) (.refl s) ?_
    intro record s' h
    exact Store.keepsRevoked_of_eq (createScheduleBody_permits h)
  | setScheduleState scheduleId organizationId state now nextRunAt =>
    refine transaction_keeps (P := s.KeepsRevoked) (.refl s) ?_
    intro read s' h
    obtain ⟨row, -, hrescheduled⟩ := setScheduleStateBody_ok h
    rw [hrescheduled.frame]
    exact Store.keepsRevoked_of_eq rfl
  | enqueueDueSchedule request jobId now =>
    exact hbind (binds_enqueueDueSchedule hs request jobId now)
  | blockDueSchedule scheduleId expectedRevision errorCode now =>
    refine transaction_keeps (P := s.KeepsRevoked) (.refl s) ?_
    intro answer s' h
    rcases blockDueScheduleBody_ok h with ⟨-, rfl⟩ | ⟨row, -, -, -, hrescheduled⟩
    · exact .refl _
    · rw [hrescheduled.frame]
      exact Store.keepsRevoked_of_eq rfl
  | _ =>
    rw [(jobsWritten_apply s rfl).frame]
    exact Store.keepsRevoked_of_eq rfl

section

omit [Primitives]

variable {s : Store} {p : PermitRow} {now : Nat}

theorem not_revoked_of_claimable {row : JobRow} {binding : JobPermitRow}
    (h : s.claimable now row = true) (hbinding : s.binding row.jobId = some binding)
    (hp : s.permit binding.permitId = some p) : p.revokedAt.isSome = false := by
  obtain ⟨-, -, -, hpermit⟩ := Store.claimable_iff.mp h
  have hany := Store.any_permit hp fun q => q.permitSha256 == binding.permitSha256
    && q.revokedAt.isNone && q.notBefore ≤ now && now < q.expiresAt
  unfold Store.permitClaimable at hpermit
  simp only [hbinding, Bool.and_assoc] at hpermit hany
  rw [hany] at hpermit
  simp only [Bool.and_eq_true] at hpermit
  simpa using hpermit.1.2.1

theorem not_revoked_of_inForce {permitId organizationId permitSha256 : String}
    (h : s.permitInForce permitId organizationId permitSha256 now = true)
    (hp : s.permit permitId = some p) : p.revokedAt.isSome = false := by
  unfold Store.permit at hp
  unfold Store.permitInForce at h
  rw [hp] at h
  simp only [any_some, Bool.and_eq_true] at h
  simpa using h.1.1.2

end

theorem runsUnder_of_revoked {p : PermitRow} (hp : s.permit id = some p)
    (hrevoked : p.revokedAt.isSome = true) (h : (s.apply op).RunsUnder j id) :
    s.RunsUnder j id := by
  obtain ⟨row', binding, hrow', hstate, hbinding, rfl⟩ := h
  rcases job_apply s op j with hsame | ⟨-, -, request, hnew, -⟩ | ⟨row, r', hrow, hr', hstep⟩
  · rw [hsame] at hrow'
    rw [binding_apply hrow'] at hbinding
    exact ⟨row', binding, hrow', hstate, hbinding, rfl⟩
  · rw [hnew] at hrow'
    cases hrow'
    simp [newJobRow] at hstate
  · rw [hr'] at hrow'
    cases hrow'
    rw [binding_apply hrow] at hbinding
    rcases hstep.running hstate with hran | ⟨⟨now, hclaim⟩, -⟩
    · exact ⟨row, binding, hrow, hran, hbinding, rfl⟩
    · rw [← Store.jobId_of_job hrow] at hbinding
      rw [not_revoked_of_claimable hclaim hbinding hp] at hrevoked
      cases hrevoked

theorem enqueue_of_revoked {request : EnqueueRequest} {p : PermitRow}
    (hp : s.permit request.permitId = some p) (hrevoked : p.revokedAt.isSome = true)
    (jobId : String) (now : Nat) : s.apply (.enqueueDueSchedule request jobId now) = s := by
  refine transaction_keeps (P := fun t : Store => t = s) rfl ?_
  intro answer s' h
  unfold enqueueDueScheduleBody at h
  split at h
  · cases h
    rfl
  · obtain ⟨schedule, -, h⟩ := bind_ok h
    split at h
    · cases h
      rfl
    split at h
    · cases h
      rfl
    obtain ⟨_, -, h⟩ := bind_ok h
    split at h
    · cases h
      rfl
    next hforce =>
    rw [Bool.not_eq_true', Bool.not_eq_false] at hforce
    rw [not_revoked_of_inForce hforce hp] at hrevoked
    cases hrevoked

/--
**A revocation is final.**

The row of a revoked permit stays as it is. No job starts to run under it, whatever was submitted
or is submitted later, and no schedule enqueues under it.
-/
theorem revocation_final {p : PermitRow}
    (hp : (Store.empty.run before).permit id = some p) (hrevoked : p.revokedAt.isSome = true) :
    (Store.empty.run (before ++ after)).permit id = some p ∧
    (∀ j, (Store.empty.run (before ++ after)).RunsUnder j id →
      (Store.empty.run before).RunsUnder j id) ∧
    ∀ request jobId now, request.permitId = id →
      (Store.empty.run (before ++ after)).apply (.enqueueDueSchedule request jobId now) =
        Store.empty.run (before ++ after) := by
  have hrun : Store.empty.run (before ++ after) = (Store.empty.run before).run after :=
    run_append _ _ _ _
  rw [hrun]
  obtain ⟨-, hkept, hjobs⟩ := run_induction
    (P := fun t : Store => t.BoundInScope ∧ t.permit id = some p ∧
      ∀ j, t.RunsUnder j id → (Store.empty.run before).RunsUnder j id)
    (by
      rintro t op ⟨hbound, hkept, hjobs⟩
      exact ⟨boundInScope_apply hbound op, keepsRevoked_apply hbound op id p hkept hrevoked,
        fun j h => hjobs j (runsUnder_of_revoked hkept hrevoked h)⟩)
    ⟨boundInScope_run before, hp, fun _ h => h⟩ after
  refine ⟨hkept, hjobs, ?_⟩
  rintro request jobId now rfl
  exact enqueue_of_revoked hkept hrevoked jobId now

end

/-- The permit of a queued job is revoked. -/
theorem revocation_final_queued :
    letI := samplePrimitives
    (Store.empty.run (boundJobOps ++ [.revokeScanPermitScoped samplePermit.permitId
        sampleOrganizationId samplePrincipalId 20] ++ [.claimNext 30])).permit samplePermit.permitId
      = some { samplePermit with revokedAt := some 20, revokedBy := some samplePrincipalId } := by
  let _ := samplePrimitives
  have hrevoked : (Store.empty.run (boundJobOps ++ [.revokeScanPermitScoped samplePermit.permitId
      sampleOrganizationId samplePrincipalId 20])).permit samplePermit.permitId
      = some { samplePermit with revokedAt := some 20, revokedBy := some samplePrincipalId } := by
    decide
  exact (revocation_final _ [.claimNext 30] hrevoked rfl).1

end WebGuard
