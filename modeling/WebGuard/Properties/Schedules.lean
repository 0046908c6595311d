import WebGuard.Store.Operations

/-!
# Exactly-once materialisation

Several coordinators hold snapshots of one schedule while operators pause and resume it. The
enqueue compares the revision it was given with the row it finds, and every write of a schedule
raises the revision, so a snapshot is good for one job (`materialises_at_most_once`). Across
revisions the idempotency key of the job, which names the occurrence, keeps an occurrence from
running twice (`occurrence_at_most_once`).
-/

namespace WebGuard

open Relational Atomic Bool Store Runs

section

variable [Primitives]

/-! ## What a call does to the schedules -/

/-- The calls that write schedules. -/
def Op.onSchedule : Op → Bool
  | .createSchedule .. | .setScheduleState .. => true
  | .enqueueDueSchedule .. | .blockDueSchedule .. => true
  | _ => false

variable {op : Op} {s : Store}

theorem schedules_apply (s : Store) (hop : op.onSchedule = false) :
    (s.apply op).scanSchedules = s.scanSchedules := by
  cases op with
  | createScanPermit permit =>
    refine transaction_keeps (P := fun t : Store => t.scanSchedules = s.scanSchedules) rfl ?_
    intro row s' h
    obtain ⟨t, ht, h⟩ := bind_ok h
    cases h
    rw [found_eq_ok] at ht
    unfold insertPermit at ht
    obtain ⟨permits, -, rfl⟩ := Option.map_eq_some_iff.mp ht
    rfl
  | revokeScanPermitScoped permitId organizationId revokedBy now =>
    refine transaction_keeps (P := fun t : Store => t.scanSchedules = s.scanSchedules) rfl ?_
    intro row s' h
    obtain ⟨_, -, h⟩ := bind_ok h
    obtain ⟨_, -, h⟩ := bind_ok h
    cases h
    rfl
  | assignAuthorizations assignments => rfl
  | submit request jobId organizationId submittedBy permitId permitSha256 =>
    refine transaction_keeps (P := fun t : Store => t.scanSchedules = s.scanSchedules) rfl ?_
    intro answer s' h
    exact submitBody_schedules h
  | createSchedule | setScheduleState | enqueueDueSchedule | blockDueSchedule => cases hop
  | _ => rw [(jobsWritten_apply s rfl).frame]

/-- The schedule table is as before, gained one, had one rewritten, or an enqueue advanced it. -/
inductive ScheduleEffect (s : Store) (op : Op) (s' : Store) : Prop where
  | same (h : s'.scanSchedules = s.scanSchedules)
      (hop : ∀ request jobId now, op = .enqueueDueSchedule request jobId now → s' = s)
  | created {scheduleId : String} {record : ScheduleRow} (hfresh : s.schedule scheduleId = none)
      (h : ∀ j, s'.schedule j = if j = scheduleId then some record else s.schedule j)
      (hop : ∀ request jobId now, op ≠ .enqueueDueSchedule request jobId now)
  | rewritten {row row' : ScheduleRow} (h : s.Rescheduled s' row row')
      (hrevision : row'.revision = row.revision + 1)
      (hop : ∀ request jobId now, op ≠ .enqueueDueSchedule request jobId now)
  | enqueued {request : EnqueueRequest} {jobId : String} {now : Nat} {row : ScheduleRow}
      {jobRequest : ScanJobRequest} {nextRunAt : Nat}
      (hop : op = .enqueueDueSchedule request jobId now)
      (h : s.Enqueued s' request jobId now row jobRequest nextRunAt)

theorem ScheduleEffect.refl (s : Store) (op : Op) : ScheduleEffect s op s :=
  .same rfl fun _ _ _ _ => rfl

theorem scheduleEffect_of_transaction {α β : Type} {body : Store → Answer (β × Store)}
    {finish : β → Store → Answer α} (h : ∀ b s', body s = .ok (b, s') → ScheduleEffect s op s') :
    ScheduleEffect s op (transaction body finish s).2 := by
  exact transaction_keeps (P := ScheduleEffect s op) (.refl s op) h

theorem scheduleEffect (s : Store) (op : Op) : ScheduleEffect s op (s.apply op) := by
  by_cases hop : op.onSchedule = false
  · exact .same (schedules_apply s hop) (by rintro _ _ _ rfl; cases hop)
  cases op with
  | createSchedule scheduleId request permitId permitSha256 now =>
    refine scheduleEffect_of_transaction ?_
    intro record s' h
    obtain ⟨hfresh, -, hschedule, -⟩ := createScheduleBody_ok h
    exact .created hfresh hschedule (by simp)
  | setScheduleState scheduleId organizationId state now nextRunAt =>
    refine scheduleEffect_of_transaction ?_
    intro read s' h
    obtain ⟨row, -, hrescheduled⟩ := setScheduleStateBody_ok h
    exact .rewritten hrescheduled rfl (by simp)
  | enqueueDueSchedule request jobId now =>
    refine scheduleEffect_of_transaction ?_
    intro answer s' h
    rcases enqueueDueScheduleBody_ok h with ⟨-, rfl⟩ | ⟨row, record, jobRequest, next, -, henqueued⟩
    · exact .refl _ _
    · exact .enqueued rfl henqueued
  | blockDueSchedule scheduleId expectedRevision errorCode now =>
    refine scheduleEffect_of_transaction ?_
    intro answer s' h
    rcases blockDueScheduleBody_ok h with ⟨-, rfl⟩ | ⟨row, -, -, -, hrescheduled⟩
    · exact .refl _ _
    · exact .rewritten hrescheduled rfl (by simp)
  | _ => exact absurd rfl hop

theorem enqueue_atomic (s : Store) (request : EnqueueRequest) (jobId : String) (now : Nat) :
    s.apply (.enqueueDueSchedule request jobId now) = s ∨
      ∃ row jobRequest nextRunAt,
        s.Enqueued (s.apply (.enqueueDueSchedule request jobId now)) request jobId now row
          jobRequest nextRunAt := by
  cases scheduleEffect s (.enqueueDueSchedule request jobId now) with
  | same h hop => exact Or.inl (hop _ _ _ rfl)
  | created hfresh h hop => exact absurd rfl (hop _ _ _)
  | rewritten h hrevision hop => exact absurd rfl (hop _ _ _)
  | enqueued hop h =>
    cases hop
    exact Or.inr ⟨_, _, _, h⟩

/-! ## Each revision yields one job -/

variable (scheduleId : String)

/-- The call enqueues a job for the schedule at the revision. -/
def materialises (revision : Nat) (s : Store) (op : Op) : Bool :=
  match op with
  | .enqueueDueSchedule request jobId _ =>
    request.scheduleId == scheduleId && request.expectedRevision == revision
      && (s.apply op).job jobId != s.job jobId
  | _ => false

/-- The schedule is past the revision. -/
def Store.Past (revision : Nat) (s : Store) : Prop :=
  ∃ row, s.schedule scheduleId = some row ∧ revision < row.revision

theorem past_apply {scheduleId : String} {revision : Nat} (h : s.Past scheduleId revision)
    (op : Op) : (s.apply op).Past scheduleId revision := by
  obtain ⟨row, hrow, hlt⟩ := h
  cases scheduleEffect s op with
  | same h hop =>
    refine ⟨row, ?_, hlt⟩
    unfold schedule at hrow ⊢
    rw [h]
    exact hrow
  | @created id record hfresh h hop =>
    refine ⟨row, ?_, hlt⟩
    rw [h, if_neg, hrow]
    rintro rfl
    rw [hfresh] at hrow
    simp at hrow
  | @rewritten old new h hrevision hop =>
    by_cases hid : scheduleId = old.scheduleId
    · refine ⟨new, by rw [h.schedule, if_pos hid], ?_⟩
      have hold := h.old
      rw [← hid, hrow] at hold
      cases hold
      omega
    · exact ⟨row, by rw [h.schedule, if_neg hid, hrow], hlt⟩
  | @enqueued request jobId now old jobRequest nextRunAt hop h =>
    by_cases hid : scheduleId = request.scheduleId
    · refine ⟨_, by rw [h.schedule, if_pos hid], ?_⟩
      have hold := h.old
      rw [← hid, hrow] at hold
      cases hold
      show revision < row.revision + 1
      omega
    · exact ⟨row, by rw [h.schedule, if_neg hid, hrow], hlt⟩

variable {request : EnqueueRequest}

theorem enqueued_of_changed {jobId : String} {now : Nat}
    (h : (s.apply (.enqueueDueSchedule request jobId now)).job jobId ≠ s.job jobId) :
    ∃ row jobRequest nextRunAt,
      s.Enqueued (s.apply (.enqueueDueSchedule request jobId now)) request jobId now row
        jobRequest nextRunAt := by
  rcases enqueue_atomic s request jobId now with hsame | h'
  · rw [hsame] at h
    exact absurd rfl h
  · exact h'

theorem materialises_at_most_once (revision : Nat) (s : Store)
    (ops : List Op) :
    occurrences apply (materialises scheduleId revision) s ops ≤ 1 := by
  refine occurrences_le_one (D := Store.Past scheduleId revision) ?_ ?_ ?_ s ops
  · intro t op h
    cases op with
    | enqueueDueSchedule request jobId now =>
      simp only [materialises, and_eq_true, beq_iff_eq, bne_iff_ne] at h
      obtain ⟨⟨hid, hrevision⟩, hchanged⟩ := h
      -- The advance of this enqueue puts the schedule past the revision.
      obtain ⟨row, jobRequest, nextRunAt, henqueued⟩ := enqueued_of_changed hchanged
      refine ⟨_, by rw [henqueued.schedule, if_pos hid.symm], ?_⟩
      show revision < row.revision + 1
      rw [henqueued.revision, hrevision]
      exact Nat.lt_succ_self _
    | _ => simp [materialises] at h
  · intro t op h
    exact past_apply h op
  · rintro t op ⟨row, hrow, hlt⟩
    cases op with
    | enqueueDueSchedule request jobId now =>
      by_contra hnot
      simp only [materialises, not_eq_false, and_eq_true, beq_iff_eq, bne_iff_ne] at hnot
      obtain ⟨⟨hid, hrevision⟩, hchanged⟩ := hnot
      obtain ⟨row', jobRequest, nextRunAt, henqueued⟩ := enqueued_of_changed hchanged
      -- An enqueue compares with the revision it finds, which is a later one.
      have hold := henqueued.old
      rw [hid, hrow] at hold
      cases hold
      have := henqueued.revision
      omega
    | _ => rfl

/-! ## Each occurrence runs once -/

/-- The call enqueues the run of the schedule that is due at the moment. -/
def runsOccurrence (moment : Nat) (s : Store) (op : Op) : Bool :=
  match op with
  | .enqueueDueSchedule request jobId _ =>
    request.scheduleId == scheduleId
      && (s.schedule scheduleId).any (fun row => row.nextRunAt == moment)
      && (s.apply op).job jobId != s.job jobId
  | _ => false

/-- A job carries the key of the occurrence. -/
def Store.Keyed (moment : Nat) (s : Store) : Prop :=
  ∃ j row, s.job j = some row ∧
    idempotencyKey (scheduleKey scheduleId moment) = .ok row.idempotencyKey

theorem RowStep.idempotencyKey {row row' : JobRow} (h : RowStep s op row row') :
    row'.idempotencyKey = row.idempotencyKey := by
  cases h with
  | @recover now limit _ hlimit hexpired htoken =>
    rcases JobRow.recovered_cases htoken now limit with ⟨-, hrow⟩ | ⟨-, -, hrow⟩ | ⟨-, -, hrow⟩ <;>
      rw [hrow] <;> rfl
  | _ => rfl

theorem keyed_apply {scheduleId : String} {moment : Nat} (h : s.Keyed scheduleId moment) (op : Op) :
    (s.apply op).Keyed scheduleId moment := by
  obtain ⟨j, row, hrow, hkey⟩ := h
  obtain ⟨row', hrow', rfl | hstep⟩ := job_apply_isSome hrow op
  · exact ⟨j, row', hrow', hkey⟩
  · exact ⟨j, row', hrow', by rw [hstep.idempotencyKey]; exact hkey⟩

theorem occurrence_at_most_once (moment : Nat) (s : Store)
    (ops : List Op) :
    occurrences apply (runsOccurrence scheduleId moment) s ops ≤ 1 := by
  refine occurrences_le_one (D := Store.Keyed scheduleId moment) ?_ ?_ ?_ s ops
  · intro t op h
    cases op with
    | enqueueDueSchedule request jobId now =>
      simp only [runsOccurrence, and_eq_true, beq_iff_eq, bne_iff_ne] at h
      obtain ⟨⟨hid, hmoment⟩, hchanged⟩ := h
      obtain ⟨row, jobRequest, nextRunAt, henqueued⟩ := enqueued_of_changed hchanged
      rw [← hid, henqueued.old] at hmoment
      have hnext : row.nextRunAt = moment := by simpa using hmoment
      have hkey := henqueued.key
      rw [hid, hnext] at hkey
      exact ⟨jobId, _, by rw [henqueued.job.job, newJobRow_jobId, if_pos rfl], hkey⟩
    | _ => simp [runsOccurrence] at h
  · intro t op h
    exact keyed_apply h op
  · rintro t op ⟨j, row, hrow, hkey⟩
    cases op with
    | enqueueDueSchedule request jobId now =>
      by_contra hnot
      simp only [runsOccurrence, not_eq_false, and_eq_true, beq_iff_eq, bne_iff_ne]
        at hnot
      obtain ⟨⟨hid, hmoment⟩, hchanged⟩ := hnot
      obtain ⟨row', jobRequest, nextRunAt, henqueued⟩ := enqueued_of_changed hchanged
      rw [← hid, henqueued.old] at hmoment
      have hnext : row'.nextRunAt = moment := by simpa using hmoment
      have hkey' := henqueued.key
      rw [hid, hnext, hkey] at hkey'
      -- The insert asked for a key that no row has.
      have hfresh := Table.get?_eq_none_iff.mp henqueued.job.freshKey row
        (job_eq_some_iff.mp hrow).1
      exact hfresh (Except.ok.inj hkey')
    | _ => rfl

/-! ## The advance -/

theorem enqueue_not_due {row : ScheduleRow} {now : Nat}
    (hrow : s.schedule request.scheduleId = some row) (hlater : now < row.nextRunAt)
    (jobId : String) : s.apply (.enqueueDueSchedule request jobId now) = s := by
  rcases enqueue_atomic s request jobId now with hsame | ⟨row', jobRequest, nextRunAt, h⟩
  · exact hsame
  · have hold := h.old
    rw [hrow] at hold
    cases hold
    have := h.due
    omega

/-- **Exactly-once schedule materialisation.**

In every history, a revision of a schedule yields one job at most, and so does an occurrence. An
enqueue does nothing, or inserts the job, binds it and advances the schedule to the least later
occurrence after `now`; until then a further enqueue does nothing. -/
theorem schedule_exactly_once (ops : List Op) (scheduleId : String) :
    (∀ revision,
      occurrences apply (materialises scheduleId revision) empty ops ≤ 1) ∧
    (∀ moment,
      occurrences apply (runsOccurrence scheduleId moment) empty ops ≤ 1) ∧
    ∀ before after request jobId now s s',
      ops = before ++ .enqueueDueSchedule request jobId now :: after →
      s = empty.run before → s' = s.apply (.enqueueDueSchedule request jobId now) →
      s' = s ∨
      ∃ row jobRequest nextRunAt,
        s.Enqueued s' request jobId now row jobRequest nextRunAt ∧ now < nextRunAt ∧
        (∃ k, 1 ≤ k ∧
          nextRunAt = row.nextRunAt + k * intervalMicroseconds row.intervalSeconds) ∧
        (∀ k, 1 ≤ k → now < row.nextRunAt + k * intervalMicroseconds row.intervalSeconds →
          nextRunAt ≤ row.nextRunAt + k * intervalMicroseconds row.intervalSeconds) ∧
        ∀ request' jobId' now', request'.scheduleId = request.scheduleId → now' < nextRunAt →
          s'.apply (.enqueueDueSchedule request' jobId' now') = s' := by
  refine ⟨fun revision => materialises_at_most_once scheduleId revision _ ops,
    fun moment => occurrence_at_most_once scheduleId moment _ ops, ?_⟩
  rintro before after request jobId now s s' - - rfl
  rcases enqueue_atomic s request jobId now with hsame | ⟨row, jobRequest, nextRunAt, h⟩
  · exact Or.inl hsame
  · obtain ⟨hlater, hoccurrence, hleast⟩ := nextScheduleTime_spec
      (Nat.lt_of_lt_of_le (by decide) h.interval) h.due h.next
    refine Or.inr ⟨row, jobRequest, nextRunAt, h, hlater, hoccurrence, hleast, ?_⟩
    intro request' jobId' now' hid hearlier
    have hrow := h.schedule request'.scheduleId
    rw [if_pos hid] at hrow
    exact enqueue_not_due hrow hearlier jobId'

end

/-- A schedule that is due twice over when a coordinator comes by. -/
def backlogHistory : List (@Op samplePrimitives) :=
  letI := samplePrimitives
  [.createScanPermit samplePermit,
    .createSchedule sampleScheduleId
      { organizationId := sampleOrganizationId, createdBy := samplePrincipalId
        name := "Nightly", target := "https://example.com/"
        authorizationId := samplePermit.authorizationId
        authorizationSha256 := samplePermit.authorizationSha256
        mode := .crawl, intervalSeconds := 3600, startsAt := 1000000 }
      (some samplePermit.permitId) (some samplePermit.permitSha256) 0,
    .enqueueDueSchedule
      { scheduleId := sampleScheduleId, expectedRevision := 0
        authorizationSha256 := samplePermit.authorizationSha256
        permitId := samplePermit.permitId, permitSha256 := samplePermit.permitSha256 }
      sampleJobId 7300000000]

end WebGuard
