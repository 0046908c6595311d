import WebGuard.Lib.RecurringKeys
import WebGuard.Contracts.TimestampOrder
import WebGuard.Api.JobSubmission
import WebGuard.Properties.Schedules
import WebGuard.Properties.StoresAgree

/-!
# Clients cannot starve a schedule

A scheduled run and a submitted job share the unique keys of `scan_jobs`, and an enqueue that finds
its key taken leaves the schedule at the same occurrence. The service stores a submission under a
key of its own, so the only jobs that hold the key of an occurrence are its own runs.
-/

namespace WebGuard

open Relational Atomic Recurring PgStore List Option ScanJobRequestFields ScanScheduleRecord

section

variable [Primitives]

/-! ## Occurrences and their keys -/

/-- A run that a schedule can come to: a canonical identifier, and a moment of `datetime`. -/
def PlacedSlot (scheduleId : String) (moment : Nat) : Prop :=
  isCanonicalUuid scheduleId = true ∧ moment < datetimeEnd

omit [Primitives] in
theorem scheduleKey_inj {i j : String} {t u : Nat} (hi : PlacedSlot i t) (hj : PlacedSlot j u)
    (h : scheduleKey i t = scheduleKey j u) : i = j ∧ t = u := by
  have hlist := congrArg String.toList h
  unfold scheduleKey at hlist
  simp only [String.toList_append, append_assoc] at hlist
  have hlength : i.toList.length = j.toList.length :=
    (isCanonicalUuid_spec hi.1).1.trans (isCanonicalUuid_spec hj.1).1.symm
  obtain ⟨hid, htail⟩ := append_inj (append_cancel_left hlist) hlength
  exact ⟨String.toList_inj.mp hid,
    timestamp_injective hi.2 hj.2 (String.toList_inj.mp (append_cancel_left htail))⟩

def Store.keysInUse (s : Store) : Set String :=
  {k | ∃ row ∈ s.scanJobs.rows, row.idempotencyKey = k}

/-- The occurrence that a schedule comes to next. -/
def Store.slot (s : Store) (scheduleId : String) : Option Nat :=
  (s.schedule scheduleId).map (·.nextRunAt)

variable (p : PgStore)

def PgStore.keysInUse : Set String := {k | ∃ row ∈ p.scanJobs.rows, row.key = k}

def PgStore.slot (scheduleId : String) : Option Nat :=
  (p.schedule scheduleId).map (·.nextRunAt)

/-! ## One call on SQLite -/

variable {s : Store} {p p' : PgStore} {row : ScheduleRow} {now : Nat} {jobId : String}
  {request : EnqueueRequest}

omit [Primitives] in
theorem keysInUse_of_inserted {s' : Store} {row : JobRow} (h : s.Inserted s' row) :
    ∀ k ∈ s'.keysInUse, k ∈ s.keysInUse ∨ k = row.idempotencyKey := by
  rintro k ⟨r, hr, rfl⟩
  have hjob : s'.job r.jobId = some r := Store.job_eq_some_iff.mpr ⟨hr, rfl⟩
  rw [h.job] at hjob
  split at hjob
  · cases hjob
    exact Or.inr rfl
  · exact Or.inl ⟨r, (Store.job_eq_some_iff.mp hjob).1, rfl⟩

theorem Store.serve_submit (s : Store) (c : ClientSubmission) :
    s.serve (.submit c) = (s.submitFrom c).2 := rfl

theorem Store.serve_enqueue (s : Store) (request : EnqueueRequest) (jobId : String) (now : Nat) :
    s.serve (.enqueue request jobId now) = s.apply (.enqueueDueSchedule request jobId now) := rfl

theorem Store.serve_step (hplaced : ∀ i t, s.slot i = some t → PlacedSlot i t)
    (call : ScheduleCall) :
    Recurring.Step scheduleKey PlacedSlot s.keysInUse (s.serve call).keysInUse s.slot
      (s.serve call).slot := by
  have hsame : Recurring.Step scheduleKey PlacedSlot s.keysInUse s.keysInUse s.slot s.slot :=
    .foreign rfl fun _ _ _ h => h
  cases call with
  | submit c =>
    have hstate := s.submitFrom_state c
    rw [Store.serve_submit]
    generalize (s.submitFrom c).2 = s' at hstate ⊢
    rcases hstate with rfl | ⟨request, hrequest, hschedules, hinserted⟩
    · exact hsame
    · refine .foreign ?_ ?_
      · funext i
        unfold Store.slot Store.schedule
        rw [hschedules]
      · intro i t _ hk
        exact (keysInUse_of_inserted hinserted _ hk).resolve_right
          (ClientSubmission.key_ne hrequest i t).symm
  | enqueue request jobId now =>
    have hstate := enqueue_atomic s request jobId now
    rw [Store.serve_enqueue]
    generalize s.apply (.enqueueDueSchedule request jobId now) = s' at hstate ⊢
    rcases hstate with rfl | ⟨row, jobRequest, next, henq⟩
    · exact hsame
    · have hslot : s.slot request.scheduleId = some row.nextRunAt := by
        unfold Store.slot
        rw [henq.old, map_some]
      obtain ⟨hcanonical, -⟩ := hplaced _ _ hslot
      obtain ⟨hlater, -⟩ := nextScheduleTime_spec
        (Nat.lt_of_lt_of_le (by decide) henq.interval) henq.due henq.next
      refine .taken hslot (lt_of_le_of_lt henq.due hlater)
        ⟨hcanonical, nextScheduleTime_lt henq.next⟩ ?_ ?_
      · intro j
        unfold Store.slot
        rw [henq.schedule]
        split
        · rfl
        · rfl
      · intro k hk
        have hkey := henq.key
        rw [idempotencyKey_scheduleKey hcanonical] at hkey
        rw [Except.ok.inj hkey]
        exact keysInUse_of_inserted henq.job k hk

/-! ## One call on PostgreSQL -/

section

omit [Primitives]

theorem keysInUse_of_insert {row : PgJobRow} (h : p.scanJobs.insert row = some p'.scanJobs) :
    ∀ k ∈ p'.keysInUse, k ∈ p.keysInUse ∨ k = row.key := by
  rintro k ⟨r, hr, rfl⟩
  rcases (Table.mem_insert h).mp hr with hold | rfl
  · exact Or.inl ⟨r, hold, rfl⟩
  · exact Or.inr rfl

variable {f : ScheduleRow → ScheduleRow}

theorem PgStore.updateSchedule_of_guard {scheduleId : String} {guard : ScheduleRow → Bool}
    {keeps : ∀ r, (f r).scheduleId = r.scheduleId} {count : Nat}
    (hrow : p.schedule scheduleId = some row) (hguard : guard row = true)
    (h : p.updateSchedule scheduleId guard f keeps = .ok (p', count)) :
    count = 1 ∧ p' = { p with scanSchedules := p'.scanSchedules } ∧
      ∀ j, p'.schedule j = if j = scheduleId then some (f row) else p.schedule j := by
  unfold updateSchedule at h
  split at h
  · cases h
    refine ⟨?_, rfl, ?_⟩
    · rw [Table.update_count (by simp) hrow, if_pos hguard]
    · intro j
      unfold schedule at hrow ⊢
      rw [Table.get?_update_self (by simp), hrow, map_some, if_pos hguard]
  · cases h

theorem PgStore.exists_updateSchedule {scheduleId : String} (guard : ScheduleRow → Bool)
    (keeps : ∀ r, (f r).scheduleId = r.scheduleId)
    (hrow : p.schedule scheduleId = some row) (hroom : isInteger (f row).revision = true) :
    ∃ p' count, p.updateSchedule scheduleId guard f keeps = .ok (p', count) := by
  unfold updateSchedule
  rw [if_pos]
  · exact ⟨_, _, rfl⟩
  · rw [hrow, all_some, hroom, Bool.or_true]

theorem Control.due_of_not_refused (h : Control.enqueueRefusal request row now p = none) :
    row.state = .active ∧ row.revision = request.expectedRevision ∧ row.nextRunAt ≤ now := by
  unfold enqueueRefusal at h
  split at h
  · cases h
  · next hdue =>
    simp only [Bool.or_eq_true, bne_iff_ne, decide_eq_true_eq, not_or, not_not, Nat.not_lt] at hdue
    exact ⟨hdue.1.1, hdue.1.2, hdue.2⟩

theorem Control.enqueueDueSchedule_ok {fingerprint : String} {outcome : EnqueueOutcome}
    (h : Control.enqueueDueSchedule request now fingerprint jobId p = .ok (outcome, p')) :
    p' = p ∨ ∃ row, p.schedule request.scheduleId = some row ∧ row.nextRunAt ≤ now ∧
      p.scanJobs.insert (Control.enqueuedJob request row jobId fingerprint now)
        = some p'.scanJobs ∧
      Control.nextRunAt row.nextRunAt row.intervalSeconds now < datetimeEnd ∧
      ∀ j, p'.schedule j = if j = request.scheduleId then
        some (scheduleAdvanced row request.authorizationSha256 jobId now
          (Control.nextRunAt row.nextRunAt row.intervalSeconds now)) else p.schedule j := by
  unfold Control.enqueueDueSchedule at h
  obtain ⟨_, -, h⟩ := bind_ok h
  cases hrow : p.schedule request.scheduleId with
  | none =>
    rw [hrow] at h
    cases h
    exact Or.inl rfl
  | some row =>
    rw [hrow] at h
    dsimp only at h
    split at h
    · cases h
      exact Or.inl rfl
    · next hrefusal =>
      obtain ⟨hactive, hrevision, hdue⟩ := Control.due_of_not_refused hrefusal
      split at h
      · cases h
        exact Or.inl rfl
      · next jobs hjobs =>
        obtain ⟨p₁, hpermit, h⟩ := bind_ok h
        obtain ⟨⟨p₂, updated⟩, hupdate, h⟩ := bind_ok h
        have hframe : p₁ = { p with scanJobs := jobs, jobPermits := p₁.jobPermits } := by
          unfold insertJobPermit at hpermit
          split at hpermit
          · cases hpermit
          · split at hpermit
            · cases hpermit
              rfl
            · cases hpermit
        have hschedule : ∀ j, p₁.schedule j = p.schedule j := by
          intro j
          rw [hframe]
          rfl
        obtain ⟨hcount, hframe₂, hread⟩ := updateSchedule_of_guard
          ((hschedule request.scheduleId).trans hrow) (by simp [hactive, hrevision]) hupdate
        rw [hcount] at h
        dsimp only at h
        rw [if_neg (by simp), hread, if_pos rfl] at h
        split at h
        · next stored job hstored hjob =>
          cases hstored
          split at h
          · next hend =>
            cases h
            refine Or.inr ⟨row, rfl, hdue, ?_, hend, ?_⟩
            · rw [hframe₂, hframe]
              exact hjobs
            · intro j
              rw [hread, hschedule]
          · cases h
        · cases h

end

/-- `p'` is `p` with the run of a due schedule, which has moved on. -/
structure PgStore.Advanced (p p' : PgStore) (request : EnqueueRequest) (jobId : String) (now : Nat)
    (row : ScheduleRow) (fingerprint : String) : Prop where
  old : p.schedule request.scheduleId = some row
  due : row.nextRunAt ≤ now
  job : p.scanJobs.insert (Control.enqueuedJob request row jobId fingerprint now) = some p'.scanJobs
  next : Control.nextRunAt row.nextRunAt row.intervalSeconds now < datetimeEnd
  schedule : ∀ j, p'.schedule j = if j = request.scheduleId then
    some (scheduleAdvanced row request.authorizationSha256 jobId now
      (Control.nextRunAt row.nextRunAt row.intervalSeconds now)) else p.schedule j

theorem PgStore.enqueueDueScheduleBody_ok {answer : Option EnqueueOutcome}
    (h : enqueueDueScheduleBody request jobId now p = .ok (answer, p')) :
    p' = p ∨ ∃ row fingerprint, p.Advanced p' request jobId now row fingerprint := by
  unfold enqueueDueScheduleBody at h
  split at h
  · cases h
    exact Or.inl rfl
  · obtain ⟨jobRequest, -, h⟩ := bind_ok h
    obtain ⟨⟨outcome, p'⟩, hcontrol, h⟩ := bind_ok h
    cases h
    rcases Control.enqueueDueSchedule_ok hcontrol with
      hsame | ⟨row, hold, hdue, hjob, hnext, hrows⟩
    · exact Or.inl hsame
    · exact Or.inr ⟨row, jobRequest.fingerprint, hold, hdue, hjob, hnext, hrows⟩

theorem PgStore.enqueueDueSchedule_state (request : EnqueueRequest) (jobId : String) (now : Nat)
    (p : PgStore) :
    (p.enqueueDueSchedule request jobId now).2 = p ∨
      ∃ row fingerprint,
        p.Advanced (p.enqueueDueSchedule request jobId now).2 request jobId now row
          fingerprint := by
  rcases transaction_state (enqueueDueScheduleBody request jobId now)
    (fun outcome _ => outcome.elim (.ok none) fun o => raising (enqueueAnswer o)) p
    with h | ⟨answer, h⟩
  · exact Or.inl h
  · exact enqueueDueScheduleBody_ok h

/-- Every interval is longer than nothing. -/
def PgStore.Recurs : Prop :=
  ∀ i row, p.schedule i = some row → 0 < row.intervalSeconds

omit [Primitives] in
theorem Control.lt_nextRunAt {scheduledFor intervalSeconds : Nat} (h : 0 < intervalSeconds)
    (now : Nat) : scheduledFor < Control.nextRunAt scheduledFor intervalSeconds now := by
  have hinterval : 0 < intervalMicroseconds intervalSeconds := Nat.mul_pos (by decide) h
  unfold nextRunAt
  dsimp only
  split
  · exact Nat.lt_add_of_pos_right (Nat.mul_pos hinterval (Nat.succ_pos _))
  · exact Nat.lt_add_of_pos_right hinterval

theorem PgStore.serve_submit (c : ClientSubmission) :
    p.serve (.submit c) = (p.submitFrom c).2 := rfl

theorem PgStore.serve_enqueue (request : EnqueueRequest) (jobId : String)
    (now : Nat) :
    p.serve (.enqueue request jobId now) = (p.enqueueDueSchedule request jobId now).2 := rfl

theorem PgStore.serve_step (hplaced : ∀ i t, p.slot i = some t → PlacedSlot i t)
    (hrecurs : p.Recurs) (call : ScheduleCall) :
    Recurring.Step scheduleKey PlacedSlot p.keysInUse (p.serve call).keysInUse p.slot
      (p.serve call).slot := by
  have hsame : Recurring.Step scheduleKey PlacedSlot p.keysInUse p.keysInUse p.slot p.slot :=
    .foreign rfl fun _ _ _ h => h
  cases call with
  | submit c =>
    have hstate := p.submitFrom_state c
    rw [serve_submit]
    generalize (p.submitFrom c).2 = p' at hstate ⊢
    rcases hstate with rfl | ⟨request, hrequest, hschedules, row, hkey, hinsert⟩
    · exact hsame
    · refine .foreign ?_ ?_
      · funext i
        unfold slot schedule
        rw [hschedules]
      · intro i t _ hk
        refine (keysInUse_of_insert hinsert _ hk).resolve_right ?_
        rw [hkey]
        exact (ClientSubmission.key_ne hrequest i t).symm
  | enqueue request jobId now =>
    have hstate := p.enqueueDueSchedule_state request jobId now
    rw [serve_enqueue]
    generalize (p.enqueueDueSchedule request jobId now).2 = p' at hstate ⊢
    rcases hstate with rfl | ⟨row, fingerprint, hadvanced⟩
    · exact hsame
    · have hslot : p.slot request.scheduleId = some row.nextRunAt := by
        unfold slot
        rw [hadvanced.old, map_some]
      refine .taken hslot (Control.lt_nextRunAt (hrecurs _ row hadvanced.old) now)
        ⟨(hplaced _ _ hslot).1, hadvanced.next⟩ ?_ (keysInUse_of_insert hadvanced.job)
      intro j
      unfold slot
      rw [hadvanced.schedule]
      split
      · rfl
      · rfl

theorem PgStore.recurs_serve (h : p.Recurs) (call : ScheduleCall) : (p.serve call).Recurs := by
  cases call with
  | submit c =>
    have hstate := p.submitFrom_state c
    rw [serve_submit]
    generalize (p.submitFrom c).2 = p' at hstate ⊢
    rcases hstate with rfl | ⟨-, -, hschedules, -⟩
    · exact h
    · intro i row hrow
      refine h i row ?_
      unfold schedule at hrow ⊢
      rwa [hschedules] at hrow
  | enqueue request jobId now =>
    have hstate := p.enqueueDueSchedule_state request jobId now
    rw [serve_enqueue]
    generalize (p.enqueueDueSchedule request jobId now).2 = p' at hstate ⊢
    rcases hstate with rfl | ⟨row, _, hadvanced⟩
    · exact h
    · intro i r hr
      rw [hadvanced.schedule] at hr
      split at hr
      · cases hr
        exact h _ row hadvanced.old
      · exact h i r hr

/-! ## An enqueue that finds its key free -/

theorem ScanScheduleRecordFields.identifiers_of_postInit {row fields : ScanScheduleRecordFields}
    (h : row.postInit = .ok fields) :
    isCanonicalUuid row.scheduleId = true ∧ isCanonicalUuid row.authorizationId = true ∧
      fields.organizationId = row.organizationId ∧
      fields.authorizationId = row.authorizationId := by
  have haccepts := postInit_eq_ok.mp h
  refine ⟨haccepts.scheduleId, haccepts.authorizationId, ?_, ?_⟩ <;> rw [haccepts.stored]

theorem exists_postInit_advanced {fields : ScheduleRow} {sha : String} {nextRunAt : Nat}
    (h : row.postInit = .ok fields) (hsha : isSha256 sha = true)
    (hid : isCanonicalUuid jobId = true) (hnow : row.createdAt ≤ now) :
    ∃ f, (scheduleAdvanced row sha jobId now nextRunAt).postInit = .ok f := by
  have haccepts := ScanScheduleRecordFields.postInit_eq_ok.mp h
  have hjob : (some jobId).mapM (canonicalUuid "scan_schedule" · "last_job_id")
      = .ok (some jobId) := bind_ok_iff.mpr ⟨jobId, canonicalUuid_eq_ok.mpr ⟨rfl, hid⟩, rfl⟩
  exact ⟨{ scheduleAdvanced row sha jobId now nextRunAt with
      name := fields.name, target := fields.target },
    ScanScheduleRecordFields.postInit_eq_ok.mpr ⟨haccepts.scheduleId, haccepts.organizationId,
      haccepts.createdBy, haccepts.name, haccepts.target, haccepts.authorizationId, hsha,
      haccepts.intervalSeconds, hnow, hjob, rfl, rfl, rfl⟩⟩

/-- The enqueue of a schedule that can be read, and run for its target, under a drawn identifier. -/
structure EnqueueRequest.Runs (request : EnqueueRequest) (row : ScheduleRow) (jobId : String)
    (now : Nat) : Prop where
  decoded : ∃ schedule, scheduleFromRow row = .ok schedule
  target : ∀ schedule, scheduleFromRow row = .ok schedule →
    ∃ target, Primitives.canonicalizeOwnedTargetUrl schedule.target = .ok target
  digest : isSha256 request.authorizationSha256 = true
  jobId : isCanonicalUuid jobId = true
  createdAt : row.createdAt ≤ now

/-- No table knows the identifier. -/
structure Store.Unused (s : Store) (jobId : String) : Prop where
  job : s.job jobId = none
  scope : s.jobScopes.get? ScopeRow.jobId jobId = none
  binding : s.binding jobId = none

theorem exists_queuedRecord (hid : isCanonicalUuid jobId = true) (request : ScanJobRequest) :
    ∃ record, ScanJobRecord.new
        { jobId, request, state := .queued, updatedAt := request.submittedAt } = .ok record ∧
      record.jobId = jobId ∧ record.updatedAt = request.submittedAt ∧
      record.request = request := by
  obtain ⟨fields, hfields⟩ := (ScanJobRecordFields.postInit_isOk
    { jobId, request, state := .queued, updatedAt := request.submittedAt }).mpr
    ⟨hid, Nat.le_refl _, (by simp), (by simp), (by simp), (by simp), (by simp), ⟨none, rfl⟩,
      ⟨none, rfl⟩, rfl⟩
  obtain ⟨hjob, hrequest, -, hupdated, -⟩ := ScanJobRecordFields.postInit_keeps hfields
  exact ⟨⟨fields, ⟨_, hfields⟩⟩, ScanJobRecord.new_eq_ok.mpr hfields, hjob, hupdated, hrequest⟩

theorem Store.enqueued_of_ready (hrow : s.schedule request.scheduleId = some row)
    (hready : s.enqueueReady request row now = true) (hruns : request.Runs row jobId now)
    (hunused : s.Unused jobId)
    (hnext : ∃ t, nextScheduleTime row.nextRunAt row.intervalSeconds now = .ok t)
    (hkey : scheduleKey request.scheduleId row.nextRunAt ∉ s.keysInUse) :
    ∃ schedule record, (enqueueDueSchedule request jobId now s).1 = .ok (some (schedule, record)) ∧
      record.jobId = jobId ∧
      record.request.idempotencyKey = scheduleKey request.scheduleId row.nextRunAt := by
  obtain ⟨schedule, hread⟩ := hruns.decoded
  obtain ⟨target, htarget⟩ := hruns.target schedule hread
  obtain ⟨nextRun, hnext⟩ := hnext
  have hpost := new_eq_ok.mp (checked_eq_ok.mp hread)
  obtain ⟨hsameId, hstate, hrevision, hmoment, hinterval, -⟩ :=
    ScanScheduleRecordFields.postInit_keeps hpost
  obtain ⟨hcanonical, hauthorization, horganization, hsameAuthorization⟩ :=
    ScanScheduleRecordFields.identifiers_of_postInit hpost
  have hscheduleId : schedule.scheduleId = request.scheduleId :=
    hsameId.trans (Store.scheduleId_of_schedule hrow)
  unfold Store.enqueueReady at hready
  simp only [Bool.and_eq_true, Bool.not_eq_true', Bool.or_eq_false_iff, bne_eq_false_iff_eq,
    decide_eq_false_iff_not, Nat.not_lt] at hready
  obtain ⟨⟨⟨⟨⟨hactive, hexpected⟩, hdue⟩, hassigned⟩, hbound⟩, hforce⟩ := hready
  have hpermit : (s.scanPermits.get? PermitRow.permitId request.permitId).isSome = true := by
    obtain ⟨permit, hlookup, -⟩ := (any_eq_true _ _).mp hforce
    rw [hlookup]
    rfl
  -- The request of the run and its record.
  have hkeyOk : idempotencyKey (scheduleKey schedule.scheduleId schedule.nextRunAt)
      = .ok (scheduleKey request.scheduleId row.nextRunAt) := by
    rw [hscheduleId, hmoment]
    refine idempotencyKey_scheduleKey ?_ _
    rw [← Store.scheduleId_of_schedule hrow]
    exact hcanonical
  obtain ⟨jobRequest, hrequest, hrequestKey, hsubmitted⟩ : ∃ r : ScanJobRequest,
      ScanJobRequest.new
        { idempotencyKey := scheduleKey schedule.scheduleId schedule.nextRunAt
          target := schedule.target, authorizationId := schedule.authorizationId
          authorizationSha256 := request.authorizationSha256, mode := schedule.mode
          submittedAt := now } = .ok r ∧
      r.idempotencyKey = scheduleKey request.scheduleId row.nextRunAt ∧ r.submittedAt = now := by
    have hpostInit : postInit
        { idempotencyKey := scheduleKey schedule.scheduleId schedule.nextRunAt
          target := schedule.target, authorizationId := schedule.authorizationId
          authorizationSha256 := request.authorizationSha256, mode := schedule.mode
          submittedAt := now }
        = .ok ⟨scheduleKey request.scheduleId row.nextRunAt, target, schedule.authorizationId,
          request.authorizationSha256, schedule.mode, now⟩ :=
      postInit_eq_ok.mpr
        ⟨hkeyOk, htarget, by rw [hsameAuthorization]; exact hauthorization, rfl, hruns.digest, rfl,
          rfl, rfl⟩
    exact ⟨⟨_, ⟨_, hpostInit⟩⟩, ScanJobRequest.new_eq_ok.mpr hpostInit, rfl, rfl⟩
  obtain ⟨record, hrecord, hrecordId, hupdatedAt, hrecordRequest⟩ :=
    exists_queuedRecord hruns.jobId jobRequest
  rw [hsubmitted] at hrecord hupdatedAt
  have hfreshKey : s.scanJobs.get? JobRow.idempotencyKey
      (newJobRow jobId jobRequest now).idempotencyKey = none :=
    Table.get?_eq_none_iff.mpr fun r hr hsame => hkey ⟨r, hr, hsame.trans hrequestKey⟩
  -- The writes.
  obtain ⟨s₁, s₂, s₃, hjob₁, hscope₂, hpermit₃, hadded⟩ :=
    @exists_jobAdded s (newJobRow jobId jobRequest now) schedule.organizationId
      schedule.createdBy request.permitId request.permitSha256 hunused.job hunused.scope
      hunused.binding hfreshKey hpermit
  have hrow₃ : s₃.schedule schedule.scheduleId = some row := by
    rw [hadded.others, hscheduleId]
    exact hrow
  have hguard : (row.revision == request.expectedRevision && row.state == .active) = true := by
    simp [hexpected, hactive]
  have hcount : (s₃.updateSchedule schedule.scheduleId
      (fun r => r.revision == request.expectedRevision && r.state == .active)
      (fun r => scheduleAdvanced r request.authorizationSha256 jobId now nextRun)
      (fun _ => rfl)).2 = 1 :=
    Store.updateSchedule_count.mpr ⟨row, hrow₃, hguard⟩
  have hresched : s₃.Rescheduled (s₃.updateSchedule schedule.scheduleId
      (fun r => r.revision == request.expectedRevision && r.state == .active)
      (fun r => scheduleAdvanced r request.authorizationSha256 jobId now nextRun)
      (fun _ => rfl)).1 row (scheduleAdvanced row request.authorizationSha256 jobId now nextRun) :=
    Store.rescheduled_of_updateSchedule hrow₃ hguard
  have hwritten := hresched.schedule schedule.scheduleId
  rw [if_pos (Store.scheduleId_of_schedule hrow₃).symm] at hwritten
  have hbody : enqueueDueScheduleBody request jobId now s
      = .ok (some (scheduleAdvanced row request.authorizationSha256 jobId now nextRun, record),
        (s₃.updateSchedule schedule.scheduleId
          (fun r => r.revision == request.expectedRevision && r.state == .active)
          (fun r => scheduleAdvanced r request.authorizationSha256 jobId now nextRun)
          (fun _ => rfl)).1) := by
    unfold enqueueDueScheduleBody
    rw [hrow]
    refine bind_ok_iff.mpr ⟨schedule, hread, ?_⟩
    rw [if_neg (by simp [hstate, hrevision, hmoment, hactive, hexpected, hdue]), if_neg]
    · refine bind_ok_iff.mpr ⟨(), ensure_eq_ok.mpr (by rw [hscheduleId]; exact hbound), ?_⟩
      rw [horganization, hforce, if_neg (by simp)]
      unfold enqueueWrite
      refine bind_ok_iff.mpr ⟨jobRequest, checked_eq_ok.mpr hrequest, ?_⟩
      refine bind_ok_iff.mpr ⟨record, checked_eq_ok.mpr hrecord, ?_⟩
      simp only [hrecordId, hupdatedAt]
      refine bind_ok_iff.mpr ⟨s₁, found_eq_ok.mpr hjob₁, ?_⟩
      refine bind_ok_iff.mpr ⟨s₂, found_eq_ok.mpr hscope₂, ?_⟩
      refine bind_ok_iff.mpr ⟨s₃, found_eq_ok.mpr hpermit₃, ?_⟩
      refine bind_ok_iff.mpr ⟨nextRun, by rw [hmoment, hinterval]; exact hnext, ?_⟩
      simp only [hcount, bne_self_eq_false, Bool.false_eq_true, if_false]
      exact bind_ok_iff.mpr ⟨_, found_eq_ok.mpr hwritten, rfl⟩
    · unfold Store.scheduleAssigned at hassigned ⊢
      rw [horganization, hsameAuthorization, hassigned]
      simp
  obtain ⟨advanced, hadvanced⟩ : ∃ f, (scheduleAdvanced row request.authorizationSha256 jobId now
      nextRun).postInit = .ok f :=
    exists_postInit_advanced hpost hruns.digest hruns.jobId hruns.createdAt
  refine ⟨⟨advanced, ⟨_, hadvanced⟩⟩, record, ?_, hrecordId, by rw [hrecordRequest, hrequestKey]⟩
  have hdecoded : scheduleFromRow (scheduleAdvanced row request.authorizationSha256 jobId now
      nextRun) = .ok ⟨advanced, ⟨_, hadvanced⟩⟩ :=
    checked_eq_ok.mpr (new_eq_ok.mpr hadvanced)
  unfold enqueueDueSchedule
  rw [transaction_of_ok _ _ hbody]
  show (scheduleFromRow _).map _ = _
  rw [hdecoded]
  rfl

structure PgStore.Unused (p : PgStore) (jobId : String) : Prop where
  job : p.job jobId = none
  binding : p.binding jobId = none

theorem exists_jobRecord_enqueued {target fingerprint : String}
    (hscheduleId : isCanonicalUuid request.scheduleId = true)
    (hauthorization : isCanonicalUuid row.authorizationId = true)
    (htarget : Primitives.canonicalizeOwnedTargetUrl row.target = .ok target)
    (hruns : request.Runs row jobId now) :
    ∃ record, jobRecordFromRow
        (Control.enqueuedJob request row jobId fingerprint now).toJobRow = .ok record ∧
      record.jobId = jobId ∧
      record.request.idempotencyKey = scheduleKey request.scheduleId row.nextRunAt := by
  have hpost : postInit
      (Control.enqueuedJob request row jobId fingerprint now).toJobRow.requestFields
      = .ok ⟨scheduleKey request.scheduleId row.nextRunAt, target, row.authorizationId,
        request.authorizationSha256, row.mode, now⟩ :=
    postInit_eq_ok.mpr ⟨idempotencyKey_scheduleKey hscheduleId _, htarget,
      hauthorization, rfl, hruns.digest, rfl, rfl, rfl⟩
  obtain ⟨jobRequest, hnew, hkey, hsubmitted⟩ : ∃ r : ScanJobRequest, ScanJobRequest.new
      (Control.enqueuedJob request row jobId fingerprint now).toJobRow.requestFields = .ok r ∧
      r.idempotencyKey = scheduleKey request.scheduleId row.nextRunAt ∧ r.submittedAt = now :=
    ⟨⟨_, ⟨_, hpost⟩⟩, ScanJobRequest.new_eq_ok.mpr hpost, rfl, rfl⟩
  obtain ⟨record, hrecord, hrecordId, -, hrequest⟩ := exists_queuedRecord hruns.jobId jobRequest
  rw [hsubmitted] at hrecord
  refine ⟨record, ?_, hrecordId, by rw [hrequest, hkey]⟩
  unfold jobRecordFromRow
  exact bind_ok_iff.mpr ⟨jobRequest, checked_eq_ok.mpr hnew, checked_eq_ok.mpr hrecord⟩

theorem PgStore.enqueued_of_ready (hrow : p.schedule request.scheduleId = some row)
    (hid : isCanonicalUuid request.scheduleId = true)
    (hready : Control.enqueueRefusal request row now p = none)
    (hruns : request.Runs row jobId now) (hunused : p.Unused jobId)
    (hroom : isInteger (row.revision + 1) = true)
    (hnext : Control.nextRunAt row.nextRunAt row.intervalSeconds now < datetimeEnd)
    (hkey : scheduleKey request.scheduleId row.nextRunAt ∉ p.keysInUse) :
    ∃ schedule record, (p.enqueueDueSchedule request jobId now).1 = .ok (some (schedule, record)) ∧
      record.jobId = jobId ∧
      record.request.idempotencyKey = scheduleKey request.scheduleId row.nextRunAt := by
  obtain ⟨schedule, hread⟩ := hruns.decoded
  have hpost := new_eq_ok.mp (checked_eq_ok.mp hread)
  obtain ⟨-, -, -, -, -, -, htarget⟩ := ScanScheduleRecordFields.postInit_keeps hpost
  obtain ⟨-, hauthorization, -, -⟩ := ScanScheduleRecordFields.identifiers_of_postInit hpost
  obtain ⟨hactive, hexpected, -⟩ := Control.due_of_not_refused hready
  have hinteger : isInteger request.expectedRevision = true := by
    unfold isInteger at hroom ⊢
    rw [decide_eq_true_eq] at hroom ⊢
    omega
  -- The request that is built for its fingerprint.
  obtain ⟨shape, hshape⟩ : ∃ r, ScanJobRequest.new (fingerprintFields request row now) = .ok r := by
    have hshape : (fingerprintFields request row now).postInit
        = .ok { fingerprintFields request row now with target := schedule.target } :=
      postInit_eq_ok.mpr ⟨idempotencyKey_scheduled hid
        (all_eq_true.mp (by decide)) (by decide), htarget, hauthorization, rfl, hruns.digest,
        rfl, rfl, rfl⟩
    exact ⟨⟨_, ⟨_, hshape⟩⟩, ScanJobRequest.new_eq_ok.mpr hshape⟩
  obtain ⟨jobs, hjobs⟩ : ∃ t, p.scanJobs.insert
      (Control.enqueuedJob request row jobId shape.fingerprint now) = some t := by
    refine Table.exists_insert ?_
    intro c hc
    simp only [mem_cons, not_mem_nil, or_false] at hc
    rcases hc with rfl | rfl
    · exact hunused.job
    · exact Table.get?_eq_none_iff.mpr fun r hr hsame => hkey ⟨r, hr, hsame⟩
  obtain ⟨permits, hpermits⟩ : ∃ t, p.jobPermits.insert
      { jobId, permitId := request.permitId, permitSha256 := request.permitSha256 } = some t :=
    Table.exists_insert_of_get? hunused.binding
  have hforce : (p.scanPermits.get? PermitRow.permitId request.permitId).isSome = true := by
    unfold Control.enqueueRefusal at hready
    split at hready
    · cases hready
    · split at hready
      · cases hready
      · split at hready
        · cases hready
        · split at hready
          · cases hready
          · next hforce =>
            rw [Bool.not_eq_true', Bool.not_eq_false] at hforce
            obtain ⟨permit, hlookup, -⟩ := (any_eq_true _ _).mp hforce
            rw [hlookup]
            rfl
  obtain ⟨p₂, count, hupdate⟩ := exists_updateSchedule
    (p := { p with scanJobs := jobs, jobPermits := permits })
    (fun r => r.revision == request.expectedRevision && r.state == .active)
    (f := fun r => scheduleAdvanced r request.authorizationSha256 jobId now
      (Control.nextRunAt row.nextRunAt row.intervalSeconds now)) (fun _ => rfl) hrow hroom
  have hrow₁ : ({ p with scanJobs := jobs, jobPermits := permits } : PgStore).schedule
      request.scheduleId = some row := hrow
  obtain ⟨hcount, hframe, hwritten⟩ :=
    updateSchedule_of_guard hrow₁ (by simp [hactive, hexpected]) hupdate
  have hjob : p₂.job jobId
      = some (Control.enqueuedJob request row jobId shape.fingerprint now) := by
    rw [hframe]
    exact (Table.get?_insert hjobs (by simp)).trans (if_pos rfl)
  have hcontrol : Control.enqueueDueSchedule request now shape.fingerprint jobId p
      = .ok (.ok (scheduleAdvanced row request.authorizationSha256 jobId now
          (Control.nextRunAt row.nextRunAt row.intervalSeconds now))
        (Control.enqueuedJob request row jobId shape.fingerprint now), p₂) := by
    unfold Control.enqueueDueSchedule integerParameter
    simp only [if_pos hinteger, hrow, hready, hjobs]
    refine bind_ok_iff.mpr ⟨(), rfl, ?_⟩
    refine bind_ok_iff.mpr ⟨{ p with scanJobs := jobs, jobPermits := permits }, ?_, ?_⟩
    · unfold insertJobPermit
      simp only [hpermits, hforce, if_true]
    · refine bind_ok_iff.mpr ⟨(p₂, count), hupdate, ?_⟩
      simp only [hcount, hwritten, if_pos, hjob, bne_self_eq_false, Bool.false_eq_true, if_false]
      exact if_pos hnext
  have hbody : enqueueDueScheduleBody request jobId now p
      = .ok (some (.ok (scheduleAdvanced row request.authorizationSha256 jobId now
          (Control.nextRunAt row.nextRunAt row.intervalSeconds now))
        (Control.enqueuedJob request row jobId shape.fingerprint now)), p₂) := by
    unfold enqueueDueScheduleBody
    simp only [hrow]
    refine bind_ok_iff.mpr ⟨shape, ?_, bind_ok_iff.mpr ⟨_, hcontrol, rfl⟩⟩
    rw [raising_eq_ok, checked_eq_ok]
    exact hshape
  obtain ⟨advanced, hadvanced⟩ : ∃ f, (scheduleAdvanced row request.authorizationSha256 jobId now
      (Control.nextRunAt row.nextRunAt row.intervalSeconds now)).postInit = .ok f :=
    exists_postInit_advanced hpost hruns.digest hruns.jobId hruns.createdAt
  have hdecoded : scheduleFromRow (scheduleAdvanced row request.authorizationSha256 jobId now
      (Control.nextRunAt row.nextRunAt row.intervalSeconds now)) = .ok ⟨advanced, ⟨_, hadvanced⟩⟩ :=
    checked_eq_ok.mpr (new_eq_ok.mpr hadvanced)
  obtain ⟨record, hrecord, hrecordId, hrecordKey⟩ :=
    exists_jobRecord_enqueued hid hauthorization htarget hruns
  refine ⟨⟨advanced, ⟨_, hadvanced⟩⟩, record, ?_, hrecordId, hrecordKey⟩
  unfold enqueueDueSchedule
  rw [transaction_of_ok _ _ hbody]
  refine raising_eq_ok.mpr ?_
  exact bind_ok_iff.mpr ⟨_, hdecoded, bind_ok_iff.mpr ⟨record, hrecord, rfl⟩⟩

/-! ## After any calls -/

/-- What the columns of `scan_schedules` hold: canonical identifiers and moments of `datetime`. -/
def Store.SlotsPlaced (s : Store) : Prop := ∀ i t, s.slot i = some t → PlacedSlot i t

def PgStore.SlotsPlaced : Prop := ∀ i t, p.slot i = some t → PlacedSlot i t

theorem Store.key_free {s₀ : Store} (h : s₀.SlotsPlaced) (calls : List ScheduleCall) :
    Ahead scheduleKey PlacedSlot s₀.keysInUse (Runs.run Store.serve s₀ calls).keysInUse
      (Runs.run Store.serve s₀ calls).slot :=
  Runs.run_induction
    (P := fun s : Store => Ahead scheduleKey PlacedSlot s₀.keysInUse s.keysInUse s.slot)
    (fun _ call hs => hs.step (fun _ _ _ _ => scheduleKey_inj) (serve_step hs.placed call))
    (.refl h) calls

theorem PgStore.key_free {p₀ : PgStore} (h : p₀.SlotsPlaced) (hrecurs : p₀.Recurs)
    (calls : List ScheduleCall) :
    Ahead scheduleKey PlacedSlot p₀.keysInUse (Runs.run serve p₀ calls).keysInUse
      (Runs.run serve p₀ calls).slot := by
  have hboth := Runs.run_induction
    (P := fun p : PgStore => p.Recurs ∧ Ahead scheduleKey PlacedSlot p₀.keysInUse p.keysInUse p.slot)
    (fun p call hp => ⟨recurs_serve hp.1 call,
      hp.2.step (fun _ _ _ _ => scheduleKey_inj) (serve_step hp.2.placed hp.1 call)⟩)
    ⟨hrecurs, .refl h⟩ calls
  exact hboth.2

/--
**No client starves a schedule.**

After any submissions and enqueues, on either store, the enqueue of a due schedule whose assignment,
binding and permit are in order answers with the run, unless the store held the key of that
occurrence from the start.
-/
theorem schedules_never_starved (calls : List ScheduleCall) {request : EnqueueRequest}
    {row : ScheduleRow} {jobId : String} {now : Nat} (hruns : request.Runs row jobId now) :
    (∀ s₀ : Store, s₀.SlotsPlaced → scheduleKey request.scheduleId row.nextRunAt ∉ s₀.keysInUse →
      let s := Runs.run Store.serve s₀ calls
      s.schedule request.scheduleId = some row → s.enqueueReady request row now = true →
      s.Unused jobId → (∃ t, nextScheduleTime row.nextRunAt row.intervalSeconds now = .ok t) →
      ∃ schedule record,
        (enqueueDueSchedule request jobId now s).1 = .ok (some (schedule, record)) ∧
        record.jobId = jobId ∧
        record.request.idempotencyKey = scheduleKey request.scheduleId row.nextRunAt) ∧
    (∀ p₀ : PgStore, p₀.SlotsPlaced → p₀.Recurs →
      scheduleKey request.scheduleId row.nextRunAt ∉ p₀.keysInUse →
      let p := Runs.run serve p₀ calls
      p.schedule request.scheduleId = some row → Control.enqueueRefusal request row now p = none →
      p.Unused jobId → isInteger (row.revision + 1) = true →
      Control.nextRunAt row.nextRunAt row.intervalSeconds now < datetimeEnd →
      ∃ schedule record,
        (p.enqueueDueSchedule request jobId now).1 = .ok (some (schedule, record)) ∧
        record.jobId = jobId ∧
        record.request.idempotencyKey = scheduleKey request.scheduleId row.nextRunAt) := by
  constructor
  · intro s₀ hplaced hstart s hrow hready hunused hnext
    have hahead := Store.key_free hplaced calls
    have hslot : s.slot request.scheduleId = some row.nextRunAt := by
      unfold Store.slot
      rw [hrow, map_some]
    have hkey : scheduleKey request.scheduleId row.nextRunAt ∉ s.keysInUse := fun hused =>
      hstart (hahead.free _ _ _ hslot (Nat.le_refl _) (hahead.placed _ _ hslot) hused)
    exact Store.enqueued_of_ready hrow hready hruns hunused hnext hkey
  · intro p₀ hplaced hrecurs hstart p hrow hready hunused hroom hnext
    have hahead := key_free hplaced hrecurs calls
    have hslot : p.slot request.scheduleId = some row.nextRunAt := by
      unfold slot
      rw [hrow, map_some]
    have hkey : scheduleKey request.scheduleId row.nextRunAt ∉ p.keysInUse := fun hused =>
      hstart (hahead.free _ _ _ hslot (Nat.le_refl _) (hahead.placed _ _ hslot) hused)
    exact enqueued_of_ready hrow (hahead.placed _ _ hslot).1 hready hruns hunused hroom
      hnext hkey

end

def rivalSubmission : ClientSubmission where
  idempotencyKey := scheduleKey sampleScheduleId 1000000
  organizationId := sampleOrganizationId
  principalId := samplePrincipalId
  target := "https://example.com/"
  authorizationId := samplePermit.authorizationId
  authorizationSha256 := samplePermit.authorizationSha256
  mode := .crawl
  submittedAt := 500000
  permitId := samplePermit.permitId
  permitSha256 := samplePermit.permitSha256
  jobId := otherJobId

def rivalStore : Store := scheduledStore .empty

def rivalPgStore : PgStore :=
  { rivalStore.toPg [(sampleOrganizationId, samplePermit.authorizationId)] with
    organizations := [sampleOrganizationId], principals := [samplePrincipalId] }

theorem rivalStore_ready :
    letI := samplePrimitives
    let s := Runs.run Store.serve rivalStore [.submit rivalSubmission]
    s.scanJobs.rows.length = 1 ∧ s.schedule dueRequest.scheduleId = some dueSchedule ∧
      s.enqueueReady dueRequest dueSchedule 2000000 = true ∧ s.job sampleJobId = none ∧
      s.jobScopes.get? ScopeRow.jobId sampleJobId = none ∧ s.binding sampleJobId = none := by
  decide

theorem rivalPgStore_ready :
    letI := samplePrimitives
    let p := Runs.run serve rivalPgStore [.submit rivalSubmission]
    p.scanJobs.rows.length = 1 ∧ p.schedule dueRequest.scheduleId = some dueSchedule ∧
      (Control.enqueueRefusal dueRequest dueSchedule 2000000 p).isNone = true ∧
      p.job sampleJobId = none ∧ p.binding sampleJobId = none := by
  decide

/-- The client's job is there under another key, and the run is enqueued beside it. -/
theorem schedules_never_starved_rival :
    letI := samplePrimitives
    let s := Runs.run Store.serve rivalStore [.submit rivalSubmission]
    let p := Runs.run serve rivalPgStore [.submit rivalSubmission]
    s.scanJobs.rows.length = 1 ∧ p.scanJobs.rows.length = 1 ∧
      (∃ schedule record,
        (enqueueDueSchedule dueRequest sampleJobId 2000000 s).1 = .ok (some (schedule, record)) ∧
        record.jobId = sampleJobId ∧
        record.request.idempotencyKey
          = scheduleKey dueRequest.scheduleId dueSchedule.nextRunAt) ∧
      ∃ schedule record,
        (p.enqueueDueSchedule dueRequest sampleJobId 2000000).1 = .ok (some (schedule, record)) ∧
        record.jobId = sampleJobId ∧
        record.request.idempotencyKey
          = scheduleKey dueRequest.scheduleId dueSchedule.nextRunAt := by
  let _ := samplePrimitives
  have hruns : dueRequest.Runs dueSchedule sampleJobId 2000000 :=
    ⟨Atomic.exists_ok_of_isOk (by decide), fun _ _ => ⟨_, rfl⟩, by decide,
      by decide, by decide⟩
  have hplaced : ∀ i t, rivalStore.slot i = some t → PlacedSlot i t := by
    intro i t hslot
    obtain ⟨row, hrow, rfl⟩ := map_eq_some_iff.mp hslot
    have hmem : row ∈ [dueSchedule] := Table.mem_of_get? hrow
    obtain rfl := mem_singleton.mp hmem
    rw [← Store.scheduleId_of_schedule hrow]
    exact ⟨by decide, by decide⟩
  have hrecurs : rivalPgStore.Recurs := by
    intro i row hrow
    have hmem : row ∈ [dueSchedule] := Table.mem_of_get? hrow
    rw [mem_singleton.mp hmem]
    decide
  obtain ⟨hjobs, hrow, hready, hjob, hscope, hbinding⟩ := rivalStore_ready
  obtain ⟨hpgJobs, hpgRow, hpgReady, hpgJob, hpgBinding⟩ := rivalPgStore_ready
  obtain ⟨hsqlite, hpg⟩ := schedules_never_starved [.submit rivalSubmission] hruns
  have hstart : scheduleKey dueRequest.scheduleId dueSchedule.nextRunAt ∉ rivalStore.keysInUse :=
    fun hused => absurd hused.choose_spec.1 not_mem_nil
  have hpgStart : scheduleKey dueRequest.scheduleId dueSchedule.nextRunAt
      ∉ rivalPgStore.keysInUse :=
    fun hused => absurd hused.choose_spec.1 not_mem_nil
  refine ⟨hjobs, hpgJobs, ?_, ?_⟩
  · exact hsqlite rivalStore hplaced hstart hrow hready ⟨hjob, hscope, hbinding⟩
      (Atomic.exists_ok_of_isOk (by decide))
  · exact hpg rivalPgStore hplaced hrecurs hpgStart hpgRow (isNone_iff_eq_none.mp hpgReady)
      ⟨hpgJob, hpgBinding⟩ (by decide) (by decide)

end WebGuard
