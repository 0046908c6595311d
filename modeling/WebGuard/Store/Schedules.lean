import WebGuard.Store.Leases

/-!
# Recurring schedules

`create_schedule`, `_set_schedule_state` with the pause and resume that call it,
`enqueue_due_schedule` and `block_due_schedule` of `ScanJobStore`.

An enqueue writes five tables in one transaction. `enqueueDueScheduleBody_ok` says all of what a
committed one has done: the schedule it started from, the job, its scope and permit binding, and
the advanced schedule.
-/

namespace WebGuard

open Relational Atomic List ScanScheduleRecord ScanScheduleRecordFields

/-! ## `_next_schedule_time` -/

/-- The interval in microseconds. -/
def intervalMicroseconds (intervalSeconds : Nat) : Nat := second * intervalSeconds

def nextScheduleTime (scheduledFor intervalSeconds now : Nat) : Answer Nat := do
  let interval := intervalMicroseconds intervalSeconds
  let nextRun ← addMicroseconds scheduledFor interval
  if now < nextRun then return nextRun
  else addMicroseconds scheduledFor (interval * ((now - scheduledFor) / interval + 1))

variable {now : Nat} {scheduleId : String} {s s' : Store} {row : ScheduleRow}

theorem nextScheduleTime_spec {scheduledFor intervalSeconds nextRun : Nat}
    (hinterval : 0 < intervalSeconds) (hdue : scheduledFor ≤ now)
    (h : nextScheduleTime scheduledFor intervalSeconds now = .ok nextRun) :
    now < nextRun ∧
      (∃ k, 1 ≤ k ∧ nextRun = scheduledFor + k * intervalMicroseconds intervalSeconds) ∧
      ∀ k, 1 ≤ k → now < scheduledFor + k * intervalMicroseconds intervalSeconds →
        nextRun ≤ scheduledFor + k * intervalMicroseconds intervalSeconds := by
  unfold nextScheduleTime at h
  obtain ⟨first, hfirst, h⟩ := bind_ok h
  have hfirst' := addMicroseconds_eq_ok hfirst
  have hpos : 0 < intervalMicroseconds intervalSeconds := Nat.mul_pos (by decide) hinterval
  generalize intervalMicroseconds intervalSeconds = d at h hfirst' hpos ⊢
  split at h
  · next hlt =>
    cases h
    refine ⟨hlt, ⟨1, Nat.le_refl 1, by rw [hfirst', Nat.one_mul]⟩, ?_⟩
    intro k hk _
    rw [hfirst']
    have : 1 * d ≤ k * d := Nat.mul_le_mul_right d hk
    omega
  · have hnext := addMicroseconds_eq_ok h
    -- `q` whole intervals have passed, so the next occurrence is number `q + 1`.
    generalize hq : (now - scheduledFor) / d = q at hnext
    have hlow : q * d ≤ now - scheduledFor := by
      rw [← hq]
      exact Nat.div_mul_le_self _ _
    have hhigh : now - scheduledFor < (q + 1) * d := by
      rw [← hq]
      rw [Nat.mul_comm]
      exact Nat.lt_mul_div_succ _ hpos
    rw [Nat.mul_comm] at hnext
    refine ⟨by omega, ⟨q + 1, by omega, hnext⟩, ?_⟩
    intro k _ hlt
    have hk : q < k := by
      by_contra hle
      have : k * d ≤ q * d := Nat.mul_le_mul_right d (by omega)
      omega
    have : (q + 1) * d ≤ k * d := Nat.mul_le_mul_right d hk
    omega

/-! ## `create_schedule` -/

/-- The descriptive arguments of `create_schedule`. -/
structure ScheduleRequest where
  organizationId : String
  createdBy : String
  name : String
  target : String
  authorizationId : String
  authorizationSha256 : String
  mode : ScanJobMode
  intervalSeconds : Nat
  startsAt : Nat
  deriving DecidableEq

def scheduleConflict : Failure :=
  .jobStore "schedule_conflict" "The scan schedule conflicts with an existing record."

/-- `INSERT INTO schedule_permits`, where the caller supplies a permit. -/
def Store.bindSchedulePermit (s : Store) (scheduleId organizationId : String)
    (permitId permitSha256 : Option String) : Answer Store :=
  match permitId, permitSha256 with
  | some permit, some digest => do
    s.requirePermit permit digest (some organizationId)
    found (s.insertSchedulePermit { scheduleId, permitId := permit, permitSha256 := digest })
      scheduleConflict
  | _, _ => .ok s

/-- `scheduleId` is the caller's identifier or the `uuid4` drawn in its place. -/
def createScheduleBody [Primitives] (scheduleId : String) (request : ScheduleRequest)
    (permitId permitSha256 : Option String) (now : Nat) (s : Store) :
    Answer (ScanScheduleRecord × Store) := do
  ensure (permitId.isSome == permitSha256.isSome)
    (.jobStore "trustscan_schedule_binding_invalid"
      "permit_id and permit_sha256 must be supplied together.")
  let record ← checked (new
    { scheduleId, organizationId := request.organizationId, createdBy := request.createdBy
      name := request.name, target := request.target
      authorizationId := request.authorizationId
      authorizationSha256 := request.authorizationSha256, mode := request.mode
      intervalSeconds := request.intervalSeconds, state := .active
      createdAt := now, updatedAt := now, nextRunAt := request.startsAt })
  let s ← found (s.insertSchedule record.toScanScheduleRecordFields) scheduleConflict
  let s ← s.bindSchedulePermit record.scheduleId request.organizationId permitId permitSha256
  return (record, s)

def createSchedule [Primitives] (scheduleId : String) (request : ScheduleRequest)
    (permitId permitSha256 : Option String) (now : Nat) (s : Store) :
    Answer ScanScheduleRecord × Store :=
  transaction (createScheduleBody scheduleId request permitId permitSha256 now)
    (fun record _ => .ok record) s

/-! ## Pause and resume -/

def scheduleNotFound : Failure :=
  .jobStore "schedule_not_found" "Scan schedule was not found."

/-- The `SET` clause of `_set_schedule_state`. -/
def scheduleStateSet (r : ScheduleRow) (state : ScanScheduleState) (now nextRunAt revision : Nat) :
    ScheduleRow :=
  { r with
    state := state, updatedAt := now, nextRunAt := nextRunAt, revision := revision,
    lastErrorCode := none, lastErrorAt := none }

def setScheduleStateBody (scheduleId organizationId : String) (state : ScanScheduleState)
    (now : Nat) (nextRunAt : Option Nat) (s : Store) : Answer (ScheduleRow × Store) := do
  let row ← found ((s.schedule scheduleId).filter (fun r => r.organizationId == organizationId))
    scheduleNotFound
  let updated := s.updateSchedule scheduleId
    (fun r => r.organizationId == organizationId && r.revision == row.revision)
    (fun r => scheduleStateSet r state now (nextRunAt.getD row.nextRunAt) (row.revision + 1))
    (fun _ => rfl)
  let read ← found (updated.1.schedule scheduleId) .assertion
  return (read, updated.1)

def setScheduleState [Primitives] (scheduleId organizationId : String) (state : ScanScheduleState)
    (now : Nat) (nextRunAt : Option Nat) (s : Store) : Answer ScanScheduleRecord × Store :=
  transaction (setScheduleStateBody scheduleId organizationId state now nextRunAt)
    (fun read _ => scheduleFromRow read) s

def pauseScheduleScoped [Primitives] (scheduleId organizationId : String) (now : Nat) (s : Store) :
    Answer ScanScheduleRecord × Store :=
  setScheduleState scheduleId organizationId .paused now none s

/-- `get_schedule_scoped`, a read outside any transaction. -/
def getScheduleScoped [Primitives] (scheduleId organizationId : String) (s : Store) :
    Answer ScanScheduleRecord := do
  let row ← found ((s.schedule scheduleId).filter (fun r => r.organizationId == organizationId))
    scheduleNotFound
  scheduleFromRow row

/--
The second half of `resume_schedule_scoped`, for the schedule its first half has read.

The read is a transaction of its own, so other writers may come between the two.
-/
def resumeScheduleScoped [Primitives] (current : ScanScheduleRecord)
    (scheduleId organizationId : String) (now : Nat) (s : Store) :
    Answer ScanScheduleRecord × Store :=
  match addMicroseconds now (intervalMicroseconds current.intervalSeconds) with
  | .error failure => (.error failure, s)
  | .ok nextRunAt => setScheduleState scheduleId organizationId .active now (some nextRunAt) s

/-! ## `enqueue_due_schedule` -/

/-- The idempotency key of the run scheduled for a moment. -/
def scheduleKey (scheduleId : String) (scheduledFor : Nat) : String :=
  "schedule:" ++ scheduleId ++ ":" ++ timestamp scheduledFor

theorem isDigit_of_mem_digits {width n : Nat} {c : Char} (h : c ∈ digits width n) :
    isDigit c = true := by
  induction width generalizing n with
  | zero => cases h
  | succ width ih =>
    rw [digits, mem_append, mem_singleton] at h
    rcases h with h | rfl
    · exact ih h
    · have hdigit : ∀ d < 10, isDigit (Char.ofNat (48 + d)) = true := by decide
      exact hdigit _ (Nat.mod_lt _ (by decide))

theorem timestamp_spec (t : Nat) : (timestamp t).toList.length = 27 ∧
    ∀ c ∈ (timestamp t).toList, isKeyCharacter c = true := by
  unfold timestamp
  simp only [String.toList_ofList]
  have hdigit : ∀ {width n : Nat} {c : Char}, c ∈ digits width n → isKeyCharacter c = true := by
    intro width n c hc
    simp [isKeyCharacter, isDigit_of_mem_digits hc]
  constructor
  · simp [length_digits]
  · intro c hc
    simp only [mem_append, mem_singleton] at hc
    rcases hc with (((((((((((((hc | rfl) | hc) | rfl) | hc) | rfl) | hc) | rfl) | hc) | rfl) | hc)
      | rfl) | hc) | rfl)
    all_goals first | exact hdigit hc | decide

theorem idempotencyKey_scheduled {tail : String} (hid : isCanonicalUuid scheduleId = true)
    (htail : ∀ c ∈ tail.toList, isKeyCharacter c = true) (hlength : tail.toList.length ≤ 80) :
    idempotencyKey ("schedule:" ++ scheduleId ++ tail)
      = .ok ("schedule:" ++ scheduleId ++ tail) := by
  obtain ⟨hid36, hidchars⟩ := isCanonicalUuid_spec hid
  have hlist : ("schedule:" ++ scheduleId ++ tail).toList
      = "schedule:".toList ++ scheduleId.toList ++ tail.toList := by
    simp [String.toList_append]
  have hlen : ("schedule:" ++ scheduleId ++ tail).toList.length = 45 + tail.toList.length := by
    rw [hlist, length_append, length_append, hid36]
    rfl
  refine idempotencyKey_of_shape ?_ (by omega)
  unfold idempotencyKeyShape
  rw [Bool.and_eq_true, Bool.and_eq_true, decide_eq_true_eq, all_eq_true]
  refine ⟨⟨by omega, ?_⟩, ?_⟩
  · intro c hc
    rw [hlist, mem_append, mem_append] at hc
    rcases hc with (hc | hc) | hc
    · have hword : ∀ c ∈ "schedule:".toList, isKeyCharacter c = true :=
        all_eq_true.mp (by decide)
      exact hword c hc
    · exact hidchars c hc
    · exact htail c hc
  · rw [hlist]
    rfl

theorem idempotencyKey_scheduleKey (hid : isCanonicalUuid scheduleId = true) (scheduledFor : Nat) :
    idempotencyKey (scheduleKey scheduleId scheduledFor)
      = .ok (scheduleKey scheduleId scheduledFor) := by
  obtain ⟨hlength, hchars⟩ := timestamp_spec scheduledFor
  have hkey : scheduleKey scheduleId scheduledFor
      = "schedule:" ++ scheduleId ++ (":" ++ timestamp scheduledFor) := by
    unfold scheduleKey
    rw [String.append_assoc]
  rw [hkey]
  refine idempotencyKey_scheduled hid ?_ ?_
  · intro c hc
    rw [String.toList_append, mem_append] at hc
    rcases hc with hc | hc
    · rw [show c = ':' from mem_singleton.mp hc]
      rfl
    · exact hchars c hc
  · rw [String.toList_append, length_append, hlength]
    decide

/-- The schedule's authorization is still assigned to its organisation. -/
def Store.scheduleAssigned (s : Store) (schedule : ScheduleRow) : Bool :=
  match s.organizationAuthorizations with
  | none => true
  | some assignments => assignments.contains (schedule.organizationId, schedule.authorizationId)

/-- The permit the scheduler names is in force for the organisation at `now`. -/
def Store.permitInForce (s : Store) (permitId organizationId permitSha256 : String) (now : Nat) :
    Bool :=
  (s.scanPermits.get? PermitRow.permitId permitId).any fun p =>
    p.organizationId == organizationId && p.permitSha256 == permitSha256
      && p.revokedAt.isNone && p.notBefore ≤ now && now < p.expiresAt

/-- The `SET` clause of an enqueue. -/
def scheduleAdvanced (r : ScheduleRow) (authorizationSha256 jobId : String) (now nextRunAt : Nat) :
    ScheduleRow :=
  { r with
    authorizationSha256 := authorizationSha256, updatedAt := now, nextRunAt := nextRunAt,
    revision := r.revision + 1, lastEnqueuedAt := some now, lastJobId := some jobId,
    lastErrorCode := none, lastErrorAt := none }

def enqueueConflict : Failure :=
  .jobStore "schedule_enqueue_conflict" "The scheduled run conflicts with an existing job."

/-- The arguments of an enqueue: what the coordinator read before it called. -/
structure EnqueueRequest where
  scheduleId : String
  expectedRevision : Nat
  authorizationSha256 : String
  permitId : String
  permitSha256 : String
  deriving DecidableEq

/-- The write phase, once every check has passed. `jobId` is the `uuid4` drawn for the job. -/
def enqueueWrite [Primitives] (request : EnqueueRequest) (schedule : ScanScheduleRecord)
    (jobId : String) (now : Nat) (s : Store) :
    Answer (Option (ScheduleRow × ScanJobRecord) × Store) := do
  let jobRequest ← checked (ScanJobRequest.new
    { idempotencyKey := scheduleKey schedule.scheduleId schedule.nextRunAt
      target := schedule.target, authorizationId := schedule.authorizationId
      authorizationSha256 := request.authorizationSha256, mode := schedule.mode
      submittedAt := now })
  let record ← checked (ScanJobRecord.new
    { jobId, request := jobRequest, state := .queued, updatedAt := now })
  let s₁ ← found (s.insertJob (newJobRow record.jobId jobRequest record.updatedAt)) enqueueConflict
  let s₂ ← found
    (s₁.insertScope { jobId := record.jobId, organizationId := schedule.organizationId
                      submittedBy := schedule.createdBy }) enqueueConflict
  let s₃ ← found
    (s₂.insertJobPermit { jobId := record.jobId, permitId := request.permitId
                          permitSha256 := request.permitSha256 }) enqueueConflict
  let nextRunAt ← nextScheduleTime schedule.nextRunAt schedule.intervalSeconds now
  let updated := s₃.updateSchedule schedule.scheduleId
    (fun r => r.revision == request.expectedRevision && r.state == .active)
    (fun r => scheduleAdvanced r request.authorizationSha256 record.jobId now nextRunAt)
    (fun _ => rfl)
  -- The schedule moved on: the inserts above are rolled back with it.
  if updated.2 != 1 then return (none, s)
  else
    let read ← found (updated.1.schedule schedule.scheduleId) .assertion
    return (some (read, record), updated.1)

def enqueueDueScheduleBody [Primitives] (request : EnqueueRequest) (jobId : String) (now : Nat)
    (s : Store) : Answer (Option (ScheduleRow × ScanJobRecord) × Store) :=
  match s.schedule request.scheduleId with
  | none => .ok (none, s)
  | some row => do
    let schedule ← scheduleFromRow row
    if schedule.state != .active || schedule.revision != request.expectedRevision
        || now < schedule.nextRunAt then return (none, s)
    else if !s.scheduleAssigned schedule.toScanScheduleRecordFields then return (none, s)
    else
      ensure
        ((s.schedulePermits.get? SchedulePermitRow.scheduleId schedule.scheduleId).any fun b =>
          b.permitId == request.permitId && b.permitSha256 == request.permitSha256)
        (.jobStore "trustscan_schedule_binding_changed"
          "TrustScan schedule permit binding changed before enqueue.")
      if !s.permitInForce request.permitId schedule.organizationId request.permitSha256 now then
        return (none, s)
      else enqueueWrite request schedule jobId now s

def enqueueDueSchedule [Primitives] (request : EnqueueRequest) (jobId : String) (now : Nat)
    (s : Store) : Answer (Option (ScanScheduleRecord × ScanJobRecord)) × Store :=
  transaction (enqueueDueScheduleBody request jobId now)
    (fun answer _ => answer.elim (.ok none) fun written =>
      (scheduleFromRow written.1).map (fun schedule => some (schedule, written.2))) s

/-! ## `block_due_schedule` -/

/-- The `SET` clause of a block. -/
def scheduleBlocked (r : ScheduleRow) (errorCode : String) (now : Nat) : ScheduleRow :=
  { r with
    state := .paused, updatedAt := now, revision := r.revision + 1,
    lastErrorCode := some errorCode, lastErrorAt := some now }

theorem scheduleBlocked_keeps (errorCode : String) (now : Nat) (r : ScheduleRow) :
    (scheduleBlocked r errorCode now).scheduleId = r.scheduleId := rfl

def blockDueScheduleBody (scheduleId : String) (expectedRevision : Nat) (errorCode : String)
    (now : Nat) (s : Store) : Answer (Option ScheduleRow × Store) :=
  let updated := s.updateSchedule scheduleId
    (fun r => r.revision == expectedRevision && r.state == .active)
    (fun r => scheduleBlocked r errorCode now) (scheduleBlocked_keeps errorCode now)
  -- No row matched, so the commit that follows has nothing to write.
  if updated.2 != 1 then .ok (none, s)
  else do
    let row ← found (updated.1.schedule scheduleId) .assertion
    return (some row, updated.1)

def blockDueSchedule [Primitives] (scheduleId : String) (expectedRevision : Nat)
    (errorCode : String) (now : Nat) (s : Store) : Answer (Option ScanScheduleRecord) × Store :=
  transaction (blockDueScheduleBody scheduleId expectedRevision errorCode now)
    (fun answer _ => answer.elim (.ok none) (fun row => (scheduleFromRow row).map some)) s

/-! ## What a committed call has done -/

/-- `s'` is `s` with the schedule `row` replaced by `row'`. -/
structure Store.Rescheduled (s s' : Store) (row row' : ScheduleRow) : Prop where
  old : s.schedule row.scheduleId = some row
  schedule : ∀ j, s'.schedule j = if j = row.scheduleId then some row' else s.schedule j
  frame : s' = { s with scanSchedules := s'.scanSchedules }

theorem Store.rescheduled_of_updateSchedule {guard : ScheduleRow → Bool}
    {f : ScheduleRow → ScheduleRow} {keeps : ∀ r, (f r).scheduleId = r.scheduleId}
    (h : s.schedule scheduleId = some row) (hg : guard row = true) :
    s.Rescheduled (s.updateSchedule scheduleId guard f keeps).1 row (f row) := by
  have hid := scheduleId_of_schedule h
  refine ⟨by rw [hid]; exact h, ?_, rfl⟩
  intro j
  rw [schedule_updateSchedule, h, Option.map_some, if_pos hg, hid]

theorem Store.Inserted.rescheduled {s₁ s₂ : Store} {job : JobRow} {row' : ScheduleRow}
    (h : s.Inserted s₁ job) (hr : s₁.Rescheduled s₂ row row') : s.Inserted s₂ job := by
  refine h.of_frame ?_ ?_
  · rw [hr.frame]
  · intro j _
    rw [hr.frame]
    rfl

theorem setScheduleStateBody_ok {organizationId : String} {state : ScanScheduleState}
    {nextRunAt : Option Nat} {read : ScheduleRow}
    (h : setScheduleStateBody scheduleId organizationId state now nextRunAt s = .ok (read, s')) :
    ∃ row, row.scheduleId = scheduleId ∧
      s.Rescheduled s' row
        (scheduleStateSet row state now (nextRunAt.getD row.nextRunAt) (row.revision + 1)) := by
  unfold setScheduleStateBody at h
  obtain ⟨row, hrow, h⟩ := bind_ok h
  obtain ⟨_, -, h⟩ := bind_ok h
  cases h
  rw [found_eq_ok, Option.filter_eq_some_iff] at hrow
  have hguard : (row.organizationId == organizationId && row.revision == row.revision) = true := by
    simpa using hrow.2
  exact ⟨row, Store.scheduleId_of_schedule hrow.1,
    Store.rescheduled_of_updateSchedule hrow.1 hguard⟩

theorem blockDueScheduleBody_ok {errorCode : String} {expectedRevision : Nat}
    {answer : Option ScheduleRow}
    (h : blockDueScheduleBody scheduleId expectedRevision errorCode now s = .ok (answer, s')) :
    (answer = none ∧ s' = s) ∨
    ∃ row, row.scheduleId = scheduleId ∧ row.revision = expectedRevision ∧ row.state = .active ∧
      s.Rescheduled s' row (scheduleBlocked row errorCode now) := by
  unfold blockDueScheduleBody at h
  simp only [] at h
  split at h
  · cases h
    exact Or.inl ⟨rfl, rfl⟩
  · next hcount =>
    obtain ⟨_, -, h⟩ := bind_ok h
    cases h
    rw [bne_iff_ne, not_ne_iff] at hcount
    obtain ⟨row, hrow, hguard⟩ := Store.updateSchedule_count.mp hcount
    have hboth : row.revision = expectedRevision ∧ row.state = .active := by simpa using hguard
    exact Or.inr ⟨row, Store.scheduleId_of_schedule hrow, hboth.1, hboth.2,
      Store.rescheduled_of_updateSchedule hrow hguard⟩

theorem createScheduleBody_ok [Primitives] {request : ScheduleRequest}
    {permitId permitSha256 : Option String} {record : ScanScheduleRecord}
    (h : createScheduleBody scheduleId request permitId permitSha256 now s = .ok (record, s')) :
    s.schedule scheduleId = none ∧ record.scheduleId = scheduleId ∧
      (∀ j, s'.schedule j
        = if j = scheduleId then some record.toScanScheduleRecordFields else s.schedule j) ∧
      s'.scanJobs = s.scanJobs ∧ s'.jobPermits = s.jobPermits ∧ s'.jobScopes = s.jobScopes := by
  unfold createScheduleBody at h
  obtain ⟨_, -, h⟩ := bind_ok h
  obtain ⟨rec, hrecord, h⟩ := bind_ok h
  obtain ⟨s₁, h₁, h⟩ := bind_ok h
  obtain ⟨s₂, h₂, h⟩ := bind_ok h
  cases h
  rw [checked_eq_ok, new_eq_ok] at hrecord
  have hid : record.scheduleId = scheduleId :=
    (postInit_keeps hrecord).1
  rw [found_eq_ok] at h₁
  unfold Store.insertSchedule at h₁
  obtain ⟨t, ht, rfl⟩ := Option.map_eq_some_iff.mp h₁
  have hschedule : ∀ j, ({ s with scanSchedules := t } : Store).schedule j
      = if j = scheduleId then some record.toScanScheduleRecordFields else s.schedule j := by
    intro j
    rw [← hid]
    exact Table.get?_insert ht (by simp)
  have hfresh : s.schedule scheduleId = none := by
    rw [← hid]
    exact Table.not_mem_of_insert ht (by simp)
  unfold Store.bindSchedulePermit at h₂
  split at h₂
  · obtain ⟨_, -, h₂⟩ := bind_ok h₂
    rw [found_eq_ok] at h₂
    unfold Store.insertSchedulePermit at h₂
    split at h₂
    · obtain ⟨t', -, rfl⟩ := Option.map_eq_some_iff.mp h₂
      exact ⟨hfresh, hid, hschedule, rfl, rfl, rfl⟩
    · simp at h₂
  · cases h₂
    exact ⟨hfresh, hid, hschedule, rfl, rfl, rfl⟩

/--
An enqueue that was committed: the schedule it started from, and everything it wrote.

The job, its scope, its permit binding and the advanced schedule are all there.
-/
structure Store.Enqueued [Primitives] (s s' : Store) (request : EnqueueRequest) (jobId : String)
    (now : Nat) (row : ScheduleRow) (jobRequest : ScanJobRequest) (nextRunAt : Nat) : Prop where
  old : s.schedule request.scheduleId = some row
  active : row.state = .active
  revision : row.revision = request.expectedRevision
  due : row.nextRunAt ≤ now
  interval : 3600 ≤ row.intervalSeconds
  key : idempotencyKey (scheduleKey request.scheduleId row.nextRunAt)
    = .ok jobRequest.idempotencyKey
  target : ∃ target, Primitives.canonicalizeOwnedTargetUrl row.target = .ok target ∧
    Primitives.canonicalizeOwnedTargetUrl target = .ok jobRequest.target
  submittedAt : jobRequest.submittedAt = now
  next : nextScheduleTime row.nextRunAt row.intervalSeconds now = .ok nextRunAt
  canonical : isCanonicalUuid jobId = true
  job : s.Inserted s' (newJobRow jobId jobRequest now)
  binding : s'.binding jobId
    = some { jobId, permitId := request.permitId, permitSha256 := request.permitSha256 }
  schedule : ∀ j, s'.schedule j
    = if j = request.scheduleId then
        some (scheduleAdvanced row request.authorizationSha256 jobId now nextRunAt)
      else s.schedule j

variable {request : EnqueueRequest}

theorem enqueueWrite_ok [Primitives] {schedule : ScanScheduleRecord}
    {jobId : String} {answer : Option (ScheduleRow × ScanJobRecord)}
    (hrow : s.schedule request.scheduleId = some row) (hread : scheduleFromRow row = .ok schedule)
    (hstate : row.state = .active) (hrevision : row.revision = request.expectedRevision)
    (hdue : row.nextRunAt ≤ now)
    (h : enqueueWrite request schedule jobId now s = .ok (answer, s')) :
    (answer = none ∧ s' = s) ∨
    ∃ record jobRequest nextRunAt,
      answer = some (scheduleAdvanced row request.authorizationSha256 jobId now nextRunAt, record) ∧
      s.Enqueued s' request jobId now row jobRequest nextRunAt := by
  unfold scheduleFromRow at hread
  rw [checked_eq_ok, new_eq_ok] at hread
  obtain ⟨hid, -, -, hnext, hinterval, hmin, htarget⟩ :=
    postInit_keeps hread
  rw [Store.scheduleId_of_schedule hrow] at hid
  unfold enqueueWrite at h
  obtain ⟨jobRequest, hrequest, h⟩ := bind_ok h
  obtain ⟨record, hrecord, h⟩ := bind_ok h
  obtain ⟨s₁, h₁, h⟩ := bind_ok h
  obtain ⟨s₂, h₂, h⟩ := bind_ok h
  obtain ⟨s₃, h₃, h⟩ := bind_ok h
  obtain ⟨nextRunAt, htime, h⟩ := bind_ok h
  rw [checked_eq_ok, ScanJobRequest.new_eq_ok, ScanJobRequestFields.postInit_eq_ok] at hrequest
  rw [checked_eq_ok, ScanJobRecord.new_eq_ok] at hrecord
  have hw := (ScanJobRecordFields.postInit_isOk _).mp ⟨_, hrecord⟩
  obtain ⟨hjob, -, -, hupdated, -⟩ := ScanJobRecordFields.postInit_keeps hrecord
  rw [found_eq_ok, hjob, hupdated] at h₁
  rw [found_eq_ok, hjob] at h₂ h₃
  obtain ⟨hinserted₁, -, -, -, hsched₁, -⟩ := Store.inserted_of_insertJob h₁
  obtain ⟨-, -, hsched₂, -, -⟩ := Store.insertScope_frame h₂
  obtain ⟨-, -, hsched₃, -, -, -, hbind₃⟩ := Store.insertJobPermit_frame h₃
  have hinserted : s.Inserted s₃ (newJobRow jobId jobRequest now) :=
    (hinserted₁.insertScope h₂).insertJobPermit rfl h₃
  -- The three inserts leave the schedules alone, so the advance meets the row that was read.
  have hrow₃ : s₃.schedule schedule.scheduleId = some row := by
    rw [hid, ← hrow]
    unfold Store.schedule
    rw [hsched₃, hsched₂, hsched₁]
  have hguard : (row.revision == request.expectedRevision && row.state == .active) = true := by
    simp [hrevision, hstate]
  simp only [] at h
  split at h
  · cases h
    exact Or.inl ⟨rfl, rfl⟩
  · obtain ⟨read, hfound, h⟩ := bind_ok h
    simp only [pure, Except.pure, Except.ok.injEq, Prod.mk.injEq] at h
    obtain ⟨rfl, hs'⟩ := h
    have hresched : s₃.Rescheduled s' row
        (scheduleAdvanced row request.authorizationSha256 jobId now nextRunAt) := by
      have hid' : record.jobId = jobId := hjob
      rw [← hs', ← hid']
      exact Store.rescheduled_of_updateSchedule hrow₃ hguard
    have hschedule : ∀ j, s'.schedule j
        = if j = request.scheduleId then
            some (scheduleAdvanced row request.authorizationSha256 jobId now nextRunAt)
          else s.schedule j := by
      intro j
      rw [hresched.schedule, Store.scheduleId_of_schedule hrow]
      unfold Store.schedule
      rw [hsched₃, hsched₂, hsched₁]
    rw [found_eq_ok, hs', hid, hschedule, if_pos rfl] at hfound
    refine Or.inr ⟨record, jobRequest, nextRunAt, by rw [Option.some.inj hfound], ?_⟩
    refine ⟨hrow, hstate, hrevision, hdue, hmin, ?_,
      ⟨schedule.target, htarget, hrequest.2.1⟩, ?_, ?_, hw.jobId, hinserted.rescheduled hresched,
      ?_, hschedule⟩
    · rw [← hid, ← hnext]
      exact hrequest.1
    · exact hrequest.2.2.2.2.2.2.2
    · rw [← hnext, ← hinterval]
      exact htime
    · have hbound := hbind₃ jobId
      rw [if_pos rfl] at hbound
      rw [hresched.frame]
      exact hbound

theorem enqueueDueScheduleBody_ok [Primitives] {jobId : String}
    {answer : Option (ScheduleRow × ScanJobRecord)}
    (h : enqueueDueScheduleBody request jobId now s = .ok (answer, s')) :
    (answer = none ∧ s' = s) ∨
    ∃ row record jobRequest nextRunAt,
      answer = some (scheduleAdvanced row request.authorizationSha256 jobId now nextRunAt, record) ∧
      s.Enqueued s' request jobId now row jobRequest nextRunAt := by
  unfold enqueueDueScheduleBody at h
  split at h
  · cases h
    exact Or.inl ⟨rfl, rfl⟩
  · next row hrow =>
    obtain ⟨schedule, hread, h⟩ := bind_ok h
    have hkeeps := hread
    unfold scheduleFromRow at hkeeps
    rw [checked_eq_ok, new_eq_ok] at hkeeps
    obtain ⟨-, hstate, hrevision, hnext, -⟩ := postInit_keeps hkeeps
    split at h
    · cases h
      exact Or.inl ⟨rfl, rfl⟩
    · next hready =>
      simp only [Bool.or_eq_true, bne_iff_ne, ne_eq, decide_eq_true_eq, not_or, not_not, Nat.not_lt]
        at hready
      rw [hstate, hrevision, hnext] at hready
      split at h
      · cases h
        exact Or.inl ⟨rfl, rfl⟩
      · obtain ⟨_, -, h⟩ := bind_ok h
        split at h
        · cases h
          exact Or.inl ⟨rfl, rfl⟩
        · rcases enqueueWrite_ok hrow hread hready.1.1 hready.1.2 hready.2 h with h | h
          · exact Or.inl h
          · exact Or.inr ⟨row, h⟩

end WebGuard
