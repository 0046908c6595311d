import WebGuard.Postgres.LeaseAgreement

/-!
# Schedules on both stores

`block_due_schedule` and `enqueue_due_schedule` of the two stores on corresponding databases. An
enqueue writes several tables, so its inserts come first (`enqueueInserts_alike`), then its writes
as a whole, and then the checks in front of them.
-/

namespace WebGuard

open Relational Atomic Option Store ScanJobRequestFields ScanJobRequest SchedulePermitRow

section

variable [Primitives] {s : Store} {p : PgStore} {now : Nat}

/-! ## Blocked schedules -/

variable {row : ScheduleRow} {jobId sha : String}

theorem ScanScheduleRecordFields.Sound.blocked {code : String} (h : row.Sound)
    (hcode : ∃ c, errorCode "scan_schedule" (some code) "last_error_code" = .ok c)
    (hnow : row.createdAt ≤ now) : (scheduleBlocked row code now).Sound :=
  ⟨h.scheduleId, h.organizationId, h.createdBy, h.name, h.target, h.authorizationId,
    h.authorizationSha256, h.intervalSeconds, hnow, h.lastJobId, hcode, rfl⟩

theorem agree_blockDueSchedule {scheduleId code : String} {expectedRevision : Nat}
    (h : Corresponds s p) (hs : s.Regular) (hroom : s.Room) (hpast : s.StoredBy now)
    (hrevision : isInteger expectedRevision = true)
    (hcode : ∃ c, errorCode "scan_schedule" (some code) "last_error_code" = .ok c) :
    Agree (blockDueSchedule scheduleId expectedRevision code now s)
      (p.blockDueSchedule scheduleId expectedRevision code now) := by
  obtain ⟨p', hupdate, hframe, hcorresponds⟩ := h.updateSchedule
    (fun r => r.revision == expectedRevision && r.state == .active)
    (fun r => scheduleBlocked r code now) (fun _ => rfl)
    (fun row hrow _ => hroom.schedules row (Table.mem_of_get? hrow))
  have hpg : Control.blockDueSchedule scheduleId expectedRevision code now p
      = if (s.updateSchedule scheduleId
          (fun r => r.revision == expectedRevision && r.state == .active)
          (fun r => scheduleBlocked r code now) (fun _ => rfl)).2 != 1 then .ok (none, p')
        else .ok (p'.schedule scheduleId, p') := by
    unfold Control.blockDueSchedule integerParameter
    rw [if_pos hrevision, hupdate]
    rfl
  unfold blockDueSchedule PgStore.blockDueSchedule
  by_cases hmatch : ∃ r, s.schedule scheduleId = some r ∧
      (r.revision == expectedRevision && r.state == .active) = true
  · obtain ⟨row, hrow, hguard⟩ := hmatch
    have hcount : (s.updateSchedule scheduleId
        (fun r => r.revision == expectedRevision && r.state == .active)
        (fun r => scheduleBlocked r code now) (fun _ => rfl)).2 = 1 :=
      updateSchedule_count.mpr ⟨row, hrow, hguard⟩
    have hresched : s.Rescheduled (s.updateSchedule scheduleId
        (fun r => r.revision == expectedRevision && r.state == .active)
        (fun r => scheduleBlocked r code now) (fun _ => rfl)).1 row
        (scheduleBlocked row code now) :=
      rescheduled_of_updateSchedule hrow hguard
    have hread := hresched.schedule scheduleId
    rw [if_pos (scheduleId_of_schedule hrow).symm] at hread
    have hpgRead := (hcorresponds.schedules scheduleId).trans hread
    have hnow := hpast.created row (Table.mem_of_get? hrow)
    rw [hcount, hpgRead] at hpg
    refine Agree.transaction (some (scheduleBlocked row code now))
      (some (scheduleBlocked row code now)) ?_ hpg ?_ hcorresponds
      (hs.rescheduled hresched ((hs.schedules scheduleId row hrow).blocked hcode hnow))
    · unfold blockDueScheduleBody
      simp only [hcount, hread, bind, Except.bind]
      rfl
    · show (raising (scheduleFromRow _)).map some = raising ((scheduleFromRow _).map some)
      cases scheduleFromRow (scheduleBlocked row code now) <;> rfl
  · have hcount : (s.updateSchedule scheduleId
        (fun r => r.revision == expectedRevision && r.state == .active)
        (fun r => scheduleBlocked r code now) (fun _ => rfl)).2 ≠ 1 :=
      fun hone => hmatch (updateSchedule_count.mp hone)
    have hsame : ∀ k, p'.schedule k = s.schedule k := by
      intro k
      refine (hcorresponds.schedules k).trans ((schedule_updateSchedule k).trans ?_)
      split
      · next hk =>
        cases hrow : s.schedule scheduleId with
        | none => rw [hk, hrow, map_none]
        | some row =>
          rw [hk, hrow, map_some, if_neg fun hguard => hmatch ⟨row, hrow, hguard⟩]
      · rfl
    rw [if_pos (bne_iff_ne.mpr hcount)] at hpg
    refine Agree.transaction none none ?_ hpg rfl (h.of_schedules rfl hframe hsame) hs
    unfold blockDueScheduleBody
    exact if_pos (bne_iff_ne.mpr hcount)

/-! ## Enqueued runs -/

/-- `s'` is `s` with one job more, and with the scope and the permit of that job. -/
structure Store.JobAdded (s s' : Store) (row : JobRow) (scope : ScopeRow) (binding : JobPermitRow) :
    Prop where
  job : ∀ j, s'.job j = if j = row.jobId then some row else s.job j
  scope : ∀ j, s'.jobScopes.get? ScopeRow.jobId j
    = if j = row.jobId then some scope else s.jobScopes.get? ScopeRow.jobId j
  binding : ∀ j, s'.binding j = if j = row.jobId then some binding else s.binding j
  others : s' = { s with
    scanJobs := s'.scanJobs, jobScopes := s'.jobScopes, jobPermits := s'.jobPermits }

theorem Store.Regular.unbound (hs : s.Regular) (hfresh : s.job jobId = none) :
    s.jobScopes.get? ScopeRow.jobId jobId = none ∧ s.binding jobId = none := by
  constructor
  · cases hlookup : s.jobScopes.get? ScopeRow.jobId jobId with
    | none => rfl
    | some scope =>
      have hsome := hs.scopes _ scope hlookup
      rw [hfresh] at hsome
      cases hsome
  · cases hlookup : s.binding jobId with
    | none => rfl
    | some binding =>
      have hsome := hs.bindings _ binding hlookup
      rw [hfresh] at hsome
      cases hsome

theorem Store.Regular.jobAdded {s' : Store} {row : JobRow} {scope : ScopeRow}
    {binding : JobPermitRow} (hs : s.Regular) (hsound : row.Sound) (hfresh : s.job row.jobId = none)
    (h : s.JobAdded s' row scope binding) : s'.Regular := by
  have hsome : ∀ j, j = row.jobId ∨ (s.job j).isSome = true → (s'.job j).isSome = true := by
    intro j hj
    rw [h.job]
    split
    · rfl
    · next hne => exact hj.resolve_left hne
  refine ⟨?_, ?_, ?_, ?_, ?_⟩
  · intro j r hr
    rw [h.job] at hr
    split at hr
    · cases hr
      exact hsound
    · exact hs.jobs j r hr
  · rw [h.others]
    exact hs.schedules
  · intro j found hlookup
    refine hsome j ?_
    rw [h.scope] at hlookup
    split at hlookup
    · next hj => exact Or.inl hj
    · exact Or.inr (hs.scopes j found hlookup)
  · intro j found hlookup
    refine hsome j ?_
    rw [h.binding] at hlookup
    split at hlookup
    · next hj => exact Or.inl hj
    · exact Or.inr (hs.bindings j found hlookup)
  · intro j receipt hlookup
    rw [h.others] at hlookup
    obtain ⟨r, hr, hterminal⟩ := hs.receipts j receipt hlookup
    have hne : j ≠ row.jobId := by
      rintro rfl
      rw [hfresh] at hr
      cases hr
    exact ⟨r, (h.job j).trans ((if_neg hne).trans hr), hterminal⟩

omit [Primitives] in
theorem Corresponds.jobAdded {s' : Store} {p' : PgStore} {row : JobRow} {scope : ScopeRow}
    {binding : JobPermitRow} (h : Corresponds s p) (hs : s.JobAdded s' row scope binding)
    (hjob : ∀ j, p'.job j = if j = row.jobId then
      some { toJobRow := row, organizationId := some scope.organizationId } else p.job j)
    (hbinding : ∀ j, p'.binding j = if j = row.jobId then some binding else p.binding j)
    (hothers : p' = { p with scanJobs := p'.scanJobs, jobPermits := p'.jobPermits }) :
    Corresponds s' p' := by
  have horganization : ∀ k, s'.organization k
      = if k = row.jobId then some scope.organizationId else s.organization k := by
    intro k
    unfold organization
    rw [hs.scope]
    split
    · rfl
    · rfl
  refine ⟨?_, ?_, ?_, ?_, ?_, ?_, ?_⟩
  · intro j
    rw [hjob, hs.job]
    by_cases hj : j = row.jobId
    · rw [if_pos hj, if_pos hj, map_some]
      unfold pgRow
      rw [horganization, if_pos rfl]
    · rw [if_neg hj, if_neg hj, h.jobs j]
      cases hold : s.job j with
      | none => rfl
      | some r =>
        have hne : r.jobId ≠ row.jobId := by
          rw [jobId_of_job hold]
          exact hj
        unfold pgRow
        rw [map_some, map_some, horganization, if_neg hne]
  · intro j
    rw [hbinding, hs.binding, h.bindings]
  all_goals rw [hs.others, hothers]
  · exact h.permits
  · exact h.schedules
  · exact h.schedulePermits
  · exact h.receipts
  · exact h.assignments

omit [Primitives] in
theorem exists_jobAdded {row : JobRow}
    (organizationId submittedBy permitId permitSha256 : String)
    (hfresh : s.job row.jobId = none)
    (hscope : s.jobScopes.get? ScopeRow.jobId row.jobId = none)
    (hbinding : s.binding row.jobId = none)
    (hfreshKey : s.scanJobs.get? JobRow.idempotencyKey row.idempotencyKey = none)
    (hpermit : (s.scanPermits.get? PermitRow.permitId permitId).isSome = true) :
    ∃ s₁ s₂ s₃, s.insertJob row = some s₁ ∧
      s₁.insertScope { jobId := row.jobId, organizationId, submittedBy } = some s₂ ∧
      s₂.insertJobPermit { jobId := row.jobId, permitId, permitSha256 } = some s₃ ∧
      s.JobAdded s₃ row { jobId := row.jobId, organizationId, submittedBy }
        { jobId := row.jobId, permitId, permitSha256 } := by
  obtain ⟨jobs, hjobs⟩ : ∃ t, s.scanJobs.insert row = some t := by
    refine Table.exists_insert ?_
    intro c hc
    simp only [List.mem_cons, List.not_mem_nil, or_false] at hc
    rcases hc with rfl | rfl
    · exact hfresh
    · exact hfreshKey
  obtain ⟨scopes, hscopes⟩ : ∃ t, s.jobScopes.insert
      { jobId := row.jobId, organizationId, submittedBy } = some t :=
    Table.exists_insert_of_get? hscope
  obtain ⟨permits, hpermits⟩ : ∃ t, s.jobPermits.insert
      { jobId := row.jobId, permitId, permitSha256 } = some t :=
    Table.exists_insert_of_get? hbinding
  have hjob : ∀ j, jobs.get? JobRow.jobId j = if j = row.jobId then some row else s.job j :=
    fun j => Table.get?_insert hjobs (by simp)
  have hstored : ({ s with scanJobs := jobs } : Store).job row.jobId = some row := by
    show jobs.get? JobRow.jobId row.jobId = some row
    rw [hjob, if_pos rfl]
  refine ⟨{ s with scanJobs := jobs }, { s with scanJobs := jobs, jobScopes := scopes },
    { s with scanJobs := jobs, jobScopes := scopes, jobPermits := permits }, ?_, ?_, ?_, hjob,
    fun j => Table.get?_insert hscopes (by simp), fun j => Table.get?_insert hpermits (by simp),
    rfl⟩
  · unfold insertJob
    rw [hjobs]
    rfl
  · unfold insertScope
    rw [if_pos (by rw [hstored]; rfl), show ({ s with scanJobs := jobs } : Store).jobScopes.insert _
      = _ from hscopes]
    rfl
  · unfold insertJobPermit
    rw [if_pos]
    · rw [show ({ s with scanJobs := jobs, jobScopes := scopes } : Store).jobPermits.insert _
        = _ from hpermits]
      rfl
    · rw [Bool.and_eq_true]
      refine ⟨?_, hpermit⟩
      rw [show ({ s with scanJobs := jobs, jobScopes := scopes } : Store).job _ = _ from hstored]
      rfl

theorem enqueueInserts_alike {row : JobRow}
    (organizationId submittedBy permitId permitSha256 : String) (h : Corresponds s p)
    (hs : s.Regular) (hsound : row.Sound)
    (hfresh : s.job row.jobId = none)
    (hfreshKey : s.scanJobs.get? JobRow.idempotencyKey row.idempotencyKey = none)
    (hpermit : (s.scanPermits.get? PermitRow.permitId permitId).isSome = true) :
    ∃ s₁ s₂ s₃ t p₁, s.insertJob row = some s₁ ∧
      s₁.insertScope { jobId := row.jobId, organizationId, submittedBy } = some s₂ ∧
      s₂.insertJobPermit { jobId := row.jobId, permitId, permitSha256 } = some s₃ ∧
      p.scanJobs.insert { toJobRow := row, organizationId := some organizationId } = some t ∧
      { p with scanJobs := t }.insertJobPermit { jobId := row.jobId, permitId, permitSha256 }
        = .ok p₁ ∧
      s₃.scanSchedules = s.scanSchedules ∧
      p₁.job row.jobId = some { toJobRow := row, organizationId := some organizationId } ∧
      Corresponds s₃ p₁ ∧ s₃.Regular := by
  obtain ⟨s₁, s₂, s₃, hjob, hscope, hjobPermit, hadded⟩ :=
    exists_jobAdded organizationId submittedBy permitId permitSha256 hfresh (hs.unbound hfresh).1
      (hs.unbound hfresh).2 hfreshKey hpermit
  obtain ⟨pgJobs, hpgJobs⟩ : ∃ t, p.scanJobs.insert
      { toJobRow := row, organizationId := some organizationId } = some t := by
    refine Table.exists_insert ?_
    intro c hc
    simp only [List.mem_cons, List.not_mem_nil, or_false] at hc
    rcases hc with rfl | rfl
    · show p.job row.jobId = none
      rw [h.jobs, hfresh, map_none]
    · rw [Table.get?_eq_none_iff] at hfreshKey ⊢
      intro r hr
      obtain ⟨other, hother, rfl⟩ := h.mem_rows_iff.mp hr
      exact hfreshKey other hother
  obtain ⟨pgPermits, hpgPermits⟩ : ∃ t, p.jobPermits.insert
      { jobId := row.jobId, permitId, permitSha256 } = some t :=
    Table.exists_insert_of_get? ((h.bindings row.jobId).trans (hs.unbound hfresh).2)
  have hpgJob : ∀ j, pgJobs.get? PgJobRow.id j = if j = row.jobId then
      some { toJobRow := row, organizationId := some organizationId } else p.job j :=
    fun j => Table.get?_insert hpgJobs (by simp)
  refine ⟨s₁, s₂, s₃, pgJobs, { p with scanJobs := pgJobs, jobPermits := pgPermits }, hjob, hscope,
    hjobPermit, hpgJobs, ?_, by rw [hadded.others],
    (hpgJob row.jobId).trans (if_pos rfl),
    h.jobAdded hadded hpgJob (fun j => Table.get?_insert hpgPermits (by simp)) rfl,
    hs.jobAdded hsound hfresh hadded⟩
  unfold PgStore.insertJobPermit
  simp only [hpgPermits, h.permits, hpermit, if_true]

/-- The checks that an enqueue makes before it writes. -/
def Store.enqueueReady (s : Store) (request : EnqueueRequest) (row : ScheduleRow) (now : Nat) :
    Bool :=
  !(row.state != .active || row.revision != request.expectedRevision || now < row.nextRunAt)
    && s.scheduleAssigned row
    && (s.schedulePermits.get? scheduleId request.scheduleId).any (fun b =>
      b.permitId == request.permitId && b.permitSha256 == request.permitSha256)
    && s.permitInForce request.permitId row.organizationId request.permitSha256 now

/--
An enqueue that passes its checks meets neither a job of its key nor one of its identifier, and
the two computations of the next run agree.
-/
def Store.EnqueueClear (s : Store) (request : EnqueueRequest) (jobId : String) (now : Nat) : Prop :=
  ∀ row, s.schedule request.scheduleId = some row → s.enqueueReady request row now = true →
    s.job jobId = none ∧
    s.scanJobs.get? JobRow.idempotencyKey (scheduleKey request.scheduleId row.nextRunAt) = none ∧
    nextScheduleTime row.nextRunAt row.intervalSeconds now
      = .ok (Control.nextRunAt row.nextRunAt row.intervalSeconds now)

omit [Primitives] in
theorem enqueueRefusal_eq (h : Corresponds s p) (request : EnqueueRequest) (row : ScheduleRow)
    (now : Nat) :
    Control.enqueueRefusal request row now p
      = if row.state != .active || row.revision != request.expectedRevision
          || now < row.nextRunAt then some .notDue
        else if !s.scheduleAssigned row then some .authorizationNotAssigned
        else if !(s.schedulePermits.get? scheduleId request.scheduleId).any
            (fun b => b.permitId == request.permitId && b.permitSha256 == request.permitSha256) then
          some .bindingChanged
        else if !s.permitInForce request.permitId row.organizationId request.permitSha256 now then
          some .permitInvalid
        else none := by
  obtain ⟨assigned, hassigned, hmem⟩ := h.assignments
  have hcontains : p.organizationAuthorizations.contains (row.organizationId, row.authorizationId)
      = s.scheduleAssigned row := by
    unfold scheduleAssigned
    rw [hassigned, Bool.eq_iff_iff, List.contains_iff_mem, List.contains_iff_mem]
    exact hmem _
  unfold Control.enqueueRefusal
  rw [hcontains, h.schedulePermits, h.permits]
  rfl

theorem ScanJobRequestFields.postInit_self {fields : ScanJobRequestFields}
    (hkey : WebGuard.idempotencyKey fields.idempotencyKey = .ok fields.idempotencyKey)
    (htarget : Primitives.canonicalizeOwnedTargetUrl fields.target = .ok fields.target)
    (hauthorization : isCanonicalUuid fields.authorizationId = true)
    (hsha : isSha256 fields.authorizationSha256 = true) : fields.postInit = .ok fields :=
  postInit_eq_ok.mpr
    ⟨hkey, htarget, hauthorization, rfl, hsha, rfl, rfl, rfl⟩

theorem ScanScheduleRecordFields.Sound.advanced {nextRunAt : Nat} (h : row.Sound)
    (hsha : isSha256 sha = true) (hid : isCanonicalUuid jobId = true) (hnow : row.createdAt ≤ now) :
    (scheduleAdvanced row sha jobId now nextRunAt).Sound := by
  refine ⟨h.scheduleId, h.organizationId, h.createdBy, h.name, h.target, h.authorizationId, hsha,
    h.intervalSeconds, hnow, ?_, ⟨none, rfl⟩, rfl⟩
  rintro v ⟨⟩
  exact hid

/-- The request of the run that a schedule is due for. -/
def scheduledFields (row : ScheduleRow) (authorizationSha256 : String) (now : Nat) :
    ScanJobRequestFields where
  idempotencyKey := scheduleKey row.scheduleId row.nextRunAt
  target := row.target
  authorizationId := row.authorizationId
  authorizationSha256 := authorizationSha256
  mode := row.mode
  submittedAt := now

theorem postInit_scheduledFields (h : row.Sound) (hsha : isSha256 sha = true) (now : Nat) :
    (scheduledFields row sha now).postInit = .ok (scheduledFields row sha now) :=
  postInit_self (idempotencyKey_scheduleKey h.scheduleId row.nextRunAt)
    h.target h.authorizationId hsha

/-- The request of a run, and the record made of it, pass their checks as they are. -/
structure ScheduledRun (row : ScheduleRow) (sha jobId : String) (now : Nat)
    (request : ScanJobRequest) (record : ScanJobRecord) : Prop where
  fields : request.toScanJobRequestFields = scheduledFields row sha now
  accepted : new (scheduledFields row sha now) = .ok request
  again : new (newJobRow jobId request now).requestFields = .ok request
  sound : (newJobRow jobId request now).Sound
  recorded : ScanJobRecord.new ((newJobRow jobId request now).recordFields request) = .ok record
  jobIdRecorded : record.jobId = jobId
  updatedAt : record.updatedAt = now

theorem exists_scheduledRun (hsound : row.Sound) (hsha : isSha256 sha = true)
    (hid : isCanonicalUuid jobId = true) (now : Nat) :
    ∃ request record, ScheduledRun row sha jobId now request record := by
  have hpost := postInit_scheduledFields hsound hsha now
  obtain ⟨request, hrequest⟩ : ∃ r : ScanJobRequest,
      r.toScanJobRequestFields = scheduledFields row sha now := ⟨⟨_, ⟨_, hpost⟩⟩, rfl⟩
  have hnew : new (scheduledFields row sha now) = .ok request := by
    rw [new_eq_ok, hrequest]
    exact hpost
  have hagain : new (newJobRow jobId request now).requestFields = .ok request := by
    show new request.toScanJobRequestFields = .ok request
    rw [hrequest]
    exact hnew
  have hsubmitted : request.submittedAt = now :=
    congrArg submittedAt hrequest
  have hrow : (newJobRow jobId request now).Sound := by
    have hnewRow : (newJobRow jobId request request.submittedAt).Sound :=
      sound_newJobRow hid ⟨row.target, by rw [hrequest]; exact hsound.target⟩
    rwa [hsubmitted] at hnewRow
  obtain ⟨record, hrecord⟩ : ∃ record,
      ScanJobRecord.new ((newJobRow jobId request now).recordFields request) = .ok record := by
    obtain ⟨record, hrecord⟩ := JobRow.readable_iff.mpr hrow
    unfold recordFromRow at hrecord
    rw [hagain] at hrecord
    exact ⟨record, checked_eq_ok.mp hrecord⟩
  obtain ⟨hrecordId, -, -, hupdatedAt, -⟩ :=
    ScanJobRecordFields.postInit_keeps (ScanJobRecord.new_eq_ok.mp hrecord)
  exact ⟨request, record, hrequest, hnew, hagain, hrow, hrecord, hrecordId, hupdatedAt⟩

omit [Primitives] in
theorem nextScheduleTime_lt {scheduledFor intervalSeconds nextRun : Nat}
    (h : nextScheduleTime scheduledFor intervalSeconds now = .ok nextRun) :
    nextRun < datetimeEnd := by
  have hadd : ∀ {moment duration later : Nat}, addMicroseconds moment duration = .ok later →
      later < datetimeEnd := by
    intro moment duration later hlater
    unfold addMicroseconds at hlater
    split at hlater
    · next hlt =>
      cases hlater
      exact hlt
    · cases hlater
  unfold nextScheduleTime at h
  obtain ⟨first, hfirst, h⟩ := bind_ok h
  split at h
  · cases h
    exact hadd hfirst
  · exact hadd h

variable {request : EnqueueRequest}

theorem enqueueWrite_alike {name : String} {code : Option String}
    (built : ∃ raw : ScanScheduleRecordFields,
      raw.postInit = .ok { row with name := name, lastErrorCode := code }) (h : Corresponds s p)
    (hs : s.Regular) (hroom : s.Room) (hpast : s.StoredBy now)
    (hrevision : isInteger request.expectedRevision = true)
    (hsha : isSha256 request.authorizationSha256 = true) (hid : isCanonicalUuid jobId = true)
    (hrow : s.schedule request.scheduleId = some row)
    (hready : s.enqueueReady request row now = true) (hclear : s.EnqueueClear request jobId now)
    (hrefusal : Control.enqueueRefusal request row now p = none) :
    ∃ s' p' written record pgJob,
      enqueueWrite request
        { toScanScheduleRecordFields := { row with name := name, lastErrorCode := code }
          built := built } jobId now s = .ok (some (written, record), s') ∧
      Control.enqueueDueSchedule request now (fingerprintFields request row now).fingerprint jobId p
        = .ok (.ok written pgJob, p') ∧
      jobRecordFromRow pgJob.toJobRow = .ok record ∧ Corresponds s' p' ∧ s'.Regular := by
  have hsound := hs.schedules _ row hrow
  have hscheduleId := scheduleId_of_schedule hrow
  obtain ⟨hfresh, hfreshKey, hnext⟩ := hclear row hrow hready
  unfold enqueueReady at hready
  simp only [Bool.and_eq_true, Bool.not_eq_true', Bool.or_eq_false_iff, bne_eq_false_iff_eq,
    decide_eq_false_iff_not, Nat.not_lt] at hready
  obtain ⟨⟨⟨⟨⟨hactive, hexpected⟩, hdue⟩, -⟩, -⟩, hforce⟩ := hready
  have hpermit : (s.scanPermits.get? PermitRow.permitId request.permitId).isSome = true := by
    obtain ⟨permit, hlookup, -⟩ := (any_eq_true _ _).mp hforce
    rw [hlookup]
    rfl
  obtain ⟨jobRequest, record, hrun⟩ := exists_scheduledRun hsound hsha hid now
  have hkey : s.scanJobs.get? JobRow.idempotencyKey (newJobRow jobId jobRequest now).idempotencyKey
      = none := by
    show s.scanJobs.get? JobRow.idempotencyKey jobRequest.idempotencyKey = none
    rw [hrun.fields, ← hfreshKey, ← hscheduleId]
    rfl
  obtain ⟨s₁, s₂, s₃, jobs, p₁, hjob₁, hscope₂, hpermit₃, hpgJobs, hpgPermit, hschedules, hstored,
      hcorresponds, hregular⟩ :=
    enqueueInserts_alike row.organizationId row.createdBy request.permitId request.permitSha256
      h hs hrun.sound hfresh hkey hpermit
  -- The advance of the schedule, which the inserts have left alone.
  have hrow₃ : s₃.schedule row.scheduleId = some row := by
    unfold schedule
    rw [hschedules, hscheduleId]
    exact hrow
  have hguard : (row.revision == request.expectedRevision && row.state == .active) = true := by
    simp [hexpected, hactive]
  obtain ⟨p₂, hupdate, hframe, hcorresponds₂⟩ := hcorresponds.updateSchedule
    (fun r => r.revision == request.expectedRevision && r.state == .active)
    (fun r => scheduleAdvanced r request.authorizationSha256 jobId now
      (Control.nextRunAt row.nextRunAt row.intervalSeconds now)) (fun _ => rfl)
    (fun r hr _ => hroom.schedules r (hschedules ▸ Table.mem_of_get? hr : r ∈ s.scanSchedules.rows))
  have hcount : (s₃.updateSchedule row.scheduleId
      (fun r => r.revision == request.expectedRevision && r.state == .active)
      (fun r => scheduleAdvanced r request.authorizationSha256 jobId now
        (Control.nextRunAt row.nextRunAt row.intervalSeconds now)) (fun _ => rfl)).2 = 1 :=
    updateSchedule_count.mpr ⟨row, hrow₃, hguard⟩
  rw [hcount, hscheduleId] at hupdate
  have hresched : s₃.Rescheduled (s₃.updateSchedule row.scheduleId
      (fun r => r.revision == request.expectedRevision && r.state == .active)
      (fun r => scheduleAdvanced r request.authorizationSha256 jobId now
        (Control.nextRunAt row.nextRunAt row.intervalSeconds now)) (fun _ => rfl)).1 row
      (scheduleAdvanced row request.authorizationSha256 jobId now
        (Control.nextRunAt row.nextRunAt row.intervalSeconds now)) :=
    rescheduled_of_updateSchedule hrow₃ hguard
  have hread := hresched.schedule row.scheduleId
  rw [if_pos rfl] at hread
  have hpgRead := (hcorresponds₂.schedules row.scheduleId).trans hread
  refine ⟨_, p₂, scheduleAdvanced row request.authorizationSha256 jobId now
    (Control.nextRunAt row.nextRunAt row.intervalSeconds now), record,
    { toJobRow := newJobRow jobId jobRequest now, organizationId := some row.organizationId },
    ?_, ?_, ?_, hcorresponds₂, ?_⟩
  · unfold enqueueWrite
    refine bind_ok_iff.mpr ⟨jobRequest, checked_eq_ok.mpr hrun.accepted, ?_⟩
    refine bind_ok_iff.mpr ⟨record, checked_eq_ok.mpr hrun.recorded, ?_⟩
    simp only [hrun.jobIdRecorded, hrun.updatedAt]
    refine bind_ok_iff.mpr ⟨s₁, found_eq_ok.mpr hjob₁, ?_⟩
    refine bind_ok_iff.mpr ⟨s₂, found_eq_ok.mpr hscope₂, ?_⟩
    refine bind_ok_iff.mpr ⟨s₃, found_eq_ok.mpr hpermit₃, ?_⟩
    refine bind_ok_iff.mpr ⟨_, hnext, ?_⟩
    simp only [hcount, bne_self_eq_false, Bool.false_eq_true, if_false]
    exact bind_ok_iff.mpr ⟨_, found_eq_ok.mpr hread, rfl⟩
  · have hpgRow : Control.enqueuedJob request row jobId
        (fingerprintFields request row now).fingerprint now
        = { toJobRow := newJobRow jobId jobRequest now
            organizationId := some row.organizationId } := by
      unfold Control.enqueuedJob newJobRow
      rw [hrun.fields, ← hscheduleId]
      rfl
    unfold Control.enqueueDueSchedule integerParameter
    simp only [if_pos hrevision, h.schedules, hrow, hrefusal, hpgRow, hpgJobs]
    refine bind_ok_iff.mpr ⟨(), rfl, ?_⟩
    refine bind_ok_iff.mpr ⟨p₁, hpgPermit, ?_⟩
    refine bind_ok_iff.mpr ⟨_, hupdate, ?_⟩
    have hpgStored : p₂.job jobId = some
        { toJobRow := newJobRow jobId jobRequest now
          organizationId := some row.organizationId } := by
      rw [hframe]
      exact hstored
    rw [hscheduleId] at hpgRead
    simp only [hpgRead, hpgStored, bne_self_eq_false, Bool.false_eq_true, if_false]
    exact if_pos (nextScheduleTime_lt hnext)
  · unfold jobRecordFromRow
    rw [hrun.again]
    exact checked_eq_ok.mpr hrun.recorded
  · refine hregular.rescheduled hresched (hsound.advanced hsha hid ?_)
    exact hpast.created row (Table.mem_of_get? hrow)

theorem agree_enqueueDueSchedule (h : Corresponds s p) (hs : s.Regular)
    (hroom : s.Room) (hpast : s.StoredBy now)
    (hrevision : isInteger request.expectedRevision = true)
    (hsha : isSha256 request.authorizationSha256 = true) (hid : isCanonicalUuid jobId = true)
    (hclear : s.EnqueueClear request jobId now) :
    Agree (enqueueDueSchedule request jobId now s) (p.enqueueDueSchedule request jobId now) := by
  unfold enqueueDueSchedule PgStore.enqueueDueSchedule
  cases hrow : s.schedule request.scheduleId with
  | none =>
    refine Agree.transaction none none ?_ ?_ rfl h hs
    · unfold enqueueDueScheduleBody
      rw [hrow]
    · unfold PgStore.enqueueDueScheduleBody
      rw [h.schedules, hrow]
  | some row =>
    have hsound := hs.schedules _ row hrow
    have hscheduleId := scheduleId_of_schedule hrow
    obtain ⟨name, code, built, hread⟩ := hsound.scheduleFromRow
    have hfingerprint : (fingerprintFields request row now).postInit
        = .ok (fingerprintFields request row now) := by
      refine postInit_self ?_ hsound.target hsound.authorizationId hsha
      exact idempotencyKey_scheduled (hscheduleId ▸ hsound.scheduleId)
        (List.all_eq_true.mp (by decide)) (by decide)
    -- Until it writes, the function answers with an outcome and leaves the database alone.
    have hpgRefused : ∀ outcome, Control.enqueueRefusal request row now p = some outcome →
        PgStore.enqueueDueScheduleBody request jobId now p = .ok (some outcome, p) := by
      intro outcome hrefusal
      unfold PgStore.enqueueDueScheduleBody Control.enqueueDueSchedule integerParameter
      simp only [h.schedules, hrow, if_pos hrevision, hrefusal]
      refine bind_ok_iff.mpr ⟨⟨_, ⟨_, hfingerprint⟩⟩, ?_, rfl⟩
      rw [raising_eq_ok, checked_eq_ok, new_eq_ok]
      exact hfingerprint
    have hrefusal := enqueueRefusal_eq h request row now
    have hbody : ∀ x,
        (if row.state != .active || row.revision != request.expectedRevision
            || now < row.nextRunAt then .ok (none, s)
          else if !s.scheduleAssigned row then .ok (none, s)
          else
            ensure ((s.schedulePermits.get? scheduleId request.scheduleId).any
              fun b => b.permitId == request.permitId && b.permitSha256 == request.permitSha256)
              (.jobStore "trustscan_schedule_binding_changed"
                "TrustScan schedule permit binding changed before enqueue.") >>= fun _ =>
            if !s.permitInForce request.permitId row.organizationId request.permitSha256 now then
              .ok (none, s)
            else enqueueWrite request
              { toScanScheduleRecordFields := { row with name := name, lastErrorCode := code }
                built := built } jobId now s) = x →
        enqueueDueScheduleBody request jobId now s = x := by
      intro x hx
      unfold enqueueDueScheduleBody
      rw [hrow]
      show (scheduleFromRow row >>= _) = x
      rw [hread]
      rw [← hscheduleId] at hx
      exact hx
    by_cases hdue : (row.state != .active || row.revision != request.expectedRevision
        || now < row.nextRunAt) = true
    · rw [if_pos hdue] at hrefusal
      exact Agree.transaction none (some .notDue) (hbody _ (if_pos hdue)) (hpgRefused _ hrefusal)
        rfl h hs
    rw [if_neg hdue] at hrefusal hbody
    by_cases hassigned : (!s.scheduleAssigned row) = true
    · rw [if_pos hassigned] at hrefusal
      exact Agree.transaction none (some .authorizationNotAssigned) (hbody _ (if_pos hassigned))
        (hpgRefused _ hrefusal) rfl h hs
    rw [if_neg hassigned] at hrefusal hbody
    by_cases hbound : (s.schedulePermits.get? scheduleId request.scheduleId).any
        (fun b => b.permitId == request.permitId && b.permitSha256 == request.permitSha256) = true
    · by_cases hforce : s.permitInForce request.permitId row.organizationId request.permitSha256 now
          = true
      · rw [hbound, if_neg (by simp), hforce, if_neg (by simp)] at hrefusal
        have hready : s.enqueueReady request row now = true := by
          unfold enqueueReady
          rw [hbound, hforce]
          simpa using ⟨by simpa using hdue, by simpa using hassigned⟩
        obtain ⟨s', p', written, record, pgJob, hwrite, hpgWrite, hpgRecord, hcorresponds,
            hregular⟩ :=
          enqueueWrite_alike built h hs hroom hpast hrevision hsha hid hrow hready hclear hrefusal
        refine Agree.transaction (some (written, record)) (some (.ok written pgJob)) (hbody _ ?_)
          ?_ ?_ hcorresponds hregular
        · refine bind_ok_iff.mpr ⟨(), ensure_eq_ok.mpr hbound, ?_⟩
          rw [hforce]
          exact hwrite
        · unfold PgStore.enqueueDueScheduleBody
          simp only [h.schedules, hrow]
          refine bind_ok_iff.mpr ⟨⟨_, ⟨_, hfingerprint⟩⟩, ?_, ?_⟩
          · rw [raising_eq_ok, checked_eq_ok, new_eq_ok]
            exact hfingerprint
          · exact bind_ok_iff.mpr ⟨_, hpgWrite, rfl⟩
        · show raising (enqueueAnswer (.ok written pgJob))
            = raising ((scheduleFromRow written).map _)
          simp only [enqueueAnswer, hpgRecord]
          cases scheduleFromRow written <;> rfl
      · rw [hbound, if_neg (by simp), if_pos (by simpa using hforce)] at hrefusal
        refine Agree.transaction none (some .permitInvalid) (hbody _ ?_) (hpgRefused _ hrefusal)
          rfl h hs
        exact bind_ok_iff.mpr ⟨(), ensure_eq_ok.mpr hbound, if_pos (by simpa using hforce)⟩
    · rw [if_pos (by simpa using hbound)] at hrefusal
      refine Agree.refused (some .bindingChanged) (hbody _ ?_) (hpgRefused _ hrefusal) rfl h hs
      unfold ensure
      rw [if_neg hbound]
      rfl

end

end WebGuard
