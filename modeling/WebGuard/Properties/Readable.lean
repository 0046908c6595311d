import WebGuard.Store.Refinement

/-!
# Stored rows that read back

Every read of a job goes through `_record_from_row`, whose checks order the timestamps of the
row. A claim, a renewal, a recovery and a terminal write floor the moment they write, by
`_no_earlier_than`; not every one of them floors it against everything the check compares, and a
cancellation does not floor it at all. `ReadableStep` says, call by call, what keeps the rows
readable whatever the clocks do, and `readable_run` that it does, over whole runs.

`cancel_before_submission` is the shortest history that poisons a row.
-/

namespace WebGuard

open Primitives Atomic Store ScanJobRecordFields

section

variable [Primitives]

/-! ## Readable rows -/

/-- The row decodes into a valid record. -/
def JobRow.Readable (row : JobRow) : Prop := ∃ record, recordFromRow row = .ok record

/-- The checks of `_record_from_row` on the columns of the row. -/
structure JobRow.Sound (row : JobRow) : Prop where
  request : ∃ request, ScanJobRequest.new row.requestFields = .ok request
  jobId : isCanonicalUuid row.jobId = true
  updatedAt : row.submittedAt ≤ row.updatedAt
  startedAt : ∀ t, row.startedAt = some t → row.submittedAt ≤ t
  completedAt : ∀ t, row.completedAt = some t → row.startedAt.getD row.submittedAt ≤ t
  scanId : ∀ v, row.scanId = some v → isCanonicalUuid v = true
  reportRef : ∀ v, row.reportRef = some v →
    ∃ c, artifactReference "scan_job" v "report_ref" = .ok c
  auditRef : ∀ v, row.auditRef = some v → ∃ c, artifactReference "scan_job" v "audit_ref" = .ok c
  errorCode : ∃ c, WebGuard.errorCode "scan_job" row.errorCode "error_code" = .ok c
  errorMessage : ∃ c, optionalText "scan_job" row.errorMessage "error_message" 2048 = .ok c
  projection : ∀ request, (row.recordFields request).validateStateProjection = .ok ()

variable {request : ScanJobRequest} {jobId : String} {op : Op} {s : Store} {row : JobRow}

theorem submittedAt_of_new (h : ScanJobRequest.new row.requestFields = .ok request) :
    request.submittedAt = row.submittedAt := by
  rw [ScanJobRequest.new_eq_ok, ScanJobRequestFields.postInit_eq_ok] at h
  exact h.2.2.2.2.2.2.2

theorem JobRow.projection_of (h : (row.recordFields request).validateStateProjection = .ok ())
    (request' : ScanJobRequest) :
    (row.recordFields request').validateStateProjection = .ok () := by
  rw [← h]
  exact validateStateProjection_congr rfl rfl rfl rfl rfl rfl rfl rfl rfl

theorem JobRow.readable_iff : row.Readable ↔ row.Sound := by
  unfold JobRow.Readable recordFromRow
  constructor
  · rintro ⟨record, h⟩
    split at h
    · simp at h
    · next request hrequest =>
      rw [checked_eq_ok, ScanJobRecord.new_eq_ok] at h
      have hw := (postInit_isOk _).mp ⟨_, h⟩
      have hsubmitted := submittedAt_of_new hrequest
      refine ⟨⟨request, hrequest⟩, hw.jobId, hsubmitted ▸ hw.updatedAt, hsubmitted ▸ hw.startedAt,
        hsubmitted ▸ hw.completedAt, hw.scanId, hw.reportRef, hw.auditRef, hw.errorCode,
        hw.errorMessage, JobRow.projection_of hw.projection⟩
  · intro hs
    obtain ⟨request, hrequest⟩ := hs.request
    have hsubmitted := submittedAt_of_new hrequest
    have hw : (row.recordFields request).Wellformed :=
      ⟨hs.jobId, hsubmitted ▸ hs.updatedAt, hsubmitted ▸ hs.startedAt,
        hsubmitted ▸ hs.completedAt, hs.scanId, hs.reportRef, hs.auditRef, hs.errorCode,
        hs.errorMessage, hs.projection request⟩
    obtain ⟨fields, hfields⟩ := (postInit_isOk _).mpr hw
    rw [hrequest]
    refine ⟨⟨fields, ⟨_, hfields⟩⟩, ?_⟩
    simp only [checked_eq_ok, ScanJobRecord.new_eq_ok]
    exact hfields

/-! ## What keeps the rows readable -/

/-- The texts a terminal write fills in pass the checks of the record. -/
structure TerminalWrite.Accepted (w : TerminalWrite) : Prop where
  scanId : ∀ v, w.scanId = some v → isCanonicalUuid v = true
  reportRef : ∀ v, w.reportRef = some v →
    ∃ c, artifactReference "scan_job" v "report_ref" = .ok c
  auditRef : ∀ v, w.auditRef = some v → ∃ c, artifactReference "scan_job" v "audit_ref" = .ok c
  errorCode : ∃ c, WebGuard.errorCode "scan_job" w.errorCode "error_code" = .ok c
  errorMessage : ∃ c, optionalText "scan_job" w.errorMessage "error_message" 2048 = .ok c

/--
The condition under which a call leaves every row readable.

* a submission: its target, already canonical, is accepted once more;
* an enqueue: so is the target of the schedule;
* a cancellation request: its clock is not behind the submission of a job it changes;
* a recovery: its clock is not behind the start of a job it cancels or fails;
* a terminal write on a running job: its texts pass the checks of the record.
-/
def ReadableStep (s : Store) : Op → Prop
  | .submit request _ _ _ _ _ => ∃ target, canonicalizeOwnedTargetUrl request.target = .ok target
  | .enqueueDueSchedule request _ _ =>
    ∀ row t₁ t₂, s.schedule request.scheduleId = some row →
      canonicalizeOwnedTargetUrl row.target = .ok t₁ → canonicalizeOwnedTargetUrl t₁ = .ok t₂ →
      ∃ t₃, canonicalizeOwnedTargetUrl t₂ = .ok t₃
  | .requestCancellation jobId now =>
    ∀ row, s.job jobId = some row → row.state.isTerminal = false → row.submittedAt ≤ now
  | .recoverExpiredLeases now limit =>
    ∀ j row start, s.job j = some row → row.leaseExpired now = true →
      row.cancellationRequested = true ∨ limit ≤ row.attemptCount → row.startedAt = some start →
      start ≤ max now row.submittedAt
  | op =>
    ∀ jobId w now row, op.terminalWrite = some (jobId, w, now) → s.job jobId = some row →
      row.state = .running → w.Accepted

/-! ## Step by step -/

theorem sound_newJobRow (hid : isCanonicalUuid jobId = true)
    (htarget : ∃ target, canonicalizeOwnedTargetUrl request.target = .ok target) :
    (newJobRow jobId request request.submittedAt).Sound := by
  obtain ⟨fields, hfields⟩ := request.accepted_again.mpr htarget
  refine ⟨⟨⟨fields, ⟨_, hfields⟩⟩, ScanJobRequest.new_eq_ok.mpr hfields⟩, hid, Nat.le_refl _,
    ?_, ?_, ?_, ?_, ?_, ⟨none, rfl⟩, ⟨none, rfl⟩, fun _ => rfl⟩
  all_goals
    intro v hv
    cases hv

omit [Primitives] in
theorem exhausted_errorCode :
    ∃ c, errorCode "scan_job" (some "worker_lease_attempts_exhausted") "error_code" = .ok c :=
  exists_ok_of_isOk (by decide)

omit [Primitives] in
theorem exhausted_errorMessage :
    ∃ c, optionalText "scan_job"
      (some "The scan job exceeded the permitted worker recovery attempts.") "error_message" 2048
      = .ok c :=
  exists_ok_of_isOk (by decide)

theorem terminate_projection {w : TerminalWrite} {now : Nat}
    (hop : op.terminalWrite = some (jobId, w, now)) (hstarted : row.startedAt.isSome = true)
    (moment revision : Nat) (request : ScanJobRequest) :
    ((row.terminate w moment revision).recordFields request).validateStateProjection
      = .ok () := by
  unfold Op.terminalWrite at hop
  split at hop
  · next outcome _ _ =>
    obtain ⟨state, hstate, hop⟩ := Option.map_eq_some_iff.mp hop
    cases hop
    exact projection_result rfl hstate rfl hstarted rfl rfl
  · split at hop
    · next hstate =>
      cases hop
      exact projection_result rfl hstate.1 rfl hstarted rfl rfl
    · simp at hop
  · cases hop
    exact projection_failed rfl rfl hstarted rfl rfl
  · cases hop
    exact projection_cancelled rfl rfl ⟨rfl, rfl, rfl, rfl, rfl, rfl⟩
  · simp at hop

namespace JobRow.Sound

variable {row : JobRow} {now : Nat}

theorem queued_fields (h : row.Sound) (hstate : row.state = .queued) (request : ScanJobRequest) :
    row.startedAt = none ∧ row.completedAt = none ∧ (row.recordFields request).Bare :=
  (projection_queued (r := row.recordFields request) hstate).mp
    (h.projection request)

theorem running_fields (h : row.Sound) (hstate : row.state = .running)
    (request : ScanJobRequest) :
    row.startedAt.isSome = true ∧ row.completedAt = none ∧ (row.recordFields request).Bare :=
  (projection_running (r := row.recordFields request) hstate).mp
    (h.projection request)

theorem claim (h : row.Sound) (hstate : row.state = .queued) (revision : Nat) :
    (row.claim (noEarlierThan now row.submittedAt) revision).Sound := by
  obtain ⟨request, -⟩ := h.request
  have hcompleted := (h.queued_fields hstate request).2.1
  have hfloor := floor_le_noEarlierThan now row.submittedAt
  refine ⟨h.request, h.jobId, hfloor, ?_, ?_, h.scanId, h.reportRef, h.auditRef, h.errorCode,
    h.errorMessage, ?_⟩
  · rintro t ⟨⟩
    exact hfloor
  · intro t ht
    rw [show row.completedAt = some t from ht] at hcompleted
    simp at hcompleted
  · intro request'
    obtain ⟨-, hc, hb⟩ := h.queued_fields hstate request'
    exact (projection_running rfl).mpr
      ⟨rfl, hc, hb.scanId, hb.resultStatus, hb.reportRef, hb.auditRef, hb.errorCode,
        hb.errorMessage⟩

theorem of_lease {row' : JobRow} (h : row.Sound) (workerId leaseToken : Option String)
    (leaseExpiresAt heartbeatAt : Option Nat) (attemptCount : Nat)
    (heq : row' = { row with
      workerId := workerId, leaseToken := leaseToken, leaseExpiresAt := leaseExpiresAt,
      heartbeatAt := heartbeatAt, attemptCount := attemptCount }) : row'.Sound := by
  subst heq
  exact ⟨h.request, h.jobId, h.updatedAt, h.startedAt, h.completedAt, h.scanId, h.reportRef,
    h.auditRef, h.errorCode, h.errorMessage, h.projection⟩

theorem touch (h : row.Sound) {moment : Nat} (hmoment : row.submittedAt ≤ moment)
    (flag : Bool) (revision : Nat) :
    JobRow.Sound { row with
      cancellationRequested := flag, updatedAt := moment, revision := revision } :=
  ⟨h.request, h.jobId, hmoment, h.startedAt, h.completedAt, h.scanId, h.reportRef, h.auditRef,
    h.errorCode, h.errorMessage, h.projection⟩

theorem cancelQueued (h : row.Sound) (hstate : row.state = .queued)
    (hnow : row.submittedAt ≤ now) (revision : Nat) : (row.cancelQueued now revision).Sound := by
  obtain ⟨request, -⟩ := h.request
  have hstarted := (h.queued_fields hstate request).1
  refine ⟨h.request, h.jobId, hnow, h.startedAt, ?_, h.scanId, h.reportRef, h.auditRef,
    h.errorCode, h.errorMessage, ?_⟩
  · rintro t ⟨⟩
    show row.startedAt.getD row.submittedAt ≤ now
    rw [hstarted]
    exact hnow
  · intro request'
    obtain ⟨-, -, hb⟩ := h.queued_fields hstate request'
    exact projection_cancelled rfl rfl
      ⟨hb.scanId, hb.resultStatus, hb.reportRef, hb.auditRef, hb.errorCode, hb.errorMessage⟩

theorem recovered (h : row.Sound) {limit : Nat} (hstate : row.state = .running)
    (hstart : ∀ start, row.cancellationRequested = true ∨ limit ≤ row.attemptCount →
      row.startedAt = some start → start ≤ max now row.submittedAt) :
    (row.recovered now limit).Sound := by
  obtain ⟨request, -⟩ := h.request
  obtain ⟨start, hstarted⟩ := Option.isSome_iff_exists.mp (h.running_fields hstate request).1
  have hcompleted := (h.running_fields hstate request).2.1
  have hfloor := floor_le_noEarlierThan now row.submittedAt
  unfold JobRow.recovered
  split
  · split
    · next hflag =>
      -- Cancelled: the completion is floored against the submission only.
      have hle := hstart start (Or.inl hflag) hstarted
      rw [← noEarlierThan_eq_max] at hle
      refine ⟨h.request, h.jobId, hfloor, h.startedAt, ?_, h.scanId, h.reportRef, h.auditRef,
        h.errorCode, h.errorMessage, ?_⟩
      · rintro t ⟨⟩
        show row.startedAt.getD row.submittedAt ≤ _
        rw [hstarted]
        exact hle
      · intro request'
        obtain ⟨-, -, hb⟩ := h.running_fields hstate request'
        exact projection_cancelled rfl rfl
          ⟨hb.scanId, hb.resultStatus, hb.reportRef, hb.auditRef, hb.errorCode, hb.errorMessage⟩
    · split
      · next hlimit =>
        -- Failed, with the fixed error of an exhausted job.
        have hle := hstart start (Or.inr hlimit) hstarted
        rw [← noEarlierThan_eq_max] at hle
        refine ⟨h.request, h.jobId, hfloor, h.startedAt, ?_, h.scanId, h.reportRef, h.auditRef,
          exhausted_errorCode, exhausted_errorMessage, ?_⟩
        · rintro t ⟨⟩
          show row.startedAt.getD row.submittedAt ≤ _
          rw [hstarted]
          exact hle
        · intro request'
          obtain ⟨hs, -, hb⟩ := h.running_fields hstate request'
          refine projection_failed rfl rfl hs ?_ rfl
          have hnone := bare_iff.mp hb
          rw [Bool.or_eq_false_iff] at hnone
          exact hnone.1
      · refine ⟨h.request, h.jobId, hfloor, ?_, ?_, h.scanId, h.reportRef, h.auditRef,
          h.errorCode, h.errorMessage, ?_⟩
        · rintro t ⟨⟩
        · intro t ht
          rw [show row.completedAt = some t from ht] at hcompleted
          simp at hcompleted
        · intro request'
          obtain ⟨-, hc, hb⟩ := h.running_fields hstate request'
          exact (projection_queued rfl).mpr
            ⟨rfl, hc, hb.scanId, hb.resultStatus, hb.reportRef, hb.auditRef, hb.errorCode,
              hb.errorMessage⟩
  · exact h

theorem terminate (h : row.Sound) {op : Op} {jobId : String} {w : TerminalWrite}
    (hop : op.terminalWrite = some (jobId, w, now)) (haccepted : w.Accepted)
    (hstate : row.state = .running) (revision : Nat) :
    (row.terminate w (noEarlierThan now (row.startedAt.getD row.submittedAt)) revision).Sound := by
  obtain ⟨request, -⟩ := h.request
  have hsome := (h.running_fields hstate request).1
  obtain ⟨start, hstarted⟩ := Option.isSome_iff_exists.mp hsome
  have hfloor := floor_le_noEarlierThan now (row.startedAt.getD row.submittedAt)
  refine ⟨h.request, h.jobId, ?_, h.startedAt, ?_, haccepted.scanId, haccepted.reportRef,
    haccepted.auditRef, haccepted.errorCode, haccepted.errorMessage, ?_⟩
  · show row.submittedAt ≤ noEarlierThan now (row.startedAt.getD row.submittedAt)
    refine Nat.le_trans ?_ hfloor
    rw [hstarted]
    exact h.startedAt start hstarted
  · rintro t ⟨⟩
    exact hfloor
  · intro request'
    exact terminate_projection hop hsome _ _ request'

end JobRow.Sound

/-! ## Whole runs -/

theorem ReadableStep.accepted {w : TerminalWrite} {now : Nat} (h : ReadableStep s op)
    (hop : op.terminalWrite = some (jobId, w, now))
    (hrow : s.job jobId = some row) (hstate : row.state = .running) : w.Accepted := by
  cases op <;> first | exact h _ _ _ _ hop hrow hstate | simp [Op.terminalWrite] at hop

theorem RowStep.sound {j : String} {row row' : JobRow} (h : RowStep s op row row')
    (hG : ReadableStep s op) (hrow : s.job j = some row) (hs : row.Sound) : row'.Sound := by
  have hfloor : ∀ now, row.submittedAt ≤ noEarlierThan now row.submittedAt :=
    fun now => floor_le_noEarlierThan now row.submittedAt
  have hid := jobId_of_job hrow
  cases h with
  | claim hclaim => exact hs.claim (claimable_iff.mp hclaim).1 _
  | claimLeased hclaim hworker =>
    exact (hs.claim (claimable_iff.mp hclaim).1 _).of_lease _ _ _ _ _ rfl
  | renew hjob hworker hactive =>
    exact (hs.touch (hfloor _) row.cancellationRequested _).of_lease _ _ _ _ _ rfl
  | recover hlimit hexpired htoken =>
    refine hs.recovered (JobRow.leaseExpired_iff.mp hexpired).1 ?_
    intro start hends hstarted
    exact hG j row start hrow hexpired hends hstarted
  | cancelQueued hjob hread hstate =>
    have hnow := hG row (by rw [← hjob, hid]; exact hrow) (by rw [hstate]; rfl)
    exact hs.cancelQueued hstate hnow _
  | flagCancellation hjob hread hstate =>
    have hnow := hG row (by rw [← hjob, hid]; exact hrow) (by rw [hstate]; rfl)
    exact hs.touch hnow true _
  | terminate hop hjob hread hstate hworker hlease =>
    have haccepted := hG.accepted hop (by rw [← hjob, hid]; exact hrow) hstate
    exact hs.terminate hop haccepted hstate _

theorem sound_apply (hs : s.AllJobs JobRow.Sound) (hG : ReadableStep s op) :
    (s.apply op).AllJobs JobRow.Sound := by
  refine hs.apply ?_ ?_
  · intro j request _ hid hop
    refine sound_newJobRow hid ?_
    cases hop with
    | submit => exact hG
    | enqueue hrow hread hrequest => exact hG _ _ _ hrow hread hrequest
  · intro j row row' hrow hsound hstep
    exact hstep.sound hG hrow hsound

/-- **Rows stay readable in every run whose calls meet the condition.** -/
theorem readable_run (ops : List Op) (hG : Runs.Along apply ReadableStep empty ops) :
    (empty.run ops).AllJobs JobRow.Readable := by
  have hsound : (empty.run ops).AllJobs JobRow.Sound :=
    Runs.along_induction (P := Store.AllJobs JobRow.Sound)
      (fun _ _ hs hstep => sound_apply hs hstep) (allJobs_empty _) hG
  intro j row hrow
  exact JobRow.readable_iff.mpr (hsound j row hrow)

end

def backwardHistory : List (@Op samplePrimitives) :=
  letI := samplePrimitives
  [.submit sampleRequest sampleJobId none none none none,
    .claimNextLeased 50 "worker-a" 1000000 "token-a",
    .renewLease sampleJobId "worker-a" "token-a" 40 1000000,
    .fail sampleJobId (some ⟨"worker-a", "token-a"⟩) "scan_failed" "The scan failed." {} 30]

/-- It fails the job, and the row reads back. -/
theorem readable_run_backward :
    letI := samplePrimitives
    Runs.Along apply ReadableStep empty backwardHistory ∧
      ((empty.run backwardHistory).job sampleJobId).map JobRow.state = some .failed ∧
      (empty.run backwardHistory).AllJobs JobRow.Readable := by
  let _ := samplePrimitives
  have hfail : TerminalWrite.Accepted
      { state := .failed, workerId := some "worker-a", leaseToken := some "token-a"
        errorCode := some "scan_failed", errorMessage := some "The scan failed." } :=
    ⟨by simp, by simp, by simp, exists_ok_of_isOk (by decide),
      exists_ok_of_isOk (by decide)⟩
  have hG : Runs.Along apply ReadableStep empty backwardHistory := by
    refine ⟨⟨_, rfl⟩, ?_, ?_, ?_, trivial⟩
    · intro jobId w now row hop
      cases hop
    · intro jobId w now row hop
      cases hop
    · intro jobId w now row hop _ _
      cases hop
      exact hfail
  exact ⟨hG, by decide, readable_run backwardHistory hG⟩

/--
The shortest history that poisons a row: the cancellation's clock is behind the submission's.

The queued job is cancelled at a moment before it was submitted, and no read accepts it again.
-/
theorem cancel_before_submission :
    letI := samplePrimitives
    ¬ ∀ ops : List Op, (empty.run ops).AllJobs JobRow.Readable := by
  let _ := samplePrimitives
  intro hall
  have hrow : (empty.run [.submit sampleRequest sampleJobId none none none none,
      .requestCancellation sampleJobId 50]).job sampleJobId
      = some ((newJobRow sampleJobId sampleRequest 100).cancelQueued 50 1) := by
    decide
  have hsound := JobRow.readable_iff.mp (hall _ _ _ hrow)
  have hordered : 100 ≤ 50 := hsound.updatedAt
  simp at hordered

end WebGuard
