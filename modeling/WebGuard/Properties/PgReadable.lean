import WebGuard.Postgres.Repository
import WebGuard.Properties.Readable

/-!
# Stored rows that read back, on PostgreSQL

The functions of `webguard_control` floor the moments they write by `GREATEST`, each against the
column its author thought of; `request_cancellation` stayed behind in Python and floors nothing.
`PgReadableStep` says, call by call, what keeps every row of `scan_jobs` readable whatever the
clocks do, and `pg_readable_run` that it does.

`pg_cancel_before_submission` is a history of two calls that leaves a row which no read accepts.
-/

namespace WebGuard

open Relational Atomic Primitives Option

/-- `P` holds of every row of `scan_jobs`. -/
def PgStore.AllJobs (p : PgStore) (P : JobRow → Prop) : Prop :=
  ∀ j r, p.job j = some r → P r.toJobRow

variable {jobId : String}

namespace PgStore.AllJobs

variable {P : JobRow → Prop} {p p' : PgStore}

theorem of_scanJobs (h : p.AllJobs P) (hjobs : p'.scanJobs = p.scanJobs) : p'.AllJobs P := by
  intro j r hr
  unfold PgStore.job at hr
  rw [hjobs] at hr
  exact h j r hr

theorem updateJob {guard : JobRow → Bool} {f : JobRow → JobRow}
    {keeps : ∀ r, (f r).jobId = r.jobId ∧ (f r).idempotencyKey = r.idempotencyKey} {count : Nat}
    {row : PgJobRow} (h : p.AllJobs P) (hrow : p.job jobId = some row)
    (hupdate : p.updateJob jobId guard f keeps = .ok (p', count))
    (hf : P row.toJobRow → P (f row.toJobRow)) : p'.AllJobs P := by
  intro j r hr
  rw [PgStore.job_of_updateJob hupdate] at hr
  by_cases hj : j = jobId
  · rw [if_pos hj, hrow, map_some, some.injEq] at hr
    subst hr
    split
    · exact hf (h jobId row hrow)
    · exact h jobId row hrow
  · rw [if_neg hj] at hr
    exact h j r hr

theorem transaction {α β : Type} (h : p.AllJobs P) {body : PgStore → PgAnswer (β × PgStore)}
    {finish : β → PgStore → PgAnswer α}
    (hbody : ∀ b p', body p = .ok (b, p') → p'.AllJobs P) :
    (transaction body finish p).2.AllJobs P := by
  rcases transaction_state body finish p with hsame | ⟨b, hb⟩
  · rw [hsame]
    exact h
  · exact hbody b _ hb

end PgStore.AllJobs

section

variable [Primitives]

variable {row : JobRow}

theorem pgRecordFromRow_eq_ok {record : ScanJobRecord} :
    pgRecordFromRow row = .ok record ↔ recordFromRow row = .ok record := by
  unfold pgRecordFromRow
  cases recordFromRow row <;> simp

/-! ## The condition -/

/-- The write that a terminal call asks for; `none` where its arguments are refused at once. -/
def PgOp.terminalWrite : PgOp → Option (String × TerminalWrite × Nat)
  | .finishResult jobId credential outcome receipt now =>
    (Op.finishResult jobId credential outcome receipt now).terminalWrite
  | .failLeased jobId credential errorCode errorMessage receipt now =>
    (Op.fail jobId (some credential) errorCode errorMessage receipt now).terminalWrite
  | .cancelRunning jobId credential now => (Op.cancelRunning jobId credential now).terminalWrite
  | _ => none

/--
The condition under which a call leaves every row readable.

* a submission: its target, already canonical, is accepted once more;
* a cancellation request: its clock is not behind the submission of a job it changes;
* a recovery: its clock is not behind the start of a job it cancels or fails;
* a terminal write on a running job: its texts pass the checks of the record.
-/
def PgReadableStep (p : PgStore) : PgOp → Prop
  | .submit call _ => ∃ target, canonicalizeOwnedTargetUrl call.request.target = .ok target
  | .requestCancellation jobId now =>
    ∀ r, p.job jobId = some r → r.state.isTerminal = false → r.submittedAt ≤ now
  | .recoverExpiredLeases now maximumAttempts =>
    ∀ j r start, p.job j = some r → r.toJobRow.leaseExpired now = true →
      r.cancellationRequested = true ∨ attemptLimit maximumAttempts ≤ r.attemptCount →
      r.startedAt = some start → start ≤ max now r.submittedAt
  | op =>
    ∀ jobId w now r, op.terminalWrite = some (jobId, w, now) → p.job jobId = some r →
      r.state = .running → w.Accepted

/-! ## Call by call -/

namespace PgStore

variable {p p' : PgStore}

variable {now : Nat} {workerId leaseToken : String}

theorem sound_claimNextJob (h : p.AllJobs JobRow.Sound) {leaseSeconds : Int}
    {claimed : Option PgJobRow}
    (hclaim : Control.claimNextJob workerId leaseSeconds now leaseToken p = .ok (claimed, p')) :
    p'.AllJobs JobRow.Sound := by
  unfold Control.claimNextJob at hclaim
  simp only [] at hclaim
  split at hclaim
  · cases hclaim
  · split at hclaim
    · cases hclaim
      exact h
    · next row hrow =>
      obtain ⟨hjob, hstate⟩ := selectClaimable_spec hrow
      obtain ⟨expiresAt, -, hclaim⟩ := bind_ok hclaim
      obtain ⟨⟨p₁, count⟩, hupdate, hclaim⟩ := bind_ok hclaim
      have hp₁ : p₁.AllJobs JobRow.Sound := by
        refine h.updateJob hjob hupdate ?_
        intro hsound
        rw [← noEarlierThan_eq_max]
        exact (hsound.claim hstate _).of_lease _ _ _ _ _ rfl
      simp only [] at hclaim
      split at hclaim <;> · cases hclaim; exact hp₁

theorem sound_renewLease (h : p.AllJobs JobRow.Sound) {leaseSeconds : Int} {outcome : RenewOutcome}
    (hrenew : Control.renewLease jobId workerId leaseToken now leaseSeconds p
      = .ok (outcome, p')) :
    p'.AllJobs JobRow.Sound := by
  unfold Control.renewLease at hrenew
  simp only [] at hrenew
  split at hrenew
  · cases hrenew
    exact h
  · split at hrenew
    · cases hrenew
      exact h
    · next row hrow =>
      split at hrenew
      · cases hrenew
        exact h
      · split at hrenew
        · cases hrenew
          exact h
        · obtain ⟨expiresAt, -, hrenew⟩ := bind_ok hrenew
          obtain ⟨⟨p₁, count⟩, hupdate, hrenew⟩ := bind_ok hrenew
          have hp₁ : p₁.AllJobs JobRow.Sound := by
            refine h.updateJob hrow hupdate ?_
            intro hsound
            exact (hsound.touch (Nat.le_max_right _ _) row.cancellationRequested _).of_lease
              _ _ _ _ _ rfl
          simp only [] at hrenew
          split at hrenew
          · cases hrenew
            exact hp₁
          · split at hrenew <;> · cases hrenew; exact hp₁

theorem sound_recover (h : p.AllJobs JobRow.Sound) {maximumAttempts : Int}
    {summary : LeaseRecoverySummary}
    (hG : PgReadableStep p (.recoverExpiredLeases now maximumAttempts))
    (hrecover : Control.recoverExpiredLeases now (attemptLimit maximumAttempts) p
      = .ok (summary, p')) :
    p'.AllJobs JobRow.Sound := by
  intro j r hr
  rw [Control.job_recoverExpiredLeases hrecover] at hr
  obtain ⟨row, hrow, rfl⟩ := map_eq_some_iff.mp hr
  split
  · next hexpired =>
    refine (h j row hrow).recovered (JobRow.leaseExpired_iff.mp hexpired).1 ?_
    intro start hends hstarted
    refine hG j row start hrow hexpired ?_ hstarted
    exact hends.imp_right Int.toNat_le.mp
  · exact h j row hrow

theorem sound_submitBody (h : p.AllJobs JobRow.Sound) {call : SubmitCall}
    (hid : isCanonicalUuid call.jobId = true)
    (htarget : ∃ target, canonicalizeOwnedTargetUrl call.request.target = .ok target)
    {answer : ScanJobRecord ⊕ JobRow} (hsubmit : submitBody call p = .ok (answer, p')) :
    p'.AllJobs JobRow.Sound := by
  unfold submitBody at hsubmit
  obtain ⟨_, -, hsubmit⟩ := bind_ok hsubmit
  split at hsubmit
  · obtain ⟨_, -, hsubmit⟩ := bind_ok hsubmit
    cases hsubmit
    exact h
  · obtain ⟨p₁, hinsert, hsubmit⟩ := bind_ok hsubmit
    obtain ⟨p₂, hbind, hsubmit⟩ := bind_ok hsubmit
    cases hsubmit
    have hp₁ : p₁.AllJobs JobRow.Sound := by
      unfold insertJob at hinsert
      split at hinsert
      · cases hinsert
      · split at hinsert
        · cases hinsert
        · next t ht =>
          split at hinsert
          · cases hinsert
            intro j r hr
            have hlookup := Table.get?_insert ht (c := PgJobRow.id) (k := j) (by simp)
            rw [show ({ p with scanJobs := t } : PgStore).job j = _ from hlookup] at hr
            split at hr
            · cases hr
              exact sound_newJobRow hid htarget
            · exact h j r hr
          · cases hinsert
    refine hp₁.of_scanJobs ?_
    unfold bindPermit at hbind
    split at hbind
    · split at hbind
      · split at hbind
        · cases hbind
          rfl
        · cases hbind
      · cases hbind
    · cases hbind
      rfl

theorem sound_requestCancellationBody (h : p.AllJobs JobRow.Sound)
    {answer : ScanJobRecord ⊕ Option PgJobRow}
    (hG : PgReadableStep p (.requestCancellation jobId now))
    (hcancel : requestCancellationBody jobId now p = .ok (answer, p')) :
    p'.AllJobs JobRow.Sound := by
  unfold requestCancellationBody at hcancel
  obtain ⟨row, hrow, hcancel⟩ := bind_ok hcancel
  obtain ⟨record, hrecord, hcancel⟩ := bind_ok hcancel
  rw [raising_eq_ok, found_eq_ok] at hrow
  rw [raising_eq_ok, pgRecordFromRow_eq_ok] at hrecord
  have hstate := (recordFromRow_keeps hrecord).2.1
  split at hcancel
  · cases hcancel
    exact h
  · next hterminal =>
    rw [hstate, Bool.not_eq_true] at hterminal
    have hnow : row.submittedAt ≤ now := hG row hrow hterminal
    obtain ⟨⟨p₁, count⟩, hupdate, hcancel⟩ := bind_ok hcancel
    cases hcancel
    unfold cancelUpdate at hupdate
    split at hupdate
    · next hqueued =>
      rw [hstate, beq_iff_eq] at hqueued
      exact h.updateJob hrow hupdate fun hsound => hsound.cancelQueued hqueued hnow _
    · exact h.updateJob hrow hupdate fun hsound => hsound.touch hnow true _

omit [Primitives] in
theorem running_of_leaseRefusal {workerId leaseToken : Option String}
    (h : Control.leaseRefusal row workerId leaseToken now = none) : row.state = .running := by
  unfold Control.leaseRefusal at h
  split at h
  · cases h
  · next hstate => simpa using hstate

theorem sound_terminalTransition (h : p.AllJobs JobRow.Sound) {op : Op} {w : TerminalWrite}
    {workerId : Option String} {outcome : TerminalOutcome}
    (hop : op.terminalWrite = some (jobId, w, now))
    (haccepted : ∀ r, p.job jobId = some r → r.state = .running → w.Accepted)
    (hterminal : Control.terminalTransition jobId { w with workerId := workerId } now p
      = .ok (outcome, p')) :
    p'.AllJobs JobRow.Sound := by
  unfold Control.terminalTransition at hterminal
  split at hterminal
  · cases hterminal
    exact h
  · split at hterminal
    · cases hterminal
      exact h
    · next row hrow =>
      simp only [] at hterminal
      split at hterminal
      · cases hterminal
        exact h
      · next hlease =>
        have hrunning := running_of_leaseRefusal hlease
        obtain ⟨⟨p₁, count⟩, hupdate, hterminal⟩ := bind_ok hterminal
        have hp₁ : p₁.AllJobs JobRow.Sound := by
          refine h.updateJob hrow hupdate ?_
          intro hsound
          rw [← noEarlierThan_eq_max]
          exact hsound.terminate hop (haccepted row hrow hrunning) hrunning _
        simp only [] at hterminal
        split at hterminal
        · cases hterminal
          exact hp₁
        · obtain ⟨p₂, hreceipt, hterminal⟩ := bind_ok hterminal
          have hp₂ : p₂.AllJobs JobRow.Sound := by
            refine hp₁.of_scanJobs ?_
            unfold insertReceipt at hreceipt
            split at hreceipt
            · split at hreceipt
              · cases hreceipt
                rfl
              · cases hreceipt
            · cases hreceipt
              rfl
          split at hterminal <;> · cases hterminal; exact hp₂

theorem sound_terminalUpdate (h : p.AllJobs JobRow.Sound) (op : Op) {w : TerminalWrite}
    (hop : op.terminalWrite = some (jobId, w, now))
    (haccepted : ∀ r, p.job jobId = some r → r.state = .running → w.Accepted) :
    (p.terminalUpdate jobId w now).2.AllJobs JobRow.Sound := by
  refine h.transaction ?_
  intro outcome p₁ hbody
  obtain ⟨workerId, -, hbody⟩ := bind_ok hbody
  exact sound_terminalTransition h hop haccepted hbody

theorem sound_apply {op : PgOp} (h : p.AllJobs JobRow.Sound) (hG : PgReadableStep p op) :
    (p.apply op).AllJobs JobRow.Sound := by
  cases op with
  | administer permits assignments organizations principals => exact h.of_scanJobs rfl
  | submit call hid => exact h.transaction fun _ _ => sound_submitBody h hid hG
  | claimNextLeased now workerId leaseSeconds leaseToken =>
    refine h.transaction ?_
    intro claimed p₁ hbody
    obtain ⟨worker, -, hbody⟩ := bind_ok hbody
    exact sound_claimNextJob h hbody
  | renewLease jobId workerId leaseToken now leaseSeconds =>
    refine h.transaction ?_
    intro outcome p₁ hbody
    obtain ⟨worker, -, hbody⟩ := bind_ok hbody
    exact sound_renewLease h hbody
  | requestCancellation jobId now =>
    exact h.transaction fun _ _ => sound_requestCancellationBody h hG
  | recoverExpiredLeases now maximumAttempts => exact h.transaction fun _ _ => sound_recover h hG
  | finishResult jobId credential outcome receipt now =>
    show (p.finishResult jobId credential outcome receipt now).2.AllJobs JobRow.Sound
    unfold finishResult
    split
    · exact h
    · next state hstate =>
      have hop : (Op.finishResult jobId credential outcome receipt now).terminalWrite = some
          (jobId, { state := state, workerId := credential.map (·.workerId)
                    leaseToken := credential.map (·.leaseToken), scanId := some outcome.scanId
                    resultStatus := some outcome.resultStatus
                    reportRef := some outcome.reportRef, auditRef := some outcome.auditRef
                    safetyReceiptRef := receipt.ref
                    safetyReceiptSha256 := receipt.sha256 }, now) := by
        simp only [Op.terminalWrite, hstate, map_some]
      exact sound_terminalUpdate h _ hop (hG _ _ _ · hop)
  | failLeased jobId credential errorCode errorMessage receipt now =>
    exact sound_terminalUpdate h
      (.fail jobId (some credential) errorCode errorMessage receipt now) rfl (hG _ _ _ · rfl)
  | cancelRunning jobId credential now =>
    exact sound_terminalUpdate h (.cancelRunning jobId credential now) rfl (hG _ _ _ · rfl)

end PgStore

/-! ## Whole runs -/

/-- The row decodes through `_record_from_row` of the repository. -/
def JobRow.PgReadable (row : JobRow) : Prop := ∃ record, pgRecordFromRow row = .ok record

theorem JobRow.pgReadable_iff : row.PgReadable ↔ row.Sound :=
  (exists_congr fun _ => pgRecordFromRow_eq_ok).trans JobRow.readable_iff

/-- **Rows stay readable in every run whose calls meet the condition.** -/
theorem pg_readable_run (ops : List PgOp)
    (hG : Runs.Along PgStore.apply PgReadableStep PgStore.empty ops) :
    (PgStore.empty.run ops).AllJobs JobRow.PgReadable := by
  have hempty : PgStore.empty.AllJobs JobRow.Sound := by
    intro j r hr
    cases hr
  have hsound : (PgStore.empty.run ops).AllJobs JobRow.Sound :=
    Runs.along_induction (P := fun p => PgStore.AllJobs p JobRow.Sound)
      (fun _ _ h hstep => PgStore.sound_apply h hstep) hempty hG
  intro j r hr
  exact JobRow.pgReadable_iff.mpr (hsound j r hr)

end

/-! ## Two histories -/

def pgTenant : @PgOp samplePrimitives :=
  letI := samplePrimitives
  .administer .empty [(sampleOrganizationId, sampleRequest.authorizationId)]
    [sampleOrganizationId] [samplePrincipalId]

def pgSubmission : @PgOp samplePrimitives :=
  letI := samplePrimitives
  .submit { request := sampleRequest, jobId := sampleJobId
            organizationId := some sampleOrganizationId
            submittedBy := some samplePrincipalId } (by decide)

def pgBackwardHistory : List (@PgOp samplePrimitives) :=
  letI := samplePrimitives
  [pgTenant, pgSubmission, .claimNextLeased 50 "worker-a" 1000000 "token-a",
    .renewLease sampleJobId "worker-a" "token-a" 40 1000000,
    .failLeased sampleJobId ⟨"worker-a", "token-a"⟩ "scan_failed" "The scan failed." {} 30]

/-- It fails the job, and the row reads back. -/
theorem pg_readable_run_backward :
    letI := samplePrimitives
    Runs.Along PgStore.apply PgReadableStep PgStore.empty pgBackwardHistory ∧
      ((PgStore.empty.run pgBackwardHistory).job sampleJobId).map (fun r => r.state)
        = some .failed ∧
      (PgStore.empty.run pgBackwardHistory).AllJobs JobRow.PgReadable := by
  let _ := samplePrimitives
  have hfail : TerminalWrite.Accepted
      { state := .failed, workerId := some "worker-a", leaseToken := some "token-a"
        errorCode := some "scan_failed", errorMessage := some "The scan failed." } :=
    ⟨by simp, by simp, by simp, exists_ok_of_isOk (by decide),
      exists_ok_of_isOk (by decide)⟩
  have hG : Runs.Along PgStore.apply PgReadableStep PgStore.empty pgBackwardHistory := by
    refine ⟨?_, ⟨_, rfl⟩, ?_, ?_, ?_, trivial⟩
    · intro jobId w now r hop
      cases hop
    · intro jobId w now r hop
      cases hop
    · intro jobId w now r hop
      cases hop
    · intro jobId w now r hop _ _
      cases hop
      exact hfail
  exact ⟨hG, by decide, pg_readable_run pgBackwardHistory hG⟩

/--
The queued job is cancelled at a moment before it was submitted, and no read accepts it again.
-/
theorem pg_cancel_before_submission :
    letI := samplePrimitives
    ¬ ∀ ops : List PgOp, (PgStore.empty.run ops).AllJobs JobRow.PgReadable := by
  let _ := samplePrimitives
  intro hall
  have hrow : ((PgStore.empty.run [pgTenant, pgSubmission,
      .requestCancellation sampleJobId 50]).job sampleJobId).map PgJobRow.toJobRow
      = some ((newJobRow sampleJobId sampleRequest 100).cancelQueued 50 1) := by
    decide
  obtain ⟨r, hr, hcancelled⟩ := map_eq_some_iff.mp hrow
  have hsound := JobRow.pgReadable_iff.mp (hall _ _ _ hr)
  rw [hcancelled] at hsound
  have hordered : 100 ≤ 50 := hsound.updatedAt
  simp at hordered

end WebGuard
