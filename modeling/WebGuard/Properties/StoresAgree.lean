import WebGuard.Lib.Run
import WebGuard.Postgres.ScheduleAgreement

/-!
# The two job stores agree

`ScanJobStore` writes the state machine of a job in Python with SQL texts, and `webguard_control`
writes it again in PL/pgSQL. Corresponding databases answer a call alike and correspond again
(`call_agree`), and `stores_agree` carries this to whole runs by simulation.

`SharedStep` is what a call is promised. Beside the clocks and the arguments that both layers
accept, it asks that a counter has room in its `integer` column and that the key of a scheduled run
is free: `enqueue_of_taken_key` is a database where a user took it, and where one store raises what
the other passes over.
-/

namespace WebGuard

open Relational Atomic Store Runs

/-! ## The calls -/

section

variable [Primitives]

/-- A call that workers and coordinators make on either store. -/
inductive SharedOp where
  | claimNextLeased (now : Nat) (workerId : String) (leaseSeconds : Nat) (leaseToken : String)
  | renewLease (jobId : String) (credential : Credential) (now leaseSeconds : Nat)
  | recoverExpiredLeases (now maximumAttempts : Nat)
  | finishResultLeased (jobId : String) (credential : Credential) (outcome : ScanOutcome)
      (receipt : ReceiptReference) (now : Nat)
  | failLeased (jobId : String) (credential : Credential) (errorCode errorMessage : String)
      (receipt : ReceiptReference) (now : Nat)
  | cancelRunningLeased (jobId : String) (credential : Credential) (now : Nat)
  | blockDueSchedule (scheduleId : String) (expectedRevision : Nat) (errorCode : String)
      (now : Nat)
  | enqueueDueSchedule (request : EnqueueRequest) (jobId : String) (now : Nat)

/-- What a call answers. -/
inductive SharedAnswer where
  | claimed (lease : Option LeasedScanJob)
  | renewed (lease : LeasedScanJob)
  | recovered (summary : LeaseRecoverySummary)
  | finished (record : ScanJobRecord)
  | blocked (schedule : Option ScanScheduleRecord)
  | enqueued (pair : Option (ScanScheduleRecord × ScanJobRecord))

def tagged {ε α σ : Type} (tag : α → SharedAnswer) (outcome : Except ε α × σ) :
    Except ε SharedAnswer × σ := (outcome.1.map tag, outcome.2)

def Store.call (s : Store) : SharedOp → Answer SharedAnswer × Store
  | .claimNextLeased now workerId leaseSeconds leaseToken =>
    tagged .claimed (claimNextLeased now workerId leaseSeconds leaseToken s)
  | .renewLease jobId credential now leaseSeconds =>
    tagged .renewed
      (renewLease jobId credential.workerId credential.leaseToken now leaseSeconds s)
  | .recoverExpiredLeases now maximumAttempts =>
    tagged .recovered (recoverExpiredLeases now maximumAttempts s)
  | .finishResultLeased jobId credential outcome receipt now =>
    tagged .finished (finishResult jobId (some credential) outcome receipt now s)
  | .failLeased jobId credential errorCode errorMessage receipt now =>
    tagged .finished (fail jobId (some credential) errorCode errorMessage receipt now s)
  | .cancelRunningLeased jobId credential now =>
    tagged .finished (cancelRunning jobId (some credential) now s)
  | .blockDueSchedule scheduleId expectedRevision errorCode now =>
    tagged .blocked (blockDueSchedule scheduleId expectedRevision errorCode now s)
  | .enqueueDueSchedule request jobId now =>
    tagged .enqueued (enqueueDueSchedule request jobId now s)

def PgStore.call (p : PgStore) : SharedOp → PgAnswer SharedAnswer × PgStore
  | .claimNextLeased now workerId leaseSeconds leaseToken =>
    tagged .claimed (p.claimNextLeased now workerId leaseSeconds leaseToken)
  | .renewLease jobId credential now leaseSeconds =>
    tagged .renewed
      (p.renewLease jobId credential.workerId credential.leaseToken now leaseSeconds)
  | .recoverExpiredLeases now maximumAttempts =>
    tagged .recovered (p.recoverExpiredLeases now maximumAttempts)
  | .finishResultLeased jobId credential outcome receipt now =>
    tagged .finished (p.finishResult jobId (some credential) outcome receipt now)
  | .failLeased jobId credential errorCode errorMessage receipt now =>
    tagged .finished (p.failLeased jobId credential errorCode errorMessage receipt now)
  | .cancelRunningLeased jobId credential now =>
    tagged .finished (p.cancelRunning jobId (some credential) now)
  | .blockDueSchedule scheduleId expectedRevision errorCode now =>
    tagged .blocked (p.blockDueSchedule scheduleId expectedRevision errorCode now)
  | .enqueueDueSchedule request jobId now =>
    tagged .enqueued (p.enqueueDueSchedule request jobId now)

theorem Agree.tagged {α : Type} {x : Answer α × Store} {y : PgAnswer α × PgStore}
    (h : Agree x y) (tag : α → SharedAnswer) :
    Agree (WebGuard.tagged tag x) (WebGuard.tagged tag y) := by
  refine ⟨?_, h.corresponds, h.regular⟩
  show y.1.map tag = raising (x.1.map tag)
  rw [h.answer]
  cases x.1 <;> rfl

/-! ## Whole runs -/

def SharedOp.now : SharedOp → Nat
  | .claimNextLeased now _ _ _ => now
  | .renewLease _ _ now _ => now
  | .recoverExpiredLeases now _ => now
  | .finishResultLeased _ _ _ _ now => now
  | .failLeased _ _ _ _ _ now => now
  | .cancelRunningLeased _ _ now => now
  | .blockDueSchedule _ _ _ now => now
  | .enqueueDueSchedule _ _ now => now

/-- The name and the duration of a lease that ends within the years of a `datetime`. -/
structure LeaseAccepted (workerId : String) (leaseSeconds now : Nat) : Prop where
  worker : ∃ worker, checkWorkerId workerId = .ok worker
  duration : checkLeaseSeconds leaseSeconds = .ok leaseSeconds
  ends : now + leaseSeconds < datetimeEnd

/-- The name, the texts and the receipt of a terminal call. -/
structure TerminalAccepted (credential : Credential) (op : Op) : Prop where
  worker : ∃ worker, checkWorkerId credential.workerId = .ok worker
  texts : ∀ jobId w now, op.terminalWrite = some (jobId, w, now) → w.Accepted ∧ w.ReceiptAccepted

/-- The arguments that the Python layers of both stores accept. -/
def SharedOp.Accepted : SharedOp → Prop
  | .claimNextLeased now workerId leaseSeconds _ => LeaseAccepted workerId leaseSeconds now
  | .renewLease _ credential now leaseSeconds => LeaseAccepted credential.workerId leaseSeconds now
  | .recoverExpiredLeases _ maximumAttempts =>
    checkMaximumAttempts maximumAttempts = .ok maximumAttempts
  | .finishResultLeased jobId credential outcome receipt now =>
    TerminalAccepted credential (.finishResult jobId (some credential) outcome receipt now)
  | .failLeased jobId credential errorCode errorMessage receipt now =>
    TerminalAccepted credential (.fail jobId (some credential) errorCode errorMessage receipt now)
  | .cancelRunningLeased jobId credential now =>
    TerminalAccepted credential (.cancelRunning jobId (some credential) now)
  | .blockDueSchedule _ expectedRevision code _ =>
    isInteger expectedRevision = true ∧
      ∃ c, errorCode "scan_schedule" (some code) "last_error_code" = .ok c
  | .enqueueDueSchedule request jobId _ =>
    isInteger request.expectedRevision = true ∧ isSha256 request.authorizationSha256 = true ∧
      isCanonicalUuid jobId = true

/-- The condition under which the two stores answer a call alike. -/
structure SharedStep (s : Store) (op : SharedOp) : Prop where
  accepted : op.Accepted
  past : s.StoredBy op.now
  room : s.Room
  clear : ∀ request jobId now, op = .enqueueDueSchedule request jobId now →
    s.EnqueueClear request jobId now

theorem call_agree {s : Store} {p : PgStore} {op : SharedOp} (h : Corresponds s p)
    (hs : s.Regular) (hG : SharedStep s op) : Agree (s.call op) (p.call op) := by
  obtain ⟨haccepted, hpast, hroom, hclear⟩ := hG
  cases op with
  | claimNextLeased now workerId leaseSeconds leaseToken =>
    obtain ⟨⟨worker, hworker⟩, hduration, hends⟩ := haccepted
    exact (agree_claimNextLeased h hs hroom hpast hworker hduration hends).tagged _
  | renewLease jobId credential now leaseSeconds =>
    obtain ⟨⟨worker, hworker⟩, hduration, hends⟩ := haccepted
    exact (agree_renewLease h hs hroom hpast hworker hduration hends).tagged _
  | recoverExpiredLeases now maximumAttempts =>
    exact (agree_recoverExpiredLeases h hs hroom hpast haccepted).tagged _
  | finishResultLeased jobId credential outcome receipt now =>
    obtain ⟨⟨worker, hworker⟩, htexts⟩ := haccepted
    refine Agree.tagged ?_ _
    unfold finishResult PgStore.finishResult
    cases hstate : outcome.resultStatus.finishedState with
    | none => exact Agree.error h hs statusInvalid
    | some state =>
      have hop : (Op.finishResult jobId (some credential) outcome receipt now).terminalWrite
          = some (jobId, { state := state, workerId := some credential.workerId
                           leaseToken := some credential.leaseToken
                           scanId := some outcome.scanId
                           resultStatus := some outcome.resultStatus
                           reportRef := some outcome.reportRef, auditRef := some outcome.auditRef
                           safetyReceiptRef := receipt.ref
                           safetyReceiptSha256 := receipt.sha256 }, now) := by
        simp only [Op.terminalWrite, hstate, Option.map_some]
      obtain ⟨hw, hreceipt⟩ := htexts _ _ _ hop
      exact agree_terminalUpdate h hs hroom hop hw hreceipt rfl rfl hworker
  | failLeased jobId credential errorCode errorMessage receipt now =>
    obtain ⟨⟨worker, hworker⟩, htexts⟩ := haccepted
    obtain ⟨hw, hreceipt⟩ := htexts _ _ _ rfl
    exact (agree_terminalUpdate h hs hroom
      (show (Op.fail jobId (some credential) errorCode errorMessage receipt now).terminalWrite = _
        from rfl) hw hreceipt rfl rfl hworker).tagged _
  | cancelRunningLeased jobId credential now =>
    obtain ⟨⟨worker, hworker⟩, htexts⟩ := haccepted
    obtain ⟨hw, hreceipt⟩ := htexts _ _ _ rfl
    exact (agree_terminalUpdate h hs hroom
      (show (Op.cancelRunning jobId (some credential) now).terminalWrite = _ from rfl)
      hw hreceipt rfl rfl hworker).tagged _
  | blockDueSchedule scheduleId expectedRevision code now =>
    exact (agree_blockDueSchedule h hs hroom hpast haccepted.1 haccepted.2).tagged _
  | enqueueDueSchedule request jobId now =>
    obtain ⟨hrevision, hsha, hid⟩ := haccepted
    exact (agree_enqueueDueSchedule h hs hroom hpast hrevision hsha hid
      (hclear request jobId now rfl)).tagged _

/--
**The two stores agree.**

Corresponding databases give the same answers, errors included, to every sequence of calls that
meet the condition, and still correspond after it.
-/
theorem stores_agree {s : Store} {p : PgStore} (h : Corresponds s p) (hs : s.Regular)
    (ops : List SharedOp) (hG : Runs.Along (fun s op => (call s op).2) SharedStep s ops) :
    answers PgStore.call p ops = (answers call s ops).map raising ∧
      Corresponds (run (fun s op => (call s op).2) s ops)
        (run (fun p op => (PgStore.call p op).2) p ops) := by
  have hstep : ∀ s p op, Corresponds s p ∧ s.Regular → SharedStep s op →
      (PgStore.call p op).1 = raising (call s op).1 ∧
        Corresponds (call s op).2 (PgStore.call p op).2 ∧ (call s op).2.Regular := by
    intro s p op hR hstep
    have hagree := call_agree hR.1 hR.2 hstep
    exact ⟨hagree.answer, hagree.corresponds, hagree.regular⟩
  obtain ⟨hanswers, hend⟩ := answers_of_simulation
    (R := fun s p => Corresponds s p ∧ Store.Regular s) hstep ⟨h, hs⟩ hG
  exact ⟨hanswers, hend.1⟩

end

/-! ## A corresponding run, and a key that somebody else took -/

def dueSchedule : ScheduleRow where
  scheduleId := sampleScheduleId
  organizationId := sampleOrganizationId
  createdBy := samplePrincipalId
  name := "Nightly"
  target := "https://example.com/"
  authorizationId := samplePermit.authorizationId
  authorizationSha256 := samplePermit.authorizationSha256
  mode := .crawl
  intervalSeconds := 3600
  state := .active
  createdAt := 0
  updatedAt := 0
  nextRunAt := 1000000

def scheduledStore (jobs : Table JobRow [JobRow.jobId, JobRow.idempotencyKey]) : Store :=
  { empty with
    scanJobs := jobs
    scanPermits := { rows := [samplePermit], unique := by simp }
    scanSchedules := { rows := [dueSchedule], unique := by simp }
    schedulePermits :=
      { rows := [{ scheduleId := sampleScheduleId, permitId := samplePermit.permitId
                   permitSha256 := samplePermit.permitSha256 }]
        unique := by simp }
    organizationAuthorizations := some [(sampleOrganizationId, samplePermit.authorizationId)] }

def dueRequest : EnqueueRequest where
  scheduleId := sampleScheduleId
  expectedRevision := 0
  authorizationSha256 := samplePermit.authorizationSha256
  permitId := samplePermit.permitId
  permitSha256 := samplePermit.permitSha256

theorem regular_scheduledStore {jobs : Table JobRow [JobRow.jobId, JobRow.idempotencyKey]}
    (hjobs : letI := samplePrimitives; ∀ row ∈ jobs.rows, row.Sound) :
    letI := samplePrimitives
    (scheduledStore jobs).Regular := by
  let _ := samplePrimitives
  have hschedule : dueSchedule.Sound :=
    ⟨by decide, by decide, by decide,
      exists_ok_of_isOk (by decide), rfl, by decide, by decide,
      by decide, by decide, by simp [dueSchedule], ⟨none, rfl⟩, rfl⟩
  refine ⟨?_, ?_, ?_, ?_, ?_⟩
  · intro j row hrow
    exact hjobs row (Table.mem_of_get? hrow)
  · intro k row hrow
    have hmem : row ∈ [dueSchedule] := Table.mem_of_get? hrow
    rw [List.mem_singleton.mp hmem]
    exact hschedule
  · intro j scope hscope
    cases hscope
  · intro j binding hbinding
    cases hbinding
  · intro j receipt hreceipt
    cases hreceipt

def agreedStore : Store :=
  letI := samplePrimitives
  scheduledStore { rows := [newJobRow otherJobId sampleRequest 100], unique := by simp }

def agreedCalls : List SharedOp :=
  [.claimNextLeased 1500000 "worker-a" 30000000 "token-a",
    .enqueueDueSchedule dueRequest sampleJobId 2000000]

theorem stores_agree_scheduled_run :
    letI := samplePrimitives
    (run (fun s op => (call s op).2) agreedStore agreedCalls).scanJobs.rows.map
        (fun row => (row.jobId, row.state))
      = [(otherJobId, .running), (sampleJobId, .queued)] ∧
      answers PgStore.call (agreedStore.toPg
        [(sampleOrganizationId, samplePermit.authorizationId)]) agreedCalls
        = (answers call agreedStore agreedCalls).map raising := by
  let _ := samplePrimitives
  have hregular : agreedStore.Regular := by
    refine regular_scheduledStore ?_
    intro row hrow
    rw [List.mem_singleton.mp hrow]
    exact sound_newJobRow (by decide) ⟨_, rfl⟩
  have hclear : ((agreedStore.call
      (.claimNextLeased 1500000 "worker-a" 30000000 "token-a")).2).EnqueueClear
      dueRequest sampleJobId 2000000 := by
    intro row hrow _
    have hrows : (agreedStore.call
        (.claimNextLeased 1500000 "worker-a" 30000000 "token-a")).2.scanSchedules.rows
        = [dueSchedule] := by
      decide
    have hmem := Table.mem_of_get? hrow
    rw [hrows, List.mem_singleton] at hmem
    rw [hmem]
    exact ⟨by decide, by decide, by decide⟩
  refine ⟨by decide,
    (stores_agree (corresponds_toPg rfl) hregular agreedCalls ?_).1⟩
  refine ⟨⟨?_, ?_, ?_, ?_⟩, ⟨?_, ?_, ?_, ?_⟩, trivial⟩
  · exact ⟨exists_ok_of_isOk (by decide), rfl, by decide⟩
  · exact ⟨by decide, by decide, by decide⟩
  · exact ⟨by decide, by decide, by decide⟩
  · intro request jobId now hop
    cases hop
  · exact ⟨by decide, by decide, by decide⟩
  · exact ⟨by decide, by decide, by decide⟩
  · exact ⟨by decide, by decide, by decide⟩
  · intro request jobId now hop
    cases hop
    exact hclear

def takenKeyFields : ScanJobRequestFields :=
  { sampleRequestFields with idempotencyKey := scheduleKey sampleScheduleId 1000000 }

def takenKeyRequest : @ScanJobRequest samplePrimitives :=
  letI := samplePrimitives
  { toScanJobRequestFields := takenKeyFields, built := ⟨takenKeyFields, by decide⟩ }

def takenKeyStore : Store :=
  letI := samplePrimitives
  scheduledStore { rows := [newJobRow otherJobId takenKeyRequest 100], unique := by simp }

/--
Where a user's job has the key of the scheduled run, the enqueue raises `schedule_enqueue_conflict`
on the one store and answers that there was nothing to do on the other.
-/
theorem enqueue_of_taken_key :
    letI := samplePrimitives
    ¬ ∀ (s : Store) (p : PgStore) (op : SharedOp), Corresponds s p → s.Regular → op.Accepted →
      s.StoredBy op.now → s.Room → (p.call op).1 = raising (s.call op).1 := by
  let _ := samplePrimitives
  intro hall
  have hregular : takenKeyStore.Regular := by
    refine regular_scheduledStore ?_
    intro row hrow
    rw [List.mem_singleton.mp hrow]
    exact sound_newJobRow (by decide) ⟨_, rfl⟩
  have hsame := hall takenKeyStore
    (takenKeyStore.toPg [(sampleOrganizationId, samplePermit.authorizationId)])
    (.enqueueDueSchedule dueRequest sampleJobId 2000000) (corresponds_toPg rfl) hregular
    ⟨by decide, by decide, by decide⟩
    ⟨by decide, by decide, by decide⟩
    ⟨by decide, by decide, by decide⟩
  have hsqlite : (takenKeyStore.call (.enqueueDueSchedule dueRequest sampleJobId 2000000)).1.isOk
      = false := by
    decide
  have hpg : ((takenKeyStore.toPg [(sampleOrganizationId, samplePermit.authorizationId)]).call
      (.enqueueDueSchedule dueRequest sampleJobId 2000000)).1.isOk = true := by
    decide
  obtain ⟨answer, hanswer⟩ := exists_ok_of_isOk hpg
  rw [hanswer] at hsame
  rw [raising_eq_ok.mp hsame.symm] at hsqlite
  cases hsqlite

end WebGuard
