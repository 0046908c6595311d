import WebGuard.Postgres.ScheduleRepository

/-!
# Submissions of clients

`ApiService.submit`, from the point where the authorization and the permit have been found in
order. It is the only caller of the stores' `submit`. The client's idempotency key is checked as
part of a request and then replaced by a digest of the organisation and the key, so what a store
gets is a key of the service.

`ScheduleCall` is what reaches a store while schedules run: submissions of clients and enqueues of
coordinators.
-/

namespace WebGuard

open Relational Atomic List

section

variable [Primitives]

def internalIdempotencyKey (organizationId clientKey : String) : String :=
  "tenant-" ++ Primitives.sha256Hex (organizationId ++ ":" ++ clientKey)

/-- A submission that the checks of its authorization and its permit have let through. -/
structure ClientSubmission where
  /-- The `Idempotency-Key` of the client. -/
  idempotencyKey : String
  organizationId : String
  principalId : String
  target : String
  authorizationId : String
  authorizationSha256 : String
  mode : ScanJobMode
  submittedAt : Nat
  permitId : String
  permitSha256 : String
  /-- The `uuid4` that the store draws. -/
  jobId : String

namespace ClientSubmission

def requestFields (c : ClientSubmission) (key : String) : ScanJobRequestFields where
  idempotencyKey := key
  target := c.target
  authorizationId := c.authorizationId
  authorizationSha256 := c.authorizationSha256
  mode := c.mode
  submittedAt := c.submittedAt

/-- The client's key is validated, and then another one takes its place. -/
def request (c : ClientSubmission) : Checked ScanJobRequest := do
  let _ ← ScanJobRequest.new (c.requestFields c.idempotencyKey)
  ScanJobRequest.new (c.requestFields (internalIdempotencyKey c.organizationId c.idempotencyKey))

/-- The arguments of the repository's `submit`. -/
def call (c : ClientSubmission) (request : ScanJobRequest) : SubmitCall where
  request := request
  jobId := c.jobId
  organizationId := some c.organizationId
  submittedBy := some c.principalId
  permitId := some c.permitId
  permitSha256 := some c.permitSha256

end ClientSubmission

/-- What a submission raises: an `ApiServiceError`, or an error that nobody translates. -/
inductive SubmissionFault (ε : Type) where
  | api (code message : String) (status : Nat)
  | uncaught (failure : ε)

/-- The status of a `JobStoreError`. -/
def submissionStatus (code : String) : Nat :=
  if code == "job_idempotency_conflict" then 409 else 500

def Failure.submissionFault : Failure → SubmissionFault Failure
  | .jobStore code message => .api code message (submissionStatus code)
  | failure => .uncaught failure

def PgFailure.submissionFault : PgFailure → SubmissionFault PgFailure
  | .raised (.jobStore code message) => .api code message (submissionStatus code)
  | failure => .uncaught failure

/-- `ApiService.submit` over the store of SQLite. -/
def Store.submitFrom (c : ClientSubmission) (s : Store) :
    Except (SubmissionFault Failure) (ScanJobRecord × Bool) × Store :=
  match c.request with
  | .error e => (.error (.api e.code e.message 400), s)
  | .ok request =>
    let answer := submit request c.jobId (some c.organizationId) (some c.principalId)
      (some c.permitId) (some c.permitSha256) s
    (answer.1.mapError Failure.submissionFault, answer.2)

/-- `ApiService.submit` over the repository of PostgreSQL. -/
def PgStore.submitFrom (c : ClientSubmission) (p : PgStore) :
    Except (SubmissionFault PgFailure) (ScanJobRecord × Bool) × PgStore :=
  match c.request with
  | .error e => (.error (.api e.code e.message 400), p)
  | .ok request =>
    let answer := p.submit (c.call request)
    (answer.1.mapError PgFailure.submissionFault, answer.2)

/-- A call that takes a key of `scan_jobs`. -/
inductive ScheduleCall where
  | submit (submission : ClientSubmission)
  | enqueue (request : EnqueueRequest) (jobId : String) (now : Nat)

/-- The database after a call, whether it answered or raised. -/
def Store.serve (s : Store) : ScheduleCall → Store
  | .submit submission => (s.submitFrom submission).2
  | .enqueue request jobId now => (enqueueDueSchedule request jobId now s).2

def PgStore.serve (p : PgStore) : ScheduleCall → PgStore
  | .submit submission => (p.submitFrom submission).2
  | .enqueue request jobId now => (p.enqueueDueSchedule request jobId now).2

/-! ## What a submission writes -/

theorem Store.submitFrom_state (c : ClientSubmission) (s : Store) :
    (s.submitFrom c).2 = s ∨ ∃ request, c.request = .ok request ∧
      (s.submitFrom c).2.scanSchedules = s.scanSchedules ∧
      s.Inserted (s.submitFrom c).2 (newJobRow c.jobId request request.submittedAt) := by
  unfold Store.submitFrom
  split
  · exact Or.inl rfl
  · next request hrequest =>
    rcases transaction_state (submitBody request c.jobId (some c.organizationId)
      (some c.principalId) (some c.permitId) (some c.permitSha256)) (fun answer _ => .ok answer) s
      with h | ⟨answer, h⟩
    · exact Or.inl h
    · rcases submitBody_ok h with ⟨-, -, -, -, hs⟩ | ⟨-, -, hinserted⟩
      · exact Or.inl hs
      · exact Or.inr ⟨request, hrequest, submitBody_schedules h, hinserted⟩

theorem PgStore.submitBody_ok {call : SubmitCall} {p p' : PgStore}
    {answer : ScanJobRecord ⊕ JobRow} (h : submitBody call p = .ok (answer, p')) :
    p' = p ∨ p'.scanSchedules = p.scanSchedules ∧ ∃ row : PgJobRow, row.key = call.key ∧
      p.scanJobs.insert row = some p'.scanJobs := by
  unfold submitBody at h
  obtain ⟨_, -, h⟩ := bind_ok h
  split at h
  · obtain ⟨_, -, h⟩ := bind_ok h
    cases h
    exact Or.inl rfl
  · obtain ⟨p₁, hinsert, h⟩ := bind_ok h
    obtain ⟨p₂, hbind, h⟩ := bind_ok h
    cases h
    have hbound : p'.scanJobs = p₁.scanJobs ∧ p'.scanSchedules = p₁.scanSchedules := by
      unfold bindPermit at hbind
      split at hbind
      · split at hbind
        · split at hbind
          · cases hbind
            exact ⟨rfl, rfl⟩
          · cases hbind
        · cases hbind
      · cases hbind
        exact ⟨rfl, rfl⟩
    unfold insertJob at hinsert
    split at hinsert
    · cases hinsert
    · split at hinsert
      · cases hinsert
      · next t ht =>
        split at hinsert
        · cases hinsert
          refine Or.inr ⟨hbound.2,
            { toJobRow := call.job.row, organizationId := call.organizationId }, rfl, ?_⟩
          rw [hbound.1]
          exact ht
        · cases hinsert

theorem PgStore.submitFrom_state (c : ClientSubmission) (p : PgStore) :
    (p.submitFrom c).2 = p ∨ ∃ request, c.request = .ok request ∧
      (p.submitFrom c).2.scanSchedules = p.scanSchedules ∧
      ∃ row : PgJobRow, row.key = request.idempotencyKey ∧
        p.scanJobs.insert row = some (p.submitFrom c).2.scanJobs := by
  unfold PgStore.submitFrom
  split
  · exact Or.inl rfl
  · next request hrequest =>
    rcases transaction_state (PgStore.submitBody (c.call request)) (fun answer _ =>
      answer.elim (fun record => .ok (record, false))
        fun row => (raising (pgRecordFromRow row)).map fun record => (record, true)) p
      with h | ⟨answer, h⟩
    · exact Or.inl h
    · rcases PgStore.submitBody_ok h with hp | ⟨hschedules, row, hkey, hinsert⟩
      · exact Or.inl hp
      · exact Or.inr ⟨request, hrequest, hschedules, row, hkey, hinsert⟩

/-! ## The key of a submission -/

omit [Primitives] in
theorem head_of_idempotencyKey {value key : String} {c : Char} {rest : List Char}
    (h : idempotencyKey value = .ok key) (hvalue : value.toList = c :: rest)
    (hc : isSpace c = false) : key.toList.head? = some c := by
  unfold idempotencyKey at h
  obtain ⟨cleaned, hclean, h⟩ := bind_ok h
  obtain ⟨_, -, h⟩ := bind_ok h
  cases h
  obtain ⟨rfl, hne, -, -⟩ := requiredText_eq_ok.mp hclean
  unfold strip at hne ⊢
  rw [String.toList_ofList, hvalue, dropWhile_cons_of_neg (by simp [hc])] at hne ⊢
  obtain ⟨kept, hkept⟩ := dropWhile_suffix (p := isSpace) (l := (c :: rest).reverse)
  have hsplit := congrArg reverse hkept
  rw [reverse_append, reverse_reverse] at hsplit
  cases hlist : ((c :: rest).reverse.dropWhile isSpace).reverse with
  | nil =>
    rw [hlist] at hne
    cases hne
  | cons d tail =>
    rw [hlist, cons_append, cons.injEq] at hsplit
    rw [head?_cons, hsplit.1]

theorem ClientSubmission.key_ne {c : ClientSubmission} {request : ScanJobRequest}
    (h : c.request = .ok request) (scheduleId : String) (scheduledFor : Nat) :
    request.idempotencyKey ≠ scheduleKey scheduleId scheduledFor := by
  obtain ⟨_, -, h⟩ := bind_ok h
  have hkey := (ScanJobRequestFields.postInit_eq_ok.mp (ScanJobRequest.new_eq_ok.mp h)).1
  have htenant : request.idempotencyKey.toList.head? = some 't' :=
    head_of_idempotencyKey hkey (String.toList_append ..) (by decide)
  intro hsame
  rw [hsame] at htenant
  unfold scheduleKey at htenant
  rw [String.toList_append, String.toList_append, String.toList_append] at htenant
  cases htenant

end

end WebGuard
