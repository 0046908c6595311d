import WebGuard.Store.Schema

/-!
# Permits and submission

`create_scan_permit`, `revoke_scan_permit_scoped` and `submit` of `ScanJobStore`.

A call is a `transaction`: the body runs between `BEGIN IMMEDIATE` and `COMMIT`, and any error
in it leaves the database as it was. The argument checks that the source makes before it opens
the transaction stand first in the body.
-/

namespace WebGuard

open Relational Atomic

/-! ## Permits -/

/-- `create_scan_permit`, on the columns of a signed permit. -/
def createScanPermit (permit : PermitRow) (s : Store) : Answer PermitRow × Store :=
  transaction
    (fun s => do
      let row := { permit with revokedAt := none, revokedBy := none }
      let s' ← found (s.insertPermit row)
        (.jobStore "trustscan_permit_conflict"
          "TrustScan permit conflicts with an existing permit.")
      return (row, s'))
    (fun row _ => .ok row) s

def revokeScanPermitScoped (permitId organizationId revokedBy : String) (now : Nat) (s : Store) :
    Answer PermitRow × Store :=
  transaction
    (fun s => do
      let _ ← found
        ((s.scanPermits.get? PermitRow.permitId permitId).filter
          (fun r => r.organizationId == organizationId))
        (.jobStore "trustscan_permit_not_found" "TrustScan permit was not found.")
      let permits := (s.scanPermits.update PermitRow.permitId permitId
        (fun r => r.organizationId == organizationId && r.revokedAt.isNone)
        (fun r => { r with revokedAt := some now, revokedBy := some revokedBy })
        (by
          intro c hc r
          simp only [List.mem_cons, List.not_mem_nil, or_false] at hc
          rcases hc with rfl | rfl <;> rfl)).1
      let updated ← found (permits.get? PermitRow.permitId permitId) .assertion
      return (updated, { s with scanPermits := permits }))
    (fun row _ => .ok row) s

/-! ## submit -/

/-- The row an `INSERT INTO scan_jobs` writes; the columns it does not name have defaults. -/
def newJobRow [Primitives] (jobId : String) (request : ScanJobRequest) (updatedAt : Nat) :
    JobRow where
  jobId := jobId
  idempotencyKey := request.idempotencyKey
  requestFingerprint := request.fingerprint
  target := request.target
  authorizationId := request.authorizationId
  authorizationSha256 := request.authorizationSha256
  mode := request.mode
  submittedAt := request.submittedAt
  state := .queued
  updatedAt := updatedAt
  revision := 0
  cancellationRequested := false

@[simp] theorem newJobRow_jobId [Primitives] (jobId : String) (request : ScanJobRequest)
    (updatedAt : Nat) : (newJobRow jobId request updatedAt).jobId = jobId := rfl

def idempotencyConflict (message : String) : Failure :=
  .jobStore "job_idempotency_conflict" message

def submitFailed : Failure :=
  .jobStore "job_store_submit_failed" "Unable to persist the scan job."

namespace Store

/-- The organisation of an existing job, looked at only where the caller supplies one. -/
def scopeMatches (s : Store) (jobId : String) (organizationId : Option String) : Bool :=
  match organizationId with
  | none => true
  | some organization =>
    (s.jobScopes.get? ScopeRow.jobId jobId).any (fun r => r.organizationId == organization)

/-- The permit binding of an existing job, looked at only where the caller supplies one. -/
def permitMatches (s : Store) (jobId : String) (permitId permitSha256 : Option String) : Bool :=
  match permitId with
  | none => true
  | some permit =>
    (s.binding jobId).any (fun r => r.permitId == permit && some r.permitSha256 == permitSha256)

/-- `INSERT INTO job_scopes`, where the caller supplies a scope. -/
def bindScope (s : Store) (jobId : String) (organizationId submittedBy : Option String) :
    Answer Store :=
  match organizationId, submittedBy with
  | some organization, some principal =>
    found (s.insertScope { jobId, organizationId := organization, submittedBy := principal })
      submitFailed
  | _, _ => .ok s

/-- The permit row an organisation may bind to, or `trustscan_permit_not_found`. -/
def requirePermit (s : Store) (permitId permitSha256 : String) (organizationId : Option String) :
    Answer Unit :=
  ensure
    ((s.scanPermits.get? PermitRow.permitId permitId).any
      (fun r => some r.organizationId == organizationId && r.permitSha256 == permitSha256))
    (.jobStore "trustscan_permit_not_found"
      "TrustScan permit was not found for this organization.")

/-- `INSERT INTO job_permits`, where the caller supplies a permit. -/
def bindPermit (s : Store) (jobId : String) (organizationId permitId permitSha256 : Option String) :
    Answer Store :=
  match permitId, permitSha256 with
  | some permit, some digest => do
    s.requirePermit permit digest organizationId
    found (s.insertJobPermit { jobId, permitId := permit, permitSha256 := digest }) submitFailed
  | _, _ => .ok s

end Store

variable [Primitives]

/-- The answer to a key that is already in use. -/
def submitExisting (s : Store) (existing : JobRow) (request : ScanJobRequest)
    (organizationId permitId permitSha256 : Option String) : Answer ScanJobRecord := do
  let record ← recordFromRow existing
  ensure (existing.requestFingerprint == request.fingerprint)
    (idempotencyConflict "The idempotency key was already used for a different request.")
  ensure (s.scopeMatches record.jobId organizationId)
    (idempotencyConflict "The idempotency key was already used outside this organization.")
  ensure (s.permitMatches record.jobId permitId permitSha256)
    (idempotencyConflict
      "The idempotency key was already used with a different TrustScan permit.")
  return record

/-- The argument checks of `submit`. -/
def submitArguments (organizationId submittedBy permitId permitSha256 : Option String) :
    Answer Unit := do
  ensure (organizationId.isSome == submittedBy.isSome)
    (.jobStore "job_scope_invalid"
      "organization_id and submitted_by must be supplied together.")
  ensure (permitId.isSome == permitSha256.isSome)
    (.jobStore "trustscan_job_binding_invalid"
      "permit_id and permit_sha256 must be supplied together.")
  ensure (permitId.isNone || organizationId.isSome)
    (.jobStore "trustscan_job_binding_invalid"
      "TrustScan job binding requires organization scope.")

def submitBody (request : ScanJobRequest) (jobId : String)
    (organizationId submittedBy permitId permitSha256 : Option String) (s : Store) :
    Answer ((ScanJobRecord × Bool) × Store) := do
  submitArguments organizationId submittedBy permitId permitSha256
  let record ← checked (ScanJobRecord.new
    { jobId, request, state := .queued, updatedAt := request.submittedAt })
  -- One transaction looks the key up and inserts, so two submissions cannot both miss it.
  match s.scanJobs.get? JobRow.idempotencyKey request.idempotencyKey with
  | some existing =>
    let stored ← submitExisting s existing request organizationId permitId permitSha256
    return ((stored, false), s)
  | none =>
    let s ← found (s.insertJob (newJobRow record.jobId request record.updatedAt)) submitFailed
    let s ← s.bindScope record.jobId organizationId submittedBy
    let s ← s.bindPermit record.jobId organizationId permitId permitSha256
    return ((record, true), s)

/--
`submit`. `jobId` is the caller's identifier or the `uuid4` drawn in its place.

The flag of the answer says whether a job was inserted.
-/
def submit (request : ScanJobRequest) (jobId : String)
    (organizationId submittedBy permitId permitSha256 : Option String) (s : Store) :
    Answer (ScanJobRecord × Bool) × Store :=
  transaction (submitBody request jobId organizationId submittedBy permitId permitSha256)
    (fun answer _ => .ok answer) s

/-! ## What an insert leaves behind -/

/-- `s'` is `s` with one job more, and with no other job touched. -/
structure Store.Inserted (s s' : Store) (row : JobRow) : Prop where
  fresh : s.job row.jobId = none
  freshKey : s.scanJobs.get? JobRow.idempotencyKey row.idempotencyKey = none
  job : ∀ j, s'.job j = if j = row.jobId then some row else s.job j
  binding : ∀ j, j ≠ row.jobId → s'.binding j = s.binding j

variable {s s' : Store} {organizationId submittedBy permitId permitSha256 : Option String}

namespace Store

omit [Primitives]

variable {row : JobRow} {s₁ s₂ : Store}

theorem inserted_of_insertJob (h : s.insertJob row = some s') :
    s.Inserted s' row ∧ s'.jobPermits = s.jobPermits ∧ s'.jobScopes = s.jobScopes ∧
      s'.scanPermits = s.scanPermits ∧ s'.scanSchedules = s.scanSchedules ∧
      s'.schedulePermits = s.schedulePermits := by
  unfold insertJob at h
  obtain ⟨t, ht, rfl⟩ := Option.map_eq_some_iff.mp h
  refine ⟨⟨Table.not_mem_of_insert ht (by simp), Table.not_mem_of_insert ht (by simp), ?_, ?_⟩,
    rfl, rfl, rfl, rfl, rfl⟩
  · intro j
    exact Table.get?_insert ht (by simp)
  · intro j _
    rfl

theorem insertScope_frame {row : ScopeRow} (h : s.insertScope row = some s') :
    s'.scanJobs = s.scanJobs ∧ s'.jobPermits = s.jobPermits ∧ s'.scanSchedules = s.scanSchedules ∧
      s'.scanPermits = s.scanPermits ∧ s'.schedulePermits = s.schedulePermits := by
  unfold insertScope at h
  split at h
  · obtain ⟨t, -, rfl⟩ := Option.map_eq_some_iff.mp h
    exact ⟨rfl, rfl, rfl, rfl, rfl⟩
  · simp at h

theorem insertJobPermit_frame {row : JobPermitRow} (h : s.insertJobPermit row = some s') :
    s'.scanJobs = s.scanJobs ∧ s'.jobScopes = s.jobScopes ∧ s'.scanSchedules = s.scanSchedules ∧
      s'.scanPermits = s.scanPermits ∧ s'.schedulePermits = s.schedulePermits ∧
      s.binding row.jobId = none ∧
      ∀ j, s'.binding j = if j = row.jobId then some row else s.binding j := by
  unfold insertJobPermit at h
  split at h
  · obtain ⟨t, ht, rfl⟩ := Option.map_eq_some_iff.mp h
    refine ⟨rfl, rfl, rfl, rfl, rfl, Table.not_mem_of_insert ht (by simp), ?_⟩
    intro j
    exact Table.get?_insert ht (by simp)
  · simp at h

theorem Inserted.of_frame (h : s.Inserted s₁ row) (hjobs : s₂.scanJobs = s₁.scanJobs)
    (hbinding : ∀ j, j ≠ row.jobId → s₂.binding j = s₁.binding j) : s.Inserted s₂ row := by
  refine ⟨h.fresh, h.freshKey, ?_, ?_⟩
  · intro j
    rw [← h.job j]
    unfold Store.job
    rw [hjobs]
  · intro j hj
    rw [hbinding j hj, h.binding j hj]

theorem Inserted.insertScope {scope : ScopeRow} (h : s.Inserted s₁ row)
    (hs : s₁.insertScope scope = some s₂) : s.Inserted s₂ row := by
  obtain ⟨hjobs, hbind, -⟩ := insertScope_frame hs
  refine h.of_frame hjobs ?_
  intro j _
  unfold Store.binding
  rw [hbind]

theorem Inserted.bindScope (h : s.Inserted s₁ row)
    (hb : s₁.bindScope row.jobId organizationId submittedBy = .ok s₂) : s.Inserted s₂ row := by
  unfold Store.bindScope at hb
  split at hb
  · rw [found_eq_ok] at hb
    exact h.insertScope hb
  · cases hb
    exact h

theorem Inserted.insertJobPermit {binding : JobPermitRow} (h : s.Inserted s₁ row)
    (hid : binding.jobId = row.jobId) (hb : s₁.insertJobPermit binding = some s₂) :
    s.Inserted s₂ row := by
  obtain ⟨hjobs, -, -, -, -, -, hbind⟩ := insertJobPermit_frame hb
  refine h.of_frame hjobs ?_
  intro j hj
  rw [hbind j, if_neg (by rw [hid]; exact hj)]

theorem Inserted.bindPermit (h : s.Inserted s₁ row)
    (hb : s₁.bindPermit row.jobId organizationId permitId permitSha256 = .ok s₂) :
    s.Inserted s₂ row := by
  unfold Store.bindPermit at hb
  split at hb
  · obtain ⟨_, -, hb⟩ := bind_ok hb
    rw [found_eq_ok] at hb
    exact h.insertJobPermit rfl hb
  · cases hb
    exact h

end Store

variable {request : ScanJobRequest} {jobId : String} {answer : ScanJobRecord × Bool}

theorem submitBody_ok
    (h : submitBody request jobId organizationId submittedBy permitId permitSha256 s
      = .ok (answer, s')) :
    (∃ existing, s.scanJobs.get? JobRow.idempotencyKey request.idempotencyKey = some existing ∧
      submitExisting s existing request organizationId permitId permitSha256 = .ok answer.1 ∧
      answer.2 = false ∧ s' = s) ∨
    (answer.2 = true ∧ isCanonicalUuid jobId = true ∧
      s.Inserted s' (newJobRow jobId request request.submittedAt)) := by
  unfold submitBody at h
  obtain ⟨_, -, h⟩ := bind_ok h
  obtain ⟨record, hrecord, h⟩ := bind_ok h
  rw [checked_eq_ok, ScanJobRecord.new_eq_ok] at hrecord
  have hw := (ScanJobRecordFields.postInit_isOk _).mp ⟨_, hrecord⟩
  obtain ⟨hid, -, -, hupdated, -⟩ := ScanJobRecordFields.postInit_keeps hrecord
  split at h
  · next existing hexisting =>
    obtain ⟨stored, hstored, h⟩ := bind_ok h
    cases h
    exact Or.inl ⟨existing, hexisting, hstored, rfl, rfl⟩
  · next hnone =>
    obtain ⟨s₁, h₁, h⟩ := bind_ok h
    obtain ⟨s₂, h₂, h⟩ := bind_ok h
    obtain ⟨s₃, h₃, h⟩ := bind_ok h
    cases h
    rw [found_eq_ok, hid, hupdated] at h₁
    rw [hid] at h₂ h₃
    have hinserted := (Store.inserted_of_insertJob h₁).1
    exact Or.inr ⟨rfl, hw.jobId, (hinserted.bindScope h₂).bindPermit h₃⟩

theorem submitBody_schedules
    (h : submitBody request jobId organizationId submittedBy permitId permitSha256 s
      = .ok (answer, s')) :
    s'.scanSchedules = s.scanSchedules := by
  unfold submitBody at h
  obtain ⟨_, -, h⟩ := bind_ok h
  obtain ⟨record, -, h⟩ := bind_ok h
  split at h
  · obtain ⟨_, -, h⟩ := bind_ok h
    cases h
    rfl
  · obtain ⟨s₁, h₁, h⟩ := bind_ok h
    obtain ⟨s₂, h₂, h⟩ := bind_ok h
    obtain ⟨s₃, h₃, h⟩ := bind_ok h
    cases h
    rw [found_eq_ok] at h₁
    obtain ⟨-, -, -, -, hs₁, -⟩ := Store.inserted_of_insertJob h₁
    have hs₂ : s₂.scanSchedules = s₁.scanSchedules := by
      unfold Store.bindScope at h₂
      split at h₂
      · rw [found_eq_ok] at h₂
        exact (Store.insertScope_frame h₂).2.2.1
      · cases h₂
        rfl
    have hs₃ : s'.scanSchedules = s₂.scanSchedules := by
      unfold Store.bindPermit at h₃
      split at h₃
      · obtain ⟨_, -, h₃⟩ := bind_ok h₃
        rw [found_eq_ok] at h₃
        exact (Store.insertJobPermit_frame h₃).2.2.1
      · cases h₃
        rfl
    rw [hs₃, hs₂, hs₁]

theorem submit_state (request : ScanJobRequest) (jobId : String)
    (organizationId submittedBy permitId permitSha256 : Option String) (s : Store) :
    (submit request jobId organizationId submittedBy permitId permitSha256 s).2 = s ∨
      isCanonicalUuid jobId = true ∧
        s.Inserted (submit request jobId organizationId submittedBy permitId permitSha256 s).2
          (newJobRow jobId request request.submittedAt) := by
  unfold submit
  rcases transaction_state (submitBody request jobId organizationId submittedBy permitId
    permitSha256) (fun answer _ => .ok answer) s with h | ⟨answer, h⟩
  · exact Or.inl h
  · rcases submitBody_ok h with ⟨-, -, -, -, h⟩ | ⟨-, hid, h⟩
    · exact Or.inl h
    · exact Or.inr ⟨hid, h⟩

end WebGuard
