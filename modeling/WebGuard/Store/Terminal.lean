import WebGuard.Store.Leases

/-!
# Terminal writes

`_terminal_update` of `ScanJobStore` and the operations that call it: `finish_result`,
`complete`, `fail`, `cancel_running` and their leased forms. They differ in the state they ask
for and in the columns they fill, so a write is a value (`TerminalWrite`) and the operations
are instances of one function.
-/

namespace WebGuard

open Relational Atomic

/-- The arguments of `_terminal_update`, with the defaults of its keyword arguments. -/
structure TerminalWrite where
  state : ScanJobState
  workerId : Option String := none
  leaseToken : Option String := none
  scanId : Option String := none
  resultStatus : Option ScanStatus := none
  reportRef : Option String := none
  auditRef : Option String := none
  errorCode : Option String := none
  errorMessage : Option String := none
  safetyReceiptRef : Option String := none
  safetyReceiptSha256 : Option String := none
  deriving DecidableEq

/-- The `SET` clause of a terminal write. -/
def JobRow.terminate (r : JobRow) (w : TerminalWrite) (moment revision : Nat) : JobRow :=
  { r.release with
    state := w.state, completedAt := some moment, updatedAt := moment, revision := revision,
    scanId := w.scanId, resultStatus := w.resultStatus, reportRef := w.reportRef,
    auditRef := w.auditRef, errorCode := w.errorCode, errorMessage := w.errorMessage }

def leaseRequired : Failure :=
  .jobStore "job_lease_required" "A current worker lease is required for this transition."

/-- The lease check: a leased row asks for its lease, an unleased one for none. -/
def requireTerminalLease (row : JobRow) (workerId leaseToken : Option String) (now : Nat) :
    Answer Unit :=
  match row.leaseToken with
  | some _ =>
    match workerId, leaseToken with
    | some worker, some token => requireActiveLease row worker token now
    | _, _ => .error leaseRequired
  | none =>
    match workerId with
    | some _ => .error leaseLost
    | none => .ok ()

/-- A relative path without `..`, and a digest; both are checked after the row was updated. -/
def insertReceipt (s : Store) (jobId : String) (ref digest : Option String) (moment : Nat) :
    Answer Store :=
  match ref, digest with
  | some reference, some sha => do
    ensure (!reference.toList.isEmpty && reference.toList.head? != some '/'
        && (reference.toList.splitOn '/').all (· != ['.', '.']))
      (.jobStore "trustscan_safety_receipt_reference_invalid"
        "Safety receipt reference must be a safe relative path.")
    ensure (isSha256 sha)
      (.jobStore "trustscan_safety_receipt_digest_invalid"
        "Safety receipt digest must be a lower-case SHA-256 value.")
    found
      (s.insertSafetyReceipt
        { jobId, receiptRef := reference, receiptSha256 := sha, createdAt := moment })
      (.jobStore "job_store_transition_failed"
        "Unable to persist the scan-job state transition.")
  | _, _ => .ok s

variable [Primitives]

def terminalUpdateBody (jobId : String) (w : TerminalWrite) (now : Nat) (s : Store) :
    Answer (JobRow × Store) := do
  ensure (w.safetyReceiptRef.isSome == w.safetyReceiptSha256.isSome)
    (.jobStore "trustscan_safety_receipt_metadata_invalid"
      "Safety receipt reference and digest must be supplied together.")
  ensure (w.workerId.isSome == w.leaseToken.isSome)
    (.jobStore "job_lease_credentials_invalid"
      "worker_id and lease_token must be supplied together.")
  let workerId ← w.workerId.mapM checkWorkerId
  let row ← found (s.job jobId) jobNotFound
  let record ← recordFromRow row
  ensure (record.state == .running)
    (.jobStore "job_state_transition_invalid"
      "Only running jobs can enter a terminal worker state.")
  let moment := noEarlierThan now (record.startedAt.getD record.request.submittedAt)
  -- The lease is judged by the true `now`, only what is written is floored.
  requireTerminalLease row workerId w.leaseToken now
  let updated := s.updateJob jobId
    (fun r => r.state == .running && r.revision == record.revision
      && (workerId.isNone || (r.workerId == workerId && r.leaseToken == w.leaseToken)))
    (fun r => r.terminate w moment (record.revision + 1)) (fun _ => ⟨rfl, rfl⟩)
  ensure (updated.2 == 1)
    (if workerId.isSome then leaseLost
      else .jobStore "job_state_transition_conflict"
        "The scan-job state changed before the transition completed.")
  let s' ← insertReceipt updated.1 jobId w.safetyReceiptRef w.safetyReceiptSha256 moment
  let written ← found (s'.job jobId) .assertion
  return (written, s')

/-- `_terminal_update`: the record is read back after the commit. -/
def terminalUpdate (jobId : String) (w : TerminalWrite) (now : Nat) (s : Store) :
    Answer ScanJobRecord × Store :=
  transaction (terminalUpdateBody jobId w now) (fun written _ => recordFromRow written) s

/-! ## The operations -/

/-- The worker and token of a leased operation. -/
structure Credential where
  workerId : String
  leaseToken : String
  deriving DecidableEq

/-- What a finished scan leaves: its identifier, status and artifacts. -/
structure ScanOutcome where
  scanId : String
  resultStatus : ScanStatus
  reportRef : String
  auditRef : String
  deriving DecidableEq

/-- The optional reference and digest of a signed safety receipt. -/
structure ReceiptReference where
  ref : Option String := none
  sha256 : Option String := none
  deriving DecidableEq

def statusInvalid : Failure :=
  .jobStore "job_store_result_status_invalid"
    "Queued or running scan results cannot finish a job."

/-- `finish_result` without a credential, `finish_result_leased` with one. -/
def finishResult (jobId : String) (credential : Option Credential) (outcome : ScanOutcome)
    (receipt : ReceiptReference) (now : Nat) (s : Store) : Answer ScanJobRecord × Store :=
  match outcome.resultStatus.finishedState with
  | none => (.error statusInvalid, s)
  | some state =>
    terminalUpdate jobId
      { state := state
        workerId := credential.map (·.workerId), leaseToken := credential.map (·.leaseToken)
        scanId := some outcome.scanId, resultStatus := some outcome.resultStatus
        reportRef := some outcome.reportRef, auditRef := some outcome.auditRef
        safetyReceiptRef := receipt.ref, safetyReceiptSha256 := receipt.sha256 } now s

def complete (jobId : String) (state : ScanJobState) (outcome : ScanOutcome) (now : Nat)
    (s : Store) : Answer ScanJobRecord × Store :=
  if state != .completed && state != .completedWithErrors then
    (jobStoreError "job_store_completion_state_invalid"
      "Completed jobs require a completed job state.", s)
  else if outcome.resultStatus.finishedState != some state then
    (jobStoreError "job_store_completion_status_mismatch"
      "Job completion state and scan status do not match.", s)
  else finishResult jobId none outcome {} now s

/-- `fail` without a credential, `fail_leased` with one. -/
def fail (jobId : String) (credential : Option Credential) (errorCode errorMessage : String)
    (receipt : ReceiptReference) (now : Nat) (s : Store) : Answer ScanJobRecord × Store :=
  terminalUpdate jobId
    { state := .failed
      workerId := credential.map (·.workerId), leaseToken := credential.map (·.leaseToken)
      errorCode := some errorCode, errorMessage := some errorMessage
      safetyReceiptRef := receipt.ref, safetyReceiptSha256 := receipt.sha256 } now s

/-- `cancel_running` without a credential, `cancel_running_leased` with one. -/
def cancelRunning (jobId : String) (credential : Option Credential) (now : Nat) (s : Store) :
    Answer ScanJobRecord × Store :=
  terminalUpdate jobId
    { state := .cancelled
      workerId := credential.map (·.workerId), leaseToken := credential.map (·.leaseToken) } now s

/-! ## What a committed write has done -/

variable {s s' : Store} {jobId : String} {now : Nat} {w : TerminalWrite}

omit [Primitives] in
theorem insertReceipt_frame {ref digest : Option String} {moment : Nat}
    (h : insertReceipt s jobId ref digest moment = .ok s') :
    s' = { s with jobSafetyReceipts := s'.jobSafetyReceipts } := by
  unfold insertReceipt at h
  split at h
  · obtain ⟨_, -, h⟩ := bind_ok h
    obtain ⟨_, -, h⟩ := bind_ok h
    rw [found_eq_ok] at h
    unfold Store.insertSafetyReceipt at h
    split at h
    · obtain ⟨t, -, rfl⟩ := Option.map_eq_some_iff.mp h
      rfl
    · simp at h
  · cases h
    rfl

/-- The lease a terminal write with these credentials needs. -/
def TerminalLease (row : JobRow) (workerId leaseToken : Option String) (now : Nat) : Prop :=
  (∃ worker token, workerId = some worker ∧ leaseToken = some token ∧
    requireActiveLease row worker token now = .ok ()) ∨
  (workerId = none ∧ leaseToken = none ∧ row.leaseToken = none)

omit [Primitives] in
theorem terminalLease_of_ok {row : JobRow} {workerId leaseToken : Option String} {u : Unit}
    (htogether : workerId.isSome = leaseToken.isSome)
    (h : requireTerminalLease row workerId leaseToken now = .ok u) :
    TerminalLease row workerId leaseToken now := by
  unfold requireTerminalLease at h
  split at h
  · split at h
    · next worker token => exact Or.inl ⟨worker, token, rfl, rfl, h⟩
    · simp at h
  · next hnone =>
    split at h
    · simp at h
    · have : leaseToken = none := by
        rw [← Option.not_isSome_iff_eq_none, ← htogether]
        simp
      exact Or.inr ⟨rfl, this, hnone⟩

omit [Primitives] in
theorem isSome_of_mapM_checkWorkerId {v c : Option String} (h : v.mapM checkWorkerId = .ok c) :
    c.isSome = v.isSome ∧ ∀ w, v = some w → ∃ w', c = some w' ∧ checkWorkerId w = .ok w' := by
  cases v with
  | none => cases h; simp
  | some x =>
    obtain ⟨y, hy, h⟩ := bind_ok h
    cases h
    refine ⟨rfl, ?_⟩
    rintro w ⟨⟩
    exact ⟨y, rfl, hy⟩

theorem terminalUpdateBody_ok {written : JobRow}
    (h : terminalUpdateBody jobId w now s = .ok (written, s')) :
    ∃ row record workerId, row.jobId = jobId ∧ recordFromRow row = .ok record ∧
      row.state = .running ∧ w.workerId.mapM checkWorkerId = .ok workerId ∧
      TerminalLease row workerId w.leaseToken now ∧
      written = row.terminate w (noEarlierThan now (row.startedAt.getD row.submittedAt))
        (row.revision + 1) ∧
      s.Replaced s' row
        (row.terminate w (noEarlierThan now (row.startedAt.getD row.submittedAt))
          (row.revision + 1)) := by
  unfold terminalUpdateBody at h
  obtain ⟨_, -, h⟩ := bind_ok h
  obtain ⟨_, htogether, h⟩ := bind_ok h
  obtain ⟨workerId, hworker, h⟩ := bind_ok h
  obtain ⟨row, hrow, h⟩ := bind_ok h
  obtain ⟨record, hrecord, h⟩ := bind_ok h
  obtain ⟨_, hrunning, h⟩ := bind_ok h
  obtain ⟨_, hlease, h⟩ := bind_ok h
  obtain ⟨_, -, h⟩ := bind_ok h
  obtain ⟨s₁, hs₁, h⟩ := bind_ok h
  obtain ⟨read, hread, h⟩ := bind_ok h
  cases h
  rw [found_eq_ok] at hrow
  obtain ⟨-, hstate, hrevision, hstarted, hsubmitted⟩ := recordFromRow_keeps hrecord
  rw [ensure_eq_ok, beq_iff_eq, hstate] at hrunning
  rw [ensure_eq_ok, beq_iff_eq] at htogether
  have hlease' : TerminalLease row workerId w.leaseToken now :=
    terminalLease_of_ok ((isSome_of_mapM_checkWorkerId hworker).1.trans htogether) hlease
  have hguard : (row.state == .running && row.revision == record.revision
      && (workerId.isNone || (row.workerId == workerId && row.leaseToken == w.leaseToken)))
      = true := by
    rcases hlease' with ⟨worker, token, rfl, htoken, hactive⟩ | ⟨rfl, -, -⟩
    · obtain ⟨-, hholder, hheld, -⟩ := requireActiveLease_eq_ok.mp hactive
      simp [hrunning, hrevision, hholder, hheld, htoken]
    · simp [hrunning, hrevision]
  have hid := Store.jobId_of_job hrow
  have hreplaced := (Store.replaced_of_updateJob hrow hguard).withReceipts (insertReceipt_frame hs₁)
  rw [found_eq_ok, hreplaced.job, if_pos hid.symm] at hread
  refine ⟨row, record, workerId, hid, hrecord, hrunning, hworker, hlease', ?_, ?_⟩
  · rw [← Option.some.inj hread, ← hrevision, ← hstarted, ← hsubmitted]
  · rw [← hrevision, ← hstarted, ← hsubmitted]
    exact hreplaced

theorem job_of_terminalUpdateBody {written : JobRow}
    (h : terminalUpdateBody jobId w now s = .ok (written, s')) :
    ∃ (row : JobRow) (moment revision : Nat),
      s'.job jobId = some (row.terminate w moment revision) := by
  obtain ⟨row, -, -, hid, -, -, -, -, -, hreplaced⟩ := terminalUpdateBody_ok h
  have hjob := hreplaced.job jobId
  rw [if_pos hid.symm] at hjob
  exact ⟨row, _, _, hjob⟩

theorem terminalUpdate_answer {record : ScanJobRecord}
    (h : (terminalUpdate jobId w now s).1 = .ok record) :
    ∃ (row : JobRow) (moment revision : Nat),
      (terminalUpdate jobId w now s).2.job jobId = some (row.terminate w moment revision) := by
  obtain ⟨written, hbody, -⟩ := transaction_answer _ _ h
  exact job_of_terminalUpdateBody hbody

theorem terminalUpdate_state (jobId : String) (w : TerminalWrite) (now : Nat) (s : Store) :
    (terminalUpdate jobId w now s).2 = s ∨ ∃ (row : JobRow) (moment revision : Nat),
      (terminalUpdate jobId w now s).2.job jobId = some (row.terminate w moment revision) := by
  rcases transaction_state (terminalUpdateBody jobId w now)
    (fun written _ => recordFromRow written) s with h | ⟨written, hbody⟩
  · exact Or.inl h
  · exact Or.inr (job_of_terminalUpdateBody hbody)

end WebGuard
