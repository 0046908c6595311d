import WebGuard.Properties.Readable

/-!
# Terminal writes, whole or not at all

`_terminal_update` reads the written row back after its commit. The checks of the record are stricter
than those of the write, so a call can raise and have closed the job.
-/

namespace WebGuard

open Relational Atomic Store JobRow

section

variable [Primitives]

/-! ## Committed writes -/

/-- A receipt that can be stored for the job: both arguments or none, each in its form, and no
receipt for the job yet. -/
structure ReceiptReference.Storable (receipt : ReceiptReference) (s : Store) (jobId : String) :
    Prop where
  together : receipt.ref.isSome = receipt.sha256.isSome
  ref : ∀ reference ∈ receipt.ref, (!reference.toList.isEmpty && reference.toList.head? != some '/'
    && (reference.toList.splitOn '/').all (· != ['.', '.'])) = true
  sha256 : ∀ sha ∈ receipt.sha256, isSha256 sha = true
  fresh : receipt.ref.isSome = true → s.jobSafetyReceipts.get? SafetyReceiptRow.jobId jobId = none

/-- The job, with a row that reads back and a current lease for the credential. -/
structure Store.Leased (s : Store) (jobId : String) (credential : Credential) (now : Nat)
    (row : JobRow) : Prop where
  job : s.job jobId = some row
  readable : row.Readable
  lease : ∃ worker, checkWorkerId credential.workerId = .ok worker ∧
    requireActiveLease row worker credential.leaseToken now = .ok ()

variable {jobId : String} {s : Store} {receipt : ReceiptReference} {w : TerminalWrite}

omit [Primitives] in
theorem insertReceipt_isOk (moment : Nat) (hjob : (s.job jobId).isSome = true)
    (htogether : receipt.ref.isSome = receipt.sha256.isSome) :
    (∃ s', insertReceipt s jobId receipt.ref receipt.sha256 moment = .ok s') ↔
      receipt.Storable s jobId := by
  obtain ⟨ref, sha⟩ := receipt
  cases ref with
  | none =>
    cases sha with
    | none => exact ⟨fun _ => ⟨rfl, by simp, by simp, by simp⟩, fun _ => ⟨s, rfl⟩⟩
    | some sha => simp at htogether
  | some reference =>
    cases sha with
    | none => simp at htogether
    | some sha =>
      unfold insertReceipt
      constructor
      · rintro ⟨s', h⟩
        obtain ⟨_, hreference, h⟩ := bind_ok h
        obtain ⟨_, hsha, h⟩ := bind_ok h
        rw [ensure_eq_ok] at hreference hsha
        rw [found_eq_ok, insertSafetyReceipt, if_pos hjob] at h
        obtain ⟨t, ht, -⟩ := Option.map_eq_some_iff.mp h
        exact ⟨rfl, by simpa using hreference, by simpa using hsha,
          fun _ => Table.not_mem_of_insert ht List.mem_cons_self⟩
      · intro h
        have hfresh : s.jobSafetyReceipts.get? SafetyReceiptRow.jobId
            (SafetyReceiptRow.jobId ⟨jobId, reference, sha, moment⟩) = none := h.fresh rfl
        obtain ⟨t, ht⟩ := Table.exists_insert_of_get? hfresh
        refine ⟨{ s with jobSafetyReceipts := t }, bind_ok_iff.mpr ⟨(), ?_, bind_ok_iff.mpr
          ⟨(), ?_, ?_⟩⟩⟩
        · exact ensure_eq_ok.mpr (h.ref reference rfl)
        · exact ensure_eq_ok.mpr (h.sha256 sha rfl)
        · rw [found_eq_ok, insertSafetyReceipt, if_pos hjob, ht]
          rfl

omit [Primitives] in
theorem ReceiptReference.Storable.congr {s' : Store} (h : receipt.Storable s jobId)
    (hsame : s'.jobSafetyReceipts = s.jobSafetyReceipts) : receipt.Storable s' jobId :=
  ⟨h.together, h.ref, h.sha256, fun href => by rw [hsame]; exact h.fresh href⟩

variable {credential : Credential}

theorem terminalUpdateBody_isOk {now : Nat} (hworker : w.workerId = some credential.workerId)
    (htoken : w.leaseToken = some credential.leaseToken) (href : w.safetyReceiptRef = receipt.ref)
    (hsha : w.safetyReceiptSha256 = receipt.sha256) :
    (∃ out, terminalUpdateBody jobId w now s = .ok out) ↔
      ∃ row, s.Leased jobId credential now row ∧ receipt.Storable s jobId := by
  constructor
  · rintro ⟨⟨written, s'⟩, h⟩
    unfold terminalUpdateBody at h
    obtain ⟨_, htogether, h⟩ := bind_ok h
    obtain ⟨_, -, h⟩ := bind_ok h
    obtain ⟨workerId, hchecked, h⟩ := bind_ok h
    obtain ⟨row, hrow, h⟩ := bind_ok h
    obtain ⟨record, hrecord, h⟩ := bind_ok h
    obtain ⟨_, -, h⟩ := bind_ok h
    obtain ⟨_, hlease, h⟩ := bind_ok h
    obtain ⟨_, -, h⟩ := bind_ok h
    obtain ⟨s₁, hs₁, -⟩ := bind_ok h
    rw [ensure_eq_ok, beq_iff_eq, href, hsha] at htogether
    rw [found_eq_ok] at hrow
    rw [href, hsha] at hs₁
    obtain ⟨worker, rfl, hworker'⟩ :=
      (isSome_of_mapM_checkWorkerId hchecked).2 _ hworker
    refine ⟨row, ⟨hrow, ⟨record, hrecord⟩, worker, hworker', ?_⟩, ?_⟩
    · unfold requireTerminalLease at hlease
      rw [htoken] at hlease
      split at hlease
      · exact hlease
      · cases hlease
    · refine ((insertReceipt_isOk _ ?_ htogether).mp ⟨s₁, hs₁⟩).congr rfl
      simp [job_updateJob, hrow]
  · rintro ⟨row, hleased, hreceipt⟩
    have hrow := hleased.job
    obtain ⟨record, hrecord⟩ := hleased.readable
    obtain ⟨worker, hworker', hactive⟩ := hleased.lease
    obtain ⟨hrunning, hholder, hheld, -⟩ := requireActiveLease_eq_ok.mp hactive
    obtain ⟨-, hstate, hrevision, -⟩ := recordFromRow_keeps hrecord
    have hguard : (row.state == .running && row.revision == record.revision
        && ((some worker).isNone || (row.workerId == some worker && row.leaseToken == w.leaseToken)))
        = true := by
      simp [hrunning, hrevision, hholder, hheld, htoken]
    have hchecked : w.workerId.mapM checkWorkerId = .ok (some worker) := by
      rw [hworker, Option.mapM_some, hworker']
      rfl
    -- The receipt is stored after the row was updated, so next to the closed job.
    have hinsert : ∀ (u : Store) (moment : Nat), (u.job jobId).isSome = true →
        u.jobSafetyReceipts = s.jobSafetyReceipts →
        ∃ s', insertReceipt u jobId w.safetyReceiptRef w.safetyReceiptSha256 moment = .ok s' ∧
          ∃ out, (found (s'.job jobId) .assertion >>= fun written => pure (written, s'))
            = .ok out := by
      intro u moment hjob hsame
      rw [href, hsha]
      obtain ⟨s', hs'⟩ := (insertReceipt_isOk moment hjob hreceipt.together).mpr
        (hreceipt.congr hsame)
      obtain ⟨written, hwritten⟩ := Option.isSome_iff_exists.mp hjob
      refine ⟨s', hs', exists_bind_ok.mpr ⟨written, found_eq_ok.mpr ?_, _, rfl⟩⟩
      rw [insertReceipt_frame hs']
      exact hwritten
    unfold terminalUpdateBody
    refine exists_bind_ok.mpr ⟨(), by simp [href, hsha, hreceipt.together], ?_⟩
    refine exists_bind_ok.mpr ⟨(), by simp [hworker, htoken], ?_⟩
    refine exists_bind_ok.mpr ⟨some worker, hchecked, ?_⟩
    refine exists_bind_ok.mpr ⟨row, found_eq_ok.mpr hrow, ?_⟩
    refine exists_bind_ok.mpr ⟨record, hrecord, ?_⟩
    refine exists_bind_ok.mpr ⟨(), by simp [hstate, hrunning], ?_⟩
    refine exists_bind_ok.mpr ⟨(), by simp [requireTerminalLease, hheld, htoken, hactive], ?_⟩
    refine exists_bind_ok.mpr ⟨(), by rw [updateJob_count hrow, if_pos hguard]; rfl, ?_⟩
    exact exists_bind_ok.mpr (hinsert _ _ (by simp [job_updateJob, hrow]) rfl)

/-! ## What a committed write reads back -/

omit [Primitives] in
theorem JobRow.accepted_of_readable [Primitives] {row : JobRow} {moment revision : Nat}
    (h : (row.terminate w moment revision).Readable) : w.Accepted := by
  have hsound := readable_iff.mp h
  exact ⟨hsound.scanId, hsound.reportRef, hsound.auditRef, hsound.errorCode, hsound.errorMessage⟩

/-- What a call did to the row of a job and to the receipts, if it raised; if it returned, the stored
row is the returned record. -/
def AtomicWrite (s : Store) (jobId : String) (result : Answer ScanJobRecord × Store) : Prop :=
  (∀ e, result.1 = .error e →
    result.2.job jobId = s.job jobId ∧ result.2.jobSafetyReceipts = s.jobSafetyReceipts) ∧
  ∀ record, result.1 = .ok record →
    ∃ row, result.2.job jobId = some row ∧ recordFromRow row = .ok record

theorem atomicWrite_refused (s : Store) (jobId : String) (e : Failure) :
    AtomicWrite s jobId (.error e, s) := by
  refine ⟨fun _ _ => ⟨rfl, rfl⟩, ?_⟩
  intro record h
  cases h

theorem atomicWrite_committed (s : Store) {s' : Store} {row : JobRow}
    (hjob : s'.job jobId = some row) (h : row.Readable) :
    AtomicWrite s jobId (recordFromRow row, s') := by
  obtain ⟨answer, hanswer⟩ := h
  unfold AtomicWrite
  dsimp only
  constructor
  · intro e he
    rw [hanswer] at he
    cases he
  · intro record hrecord
    exact ⟨row, hjob, hrecord⟩

theorem atomicWrite_iff {op : Op} {now : Nat} (hop : op.terminalWrite = some (jobId, w, now))
    (hworker : w.workerId = some credential.workerId)
    (htoken : w.leaseToken = some credential.leaseToken) (href : w.safetyReceiptRef = receipt.ref)
    (hsha : w.safetyReceiptSha256 = receipt.sha256) :
    AtomicWrite s jobId (terminalUpdate jobId w now s) ↔
      ((∃ row, s.Leased jobId credential now row) → receipt.Storable s jobId → w.Accepted) := by
  have hcommits : (∃ out, terminalUpdateBody jobId w now s = .ok out) ↔
      ∃ row, s.Leased jobId credential now row ∧ receipt.Storable s jobId :=
    terminalUpdateBody_isOk hworker htoken href hsha
  cases hbody : terminalUpdateBody jobId w now s with
  | error e =>
    have hcall : terminalUpdate jobId w now s = (.error e, s) :=
      transaction_of_error _ _ hbody
    rw [hcall]
    constructor
    · intro _ hrow hreceipt
      obtain ⟨row, hrow⟩ := hrow
      obtain ⟨out, hout⟩ := hcommits.mpr ⟨row, hrow, hreceipt⟩
      rw [hbody] at hout
      cases hout
    · intro _
      exact atomicWrite_refused s jobId e
  | ok out =>
    obtain ⟨written, s'⟩ := out
    have hcall : terminalUpdate jobId w now s = (recordFromRow written, s') :=
      transaction_of_ok _ _ hbody
    obtain ⟨row, record, workerId, hid, hrecord, hrunning, -, -, rfl, hreplaced⟩ :=
      terminalUpdateBody_ok hbody
    have hjob := hreplaced.job jobId
    rw [if_pos hid.symm] at hjob
    have hold := hreplaced.old
    rw [hid] at hold
    rw [hcall]
    constructor
    · intro hatomic _ _
      cases hread : recordFromRow (row.terminate w
        (noEarlierThan now (row.startedAt.getD row.submittedAt)) (row.revision + 1)) with
      | ok record => exact accepted_of_readable ⟨record, hread⟩
      | error e =>
        -- The row was running, so the closed row is another one.
        have hraised := hatomic.1 e
        rw [hread] at hraised
        have hsame := (hraised rfl).1
        rw [hjob, hold, Option.some.injEq] at hsame
        have hclosed := Op.isTerminal_of_terminalWrite hop
        have hstate : w.state = row.state := congrArg state hsame
        rw [hstate, hrunning] at hclosed
        cases hclosed
    · intro haccepted
      obtain ⟨row', hleased, hreceipt⟩ := hcommits.mp ⟨_, hbody⟩
      have hsound : (row.terminate w (noEarlierThan now (row.startedAt.getD row.submittedAt))
          (row.revision + 1)).Sound :=
        (readable_iff.mp ⟨record, hrecord⟩).terminate hop
          (haccepted ⟨row', hleased⟩ hreceipt) hrunning (row.revision + 1)
      exact atomicWrite_committed s hjob (readable_iff.mpr hsound)

/-! ## The two calls -/

/-- The arguments that `finish_result_leased` gives to `_terminal_update`. -/
def finishWrite (state : ScanJobState) (credential : Credential) (outcome : ScanOutcome)
    (receipt : ReceiptReference) : TerminalWrite where
  state := state
  workerId := some credential.workerId
  leaseToken := some credential.leaseToken
  scanId := some outcome.scanId
  resultStatus := some outcome.resultStatus
  reportRef := some outcome.reportRef
  auditRef := some outcome.auditRef
  safetyReceiptRef := receipt.ref
  safetyReceiptSha256 := receipt.sha256

/-- The arguments that `fail_leased` gives to it. -/
def failWrite (credential : Credential) (code message : String) (receipt : ReceiptReference) :
    TerminalWrite where
  state := .failed
  workerId := some credential.workerId
  leaseToken := some credential.leaseToken
  errorCode := some code
  errorMessage := some message
  safetyReceiptRef := receipt.ref
  safetyReceiptSha256 := receipt.sha256

/--
**A leased call that raises has changed nothing, exactly if what it commits reads back.** The worker
gives `finish_result_leased` the identifier and the references of a scan, and `fail_leased` the code
and the message of an error; the store checks neither before the commit.
-/
theorem terminal_writes_atomic (s : Store) (jobId : String) (credential : Credential)
    (receipt : ReceiptReference) (now : Nat) :
    (∀ outcome : ScanOutcome,
      AtomicWrite s jobId (finishResult jobId (some credential) outcome receipt now s) ↔
        (outcome.resultStatus.finishedState.isSome = true →
          (∃ row, s.Leased jobId credential now row) → receipt.Storable s jobId →
          isCanonicalUuid outcome.scanId = true
            ∧ (∃ c, artifactReference "scan_job" outcome.reportRef "report_ref" = .ok c)
            ∧ ∃ c, artifactReference "scan_job" outcome.auditRef "audit_ref" = .ok c))
    ∧ ∀ code message : String,
      AtomicWrite s jobId (fail jobId (some credential) code message receipt now s) ↔
        ((∃ row, s.Leased jobId credential now row) → receipt.Storable s jobId →
          (∃ c, WebGuard.errorCode "scan_job" (some code) "error_code" = .ok c)
            ∧ ∃ c, optionalText "scan_job" (some message) "error_message" 2048 = .ok c) := by
  constructor
  · intro outcome
    cases hstate : outcome.resultStatus.finishedState with
    | none =>
      have hcall : finishResult jobId (some credential) outcome receipt now s
          = (.error statusInvalid, s) := by
        rw [finishResult, hstate]
      rw [hcall]
      exact ⟨fun _ h => absurd h (by simp), fun _ => atomicWrite_refused s jobId statusInvalid⟩
    | some state =>
      have hop : (Op.finishResult jobId (some credential) outcome receipt now).terminalWrite =
          some (jobId, finishWrite state credential outcome receipt, now) := by
        rw [Op.terminalWrite, hstate]
        rfl
      have hcall : finishResult jobId (some credential) outcome receipt now s
          = terminalUpdate jobId (finishWrite state credential outcome receipt) now s := by
        rw [finishResult, hstate]
        rfl
      rw [hcall, atomicWrite_iff hop rfl rfl rfl rfl]
      refine ⟨fun h _ hleased hreceipt => ?_, fun h hleased hreceipt => ?_⟩
      · have haccepted := h hleased hreceipt
        exact ⟨haccepted.scanId _ rfl, haccepted.reportRef _ rfl, haccepted.auditRef _ rfl⟩
      · obtain ⟨hscan, hreport, haudit⟩ := h rfl hleased hreceipt
        refine ⟨fun v hv => ?_, fun v hv => ?_, fun v hv => ?_, ⟨none, rfl⟩, ⟨none, rfl⟩⟩
        · cases hv
          exact hscan
        · cases hv
          exact hreport
        · cases hv
          exact haudit
  · intro code message
    have hop : (Op.fail jobId (some credential) code message receipt now).terminalWrite =
        some (jobId, failWrite credential code message receipt, now) := rfl
    have hcall : fail jobId (some credential) code message receipt now s
        = terminalUpdate jobId (failWrite credential code message receipt) now s := rfl
    rw [hcall, atomicWrite_iff hop rfl rfl rfl rfl]
    refine ⟨fun h hleased hreceipt => ?_, fun h hleased hreceipt => ?_⟩
    · have haccepted := h hleased hreceipt
      exact ⟨haccepted.errorCode, haccepted.errorMessage⟩
    · obtain ⟨hcode, hmessage⟩ := h hleased hreceipt
      exact ⟨by simp [failWrite], by simp [failWrite], by simp [failWrite], hcode, hmessage⟩

end

def leasedHistory : List (@Op samplePrimitives) :=
  letI := samplePrimitives
  [.submit sampleRequest sampleJobId none none none none,
    .claimNextLeased 200 "worker-a" 1000000 "token-a"]

/-- An empty message raises, and the job is failed. -/
theorem empty_message_closes :
    letI := samplePrimitives
    let s := empty.run leasedHistory
    let result := fail sampleJobId (some ⟨"worker-a", "token-a"⟩) "scan_failed" "" {} 300 s
    result.1.isOk = false ∧ (s.job sampleJobId).map state = some .running
      ∧ (result.2.job sampleJobId).map state = some .failed
      ∧ ¬ AtomicWrite s sampleJobId result := by
  let _ := samplePrimitives
  intro s result
  have hraises : result.1.isOk = false := by decide
  have hbefore : (s.job sampleJobId).map state = some .running := by decide
  have hafter : (result.2.job sampleJobId).map state = some .failed := by decide
  refine ⟨hraises, hbefore, hafter, fun hatomic => ?_⟩
  cases hresult : result.1 with
  | ok record =>
    rw [hresult] at hraises
    cases hraises
  | error e =>
    rw [(hatomic.1 e hresult).1, hbefore] at hafter
    cases hafter

end WebGuard
