import WebGuard.Store.Operations

/-!
# Idempotent submission

One job for an idempotency key is the `UNIQUE` constraint of the table, which the type of the
table carries. What a repeated `submit` answers is decided by three comparisons. The fingerprint
is always compared; the organisation and the permit are compared where the caller supplies them,
so a caller without a scope may ask for the job of any key.
-/

namespace WebGuard

open Relational Atomic Store

section

variable [Primitives]

/-- The organisation a job was submitted for. -/
def Store.storedOrganization (s : Store) (jobId : String) : Option String :=
  (s.jobScopes.get? ScopeRow.jobId jobId).map ScopeRow.organizationId

/-- The permit and the digest a job is bound to. -/
def Store.storedPermit (s : Store) (jobId : String) : Option (String × String) :=
  (s.binding jobId).map fun b => (b.permitId, b.permitSha256)

variable {s : Store} {jobId : String} {existing : JobRow}

omit [Primitives] in
theorem scopeMatches_iff {organizationId : Option String} :
    s.scopeMatches jobId organizationId = true ↔
      ∀ organization, organizationId = some organization →
        s.storedOrganization jobId = some organization := by
  unfold scopeMatches storedOrganization
  cases organizationId with
  | none => simp
  | some organization => simp [Option.any_eq_true]

omit [Primitives] in
theorem permitMatches_iff {permitId permitSha256 : Option String}
    (htogether : permitId.isSome = permitSha256.isSome) :
    s.permitMatches jobId permitId permitSha256 = true ↔
      ∀ permit digest, permitId = some permit → permitSha256 = some digest →
        s.storedPermit jobId = some (permit, digest) := by
  unfold permitMatches storedPermit
  cases permitId with
  | none => simp
  | some permit =>
    cases permitSha256 with
    | none => simp at htogether
    | some digest => simp [Option.any_eq_true]

theorem queuedRecord_isOk (request : ScanJobRequest) (hid : isCanonicalUuid jobId = true) :
    ∃ record, ScanJobRecord.new
      { jobId, request, state := .queued, updatedAt := request.submittedAt } = .ok record := by
  have hw : ScanJobRecordFields.Wellformed
      { jobId, request, state := .queued, updatedAt := request.submittedAt } := by
    refine ⟨hid, Nat.le_refl _, ?_, ?_, ?_, ?_, ?_, ⟨none, rfl⟩, ⟨none, rfl⟩, rfl⟩
    all_goals
      intro v hv
      cases hv
  obtain ⟨fields, hfields⟩ := (ScanJobRecordFields.postInit_isOk _).mpr hw
  exact ⟨⟨fields, ⟨_, hfields⟩⟩, ScanJobRecord.new_eq_ok.mpr hfields⟩

variable {request : ScanJobRequest}

theorem submit_existing_unchanged
    (h : s.scanJobs.get? JobRow.idempotencyKey request.idempotencyKey = some existing)
    (jobId : String) (organizationId submittedBy permitId permitSha256 : Option String) :
    (submit request jobId organizationId submittedBy permitId permitSha256 s).2 = s := by
  unfold submit
  rcases transaction_state (submitBody request jobId organizationId submittedBy permitId
    permitSha256) (fun answer _ => .ok answer) s with hsame | ⟨answer, hbody⟩
  · exact hsame
  · rcases submitBody_ok hbody with ⟨-, -, -, -, hsame⟩ | ⟨-, -, hinserted⟩
    · exact hsame
    · have hfresh := hinserted.freshKey
      rw [show (newJobRow jobId request request.submittedAt).idempotencyKey
        = request.idempotencyKey from rfl, h] at hfresh
      simp at hfresh

theorem submit_existing
    (h : s.scanJobs.get? JobRow.idempotencyKey request.idempotencyKey = some existing)
    (hid : isCanonicalUuid jobId = true)
    {organizationId submittedBy permitId permitSha256 : Option String}
    (harguments : submitArguments organizationId submittedBy permitId permitSha256 = .ok ()) :
    (submit request jobId organizationId submittedBy permitId permitSha256 s).1
      = (submitExisting s existing request organizationId permitId permitSha256).map
          (fun record => (record, false)) := by
  obtain ⟨record, hrecord⟩ := queuedRecord_isOk request hid
  have hbody : submitBody request jobId organizationId submittedBy permitId permitSha256 s
      = (submitExisting s existing request organizationId permitId permitSha256).map
          (fun stored => ((stored, false), s)) := by
    unfold submitBody
    rw [harguments, hrecord, h]
    simp only [bind, Except.bind]
    cases submitExisting s existing request organizationId permitId permitSha256 <;> rfl
  unfold submit transaction
  rw [hbody]
  cases submitExisting s existing request organizationId permitId permitSha256 <;> rfl

theorem submitExisting_of_readable (s : Store) (request : ScanJobRequest) {record : ScanJobRecord}
    (hread : recordFromRow existing = .ok record)
    (organizationId permitId permitSha256 : Option String) :
    (existing.requestFingerprint = request.fingerprint ∧
        s.scopeMatches existing.jobId organizationId = true ∧
        s.permitMatches existing.jobId permitId permitSha256 = true ∧
        submitExisting s existing request organizationId permitId permitSha256 = .ok record) ∨
    (¬ (existing.requestFingerprint = request.fingerprint ∧
        s.scopeMatches existing.jobId organizationId = true ∧
        s.permitMatches existing.jobId permitId permitSha256 = true) ∧
      ∃ message, submitExisting s existing request organizationId permitId permitSha256
        = .error (idempotencyConflict message)) := by
  unfold submitExisting
  rw [hread, ← (recordFromRow_keeps hread).1]
  simp only [bind, Except.bind, ensure]
  by_cases hprint : existing.requestFingerprint = request.fingerprint
  · by_cases hscope : s.scopeMatches record.jobId organizationId = true
    · by_cases hpermit : s.permitMatches record.jobId permitId permitSha256 = true
      · refine Or.inl ⟨hprint, hscope, hpermit, ?_⟩
        simp [hprint, hscope, hpermit, pure, Except.pure]
      · exact Or.inr ⟨fun h => hpermit h.2.2, _, by simp [hprint, hscope, hpermit]; rfl⟩
    · exact Or.inr ⟨fun h => hscope h.2.1, _, by simp [hprint, hscope]; rfl⟩
  · exact Or.inr ⟨fun h => hprint h.1, _, by simp [hprint]; rfl⟩

/-- **Idempotent submission.**

In every reachable store a key has one job. A submission whose key is in use leaves the store as
it is. With arguments that pass their own checks, and a stored row that reads back, it answers
with the stored job where the fingerprint matches and the organisation and the permit match as
far as the caller supplies them, and with a conflict otherwise. -/
theorem submit_idempotent (ops : List Op) :
    (∀ row ∈ (empty.run ops).scanJobs.rows, ∀ row' ∈ (empty.run ops).scanJobs.rows,
      row.idempotencyKey = row'.idempotencyKey → row = row') ∧
    ∀ (request : ScanJobRequest) (jobId : String)
      (organizationId submittedBy permitId permitSha256 : Option String) (existing : JobRow),
      (empty.run ops).scanJobs.get? JobRow.idempotencyKey request.idempotencyKey
        = some existing →
      (submit request jobId organizationId submittedBy permitId permitSha256
        (empty.run ops)).2 = empty.run ops ∧
      ∀ record, recordFromRow existing = .ok record → isCanonicalUuid jobId = true →
        submitArguments organizationId submittedBy permitId permitSha256 = .ok () →
        ((existing.requestFingerprint = request.fingerprint ∧
            (∀ organization, organizationId = some organization →
              (empty.run ops).storedOrganization existing.jobId = some organization) ∧
            (∀ permit digest, permitId = some permit → permitSha256 = some digest →
              (empty.run ops).storedPermit existing.jobId = some (permit, digest))) ↔
          (submit request jobId organizationId submittedBy permitId permitSha256
            (empty.run ops)).1 = .ok (record, false)) ∧
        ((submit request jobId organizationId submittedBy permitId permitSha256
            (empty.run ops)).1 ≠ .ok (record, false) →
          ∃ message, (submit request jobId organizationId submittedBy permitId permitSha256
            (empty.run ops)).1 = .error (idempotencyConflict message)) := by
  refine ⟨?_, ?_⟩
  · intro row hrow row' hrow' hkey
    exact (empty.run ops).scanJobs.eq_of_column_eq (by simp) hrow hrow' hkey
  · intro request jobId organizationId submittedBy permitId permitSha256 existing hexisting
    refine ⟨submit_existing_unchanged hexisting _ _ _ _ _, ?_⟩
    intro record hread hid harguments
    have htogether : permitId.isSome = permitSha256.isSome := by
      unfold submitArguments at harguments
      obtain ⟨_, -, hrest⟩ := bind_ok harguments
      obtain ⟨_, hpermit, -⟩ := bind_ok hrest
      simpa using hpermit
    rw [submit_existing hexisting hid harguments, ← scopeMatches_iff,
      ← permitMatches_iff htogether]
    rcases submitExisting_of_readable (empty.run ops) request hread organizationId permitId
      permitSha256 with ⟨hprint, hscope, hpermit, hok⟩ | ⟨hnot, message, herror⟩
    · rw [hok]
      simp [hprint, hscope, hpermit, Except.map]
    · rw [herror]
      refine ⟨⟨fun h => absurd h hnot, fun h => by simp [Except.map] at h⟩, fun _ => ⟨message, rfl⟩⟩

end

def scopedHistory : List (@Op samplePrimitives) :=
  letI := samplePrimitives
  [.createScanPermit samplePermit,
    .submit sampleRequest sampleJobId (some sampleOrganizationId) (some samplePrincipalId)
      (some samplePermit.permitId) (some samplePermit.permitSha256)]

/-- The same request from the same organisation under the same permit gets the stored job. -/
theorem submit_idempotent_repeated :
    letI := samplePrimitives
    ∃ record, (submit sampleRequest otherJobId (some sampleOrganizationId)
      (some samplePrincipalId) (some samplePermit.permitId) (some samplePermit.permitSha256)
      (empty.run scopedHistory)).1 = .ok (record, false) := by
  let _ := samplePrimitives
  have hexisting : (empty.run scopedHistory).scanJobs.get? JobRow.idempotencyKey
      sampleRequest.idempotencyKey = some (newJobRow sampleJobId sampleRequest 100) := by
    decide
  have hread : ∃ record, recordFromRow (newJobRow sampleJobId sampleRequest 100) = .ok record :=
    exists_ok_of_isOk (by decide)
  obtain ⟨record, hrecord⟩ := hread
  refine ⟨record, (((submit_idempotent scopedHistory).2 sampleRequest otherJobId
    (some sampleOrganizationId) (some samplePrincipalId) (some samplePermit.permitId)
    (some samplePermit.permitSha256) _ hexisting).2 record hrecord (by decide)
    (by decide)).1.mp ⟨by decide, ?_, ?_⟩⟩
  · rintro organization ⟨⟩
    decide
  · rintro permit digest ⟨⟩ ⟨⟩
    decide

/-- The same request without a scope gets the job of the organisation, which it does not name. -/
theorem submit_unscoped_repeated :
    letI := samplePrimitives
    ¬ ((∃ record, (submit sampleRequest otherJobId none none none none
          (empty.run scopedHistory)).1 = .ok (record, false)) ↔
        (newJobRow sampleJobId sampleRequest 100).requestFingerprint
            = sampleRequest.fingerprint ∧
          (empty.run scopedHistory).storedOrganization sampleJobId = none ∧
          (empty.run scopedHistory).storedPermit sampleJobId = none) := by
  let _ := samplePrimitives
  intro h
  have hscoped : (empty.run scopedHistory).storedOrganization sampleJobId ≠ none := by
    decide
  refine hscoped (h.mp ?_).2.1
  -- The flag is false: the call found the key in use.
  have hanswer : ((submit sampleRequest otherJobId none none none none
      (empty.run scopedHistory)).1.map Prod.snd).toOption = some false := by
    decide
  generalize (submit sampleRequest otherJobId none none none none
    (empty.run scopedHistory)).1 = call at hanswer
  cases call with
  | error failure => cases hanswer
  | ok answer =>
    obtain ⟨record, flag⟩ := answer
    cases hanswer
    exact ⟨record, rfl⟩

end WebGuard
