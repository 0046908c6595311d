import WebGuard.Store.Operations
import WebGuard.Postgres.Submit

/-!
# Idempotent submission on PostgreSQL

Two submissions with one key can both find no row. The unique index lets one of them in, and
there is never more than one job per key, whoever waits for whom (`Consistent`). Whoever returns,
returns that job.

The other submission gets the driver's integrity error. The handler beside the `INSERT` does not
match it, and it reaches the caller as a `DatabaseIntegrityError`: `losing_submission`.
`InsertsAlone` is the condition under which no caller meets it, and `pg_submit_idempotent` says
the whole of what callers then get.
-/

namespace WebGuard

open UniqueInsert Atomic List PgFailure

theorem PgJob.clash_comm (a b : PgJob) : a.clash b = b.clash a := by
  unfold PgJob.clash
  rw [Bool.beq_comm, Bool.beq_comm (a := a.row.idempotencyKey)]

section

variable [Primitives]

/-! ## Errors of the store -/

variable {failure : Failure} {call : SubmitCall}

section

omit [Primitives]

theorem isJobStoreError_of_ensure {condition : Bool} {code message : String}
    (h : ensure condition (.jobStore code message) = .error failure) :
    (raised failure).IsJobStoreError := by
  unfold ensure at h
  split at h
  · cases h
  · cases h
    exact ⟨code, message, rfl⟩

theorem isJobStoreError_of_bind {α β : Type} {x : Answer α} {f : α → Answer β}
    (h : x >>= f = .error failure)
    (hx : ∀ failure, x = .error failure → (raised failure).IsJobStoreError)
    (hf : ∀ a failure, f a = .error failure → (raised failure).IsJobStoreError) :
    (raised failure).IsJobStoreError := by
  cases hxa : x with
  | error e =>
    rw [hxa] at h
    obtain rfl : e = failure := Except.error.inj h
    exact hx e hxa
  | ok a =>
    rw [hxa] at h
    exact hf a failure h

theorem isJobStoreError_of_submitArguments
    {organizationId submittedBy permitId permitSha256 : Option String}
    (h : submitArguments organizationId submittedBy permitId permitSha256 = .error failure) :
    (raised failure).IsJobStoreError := by
  unfold submitArguments at h
  refine isJobStoreError_of_bind h (fun _ => isJobStoreError_of_ensure) ?_
  intro _ _ h
  refine isJobStoreError_of_bind h (fun _ => isJobStoreError_of_ensure) ?_
  intro _ _ h
  exact isJobStoreError_of_ensure h

end

theorem isJobStoreError_of_pgRecordFromRow {row : JobRow}
    (h : pgRecordFromRow row = .error failure) : (raised failure).IsJobStoreError := by
  unfold pgRecordFromRow at h
  split at h
  · cases h
  · cases h
    exact ⟨_, _, rfl⟩

theorem isJobStoreError_of_existingAnswer {existing : PgJob}
    (h : call.existingAnswer existing = .error failure) :
    (raised failure).IsJobStoreError := by
  unfold SubmitCall.existingAnswer at h
  refine isJobStoreError_of_bind h (fun _ => isJobStoreError_of_pgRecordFromRow) ?_
  intro _ _ h
  refine isJobStoreError_of_bind h (fun _ => isJobStoreError_of_ensure) ?_
  intro _ _ h
  refine isJobStoreError_of_bind h (fun _ => isJobStoreError_of_ensure) ?_
  intro _ _ h
  refine isJobStoreError_of_bind h (fun _ => isJobStoreError_of_ensure) ?_
  intro _ _ h
  cases h

theorem existingAnswer_eq_ok {existing : PgJob} {record : ScanJobRecord}
    (h : call.existingAnswer existing = .ok record) :
    pgRecordFromRow existing.row = .ok record := by
  unfold SubmitCall.existingAnswer at h
  obtain ⟨stored, hstored, h⟩ := bind_ok h
  obtain ⟨_, -, h⟩ := bind_ok h
  obtain ⟨_, -, h⟩ := bind_ok h
  obtain ⟨_, -, h⟩ := bind_ok h
  cases h
  exact hstored

namespace SubmitDesk

variable {T : Type} [DecidableEq T] {s : SubmitDesk T} {t : T}

/-! ## What callers get -/

/-- The committed jobs with the key. -/
def jobsOf (s : SubmitDesk T) (key : String) : List PgJob :=
  s.jobs.committed.filter fun job => job.row.idempotencyKey == key

/-- A caller that has a record has the record of a committed job with its key. -/
def Answered (s : SubmitDesk T) (call : SubmitCall) (record : ScanJobRecord) : Prop :=
  ∃ job ∈ s.jobsOf call.key, pgRecordFromRow job.row = .ok record

/-- The session has inserted its row, and has not committed it. -/
def Holds (s : SubmitDesk T) (t : T) (call : SubmitCall) : Prop :=
  s.session t = .bindPermit call ∨ s.session t = .reread call

/-- What holds whatever the order of the statements. -/
structure Consistent (s : SubmitDesk T) : Prop where
  separate : s.jobs.Separate PgJob.clash
  pending : ∀ p ∈ s.jobs.pending, ∃ call, s.Holds p.1 call ∧ p.2 = call.job
  held : ∀ t call, s.Holds t call → (t, call.job) ∈ s.jobs.pending
  answers : ∀ call record created, (call, .ok (record, created)) ∈ s.outcomes →
    s.Answered call record

omit [DecidableEq T] in
theorem consistent_empty : (empty : SubmitDesk T).Consistent where
  separate := List.Pairwise.nil
  pending := by
    intro p hp
    cases hp
  held := by
    rintro t call (h | h) <;> cases h
  answers := by
    intro call record created h
    cases h

theorem session_enter_self (next : SubmitSession) : (s.enter t next).session t = next := by
  simp [enter]

theorem session_enter_other {t' : T} (h : t' ≠ t) (next : SubmitSession) :
    (s.enter t next).session t' = s.session t' := by
  simp [enter, h]

omit [DecidableEq T] in
theorem Consistent.pending_ne (h : s.Consistent) (hnone : ∀ call, ¬ s.Holds t call) :
    ∀ p ∈ s.jobs.pending, p.1 ≠ t := by
  rintro p hp rfl
  obtain ⟨call, hholds, -⟩ := h.pending p hp
  exact hnone call hholds

theorem Consistent.enter (h : s.Consistent) {next : SubmitSession}
    (hnone : ∀ call, ¬ s.Holds t call)
    (hnext : ∀ call, next ≠ .bindPermit call ∧ next ≠ .reread call) :
    (s.enter t next).Consistent := by
  have hholds : ∀ t' call, (s.enter t next).Holds t' call ↔ s.Holds t' call := by
    intro t' call
    unfold Holds
    by_cases ht : t' = t
    · subst ht
      rw [session_enter_self]
      refine iff_of_false ?_ (hnone call)
      rintro (hb | hr)
      · exact (hnext call).1 hb
      · exact (hnext call).2 hr
    · rw [session_enter_other ht]
  refine ⟨h.separate, ?_, ?_, h.answers⟩
  · intro p hp
    obtain ⟨call, hcall, hjob⟩ := h.pending p hp
    exact ⟨call, (hholds p.1 call).mpr hcall, hjob⟩
  · intro t' call hcall
    exact h.held t' call ((hholds t' call).mp hcall)

theorem Consistent.release (h : s.Consistent) {jobs : Heap PgJob T}
    (hseparate : jobs.Separate PgJob.clash) (hsub : ∀ job ∈ s.jobs.committed, job ∈ jobs.committed)
    (hpending : jobs.pending = s.jobs.pending.filter (fun p => !decide (p.1 = t))) :
    (SubmitDesk.enter { s with jobs := jobs } t .idle).Consistent := by
  refine ⟨hseparate, ?_, ?_, ?_⟩
  · intro p hp
    obtain ⟨hold, hne⟩ := (Heap.mem_pending_released hpending).mp hp
    obtain ⟨call, hcall, hjob⟩ := h.pending p hold
    refine ⟨call, ?_, hjob⟩
    unfold Holds
    rw [session_enter_other hne]
    exact hcall
  · intro t' call hcall
    unfold Holds at hcall
    by_cases ht : t' = t
    · subst ht
      rw [session_enter_self] at hcall
      rcases hcall with hb | hr
      · cases hb
      · cases hr
    · rw [session_enter_other ht] at hcall
      exact (Heap.mem_pending_released hpending).mpr ⟨h.held t' call hcall, ht⟩
  · intro call record created houtcome
    obtain ⟨job, hjob, hrecord⟩ := h.answers call record created houtcome
    obtain ⟨hmem, hkey⟩ := mem_filter.mp hjob
    exact ⟨job, mem_filter.mpr ⟨hsub job hmem, hkey⟩, hrecord⟩

theorem Consistent.abort (h : s.Consistent) :
    (SubmitDesk.enter { s with jobs := s.jobs.abort t } t .idle).Consistent :=
  h.release h.separate.abort (fun _ => id) rfl

variable {outcome : SubmitOutcome}

theorem Consistent.answer (h : (s.enter t .idle).Consistent)
    (houtcome : ∀ record created, outcome = .ok (record, created) → s.Answered call record) :
    (s.finish t call outcome).Consistent := by
  refine ⟨h.separate, h.pending, h.held, ?_⟩
  intro call' record created hmem
  rcases mem_cons.mp hmem with hnew | hold
  · obtain ⟨rfl, hok⟩ := Prod.mk.inj hnew
    exact houtcome record created hok.symm
  · exact h.answers call' record created hold

theorem Consistent.raise (h : s.Consistent) (call : SubmitCall) (failure : PgFailure) :
    (s.raise t call failure).Consistent := by
  refine Consistent.answer h.abort ?_
  intro record created hok
  cases hok

/-! ## One statement -/

theorem Consistent.lookup (h : s.Consistent) (hsession : s.session t = .lookup call) :
    (s.lookup t call).Consistent := by
  have hnone : ∀ call', ¬ s.Holds t call' := by
    rintro call' (hb | hr)
    · rw [hsession] at hb
      cases hb
    · rw [hsession] at hr
      cases hr
  unfold SubmitDesk.lookup
  split
  · next existing hexisting =>
    split
    · next record hrecord =>
      refine Consistent.answer (h.enter hnone (by simp)) ?_
      rintro record' created ⟨⟩
      refine ⟨existing, ?_, existingAnswer_eq_ok hrecord⟩
      have hkey := find?_some hexisting
      exact mem_filter.mpr ⟨mem_of_find?_eq_some hexisting, hkey⟩
    · exact h.raise _ _
  · exact h.enter hnone (by simp)

theorem Consistent.insert (h : s.Consistent) (hsession : s.session t = .insert call) :
    (s.insert t call).Consistent := by
  have hnone : ∀ call', ¬ s.Holds t call' := by
    rintro call' (hb | hr)
    · rw [hsession] at hb
      cases hb
    · rw [hsession] at hr
      cases hr
  unfold SubmitDesk.insert
  split
  · exact h.raise _ _
  · split
    · exact h.raise _ _
    · exact h
    · next hinserted =>
      split
      · refine ⟨h.separate.push PgJob.clash_comm (h.pending_ne hnone) hinserted, ?_, ?_, h.answers⟩
        · intro p hp
          rcases mem_append.mp hp with hold | hnew
          · obtain ⟨call', hcall', hjob⟩ := h.pending p hold
            refine ⟨call', ?_, hjob⟩
            unfold Holds
            rw [session_enter_other (h.pending_ne hnone p hold)]
            exact hcall'
          · rw [mem_singleton] at hnew
            rw [hnew]
            exact ⟨call, Or.inl (session_enter_self _), rfl⟩
        · intro t' call' hcall'
          unfold Holds at hcall'
          refine mem_append.mpr ?_
          by_cases ht : t' = t
          · subst ht
            rw [session_enter_self] at hcall'
            rcases hcall' with hb | hr
            · cases hb
              exact Or.inr (mem_singleton.mpr rfl)
            · cases hr
          · rw [session_enter_other ht] at hcall'
            exact Or.inl (h.held t' call' hcall')
      · exact h.raise _ _

theorem Consistent.bindPermit (h : s.Consistent) (hsession : s.session t = .bindPermit call) :
    (s.bindPermit t call).Consistent := by
  unfold SubmitDesk.bindPermit
  split
  · -- The row stays pending, and its session holds it at the next statement.
    have hholds : ∀ t' call', (s.enter t (.reread call)).Holds t' call' ↔ s.Holds t' call' := by
      intro t' call'
      unfold Holds
      by_cases ht : t' = t
      · subst ht
        rw [session_enter_self, hsession]
        simp
      · rw [session_enter_other ht]
    refine ⟨h.separate, ?_, ?_, h.answers⟩
    · intro p hp
      obtain ⟨call', hcall', hjob⟩ := h.pending p hp
      exact ⟨call', (hholds p.1 call').mpr hcall', hjob⟩
    · intro t' call' hcall'
      exact h.held t' call' ((hholds t' call').mp hcall')
  · exact h.raise _ _

theorem Consistent.reread (h : s.Consistent) (hsession : s.session t = .reread call) :
    (s.reread t call).Consistent := by
  refine Consistent.answer (s := { s with jobs := s.jobs.commit t })
    (h.release (h.separate.commit PgJob.clash_comm) ?_ rfl) ?_
  · intro job hjob
    exact Heap.mem_committed_commit.mpr (Or.inl hjob)
  · intro record created hok
    split at hok
    · next record' hrecord =>
      cases hok
      refine ⟨call.job, ?_, hrecord⟩
      refine mem_filter.mpr ⟨Heap.mem_committed_commit.mpr (Or.inr ?_), ?_⟩
      · exact h.held t call (Or.inr hsession)
      · exact beq_self_eq_true _
    · cases hok

theorem Consistent.step (h : s.Consistent) (input : SubmitInput T) : (s.step input).Consistent := by
  cases input with
  | administer permits organizations principals =>
    exact ⟨h.separate, h.pending, h.held, h.answers⟩
  | submit t call =>
    simp only [SubmitDesk.step]
    split
    · next hidle =>
      have hnone : ∀ call', ¬ s.Holds t call' := by
        rintro call' (hb | hr)
        · rw [hidle] at hb
          cases hb
        · rw [hidle] at hr
          cases hr
      split
      · exact h.enter hnone (by simp)
      · refine Consistent.answer (h.enter hnone (by simp)) ?_
        intro record created hok
        cases hok
    · exact h
  | advance t =>
    simp only [SubmitDesk.step]
    split
    · exact h
    · next call hsession => exact h.lookup hsession
    · next call hsession => exact h.insert hsession
    · next call hsession => exact h.bindPermit hsession
    · next call hsession => exact h.reread hsession
  | crash t => exact h.abort

/-! ## What callers are spared -/

/--
An `INSERT` meets no committed job with its key or its identifier, and names an organisation and a
principal that are there.
-/
def InsertsAlone (s : SubmitDesk T) : SubmitInput T → Prop
  | .advance t =>
    ∀ call, s.session t = .insert call →
      s.referenced call = true ∧ ∀ job ∈ s.jobs.committed, call.job.clash job = false
  | _ => True

def insertsAlone (s : SubmitDesk T) (t : T) : Bool :=
  match s.session t with
  | .insert call =>
    s.referenced call && s.jobs.committed.all fun job => !call.job.clash job
  | _ => true

omit [DecidableEq T] in
theorem insertsAlone_of_check (h : s.insertsAlone t = true) : s.InsertsAlone (.advance t) := by
  intro call hsession
  unfold insertsAlone at h
  rw [hsession] at h
  simpa using h

/-- Every exception that a caller has seen is a `JobStoreError`. -/
def Raised (s : SubmitDesk T) : Prop :=
  ∀ call failure, (call, .error failure) ∈ s.outcomes → failure.IsJobStoreError

theorem Raised.finish (h : s.Raised)
    (houtcome : ∀ failure, outcome = .error failure → failure.IsJobStoreError) :
    (s.finish t call outcome).Raised := by
  intro call' failure hmem
  rcases mem_cons.mp hmem with hnew | hold
  · obtain ⟨-, herror⟩ := Prod.mk.inj hnew
    exact houtcome failure herror.symm
  · exact h call' failure hold

theorem Raised.raise (h : s.Raised) {failure : PgFailure} (hfailure : failure.IsJobStoreError) :
    (s.raise t call failure).Raised := by
  refine Raised.finish (s := { s with jobs := s.jobs.abort t }) h ?_
  rintro failure' ⟨⟩
  exact hfailure

theorem Raised.insert (h : s.Raised) (hreferenced : s.referenced call = true)
    (halone : ∀ job ∈ s.jobs.committed, call.job.clash job = false) : (s.insert t call).Raised := by
  have hgiven : (call.organizationId.isNone || call.submittedBy.isNone) = false := by
    unfold referenced at hreferenced
    cases horganization : call.organizationId with
    | none => simp [horganization] at hreferenced
    | some organization =>
      cases hprincipal : call.submittedBy with
      | none => simp [hprincipal] at hreferenced
      | some principal => rfl
  unfold SubmitDesk.insert
  rw [hgiven]
  simp only [Bool.false_eq_true, if_false]
  split
  · next hviolation =>
    obtain ⟨job, hjob, hclash⟩ := Heap.tryInsert_violation hviolation
    rw [halone job hjob] at hclash
    cases hclash
  · exact h
  · rw [if_pos hreferenced]
    exact h

theorem Raised.step (h : s.Raised) (input : SubmitInput T) (halone : s.InsertsAlone input) :
    (s.step input).Raised := by
  cases input with
  | administer permits organizations principals => exact h
  | submit t call =>
    simp only [SubmitDesk.step]
    split
    · split
      · exact h
      · next failure hfailure =>
        refine h.finish ?_
        rintro failure' ⟨⟩
        exact isJobStoreError_of_submitArguments hfailure
    · exact h
  | advance t =>
    simp only [SubmitDesk.step]
    split
    · exact h
    · next call hsession =>
      unfold SubmitDesk.lookup
      split
      · split
        · refine h.finish ?_
          rintro failure' ⟨⟩
        · next failure hfailure => exact h.raise (isJobStoreError_of_existingAnswer hfailure)
      · exact h
    · next call hsession =>
      obtain ⟨hreferenced, hcommitted⟩ := halone call hsession
      exact h.insert hreferenced hcommitted
    · next call hsession =>
      unfold SubmitDesk.bindPermit
      split
      · exact h
      · exact h.raise ⟨_, _, rfl⟩
    · next call hsession =>
      refine Raised.finish (s := { s with jobs := s.jobs.commit t }) h ?_
      intro failure' hfailure'
      split at hfailure'
      · cases hfailure'
      · next failure hfailure =>
        cases hfailure'
        exact isJobStoreError_of_pgRecordFromRow hfailure
  | crash t => exact h

/-! ## Whole runs -/

theorem consistent_run (inputs : List (SubmitInput T)) : (empty.run inputs).Consistent :=
  Runs.run_induction (P := Consistent) (fun _ input hs => hs.step input) consistent_empty inputs

omit [DecidableEq T] in
theorem Consistent.jobsOf_length (h : s.Consistent) (key : String) :
    (s.jobsOf key).length ≤ 1 := by
  refine h.separate.filter_length ?_
  intro a b ha hb
  have hsame : a.row.idempotencyKey = b.row.idempotencyKey :=
    (beq_iff_eq.mp ha).trans (beq_iff_eq.mp hb).symm
  unfold PgJob.clash
  rw [hsame]
  simp

/--
**Submission is idempotent under concurrency**, where no `INSERT` comes too late: there is never
more than one job with a key, a caller that returns has exactly that job, and a caller that does
not return gets a `JobStoreError`.
-/
theorem pg_submit_idempotent {inputs : List (SubmitInput T)}
    (halone : Runs.Along step InsertsAlone empty inputs) :
    (∀ key, ((empty.run inputs).jobsOf key).length ≤ 1) ∧
      (∀ call record created, (call, .ok (record, created)) ∈ (empty.run inputs).outcomes →
        ∃ job, (empty.run inputs).jobsOf call.key = [job] ∧
          pgRecordFromRow job.row = .ok record) ∧
      (∀ call failure, (call, .error failure) ∈ (empty.run inputs).outcomes →
        failure.IsJobStoreError) := by
  have hconsistent := consistent_run inputs
  have hraised : (empty.run inputs).Raised :=
    Runs.along_induction (P := Raised) (fun _ input hs hG => hs.step input hG)
      (fun _ _ h => by cases h) halone
  refine ⟨hconsistent.jobsOf_length, ?_, hraised⟩
  intro call record created houtcome
  obtain ⟨job, hjob, hrecord⟩ := hconsistent.answers call record created houtcome
  refine ⟨job, ?_, hrecord⟩
  have hlength := hconsistent.jobsOf_length call.key
  match hrows : (empty.run inputs).jobsOf call.key with
  | [] =>
    rw [hrows] at hjob
    cases hjob
  | [only] =>
    rw [hrows, mem_singleton] at hjob
    rw [hjob]
  | a :: b :: rest =>
    rw [hrows] at hlength
    simp at hlength

def databaseErrors (s : SubmitDesk T) : List String :=
  s.outcomes.filterMap fun o =>
    match o.2 with
    | .error (.database code _) => some code
    | _ => none

omit [DecidableEq T] in
theorem mem_databaseErrors {code : String} (h : code ∈ s.databaseErrors) :
    ∃ call message, (call, .error (.database code message)) ∈ s.outcomes := by
  obtain ⟨⟨call, outcome⟩, hmem, hcode⟩ := mem_filterMap.mp h
  dsimp only at hcode
  split at hcode
  · next code' message =>
    cases hcode
    exact ⟨call, message, hmem⟩
  · cases hcode

end SubmitDesk

end

/-! ## Two submissions of one key -/

def sampleCall (jobId : String) : @SubmitCall samplePrimitives :=
  letI := samplePrimitives
  { request := sampleRequest, jobId := jobId, organizationId := some sampleOrganizationId
    submittedBy := some samplePrincipalId }

def serialSubmissions : List (@SubmitInput samplePrimitives Bool) :=
  letI := samplePrimitives
  [.administer [] [sampleOrganizationId] [samplePrincipalId],
    .submit true (sampleCall sampleJobId), .advance true, .advance true, .advance true,
    .advance true, .submit false (sampleCall otherJobId), .advance false]

/-- Both look the key up before either inserts; the second `INSERT` waits for the first. -/
def concurrentSubmissions : List (@SubmitInput samplePrimitives Bool) :=
  letI := samplePrimitives
  [.administer [] [sampleOrganizationId] [samplePrincipalId],
    .submit true (sampleCall sampleJobId), .submit false (sampleCall otherJobId),
    .advance true, .advance false, .advance true, .advance false, .advance true, .advance true,
    .advance false]

/-- Both callers have the one job, the second without having created it. -/
theorem pg_submit_idempotent_serial :
    letI := samplePrimitives
    (SubmitDesk.empty.run serialSubmissions).outcomes.length = 2 ∧
      ((SubmitDesk.empty.run serialSubmissions).jobsOf "submit-0001").length = 1 ∧
      ∀ call record created,
        (call, .ok (record, created)) ∈ (SubmitDesk.empty.run serialSubmissions).outcomes →
        ∃ job, (SubmitDesk.empty.run serialSubmissions).jobsOf call.key = [job] ∧
          pgRecordFromRow job.row = .ok record := by
  let _ := samplePrimitives
  have hadvance : ∀ n t, (SubmitDesk.empty.run (serialSubmissions.take n)).insertsAlone t = true →
      (SubmitDesk.empty.run (serialSubmissions.take n)).InsertsAlone (.advance t) :=
    fun n t => SubmitDesk.insertsAlone_of_check
  have halone : Runs.Along SubmitDesk.step SubmitDesk.InsertsAlone SubmitDesk.empty
      serialSubmissions :=
    ⟨trivial, trivial, hadvance 2 true (by decide), hadvance 3 true (by decide),
      hadvance 4 true (by decide), hadvance 5 true (by decide), trivial,
      hadvance 7 false (by decide), trivial⟩
  exact ⟨by decide, by decide, (SubmitDesk.pg_submit_idempotent halone).2.1⟩

/--
**The submission that loses gets an error of the database**, not of the store: its `INSERT` waits
for the other's commit and is refused.
-/
theorem losing_submission :
    letI := samplePrimitives
    ¬ ∀ (inputs : List (SubmitInput Bool)) (call : SubmitCall) (failure : PgFailure),
      (call, .error failure) ∈ (SubmitDesk.empty.run inputs).outcomes →
        failure.IsJobStoreError := by
  let _ := samplePrimitives
  intro h
  have hlost : "database_integrity_violation" ∈
      (SubmitDesk.empty.run concurrentSubmissions).databaseErrors := by
    decide
  obtain ⟨call, message, hmem⟩ := SubmitDesk.mem_databaseErrors hlost
  obtain ⟨code, text, hfailure⟩ := h concurrentSubmissions call _ hmem
  cases hfailure

end WebGuard
