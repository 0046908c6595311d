import WebGuard.Store.PermitUse

/-!
# Two checks of a permit

`validate_permit_use` and the SQL statements of the store ask the same of the time and of the
revocation of a permit. The statements leave the authorization, the target and the mode to
`validate_permit_use`, which the executor calls before it runs a job. The claim does not look at
the organisation either: that a job is bound to a permit of its own organisation is an invariant
of the store (`boundInScope_run`), because no call binds it otherwise.
-/

namespace WebGuard

open Relational Atomic Option

variable [Primitives]

variable {s' : Store} {jobId : String}

namespace Store

/-- The scope of a job. -/
def scope (s : Store) (jobId : String) : Option ScopeRow := s.jobScopes.get? ScopeRow.jobId jobId

/-- A job that is bound to a permit has a scope, and the permit is one of its organisation. -/
def BoundInScope (s : Store) : Prop :=
  ∀ j b, s.binding j = some b → (∃ row, s.job j = some row) ∧
    ∃ scope p, s.scope j = some scope ∧ s.permit b.permitId = some p ∧
      p.permitSha256 = b.permitSha256 ∧ p.organizationId = scope.organizationId

/-- Bindings and scopes are as before, and every permit keeps its organisation and its digest. -/
structure KeepsBindings (s s' : Store) : Prop where
  binding : ∀ j, s'.binding j = s.binding j
  scope : ∀ j, s'.scope j = s.scope j
  permit : ∀ id p, s.permit id = some p → ∃ p', s'.permit id = some p' ∧
    p'.permitSha256 = p.permitSha256 ∧ p'.organizationId = p.organizationId

/-- A job was inserted, with a scope and a permit of its organisation if with a permit at all. -/
structure Binds (s s' : Store) (jobId : String) : Prop where
  job : ∃ row, s'.job jobId = some row
  binding : ∀ j, j ≠ jobId → s'.binding j = s.binding j
  scope : ∀ j, j ≠ jobId → s'.scope j = s.scope j
  permit : ∀ id, s'.permit id = s.permit id
  bound : ∀ b, s'.binding jobId = some b → ∃ scope p, s'.scope jobId = some scope ∧
    s.permit b.permitId = some p ∧ p.permitSha256 = b.permitSha256 ∧
      p.organizationId = scope.organizationId

omit [Primitives]

theorem KeepsBindings.refl (s : Store) : s.KeepsBindings s :=
  ⟨fun _ => rfl, fun _ => rfl, fun _ p hp => ⟨p, hp, rfl, rfl⟩⟩

variable {s : Store}

theorem keepsBindings_of_eq (hbindings : s'.jobPermits = s.jobPermits)
    (hscopes : s'.jobScopes = s.jobScopes) (hpermits : s'.scanPermits = s.scanPermits) :
    s.KeepsBindings s' := by
  refine ⟨?_, ?_, ?_⟩
  · intro j
    unfold binding
    rw [hbindings]
  · intro j
    unfold scope
    rw [hscopes]
  · intro id p hp
    refine ⟨p, ?_, rfl, rfl⟩
    unfold permit
    rw [hpermits]
    exact hp

theorem JobsWritten.keepsBindings (h : s.JobsWritten s') : s.KeepsBindings s' := by
  rw [h.frame]
  exact keepsBindings_of_eq rfl rfl rfl

theorem Rescheduled.keepsBindings {row row' : ScheduleRow}
    (h : s.Rescheduled s' row row') : s.KeepsBindings s' := by
  rw [h.frame]
  exact keepsBindings_of_eq rfl rfl rfl

theorem BoundInScope.keep (h : s.BoundInScope) (hkeep : s.KeepsBindings s')
    (hjobs : ∀ j row, s.job j = some row → ∃ row', s'.job j = some row') : s'.BoundInScope := by
  intro j b hb
  rw [hkeep.binding] at hb
  obtain ⟨⟨row, hrow⟩, scope, p, hscope, hp, hdigest, horganization⟩ := h j b hb
  obtain ⟨p', hp', hdigest', horganization'⟩ := hkeep.permit _ p hp
  refine ⟨hjobs j row hrow, scope, p', ?_, hp', hdigest'.trans hdigest,
    horganization'.trans horganization⟩
  rw [hkeep.scope]
  exact hscope

theorem BoundInScope.bind (h : s.BoundInScope) (hbinds : s.Binds s' jobId)
    (hjobs : ∀ j row, s.job j = some row → ∃ row', s'.job j = some row') : s'.BoundInScope := by
  intro j b hb
  by_cases hj : j = jobId
  · subst hj
    obtain ⟨scope, p, hscope, hp, hdigest, horganization⟩ := hbinds.bound b hb
    refine ⟨hbinds.job, scope, p, hscope, ?_, hdigest, horganization⟩
    rw [hbinds.permit]
    exact hp
  · rw [hbinds.binding j hj] at hb
    obtain ⟨⟨row, hrow⟩, scope, p, hscope, hp, hdigest, horganization⟩ := h j b hb
    refine ⟨hjobs j row hrow, scope, p, ?_, ?_, hdigest, horganization⟩
    · rw [hbinds.scope j hj]
      exact hscope
    · rw [hbinds.permit]
      exact hp

theorem insertScope_scope {row : ScopeRow} (h : s.insertScope row = some s') :
    ∀ j, s'.scope j = if j = row.jobId then some row else s.scope j := by
  intro j
  unfold insertScope at h
  split at h
  · obtain ⟨t, ht, rfl⟩ := map_eq_some_iff.mp h
    exact Table.get?_insert ht (by simp)
  · cases h

end Store

/-! ## Calls that keep every binding -/

section

omit [Primitives]

theorem keepsBindings_of_transaction {α β : Type} {s : Store} {body : Store → Answer (β × Store)}
    {finish : β → Store → Answer α} (h : ∀ b s', body s = .ok (b, s') → s.KeepsBindings s') :
    s.KeepsBindings (transaction body finish s).2 := by
  exact transaction_keeps (P := s.KeepsBindings) (.refl s) h

theorem keepsBindings_createScanPermit (s : Store) (permit : PermitRow) :
    s.KeepsBindings (createScanPermit permit s).2 := by
  refine keepsBindings_of_transaction ?_
  intro row s' h
  obtain ⟨t, ht, h⟩ := bind_ok h
  cases h
  rw [found_eq_ok] at ht
  unfold Store.insertPermit at ht
  obtain ⟨permits, hinsert, rfl⟩ := map_eq_some_iff.mp ht
  refine ⟨fun _ => rfl, fun _ => rfl, ?_⟩
  intro id p hp
  refine ⟨p, ?_, rfl, rfl⟩
  have hget := Table.get?_insert hinsert (c := PermitRow.permitId) (by simp) (k := id)
  unfold Store.permit
  rw [hget, if_neg]
  · exact hp
  · rintro rfl
    have hfresh := Table.not_mem_of_insert hinsert (c := PermitRow.permitId) (by simp)
    unfold Store.permit at hp
    rw [hfresh] at hp
    cases hp

theorem keepsBindings_revokeScanPermitScoped (s : Store)
    (permitId organizationId revokedBy : String)
    (now : Nat) :
    s.KeepsBindings (revokeScanPermitScoped permitId organizationId revokedBy now s).2 := by
  refine keepsBindings_of_transaction ?_
  intro row s' h
  obtain ⟨_, -, h⟩ := bind_ok h
  obtain ⟨_, -, h⟩ := bind_ok h
  cases h
  refine ⟨fun _ => rfl, fun _ => rfl, ?_⟩
  intro id p hp
  unfold Store.permit at hp ⊢
  simp only
  rw [Table.get?_update_self (by simp)]
  split
  · next heq =>
    subst heq
    rw [hp, map_some]
    split
    · exact ⟨_, rfl, rfl, rfl⟩
    · exact ⟨p, rfl, rfl, rfl⟩
  · exact ⟨p, hp, rfl, rfl⟩

end

theorem createScheduleBody_permits {scheduleId : String} {request : ScheduleRequest}
    {permitId permitSha256 : Option String} {now : Nat} {s : Store} {record : ScanScheduleRecord}
    (h : createScheduleBody scheduleId request permitId permitSha256 now s = .ok (record, s')) :
    s'.scanPermits = s.scanPermits := by
  unfold createScheduleBody at h
  obtain ⟨_, -, h⟩ := bind_ok h
  obtain ⟨_, -, h⟩ := bind_ok h
  obtain ⟨s₁, h₁, h⟩ := bind_ok h
  obtain ⟨s₂, h₂, h⟩ := bind_ok h
  cases h
  rw [found_eq_ok] at h₁
  unfold Store.insertSchedule at h₁
  obtain ⟨t, -, rfl⟩ := map_eq_some_iff.mp h₁
  unfold Store.bindSchedulePermit at h₂
  split at h₂
  · obtain ⟨_, -, h₂⟩ := bind_ok h₂
    rw [found_eq_ok] at h₂
    unfold Store.insertSchedulePermit at h₂
    split at h₂
    · obtain ⟨t', -, rfl⟩ := map_eq_some_iff.mp h₂
      rfl
    · cases h₂
  · cases h₂
    rfl

theorem keepsBindings_createSchedule (s : Store) (scheduleId : String) (request : ScheduleRequest)
    (permitId permitSha256 : Option String) (now : Nat) :
    s.KeepsBindings (createSchedule scheduleId request permitId permitSha256 now s).2 := by
  refine keepsBindings_of_transaction ?_
  intro record s' h
  obtain ⟨-, -, -, -, hbindings, hscopes⟩ := createScheduleBody_ok h
  exact Store.keepsBindings_of_eq hbindings hscopes (createScheduleBody_permits h)

/-! ## Calls that bind a job -/

omit [Primitives] in
theorem binds_of_inserts {s s₁ s₂ s₃ : Store} {row : JobRow}
    {organizationId submittedBy permitId permitSha256 : Option String}
    (hjob : s.insertJob row = some s₁)
    (hscope : s₁.bindScope row.jobId organizationId submittedBy = .ok s₂)
    (hpermit : s₂.bindPermit row.jobId organizationId permitId permitSha256 = .ok s₃)
    (hunbound : s.binding row.jobId = none)
    (harguments : organizationId.isSome = submittedBy.isSome) : s.Binds s₃ row.jobId := by
  obtain ⟨hinserted, hbindings₁, hscopes₁, hpermits₁, -⟩ := Store.inserted_of_insertJob hjob
  have hnew : ∃ row', s₃.job row.jobId = some row' := by
    have := ((hinserted.bindScope hscope).bindPermit hpermit).job row.jobId
    rw [if_pos rfl] at this
    exact ⟨row, this⟩
  have hframe₂ : s₂.jobPermits = s.jobPermits ∧ s₂.scanPermits = s.scanPermits ∧
      (∀ j, j ≠ row.jobId → s₂.scope j = s.scope j) ∧
      ∀ organization, organizationId = some organization →
        ∃ scope, s₂.scope row.jobId = some scope ∧ scope.organizationId = organization := by
    have hbefore : ∀ j, s₁.scope j = s.scope j := by
      intro j
      unfold Store.scope
      rw [hscopes₁]
    unfold Store.bindScope at hscope
    split at hscope
    · next organization principal =>
      rw [found_eq_ok] at hscope
      obtain ⟨-, hbindings₂, -, hpermits₂, -⟩ := Store.insertScope_frame hscope
      have hget := Store.insertScope_scope hscope
      refine ⟨hbindings₂.trans hbindings₁, hpermits₂.trans hpermits₁, ?_, ?_⟩
      · intro j hj
        rw [hget j, if_neg hj, hbefore]
      · intro other hother
        cases hother
        exact ⟨_, by rw [hget, if_pos rfl], rfl⟩
    · next hnone =>
      cases hscope
      refine ⟨hbindings₁, hpermits₁, fun j _ => hbefore j, ?_⟩
      intro organization horganization
      subst horganization
      obtain ⟨principal, hprincipal⟩ := isSome_iff_exists.mp harguments.symm
      exact absurd hprincipal (hnone organization principal rfl)
  obtain ⟨hbindings₂, hpermits₂, hscopes₂, horganization₂⟩ := hframe₂
  have hpermitRow : ∀ id, s₂.permit id = s.permit id := by
    intro id
    unfold Store.permit
    rw [hpermits₂]
  have hbindingRow : ∀ j, s₂.binding j = s.binding j := by
    intro j
    unfold Store.binding
    rw [hbindings₂]
  unfold Store.bindPermit at hpermit
  split at hpermit
  · next permit digest =>
    obtain ⟨_, hrequire, hpermit⟩ := bind_ok hpermit
    rw [found_eq_ok] at hpermit
    obtain ⟨-, hscopes₃, -, hpermits₃, -, -, hget⟩ := Store.insertJobPermit_frame hpermit
    have hscopeRow : ∀ j, s₃.scope j = s₂.scope j := by
      intro j
      unfold Store.scope
      rw [hscopes₃]
    refine ⟨hnew, ?_, ?_, ?_, ?_⟩
    · intro j hj
      rw [hget j, if_neg hj, hbindingRow]
    · intro j hj
      rw [hscopeRow, hscopes₂ j hj]
    · intro id
      rw [← hpermitRow]
      unfold Store.permit
      rw [hpermits₃]
    · intro b hb
      rw [hget, if_pos rfl] at hb
      cases hb
      unfold Store.requirePermit at hrequire
      rw [ensure_eq_ok, any_eq_true] at hrequire
      obtain ⟨p, hp, hmatch⟩ := hrequire
      rw [Bool.and_eq_true, beq_iff_eq, beq_iff_eq] at hmatch
      obtain ⟨scope, hscope, hsame⟩ := horganization₂ p.organizationId hmatch.1.symm
      refine ⟨scope, p, ?_, ?_, hmatch.2, hsame.symm⟩
      · rw [hscopeRow]
        exact hscope
      · rw [← hpermitRow]
        exact hp
  · cases hpermit
    refine ⟨hnew, fun j _ => hbindingRow j, hscopes₂, hpermitRow, ?_⟩
    intro b hb
    rw [hbindingRow, hunbound] at hb
    cases hb

variable {s : Store}

omit [Primitives] in
theorem binding_of_fresh (hs : s.BoundInScope) (hfresh : s.job jobId = none) :
    s.binding jobId = none := by
  cases hbinding : s.binding jobId with
  | none => rfl
  | some b =>
    obtain ⟨⟨row, hrow⟩, -⟩ := hs jobId b hbinding
    rw [hfresh] at hrow
    cases hrow

theorem binds_submit (hs : s.BoundInScope) (request : ScanJobRequest) (jobId : String)
    (organizationId submittedBy permitId permitSha256 : Option String) :
    (submit request jobId organizationId submittedBy permitId permitSha256 s).2 = s ∨
      ∃ j, s.Binds (submit request jobId organizationId submittedBy permitId permitSha256 s).2
        j := by
  rcases transaction_state (submitBody request jobId organizationId submittedBy permitId
    permitSha256) (fun answer _ => .ok answer) s with h | ⟨answer, h⟩
  · exact Or.inl h
  · change submitBody request jobId organizationId submittedBy permitId permitSha256 s =
      .ok (answer, (submit request jobId organizationId submittedBy permitId permitSha256 s).2) at h
    generalize (submit request jobId organizationId submittedBy permitId permitSha256 s).2 = s' at h
    unfold submitBody at h
    obtain ⟨_, harguments, h⟩ := bind_ok h
    obtain ⟨record, -, h⟩ := bind_ok h
    split at h
    · obtain ⟨_, -, h⟩ := bind_ok h
      cases h
      exact Or.inl rfl
    · obtain ⟨s₁, h₁, h⟩ := bind_ok h
      obtain ⟨s₂, h₂, h⟩ := bind_ok h
      obtain ⟨s₃, h₃, h⟩ := bind_ok h
      cases h
      rw [found_eq_ok] at h₁
      unfold submitArguments at harguments
      obtain ⟨_, hscope, -⟩ := bind_ok harguments
      rw [ensure_eq_ok, beq_iff_eq] at hscope
      have hfresh := (Store.inserted_of_insertJob h₁).1.fresh
      exact Or.inr ⟨_, binds_of_inserts h₁ h₂ h₃ (binding_of_fresh hs hfresh) hscope⟩

theorem binds_enqueueWrite (hs : s.BoundInScope) {request : EnqueueRequest}
    {schedule : ScanScheduleRecord} {now : Nat} {answer : Option (ScheduleRow × ScanJobRecord)}
    (hforce : s.permitInForce request.permitId schedule.organizationId request.permitSha256 now
      = true) (h : enqueueWrite request schedule jobId now s = .ok (answer, s')) :
    s' = s ∨ ∃ j, s.Binds s' j := by
  unfold enqueueWrite at h
  obtain ⟨jobRequest, -, h⟩ := bind_ok h
  obtain ⟨record, -, h⟩ := bind_ok h
  obtain ⟨s₁, h₁, h⟩ := bind_ok h
  obtain ⟨s₂, h₂, h⟩ := bind_ok h
  obtain ⟨s₃, h₃, h⟩ := bind_ok h
  obtain ⟨nextRunAt, -, h⟩ := bind_ok h
  rw [found_eq_ok] at h₁ h₂ h₃
  simp only at h
  split at h
  · cases h
    exact Or.inl rfl
  · next hcount =>
    obtain ⟨read, -, h⟩ := bind_ok h
    cases h
    -- The writes are those of a submission that names the schedule's organisation.
    have hscope : s₁.bindScope record.jobId (some schedule.organizationId)
        (some schedule.createdBy) = .ok s₂ := by
      simp only [Store.bindScope, found_eq_ok]
      exact h₂
    obtain ⟨-, -, -, hpermits₁, -⟩ := Store.inserted_of_insertJob h₁
    obtain ⟨-, -, -, hpermits₂, -⟩ := Store.insertScope_frame h₂
    have hpermit : s₂.bindPermit record.jobId (some schedule.organizationId)
        (some request.permitId) (some request.permitSha256) = .ok s₃ := by
      unfold Store.permitInForce at hforce
      rw [any_eq_true] at hforce
      obtain ⟨p, hp, hmatch⟩ := hforce
      simp only [Bool.and_eq_true, beq_iff_eq] at hmatch
      have hrequire : s₂.requirePermit request.permitId request.permitSha256
          (some schedule.organizationId) = .ok () := by
        unfold Store.requirePermit
        rw [ensure_eq_ok, any_eq_true]
        refine ⟨p, ?_, by simp [hmatch]⟩
        rw [hpermits₂, hpermits₁]
        exact hp
      simp only [Store.bindPermit]
      rw [hrequire]
      exact found_eq_ok.mpr h₃
    have hfresh := (Store.inserted_of_insertJob h₁).1.fresh
    have hbinds := binds_of_inserts h₁ hscope hpermit (binding_of_fresh hs hfresh) rfl
    exact Or.inr ⟨_, ⟨hbinds.job, hbinds.binding, hbinds.scope, hbinds.permit, hbinds.bound⟩⟩

theorem binds_enqueueDueSchedule (hs : s.BoundInScope) (request : EnqueueRequest)
    (jobId : String) (now : Nat) :
    (enqueueDueSchedule request jobId now s).2 = s ∨
      ∃ j, s.Binds (enqueueDueSchedule request jobId now s).2 j := by
  rcases transaction_state (enqueueDueScheduleBody request jobId now)
    (fun answer _ => answer.elim (.ok none) fun written =>
      (scheduleFromRow written.1).map (fun schedule => some (schedule, written.2))) s
    with h | ⟨answer, h⟩
  · exact Or.inl h
  · change enqueueDueScheduleBody request jobId now s =
      .ok (answer, (enqueueDueSchedule request jobId now s).2) at h
    generalize (enqueueDueSchedule request jobId now s).2 = s' at h
    unfold enqueueDueScheduleBody at h
    split at h
    · cases h
      exact Or.inl rfl
    · obtain ⟨schedule, -, h⟩ := bind_ok h
      split at h
      · cases h
        exact Or.inl rfl
      split at h
      · cases h
        exact Or.inl rfl
      obtain ⟨_, -, h⟩ := bind_ok h
      split at h
      · cases h
        exact Or.inl rfl
      next hforce =>
      rw [Bool.not_eq_true', Bool.not_eq_false] at hforce
      exact binds_enqueueWrite hs hforce h

/-! ## Runs -/

theorem boundInScope_apply (hs : s.BoundInScope) (op : Op) :
    (s.apply op).BoundInScope := by
  have hjobs : ∀ j row, s.job j = some row → ∃ row', (s.apply op).job j = some row' := by
    intro j row hrow
    obtain ⟨row', hrow', -⟩ := job_apply_isSome hrow op
    exact ⟨row', hrow'⟩
  have hkeep : s.KeepsBindings (s.apply op) → (s.apply op).BoundInScope :=
    fun h => hs.keep h hjobs
  have hbind : ∀ {s' : Store}, s.apply op = s' → (s' = s ∨ ∃ j, s.Binds s' j) →
      (s.apply op).BoundInScope := by
    rintro s' heq (hsame | ⟨j, hbinds⟩)
    · rw [heq, hsame]
      exact hs
    · rw [heq] at hjobs ⊢
      exact hs.bind hbinds hjobs
  cases op with
  | createScanPermit permit => exact hkeep (keepsBindings_createScanPermit s permit)
  | revokeScanPermitScoped permitId organizationId revokedBy now =>
    exact hkeep (keepsBindings_revokeScanPermitScoped s permitId organizationId revokedBy now)
  | assignAuthorizations assignments => exact hkeep (Store.keepsBindings_of_eq rfl rfl rfl)
  | submit request jobId organizationId submittedBy permitId permitSha256 =>
    exact hbind rfl (binds_submit hs request jobId organizationId submittedBy permitId permitSha256)
  | createSchedule scheduleId request permitId permitSha256 now =>
    exact hkeep (keepsBindings_createSchedule s scheduleId request permitId permitSha256 now)
  | setScheduleState scheduleId organizationId state now nextRunAt =>
    refine hkeep (keepsBindings_of_transaction ?_)
    intro read s' h
    obtain ⟨row, -, hrescheduled⟩ := setScheduleStateBody_ok h
    exact hrescheduled.keepsBindings
  | enqueueDueSchedule request jobId now =>
    exact hbind rfl (binds_enqueueDueSchedule hs request jobId now)
  | blockDueSchedule scheduleId expectedRevision errorCode now =>
    refine hkeep (keepsBindings_of_transaction ?_)
    intro answer s' h
    rcases blockDueScheduleBody_ok h with ⟨-, rfl⟩ | ⟨row, -, -, -, hrescheduled⟩
    · exact Store.KeepsBindings.refl _
    · exact hrescheduled.keepsBindings
  | _ => exact hkeep (jobsWritten_apply s rfl).keepsBindings

theorem boundInScope_run (ops : List Op) : (Store.empty.run ops).BoundInScope := by
  refine Runs.run_induction (P := Store.BoundInScope) ?_ ?_ ops
  · intro s op hs
    exact boundInScope_apply hs op
  · intro j b hb
    cases hb

/-! ## The checks compared -/

namespace Store

omit [Primitives]

variable {s : Store} {now : Nat} {p : PermitRow}

theorem schedulePermitText_iff (hp : s.permit p.permitId = some p)
    {organizationId permitSha256 : String} :
    s.schedulePermitText p.permitId organizationId permitSha256 now = true ↔
      p.organizationId = organizationId ∧ p.permitSha256 = permitSha256 ∧
        p.inForceText now = true := by
  have hany := any_permit hp fun q =>
    q.organizationId == organizationId && q.permitSha256 == permitSha256 && q.inForceText now
  unfold schedulePermitText
  simp only [Bool.and_assoc] at hany ⊢
  rw [hany]
  simp

theorem claimPermitText_iff (hp : s.permit p.permitId = some p) {binding : JobPermitRow}
    (hid : binding.permitId = p.permitId) (hdigest : p.permitSha256 = binding.permitSha256) :
    s.claimPermitText binding now = true ↔
      p.inForceText now = true ∧ s.permitRunning p.permitId = false := by
  have hany := any_permit hp fun q => q.permitSha256 == binding.permitSha256 && q.inForceText now
  unfold claimPermitText
  rw [hid]
  simp only [Bool.and_assoc] at hany ⊢
  rw [hany]
  simp [hdigest]

theorem permitClaimable_eq (hp : s.permit p.permitId = some p) (hdated : p.Dated)
    (hnow : now < datetimeEnd) {row : JobRow} {binding : JobPermitRow}
    (hbinding : s.binding row.jobId = some binding) (hid : binding.permitId = p.permitId) :
    s.permitClaimable now row = s.claimPermitText binding now := by
  have hmodel := any_permit hp fun q => q.permitSha256 == binding.permitSha256
    && q.revokedAt.isNone && q.notBefore ≤ now && now < q.expiresAt
  have htext := any_permit hp fun q => q.permitSha256 == binding.permitSha256 && q.inForceText now
  have hforce : (p.revokedAt.isNone && p.notBefore ≤ now && decide (now < p.expiresAt)) =
      p.inForceText now := by
    rw [Bool.eq_iff_iff, PermitRow.inForceText_iff hdated hnow]
    simp [and_assoc]
  unfold permitClaimable claimPermitText
  rw [hbinding]
  simp only [hid, Bool.and_assoc] at hmodel htext hforce ⊢
  rw [hmodel, htext, hforce]

theorem permitInForce_eq (hp : s.permit p.permitId = some p) (hdated : p.Dated)
    (hnow : now < datetimeEnd) (organizationId permitSha256 : String) :
    s.permitInForce p.permitId organizationId permitSha256 now =
      s.schedulePermitText p.permitId organizationId permitSha256 now := by
  unfold permitInForce
  have hget : s.scanPermits.get? PermitRow.permitId p.permitId = some p := hp
  rw [hget, Bool.eq_iff_iff, schedulePermitText_iff hp, PermitRow.inForceText_iff hdated hnow]
  simp [and_assoc]

end Store

/--
**The two checks of a permit agree on its time, its revocation and its organisation.**

For a permit of a store that calls can reach, and a signature that verifies: a use is allowed
exactly in scope and while the SQL condition holds of the columns; the statement for a schedule
asks for that condition, the organisation and the digest; the statement for a bound job asks for
that condition and that nothing runs under the permit, and the job is one of the permit's
organisation. So a job is claimed only under a permit that is active and of its organisation.
-/
theorem permit_checks_agree (ops : List Op) {permit : PersistedTrustScanPermit} {now : Nat}
    (hstored : (Store.empty.run ops).permit permit.row.permitId = some permit.row)
    (hdated : permit.row.Dated) (hnow : now < datetimeEnd) :
    (∀ organizationId authorization target mode,
      permit.validateUse (.ok ()) organizationId authorization target mode now = .ok () ↔
        permit.InScope organizationId authorization target mode ∧
          permit.row.inForceText now = true) ∧
    (∀ organizationId permitSha256,
      (Store.empty.run ops).permitInForce permit.row.permitId organizationId permitSha256 now =
          (Store.empty.run ops).schedulePermitText permit.row.permitId organizationId permitSha256
            now ∧
        ((Store.empty.run ops).schedulePermitText permit.row.permitId organizationId permitSha256
          now = true ↔ permit.row.organizationId = organizationId ∧
            permit.row.permitSha256 = permitSha256 ∧ permit.row.inForceText now = true)) ∧
    ∀ row binding, (Store.empty.run ops).binding row.jobId = some binding →
      binding.permitId = permit.row.permitId →
      (Store.empty.run ops).permitClaimable now row =
          (Store.empty.run ops).claimPermitText binding now ∧
        ((Store.empty.run ops).claimPermitText binding now = true ↔
          permit.row.inForceText now = true ∧
            (Store.empty.run ops).permitRunning permit.row.permitId = false) ∧
        ∃ scope, (Store.empty.run ops).scope row.jobId = some scope ∧
          scope.organizationId = permit.row.organizationId ∧
          ((Store.empty.run ops).claimable now row = true → permit.stateAt now = .active) := by
  refine ⟨?_, ?_, ?_⟩
  · intro organizationId authorization target mode
    exact PersistedTrustScanPermit.validateUse_eq_ok hdated hnow
  · intro organizationId permitSha256
    exact ⟨Store.permitInForce_eq hstored hdated hnow organizationId permitSha256,
      Store.schedulePermitText_iff hstored⟩
  · intro row binding hbinding hid
    obtain ⟨-, scope, p, hscope, hp, hdigest, horganization⟩ :=
      boundInScope_run ops row.jobId binding hbinding
    rw [hid, hstored] at hp
    cases hp
    have hclaim := Store.permitClaimable_eq hstored hdated hnow hbinding hid
    have htext : (Store.empty.run ops).claimPermitText binding now = true ↔ _ :=
      Store.claimPermitText_iff hstored hid hdigest
    refine ⟨hclaim, htext, scope, hscope, horganization.symm, ?_⟩
    intro hclaimable
    rw [PersistedTrustScanPermit.stateAt_eq_active hdated hnow]
    obtain ⟨-, -, -, hpermit⟩ := Store.claimable_iff.mp hclaimable
    rw [hclaim, htext] at hpermit
    exact hpermit.1

def boundJobOps : List (@Op samplePrimitives) :=
  letI := samplePrimitives
  [.createScanPermit samplePermit,
    .submit sampleRequest sampleJobId (some sampleOrganizationId) (some samplePrincipalId)
      (some samplePermit.permitId) (some samplePermit.permitSha256)]

def sampleAuthorization : AuthorizationReference where
  authorizationId := samplePermit.authorizationId
  fingerprint := samplePermit.authorizationSha256
  target := samplePermit.target

omit [Primitives] in
/-- The use of the sample permit by its own organisation. -/
theorem permit_checks_agree_active :
    letI := samplePrimitives
    (Store.empty.run boundJobOps).permit samplePermit.permitId = some samplePermit ∧
      (⟨samplePermit, [.singlePage]⟩ : PersistedTrustScanPermit).validateUse (.ok ())
        sampleOrganizationId sampleAuthorization "https://example.com/" .singlePage 200 =
          .ok () := by
  let _ := samplePrimitives
  have hstored : (Store.empty.run boundJobOps).permit samplePermit.permitId = some samplePermit := by
    decide
  have hdated : samplePermit.Dated := ⟨by decide, by decide⟩
  have hagree : (∀ organizationId authorization target mode,
      (⟨samplePermit, [.singlePage]⟩ : PersistedTrustScanPermit).validateUse (.ok ())
        organizationId authorization target mode 200 = .ok () ↔ _) ∧ _ :=
    permit_checks_agree boundJobOps hstored hdated (by decide)
  refine ⟨hstored, (hagree.1 _ _ _ _).mpr ⟨⟨rfl, rfl, rfl, ⟨rfl, rfl⟩, by decide⟩, ?_⟩⟩
  decide

omit [Primitives] in
/-- A job of a mode that its permit does not list is claimable, and its use is refused. -/
theorem claimable_in_refused_mode :
    letI := samplePrimitives
    ∃ row binding, (Store.empty.run boundJobOps).job sampleJobId = some row ∧
      (Store.empty.run boundJobOps).binding sampleJobId = some binding ∧
      binding.permitId = samplePermit.permitId ∧
      (Store.empty.run boundJobOps).claimable 200 row = true ∧
      (⟨samplePermit, [.crawl]⟩ : PersistedTrustScanPermit).validateUse (.ok ())
        sampleOrganizationId sampleAuthorization row.target row.mode 200 =
          .error ⟨"trustscan_permit_mode_not_allowed",
            "Requested scan mode is not allowed by the TrustScan permit."⟩ := by
  let _ := samplePrimitives
  refine ⟨_, _, rfl, rfl, rfl, ?_, ?_⟩
  · decide
  · decide

end WebGuard
