import WebGuard.Postgres.ScheduleRepository
import WebGuard.Properties.Readable

/-!
# Corresponding databases

When a SQLite database and a PostgreSQL database hold the same jobs, permits, schedules and
assignments (`Corresponds`). The two keep a job's tenant in different places, and neither table
has an order of rows that counts, so the relation is about lookups.

`Store.Regular` is what the store's own writes establish and its foreign keys guard: the rows
decode, a scope, a binding or a receipt belongs to a job, and a receipt to a finished one.

The lemmas carry the conditions that the two claims and the two recoveries look at from one
database to the other.
-/

namespace WebGuard

open Relational Atomic List

/-! ## The relation -/

/-- The tenant of a job, from `job_scopes`. -/
def Store.organization (s : Store) (jobId : String) : Option String :=
  (s.jobScopes.get? ScopeRow.jobId jobId).map (·.organizationId)

/-- The row as PostgreSQL has it. -/
def Store.pgRow (s : Store) (row : JobRow) : PgJobRow where
  toJobRow := row
  organizationId := s.organization row.jobId

structure Corresponds (s : Store) (p : PgStore) : Prop where
  jobs : ∀ j, p.job j = (s.job j).map s.pgRow
  bindings : ∀ j, p.binding j = s.binding j
  permits : ∀ k, p.scanPermits.get? PermitRow.permitId k
    = s.scanPermits.get? PermitRow.permitId k
  schedules : ∀ k, p.schedule k = s.schedule k
  schedulePermits : ∀ k, p.schedulePermits.get? SchedulePermitRow.scheduleId k
    = s.schedulePermits.get? SchedulePermitRow.scheduleId k
  receipts : ∀ j, p.jobSafetyReceipts.get? SafetyReceiptRow.jobId j
    = s.jobSafetyReceipts.get? SafetyReceiptRow.jobId j
  assignments : ∃ assigned, s.organizationAuthorizations = some assigned ∧
    ∀ a, a ∈ p.organizationAuthorizations ↔ a ∈ assigned

section

variable [Primitives]

/-- The checks of `ScanScheduleRecord` on the columns of the row, with its target canonical. -/
structure ScanScheduleRecordFields.Sound (row : ScheduleRow) : Prop where
  scheduleId : isCanonicalUuid row.scheduleId = true
  organizationId : isCanonicalUuid row.organizationId = true
  createdBy : isCanonicalUuid row.createdBy = true
  name : ∃ c, requiredText "scan_schedule" row.name "name" 120 = .ok c
  target : Primitives.canonicalizeOwnedTargetUrl row.target = .ok row.target
  authorizationId : isCanonicalUuid row.authorizationId = true
  authorizationSha256 : isSha256 row.authorizationSha256 = true
  intervalSeconds : 3600 ≤ row.intervalSeconds ∧ row.intervalSeconds ≤ 31536000
  updatedAt : row.createdAt ≤ row.updatedAt
  lastJobId : ∀ v, row.lastJobId = some v → isCanonicalUuid v = true
  lastErrorCode : ∃ c, errorCode "scan_schedule" row.lastErrorCode "last_error_code" = .ok c
  lastErrorAt : row.lastErrorCode.isSome = row.lastErrorAt.isSome

theorem ScanScheduleRecordFields.Sound.postInit_eq {row : ScheduleRow} (h : row.Sound)
    {name : String} {code : Option String}
    (hname : requiredText "scan_schedule" row.name "name" 120 = .ok name)
    (hcode : errorCode "scan_schedule" row.lastErrorCode "last_error_code" = .ok code) :
    row.postInit = .ok { row with name := name, lastErrorCode := code } := by
  have hjob : row.lastJobId.mapM (canonicalUuid "scan_schedule" · "last_job_id")
      = .ok row.lastJobId := by
    cases hlast : row.lastJobId with
    | none => rfl
    | some v =>
      have hv : canonicalUuid "scan_schedule" v "last_job_id" = .ok v :=
        canonicalUuid_eq_ok.mpr ⟨rfl, h.lastJobId v hlast⟩
      exact bind_ok_iff.mpr ⟨v, hv, rfl⟩
  refine ScanScheduleRecordFields.postInit_eq_ok.mpr ⟨h.scheduleId, h.organizationId, h.createdBy,
    hname, h.target, h.authorizationId, h.authorizationSha256, h.intervalSeconds, h.updatedAt, hjob,
    hcode, ?_, rfl⟩
  rw [isSome_of_errorCode hcode, h.lastErrorAt]

theorem ScanScheduleRecordFields.Sound.scheduleFromRow {row : ScheduleRow} (h : row.Sound) :
    ∃ name code built, WebGuard.scheduleFromRow row = .ok
      { toScanScheduleRecordFields := { row with name := name, lastErrorCode := code }
        built := built } := by
  obtain ⟨name, hname⟩ := h.name
  obtain ⟨code, hcode⟩ := h.lastErrorCode
  have hpost := h.postInit_eq hname hcode
  refine ⟨name, code, ⟨row, hpost⟩, ?_⟩
  unfold WebGuard.scheduleFromRow
  rw [checked_eq_ok, ScanScheduleRecord.new_eq_ok]
  exact hpost

structure Store.Regular (s : Store) : Prop where
  jobs : ∀ j row, s.job j = some row → row.Sound
  schedules : ∀ k row, s.schedule k = some row → ScanScheduleRecordFields.Sound row
  scopes : ∀ j scope, s.jobScopes.get? ScopeRow.jobId j = some scope → (s.job j).isSome = true
  bindings : ∀ j binding, s.binding j = some binding → (s.job j).isSome = true
  receipts : ∀ j receipt, s.jobSafetyReceipts.get? SafetyReceiptRow.jobId j = some receipt →
    ∃ row, s.job j = some row ∧ row.state.isTerminal = true

end

/-! ## Rows and lookups -/

theorem argmin_eq_some {α β : Type} [LinearOrder β] {f : α → β} {l : List α} {a : α} (ha : a ∈ l)
    (hleast : ∀ b ∈ l, f a ≤ f b) (hinj : ∀ b ∈ l, f b = f a → b = a) : l.argmin f = some a := by
  cases hmin : l.argmin f with
  | none =>
    rw [argmin_eq_none] at hmin
    rw [hmin] at ha
    cases ha
  | some m =>
    have hm := argmin_mem (Option.mem_def.mpr hmin)
    have hle := le_of_mem_argmin ha (Option.mem_def.mpr hmin)
    rw [hinj m hm (le_antisymm hle (hleast m hm))]

variable {row : JobRow} {jobId : String}

namespace Corresponds

variable {s s' : Store} {p p' : PgStore}

theorem job_eq_some (h : Corresponds s p) {j : String} (hrow : s.job j = some row) :
    p.job j = some (s.pgRow row) := by
  rw [h.jobs, hrow, Option.map_some]

theorem exists_job (h : Corresponds s p) {j : String} {r : PgJobRow} (hr : p.job j = some r) :
    ∃ row, s.job j = some row ∧ r = s.pgRow row := by
  rw [h.jobs] at hr
  obtain ⟨row, hrow, heq⟩ := Option.map_eq_some_iff.mp hr
  exact ⟨row, hrow, heq.symm⟩

theorem mem_rows_iff (h : Corresponds s p) {r : PgJobRow} :
    r ∈ p.scanJobs.rows ↔ ∃ row ∈ s.scanJobs.rows, r = s.pgRow row := by
  constructor
  · intro hr
    obtain ⟨row, hrow, heq⟩ := h.exists_job (PgStore.job_eq_some_iff.mpr ⟨hr, rfl⟩)
    exact ⟨row, (Store.job_eq_some_iff.mp hrow).1, heq⟩
  · rintro ⟨row, hrow, rfl⟩
    exact (PgStore.job_eq_some_iff.mp
      (h.job_eq_some (Store.job_eq_some_iff.mpr ⟨hrow, rfl⟩))).1

/-! ## Claims -/

theorem permitRunning_eq (h : Corresponds s p) (permitId : String) :
    p.permitRunning permitId = s.permitRunning permitId := by
  unfold PgStore.permitRunning Store.permitRunning
  rw [Bool.eq_iff_iff, any_eq_true, any_eq_true]
  constructor
  · rintro ⟨r, hr, hrunning⟩
    obtain ⟨row, hrow, rfl⟩ := h.mem_rows_iff.mp hr
    refine ⟨row, hrow, ?_⟩
    rw [h.bindings] at hrunning
    exact hrunning
  · rintro ⟨row, hrow, hrunning⟩
    refine ⟨s.pgRow row, h.mem_rows_iff.mpr ⟨row, hrow, rfl⟩, ?_⟩
    rw [h.bindings]
    exact hrunning

theorem scopeAuthorized_eq (h : Corresponds s p) (row : JobRow) :
    (s.pgRow row).organizationId.all (fun organization =>
      p.organizationAuthorizations.contains (organization, row.authorizationId))
      = s.scopeAuthorized row := by
  obtain ⟨assigned, hassigned, hmem⟩ := h.assignments
  unfold Store.scopeAuthorized Store.pgRow Store.organization
  rw [hassigned]
  cases s.jobScopes.get? ScopeRow.jobId row.jobId with
  | none => rfl
  | some scope =>
    simp only [Option.map_some, Option.all_some]
    rw [Bool.eq_iff_iff, contains_iff_mem, contains_iff_mem]
    exact hmem _

theorem permitClaimable_eq (h : Corresponds s p) (now : Nat) (row : JobRow) :
    (p.binding row.jobId).all (fun binding =>
      (p.scanPermits.rows.any fun permit =>
        permit.permitId == binding.permitId && permit.permitSha256 == binding.permitSha256
          && permit.revokedAt.isNone && permit.notBefore ≤ now && now < permit.expiresAt)
        && !p.permitRunning binding.permitId)
      = s.permitClaimable now row := by
  unfold Store.permitClaimable
  rw [h.bindings]
  cases s.binding row.jobId with
  | none => rfl
  | some binding =>
    simp only [Option.all_some, h.permitRunning_eq, Bool.and_assoc]
    rw [Table.any_rows_eq _ (by simp), Table.any_rows_eq _ (by simp), h.permits]

theorem claimable_eq (h : Corresponds s p) (now : Nat) (row : JobRow) :
    p.claimable now (s.pgRow row) = s.claimable now row := by
  have hpermit := h.permitClaimable_eq now row
  have hscope := h.scopeAuthorized_eq row
  unfold PgStore.claimable Store.claimable
  rw [← hpermit, ← hscope]
  rfl

theorem selectClaimable_eq (h : Corresponds s p) (now : Nat) :
    p.selectClaimable now = (s.selectClaimableRow now).map s.pgRow := by
  unfold PgStore.selectClaimable
  cases hselect : s.selectClaimableRow now with
  | none =>
    unfold Store.selectClaimableRow at hselect
    rw [argmin_eq_none, filter_eq_nil_iff] at hselect
    rw [Option.map_none, argmin_eq_none, filter_eq_nil_iff]
    intro r hr
    obtain ⟨row, hrow, rfl⟩ := h.mem_rows_iff.mp hr
    rw [h.claimable_eq]
    exact hselect row hrow
  | some row =>
    obtain ⟨hjob, hclaim⟩ := Store.selectClaimableRow_spec hselect
    have hmem := (Store.job_eq_some_iff.mp hjob).1
    refine argmin_eq_some ?_ ?_ ?_
    · rw [mem_filter, h.claimable_eq]
      exact ⟨h.mem_rows_iff.mpr ⟨row, hmem, rfl⟩, hclaim⟩
    · intro r hr
      rw [mem_filter] at hr
      obtain ⟨other, hother, rfl⟩ := h.mem_rows_iff.mp hr.1
      rw [h.claimable_eq] at hr
      exact le_of_mem_argmin (f := fun r : JobRow => toLex (r.submittedAt, r.jobId))
        (mem_filter.mpr ⟨hother, hr.2⟩) (Option.mem_def.mpr hselect)
    · -- The identifier is part of the key, and tells the rows apart.
      intro r hr heq
      rw [mem_filter] at hr
      have hid : r.id = (s.pgRow row).id := (Prod.mk.inj (toLex.injective heq)).2
      have hr' := PgStore.job_eq_some_iff.mpr ⟨hr.1, hid⟩
      have hrow' := PgStore.job_eq_some_iff.mpr ⟨h.mem_rows_iff.mpr ⟨row, hmem, rfl⟩, rfl⟩
      rw [hrow'] at hr'
      exact (Option.some.inj hr').symm

/-! ## Writes -/

theorem of_jobs (h : Corresponds s p)
    (hs : s' = { s with scanJobs := s'.scanJobs, jobSafetyReceipts := s'.jobSafetyReceipts })
    (hp : p' = { p with scanJobs := p'.scanJobs, jobSafetyReceipts := p'.jobSafetyReceipts })
    (hjobs : ∀ j, p'.job j = (s'.job j).map s.pgRow)
    (hreceipts : ∀ j, p'.jobSafetyReceipts.get? SafetyReceiptRow.jobId j
      = s'.jobSafetyReceipts.get? SafetyReceiptRow.jobId j) : Corresponds s' p' := by
  have hrow : s'.pgRow = s.pgRow := by
    rw [hs]
    rfl
  refine ⟨?_, ?_, ?_, ?_, ?_, hreceipts, ?_⟩
  · rw [hrow]
    exact hjobs
  all_goals rw [hs, hp]
  · exact h.bindings
  · exact h.permits
  · exact h.schedules
  · exact h.schedulePermits
  · exact h.assignments

theorem replaced (h : Corresponds s p) {row row' : JobRow} (hs : s.Replaced s' row row')
    (hid : row'.jobId = row.jobId)
    (hp : p' = { p with scanJobs := p'.scanJobs, jobSafetyReceipts := p'.jobSafetyReceipts })
    (hpg : ∀ j, p'.job j
      = if j = row.jobId then some { s.pgRow row with toJobRow := row' } else p.job j)
    (hreceipts : ∀ j, p'.jobSafetyReceipts.get? SafetyReceiptRow.jobId j
      = s'.jobSafetyReceipts.get? SafetyReceiptRow.jobId j) : Corresponds s' p' := by
  refine h.of_jobs hs.frame hp ?_ hreceipts
  intro j
  rw [hs.job, hpg]
  by_cases hj : j = row.jobId
  · rw [if_pos hj, if_pos hj, Option.map_some]
    unfold Store.pgRow
    rw [hid]
  · rw [if_neg hj, if_neg hj]
    exact h.jobs j

theorem updateJob (h : Corresponds s p) (guard : JobRow → Bool) (f : JobRow → JobRow)
    (keeps : ∀ r, (f r).jobId = r.jobId ∧ (f r).idempotencyKey = r.idempotencyKey)
    (hjob : s.job jobId = some row) (hguard : guard row = true) (hroom : (f row).integers = true) :
    ∃ p', p.updateJob jobId guard f keeps = .ok (p', 1) ∧
      p'.job jobId = some { s.pgRow row with toJobRow := f row } ∧
      p'.jobSafetyReceipts = p.jobSafetyReceipts ∧
      (s.updateJob jobId guard f keeps).2 = 1 ∧
      (s.updateJob jobId guard f keeps).1.job jobId = some (f row) ∧
      Corresponds (s.updateJob jobId guard f keeps).1 p' := by
  have hid := Store.jobId_of_job hjob
  obtain ⟨p', hupdate, hframe, hpg⟩ : ∃ p', p.updateJob jobId guard f keeps = .ok (p', 1) ∧
      p' = { p with scanJobs := p'.scanJobs } ∧ ∀ j, p'.job j
        = if j = jobId then some { s.pgRow row with toJobRow := f row } else p.job j :=
    PgStore.updateJob_of_guard (h.job_eq_some hjob) hguard hroom
  have hreceipts : p'.jobSafetyReceipts = p.jobSafetyReceipts := by rw [hframe]
  refine ⟨p', hupdate, ?_, hreceipts, ?_, ?_, ?_⟩
  · rw [hpg, if_pos rfl]
  · rw [Store.updateJob_count hjob, if_pos hguard]
  · rw [Store.job_updateJob_of_guard hjob hguard, if_pos rfl]
  · refine h.replaced (Store.replaced_of_updateJob hjob hguard) (keeps row).1 ?_ ?_ ?_
    · rw [hreceipts]
      exact hframe
    · rw [hid]
      exact hpg
    · intro j
      rw [hreceipts]
      exact h.receipts j

theorem updateJob_alike (h : Corresponds s p) (guard : JobRow → Bool) (f g : JobRow → JobRow)
    (hf : ∀ r, (f r).jobId = r.jobId ∧ (f r).idempotencyKey = r.idempotencyKey)
    (hg : ∀ r, (g r).jobId = r.jobId ∧ (g r).idempotencyKey = r.idempotencyKey)
    (hjob : s.job jobId = some row) (heq : guard row = true → g row = f row)
    (hroom : guard row = true → (f row).integers = true) :
    ∃ p', p.updateJob jobId guard g hg = .ok (p', (s.updateJob jobId guard f hf).2) ∧
      Corresponds (s.updateJob jobId guard f hf).1 p' := by
  have hpgRow := h.job_eq_some hjob
  have hpgRoom : guard (s.pgRow row).toJobRow = true →
      (g (s.pgRow row).toJobRow).integers = true := by
    intro hguard
    show (g row).integers = true
    rw [heq hguard]
    exact hroom hguard
  obtain ⟨p', hupdate, hframe⟩ : ∃ p', p.updateJob jobId guard g hg
      = .ok (p', if guard (s.pgRow row).toJobRow = true then 1 else 0) ∧
        p' = { p with scanJobs := p'.scanJobs } :=
    PgStore.updateJob_of_room hpgRow hpgRoom
  have hreceipts : p'.jobSafetyReceipts = p.jobSafetyReceipts := by rw [hframe]
  refine ⟨p', ?_, ?_⟩
  · rw [hupdate, Store.updateJob_count hjob]
    rfl
  · refine h.of_jobs rfl (by rw [hreceipts]; exact hframe) ?_ ?_
    · intro j
      rw [PgStore.job_of_updateJob hupdate, Store.job_updateJob, hpgRow, hjob]
      by_cases hj : j = jobId
      · rw [if_pos hj, if_pos hj]
        simp only [Option.map_some, Option.some.injEq]
        by_cases hguard : guard row = true
        · rw [if_pos hguard, if_pos (show guard (s.pgRow row).toJobRow = true from hguard)]
          unfold Store.pgRow
          rw [heq hguard, (hf row).1]
        · rw [if_neg hguard, if_neg (show ¬ guard (s.pgRow row).toJobRow = true from hguard)]
      · rw [if_neg hj, if_neg hj]
        exact h.jobs j
    · intro j
      rw [hreceipts]
      exact h.receipts j

theorem of_schedules (h : Corresponds s p) (hs : s' = { s with scanSchedules := s'.scanSchedules })
    (hp : p' = { p with scanSchedules := p'.scanSchedules })
    (hschedules : ∀ k, p'.schedule k = s'.schedule k) : Corresponds s' p' := by
  refine ⟨?_, ?_, ?_, hschedules, ?_, ?_, ?_⟩
  all_goals rw [hs, hp]
  · exact h.jobs
  · exact h.bindings
  · exact h.permits
  · exact h.schedulePermits
  · exact h.receipts
  · exact h.assignments

theorem updateSchedule (h : Corresponds s p) {scheduleId : String} (guard : ScheduleRow → Bool)
    (f : ScheduleRow → ScheduleRow) (keeps : ∀ r, (f r).scheduleId = r.scheduleId)
    (hroom : ∀ row, s.schedule scheduleId = some row → guard row = true →
      isInteger (f row).revision = true) :
    ∃ p', p.updateSchedule scheduleId guard f keeps
        = .ok (p', (s.updateSchedule scheduleId guard f keeps).2) ∧
      p' = { p with scanSchedules := p'.scanSchedules } ∧
      Corresponds (s.updateSchedule scheduleId guard f keeps).1 p' := by
  have hrange : (p.schedule scheduleId).all (fun r => !guard r || isInteger (f r).revision)
      = true := by
    rw [h.schedules, Option.all_eq_true]
    intro r hr
    cases hguard : guard r with
    | false => rfl
    | true => simpa using hroom r hr hguard
  have hkeeps : ∀ c ∈ [ScanScheduleRecordFields.scheduleId], ∀ r, c (f r) = c r := by
    intro c hc r
    rw [mem_singleton] at hc
    rw [hc]
    exact keeps r
  have hcount : (p.scanSchedules.update ScanScheduleRecordFields.scheduleId scheduleId guard f
      hkeeps).2 = (s.updateSchedule scheduleId guard f keeps).2 :=
    Table.update_count_congr (by simp) (h.schedules scheduleId)
  refine ⟨{ p with scanSchedules := (p.scanSchedules.update ScanScheduleRecordFields.scheduleId
    scheduleId guard f hkeeps).1 }, ?_, rfl, h.of_schedules rfl rfl ?_⟩
  · unfold PgStore.updateSchedule
    rw [if_pos hrange, ← hcount]
  · intro k
    simp only [Store.updateSchedule, PgStore.schedule, Store.schedule]
    rw [Table.get?_update_self (by simp), Table.get?_update_self (by simp)]
    rw [show p.scanSchedules.get? _ scheduleId = _ from h.schedules scheduleId,
      show p.scanSchedules.get? _ k = _ from h.schedules k]
    rfl

/-! ## Recovery -/

theorem expiredRows_eq (h : Corresponds s p) (now : Nat) :
    p.expiredRows now = (s.expiredRows now).map s.pgRow := by
  have hkey : ∀ {r r' : PgJobRow}, p.job r.id = some r → p.job r'.id = some r' →
      r.id = r'.id → r = r' := by
    intro r r' hr hr' heq
    rw [heq, hr'] at hr
    exact (Option.some.inj hr).symm
  have hmem : ∀ r, r ∈ p.expiredRows now ↔ r ∈ (s.expiredRows now).map s.pgRow := by
    intro r
    rw [PgStore.mem_expiredRows, mem_map]
    constructor
    · rintro ⟨hjob, hexpired⟩
      obtain ⟨row, hrow, rfl⟩ := h.exists_job hjob
      exact ⟨row, Store.mem_expiredRows.mpr ⟨(Store.job_eq_some_iff.mp hrow).1, hexpired⟩, rfl⟩
    · rintro ⟨row, hrow, rfl⟩
      obtain ⟨hstored, hexpired⟩ := Store.mem_expiredRows.mp hrow
      exact ⟨h.job_eq_some (Store.job_eq_some_iff.mpr ⟨hstored, rfl⟩), hexpired⟩
  have hperm : (p.expiredRows now).Perm ((s.expiredRows now).map s.pgRow) := by
    refine (perm_ext_iff_of_nodup ?_ ?_).mpr hmem
    · exact (p.expiredRows_nodup now).of_map _
    · refine List.Nodup.of_map PgJobRow.id ?_
      rw [map_map]
      exact s.expiredRows_nodup now
  refine hperm.eq_of_pairwise ?_ (pairwise_insertionSort _ _) ?_
  · -- The identifier is part of the key, and tells the rows apart.
    intro r r' hr hr' hle hge
    have heq := le_antisymm hle hge
    exact hkey (PgStore.mem_expiredRows.mp hr).1
      (PgStore.mem_expiredRows.mp ((hmem r').mpr hr')).1 (Prod.mk.inj (toLex.injective heq)).2
  · rw [pairwise_map]
    exact pairwise_insertionSort _ _

end Corresponds

/-! ## The database of a database -/

/-- The PostgreSQL database with the rows of a SQLite database whose identity table is there. -/
def Store.toPg (s : Store) (assigned : List (String × String)) : PgStore where
  scanJobs :=
    { rows := s.scanJobs.rows.map s.pgRow
      unique := by
        intro c hc
        simp only [mem_cons, not_mem_nil, or_false] at hc
        rw [map_map]
        rcases hc with rfl | rfl
        · exact s.scanJobs.unique JobRow.jobId (by simp)
        · exact s.scanJobs.unique JobRow.idempotencyKey (by simp) }
  scanPermits := { rows := s.scanPermits.rows, unique := fun c hc => s.scanPermits.unique c (by
    rw [mem_singleton] at hc
    simp [hc]) }
  jobPermits := s.jobPermits
  scanSchedules := s.scanSchedules
  schedulePermits := s.schedulePermits
  jobSafetyReceipts := s.jobSafetyReceipts
  organizationAuthorizations := assigned
  organizations := []
  principals := []

theorem Store.corresponds_toPg {s : Store} {assigned : List (String × String)}
    (h : s.organizationAuthorizations = some assigned) : Corresponds s (s.toPg assigned) := by
  refine ⟨?_, fun _ => rfl, fun _ => rfl, fun _ => rfl, fun _ => rfl, fun _ => rfl,
    ⟨assigned, h, fun _ => Iff.rfl⟩⟩
  intro j
  show (s.scanJobs.rows.map s.pgRow).find? _ = (s.scanJobs.rows.find? _).map s.pgRow
  rw [find?_map]
  rfl

/-! ## Regular databases -/

section

variable [Primitives] {s s' : Store}

theorem Store.Regular.replaced (h : s.Regular) {row row' : JobRow} (hs : s.Replaced s' row row')
    (hsound : row'.Sound) (hopen : row.state.isTerminal = false)
    (hreceipts : ∀ j receipt, s'.jobSafetyReceipts.get? SafetyReceiptRow.jobId j = some receipt →
      s.jobSafetyReceipts.get? SafetyReceiptRow.jobId j = some receipt ∨
        (j = row.jobId ∧ row'.state.isTerminal = true)) : s'.Regular := by
  have hsome : ∀ j, (s.job j).isSome = true → (s'.job j).isSome = true := by
    intro j hj
    rw [hs.job]
    split
    · rfl
    · exact hj
  refine ⟨?_, ?_, ?_, ?_, ?_⟩
  · intro j r hr
    rw [hs.job] at hr
    split at hr
    · cases hr
      exact hsound
    · exact h.jobs j r hr
  · rw [hs.frame]
    exact h.schedules
  · intro j scope hscope
    rw [hs.frame] at hscope
    exact hsome j (h.scopes j scope hscope)
  · intro j binding hbinding
    rw [hs.frame] at hbinding
    exact hsome j (h.bindings j binding hbinding)
  · intro j receipt hreceipt
    rcases hreceipts j receipt hreceipt with hold | ⟨rfl, hterminal⟩
    · obtain ⟨r, hr, hterminal⟩ := h.receipts j receipt hold
      have hne : j ≠ row.jobId := by
        rintro rfl
        rw [hs.old] at hr
        cases hr
        rw [hopen] at hterminal
        cases hterminal
      exact ⟨r, by rw [hs.job, if_neg hne]; exact hr, hterminal⟩
    · exact ⟨row', by rw [hs.job, if_pos rfl], hterminal⟩

theorem Store.Regular.updateJob (h : s.Regular) {guard : JobRow → Bool} {f : JobRow → JobRow}
    {keeps : ∀ r, (f r).jobId = r.jobId ∧ (f r).idempotencyKey = r.idempotencyKey}
    (hjob : s.job jobId = some row) (hguard : guard row = true) (hsound : (f row).Sound)
    (hopen : row.state.isTerminal = false) : (s.updateJob jobId guard f keeps).1.Regular :=
  h.replaced (Store.replaced_of_updateJob hjob hguard) hsound hopen fun _ _ => Or.inl

theorem Store.Regular.rescheduled (h : s.Regular) {row row' : ScheduleRow}
    (hs : s.Rescheduled s' row row') (hsound : row'.Sound) : s'.Regular := by
  refine ⟨?_, ?_, ?_, ?_, ?_⟩
  · rw [hs.frame]
    exact h.jobs
  · intro k r hr
    rw [hs.schedule] at hr
    split at hr
    · cases hr
      exact hsound
    · exact h.schedules k r hr
  all_goals rw [hs.frame]
  · exact h.scopes
  · exact h.bindings
  · exact h.receipts

end

end WebGuard
