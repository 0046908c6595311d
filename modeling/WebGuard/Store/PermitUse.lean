import WebGuard.Contracts.TimestampOrder
import WebGuard.Store.Operations

/-!
# The use of a permit

`state_at`, `validate_permit_scope` and `validate_permit_use` of `permits.py`, and the permit
conditions of the two SQL statements that start something under a permit: the claim of a job and
the enqueue of a scheduled run. The statements compare timestamps as texts, and so do the
conditions here; `inForceText_iff` says that this is the comparison of the instants, which is what
the store's own definitions use.
-/

namespace WebGuard

open Relational Atomic

/-- `PersistedTrustScanPermit`: the columns of a permit, and the modes that its document lists. -/
structure PersistedTrustScanPermit where
  row : PermitRow
  permittedModes : List ScanJobMode

/-- What the checks read of an `OwnedTargetAuthorization`. -/
structure AuthorizationReference where
  authorizationId : String
  fingerprint : String
  target : String
  deriving DecidableEq

inductive PermitState where
  | revoked
  | pending
  | expired
  | active
  deriving DecidableEq

def PermitState.value : PermitState → String
  | .revoked => "revoked"
  | .pending => "pending"
  | .expired => "expired"
  | .active => "active"

namespace PersistedTrustScanPermit

def stateAt (permit : PersistedTrustScanPermit) (now : Nat) : PermitState :=
  if permit.row.revokedAt.isSome then .revoked
  else if now < permit.row.notBefore then .pending
  else if permit.row.expiresAt ≤ now then .expired
  else .active

/-- `validate_permit_scope`; `verified` is the answer of `signer.verify`. -/
def validateScope (permit : PersistedTrustScanPermit) (verified : Checked Unit)
    (organizationId : String) (authorization : AuthorizationReference) (target : String)
    (mode : ScanJobMode) : Checked Unit := do
  verified
  require permit.row.revokedAt.isNone "trustscan_permit_revoked"
    "TrustScan permit is revoked and cannot authorize scanner execution."
  require (permit.row.organizationId = organizationId) "trustscan_permit_organization_mismatch"
    "TrustScan permit does not belong to this organization."
  require (permit.row.authorizationId = authorization.authorizationId)
    "trustscan_permit_authorization_mismatch"
    "TrustScan permit does not reference the current authorization."
  require (permit.row.authorizationSha256 = authorization.fingerprint)
    "trustscan_permit_authorization_changed"
    "Underlying authorization changed after the TrustScan permit was issued."
  require (permit.row.target = target && authorization.target = target)
    "trustscan_permit_target_mismatch"
    "TrustScan permit target does not match the requested target."
  require (permit.permittedModes.contains mode) "trustscan_permit_mode_not_allowed"
    "Requested scan mode is not allowed by the TrustScan permit."

/-- `validate_permit_use`. -/
def validateUse (permit : PersistedTrustScanPermit) (verified : Checked Unit)
    (organizationId : String) (authorization : AuthorizationReference) (target : String)
    (mode : ScanJobMode) (now : Nat) : Checked Unit := do
  permit.validateScope verified organizationId authorization target mode
  let state := permit.stateAt now
  require (state = .active) ("trustscan_permit_" ++ state.value)
    ("TrustScan permit is " ++ state.value ++ " and cannot authorize scanner execution.")

/-- What the scope check asks for beside the signature and the revocation. -/
structure InScope (permit : PersistedTrustScanPermit) (organizationId : String)
    (authorization : AuthorizationReference) (target : String) (mode : ScanJobMode) : Prop where
  organization : permit.row.organizationId = organizationId
  authorized : permit.row.authorizationId = authorization.authorizationId
  unchanged : permit.row.authorizationSha256 = authorization.fingerprint
  target : permit.row.target = target ∧ authorization.target = target
  mode : mode ∈ permit.permittedModes

end PersistedTrustScanPermit

/-! ## The SQL conditions -/

/-- `revoked_at IS NULL AND not_before <= ? AND ? < expires_at`, on the texts of the columns. -/
def PermitRow.inForceText (p : PermitRow) (now : Nat) : Bool :=
  p.revokedAt.isNone && timestamp p.notBefore ≤ timestamp now
    && timestamp now < timestamp p.expiresAt

/-- The permit condition of `_select_claimable_row`, for a job bound to a permit. -/
def Store.claimPermitText (s : Store) (binding : JobPermitRow) (now : Nat) : Bool :=
  (s.scanPermits.rows.any fun p =>
    p.permitId == binding.permitId && p.permitSha256 == binding.permitSha256 && p.inForceText now)
    && !s.permitRunning binding.permitId

/-- The permit condition of `enqueue_due_schedule`. -/
def Store.schedulePermitText (s : Store) (permitId organizationId permitSha256 : String)
    (now : Nat) : Bool :=
  s.scanPermits.rows.any fun p =>
    p.permitId == permitId && p.organizationId == organizationId
      && p.permitSha256 == permitSha256 && p.inForceText now

/-- The instants of a permit are `datetime` values. -/
def PermitRow.Dated (p : PermitRow) : Prop :=
  p.notBefore < datetimeEnd ∧ p.expiresAt < datetimeEnd

variable {p : PermitRow}

theorem PermitRow.inForceText_iff (hp : p.Dated) {now : Nat} (hnow : now < datetimeEnd) :
    p.inForceText now = true ↔ p.revokedAt = none ∧ p.notBefore ≤ now ∧ now < p.expiresAt := by
  unfold inForceText
  simp only [Bool.and_eq_true, decide_eq_true_eq, timestamp_le_iff hp.1 hnow,
    timestamp_lt_iff hnow hp.2, Option.isNone_iff_eq_none]
  tauto

namespace PersistedTrustScanPermit

variable {permit : PersistedTrustScanPermit} {now : Nat}

theorem stateAt_eq_active (hp : permit.row.Dated) (hnow : now < datetimeEnd) :
    permit.stateAt now = .active ↔ permit.row.inForceText now = true := by
  rw [PermitRow.inForceText_iff hp hnow]
  unfold stateAt
  split
  · next hrevoked =>
    rw [Option.isSome_iff_ne_none] at hrevoked
    simp [hrevoked]
  · next hrevoked =>
    rw [Option.isSome_iff_ne_none, not_not] at hrevoked
    split
    · simp only [reduceCtorEq, false_iff]
      omega
    · split
      · simp only [reduceCtorEq, false_iff]
        omega
      · simp only [true_iff]
        exact ⟨hrevoked, by omega, by omega⟩

variable {authorization : AuthorizationReference} {organizationId target : String}

theorem validateScope_eq_ok {mode : ScanJobMode} {u : Unit} :
    permit.validateScope (.ok ()) organizationId authorization target mode = .ok u ↔
      permit.row.revokedAt = none ∧
        permit.InScope organizationId authorization target mode := by
  unfold validateScope
  simp only [bind_ok_iff, require_eq_ok]
  constructor
  · rintro ⟨_, -, _, hrevoked, _, horganization, _, hauthorization, _, hchanged, _, htarget, hmode⟩
    exact ⟨by simpa using hrevoked, by simpa using horganization, by simpa using hauthorization,
      by simpa using hchanged, by simpa using htarget, by simpa using hmode⟩
  · rintro ⟨hrevoked, horganization, hauthorization, hchanged, htarget, hmode⟩
    exact ⟨(), trivial, (), by simpa using hrevoked, (), by simpa using horganization, (),
      by simpa using hauthorization, (), by simpa using hchanged, (), by simpa using htarget,
      by simpa using hmode⟩

theorem validateUse_eq_ok (hp : permit.row.Dated) (hnow : now < datetimeEnd) {mode : ScanJobMode} :
    permit.validateUse (.ok ()) organizationId authorization target mode now = .ok () ↔
      permit.InScope organizationId authorization target mode ∧
        permit.row.inForceText now = true := by
  unfold validateUse
  rw [bind_ok_iff]
  simp only [validateScope_eq_ok, require_eq_ok, decide_eq_true_eq, stateAt_eq_active hp hnow]
  constructor
  · rintro ⟨_, ⟨-, hscope⟩, hforce⟩
    exact ⟨hscope, hforce⟩
  · rintro ⟨hscope, hforce⟩
    exact ⟨(), ⟨((PermitRow.inForceText_iff hp hnow).mp hforce).1, hscope⟩, hforce⟩

end PersistedTrustScanPermit

/-! ## The store's conditions -/

namespace Store

variable {s : Store} {now : Nat}

/-- The permit row with an identifier. -/
def permit (s : Store) (permitId : String) : Option PermitRow :=
  s.scanPermits.get? PermitRow.permitId permitId

theorem permit_eq_some_iff {permitId : String} :
    s.permit permitId = some p ↔ p ∈ s.scanPermits.rows ∧ p.permitId = permitId :=
  Table.get?_eq_some_iff (by simp)

theorem any_permit {permitId : String} (hp : s.permit permitId = some p)
    (condition : PermitRow → Bool) :
    (s.scanPermits.rows.any fun q => q.permitId == permitId && condition q) = condition p := by
  obtain ⟨hmem, hid⟩ := permit_eq_some_iff.mp hp
  rw [Bool.eq_iff_iff, List.any_eq_true]
  constructor
  · rintro ⟨q, hq, h⟩
    rw [Bool.and_eq_true, beq_iff_eq] at h
    have hsame : s.permit permitId = some q := permit_eq_some_iff.mpr ⟨hq, h.1⟩
    rw [hp] at hsame
    cases hsame
    exact h.2
  · intro h
    exact ⟨p, hmem, by simp [hid, h]⟩

end Store

end WebGuard
