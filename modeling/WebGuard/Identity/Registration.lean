import WebGuard.Identity.Service
import WebGuard.Lib.Outages

/-!
# Registration over storage that may fail

`register_account` with the module entitlements of the new organization, and with the calls of the
stores that may fail: each is a transaction of its own, and nothing undoes those before it. A call
fails before it is carried out or after; a text that the driver cannot encode fails its statement
in the same way. `IdentityStore` wraps the errors of the driver, and the service answers those of
`create_organization` and `create_principal` with a status.
-/

namespace WebGuard.Registration

open Interrupt Program Relational
open Atomic (Fault)

/-! ## Module entitlements -/

inductive PlatformModule where
  | webguard | soc | compliance
deriving DecidableEq

inductive ModuleEntitlementStatus where
  | enabled | disabled | trial
deriving DecidableEq

structure ModuleEntitlement where
  organizationId : String
  module : PlatformModule
  status : ModuleEntitlementStatus
  updatedAt : Nat
  enabledAt : Option Nat
deriving DecidableEq

def defaultStatusByModule : List (PlatformModule × ModuleEntitlementStatus) :=
  [(.webguard, .enabled), (.soc, .disabled), (.compliance, .disabled)]

/-- What the service stores of accounts. -/
structure Platform where
  identity : IdentityState
  entitlements : List ModuleEntitlement

def Platform.putIdentity (identity : IdentityState) (platform : Platform) : Platform :=
  { platform with identity }

theorem isPart_identity : IsPart Platform.identity Platform.putIdentity where
  part_put _ _ := rfl
  put_part _ := rfl
  put_put _ _ _ := rfl

abbrev PlatformMethod := Program Platform ServiceFault

/-- An operation on the accounts alone. -/
def onIdentity {α : Type} (method : ServiceMethod α) : PlatformMethod α :=
  method.zoom Platform.identity Platform.putIdentity

def listEntitlements (organizationId : String) : PlatformMethod (List ModuleEntitlement) := do
  let platform ← get
  pure (platform.entitlements.filter (·.organizationId = organizationId))

def grantDefaultEntitlements (organizationId : String) (now : Nat) : PlatformMethod Unit :=
  modify fun platform =>
    { platform with
      entitlements := defaultStatusByModule.foldl (fun granted entry =>
        granted.filter (fun e => ¬ (e.organizationId = organizationId ∧ e.module = entry.1))
          ++ [{ organizationId, module := entry.1, status := entry.2, updatedAt := now,
                enabledAt := if entry.2 = .enabled then some now else none }])
        platform.entitlements }

/-! ## Calls of the stores -/

/-- The calls of the stores, in the order they are made. -/
inductive StoreCall where
  | getPrincipalByEmail
  | createOrganization
  | createPrincipal
  | listEntitlements
  | grantDefaultEntitlements
  | setPasswordHash
  | createIdentityToken
  | createSession
  | touchLastLogin
  | recordAuditEvent
deriving DecidableEq

/-- Which calls fail. -/
abbrev Outage := StoreCall → Option (Fault IdentityStoreError)

/-- A call outside of any `try`. -/
def bareCall {α : Type} (fault : Option (Fault IdentityStoreError)) (method : IdentityMethod α) :
    PlatformMethod α := onIdentity (bare (faulty .store fault method))

/-- A call whose errors are answered with a status. -/
def guardedCall {α : Type} (fault : Option (Fault IdentityStoreError)) (status : Nat)
    (method : IdentityMethod α) : PlatformMethod α :=
  onIdentity (guarded status (faulty .store fault method))

/-- A call of the entitlements. -/
def entitlementCall {α : Type} (fault : Option (Fault IdentityStoreError))
    (method : PlatformMethod α) : PlatformMethod α :=
  faulty (fun e => .uncaught (.store e)) fault method

/-- `_audit`. -/
def auditCall (fault : Option (Fault IdentityStoreError)) (method : ServiceMethod Unit) :
    PlatformMethod Unit :=
  onIdentity (faulty (fun _ => .api "audit_persistence_failed"
    "The security audit event could not be persisted." 500) fault method)

/-! ## `register_account` -/

section

variable [IdentityPrimitives]

/-- The credential of the owner, the token of the verification mail, and the first session. -/
def signUp (outage : Outage) (fields : RegistrationFields) (fresh : RegistrationSecrets)
    (drawn : SessionSecrets) (settings : SessionSettings) (requestId : String) (now : Nat)
    (organization : Organization) (principal : Principal) :
    PlatformMethod (AuthContext × IssuedBrowserSession) := do
  bareCall (outage .setPasswordHash) (setPasswordHash principal.principalId "argon2id"
    (IdentityPrimitives.hashPassword fields.password fresh.passwordSalt) now)
  let _ ← bareCall (outage .createIdentityToken) (storeIdentityToken fresh.tokenId
    fresh.tokenSecret fresh.tokenSalt principal.principalId organization.organizationId
    .emailVerification 86400000000 now)
  let issued ← bareCall (outage .createSession) (createSession principal.principalId
    organization.organizationId drawn settings.idleTimeout settings.absoluteTimeout
    settings.userAgent settings.ipAddress now)
  bareCall (outage .touchLastLogin) (touchLastLogin principal.principalId now)
  let context := issueSessionContext principal organization issued
  auditCall (outage .recordAuditEvent)
    (context.audit requestId "auth.register" "principal" principal.principalId .succeeded none now)
  pure (context, issued)

/-- Everything behind the creation of the organization. -/
def completeRegistration (outage : Outage) (fields : RegistrationFields)
    (fresh : RegistrationSecrets) (drawn : SessionSecrets) (settings : SessionSettings)
    (requestId : String) (now : Nat) (organization : Organization) :
    PlatformMethod (AuthContext × IssuedBrowserSession) := do
  let principal ← guardedCall (outage .createPrincipal) 400
    (createPrincipal (newOwner fields fresh organization.organizationId now))
  let granted ← entitlementCall (outage .listEntitlements)
    (listEntitlements organization.organizationId)
  if granted.isEmpty then do
    entitlementCall (outage .grantDefaultEntitlements)
      (grantDefaultEntitlements organization.organizationId now)
    signUp outage fields fresh drawn settings requestId now organization principal
  else signUp outage fields fresh drawn settings requestId now organization principal

def registerAccount (outage : Outage) (body : Option RegistrationBody)
    (verdict : Option (String × String)) (fresh : RegistrationSecrets) (drawn : SessionSecrets)
    (settings : SessionSettings) (requestId : String) (now : Nat) :
    PlatformMethod (AuthContext × IssuedBrowserSession) := do
  let fields ← ofExcept (registrationFields body)
  onIdentity (validatePasswordPolicy fields.password)
  onIdentity (rateLimited verdict)
  let existing ← bareCall (outage .getPrincipalByEmail) (getPrincipalByEmail (strip fields.email))
  if existing.isSome then
    raise (.api "register_email_in_use" "An account with that email address already exists." 409)
  else
    let organization ← guardedCall (outage .createOrganization) 400
      (createOrganization fresh.organizationId (strip fields.organizationName) now)
    completeRegistration outage fields fresh drawn settings requestId now organization

end

/-! ## Storage that works -/

/-- `p` answers what `method` answers, and does the same to the accounts. -/
def Follows {α : Type} (p : PlatformMethod α) (method : ServiceMethod α) : Prop :=
  ∀ platform, ((p.run platform).1, (p.run platform).2.identity) = method.run platform.identity

variable {α β : Type} {p : PlatformMethod α} {method : ServiceMethod α}
  {f : α → PlatformMethod β} {next : α → ServiceMethod β} {rest : ServiceMethod β}

theorem follows_onIdentity (method : ServiceMethod α) : Follows (onIdentity method) method := by
  intro platform
  rw [onIdentity, run_zoom isPart_identity, isPart_identity.part_put]

theorem follows_bind (hp : Follows p method) (hf : ∀ a, Follows (f a) (next a)) :
    Follows (p >>= f) (method >>= next) := by
  intro platform
  have h := hp platform
  rw [run_bind, run_bind, ← h]
  cases hrun : p.run platform with
  | mk answer platform' =>
    cases answer with
    | ok a => exact hf a platform'
    | error e => rfl

/-- A step that leaves the accounts alone is not seen in them. -/
theorem follows_skip (hp : ∀ platform, ∃ a platform', p.run platform = (.ok a, platform')
    ∧ platform'.identity = platform.identity) (hf : ∀ a, Follows (f a) rest) :
    Follows (p >>= f) rest := by
  intro platform
  obtain ⟨a, platform', hrun, hsame⟩ := hp platform
  rw [run_bind_of_ok hrun, ← hsame]
  exact hf a platform'

/-- **The two models agree**: over storage that works, registration is the operation of the service
with entitlements beside it. -/
theorem follows_registerAccount [IdentityPrimitives] (body : Option RegistrationBody)
    (verdict : Option (String × String)) (fresh : RegistrationSecrets) (drawn : SessionSecrets)
    (settings : SessionSettings) (requestId : String) (now : Nat) :
    Follows (registerAccount (fun _ => none) body verdict fresh drawn settings requestId now)
      (WebGuard.registerAccount body verdict fresh drawn settings requestId now) := by
  unfold registerAccount WebGuard.registerAccount
  refine follows_bind (fun platform => by simp) fun fields => ?_
  refine follows_bind (follows_onIdentity _) fun _ => ?_
  refine follows_bind (follows_onIdentity _) fun _ => ?_
  refine follows_bind (follows_onIdentity _) fun existing => ?_
  split
  · exact fun _ => rfl
  refine follows_bind (follows_onIdentity _) fun organization => ?_
  refine follows_bind (follows_onIdentity _) fun principal => ?_
  have hsignUp : Follows
      (signUp (fun _ => none) fields fresh drawn settings requestId now organization principal) (do
        bare (setPasswordHash principal.principalId "argon2id"
          (IdentityPrimitives.hashPassword fields.password fresh.passwordSalt) now)
        let _ ← bare (storeIdentityToken fresh.tokenId fresh.tokenSecret fresh.tokenSalt
          principal.principalId organization.organizationId .emailVerification 86400000000 now)
        signIn principal organization drawn settings requestId "auth.register" now) := by
    refine follows_bind (follows_onIdentity _) fun _ => ?_
    refine follows_bind (follows_onIdentity _) fun _ => ?_
    refine follows_bind (follows_onIdentity _) fun issued => ?_
    refine follows_bind (follows_onIdentity _) fun _ => ?_
    exact follows_bind (follows_onIdentity _) fun _ _ => rfl
  refine follows_skip (fun platform => ⟨_, _, rfl, rfl⟩) fun granted => ?_
  split
  · exact follows_skip (fun platform => ⟨_, _, rfl, rfl⟩) fun _ => hsignUp
  · exact hsignUp

end WebGuard.Registration
