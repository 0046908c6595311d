import WebGuard.Identity.Registration
import WebGuard.Properties.Owners

/-!
# What a failed registration leaves

The organization is stored before the owner is checked, in a transaction of its own, and nothing
takes it back: a registration that fails behind that point leaves an organization without members.
The constructors of the records raise an error of their own, which the service does not translate.
-/

namespace WebGuard.Registration

open Interrupt Program Relational Atomic List IdentityFault IdentityPrimitives
open Atomic (Fault)

section

variable [IdentityPrimitives]

/-! ## Which calls succeed -/

variable {status : Nat} {e : ServiceFault}

section Calls

variable {α β : Type} {fault : Option (Fault IdentityStoreError)} {s : Platform}

omit [IdentityPrimitives]

variable {method : IdentityMethod α}

theorem succeeds_bareCall :
    Succeeds (bareCall fault method) s ↔ fault = none ∧ Succeeds method s.identity := by
  rw [bareCall, onIdentity, succeeds_zoom isPart_identity, bare, succeeds_mapError,
    succeeds_faulty]

theorem succeeds_guardedCall :
    Succeeds (guardedCall fault status method) s ↔ fault = none ∧ Succeeds method s.identity := by
  rw [guardedCall, onIdentity, succeeds_zoom isPart_identity, guarded, succeeds_mapError,
    succeeds_faulty]

theorem succeeds_auditCall {method : ServiceMethod Unit} :
    Succeeds (auditCall fault method) s ↔ fault = none ∧ Succeeds method s.identity := by
  rw [auditCall, onIdentity, succeeds_zoom isPart_identity, succeeds_faulty]

theorem succeeds_entitlementCall {method : PlatformMethod α} :
    Succeeds (entitlementCall fault method) s ↔ fault = none ∧ Succeeds method s := by
  rw [entitlementCall, succeeds_faulty]

/-- The program leaves the organizations as they are. -/
def KeepsOrganizations (p : PlatformMethod α) : Prop :=
  ∀ s : Platform, (p.run s).2.identity.organizations = s.identity.organizations

theorem keepsOrganizations_pure (a : α) : KeepsOrganizations (pure a) := fun _ => rfl

theorem keepsOrganizations_bind {p : PlatformMethod α} {f : α → PlatformMethod β}
    (hp : KeepsOrganizations p) (hf : ∀ a, KeepsOrganizations (f a)) :
    KeepsOrganizations (p >>= f) := by
  intro s
  rw [run_bind, ← hp s]
  generalize p.run s = x
  obtain ⟨r, s'⟩ := x
  cases r with
  | ok a => exact hf a s'
  | error e => rfl

theorem keepsOrganizations_call (h : ∀ s, (method.run s).2.organizations = s.organizations)
    (translate : IdentityFault → ServiceFault) :
    KeepsOrganizations
      (onIdentity ((faulty store fault method).mapError translate)) := by
  intro s
  rw [onIdentity, run_zoom isPart_identity, run_mapError]
  obtain hstate | hstate := run_faulty_state store fault method s.identity
  · show ((faulty store fault method).run s.identity).2.organizations = _
    rw [hstate]
  · show ((faulty store fault method).run s.identity).2.organizations = _
    rw [hstate, h]

theorem keepsOrganizations_auditCall {method : ServiceMethod Unit}
    (h : ∀ s, (method.run s).2.organizations = s.organizations) :
    KeepsOrganizations (auditCall fault method) := by
  intro s
  rw [auditCall, onIdentity, run_zoom isPart_identity]
  obtain hstate | hstate := run_faulty_state (fun _ : IdentityStoreError => ServiceFault.api
    "audit_persistence_failed" "The security audit event could not be persisted." 500) fault method
    s.identity
  · exact congrArg IdentityState.organizations hstate
  · exact (congrArg IdentityState.organizations hstate).trans (h s.identity)

theorem keepsOrganizations_entitlementCall {method : PlatformMethod α}
    (h : KeepsOrganizations method) : KeepsOrganizations (entitlementCall fault method) := by
  intro s
  obtain hstate | hstate :=
    run_faulty_state (fun e => ServiceFault.uncaught (.store e)) fault method s
  · rw [entitlementCall, hstate]
  · rw [entitlementCall, hstate, h]

end Calls

/-! ## The organization -/

/-- What `Organization` accepts. -/
def OrganizationFits (organizationId name : String) : Prop :=
  isCanonicalUuid organizationId = true
    ∧ (requiredText "tenancy" name "name" 120).isOk = true

/-- The identifier or the name is in use. -/
def OrganizationTaken (s : IdentityState) (organizationId name : String) : Prop :=
  ∃ o ∈ s.organizations, o.organizationId = organizationId
    ∨ casefold o.name = casefold (strip name)

theorem createOrganization_cases (organizationId name : String) (now : Nat) (s : IdentityState) :
    (¬ OrganizationFits organizationId name
        ∧ ∃ e, (createOrganization organizationId name now).run s = (.error (.contract e), s))
      ∨ (OrganizationFits organizationId name ∧ OrganizationTaken s organizationId name
        ∧ ∃ e, (createOrganization organizationId name now).run s = (.error (.store e), s))
      ∨ OrganizationFits organizationId name ∧ ¬ OrganizationTaken s organizationId name
        ∧ ∃ value : Organization, value.organizationId = organizationId ∧ value.status = .active
          ∧ (createOrganization organizationId name now).run s
            = (.ok value, { s with organizations := value :: s.organizations }) := by
  unfold createOrganization
  rw [run_bind, run_ofExcept]
  cases huuid : canonicalUuid "tenancy" organizationId "organization_id" with
  | error e =>
    refine Or.inl ⟨fun hfits => ?_, e, rfl⟩
    rw [(canonicalUuid_eq_ok (c := organizationId)).mpr ⟨rfl, hfits.1⟩] at huuid
    cases huuid
  | ok canonical =>
    obtain ⟨rfl, hcanonical⟩ := canonicalUuid_eq_ok.mp huuid
    dsimp only [Atomic.mapError_ok, Atomic.mapError_error]
    rw [run_bind, run_ofExcept]
    cases htext : requiredText "tenancy" name "name" 120 with
    | error e =>
      refine Or.inl ⟨fun hfits => ?_, e, rfl⟩
      rw [OrganizationFits, htext] at hfits
      cases hfits.2
    | ok cleaned =>
      obtain ⟨rfl, -⟩ := requiredText_eq_ok.mp htext
      have hfits : OrganizationFits canonical name := ⟨hcanonical, by rw [htext]; rfl⟩
      right
      dsimp only [Atomic.mapError_ok, Atomic.mapError_error]
      rw [run_bind, run_get]
      dsimp only
      split
      · rename_i htaken
        refine Or.inl ⟨hfits, ?_, _, rfl⟩
        obtain ⟨o, ho, hsame⟩ := any_eq_true.mp htaken
        exact ⟨o, ho, of_decide_eq_true hsame⟩
      · rename_i htaken
        refine Or.inr ⟨hfits, ?_, _, rfl, rfl, rfl⟩
        rintro ⟨o, ho, hsame⟩
        exact htaken (any_eq_true.mpr ⟨o, ho, decide_eq_true hsame⟩)

/-! ## The owner -/

theorem succeeds_createPrincipal {p : Principal} {email : String} {s : IdentityState}
    {organization : Organization}
    (horganization : s.organizations.find? (·.organizationId = p.organizationId)
      = some organization)
    (hactive : organization.status = .active) (hemail : p.email = some email)
    (hunused : ∀ other ∈ s.principals.rows,
      other.email ≠ some (casefold (strip email))) :
    Succeeds (createPrincipal p) s ↔ p.postInit.isOk = true
      ∧ ∀ other ∈ s.principals.rows, other.principalId ≠ p.principalId := by
  have hget : (getOrganization p.organizationId).run s = (.ok organization, s) := by
    unfold getOrganization
    rw [run_bind, run_get]
    dsimp only
    rw [horganization]
    rfl
  unfold Succeeds createPrincipal
  rw [run_bind_of_ok hget, if_neg (not_not.mpr hactive), run_bind, run_ofExcept]
  cases hinit : p.postInit with
  | error e => simp [Except.isOk, Except.toBool, Atomic.mapError_error]
  | ok q =>
    have hq : q.principalId = p.principalId
        ∧ q.email = some (casefold (strip email)) := by
      unfold Principal.postInit at hinit
      obtain ⟨principalId, hid, hinit⟩ := bind_ok hinit
      obtain ⟨organizationId, -, hinit⟩ := bind_ok hinit
      obtain ⟨displayName, -, hinit⟩ := bind_ok hinit
      obtain ⟨address, haddress, hinit⟩ := bind_ok hinit
      cases hinit
      refine ⟨(canonicalUuid_eq_ok.mp hid).1, ?_⟩
      rw [hemail, Option.mapM_some] at haddress
      obtain ⟨cleaned, hcleaned, haddress⟩ := map_ok_iff.mp haddress
      unfold emailField at hcleaned
      dsimp only at hcleaned
      split at hcleaned
      · cases hcleaned
      · cases hcleaned
        exact haddress.symm
    have hfree : (s.principals.rows.any fun other => other.email = q.email) = false := by
      rw [any_eq_false]
      intro other hother
      rw [hq.2, decide_eq_true_eq]
      exact hunused other hother
    have hinsert : (∃ principals, s.principals.insert q = some principals)
        ↔ ∀ other ∈ s.principals.rows, other.principalId ≠ p.principalId := by
      rw [← hq.1, ← Table.get?_eq_none_iff]
      constructor
      · rintro ⟨principals, hprincipals⟩
        exact Table.not_mem_of_insert hprincipals (mem_singleton.mpr rfl)
      · exact Table.exists_insert_of_get?
    rw [← hinsert]
    dsimp only [Atomic.mapError_ok, Atomic.mapError_error]
    rw [run_bind, run_get]
    dsimp only
    rw [hfree, Bool.and_false]
    cases hrow : s.principals.insert q with
    | some principals =>
      exact iff_of_true ⟨q, rfl⟩ ⟨rfl, principals, rfl⟩
    | none =>
      refine iff_of_false ?_ (fun h => nomatch h.2)
      rintro ⟨a, ha⟩
      dsimp only at ha
      split at ha
      · cases ha
      · cases ha

/-! ## What is behind the organization -/

section Complete

variable {outage : Outage} {fields : RegistrationFields} {fresh : RegistrationSecrets}
  {drawn : SessionSecrets} {settings : SessionSettings} {requestId : String} {now : Nat}
  {organization : Organization}

/-- Every call behind the creation of the organization is carried out, and `Principal` accepts the
owner, whose identifier is new. -/
structure Completes (outage : Outage) (fields : RegistrationFields) (fresh : RegistrationSecrets)
    (now : Nat) (s : Platform) : Prop where
  /-- Entitlements are granted only where there are none. -/
  calls : ∀ call, outage call = none ∨ call = .grantDefaultEntitlements
    ∧ ∃ entitlement ∈ s.entitlements, entitlement.organizationId = fresh.organizationId
  owner : (newOwner fields fresh fresh.organizationId now).postInit.isOk = true
  unused : ∀ p ∈ s.identity.principals.rows, p.principalId ≠ fresh.principalId

theorem organizations_createPrincipal (p : Principal) (s : IdentityState) :
    ((createPrincipal p).run s).2.organizations = s.organizations := by
  have hwrites : (createPrincipal p).Each
      (fun f => ∀ t, t.organizations = s.organizations → (f t).organizations = s.organizations)
      (fun _ => True) := by
    unfold createPrincipal
    refine each_bind ?_ fun found => ?_
    · refine each_read fun t => ?_
      split
      · exact each_raise trivial
      · exact each_pure _
    · split
      · exact each_raise trivial
      · refine each_bind (each_ofExcept fun _ _ => trivial) fun q => each_read fun t => ?_
        split
        · exact each_bind (each_modify fun _ h => h) fun _ => each_pure _
        · split
          · exact each_raise trivial
          · exact each_raise trivial
  exact (triple_run (triple_of_each hwrites rfl)).1

theorem keepsOrganizations_signUp {principal : Principal} :
    KeepsOrganizations (signUp outage fields fresh drawn settings requestId now organization
      principal) := by
  refine keepsOrganizations_bind (keepsOrganizations_call (fun _ => rfl) _) fun _ => ?_
  refine keepsOrganizations_bind (keepsOrganizations_call (fun _ => rfl) _) fun _ => ?_
  refine keepsOrganizations_bind (keepsOrganizations_call (fun _ => rfl) _) fun issued => ?_
  refine keepsOrganizations_bind (keepsOrganizations_call (fun _ => rfl) _) fun _ => ?_
  refine keepsOrganizations_bind (keepsOrganizations_auditCall fun _ => rfl) fun _ => ?_
  exact keepsOrganizations_pure _

theorem keepsOrganizations_completeRegistration :
    KeepsOrganizations (completeRegistration outage fields fresh drawn settings requestId now
      organization) := by
  refine keepsOrganizations_bind
    (keepsOrganizations_call (organizations_createPrincipal _) _) fun principal => ?_
  refine keepsOrganizations_bind (keepsOrganizations_entitlementCall fun _ => rfl) fun granted => ?_
  split
  · exact keepsOrganizations_bind (keepsOrganizations_entitlementCall fun _ => rfl)
      fun _ => keepsOrganizations_signUp
  · exact keepsOrganizations_signUp

variable (outage fields fresh drawn settings requestId now organization) in
theorem succeeds_signUp (principal : Principal) (s : Platform) :
    Succeeds (signUp outage fields fresh drawn settings requestId now organization principal) s
      ↔ outage .setPasswordHash = none ∧ outage .createIdentityToken = none
        ∧ outage .createSession = none ∧ outage .touchLastLogin = none
        ∧ outage .recordAuditEvent = none := by
  have hcall : ∀ {α : Type} (call : StoreCall) {method : IdentityMethod α} {s : Platform},
      Succeeds method s.identity →
        (Succeeds (bareCall (outage call) method) s ↔ outage call = none) := by
    intro α call method s h
    rw [succeeds_bareCall, and_iff_left h]
  unfold signUp
  refine succeeds_step (hcall _ ⟨_, rfl⟩) fun _ s => ?_
  refine succeeds_step (hcall _ ⟨_, rfl⟩) fun _ s => ?_
  refine succeeds_step (hcall _ ⟨_, rfl⟩) fun issued s => ?_
  refine succeeds_step (hcall _ ⟨_, rfl⟩) fun _ s => ?_
  rw [← and_true (outage .recordAuditEvent = none)]
  refine succeeds_step ?_ fun _ s => iff_of_true (succeeds_pure _ s) trivial
  rw [succeeds_auditCall, and_iff_left ⟨_, rfl⟩]

/-- The organization is there, and the address of the owner is not in use. -/
structure Opened (fields : RegistrationFields) (fresh : RegistrationSecrets)
    (organization : Organization) (s : Platform) : Prop where
  identifier : organization.organizationId = fresh.organizationId
  active : organization.status = .active
  found : s.identity.organizations.find? (·.organizationId = fresh.organizationId)
    = some organization
  unused : ∀ p ∈ s.identity.principals.rows,
    p.email ≠ some (casefold (strip (strip fields.email)))

/-- The organization has entitlements. -/
def Granted (fresh : RegistrationSecrets) (s : Platform) : Prop :=
  ∃ entitlement ∈ s.entitlements, entitlement.organizationId = fresh.organizationId

omit [IdentityPrimitives] in
variable (outage fresh now) in
theorem succeeds_entitlements {β : Type} {p : PlatformMethod β} {R : Prop} (s : Platform)
    (hp : ∀ s, Succeeds p s ↔ R) :
    Succeeds (do
        let granted ← entitlementCall (outage .listEntitlements)
          (listEntitlements fresh.organizationId)
        if granted.isEmpty then do
          entitlementCall (outage .grantDefaultEntitlements)
            (grantDefaultEntitlements fresh.organizationId now)
          p
        else p) s
      ↔ outage .listEntitlements = none
        ∧ (outage .grantDefaultEntitlements = none ∨ Granted fresh s) ∧ R := by
  rw [succeeds_bind]
  cases hlist : outage .listEntitlements with
  | some fault =>
    refine iff_of_false ?_ (fun h => nomatch h.1)
    rintro ⟨granted, hgranted, -⟩
    have hnone := (succeeds_entitlementCall.mp ⟨granted, hgranted⟩).1
    cases hnone
  | none =>
    have hrun : (entitlementCall none (listEntitlements fresh.organizationId)).run s
        = (.ok (s.entitlements.filter (·.organizationId = fresh.organizationId)), s) := rfl
    have hempty : (s.entitlements.filter
        (·.organizationId = fresh.organizationId)).isEmpty = true ↔ ¬ Granted fresh s := by
      simp [Granted]
    rw [hrun]
    simp only [Except.ok.injEq, exists_eq_left', true_and]
    by_cases hgranted : Granted fresh s
    · rw [if_neg (fun h => hempty.mp h hgranted), hp]
      simp [hgranted]
    · rw [if_pos (hempty.mpr hgranted), succeeds_step (P := outage .grantDefaultEntitlements = none)
        (by rw [succeeds_entitlementCall, and_iff_left ⟨_, rfl⟩]) fun _ s => hp s]
      simp [hgranted]

omit [IdentityPrimitives] in
theorem granted_guardedCall {α : Type} {fault : Option (Fault IdentityStoreError)}
    {method : IdentityMethod α} {s : Platform} :
    Granted fresh ((guardedCall fault status method).run s).2 ↔ Granted fresh s := by
  rw [guardedCall, onIdentity, run_zoom isPart_identity]
  rfl

variable (drawn settings requestId now) in
theorem succeeds_completeRegistration {s : Platform} (h : Opened fields fresh organization s)
    (hlookup : outage .getPrincipalByEmail = none) (hinsert : outage .createOrganization = none) :
    Succeeds (completeRegistration outage fields fresh drawn settings requestId now organization) s
      ↔ Completes outage fields fresh now s := by
  have howner : Succeeds (guardedCall (outage .createPrincipal) 400 (createPrincipal
      (newOwner fields fresh fresh.organizationId now))) s
      ↔ outage .createPrincipal = none
        ∧ (newOwner fields fresh fresh.organizationId now).postInit.isOk = true
        ∧ ∀ p ∈ s.identity.principals.rows, p.principalId ≠ fresh.principalId := by
    rw [succeeds_guardedCall]
    exact and_congr_right fun _ => succeeds_createPrincipal h.found h.active rfl h.unused
  have hrest := fun (principal : Principal) (s : Platform) =>
    succeeds_entitlements outage fresh now s (succeeds_signUp outage fields fresh drawn settings
      requestId now organization principal)
  unfold completeRegistration
  rw [h.identifier, succeeds_bind]
  constructor
  · rintro ⟨principal, hprincipal, htail⟩
    obtain ⟨hcreate, hfits, hunused⟩ := howner.mp ⟨principal, hprincipal⟩
    obtain ⟨hlist, hgrant, hpassword, htoken, hsession, htouch, haudit⟩ :=
      (hrest principal _).mp htail
    rw [granted_guardedCall] at hgrant
    refine ⟨fun call => ?_, hfits, hunused⟩
    cases call with
    | getPrincipalByEmail => exact Or.inl hlookup
    | createOrganization => exact Or.inl hinsert
    | createPrincipal => exact Or.inl hcreate
    | listEntitlements => exact Or.inl hlist
    | grantDefaultEntitlements => exact hgrant.imp id fun hgranted => ⟨rfl, hgranted⟩
    | setPasswordHash => exact Or.inl hpassword
    | createIdentityToken => exact Or.inl htoken
    | createSession => exact Or.inl hsession
    | touchLastLogin => exact Or.inl htouch
    | recordAuditEvent => exact Or.inl haudit
  · rintro ⟨hcalls, hfits, hunused⟩
    have hcall : ∀ call, call ≠ .grantDefaultEntitlements → outage call = none :=
      fun call hne => (hcalls call).resolve_right fun hgrant => hne hgrant.1
    obtain ⟨principal, hprincipal⟩ := howner.mpr ⟨hcall _ nofun, hfits, hunused⟩
    refine ⟨principal, hprincipal, (hrest principal _).mpr ⟨hcall _ nofun, ?_, hcall _ nofun,
      hcall _ nofun, hcall _ nofun, hcall _ nofun, hcall _ nofun⟩⟩
    rw [granted_guardedCall]
    exact (hcalls .grantDefaultEntitlements).imp id And.right

end Complete

/-! ## The property -/

/-- No organization, principal or token is there that was not there before; who belongs to an
organization is a field of the principal. -/
structure NothingRemains (s s' : Platform) : Prop where
  organizations : s'.identity.organizations ⊆ s.identity.organizations
  principals : s'.identity.principals.rows ⊆ s.identity.principals.rows
  identityTokens : s'.identity.identityTokens ⊆ s.identity.identityTokens
  apiTokens : s'.identity.apiTokens ⊆ s.identity.apiTokens
  sessions : s'.identity.sessions ⊆ s.identity.sessions

/-- A failure leaves nothing, and it is no error of a record's constructor. -/
structure FailsClean {α : Type} (p : PlatformMethod α) (s : Platform) : Prop where
  remains : ∀ e, (p.run s).1 = .error e → NothingRemains s (p.run s).2
  reported : ∀ e, (p.run s).1 ≠ .error (.uncaught (.contract e))

section

omit [IdentityPrimitives]

theorem NothingRemains.refl (s : Platform) : NothingRemains s s :=
  ⟨fun _ h => h, fun _ h => h, fun _ h => h, fun _ h => h, fun _ h => h⟩

variable {α : Type} {p : PlatformMethod α} {s : Platform}

theorem failsClean_of_error (h : p.run s = (.error e, s)) (he : ∀ c, e ≠ .uncaught (.contract c)) :
    FailsClean p s := by
  refine ⟨fun _ _ => by rw [h]; exact .refl s, fun c hc => ?_⟩
  rw [h] at hc
  cases hc
  exact he c rfl

theorem failsClean_of_succeeds (h : Succeeds p s) : FailsClean p s := by
  obtain ⟨a, ha⟩ := h
  refine ⟨fun e he => ?_, fun e he => ?_⟩
  · rw [ha] at he
    cases he
  · rw [ha] at he
    cases he

end

/-- The request gets to the insert of its organization. -/
structure Reaches (outage : Outage) (body : Option RegistrationBody)
    (verdict : Option (String × String)) (s : Platform) (fields : RegistrationFields) : Prop where
  body : registrationFields body = .ok fields
  password : 12 ≤ fields.password.toList.length ∧ fields.password.toList.length ≤ 256
  verdict : verdict = none
  lookup : outage .getPrincipalByEmail = none
  unused : ∀ p ∈ s.identity.principals.rows,
    p.email ≠ some (casefold (strip (strip fields.email)))
  insert : ∀ e, outage .createOrganization ≠ some (.before e)

section Request

variable {outage : Outage} {body : Option RegistrationBody} {verdict : Option (String × String)}
  {fresh : RegistrationSecrets} {drawn : SessionSecrets} {settings : SessionSettings}
  {requestId : String} {now : Nat} {s : Platform}

/-- The insert of the organization, and everything behind it. -/
def openRegistration (outage : Outage) (fields : RegistrationFields) (fresh : RegistrationSecrets)
    (drawn : SessionSecrets) (settings : SessionSettings) (requestId : String) (now : Nat) :
    PlatformMethod (AuthContext × IssuedBrowserSession) := do
  let organization ← guardedCall (outage .createOrganization) 400
    (createOrganization fresh.organizationId (strip fields.organizationName) now)
  completeRegistration outage fields fresh drawn settings requestId now organization

/-- A step that raises an error of the service and leaves the state. -/
def Refuses {α : Type} (p : PlatformMethod α) (s : Platform) : Prop :=
  ∃ e, p.run s = (.error e, s) ∧ ∀ c, e ≠ .uncaught (.contract c)

section

omit [IdentityPrimitives]

theorem refuses_bind {α β : Type} {p : PlatformMethod α} {f : α → PlatformMethod β}
    (h : Refuses p s) : Refuses (p >>= f) s := by
  obtain ⟨e, hrun, he⟩ := h
  exact ⟨e, run_bind_of_error hrun, he⟩

theorem registrationFields_error (h : registrationFields body = .error e) :
    ∀ c, e ≠ .uncaught (.contract c) := by
  unfold registrationFields at h
  dsimp only at h
  split at h
  all_goals
    cases h
    try nofun

theorem password_cases (password : String) (s : Platform) :
    ((12 ≤ password.toList.length ∧ password.toList.length ≤ 256)
        ∧ (onIdentity (validatePasswordPolicy password)).run s = (.ok (), s))
      ∨ ¬ (12 ≤ password.toList.length ∧ password.toList.length ≤ 256)
        ∧ Refuses (onIdentity (validatePasswordPolicy password)) s := by
  unfold validatePasswordPolicy
  split
  · exact Or.inr ⟨by omega, _, rfl, nofun⟩
  · split
    · exact Or.inr ⟨by omega, _, rfl, nofun⟩
    · exact Or.inl ⟨by omega, rfl⟩

end

variable (outage) in
theorem lookup_cases (email : String) (s : Platform) :
    (outage .getPrincipalByEmail = none
        ∧ (bareCall (outage .getPrincipalByEmail) (getPrincipalByEmail email)).run s
          = (.ok (s.identity.principals.rows.find?
            (·.email = some (casefold (strip email)))), s))
      ∨ outage .getPrincipalByEmail ≠ none
        ∧ Refuses (bareCall (outage .getPrincipalByEmail) (getPrincipalByEmail email)) s := by
  cases outage .getPrincipalByEmail with
  | none => exact Or.inl ⟨rfl, rfl⟩
  | some fault =>
    right
    cases fault with
    | before e => exact ⟨nofun, _, rfl, nofun⟩
    | after e => exact ⟨nofun, _, rfl, nofun⟩

variable (outage body verdict fresh drawn settings requestId now) in
theorem registerAccount_cases (s : Platform) :
    (∃ fields, Reaches outage body verdict s fields
        ∧ (registerAccount outage body verdict fresh drawn settings requestId now).run s
          = (openRegistration outage fields fresh drawn settings requestId now).run s)
      ∨ (¬ ∃ fields, Reaches outage body verdict s fields)
        ∧ Refuses (registerAccount outage body verdict fresh drawn settings requestId now) s := by
  unfold registerAccount
  cases hfields : registrationFields body with
  | error e =>
    refine Or.inr ⟨?_, refuses_bind ⟨e, rfl, registrationFields_error hfields⟩⟩
    rintro ⟨fields, h⟩
    rw [h.body] at hfields
    cases hfields
  | ok fields =>
    have hreaches : ∀ other, Reaches outage body verdict s other → other = fields := by
      intro other h
      rw [h.body] at hfields
      exact Except.ok.inj hfields
    unfold Refuses
    rw [@run_bind_of_ok _ _ _ _ (ofExcept (.ok fields)) _ s s _ rfl]
    obtain ⟨hpassword, hrun⟩ | ⟨hpassword, hrefuses⟩ := password_cases fields.password s
    case inr =>
      refine Or.inr ⟨?_, refuses_bind hrefuses⟩
      rintro ⟨other, h⟩
      exact hpassword (hreaches other h ▸ h.password)
    rw [run_bind_of_ok hrun]
    cases verdict with
    | some refusal =>
      refine Or.inr ⟨?_, refuses_bind ⟨_, rfl, nofun⟩⟩
      rintro ⟨other, h⟩
      cases h.verdict
    | none =>
      rw [@run_bind_of_ok _ _ _ _ (onIdentity (rateLimited none)) _ s s _ rfl]
      obtain ⟨hlookup, hrun⟩ | ⟨hlookup, hrefuses⟩ :=
        lookup_cases outage (strip fields.email) s
      case inr =>
        refine Or.inr ⟨?_, refuses_bind hrefuses⟩
        rintro ⟨other, h⟩
        exact hlookup h.lookup
      rw [run_bind_of_ok hrun]
      split
      · rename_i hfound
        refine Or.inr ⟨?_, _, rfl, nofun⟩
        rintro ⟨other, h⟩
        obtain ⟨p, hp⟩ := Option.isSome_iff_exists.mp hfound
        refine h.unused p (mem_of_find?_eq_some hp) ?_
        rw [hreaches other h]
        simpa using find?_some hp
      · rename_i hfound
        rw [Bool.not_eq_true, Option.isSome_eq_false_iff, Option.isNone_iff_eq_none,
          find?_eq_none] at hfound
        cases hinsert : outage .createOrganization with
        | none =>
          refine Or.inl ⟨fields, ⟨hfields, hpassword, rfl, hlookup, ?_, ?_⟩, ?_⟩
          · simpa using hfound
          · rw [hinsert]
            nofun
          · rw [openRegistration, hinsert]
        | some fault =>
          cases fault with
          | before e =>
            refine Or.inr ⟨?_, refuses_bind ⟨_, rfl, nofun⟩⟩
            rintro ⟨other, h⟩
            exact h.insert e hinsert
          | after e =>
            refine Or.inl ⟨fields, ⟨hfields, hpassword, rfl, hlookup, ?_, ?_⟩, ?_⟩
            · simpa using hfound
            · rw [hinsert]
              nofun
            · rw [openRegistration, hinsert]

section

omit [IdentityPrimitives]

theorem run_guardedCall_error {α : Type} {fault : Option (Fault IdentityStoreError)}
    {method : IdentityMethod α} {e : IdentityFault} (hfault : ∀ e, fault ≠ some (.before e))
    (h : method.run s.identity = (.error e, s.identity)) :
    (guardedCall fault status method).run s = (.error (e.translated status), s) := by
  have hfaulty : (faulty store fault method).run s.identity
      = (.error e, s.identity) := by
    cases fault with
    | none => exact h
    | some fault =>
      cases fault with
      | before e => exact absurd rfl (hfault e)
      | after e => exact run_bind_of_error h
  rw [guardedCall, onIdentity, run_zoom isPart_identity, guarded, run_mapError, hfaulty]
  rfl

theorem run_guardedCall_after {α : Type} (status : Nat) {method : IdentityMethod α} {a : α}
    {t : IdentityState} (e : IdentityStoreError) (h : method.run s.identity = (.ok a, t)) :
    (guardedCall (some (.after e)) status method).run s
      = (.error (.api e.code e.message status), s.putIdentity t) := by
  have hfaulty : (faulty store (some (.after e)) method).run s.identity
      = (.error (.store e), t) := run_bind_of_ok h
  rw [guardedCall, onIdentity, run_zoom isPart_identity, guarded, run_mapError, hfaulty]
  rfl

theorem not_failsClean_of_organization {α : Type} {p : PlatformMethod α} {value : Organization}
    (herror : (p.run s).1 = .error e) (hmem : value ∈ (p.run s).2.identity.organizations)
    (hnew : value ∉ s.identity.organizations) : ¬ FailsClean p s :=
  fun h => hnew ((h.remains e herror).organizations hmem)

end

variable (fresh drawn settings requestId now) in
theorem failsClean_openRegistration {fields : RegistrationFields}
    (h : Reaches outage body verdict s fields) :
    FailsClean (openRegistration outage fields fresh drawn settings requestId now) s
      ↔ OrganizationFits fresh.organizationId (strip fields.organizationName)
        ∧ (OrganizationTaken s.identity fresh.organizationId (strip fields.organizationName)
          ∨ Completes outage fields fresh now s) := by
  unfold openRegistration
  obtain ⟨hfits, e, hrun⟩ | ⟨hfits, htaken, e, hrun⟩ | ⟨hfits, htaken, value, hvalue, hactive, hrun⟩
    := createOrganization_cases fresh.organizationId (strip fields.organizationName) now s.identity
  · refine iff_of_false (fun hclean => ?_) (fun hcondition => hfits hcondition.1)
    refine hclean.reported e ?_
    rw [run_bind_of_error (run_guardedCall_error h.insert hrun)]
    rfl
  · refine iff_of_true ?_ ⟨hfits, Or.inl htaken⟩
    exact failsClean_of_error (run_bind_of_error (run_guardedCall_error h.insert hrun)) nofun
  · have hnew : value ∉ s.identity.organizations :=
      fun hmem => htaken ⟨value, hmem, Or.inl hvalue⟩
    cases hinsert : outage .createOrganization with
    | some fault =>
      have hafter : ∃ e, fault = .after e := by
        cases fault with
        | before e => exact absurd hinsert (h.insert e)
        | after e => exact ⟨e, rfl⟩
      obtain ⟨e, rfl⟩ := hafter
      have hfailed := run_bind_of_error (f := fun organization => completeRegistration outage
        fields fresh drawn settings requestId now organization)
        (run_guardedCall_after 400 e hrun)
      refine iff_of_false ?_ ?_
      · refine not_failsClean_of_organization (by rw [hfailed]) ?_ hnew
        rw [hfailed]
        exact mem_cons_self
      · rintro ⟨-, hfalse | hcompletes⟩
        · exact htaken hfalse
        · have hnone := hcompletes.calls .createOrganization
          rw [hinsert] at hnone
          obtain hnone | hnone := hnone
          · cases hnone
          · cases hnone.1
    | none =>
      have hstored : (guardedCall none 400 (createOrganization fresh.organizationId
          (strip fields.organizationName) now)).run s = (.ok value, s.putIdentity
            { s.identity with organizations := value :: s.identity.organizations }) := by
        rw [guardedCall, onIdentity, run_zoom isPart_identity, guarded, run_mapError, faulty, hrun]
        rfl
      have hrest := run_bind_of_ok (f := fun organization => completeRegistration outage
        fields fresh drawn settings requestId now organization) hstored
      have hopened : Opened fields fresh value (s.putIdentity
          { s.identity with organizations := value :: s.identity.organizations }) := by
        refine ⟨hvalue, hactive, ?_, h.unused⟩
        exact find?_cons_of_pos (by simpa using hvalue)
      have hsucceeds := succeeds_completeRegistration drawn settings requestId now
        hopened h.lookup hinsert
      have hsame : Completes outage fields fresh now (s.putIdentity
          { s.identity with organizations := value :: s.identity.organizations })
          ↔ Completes outage fields fresh now s :=
        ⟨fun hc => ⟨hc.calls, hc.owner, hc.unused⟩, fun hc => ⟨hc.calls, hc.owner, hc.unused⟩⟩
      constructor
      · intro hclean
        refine ⟨hfits, Or.inr (hsame.mp (hsucceeds.mp ?_))⟩
        by_contra hfails
        obtain ⟨e, herror⟩ : ∃ e, ((completeRegistration outage fields fresh drawn settings
            requestId now value).run (s.putIdentity
              { s.identity with organizations := value :: s.identity.organizations })).1
            = .error e := by
          cases hanswer : ((completeRegistration outage fields fresh drawn settings
              requestId now value).run (s.putIdentity
                { s.identity with organizations := value :: s.identity.organizations })).1 with
          | ok a => exact absurd ⟨a, hanswer⟩ hfails
          | error e => exact ⟨e, rfl⟩
        refine not_failsClean_of_organization (by rw [hrest, herror]) ?_ hnew hclean
        rw [hrest, keepsOrganizations_completeRegistration]
        exact mem_cons_self
      · rintro ⟨-, hfalse | hcompletes⟩
        · exact absurd hfalse htaken
        · refine failsClean_of_succeeds ?_
          obtain ⟨a, ha⟩ := hsucceeds.mpr (hsame.mpr hcompletes)
          exact ⟨a, by rw [hrest, ha]⟩

/-- **When a registration fails clean**: if it gets to the insert of its organization, then the
organization is one that `Organization` accepts, and it is taken or everything behind it
succeeds. -/
theorem registration_clean_iff (outage : Outage) (body : Option RegistrationBody)
    (verdict : Option (String × String)) (fresh : RegistrationSecrets) (drawn : SessionSecrets)
    (settings : SessionSettings) (requestId : String) (now : Nat) (s : Platform) :
    FailsClean (registerAccount outage body verdict fresh drawn settings requestId now) s
      ↔ ∀ fields, Reaches outage body verdict s fields →
        OrganizationFits fresh.organizationId (strip fields.organizationName)
          ∧ (OrganizationTaken s.identity fresh.organizationId (strip fields.organizationName)
            ∨ Completes outage fields fresh now s) := by
  obtain ⟨fields, hreaches, hrun⟩ | ⟨hreaches, e, hrun, he⟩ := registerAccount_cases
    outage body verdict fresh drawn settings requestId now s
  · have hopen := failsClean_openRegistration fresh drawn settings requestId now hreaches
    have hsame : FailsClean
        (registerAccount outage body verdict fresh drawn settings requestId now) s
        ↔ FailsClean (openRegistration outage fields fresh drawn settings requestId now) s := by
      constructor
      · rintro ⟨hremains, hreported⟩
        rw [hrun] at hremains hreported
        exact ⟨hremains, hreported⟩
      · rintro ⟨hremains, hreported⟩
        rw [← hrun] at hremains hreported
        exact ⟨hremains, hreported⟩
    rw [hsame, hopen]
    constructor
    · intro hcondition other hother
      have hfields : registrationFields body = .ok other := hother.body
      rw [hreaches.body] at hfields
      cases hfields
      exact hcondition
    · intro hcondition
      exact hcondition fields hreaches
  · refine iff_of_true (failsClean_of_error hrun he) ?_
    intro fields h
    exact absurd ⟨fields, h⟩ hreaches

end Request

end

/-! ## Samples -/

def emptyPlatform : Platform := ⟨{}, []⟩

def sampleBody (email : String) : RegistrationBody :=
  ⟨some "Example", some "Alice", some email, some "correct horse battery"⟩

def sampleFresh : RegistrationSecrets where
  organizationId := sampleTenantId
  principalId := aliceId
  passwordSalt := "AAECAwQFBgcICQoLDA0ODw"
  tokenId := sampleTokenId
  tokenSecret := sampleSecret
  tokenSalt := "AAECAwQFBgcICQoLDA0ODw"

def sampleDrawn : SessionSecrets := ⟨bobTokenId, "secret", "csrf", "salt", "salt"⟩

def sampleSettings : SessionSettings := ⟨1800000000, 43200000000, none, none⟩

def sampleRegistration (email : String) : PlatformMethod (AuthContext × IssuedBrowserSession) :=
  letI := sampleIdentity
  registerAccount (fun _ => none) (some (sampleBody email)) none sampleFresh sampleDrawn
    sampleSettings bobId 100

/-- **An address that is none leaves an organization**, and the error is that of `Principal`. -/
theorem invalid_email_leaves_organization :
    ((sampleRegistration "alice").run emptyPlatform).1.map (fun _ => ())
        = .error (.uncaught (.contract
          ⟨"tenancy_email_invalid", "email must be a valid email address."⟩))
      ∧ ((sampleRegistration "alice").run emptyPlatform).2.identity.organizations
        = [⟨sampleTenantId, "Example", .active, 100⟩]
      ∧ ¬ FailsClean (sampleRegistration "alice") emptyPlatform := by
  have herror : ((sampleRegistration "alice").run emptyPlatform).1.map (fun _ => ())
      = .error (.uncaught (.contract
        ⟨"tenancy_email_invalid", "email must be a valid email address."⟩)) := by
    decide
  have hstored : ((sampleRegistration "alice").run emptyPlatform).2.identity.organizations
      = [⟨sampleTenantId, "Example", .active, 100⟩] := by
    decide
  refine ⟨herror, hstored, fun hclean => ?_⟩
  cases hanswer : ((sampleRegistration "alice").run emptyPlatform).1 with
  | ok a =>
    rw [hanswer] at herror
    cases herror
  | error e =>
    have hmem := (hclean.remains e hanswer).organizations
      (by rw [hstored]; exact mem_cons_self)
    cases hmem

end WebGuard.Registration
