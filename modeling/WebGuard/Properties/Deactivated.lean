import WebGuard.Identity.Service
import WebGuard.Properties.Owners

/-!
# Deactivated principals

No operation of the service makes a principal active again: a removal is final. What is left to
show is that nobody hands out a session or a context for one. `login`, both authenticators and
`request_password_reset` look at the flag; `accept_invitation` does not, so an invitation that was
sent before the removal still signs the principal in (`invited_after_removal`).

`InvitesActive` is the condition that rules it out: an invitation that is accepted is for a
principal that is active. Under it nothing that is answered after a removal is for the principal
who was removed (`deactivated_stay_out`).
-/

namespace WebGuard

open Interrupt Program Relational Runs ServiceAnswer ServiceOp

/-- The principal is there, and is not active. -/
def Deactivated (principalId : String) (s : IdentityState) : Prop :=
  ∃ p, s.principals.get? Principal.principalId principalId = some p ∧ p.active = false

/-- What is handed out is for somebody else. -/
def ServiceAnswer.Excludes (principalId : String) (a : ServiceAnswer) : Prop :=
  (∀ context ∈ a.context, context.principalId ≠ principalId) ∧
    ∀ issued ∈ a.session, issued.record.principalId ≠ principalId

/-- An invitation that is accepted is for a principal that is active. -/
def InvitesActive [IdentityPrimitives] (s : IdentityState) : ServiceOp → Prop
  | .acceptInvitation (some token) (some password) none _ _ _ _ now =>
    ((validatePasswordPolicy password).run s).1 = .ok () →
      ∀ record, ((consumeIdentityToken token .invitation now).run s).1 = .ok record →
        ∀ p, s.principals.get? Principal.principalId record.principalId = some p →
          p.active = true
  | _ => True

/-! ## The methods of the stores -/

section

variable {me : String} {α : Type}

variable {f : IdentityState → IdentityState}

/-- A step that leaves the principal alone keeps it deactivated. -/
theorem upholds_leaves (hf : LeavesPrincipal me f) :
    (modify f : Program IdentityState ε Unit).Upholds (Deactivated me) (fun _ => True) := by
  refine upholds_modify ?_
  rintro s ⟨p, hp, hactive⟩
  exact ⟨p, (hf s).trans hp, hactive⟩

theorem upholds_principals (hf : ∀ s, (f s).principals = s.principals) :
    (modify f : Program IdentityState ε Unit).Upholds (Deactivated me) (fun _ => True) :=
  upholds_leaves (leaves_of_principals hf)

variable (principalId : String)

theorem upholds_updatePrincipal (guard : Principal → Bool)
    {f : Principal → Principal} (keeps : ∀ p, (f p).principalId = p.principalId)
    (hf : ∀ p, p.active = false → (f p).active = false) :
    (modify fun s => s.updatePrincipal principalId guard f keeps :
      Program IdentityState ε Unit).Upholds (Deactivated me) (fun _ => True) := by
  refine upholds_modify ?_
  rintro s ⟨p, hp, hactive⟩
  by_cases hme : me = principalId
  · subst hme
    refine ⟨if guard p = true then f p else p, ?_, ?_⟩
    · rw [IdentityState.get?_updatePrincipal, if_pos rfl, hp, Option.map_some]
    · split
      · exact hf p hactive
      · exact hactive
  · refine ⟨p, ?_, hactive⟩
    rw [IdentityState.get?_updatePrincipal, if_neg hme]
    exact hp

variable {A : α → Prop}

theorem upholds_refuseStore (code message : String) :
    (refuseStore code message : IdentityMethod α).Upholds (Deactivated me) A := upholds_raise _

theorem upholds_refuseApi (code message : String) (status : Nat) :
    (refuseApi code message status : ServiceMethod α).Upholds (Deactivated me) A := upholds_raise _

theorem upholds_getOrganization (organizationId : String) :
    (getOrganization organizationId).Upholds (Deactivated me) (fun _ => True) := by
  refine upholds_read fun s _ => ?_
  split
  · exact upholds_refuseStore _ _
  · exact upholds_pure trivial

/-- A read of the principal shows it inactive. -/
theorem upholds_getPrincipal :
    (getPrincipal principalId).Upholds (Deactivated me)
      (fun p => p.principalId = principalId ∧ (p.principalId = me → p.active = false)) := by
  refine upholds_read fun s hs => ?_
  obtain ⟨q, hq, hactive⟩ := hs
  split
  · exact upholds_refuseStore _ _
  · next p hp =>
    have hid : p.principalId = principalId := Table.column_of_get? hp
    refine upholds_pure ⟨hid, fun hme => ?_⟩
    rw [hid] at hme
    rw [hme, hq] at hp
    cases hp
    exact hactive

theorem upholds_getPrincipalByEmail [IdentityPrimitives] (email : String) :
    (getPrincipalByEmail email).Upholds (Deactivated me)
      (fun found => ∀ p ∈ found, p.principalId = me → p.active = false) := by
  refine upholds_read fun s hs => upholds_pure ?_
  obtain ⟨q, hq, hactive⟩ := hs
  intro p hp hme
  have hmem : p ∈ s.principals.rows := List.mem_of_find?_eq_some hp
  have hfound : s.principals.get? Principal.principalId me = some p :=
    (Table.get?_eq_some_iff (List.mem_singleton.mpr rfl)).mpr ⟨hmem, hme⟩
  rw [hq] at hfound
  cases hfound
  exact hactive

variable (principalId organizationId : String)

theorem upholds_getPrincipalScoped :
    (getPrincipalScoped principalId organizationId).Upholds (Deactivated me) (fun _ => True) := by
  refine upholds_bind (upholds_getPrincipal principalId) fun p _ => ?_
  split
  · exact upholds_refuseStore _ _
  · exact upholds_pure trivial

theorem upholds_createOrganization [IdentityPrimitives] (organizationId name : String)
    (now : Nat) :
    (createOrganization organizationId name now).Upholds (Deactivated me) (fun _ => True) := by
  refine upholds_bind (A := fun _ => True) (upholds_ofExcept fun _ _ => trivial) fun id _ => ?_
  generalize requiredText "tenancy" name "name" 120 = checkedName
  refine upholds_bind (A := fun _ => True) (upholds_ofExcept fun _ _ => trivial) fun cleaned _ => ?_
  refine upholds_read fun s _ => ?_
  split
  · exact upholds_refuseStore _ _
  · exact upholds_bind (upholds_principals fun _ => rfl) fun _ _ => upholds_pure trivial

/-- A created principal has a new identifier. -/
theorem upholds_createPrincipal [IdentityPrimitives] (p : Principal) :
    (createPrincipal p).Upholds (Deactivated me) (fun created => created.principalId ≠ me) := by
  refine upholds_bind (upholds_getOrganization _) fun organization _ => ?_
  split
  · exact upholds_refuseStore _ _
  · refine upholds_bind (A := fun _ => True) (upholds_ofExcept fun _ _ => trivial) fun p _ => ?_
    intro s hs
    dsimp only [Program.get, bind, Program.bind, Triple]
    obtain ⟨q, hq, hactive⟩ := hs
    split
    · next principals hinsert _ =>
      have hcolumn : Principal.principalId ∈ [Principal.principalId] := List.mem_singleton.mpr rfl
      have hne : p.principalId ≠ me := by
        rintro rfl
        rw [Table.not_mem_of_insert hinsert hcolumn] at hq
        cases hq
      have hkeep : Deactivated me { s with principals } := by
        refine ⟨q, ?_, hactive⟩
        rw [Table.get?_insert hinsert hcolumn, if_neg (Ne.symm hne)]
        exact hq
      refine ⟨hkeep, hkeep, ?_⟩
      rintro _ ⟨⟩
      exact hne
    · split
      · exact upholds_refuseStore _ _ s ⟨q, hq, hactive⟩
      · exact upholds_refuseStore _ _ s ⟨q, hq, hactive⟩

theorem upholds_updatePrincipalRole (role : OrganizationRole) :
    (updatePrincipalRole principalId organizationId role).Upholds (Deactivated me)
      (fun _ => True) :=
  upholds_bind (upholds_getPrincipalScoped _ _) fun _ _ =>
    upholds_bind (upholds_updatePrincipal _ _ _ fun _ h => h) fun _ _ => upholds_pure trivial

theorem upholds_setPrincipalInactive :
    (setPrincipalActive principalId organizationId false).Upholds (Deactivated me)
      (fun _ => True) :=
  upholds_bind (upholds_getPrincipalScoped _ _) fun _ _ =>
    upholds_bind (upholds_updatePrincipal _ _ _ fun _ _ => rfl) fun _ _ => upholds_pure trivial

theorem upholds_setPrincipalEmailVerified (now : Nat) :
    (setPrincipalEmailVerified principalId now).Upholds (Deactivated me) (fun _ => True) :=
  upholds_bind (upholds_getPrincipal _) fun _ _ =>
    upholds_bind (upholds_updatePrincipal _ _ _ fun _ h => h) fun _ _ => upholds_pure trivial

theorem upholds_touchLastLogin (now : Nat) :
    (touchLastLogin principalId now).Upholds (Deactivated me) (fun _ => True) :=
  upholds_updatePrincipal _ _ _ fun _ h => h

theorem upholds_setPasswordHash (principalId algorithm passwordHash : String) (now : Nat) :
    (setPasswordHash principalId algorithm passwordHash now).Upholds (Deactivated me)
      (fun _ => True) :=
  upholds_principals fun _ => rfl

theorem upholds_getPasswordHash :
    (getPasswordHash principalId).Upholds (Deactivated me) (fun _ => True) :=
  upholds_read fun _ _ => upholds_pure trivial

theorem upholds_storeIdentityToken [SecretHashing]
    (tokenId secret salt principalId organizationId : String) (purpose : IdentityTokenPurpose)
    (ttl now : Nat) :
    (storeIdentityToken tokenId secret salt principalId organizationId purpose ttl now).Upholds
      (Deactivated me) (fun _ => True) :=
  upholds_bind (upholds_principals fun _ => rfl) fun _ _ => upholds_pure trivial

theorem upholds_consumeIdentityToken [SecretHashing] (token : String)
    (purpose : IdentityTokenPurpose) (now : Nat) :
    (consumeIdentityToken token purpose now).Upholds (Deactivated me) (fun _ => True) := by
  refine upholds_bind (A := fun _ => True) (upholds_ofExcept fun _ _ => trivial) fun parts _ => ?_
  refine upholds_read fun s _ => ?_
  refine upholds_bind (A := fun _ => True) (upholds_ofExcept fun _ _ => trivial) fun row _ => ?_
  exact upholds_bind (upholds_principals fun _ => rfl) fun _ _ => upholds_pure trivial

theorem upholds_invalidateIdentityTokens (purpose : IdentityTokenPurpose)
    (now : Nat) :
    (invalidateIdentityTokens principalId purpose now).Upholds (Deactivated me) (fun _ => True) :=
  upholds_principals fun _ => rfl

theorem upholds_createApiToken [SecretHashing] (principalId label tokenId secret salt : String)
    (validityDays : Int) (now : Nat) :
    (createApiToken principalId label tokenId secret salt validityDays now).Upholds
      (Deactivated me) (fun _ => True) := by
  unfold createApiToken
  split
  · exact upholds_refuseStore _ _
  refine upholds_bind (upholds_getPrincipal _) fun principal _ => ?_
  split
  · exact upholds_refuseStore _ _
  refine upholds_bind (upholds_getOrganization _) fun organization _ => ?_
  split
  · exact upholds_refuseStore _ _
  generalize requiredText _ _ _ _ = checkedLabel
  refine upholds_bind (A := fun _ => True) (upholds_ofExcept fun _ _ => trivial) fun label _ => ?_
  refine upholds_read fun s _ => ?_
  split
  · exact upholds_refuseStore _ _
  · exact upholds_bind (upholds_principals fun _ => rfl) fun _ _ => upholds_pure trivial

/-- An API token authenticates nobody who is deactivated. -/
theorem upholds_authenticateApiToken [SecretHashing] (token : String) (now : Nat) :
    (authenticateApiToken token now).Upholds (Deactivated me)
      (fun found => found.2.1.principalId ≠ me) := by
  refine upholds_bind (A := fun _ => True) (upholds_ofExcept fun _ _ => trivial) fun parts _ => ?_
  refine upholds_read fun s hs => ?_
  split
  · exact upholds_refuseStore _ _
  split
  · exact upholds_refuseStore _ _
  split
  · exact upholds_refuseStore _ _
  split
  · exact upholds_refuseStore _ _
  split
  · next principal organization hprincipal _ =>
    split
    · exact upholds_refuseStore _ _
    · next hactive =>
      split
      · exact upholds_refuseStore _ _
      · refine upholds_bind (upholds_principals fun _ => rfl) fun _ _ => upholds_pure ?_
        rintro rfl
        obtain ⟨q, hq, hinactive⟩ := hs
        rw [Table.column_of_get? hprincipal, hprincipal] at hq
        cases hq
        exact hactive hinactive
  · exact upholds_refuseStore _ _

theorem upholds_revokeTokenOwned (tokenId principalId : String) (now : Nat) :
    (revokeTokenOwned tokenId principalId now).Upholds (Deactivated me) (fun _ => True) := by
  refine upholds_read fun s _ => ?_
  split
  · exact upholds_refuseStore _ _
  split
  · exact upholds_refuseStore _ _
  split
  · exact upholds_pure trivial
  · exact upholds_bind (upholds_principals fun _ => rfl) fun _ _ => upholds_pure trivial

theorem upholds_createSession [SecretHashing] (principalId organizationId : String)
    (drawn : SessionSecrets) (idleTtl absoluteTtl : Nat) (userAgent ipAddress : Option String)
    (now : Nat) :
    (createSession principalId organizationId drawn idleTtl absoluteTtl userAgent ipAddress
      now).Upholds (Deactivated me) (fun issued => issued.record.principalId = principalId) :=
  upholds_bind (upholds_principals fun _ => rfl) fun _ _ => upholds_pure rfl

/-- Neither does a session. -/
theorem upholds_authenticateSession [SecretHashing] (token : String) (idleTtl : Nat)
    (csrfHeader : Option String) (requireCsrf : Bool) (now : Nat) :
    (authenticateSession token idleTtl csrfHeader requireCsrf now).Upholds (Deactivated me)
      (fun _ => True) := by
  refine upholds_bind (A := fun _ => True) (upholds_ofExcept fun _ _ => trivial) fun parts _ => ?_
  refine upholds_read fun s _ => ?_
  split
  · exact upholds_refuseStore _ _
  split
  · exact upholds_refuseStore _ _
  split
  · exact upholds_refuseStore _ _
  split
  · exact upholds_refuseStore _ _
  · exact upholds_bind (upholds_principals fun _ => rfl) fun _ _ => upholds_pure trivial

theorem upholds_revokeSession (sessionId principalId : String) (now : Nat) :
    (revokeSession sessionId principalId now).Upholds (Deactivated me) (fun _ => True) :=
  upholds_principals fun _ => rfl

theorem upholds_revokeAllSessions (exceptSessionId : Option String)
    (now : Nat) :
    (revokeAllSessionsForPrincipal principalId exceptSessionId now).Upholds (Deactivated me)
      (fun _ => True) := by
  refine upholds_read fun s _ => upholds_bind (A := fun _ => True) ?_ fun _ _ => upholds_pure trivial
  generalize s.sessions.filter _ = targets
  induction targets with
  | nil => exact upholds_pure trivial
  | cons x rest ih => exact upholds_bind (upholds_revokeSession _ _ _) fun _ _ => ih

/-! ## The operations -/

variable {method : IdentityMethod α}

theorem upholds_bare (h : method.Upholds (Deactivated me) A) :
    (bare method).Upholds (Deactivated me) A :=
  upholds_mapError h

theorem upholds_guarded (status : Nat)
    (h : method.Upholds (Deactivated me) A) : (guarded status method).Upholds (Deactivated me) A :=
  upholds_mapError h

variable (verdict : Option (String × String))

theorem rateLimited_cases :
    rateLimited verdict = pure () ∨ ∃ fault, rateLimited verdict = raise fault := by
  cases verdict with
  | none => exact .inl rfl
  | some refusal => exact .inr ⟨_, rfl⟩

theorem validatePasswordPolicy_cases (password : String) :
    validatePasswordPolicy password = pure () ∨
      ∃ fault, validatePasswordPolicy password = raise fault := by
  unfold validatePasswordPolicy
  split
  · exact .inr ⟨_, rfl⟩
  split
  · exact .inr ⟨_, rfl⟩
  · exact .inl rfl

theorem upholds_check {check : ServiceMethod Unit}
    (h : check = pure () ∨ ∃ fault, check = raise fault) :
    check.Upholds (Deactivated me) (fun _ => True) := by
  obtain rfl | ⟨fault, rfl⟩ := h
  · exact upholds_pure trivial
  · exact upholds_raise fault

theorem upholds_auditEvent
    (organizationId principalId requestId action resourceType resourceId : String)
    (outcome : AuditOutcome) (detailCode : Option String) (now : Nat) :
    (auditEvent organizationId principalId requestId action resourceType resourceId outcome
      detailCode now).Upholds (Deactivated me) (fun _ => True) :=
  upholds_principals fun _ => rfl

variable (context : AuthContext)

theorem upholds_audit (requestId action resourceType resourceId : String) (outcome : AuditOutcome)
    (detailCode : Option String) (now : Nat) :
    (context.audit requestId action resourceType resourceId outcome detailCode now).Upholds
      (Deactivated me) (fun _ => True) :=
  upholds_auditEvent _ _ _ _ _ _ _ _ _

theorem upholds_require (permission : ApiPermission)
    (requestId action resourceType resourceId : String) (now : Nat) :
    (context.require permission requestId action resourceType resourceId now).Upholds
      (Deactivated me) (fun _ => True) := by
  unfold AuthContext.require
  split
  · exact upholds_pure trivial
  · exact upholds_bind (upholds_audit _ _ _ _ _ _ _ _) fun _ _ => upholds_refuseApi _ _ _

variable [IdentityPrimitives]

theorem upholds_authenticateBrowser (sessionToken : String) (csrfHeader : Option String)
    (requireCsrf : Bool) (idleTtl now : Nat) :
    (authenticateBrowser sessionToken csrfHeader requireCsrf idleTtl now).Upholds (Deactivated me)
      (fun context => context.principalId ≠ me) := by
  refine upholds_bind (upholds_mapError (upholds_authenticateSession _ _ _ _ _)) fun session _ => ?_
  refine upholds_bind (upholds_guarded _ (upholds_getPrincipal _)) fun principal hprincipal => ?_
  refine upholds_bind (upholds_guarded _ (upholds_getOrganization _)) fun organization _ => ?_
  split
  · exact upholds_refuseApi _ _ _
  · next hactive =>
    split
    · exact upholds_refuseApi _ _ _
    · exact upholds_pure fun hme => hactive (hprincipal.2 hme)

theorem upholds_authenticateBearer (token : String) (now : Nat) :
    (authenticateBearer token now).Upholds (Deactivated me)
      (fun context => context.principalId ≠ me) :=
  upholds_bind (upholds_guarded _ (upholds_authenticateApiToken _ _)) fun _ hfound =>
    upholds_pure hfound

theorem upholds_signIn {principal : Principal} (hprincipal : principal.principalId ≠ me)
    (organization : Organization) (drawn : SessionSecrets) (settings : SessionSettings)
    (requestId action : String) (now : Nat) :
    (signIn principal organization drawn settings requestId action now).Upholds (Deactivated me)
      (fun signed => (signedIn signed).Excludes me) := by
  refine upholds_bind (upholds_bare (upholds_createSession _ _ _ _ _ _ _ _)) fun issued hissued => ?_
  refine upholds_bind (upholds_bare (upholds_touchLastLogin _ _)) fun _ _ => ?_
  refine upholds_bind (upholds_audit _ _ _ _ _ _ _ _) fun _ _ => upholds_pure ⟨?_, ?_⟩
  · rintro _ ⟨⟩
    exact hprincipal
  · rintro _ ⟨⟩
    exact fun hme => hprincipal (hissued.symm.trans hme)

theorem upholds_registerAccount (body : Option RegistrationBody)
    (verdict : Option (String × String)) (fresh : RegistrationSecrets) (drawn : SessionSecrets)
    (settings : SessionSettings) (requestId : String) (now : Nat) :
    (registerAccount body verdict fresh drawn settings requestId now).Upholds (Deactivated me)
      (fun signed => (signedIn signed).Excludes me) := by
  unfold registerAccount
  refine upholds_bind (A := fun _ => True) (upholds_ofExcept fun _ _ => trivial) fun _ _ => ?_
  refine upholds_bind (upholds_check (validatePasswordPolicy_cases _)) fun _ _ => ?_
  refine upholds_bind (upholds_check (rateLimited_cases _)) fun _ _ => ?_
  refine upholds_bind (upholds_bare (upholds_getPrincipalByEmail _)) fun existing _ => ?_
  split
  · exact upholds_refuseApi _ _ _
  refine upholds_bind (upholds_guarded _ (upholds_createOrganization _ _ _)) fun organization _ => ?_
  refine upholds_bind (upholds_guarded _ (upholds_createPrincipal _)) fun principal hprincipal => ?_
  refine upholds_bind (upholds_bare (upholds_setPasswordHash _ _ _ _)) fun _ _ => ?_
  refine upholds_bind (upholds_bare (upholds_storeIdentityToken _ _ _ _ _ _ _ _)) fun _ _ => ?_
  exact upholds_signIn hprincipal _ _ _ _ _ _

/-- Nobody who is deactivated signs in by password. -/
theorem upholds_login (email password : Option String) (verdict : Option (String × String))
    (rehashSalt : String) (drawn : SessionSecrets) (settings : SessionSettings)
    (requestId : String) (now : Nat) :
    (login email password verdict rehashSalt drawn settings requestId now).Upholds
      (Deactivated me) (fun signed => (signedIn signed).Excludes me) := by
  unfold login
  split
  · refine upholds_bind (upholds_check (rateLimited_cases _)) fun _ _ => ?_
    refine upholds_bind (upholds_bare (upholds_getPrincipalByEmail _)) fun found hfound => ?_
    cases found with
    | none => exact upholds_refuseApi _ _ _
    | some principal =>
      refine upholds_bind (upholds_bare (upholds_getPasswordHash _)) fun stored _ => ?_
      split
      · refine upholds_bind (upholds_auditEvent _ _ _ _ _ _ _ _ _) fun _ _ => ?_
        exact upholds_refuseApi _ _ _
      · next hcredentials =>
        have hprincipal : principal.principalId ≠ me := by
          intro hme
          rw [hfound principal rfl hme] at hcredentials
          exact hcredentials rfl
        have hrest : (do
            let organization ← bare (getOrganization principal.organizationId)
            signIn principal organization drawn settings requestId "auth.login" now).Upholds
            (Deactivated me) (fun signed => (signedIn signed).Excludes me) :=
          upholds_bind (upholds_bare (upholds_getOrganization _)) fun organization _ =>
            upholds_signIn hprincipal _ _ _ _ _ _
        dsimp only
        split
        · exact upholds_bind (upholds_bare (upholds_setPasswordHash _ _ _ _)) fun _ _ => hrest
        · exact hrest
  · exact upholds_refuseApi _ _ _

/-- An invitation signs in whom it names, so here the condition is used. -/
theorem triple_acceptInvitation (token password : Option String)
    (verdict : Option (String × String)) (passwordSalt : String) (drawn : SessionSecrets)
    (settings : SessionSettings) (requestId : String) (now : Nat) {s : IdentityState}
    (hs : Deactivated me s)
    (hinvites : InvitesActive s
      (.acceptInvitation token password verdict passwordSalt drawn settings requestId now)) :
    Triple (Deactivated me)
      (acceptInvitation token password verdict passwordSalt drawn settings requestId now) s
      fun r s' => Deactivated me s' ∧
        ∀ signed, r = .ok signed → (signedIn signed).Excludes me := by
  unfold acceptInvitation
  split
  · next token password =>
    obtain hpolicy | ⟨fault, hpolicy⟩ := validatePasswordPolicy_cases password
    · cases verdict with
      | some refusal =>
        rw [hpolicy]
        exact upholds_raise _ s hs
      | none =>
        have hinvites := hinvites (by rw [hpolicy]; rfl)
        rw [hpolicy]
        change Triple _ (do
          let record ← guarded 400 (consumeIdentityToken token .invitation now)
          bare (setPasswordHash record.principalId "argon2id"
            (IdentityPrimitives.hashPassword password passwordSalt) now)
          let _ ← bare (setPrincipalEmailVerified record.principalId now)
          let principal ← bare (getPrincipal record.principalId)
          let organization ← bare (getOrganization record.organizationId)
          signIn principal organization drawn settings requestId "auth.invitation_accepted" now) s _
        have hupholds : (consumeIdentityToken token .invitation now).Upholds (Deactivated me)
            (fun _ => True) := upholds_consumeIdentityToken token .invitation now
        have hconsume := (upholds_guarded 400 hupholds s hs).and_run
        refine triple_bind (hconsume.mono ?_)
        rintro (fault | record) s' ⟨⟨hs', -⟩, hrun⟩
        · refine ⟨hs', ?_⟩
          rintro signed ⟨⟩
        have hrecord : record.principalId ≠ me := by
          intro hme
          obtain ⟨q, hq, hinactive⟩ := hs
          have hactive := hinvites record (congrArg Prod.fst (run_of_mapError hrun)) q
            (by rw [hme]; exact hq)
          rw [hinactive] at hactive
          cases hactive
        have hrest : (do
            bare (setPasswordHash record.principalId "argon2id"
              (IdentityPrimitives.hashPassword password passwordSalt) now)
            let _ ← bare (setPrincipalEmailVerified record.principalId now)
            let principal ← bare (getPrincipal record.principalId)
            let organization ← bare (getOrganization record.organizationId)
            signIn principal organization drawn settings requestId "auth.invitation_accepted"
              now).Upholds (Deactivated me)
            (fun signed => (signedIn signed).Excludes me) := by
          refine upholds_bind (upholds_bare (upholds_setPasswordHash _ _ _ _)) fun _ _ => ?_
          refine upholds_bind (upholds_bare (upholds_setPrincipalEmailVerified _ _)) fun _ _ => ?_
          refine upholds_bind (upholds_bare (upholds_getPrincipal _)) fun principal hp => ?_
          refine upholds_bind (upholds_bare (upholds_getOrganization _)) fun organization _ => ?_
          exact upholds_signIn (hp.1.trans_ne hrecord) _ _ _ _ _ _
        exact hrest s' hs'
    · rw [hpolicy]
      exact upholds_raise fault s hs
  · exact upholds_refuseApi _ _ _ s hs

theorem upholds_changePassword (currentPassword newPassword : Option String)
    (salt requestId : String) (now : Nat) :
    (changePassword context currentPassword newPassword salt requestId now).Upholds
      (Deactivated me) (fun _ => True) := by
  unfold changePassword
  split
  · refine upholds_bind (upholds_bare (upholds_getPasswordHash _)) fun stored _ => ?_
    split
    · refine upholds_bind (upholds_audit _ _ _ _ _ _ _ _) fun _ _ => ?_
      exact upholds_refuseApi _ _ _
    · refine upholds_bind (upholds_check (validatePasswordPolicy_cases _)) fun _ _ => ?_
      refine upholds_bind (upholds_bare (upholds_setPasswordHash _ _ _ _)) fun _ _ => ?_
      refine upholds_bind (upholds_bare (upholds_revokeAllSessions _ _ _)) fun _ _ => ?_
      refine upholds_bind (upholds_bare (upholds_getPrincipal _)) fun _ _ => ?_
      exact upholds_audit _ _ _ _ _ _ _ _
  · exact upholds_refuseApi _ _ _

theorem upholds_requestPasswordReset (email : Option String) (verdict : Option (String × String))
    (tokenId tokenSecret tokenSalt requestId : String) (now : Nat) :
    (requestPasswordReset email verdict tokenId tokenSecret tokenSalt requestId now).Upholds
      (Deactivated me) (fun _ => True) := by
  unfold requestPasswordReset
  split
  · exact upholds_refuseApi _ _ _
  · refine upholds_bind (upholds_check (rateLimited_cases _)) fun _ _ => ?_
    refine upholds_bind (upholds_bare (upholds_getPrincipalByEmail _)) fun found _ => ?_
    split
    · exact upholds_pure trivial
    split
    · exact upholds_pure trivial
    · refine upholds_bind (upholds_bare (upholds_invalidateIdentityTokens _ _ _)) fun _ _ => ?_
      refine upholds_bind (upholds_bare (upholds_storeIdentityToken _ _ _ _ _ _ _ _)) fun _ _ => ?_
      exact upholds_auditEvent _ _ _ _ _ _ _ _ _

theorem upholds_confirmPasswordReset (token newPassword : Option String)
    (verdict : Option (String × String)) (salt requestId : String) (now : Nat) :
    (confirmPasswordReset token newPassword verdict salt requestId now).Upholds
      (Deactivated me) (fun _ => True) := by
  unfold confirmPasswordReset
  split
  · refine upholds_bind (upholds_check (validatePasswordPolicy_cases _)) fun _ _ => ?_
    refine upholds_bind (upholds_check (rateLimited_cases _)) fun _ _ => ?_
    refine upholds_bind (upholds_guarded _ (upholds_consumeIdentityToken _ _ _)) fun record _ => ?_
    refine upholds_bind (upholds_bare (upholds_setPasswordHash _ _ _ _)) fun _ _ => ?_
    refine upholds_bind (upholds_bare (upholds_revokeAllSessions _ _ _)) fun _ _ => ?_
    refine upholds_bind (upholds_bare (upholds_getPrincipal _)) fun _ _ => ?_
    exact upholds_auditEvent _ _ _ _ _ _ _ _ _
  · exact upholds_refuseApi _ _ _

theorem upholds_requestEmailVerification (tokenId tokenSecret tokenSalt requestId : String)
    (now : Nat) :
    (requestEmailVerification context verdict tokenId tokenSecret tokenSalt requestId
      now).Upholds (Deactivated me) (fun _ => True) := by
  refine upholds_bind (upholds_check (rateLimited_cases _)) fun _ _ => ?_
  refine upholds_bind (upholds_bare (upholds_getPrincipal _)) fun principal _ => ?_
  split
  · exact upholds_refuseApi _ _ _
  split
  · exact upholds_pure trivial
  · refine upholds_bind (upholds_bare (upholds_invalidateIdentityTokens _ _ _)) fun _ _ => ?_
    refine upholds_bind (upholds_bare (upholds_storeIdentityToken _ _ _ _ _ _ _ _)) fun _ _ => ?_
    exact upholds_audit _ _ _ _ _ _ _ _

theorem upholds_confirmEmailVerification (token : Option String)
    (verdict : Option (String × String)) (requestId : String) (now : Nat) :
    (confirmEmailVerification token verdict requestId now).Upholds (Deactivated me)
      (fun _ => True) := by
  unfold confirmEmailVerification
  split
  · exact upholds_refuseApi _ _ _
  · refine upholds_bind (upholds_check (rateLimited_cases _)) fun _ _ => ?_
    refine upholds_bind (upholds_guarded _ (upholds_consumeIdentityToken _ _ _)) fun record _ => ?_
    refine upholds_bind (upholds_bare (upholds_setPrincipalEmailVerified _ _)) fun _ _ => ?_
    exact upholds_auditEvent _ _ _ _ _ _ _ _ _

theorem upholds_createApiKey (label : Option String)
    (validityDays : Option (Option Int)) (tokenId secret salt requestId : String) (now : Nat) :
    (createApiKey context label validityDays tokenId secret salt requestId now).Upholds
      (Deactivated me) (fun _ => True) := by
  unfold createApiKey
  split
  · exact upholds_refuseApi _ _ _
  · exact upholds_refuseApi _ _ _
  · refine upholds_bind (upholds_guarded _ (upholds_createApiToken _ _ _ _ _ _ _)) fun _ _ => ?_
    exact upholds_bind (upholds_audit _ _ _ _ _ _ _ _) fun _ _ => upholds_pure trivial

/-- An invitation creates a member of its own. -/
theorem upholds_inviteTeamMember (displayName email : Option String)
    (role : Option (Option String))
    (principalId tokenId tokenSecret tokenSalt requestId : String) (now : Nat) :
    (inviteTeamMember context displayName email role principalId tokenId tokenSecret tokenSalt
      requestId now).Upholds (Deactivated me) (fun _ => True) := by
  refine upholds_bind (upholds_require _ _ _ _ _ _ _) fun _ _ => ?_
  split
  · exact upholds_refuseApi _ _ _
  · exact upholds_refuseApi _ _ _
  · exact upholds_refuseApi _ _ _
  split
  · exact upholds_refuseApi _ _ _
  · refine upholds_bind (upholds_guarded _ (upholds_createPrincipal _)) fun principal _ => ?_
    refine upholds_bind (upholds_bare (upholds_storeIdentityToken _ _ _ _ _ _ _ _)) fun _ _ => ?_
    exact upholds_bind (upholds_audit _ _ _ _ _ _ _ _) fun _ _ => upholds_pure trivial

omit [IdentityPrimitives]

theorem upholds_logout (requestId : String) (now : Nat) :
    (logout context requestId now).Upholds (Deactivated me) (fun _ => True) :=
  upholds_bind (upholds_bare (upholds_revokeSession _ _ _)) fun _ _ =>
    upholds_audit _ _ _ _ _ _ _ _

theorem upholds_logoutAllSessions (requestId : String) (now : Nat) :
    (logoutAllSessions context requestId now).Upholds (Deactivated me) (fun _ => True) :=
  upholds_bind (upholds_bare (upholds_revokeAllSessions _ _ _)) fun _ _ =>
    upholds_bind (upholds_audit _ _ _ _ _ _ _ _) fun _ _ => upholds_pure trivial

theorem upholds_revokeApiKey (tokenId requestId : String) (now : Nat) :
    (revokeApiKey context tokenId requestId now).Upholds (Deactivated me) (fun _ => True) := by
  refine upholds_bind (upholds_rescue (upholds_revokeTokenOwned _ _ _) fun fault => ?_) fun _ _ => ?_
  · cases fault with
    | store e =>
      exact upholds_bind (upholds_audit _ _ _ _ _ _ _ _) fun _ _ => upholds_refuseApi _ _ _
    | contract e => exact upholds_raise _
  · exact upholds_bind (upholds_audit _ _ _ _ _ _ _ _) fun _ _ => upholds_pure trivial

theorem upholds_updateTeamMember (role : Option String) (requestId : String) (now : Nat) :
    (updateTeamMember context principalId role requestId now).Upholds (Deactivated me)
      (fun _ => True) := by
  refine upholds_bind (upholds_require _ _ _ _ _ _ _) fun _ _ => ?_
  split
  · exact upholds_refuseApi _ _ _
  split
  · exact upholds_refuseApi _ _ _
  split
  · exact upholds_refuseApi _ _ _
  refine upholds_bind (upholds_guarded _ (upholds_getPrincipalScoped _ _)) fun current _ => ?_
  split
  · exact upholds_refuseApi _ _ _
  · refine upholds_bind (upholds_guarded _ (upholds_updatePrincipalRole _ _ _)) fun updated _ => ?_
    refine upholds_bind (upholds_bare (upholds_revokeAllSessions _ _ _)) fun _ _ => ?_
    exact upholds_bind (upholds_audit _ _ _ _ _ _ _ _) fun _ _ => upholds_pure trivial

/-- A removal deactivates, and nothing else. -/
theorem upholds_removeTeamMember (principalId requestId : String)
    (now : Nat) :
    (removeTeamMember context principalId requestId now).Upholds (Deactivated me)
      (fun _ => True) := by
  refine upholds_bind (upholds_require _ _ _ _ _ _ _) fun _ _ => ?_
  split
  · exact upholds_refuseApi _ _ _
  refine upholds_bind (upholds_guarded _ (upholds_getPrincipalScoped _ _)) fun current _ => ?_
  split
  · exact upholds_refuseApi _ _ _
  · refine upholds_bind (upholds_guarded _ (upholds_setPrincipalInactive _ _)) fun updated _ => ?_
    refine upholds_bind (upholds_bare (upholds_revokeAllSessions _ _ _)) fun _ _ => ?_
    exact upholds_bind (upholds_audit _ _ _ _ _ _ _ _) fun _ _ => upholds_pure trivial

end

/-! ## Every sequence of operations -/

variable {me : String}

theorem upholds_plain {α : Type} {method : ServiceMethod α}
    (h : method.Upholds (Deactivated me) (fun _ => True)) :
    (do let _ ← method; pure {} : ServiceMethod ServiceAnswer).Upholds (Deactivated me)
      (ServiceAnswer.Excludes me) :=
  upholds_bind h fun _ _ => upholds_pure ⟨nofun, nofun⟩

theorem upholds_context {method : ServiceMethod AuthContext}
    (h : method.Upholds (Deactivated me) (fun context => context.principalId ≠ me)) :
    (do let context ← method; pure { context } : ServiceMethod ServiceAnswer).Upholds
      (Deactivated me) (ServiceAnswer.Excludes me) := by
  refine upholds_bind h fun context hcontext => upholds_pure ⟨?_, nofun⟩
  rintro _ ⟨⟩
  exact hcontext

theorem upholds_signed {method : ServiceMethod (AuthContext × IssuedBrowserSession)}
    (h : method.Upholds (Deactivated me)
      (fun signed => (signedIn signed).Excludes me)) :
    (do let signed ← method; pure (.signedIn signed) : ServiceMethod ServiceAnswer).Upholds
      (Deactivated me) (ServiceAnswer.Excludes me) :=
  upholds_bind h fun _ hsigned => upholds_pure hsigned

section

variable [IdentityPrimitives]

/-- The step lemma: one operation, whatever its arguments. -/
theorem ServiceOp.call_excludes {me : String} {s : IdentityState} (hs : Deactivated me s)
    {op : ServiceOp} (hinvites : InvitesActive s op) :
    (∀ a, (op.call s).1 = .ok a → a.Excludes me) ∧ Deactivated me (op.call s).2 := by
  have hplain : ∀ {method : ServiceMethod ServiceAnswer},
      method.Upholds (Deactivated me) (ServiceAnswer.Excludes me) →
        (∀ a, (method.run s).1 = .ok a → a.Excludes me) ∧ Deactivated me (method.run s).2 :=
    fun h => (h.run hs).symm
  cases op with
  | authenticateBrowser => exact hplain (upholds_context (upholds_authenticateBrowser _ _ _ _ _))
  | authenticateBearer => exact hplain (upholds_context (upholds_authenticateBearer _ _))
  | registerAccount => exact hplain (upholds_signed (upholds_registerAccount _ _ _ _ _ _ _))
  | login => exact hplain (upholds_signed (upholds_login _ _ _ _ _ _ _ _))
  | acceptInvitation token password verdict passwordSalt drawn settings requestId now =>
    have hsigned := triple_acceptInvitation _ _ _ _ _ _ _ _ hs hinvites
    have hend := triple_run (triple_bind (f := fun signed => pure (signedIn signed))
      (Q := fun r s' => Deactivated me s' ∧ ∀ a, r = .ok a → a.Excludes me)
      (hsigned.mono fun r s' h => by
        cases r with
        | error fault =>
          refine ⟨h.1, ?_⟩
          rintro signed ⟨⟩
        | ok signed => exact upholds_pure (h.2 signed rfl) s' h.1))
    exact hend.symm
  | changePassword => exact hplain (upholds_plain (upholds_changePassword _ _ _ _ _ _))
  | requestPasswordReset =>
    exact hplain (upholds_plain (upholds_requestPasswordReset _ _ _ _ _ _ _))
  | confirmPasswordReset => exact hplain (upholds_plain (upholds_confirmPasswordReset _ _ _ _ _ _))
  | requestEmailVerification =>
    exact hplain (upholds_plain (upholds_requestEmailVerification _ _ _ _ _ _ _))
  | confirmEmailVerification =>
    exact hplain (upholds_plain (upholds_confirmEmailVerification _ _ _ _))
  | logout => exact hplain (upholds_plain (upholds_logout _ _ _))
  | logoutAllSessions => exact hplain (upholds_plain (upholds_logoutAllSessions _ _ _))
  | createApiKey => exact hplain (upholds_plain (upholds_createApiKey _ _ _ _ _ _ _ _))
  | revokeApiKey => exact hplain (upholds_plain (upholds_revokeApiKey _ _ _ _))
  | inviteTeamMember =>
    exact hplain (upholds_plain (upholds_inviteTeamMember _ _ _ _ _ _ _ _ _ _))
  | updateTeamMember => exact hplain (upholds_plain (upholds_updateTeamMember _ _ _ _ _))
  | removeTeamMember => exact hplain (upholds_plain (upholds_removeTeamMember _ _ _ _))

/--
**Whoever has been deactivated stays out** of every sequence of operations in which the invitations
that are accepted are for active principals.
-/
theorem deactivated_stay_out {me : String} {s : IdentityState} (hs : Deactivated me s)
    {ops : List ServiceOp}
    (hinvites : Runs.Along (fun s op => (call s op).2) InvitesActive s ops) :
    ∀ r ∈ answers call s ops, ∀ a, r = .ok a → a.Excludes me :=
  answers_forall
    (A := fun r : Except ServiceFault ServiceAnswer => ∀ a, r = .ok a → a.Excludes me)
    (G := InvitesActive) (fun _ _ hs hinvites => call_excludes hs hinvites) hs hinvites

end

/-! ## Removal -/

/-- What `remove_team_member` writes. -/
theorem deactivated_of_setPrincipalInactive {principalId organizationId : String}
    {s s' : IdentityState} {updated : Principal}
    (h : (setPrincipalActive principalId organizationId false).run s = (.ok updated, s')) :
    Deactivated principalId s' := by
  obtain ⟨p, s₁, hread, h⟩ := ok_of_run_bind h
  cases h
  obtain ⟨q, s₂, hfound, hread⟩ := ok_of_run_bind hread
  obtain ⟨s₃, s₄, hstate, hfound⟩ := ok_of_run_bind hfound
  cases hstate
  split at hfound
  · cases hfound
  next p' hp =>
    cases hfound
    split at hread
    · cases hread
    · next horganization =>
      cases hread
      refine ⟨{ p with active := false }, ?_, rfl⟩
      rw [IdentityState.get?_updatePrincipal, if_pos rfl, hp, Option.map_some,
        if_pos (decide_eq_true (not_not.mp horganization))]

/-- **A removal that succeeds deactivates.** -/
theorem deactivated_of_removeTeamMember {context : AuthContext} {principalId requestId : String}
    {now : Nat} {s s' : IdentityState} {updated : Principal}
    (h : (removeTeamMember context principalId requestId now).run s = (.ok updated, s')) :
    Deactivated principalId s' := by
  obtain ⟨_, s₁, -, h⟩ := ok_of_run_bind h
  split at h
  · cases h
  obtain ⟨current, s₂, -, h⟩ := ok_of_run_bind h
  split at h
  · cases h
  obtain ⟨p, s₃, hset, h⟩ := ok_of_run_bind h
  have hrest : (do
      let _ ← bare (revokeAllSessionsForPrincipal principalId none now)
      context.audit requestId "team.remove" "principal" principalId .succeeded none now
      pure p).Upholds (Deactivated principalId) (fun _ => True) := by
    refine upholds_bind (upholds_bare (upholds_revokeAllSessions _ _ _)) fun _ _ => ?_
    exact upholds_bind (upholds_audit _ _ _ _ _ _ _ _) fun _ _ => upholds_pure trivial
  have hend := triple_run (hrest _ (deactivated_of_setPrincipalInactive (run_of_mapError hset)))
  rw [h] at hend
  exact hend.1

/-! ## An invitation that outlives a removal -/

instance (principalId : String) (s : IdentityState) : Decidable (Deactivated principalId s) :=
  decidable_of_iff
    ((s.principals.get? Principal.principalId principalId).any (·.active = false) = true) (by
      rw [Option.any_eq_true]
      simp only [decide_eq_true_eq, Deactivated])

def carolId : String := "7b8f1c1e-3c55-4f0e-9d8a-52a1f0a6c004"

def invitedAndRemoved [IdentityPrimitives] : IdentityState :=
  run (fun s op => (call s op).2) twoOwners
    [.inviteTeamMember (memberContext aliceId "Alice" sampleTokenId) (some "Carol")
        (some "carol@example.com") none carolId sampleTokenId sampleSecret
        "AAECAwQFBgcICQoLDA0ODw" "request-1" 100,
      .removeTeamMember (memberContext aliceId "Alice" sampleTokenId) carolId "request-2" 200]

def carolAccepts : ServiceOp :=
  .acceptInvitation (some sampleToken) (some "correct horse battery") none "c2FsdA"
    ⟨bobTokenId, sampleSecret, sampleSecret, "AAECAwQFBgcICQoLDA0ODw", "AAECAwQFBgcICQoLDA0ODw"⟩
    ⟨1800000000, 43200000000, none, none⟩ "request-3" 300

def daveId : String := "7b8f1c1e-3c55-4f0e-9d8a-52a1f0a6c005"

def daveTokenId : String := "5f0c9a52-6c1b-4a57-9e0c-0d1f4b8e7a23"

/-- Alice signs in and invites Dave, who accepts; then Carol tries to sign in. -/
def afterRemoval : List ServiceOp :=
  [.authenticateBearer (sampleBearer sampleTokenId) 300,
    .inviteTeamMember (memberContext aliceId "Alice" sampleTokenId) (some "Dave")
      (some "dave@example.com") none daveId daveTokenId sampleSecret "AAECAwQFBgcICQoLDA0ODw"
      "request-3" 400,
    .acceptInvitation (some ("wgi_" ++ daveTokenId ++ "_" ++ sampleSecret))
      (some "correct horse battery") none "c2FsdA"
      ⟨bobTokenId, sampleSecret, sampleSecret, "AAECAwQFBgcICQoLDA0ODw", "AAECAwQFBgcICQoLDA0ODw"⟩
      ⟨1800000000, 43200000000, none, none⟩ "request-4" 500,
    .login (some "carol@example.com") (some "correct horse battery") none "c2FsdA"
      ⟨carolId, sampleSecret, sampleSecret, "AAECAwQFBgcICQoLDA0ODw", "AAECAwQFBgcICQoLDA0ODw"⟩
      ⟨1800000000, 43200000000, none, none⟩ "request-5" 600]

theorem invitesActive_of_all [IdentityPrimitives] {s : IdentityState} {token password salt : String}
    {drawn : SessionSecrets} {settings : SessionSettings} {requestId : String} {now : Nat}
    (h : ((consumeIdentityToken token .invitation now).run s).1.toOption.all (fun record =>
      (s.principals.get? Principal.principalId record.principalId).all (·.active)) = true) :
    InvitesActive s (.acceptInvitation (some token) (some password) none salt drawn settings
      requestId now) := by
  intro _ record hrecord p hp
  rw [hrecord] at h
  simpa [Except.toOption, hp] using h

theorem deactivated_stay_out_bearer :
    letI := sampleIdentity
    (answers call invitedAndRemoved afterRemoval).Forall (fun r =>
      ∀ a, r = .ok a → a.Excludes carolId) ∧
    (answers call invitedAndRemoved afterRemoval).map (fun r =>
      (r.toOption.bind context).map AuthContext.principalId)
      = [some aliceId, none, some daveId, none] := by
  let _ := sampleIdentity
  refine ⟨List.forall_iff_forall_mem.mpr (deactivated_stay_out (by decide)
    ⟨trivial, trivial, invitesActive_of_all ?_, trivial, trivial⟩), ?_⟩
  · decide
  · decide

/-- **An invitation signs in a principal who has been removed.** -/
theorem invited_after_removal :
    letI := sampleIdentity
    ¬ ∀ (me : String) (s : IdentityState) (ops : List ServiceOp), Deactivated me s →
      ∀ r ∈ answers call s ops, ∀ a, r = .ok a → a.Excludes me := by
  let _ := sampleIdentity
  intro h
  have hexcludes := h carolId invitedAndRemoved [carolAccepts] (by decide)
    (carolAccepts.call invitedAndRemoved).1 (List.mem_singleton.mpr rfl)
  have hcontext : ((carolAccepts.call invitedAndRemoved).1.toOption.bind
      context).map AuthContext.principalId = some carolId := by
    decide
  cases hanswer : (carolAccepts.call invitedAndRemoved).1 with
  | error fault =>
    rw [hanswer] at hcontext
    cases hcontext
  | ok a =>
    rw [hanswer] at hcontext
    obtain ⟨context, hsome, hme⟩ := Option.map_eq_some_iff.mp hcontext
    exact (hexcludes a hanswer).1 context hsome hme

end WebGuard
