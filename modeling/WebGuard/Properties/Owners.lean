import WebGuard.Lib.Interleave
import WebGuard.Identity.Service
import WebGuard.Properties.IdentityTokens

/-!
# An organization and its owners

Only an owner may demote or remove an owner, and nobody may change themselves: so whoever takes
the role from an owner remains one. The role that counts is the one in the `AuthContext`, read when
the request was authenticated. By the time of the write the caller may have been demoted or
removed: two owners who remove each other both succeed (`organization_without_owner`).

`CallerStillOwner` is the condition that rules it out: whoever is about to make an active owner
anything else is an active owner at that moment. Under it an organization that has an active owner
keeps one, in every interleaving of the statements of any number of requests (`owner_remains`).
-/

namespace WebGuard

open Interrupt Program Relational

inductive TeamChange where
  /-- `update_team_member`, with the `role` of the body. -/
  | update (principalId : String) (role : Option String)
  | remove (principalId : String)

/-- A request that has been authenticated. -/
structure TeamCall where
  context : AuthContext
  change : TeamChange
  requestId : String
  now : Nat

def TeamCall.code (call : TeamCall) : ServiceMethod Principal :=
  match call.change with
  | .update principalId role => updateTeamMember call.context principalId role call.requestId call.now
  | .remove principalId => removeTeamMember call.context principalId call.requestId call.now

abbrev TeamDesk (T : Type) := Pool IdentityState ServiceFault Principal TeamCall T

variable {principalId : String}

namespace IdentityState

/-- An active principal of the organization with the owner role. -/
def isActiveOwner (s : IdentityState) (organizationId principalId : String) : Bool :=
  (s.principals.get? Principal.principalId principalId).any fun p =>
    p.organizationId = organizationId ∧ p.role = .owner ∧ p.active = true

def Owned (s : IdentityState) (organizationId : String) : Prop :=
  ∃ principalId, s.isActiveOwner organizationId principalId = true

theorem isActiveOwner_iff {s : IdentityState} {organizationId : String} :
    s.isActiveOwner organizationId principalId = true ↔
      ∃ p ∈ s.principals.rows, p.principalId = principalId ∧ p.organizationId = organizationId ∧
        p.role = .owner ∧ p.active = true := by
  rw [isActiveOwner, Option.any_eq_true]
  constructor
  · rintro ⟨p, hp, howner⟩
    rw [decide_eq_true_eq] at howner
    exact ⟨p, Table.mem_of_get? hp, Table.column_of_get? hp, howner⟩
  · rintro ⟨p, hmem, hid, howner⟩
    refine ⟨p, (Table.get?_eq_some_iff (List.mem_singleton.mpr rfl)).mpr ⟨hmem, hid⟩, ?_⟩
    rw [decide_eq_true_eq]
    exact howner

instance (s : IdentityState) (organizationId : String) : Decidable (s.Owned organizationId) :=
  decidable_of_iff
    (∃ p ∈ s.principals.rows, p.organizationId = organizationId ∧ p.role = .owner ∧
      p.active = true)
    ⟨fun ⟨p, hmem, howner⟩ => ⟨p.principalId, isActiveOwner_iff.mpr ⟨p, hmem, rfl, howner⟩⟩,
      fun ⟨_, howner⟩ =>
        have ⟨p, hmem, _, hp⟩ := isActiveOwner_iff.mp howner
        ⟨p, hmem, hp⟩⟩

end IdentityState

/-- Whoever is about to make an active owner anything else is an active owner. -/
def CallerStillOwner {T : Type} (s : TeamDesk T) : Interrupt.Turn TeamCall T → Prop
  | .call _ _ => True
  | .go t => ∀ due ∈ s.due t, ∀ p ∈ s.shared.principals.rows,
      s.shared.isActiveOwner p.organizationId p.principalId = true →
      (due.2 s.shared).isActiveOwner p.organizationId p.principalId = false →
      s.shared.isActiveOwner p.organizationId due.1.context.principalId = true

instance {T : Type} (s : TeamDesk T) :
    (turn : Interrupt.Turn TeamCall T) → Decidable (CallerStillOwner s turn)
  | .call _ _ => isTrue trivial
  | .go t => inferInstanceAs (Decidable (∀ due ∈ s.due t, ∀ p ∈ s.shared.principals.rows,
      s.shared.isActiveOwner p.organizationId p.principalId = true →
      (due.2 s.shared).isActiveOwner p.organizationId p.principalId = false →
      s.shared.isActiveOwner p.organizationId due.1.context.principalId = true))

/-- The write leaves the row of the principal. -/
def LeavesPrincipal (principalId : String) (f : IdentityState → IdentityState) : Prop :=
  ∀ s, (f s).principals.get? Principal.principalId principalId
    = s.principals.get? Principal.principalId principalId

/-! ## What a request writes -/

section

variable {me : String} {α : Type}

theorem leaves_of_principals {f : IdentityState → IdentityState}
    (hf : ∀ s, (f s).principals = s.principals) : LeavesPrincipal me f := by
  intro s
  rw [hf]

theorem leaves_updatePrincipal (hne : principalId ≠ me) (guard : Principal → Bool)
    (f : Principal → Principal) (keeps : ∀ p, (f p).principalId = p.principalId) :
    LeavesPrincipal me fun s => s.updatePrincipal principalId guard f keeps := by
  intro s
  rw [IdentityState.get?_updatePrincipal, if_neg hne.symm]

theorem each_refuseStore (code message : String) :
    (refuseStore code message : IdentityMethod α).Each (LeavesPrincipal me) (fun _ => True) :=
  each_raise trivial

theorem each_refuseApi (code message : String) (status : Nat) :
    (refuseApi code message status : ServiceMethod α).Each (LeavesPrincipal me) (fun _ => True) :=
  each_raise trivial

theorem each_getPrincipalScoped (principalId organizationId : String) :
    (getPrincipalScoped principalId organizationId).Each (LeavesPrincipal me) (fun _ => True) := by
  refine each_bind (each_read fun s => ?_) fun p => ?_
  · split
    · exact each_refuseStore _ _
    · exact each_pure _
  · split
    · exact each_refuseStore _ _
    · exact each_pure _

theorem each_updatePrincipalRole (hne : principalId ≠ me) (organizationId : String)
    (role : OrganizationRole) :
    (updatePrincipalRole principalId organizationId role).Each (LeavesPrincipal me)
      (fun _ => True) :=
  each_bind (each_getPrincipalScoped _ _) fun _ =>
    each_bind (each_modify (leaves_updatePrincipal hne _ _ _)) fun _ => each_pure _

theorem each_setPrincipalActive (hne : principalId ≠ me) (organizationId : String) (active : Bool) :
    (setPrincipalActive principalId organizationId active).Each (LeavesPrincipal me)
      (fun _ => True) :=
  each_bind (each_getPrincipalScoped _ _) fun _ =>
    each_bind (each_modify (leaves_updatePrincipal hne _ _ _)) fun _ => each_pure _

theorem each_revokeAllSessions (principalId : String) (exceptSessionId : Option String)
    (now : Nat) :
    (revokeAllSessionsForPrincipal principalId exceptSessionId now).Each (LeavesPrincipal me)
      (fun _ => True) := by
  refine each_read fun s => each_bind ?_ fun _ => each_pure _
  generalize s.sessions.filter _ = targets
  induction targets with
  | nil => exact each_pure _
  | cons x rest ih =>
    exact each_bind (each_modify (leaves_of_principals fun _ => rfl)) fun _ => ih

theorem each_audit (context : AuthContext) (requestId action resourceType resourceId : String)
    (outcome : AuditOutcome) (detailCode : Option String) (now : Nat) :
    (context.audit requestId action resourceType resourceId outcome detailCode now).Each
      (LeavesPrincipal me) (fun _ => True) :=
  each_modify (leaves_of_principals fun _ => rfl)

theorem each_require (context : AuthContext) (permission : ApiPermission)
    (requestId action resourceType resourceId : String) (now : Nat) :
    (context.require permission requestId action resourceType resourceId now).Each
      (LeavesPrincipal me) (fun _ => True) := by
  unfold AuthContext.require
  split
  · exact each_pure _
  · exact each_bind (each_audit _ _ _ _ _ _ _ _) fun _ => each_refuseApi _ _ _

variable {method : IdentityMethod α}

theorem each_guarded (status : Nat)
    (h : method.Each (LeavesPrincipal me) (fun _ => True)) :
    (guarded status method).Each (LeavesPrincipal me) (fun _ => True) :=
  each_mapError h fun _ _ => trivial

theorem each_bare (h : method.Each (LeavesPrincipal me) (fun _ => True)) :
    (bare method).Each (LeavesPrincipal me) (fun _ => True) :=
  each_mapError h fun _ _ => trivial

end

theorem each_updateTeamMember (context : AuthContext) (principalId : String) (role : Option String)
    (requestId : String) (now : Nat) :
    (updateTeamMember context principalId role requestId now).Each
      (LeavesPrincipal context.principalId) (fun _ => True) := by
  refine each_bind (each_require _ _ _ _ _ _ _) fun _ => ?_
  split
  · exact each_refuseApi _ _ _
  · next hne =>
    split
    · exact each_refuseApi _ _ _
    · split
      · exact each_refuseApi _ _ _
      · refine each_bind (each_guarded _ (each_getPrincipalScoped _ _)) fun current => ?_
        split
        · exact each_refuseApi _ _ _
        · refine each_bind (each_guarded _ (each_updatePrincipalRole hne _ _)) fun updated => ?_
          refine each_bind (each_bare (each_revokeAllSessions _ _ _)) fun _ => ?_
          exact each_bind (each_audit _ _ _ _ _ _ _ _) fun _ => each_pure _

theorem each_removeTeamMember (context : AuthContext) (principalId requestId : String)
    (now : Nat) :
    (removeTeamMember context principalId requestId now).Each
      (LeavesPrincipal context.principalId) (fun _ => True) := by
  refine each_bind (each_require _ _ _ _ _ _ _) fun _ => ?_
  split
  · exact each_refuseApi _ _ _
  · next hne =>
    refine each_bind (each_guarded _ (each_getPrincipalScoped _ _)) fun current => ?_
    split
    · exact each_refuseApi _ _ _
    · refine each_bind (each_guarded _ (each_setPrincipalActive hne _ _)) fun updated => ?_
      refine each_bind (each_bare (each_revokeAllSessions _ _ _)) fun _ => ?_
      exact each_bind (each_audit _ _ _ _ _ _ _ _) fun _ => each_pure _

theorem each_code (call : TeamCall) :
    call.code.Each (LeavesPrincipal call.context.principalId) (fun _ => True) := by
  unfold TeamCall.code
  split
  · exact each_updateTeamMember _ _ _ _ _
  · exact each_removeTeamMember _ _ _ _

/-! ## Every interleaving -/

/--
**An organization that has an active owner keeps one** in every interleaving of requests in which
whoever takes the role from an active owner, or removes one, is an active owner at that moment.
-/
theorem owner_remains {T : Type} [DecidableEq T] {organizationId : String} {start : IdentityState}
    (hstart : start.Owned organizationId) {turns : List (Interrupt.Turn TeamCall T)}
    (hcaller : Runs.Along (Pool.step TeamCall.code) CallerStillOwner (Pool.idle start) turns) :
    (Runs.run (Pool.step TeamCall.code) (Pool.idle start) turns).shared.Owned organizationId := by
  refine Pool.shared_run (I := fun s => s.Owned organizationId) each_code ?_ hstart hcaller
  rintro s t call f ⟨principalId, howner⟩ hstill hdue hleaves
  cases hafter : (f s.shared).isActiveOwner organizationId principalId with
  | true => exact ⟨principalId, hafter⟩
  | false =>
    obtain ⟨p, hmem, rfl, rfl, -⟩ := IdentityState.isActiveOwner_iff.mp howner
    have hme := hstill (call, f) hdue p hmem howner hafter
    refine ⟨call.context.principalId, ?_⟩
    rw [IdentityState.isActiveOwner, hleaves]
    exact hme

/-! ## Two owners -/

def Authenticated [IdentityPrimitives] {T : Type} (start : IdentityState)
    (turns : List (Interrupt.Turn TeamCall T)) : Prop :=
  ∀ t call, .call t call ∈ turns →
    ∃ token now, ((authenticateBearer token now).run start).1 = .ok call.context

@[reducible] def sampleIdentity : IdentityPrimitives where
  toSecretHashing := sampleHashing
  casefold := fun s => String.ofList (s.toList.map toLower)
  hashPassword := fun password salt => "$argon2id$v=19$m=65536,t=3,p=4$" ++ salt ++ "$" ++ password
  verifyPassword := fun password encoded =>
    password.toList.isSuffixOf encoded.toList
  needsRehash := fun _ => false

def sampleTenantId : String := "7b8f1c1e-3c55-4f0e-9d8a-52a1f0a6c001"

def sampleOwner (principalId displayName : String) : Principal where
  principalId := principalId
  organizationId := sampleTenantId
  displayName := displayName
  principalType := .user
  role := .owner
  active := true
  createdAt := 50
  email := none
  emailVerifiedAt := none
  lastLoginAt := none

def aliceId : String := "7b8f1c1e-3c55-4f0e-9d8a-52a1f0a6c002"

def bobId : String := "7b8f1c1e-3c55-4f0e-9d8a-52a1f0a6c003"

def sampleApiToken (tokenId principalId : String) : ApiTokenRow where
  metadata :=
    { tokenId, organizationId := sampleTenantId, principalId, label := "cli",
      createdAt := 60, expiresAt := 7776000000060, revokedAt := none, lastUsedAt := none }
  secretHash := sampleHashing.hashSecret sampleSecret "AAECAwQFBgcICQoLDA0ODw"

def sampleBearer (tokenId : String) : String := "wgt_" ++ tokenId ++ "_" ++ sampleSecret

def bobTokenId : String := "5f0c9a52-6c1b-4a57-9e0c-0d1f4b8e7a22"

def twoOwners : IdentityState where
  organizations := [⟨sampleTenantId, "Example", .active, 50⟩]
  principals :=
    { rows := [sampleOwner aliceId "Alice", sampleOwner bobId "Bob"]
      unique := by
        intro c hc
        rw [List.mem_singleton.mp hc]
        decide }
  apiTokens := [sampleApiToken sampleTokenId aliceId, sampleApiToken bobTokenId bobId]

def memberContext (principalId principalName tokenId : String) : AuthContext where
  organizationId := sampleTenantId
  organizationName := "Example"
  principalId := principalId
  principalName := principalName
  role := .owner
  tokenId := tokenId
  authMethod := .apiToken

def aliceRemovesBob : TeamCall :=
  ⟨memberContext aliceId "Alice" sampleTokenId, .remove bobId, "request-1", 200⟩

def bobRemovesAlice : TeamCall :=
  ⟨memberContext bobId "Bob" bobTokenId, .remove aliceId, "request-2", 200⟩

def oneRemoval : List (Interrupt.Turn TeamCall Bool) :=
  .call true aliceRemovesBob :: List.replicate 6 (.go true)

def bothRemovals : List (Interrupt.Turn TeamCall Bool) :=
  .call true aliceRemovesBob :: .call false bobRemovesAlice ::
    (List.replicate 6 (.go true) ++ List.replicate 6 (.go false))

theorem owner_remains_removal :
    (Runs.run (Pool.step TeamCall.code) (Pool.idle twoOwners) oneRemoval).shared.Owned
      sampleTenantId :=
  owner_remains (by decide) (by decide)

/-- **Two owners who remove each other leave the organization without one.** -/
theorem organization_without_owner :
    letI := sampleIdentity
    ¬ ∀ (start : IdentityState) (organizationId : String) (turns : List (Interrupt.Turn TeamCall Bool)),
      start.Owned organizationId → Authenticated start turns →
        (Runs.run (Pool.step TeamCall.code) (Pool.idle start) turns).shared.Owned
          organizationId := by
  let _ := sampleIdentity
  intro h
  have hcontext : ∀ tokenId call,
      ((authenticateBearer (sampleBearer tokenId) 100).run twoOwners).1.toOption
        = some (TeamCall.context call) →
      ∃ token now, ((authenticateBearer token now).run twoOwners).1 = .ok call.context := by
    intro tokenId call hsome
    refine ⟨sampleBearer tokenId, 100, ?_⟩
    cases hanswer : ((authenticateBearer (sampleBearer tokenId) 100).run twoOwners).1 with
    | error fault =>
      rw [hanswer] at hsome
      cases hsome
    | ok context =>
      rw [hanswer] at hsome
      rw [Option.some.inj hsome]
  have hauthenticated : Authenticated twoOwners bothRemovals := by
    intro t call hmem
    have hcall : t = true ∧ call = aliceRemovesBob ∨ t = false ∧ call = bobRemovesAlice := by
      simpa [bothRemovals] using hmem
    rcases hcall with ⟨-, rfl⟩ | ⟨-, rfl⟩
    · exact hcontext sampleTokenId aliceRemovesBob (by decide)
    · exact hcontext bobTokenId bobRemovesAlice (by decide)
  have howned := h twoOwners sampleTenantId bothRemovals (by decide) hauthenticated
  revert howned
  decide

end WebGuard
