import WebGuard.Identity.State

/-!
# Accounts, sessions and teams

The authenticators, and the operations of the service that read or change who may sign in: the
browser authentication of `ApiService`, its team management and its API keys.

A request body is given by the fields that the operation looks at, `none` where the body is not an
object or the field is missing or not a text; where the source tells these cases apart, the field
is an `Option` of an `Option`, `some none` for a value of another kind. What the rate limiter
answers is an argument, as are the identifiers and secrets that are drawn. Mail is sent
best-effort and changes nothing here.
-/

namespace WebGuard

open Interrupt Program Relational IdentityPrimitives

/-! ## Permissions -/

inductive ApiPermission where
  | jobSubmit | jobRead | jobCancel
  | scheduleCreate | scheduleRead | scheduleUpdate
  | auditRead | identityManage | authorizationAssign
  | permitIssue | permitIssueActive | permitRead | permitRevoke
  | authenticationContextRegister | authenticationContextRead | authenticationContextRevoke
  | authorizationComparisonRegister | authorizationComparisonRead | authorizationComparisonRevoke
  | findingRead | findingUpdate
  | reportCreate | reportRead
  | assetRead | assetManage
  | teamRead | teamManage
  | moduleEntitlementsRead | moduleEntitlementsManage
  | socConnectorRead
  | complianceCatalogRead | complianceAssertionRead | complianceAssertionCollect
deriving DecidableEq

/-- `_ROLE_PERMISSIONS`. -/
def OrganizationRole.permits : OrganizationRole → ApiPermission → Bool
  | owner, _ => true
  | administrator, permission =>
    permission ∉ [.permitIssueActive, .authenticationContextRegister, .authenticationContextRead,
      .authenticationContextRevoke, .authorizationComparisonRegister,
      .authorizationComparisonRead, .authorizationComparisonRevoke, .moduleEntitlementsManage]
  | analyst, permission =>
    permission ∈ [.jobSubmit, .jobRead, .jobCancel, .scheduleCreate, .scheduleRead,
      .scheduleUpdate, .permitRead, .findingRead, .findingUpdate, .reportCreate, .reportRead,
      .assetRead, .assetManage, .teamRead, .moduleEntitlementsRead, .socConnectorRead,
      .complianceCatalogRead, .complianceAssertionRead, .complianceAssertionCollect]
  | viewer, permission =>
    permission ∈ [.jobRead, .scheduleRead, .permitRead, .findingRead, .reportRead, .assetRead,
      .teamRead, .moduleEntitlementsRead, .socConnectorRead, .complianceCatalogRead,
      .complianceAssertionRead]

inductive AuthMethod where
  | apiToken | browserSession
deriving DecidableEq

structure AuthContext where
  organizationId : String
  organizationName : String
  principalId : String
  principalName : String
  role : OrganizationRole
  tokenId : String
  authMethod : AuthMethod
deriving DecidableEq

/-! ## Failures -/

/-- What an operation raises. -/
inductive ServiceFault where
  /-- `ApiServiceError` or `AuthenticationError`. -/
  | api (code message : String) (status : Nat)
  /-- An error of a store that nobody translates. -/
  | uncaught (fault : IdentityFault)
deriving DecidableEq

/-- `except IdentityStoreError as exc: raise ApiServiceError(exc.code, exc.message, status=…)`. -/
def IdentityFault.translated (status : Nat) : IdentityFault → ServiceFault
  | .store e => .api e.code e.message status
  | .contract e => .uncaught (.contract e)

abbrev ServiceMethod := Program IdentityState ServiceFault

def refuseApi {α : Type} (code message : String) (status : Nat) : ServiceMethod α :=
  raise (.api code message status)

/-- A call of a method outside of any `try`. -/
def bare {α : Type} (method : IdentityMethod α) : ServiceMethod α := method.mapError .uncaught

/-- A call of a method whose errors are answered with a status. -/
def guarded {α : Type} (status : Nat) (method : IdentityMethod α) : ServiceMethod α :=
  method.mapError (IdentityFault.translated status)

/-- `check_and_record`: nothing, or the code and the message of a `RateLimitError`. -/
def rateLimited (verdict : Option (String × String)) : ServiceMethod Unit :=
  match verdict with
  | none => pure ()
  | some (code, message) => refuseApi code message 429

def validatePasswordPolicy (password : String) : ServiceMethod Unit :=
  if password.toList.length < 12 then
    refuseApi "password_too_short" "Password must be at least 12 characters." 400
  else if 256 < password.toList.length then
    refuseApi "password_too_long" "Password must be at most 256 characters." 400
  else pure ()

/-! ## Audit -/

/-- `_audit_identity_event`, and `_audit` with the identifiers of its context. -/
def auditEvent (organizationId principalId requestId action resourceType resourceId : String)
    (outcome : AuditOutcome) (detailCode : Option String) (now : Nat) : ServiceMethod Unit :=
  let event : SecurityAuditEvent :=
    { requestId, organizationId, principalId, action, resourceType, resourceId, outcome,
      occurredAt := now, detailCode }
  modify fun s => { s with audits := event :: s.audits }

namespace AuthContext

def audit (context : AuthContext) (requestId action resourceType resourceId : String)
    (outcome : AuditOutcome) (detailCode : Option String) (now : Nat) : ServiceMethod Unit :=
  auditEvent context.organizationId context.principalId requestId action resourceType resourceId
    outcome detailCode now

def require (context : AuthContext) (permission : ApiPermission)
    (requestId action resourceType resourceId : String) (now : Nat) : ServiceMethod Unit :=
  if context.role.permits permission then pure ()
  else do
    context.audit requestId action resourceType resourceId .denied (some "permission_denied") now
    refuseApi "permission_denied"
      "The authenticated principal is not permitted to perform this action." 403

end AuthContext

/-! ## Authentication -/

section

variable [IdentityPrimitives]

/-- `BrowserSessionAuthenticator.authenticate`. -/
def authenticateBrowser (sessionToken : String) (csrfHeader : Option String) (requireCsrf : Bool)
    (idleTtl now : Nat) : ServiceMethod AuthContext := do
  let session ← (authenticateSession sessionToken idleTtl csrfHeader requireCsrf now).mapError
    fun fault =>
      match fault with
      | .store e => .api e.code e.message (if e.code = "csrf_token_invalid" then 403 else 401)
      | .contract e => .uncaught (.contract e)
  let principal ← guarded 401 (getPrincipal session.principalId)
  let organization ← guarded 401 (getOrganization session.organizationId)
  if principal.active = false then refuseApi "principal_disabled" "Principal is disabled." 401
  else if organization.status ≠ .active then
    refuseApi "organization_disabled" "Organization is disabled." 401
  else
    pure { organizationId := organization.organizationId, organizationName := organization.name,
           principalId := principal.principalId, principalName := principal.displayName,
           role := principal.role, tokenId := session.sessionId, authMethod := .browserSession }

/-- `ApiTokenAuthenticator.authenticate`, from the token that the header carries. -/
def authenticateBearer (token : String) (now : Nat) : ServiceMethod AuthContext := do
  let (metadata, principal, organization) ← guarded 401 (authenticateApiToken token now)
  pure { organizationId := organization.organizationId, organizationName := organization.name,
         principalId := principal.principalId, principalName := principal.displayName,
         role := principal.role, tokenId := metadata.tokenId, authMethod := .apiToken }

def issueSessionContext (principal : Principal) (organization : Organization)
    (issued : IssuedBrowserSession) : AuthContext where
  organizationId := organization.organizationId
  organizationName := organization.name
  principalId := principal.principalId
  principalName := principal.displayName
  role := principal.role
  tokenId := issued.record.sessionId
  authMethod := .browserSession

/-- How long sessions last, and where a request comes from. -/
structure SessionSettings where
  idleTimeout : Nat
  absoluteTimeout : Nat
  userAgent : Option String
  ipAddress : Option String

/-- The end of the three operations that sign somebody in. -/
def signIn (principal : Principal) (organization : Organization) (drawn : SessionSecrets)
    (settings : SessionSettings) (requestId action : String) (now : Nat) :
    ServiceMethod (AuthContext × IssuedBrowserSession) := do
  let issued ← bare (createSession principal.principalId organization.organizationId drawn
    settings.idleTimeout settings.absoluteTimeout settings.userAgent settings.ipAddress now)
  bare (touchLastLogin principal.principalId now)
  let context := issueSessionContext principal organization issued
  context.audit requestId action "principal" principal.principalId .succeeded none now
  pure (context, issued)

/-- What `register_account` draws. -/
structure RegistrationSecrets where
  organizationId : String
  principalId : String
  passwordSalt : String
  tokenId : String
  tokenSecret : String
  tokenSalt : String

/-- The body of a registration. -/
structure RegistrationBody where
  organizationName : Option String
  displayName : Option String
  email : Option String
  password : Option String

/-- The fields of a body that has them all, not stripped. -/
structure RegistrationFields where
  organizationName : String
  displayName : String
  email : String
  password : String

/-- The checks of the body, up to the rate limit. -/
def registrationFields (body : Option RegistrationBody) : Except ServiceFault RegistrationFields :=
  let filled := fun field : RegistrationBody → Option String =>
    (body.bind field).filter fun v => strip v ≠ ""
  let refuse := fun (code message : String) => Except.error (ServiceFault.api code message 400)
  match body, filled (·.organizationName), filled (·.displayName), filled (·.email),
    body.bind (·.password) with
  | none, _, _, _, _ => refuse "register_body_invalid" "Request body must be a JSON object."
  | some _, none, _, _, _ => refuse "register_body_invalid" "organization_name is required."
  | some _, some _, none, _, _ => refuse "register_body_invalid" "display_name is required."
  | some _, some _, some _, none, _ => refuse "register_body_invalid" "email is required."
  | some _, some _, some _, some _, none => refuse "password_invalid" "Password must be text."
  | some _, some organizationName, some displayName, some email, some password =>
    .ok { organizationName, displayName, email, password }

/-- The owner that is created with the organization. -/
def newOwner (fields : RegistrationFields) (fresh : RegistrationSecrets) (organizationId : String)
    (now : Nat) : Principal where
  principalId := fresh.principalId
  organizationId := organizationId
  displayName := strip fields.displayName
  principalType := .user
  role := .owner
  active := true
  createdAt := now
  email := some (strip fields.email)
  emailVerifiedAt := none
  lastLoginAt := none

def registerAccount (body : Option RegistrationBody) (verdict : Option (String × String))
    (fresh : RegistrationSecrets) (drawn : SessionSecrets) (settings : SessionSettings)
    (requestId : String) (now : Nat) : ServiceMethod (AuthContext × IssuedBrowserSession) := do
  let fields ← ofExcept (registrationFields body)
  validatePasswordPolicy fields.password
  rateLimited verdict
  let existing ← bare (getPrincipalByEmail (strip fields.email))
  if existing.isSome then
    refuseApi "register_email_in_use" "An account with that email address already exists." 409
  else
    let organization ←
      guarded 400 (createOrganization fresh.organizationId (strip fields.organizationName) now)
    let principal ← guarded 400 (createPrincipal
      (newOwner fields fresh organization.organizationId now))
    bare (setPasswordHash principal.principalId "argon2id"
      (hashPassword fields.password fresh.passwordSalt) now)
    let _ ← bare (storeIdentityToken fresh.tokenId fresh.tokenSecret fresh.tokenSalt
      principal.principalId organization.organizationId .emailVerification 86400000000 now)
    signIn principal organization drawn settings requestId "auth.register" now

def login (email password : Option String) (verdict : Option (String × String))
    (rehashSalt : String) (drawn : SessionSecrets) (settings : SessionSettings)
    (requestId : String) (now : Nat) : ServiceMethod (AuthContext × IssuedBrowserSession) :=
  match email, password with
  | some email, some password => do
    rateLimited verdict
    match ← bare (getPrincipalByEmail (strip email)) with
    | none => refuseApi "invalid_credentials" "Invalid email or password." 401
    | some principal =>
      let stored ← bare (getPasswordHash principal.principalId)
      if !(principal.active && stored.any (verifyPassword password)) then
        auditEvent principal.organizationId principal.principalId requestId "auth.login" "principal"
          principal.principalId .failed (some "invalid-credentials") now
        refuseApi "invalid_credentials" "Invalid email or password." 401
      else
        if stored.any needsRehash then
          bare (setPasswordHash principal.principalId "argon2id"
            (hashPassword password rehashSalt) now)
        let organization ← bare (getOrganization principal.organizationId)
        signIn principal organization drawn settings requestId "auth.login" now
  | _, _ => refuseApi "login_body_invalid" "email and password are required." 400

def acceptInvitation (token password : Option String) (verdict : Option (String × String))
    (passwordSalt : String) (drawn : SessionSecrets) (settings : SessionSettings)
    (requestId : String) (now : Nat) : ServiceMethod (AuthContext × IssuedBrowserSession) :=
  match token, password with
  | some token, some password => do
    validatePasswordPolicy password
    rateLimited verdict
    let record ← guarded 400 (consumeIdentityToken token .invitation now)
    bare (setPasswordHash record.principalId "argon2id"
      (hashPassword password passwordSalt) now)
    let _ ← bare (setPrincipalEmailVerified record.principalId now)
    let principal ← bare (getPrincipal record.principalId)
    let organization ← bare (getOrganization record.organizationId)
    signIn principal organization drawn settings requestId "auth.invitation_accepted" now
  | _, _ => refuseApi "invitation_accept_body_invalid" "token and password are required." 400

/-! ## Passwords and addresses -/

def changePassword (context : AuthContext) (currentPassword newPassword : Option String)
    (salt requestId : String) (now : Nat) : ServiceMethod Unit :=
  match currentPassword, newPassword with
  | some currentPassword, some newPassword => do
    let stored ← bare (getPasswordHash context.principalId)
    if !(stored.any (verifyPassword currentPassword)) then
      context.audit requestId "auth.password_change" "principal" context.principalId .failed
        (some "current-password-incorrect") now
      refuseApi "current_password_incorrect" "Current password is incorrect." 401
    else
      validatePasswordPolicy newPassword
      bare (setPasswordHash context.principalId "argon2id"
        (hashPassword newPassword salt) now)
      let _ ← bare (revokeAllSessionsForPrincipal context.principalId
        (if context.authMethod = .browserSession then some context.tokenId else none) now)
      let _ ← bare (getPrincipal context.principalId)
      context.audit requestId "auth.password_change" "principal" context.principalId .succeeded
        none now
  | _, _ =>
    refuseApi "password_change_body_invalid" "current_password and new_password are required." 400

/-- The answer is the same whether or not there is an account. -/
def requestPasswordReset (email : Option String) (verdict : Option (String × String))
    (tokenId tokenSecret tokenSalt requestId : String) (now : Nat) : ServiceMethod Unit :=
  match email.filter fun v => strip v ≠ "" with
  | none => refuseApi "password_reset_body_invalid" "email is required." 400
  | some email => do
    rateLimited verdict
    match ← bare (getPrincipalByEmail (strip email)) with
    | none => pure ()
    | some principal =>
      if principal.active = false then pure ()
      else
        bare (invalidateIdentityTokens principal.principalId .passwordReset now)
        let _ ← bare (storeIdentityToken tokenId tokenSecret tokenSalt principal.principalId
          principal.organizationId .passwordReset 3600000000 now)
        auditEvent principal.organizationId principal.principalId requestId
          "auth.password_reset_requested" "principal" principal.principalId .succeeded none now

def confirmPasswordReset (token newPassword : Option String) (verdict : Option (String × String))
    (salt requestId : String) (now : Nat) : ServiceMethod Unit :=
  match token, newPassword with
  | some token, some newPassword => do
    validatePasswordPolicy newPassword
    rateLimited verdict
    let record ← guarded 400 (consumeIdentityToken token .passwordReset now)
    bare (setPasswordHash record.principalId "argon2id"
      (hashPassword newPassword salt) now)
    let _ ← bare (revokeAllSessionsForPrincipal record.principalId none now)
    let _ ← bare (getPrincipal record.principalId)
    auditEvent record.organizationId record.principalId requestId "auth.password_reset_completed"
      "principal" record.principalId .succeeded none now
  | _, _ =>
    refuseApi "password_reset_confirm_body_invalid" "token and new_password are required." 400

def requestEmailVerification (context : AuthContext) (verdict : Option (String × String))
    (tokenId tokenSecret tokenSalt requestId : String) (now : Nat) : ServiceMethod Unit := do
  rateLimited verdict
  let principal ← bare (getPrincipal context.principalId)
  if principal.email.isNone then
    refuseApi "no_email_on_file" "This account has no email address on file." 400
  else if principal.emailVerifiedAt.isSome then pure ()
  else
    bare (invalidateIdentityTokens principal.principalId .emailVerification now)
    let _ ← bare (storeIdentityToken tokenId tokenSecret tokenSalt principal.principalId
      context.organizationId .emailVerification 86400000000 now)
    context.audit requestId "auth.email_verification_requested" "principal" context.principalId
      .succeeded none now

def confirmEmailVerification (token : Option String) (verdict : Option (String × String))
    (requestId : String) (now : Nat) : ServiceMethod Unit :=
  match token with
  | none => refuseApi "email_verification_body_invalid" "token is required." 400
  | some token => do
    rateLimited verdict
    let record ← guarded 400 (consumeIdentityToken token .emailVerification now)
    let _ ← bare (setPrincipalEmailVerified record.principalId now)
    auditEvent record.organizationId record.principalId requestId "auth.email_verified"
      "principal" record.principalId .succeeded none now

def logout (context : AuthContext) (requestId : String) (now : Nat) : ServiceMethod Unit := do
  bare (revokeSession context.tokenId context.principalId now)
  context.audit requestId "auth.logout" "session" context.tokenId .succeeded none now

def logoutAllSessions (context : AuthContext) (requestId : String) (now : Nat) :
    ServiceMethod Nat := do
  let count ← bare (revokeAllSessionsForPrincipal context.principalId none now)
  context.audit requestId "auth.logout_all" "principal" context.principalId .succeeded none now
  pure count

/-! ## API keys -/

def createApiKey (context : AuthContext) (label : Option String)
    (validityDays : Option (Option Int))
    (tokenId secret salt requestId : String) (now : Nat) :
    ServiceMethod (ApiTokenMetadata × String) :=
  match label.filter fun v => strip v ≠ "", validityDays.getD (some 90) with
  | none, _ => refuseApi "api_key_body_invalid" "label is required." 400
  | some _, none => refuseApi "api_key_validity_invalid" "validity_days must be an integer." 400
  | some label, some days => do
    let issued ←
      guarded 400 (createApiToken context.principalId (strip label) tokenId secret salt days now)
    context.audit requestId "api_keys.create" "principal" context.principalId .succeeded none now
    pure issued

end

def revokeApiKey (context : AuthContext) (tokenId requestId : String) (now : Nat) :
    ServiceMethod ApiTokenMetadata := do
  let metadata ← (revokeTokenOwned tokenId context.principalId now).rescue fun fault =>
    match fault with
    | .store e => do
      context.audit requestId "api_keys.revoke" "principal" context.principalId .denied
        (some e.code) now
      refuseApi e.code e.message 404
    | .contract e => raise (.uncaught (.contract e))
  context.audit requestId "api_keys.revoke" "principal" context.principalId .succeeded none now
  pure metadata

/-! ## The team -/

def inviteTeamMember [IdentityPrimitives] (context : AuthContext)
    (displayName email : Option String) (role : Option (Option String))
    (principalId tokenId tokenSecret tokenSalt requestId : String) (now : Nat) :
    ServiceMethod Principal := do
  context.require .teamManage requestId "team.invite" "principal" "pending" now
  match displayName.filter fun v => strip v ≠ "", email.filter fun v => strip v ≠ "",
    (role.getD (some "viewer")).bind OrganizationRole.ofValue with
  | none, _, _ => refuseApi "team_invite_body_invalid" "display_name is required." 400
  | some _, none, _ => refuseApi "team_invite_body_invalid" "email is required." 400
  | some _, some _, none =>
    refuseApi "team_invite_role_invalid"
      "role must be one of: owner, administrator, analyst, viewer" 400
  | some displayName, some email, some role =>
    if role = .owner ∧ context.role ≠ .owner then
      refuseApi "team_owner_role_requires_owner" "Only an owner may grant the owner role." 403
    else
      let principal ← guarded 400 (createPrincipal
        { principalId, organizationId := context.organizationId, displayName := strip displayName,
          principalType := .user, role, active := true, createdAt := now,
          email := some (strip email), emailVerifiedAt := none, lastLoginAt := none })
      let _ ← bare (storeIdentityToken tokenId tokenSecret tokenSalt principal.principalId
        context.organizationId .invitation 604800000000 now)
      context.audit requestId "team.invite" "principal" principal.principalId .succeeded none now
      pure principal

def updateTeamMember (context : AuthContext) (principalId : String) (role : Option String)
    (requestId : String) (now : Nat) : ServiceMethod Principal := do
  context.require .teamManage requestId "team.update" "principal" principalId now
  if principalId = context.principalId then
    refuseApi "team_cannot_modify_self"
      "Use another owner/administrator account to change your own role." 403
  else
    match role with
    | none =>
      refuseApi "team_update_body_invalid" "Request body must include a string role field." 400
    | some value =>
      match OrganizationRole.ofValue value with
      | none =>
        refuseApi "team_update_role_invalid"
          "role must be one of: owner, administrator, analyst, viewer" 400
      | some role =>
        let current ← guarded 404 (getPrincipalScoped principalId context.organizationId)
        if (role = .owner ∨ current.role = .owner) ∧ context.role ≠ .owner then
          refuseApi "team_owner_role_requires_owner"
            "Only an owner may grant or remove the owner role." 403
        else
          let updated ← guarded 404 (updatePrincipalRole principalId context.organizationId role)
          let _ ← bare (revokeAllSessionsForPrincipal principalId none now)
          context.audit requestId "team.update" "principal" principalId .succeeded none now
          pure updated

/-- A removal is a deactivation; no row is deleted. -/
def removeTeamMember (context : AuthContext) (principalId requestId : String) (now : Nat) :
    ServiceMethod Principal := do
  context.require .teamManage requestId "team.remove" "principal" principalId now
  if principalId = context.principalId then
    refuseApi "team_cannot_modify_self"
      "Use another owner/administrator account to remove your own access." 403
  else
    let current ← guarded 404 (getPrincipalScoped principalId context.organizationId)
    if current.role = .owner ∧ context.role ≠ .owner then
      refuseApi "team_owner_role_requires_owner" "Only an owner may remove another owner." 403
    else
      let updated ← guarded 404 (setPrincipalActive principalId context.organizationId false)
      let _ ← bare (revokeAllSessionsForPrincipal principalId none now)
      context.audit requestId "team.remove" "principal" principalId .succeeded none now
      pure updated

/-! ## The operations -/

/-- The contexts and sessions that an operation hands out. -/
structure ServiceAnswer where
  context : Option AuthContext := none
  session : Option IssuedBrowserSession := none

def ServiceAnswer.signedIn (signed : AuthContext × IssuedBrowserSession) : ServiceAnswer :=
  ⟨some signed.1, some signed.2⟩

/-- An operation of the service, with its arguments. -/
inductive ServiceOp where
  | authenticateBrowser (sessionToken : String) (csrfHeader : Option String) (requireCsrf : Bool)
      (idleTtl now : Nat)
  | authenticateBearer (token : String) (now : Nat)
  | registerAccount (body : Option RegistrationBody) (verdict : Option (String × String))
      (fresh : RegistrationSecrets) (drawn : SessionSecrets) (settings : SessionSettings)
      (requestId : String) (now : Nat)
  | login (email password : Option String) (verdict : Option (String × String))
      (rehashSalt : String) (drawn : SessionSecrets) (settings : SessionSettings)
      (requestId : String) (now : Nat)
  | acceptInvitation (token password : Option String) (verdict : Option (String × String))
      (passwordSalt : String) (drawn : SessionSecrets) (settings : SessionSettings)
      (requestId : String) (now : Nat)
  | changePassword (context : AuthContext) (currentPassword newPassword : Option String)
      (salt requestId : String) (now : Nat)
  | requestPasswordReset (email : Option String) (verdict : Option (String × String))
      (tokenId tokenSecret tokenSalt requestId : String) (now : Nat)
  | confirmPasswordReset (token newPassword : Option String) (verdict : Option (String × String))
      (salt requestId : String) (now : Nat)
  | requestEmailVerification (context : AuthContext) (verdict : Option (String × String))
      (tokenId tokenSecret tokenSalt requestId : String) (now : Nat)
  | confirmEmailVerification (token : Option String) (verdict : Option (String × String))
      (requestId : String) (now : Nat)
  | logout (context : AuthContext) (requestId : String) (now : Nat)
  | logoutAllSessions (context : AuthContext) (requestId : String) (now : Nat)
  | createApiKey (context : AuthContext) (label : Option String)
      (validityDays : Option (Option Int)) (tokenId secret salt requestId : String) (now : Nat)
  | revokeApiKey (context : AuthContext) (tokenId requestId : String) (now : Nat)
  | inviteTeamMember (context : AuthContext) (displayName email : Option String)
      (role : Option (Option String))
      (principalId tokenId tokenSecret tokenSalt requestId : String) (now : Nat)
  | updateTeamMember (context : AuthContext) (principalId : String) (role : Option String)
      (requestId : String) (now : Nat)
  | removeTeamMember (context : AuthContext) (principalId requestId : String) (now : Nat)

namespace ServiceOp

variable [IdentityPrimitives]

/-- What the operation runs, and which contexts and sessions it hands out. -/
def code : ServiceOp → ServiceMethod ServiceAnswer
  | authenticateBrowser sessionToken csrfHeader requireCsrf idleTtl now => do
    let context ←
      WebGuard.authenticateBrowser sessionToken csrfHeader requireCsrf idleTtl now
    pure { context }
  | authenticateBearer token now => do
    let context ← WebGuard.authenticateBearer token now
    pure { context }
  | registerAccount body verdict fresh drawn settings requestId now => do
    let signed ← WebGuard.registerAccount body verdict fresh drawn settings requestId now
    pure (.signedIn signed)
  | login email password verdict rehashSalt drawn settings requestId now => do
    let signed ← WebGuard.login email password verdict rehashSalt drawn settings requestId now
    pure (.signedIn signed)
  | acceptInvitation token password verdict passwordSalt drawn settings requestId now => do
    let signed ←
      WebGuard.acceptInvitation token password verdict passwordSalt drawn settings requestId now
    pure (.signedIn signed)
  | changePassword context currentPassword newPassword salt requestId now => do
    WebGuard.changePassword context currentPassword newPassword salt requestId now
    pure {}
  | requestPasswordReset email verdict tokenId tokenSecret tokenSalt requestId now => do
    WebGuard.requestPasswordReset email verdict tokenId tokenSecret tokenSalt requestId now
    pure {}
  | confirmPasswordReset token newPassword verdict salt requestId now => do
    WebGuard.confirmPasswordReset token newPassword verdict salt requestId now
    pure {}
  | requestEmailVerification context verdict tokenId tokenSecret tokenSalt requestId now => do
    WebGuard.requestEmailVerification context verdict tokenId tokenSecret tokenSalt requestId now
    pure {}
  | confirmEmailVerification token verdict requestId now => do
    WebGuard.confirmEmailVerification token verdict requestId now
    pure {}
  | logout context requestId now => do
    WebGuard.logout context requestId now
    pure {}
  | logoutAllSessions context requestId now => do
    let _ ← WebGuard.logoutAllSessions context requestId now
    pure {}
  | createApiKey context label validityDays tokenId secret salt requestId now => do
    let _ ← WebGuard.createApiKey context label validityDays tokenId secret salt requestId now
    pure {}
  | revokeApiKey context tokenId requestId now => do
    let _ ← WebGuard.revokeApiKey context tokenId requestId now
    pure {}
  | inviteTeamMember context displayName email role principalId tokenId tokenSecret tokenSalt
      requestId now => do
    let _ ← WebGuard.inviteTeamMember context displayName email role principalId tokenId
      tokenSecret tokenSalt requestId now
    pure {}
  | updateTeamMember context principalId role requestId now => do
    let _ ← WebGuard.updateTeamMember context principalId role requestId now
    pure {}
  | removeTeamMember context principalId requestId now => do
    let _ ← WebGuard.removeTeamMember context principalId requestId now
    pure {}

/-- One operation after the other: its answer, and the state that it leaves. -/
def call (s : IdentityState) (op : ServiceOp) : Except ServiceFault ServiceAnswer × IdentityState :=
  op.code.run s

end ServiceOp

end WebGuard
