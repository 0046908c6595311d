import WebGuard.Contracts.Text
import WebGuard.Identity.Tokens
import WebGuard.Lib.Interrupt
import WebGuard.Lib.Table

/-!
# Organizations, principals and their credentials

The tables of `IdentityStore`, the sessions, and the methods that read and write them. A method is
a program of atomic reads and writes: every statement of the store is a transaction of its own.

The two backends differ in where they keep the rows, not in what they check; what follows is the
local one, `IdentityStore` with `InMemorySessionRepository`. Random identifiers and secrets are
arguments. `scrypt`, `argon2` and `str.casefold` are parameters.
-/

namespace WebGuard

open Interrupt Program Relational SecretHashing

class IdentityPrimitives extends SecretHashing where
  casefold : String → String
  hashPassword : (password salt : String) → String
  verifyPassword : (password encoded : String) → Bool
  needsRehash : String → Bool

/-! ## Records -/

inductive OrganizationStatus where
  | active | disabled
deriving DecidableEq

inductive PrincipalType where
  | user | serviceAccount
deriving DecidableEq

inductive OrganizationRole where
  | owner | administrator | analyst | viewer
deriving DecidableEq

def OrganizationRole.value : OrganizationRole → String
  | owner => "owner"
  | administrator => "administrator"
  | analyst => "analyst"
  | viewer => "viewer"

/-- `OrganizationRole(value)`. -/
def OrganizationRole.ofValue (value : String) : Option OrganizationRole :=
  [owner, administrator, analyst, viewer].find? (·.value = value)

structure Organization where
  organizationId : String
  name : String
  status : OrganizationStatus
  createdAt : Nat
deriving DecidableEq

structure Principal where
  principalId : String
  organizationId : String
  displayName : String
  principalType : PrincipalType
  role : OrganizationRole
  active : Bool
  createdAt : Nat
  email : Option String
  emailVerifiedAt : Option Nat
  lastLoginAt : Option Nat
deriving DecidableEq

structure PasswordCredential where
  principalId : String
  algorithm : String
  passwordHash : String
  createdAt : Nat
  updatedAt : Nat
deriving DecidableEq

structure ApiTokenMetadata where
  tokenId : String
  organizationId : String
  principalId : String
  label : String
  createdAt : Nat
  expiresAt : Nat
  revokedAt : Option Nat
  lastUsedAt : Option Nat
deriving DecidableEq

structure BrowserSessionRecord where
  sessionId : String
  principalId : String
  organizationId : String
  assuranceLevel : String
  issuedAt : Nat
  idleExpiresAt : Nat
  absoluteExpiresAt : Nat
  lastUsedAt : Option Nat
  revokedAt : Option Nat
  userAgent : Option String
  ipAddress : Option String
deriving DecidableEq

def BrowserSessionRecord.isUsable (r : BrowserSessionRecord) (now : Nat) : Bool :=
  r.revokedAt.isNone && now < r.idleExpiresAt && now < r.absoluteExpiresAt

/-- A row of `api_tokens`. -/
structure ApiTokenRow where
  metadata : ApiTokenMetadata
  secretHash : String
deriving DecidableEq

/-- `_InternalSessionState`. -/
structure SessionState where
  record : BrowserSessionRecord
  secretHash : String
  csrfHash : String
deriving DecidableEq

structure IssuedBrowserSession where
  record : BrowserSessionRecord
  sessionToken : String
  csrfToken : String
deriving DecidableEq

inductive AuditOutcome where
  | succeeded | denied | failed
deriving DecidableEq

structure SecurityAuditEvent where
  requestId : String
  organizationId : String
  principalId : String
  action : String
  resourceType : String
  resourceId : String
  outcome : AuditOutcome
  occurredAt : Nat
  detailCode : Option String
deriving DecidableEq

structure IdentityState where
  organizations : List Organization := []
  principals : Table Principal [Principal.principalId] := Table.empty
  passwords : List PasswordCredential := []
  identityTokens : List IdentityTokenRow := []
  sessions : List SessionState := []
  apiTokens : List ApiTokenRow := []
  audits : List SecurityAuditEvent := []

/-- What a method raises: its own error, or one of a record that it could not build. -/
inductive IdentityFault where
  | store (error : IdentityStoreError)
  | contract (error : ContractError)
deriving DecidableEq

abbrev IdentityMethod := Program IdentityState IdentityFault

def refuseStore {α : Type} (code message : String) : IdentityMethod α :=
  raise (.store ⟨code, message⟩)

theorem keepsColumns {f : Principal → Principal}
    (keeps : ∀ p, (f p).principalId = p.principalId) :
    ∀ c ∈ [Principal.principalId], ∀ p, c (f p) = c p := by
  intro c hc p
  rw [List.mem_singleton.mp hc]
  exact keeps p

/-- `UPDATE principals SET … WHERE principal_id = … AND …`. -/
def IdentityState.updatePrincipal (s : IdentityState) (principalId : String)
    (guard : Principal → Bool) (f : Principal → Principal)
    (keeps : ∀ p, (f p).principalId = p.principalId) : IdentityState :=
  { s with
    principals := (s.principals.update Principal.principalId principalId guard f
      (keepsColumns keeps)).1 }

theorem IdentityState.get?_updatePrincipal (s : IdentityState) (principalId : String)
    (guard : Principal → Bool) (f : Principal → Principal)
    (keeps : ∀ p, (f p).principalId = p.principalId) (j : String) :
    (s.updatePrincipal principalId guard f keeps).principals.get? Principal.principalId j
      = if j = principalId then
          (s.principals.get? Principal.principalId principalId).map fun p =>
            if guard p = true then f p else p
        else s.principals.get? Principal.principalId j :=
  @Table.get?_update_self _ _ _ _ _ _ _ _ (keepsColumns keeps) s.principals
    (List.mem_singleton.mpr rfl) j

/-! ## `Principal.__post_init__` -/

/-- `^[^\s@]+@[^\s@]+\.[^\s@]+$`. -/
def isEmail (l : List Char) : Bool :=
  match l.splitOn '@' with
  | [localPart, domain] =>
    let plain := fun part : List Char => !part.isEmpty && part.all fun c => !isSpace c
    plain localPart && plain domain && (domain.drop 1).dropLast.any (· = '.')
  | _ => false

/-- `_email`. -/
def emailField [IdentityPrimitives] (value fieldName : String) : Checked String :=
  let cleaned := IdentityPrimitives.casefold (strip value)
  if cleaned = "" ∨ 254 < cleaned.toList.length ∨ isEmail cleaned.toList = false then
    invalid "tenancy_email_invalid" (fieldName ++ " must be a valid email address.")
  else .ok cleaned

/-- What `__post_init__` does to the fields that a caller may choose. -/
def Principal.postInit [IdentityPrimitives] (p : Principal) : Checked Principal := do
  let principalId ← canonicalUuid "tenancy" p.principalId "principal_id"
  let organizationId ← canonicalUuid "tenancy" p.organizationId "organization_id"
  let displayName ← requiredText "tenancy" p.displayName "display_name" 120
  let email ← p.email.mapM (emailField · "email")
  return { p with principalId, organizationId, displayName, email }

/-! ## The methods of the stores -/

def createOrganization [IdentityPrimitives] (organizationId name : String) (now : Nat) :
    IdentityMethod Organization := do
  let organizationId ←
    ofExcept ((canonicalUuid "tenancy" organizationId "organization_id").mapError .contract)
  let name ← ofExcept ((requiredText "tenancy" name "name" 120).mapError .contract)
  let value : Organization := { organizationId, name, status := .active, createdAt := now }
  let s ← get
  if s.organizations.any fun o => o.organizationId = organizationId ∨
      IdentityPrimitives.casefold o.name = IdentityPrimitives.casefold name then
    refuseStore "organization_conflict"
      "An organization with that identifier or name already exists."
  else
    modify fun s => { s with organizations := value :: s.organizations }
    pure value

def getOrganization (organizationId : String) : IdentityMethod Organization := do
  let s ← get
  match s.organizations.find? (·.organizationId = organizationId) with
  | none => refuseStore "organization_not_found" "Organization was not found."
  | some organization => pure organization

def getPrincipal (principalId : String) : IdentityMethod Principal := do
  let s ← get
  match s.principals.get? Principal.principalId principalId with
  | none => refuseStore "principal_not_found" "Principal was not found."
  | some p => pure p

def getPrincipalScoped (principalId organizationId : String) : IdentityMethod Principal := do
  let p ← getPrincipal principalId
  if p.organizationId ≠ organizationId then
    refuseStore "principal_not_found" "Principal was not found."
  else pure p

def getPrincipalByEmail [IdentityPrimitives] (email : String) :
    IdentityMethod (Option Principal) := do
  let s ← get
  pure (s.principals.rows.find? (·.email = some (IdentityPrimitives.casefold (strip email))))

def createPrincipal [IdentityPrimitives] (p : Principal) : IdentityMethod Principal := do
  let organization ← getOrganization p.organizationId
  if organization.status ≠ .active then
    refuseStore "organization_disabled" "Organization is disabled."
  else
    let p ← ofExcept (p.postInit.mapError .contract)
    let s ← get
    match s.principals.insert p, p.email.isSome && s.principals.rows.any (·.email = p.email) with
    | some principals, false =>
      modify fun s => { s with principals }
      pure p
    | _, _ =>
      if p.email.isSome then
        refuseStore "principal_email_conflict" "An account with that email address already exists."
      else refuseStore "principal_conflict" "Principal already exists."

def updatePrincipalRole (principalId organizationId : String) (role : OrganizationRole) :
    IdentityMethod Principal := do
  let p ← getPrincipalScoped principalId organizationId
  modify fun s => s.updatePrincipal principalId (·.organizationId = organizationId)
    (fun p => { p with role }) fun _ => rfl
  pure { p with role }

def setPrincipalActive (principalId organizationId : String) (active : Bool) :
    IdentityMethod Principal := do
  let p ← getPrincipalScoped principalId organizationId
  modify fun s => s.updatePrincipal principalId (·.organizationId = organizationId)
    (fun p => { p with active }) fun _ => rfl
  pure { p with active }

def setPrincipalEmailVerified (principalId : String) (now : Nat) : IdentityMethod Principal := do
  let p ← getPrincipal principalId
  modify fun s => s.updatePrincipal principalId (fun _ => true)
    (fun p => { p with emailVerifiedAt := some now }) fun _ => rfl
  pure { p with emailVerifiedAt := some now }

def touchLastLogin (principalId : String) (now : Nat) : IdentityMethod Unit :=
  modify fun s => s.updatePrincipal principalId (fun _ => true)
    (fun p => { p with lastLoginAt := some now }) fun _ => rfl

def setPasswordHash (principalId algorithm passwordHash : String) (now : Nat) :
    IdentityMethod Unit :=
  modify fun s =>
    { s with
      passwords :=
        if s.passwords.any (·.principalId = principalId) then
          s.passwords.map fun c =>
            if c.principalId = principalId then { c with algorithm, passwordHash, updatedAt := now }
            else c
        else ⟨principalId, algorithm, passwordHash, now, now⟩ :: s.passwords }

def getPasswordHash (principalId : String) : IdentityMethod (Option String) := do
  let s ← get
  pure ((s.passwords.find? (·.principalId = principalId)).map PasswordCredential.passwordHash)

/-- `create_identity_token`, with the identifier, the secret and the salt that it draws. -/
def storeIdentityToken [SecretHashing] (tokenId secret salt principalId organizationId : String)
    (purpose : IdentityTokenPurpose) (ttl now : Nat) : IdentityMethod String := do
  let (row, token) :=
    createIdentityToken tokenId secret salt principalId organizationId purpose ttl now
  modify fun s => { s with identityTokens := row :: s.identityTokens }
  pure token

def consumeIdentityToken [SecretHashing] (token : String) (purpose : IdentityTokenPurpose)
    (now : Nat) : IdentityMethod IdentityTokenRecord := do
  let (tokenId, secret) ←
    ofExcept ((parsePrefixedSecret token identityTokenPrefix "identity_token_invalid").mapError
      .store)
  let s ← get
  let row ← ofExcept
    ((checkIdentityToken (s.identityTokens.find? (·.tokenId = tokenId)) secret purpose now).mapError
      .store)
  modify fun s =>
    { s with
      identityTokens := s.identityTokens.map fun r => if r.tokenId = tokenId then r.use now else r }
  pure (row.consumed now)

def invalidateIdentityTokens (principalId : String) (purpose : IdentityTokenPurpose) (now : Nat) :
    IdentityMethod Unit :=
  modify fun s =>
    { s with
      identityTokens := s.identityTokens.map fun r =>
        if r.principalId = principalId ∧ r.purpose = purpose ∧ r.usedAt = none then r.use now
        else r }

/-! ## API tokens -/

def apiTokenPrefix : String := "wgt"

/-- `_token_parts`. -/
def apiTokenParts (token : String) : Except IdentityStoreError (String × String) :=
  (parsePrefixedSecret token apiTokenPrefix "api_token_invalid").mapError fun e =>
    { e with message := "API token is invalid." }

/-- `create_token`, with the identifier, the secret and the salt that it draws. -/
def createApiToken [SecretHashing] (principalId label tokenId secret salt : String)
    (validityDays : Int) (now : Nat) : IdentityMethod (ApiTokenMetadata × String) := do
  if ¬ (1 ≤ validityDays ∧ validityDays ≤ 366) then
    refuseStore "token_validity_invalid" "Token validity must be from 1 to 366 days."
  else
    let principal ← getPrincipal principalId
    if principal.active = false then refuseStore "principal_disabled" "Principal is disabled."
    else
      let organization ← getOrganization principal.organizationId
      if organization.status ≠ .active then
        refuseStore "organization_disabled" "Organization is disabled."
      else
        let label ← ofExcept ((requiredText "tenancy" label "label" 120).mapError .contract)
        let metadata : ApiTokenMetadata :=
          { tokenId, label, organizationId := principal.organizationId,
            principalId := principal.principalId, createdAt := now,
            expiresAt := now + validityDays.toNat * 86400000000, revokedAt := none,
            lastUsedAt := none }
        let s ← get
        if s.apiTokens.any (·.metadata.tokenId = tokenId) then
          refuseStore "api_token_conflict" "API token already exists."
        else
          modify fun s =>
            { s with apiTokens := ⟨metadata, hashSecret secret salt⟩ :: s.apiTokens }
          pure (metadata, apiTokenPrefix ++ "_" ++ tokenId ++ "_" ++ secret)

def authenticateApiToken [SecretHashing] (token : String) (now : Nat) :
    IdentityMethod (ApiTokenMetadata × Principal × Organization) := do
  let (tokenId, secret) ← ofExcept ((apiTokenParts token).mapError .store)
  let s ← get
  match s.apiTokens.find? (·.metadata.tokenId = tokenId) with
  | none => refuseStore "api_token_invalid" "API token is invalid."
  | some row =>
    if verifySecret secret row.secretHash = false then
      refuseStore "api_token_invalid" "API token is invalid."
    else if row.metadata.revokedAt.isSome then
      refuseStore "api_token_revoked" "API token has been revoked."
    else if row.metadata.expiresAt ≤ now then
      refuseStore "api_token_expired" "API token has expired."
    else
      match s.principals.get? Principal.principalId row.metadata.principalId,
        s.organizations.find? (·.organizationId = row.metadata.organizationId) with
      | some principal, some organization =>
        if principal.active = false then refuseStore "principal_disabled" "Principal is disabled."
        else if organization.status ≠ .active then
          refuseStore "organization_disabled" "Organization is disabled."
        else
          let touched := fun m : ApiTokenMetadata => { m with lastUsedAt := some now }
          modify fun s =>
            { s with
              apiTokens := s.apiTokens.map fun r =>
                if r.metadata.tokenId = tokenId then { r with metadata := touched r.metadata }
                else r }
          pure (touched row.metadata, principal, organization)
      | _, _ => refuseStore "api_token_invalid" "API token is invalid."

def revokeTokenOwned (tokenId principalId : String) (now : Nat) :
    IdentityMethod ApiTokenMetadata := do
  let s ← get
  match s.apiTokens.find? (·.metadata.tokenId = tokenId) with
  | none => refuseStore "api_token_not_found" "API token was not found."
  | some row =>
    if row.metadata.principalId ≠ principalId then
      refuseStore "api_token_not_found" "API token was not found."
    else if row.metadata.revokedAt.isSome then pure row.metadata
    else
      let revoked := fun m : ApiTokenMetadata => { m with revokedAt := some now }
      modify fun s =>
        { s with
          apiTokens := s.apiTokens.map fun r =>
            if r.metadata.tokenId = tokenId then { r with metadata := revoked r.metadata } else r }
      pure (revoked row.metadata)

/-! ## Sessions -/

def sessionTokenPrefix : String := "wgs"

/-- What `create_session` draws. -/
structure SessionSecrets where
  sessionId : String
  secret : String
  csrfToken : String
  salt : String
  csrfSalt : String
deriving DecidableEq

def createSession [SecretHashing] (principalId organizationId : String) (drawn : SessionSecrets)
    (idleTtl absoluteTtl : Nat) (userAgent ipAddress : Option String) (now : Nat) :
    IdentityMethod IssuedBrowserSession := do
  let record : BrowserSessionRecord :=
    { sessionId := drawn.sessionId, principalId, organizationId, assuranceLevel := "password",
      issuedAt := now, idleExpiresAt := now + idleTtl, absoluteExpiresAt := now + absoluteTtl,
      lastUsedAt := none, revokedAt := none, userAgent, ipAddress }
  let state : SessionState :=
    { record, secretHash := hashSecret drawn.secret drawn.salt,
      csrfHash := hashSecret drawn.csrfToken drawn.csrfSalt }
  modify fun s => { s with sessions := state :: s.sessions }
  pure { record, sessionToken := sessionTokenPrefix ++ "_" ++ drawn.sessionId ++ "_" ++ drawn.secret,
         csrfToken := drawn.csrfToken }

def authenticateSession [SecretHashing] (token : String) (idleTtl : Nat)
    (csrfHeader : Option String) (requireCsrf : Bool) (now : Nat) :
    IdentityMethod BrowserSessionRecord := do
  let (sessionId, secret) ←
    ofExcept ((parsePrefixedSecret token sessionTokenPrefix "session_invalid").mapError .store)
  let s ← get
  match s.sessions.find? (·.record.sessionId = sessionId) with
  | none => refuseStore "session_invalid" "Session is invalid."
  | some state =>
    if verifySecret secret state.secretHash = false then
      refuseStore "session_invalid" "Session is invalid."
    else if state.record.isUsable now = false then
      refuseStore "session_expired" "Session has expired or was revoked."
    else if requireCsrf && !(csrfHeader.any (verifySecret · state.csrfHash)) then
      refuseStore "csrf_token_invalid" "CSRF token is missing or invalid."
    else
      let touched := fun r : BrowserSessionRecord =>
        { r with idleExpiresAt := min (now + idleTtl) r.absoluteExpiresAt, lastUsedAt := some now }
      modify fun s =>
        { s with
          sessions := s.sessions.map fun x =>
            if x.record.sessionId = sessionId then { x with record := touched x.record } else x }
      pure (touched state.record)

def SessionState.revoke (now : Nat) (x : SessionState) : SessionState :=
  { x with record := { x.record with revokedAt := some now } }

def revokeSession (sessionId principalId : String) (now : Nat) : IdentityMethod Unit :=
  modify fun s =>
    { s with
      sessions := s.sessions.map fun x =>
        if x.record.sessionId = sessionId ∧ x.record.principalId = principalId ∧
          x.record.revokedAt = none then x.revoke now
        else x }

def revokeAllSessionsForPrincipal (principalId : String) (exceptSessionId : Option String)
    (now : Nat) : IdentityMethod Nat := do
  let s ← get
  let targets := s.sessions.filter fun x =>
    x.record.principalId = principalId ∧ x.record.revokedAt = none ∧
      some x.record.sessionId ≠ exceptSessionId
  targets.forM fun x => revokeSession x.record.sessionId principalId now
  pure targets.length

end WebGuard
