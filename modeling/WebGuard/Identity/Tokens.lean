import Mathlib.Logic.Function.Iterate
import WebGuard.Contracts.Text
import WebGuard.Lib.Mvcc
import WebGuard.Lib.Run

/-!
# Identity tokens

Email verification, password reset and invitation share one kind of token: `wgi_<id>_<secret>`,
hashed at rest, for one purpose, with an expiry, to be used once. `consume_identity_token` reads
the row, checks it, and marks it as used.

On SQLite the connection is in autocommit mode, so the `SELECT` and the `UPDATE` are transactions
of their own. On PostgreSQL they are two statements of one transaction at READ COMMITTED. Either
way the row may change between the two, and the `UPDATE` names the row by its identifier only.

`scrypt` is a parameter.
-/

namespace WebGuard

open Mvcc

structure IdentityStoreError where
  code : String
  message : String
deriving DecidableEq

/-- `_hash_secret` and `_verify_secret`. -/
class SecretHashing where
  hashSecret : (secret salt : String) → String
  verifySecret : (secret encoded : String) → Bool

inductive IdentityTokenPurpose where
  | emailVerification | passwordReset | invitation
deriving DecidableEq

/-- A row of `identity_tokens`. -/
structure IdentityTokenRow where
  tokenId : String
  principalId : String
  organizationId : String
  purpose : IdentityTokenPurpose
  secretHash : String
  createdAt : Nat
  expiresAt : Nat
  usedAt : Option Nat
deriving DecidableEq

structure IdentityTokenRecord where
  tokenId : String
  principalId : String
  organizationId : String
  purpose : IdentityTokenPurpose
  createdAt : Nat
  expiresAt : Nat
  usedAt : Option Nat
deriving DecidableEq

def identityTokenPrefix : String := "wgi"

/-- What stands before the first underscore and what stands after it. -/
def cutUnderscore (l : List Char) : Option (List Char × List Char) :=
  if '_' ∈ l then some (l.takeWhile (· ≠ '_'), (l.dropWhile (· ≠ '_')).drop 1) else none

/-- `token.split("_", 2)`, where it has three parts. -/
def tokenParts (token : String) : Option (String × String × String) := do
  let (first, rest) ← cutUnderscore token.toList
  let (second, third) ← cutUnderscore rest
  return (String.ofList first, String.ofList second, String.ofList third)

def parsePrefixedSecret (token expected errorCode : String) :
    Except IdentityStoreError (String × String) :=
  match tokenParts token with
  | none => .error ⟨errorCode, "Token is invalid."⟩
  | some (first, identifier, secret) =>
    if first ≠ expected ∨ secret = "" then .error ⟨errorCode, "Token is invalid."⟩
    else if isCanonicalUuid identifier then .ok (identifier, secret)
    else .error ⟨errorCode, "Token is invalid."⟩

section

variable [SecretHashing]

/-- The row that `create_identity_token` inserts, and the token that it hands out. -/
def createIdentityToken (tokenId secret salt principalId organizationId : String)
    (purpose : IdentityTokenPurpose) (ttl now : Nat) : IdentityTokenRow × String :=
  ({ tokenId, principalId, organizationId, purpose,
     secretHash := SecretHashing.hashSecret secret salt,
     createdAt := now, expiresAt := now + ttl, usedAt := none },
    identityTokenPrefix ++ "_" ++ tokenId ++ "_" ++ secret)

/-- The checks of `consume_identity_token` on the row that it has read. -/
def checkIdentityToken (row : Option IdentityTokenRow) (secret : String)
    (purpose : IdentityTokenPurpose) (now : Nat) : Except IdentityStoreError IdentityTokenRow :=
  match row with
  | none => .error ⟨"identity_token_invalid", "Token is invalid."⟩
  | some row =>
    if SecretHashing.verifySecret secret row.secretHash = false then
      .error ⟨"identity_token_invalid", "Token is invalid."⟩
    else if row.purpose ≠ purpose then .error ⟨"identity_token_invalid", "Token is invalid."⟩
    else if row.usedAt.isSome then
      .error ⟨"identity_token_used", "Token has already been used."⟩
    else if row.expiresAt ≤ now then .error ⟨"identity_token_expired", "Token has expired."⟩
    else .ok row

end

/-- The record that `consume_identity_token` returns. -/
def IdentityTokenRow.consumed (row : IdentityTokenRow) (now : Nat) : IdentityTokenRecord where
  tokenId := row.tokenId
  principalId := row.principalId
  organizationId := row.organizationId
  purpose := row.purpose
  createdAt := row.createdAt
  expiresAt := row.expiresAt
  usedAt := some now

def IdentityTokenRow.use (now : Nat) (row : IdentityTokenRow) : IdentityTokenRow :=
  { row with usedAt := some now }

/-- `UPDATE identity_tokens SET used_at = … WHERE token_id = …`. -/
def consumeStatement (tokenId : String) (now : Nat) : Update String IdentityTokenRow where
  key := tokenId
  guard := fun _ => true
  set := IdentityTokenRow.use now

/-- `UPDATE … WHERE principal_id = … AND purpose = … AND used_at IS NULL`, for one of the rows. -/
def invalidateStatement (principalId : String) (purpose : IdentityTokenPurpose) (now : Nat)
    (tokenId : String) : Update String IdentityTokenRow where
  key := tokenId
  guard := fun row => row.principalId = principalId ∧ row.purpose = purpose ∧ row.usedAt = none
  set := IdentityTokenRow.use now

/-! ## Callers side by side -/

inductive IdentityBackend where
  | sqlite | postgres
deriving DecidableEq

/-- A consumption that has passed its checks: the token presented, and the record to return. -/
structure TokenUse where
  token : String
  record : IdentityTokenRecord
deriving DecidableEq

/-- A caller between two statements: those still to run, and the consumption if it is one. -/
inductive TokenSession where
  | idle
  | writing (statements : List (Update String IdentityTokenRow)) (use : Option TokenUse)

/-- The row that a consumption is about to update. -/
def TokenSession.pendingUse : TokenSession → Option String
  | .writing (u :: _) (some _) => some u.key
  | _ => none

/-- The table, the callers, and the consumptions that have returned without an error. -/
structure TokenDesk (T : Type) where
  db : Database String IdentityTokenRow T
  session : T → TokenSession
  consumed : List TokenUse

inductive TokenInput (T : Type) where
  | create (tokenId secret salt principalId organizationId : String)
      (purpose : IdentityTokenPurpose) (ttl now : Nat)
  /-- `consume_identity_token`, to the end of its checks. -/
  | consume (t : T) (token : String) (purpose : IdentityTokenPurpose) (now : Nat)
  /-- `invalidate_identity_tokens`, until its statement starts. -/
  | invalidate (t : T) (principalId : String) (purpose : IdentityTokenPurpose) (now : Nat)
  /-- The next statement of a caller, or its commit. -/
  | turn (t : T)
  /-- The caller fails, or loses its connection. -/
  | abort (t : T)

namespace TokenDesk

variable {T : Type} [DecidableEq T]

def empty : TokenDesk T where
  db := Database.empty
  session := fun _ => .idle
  consumed := []

def enter (s : TokenDesk T) (t : T) (session : TokenSession) : TokenDesk T :=
  { s with session := fun t' => if t' = t then session else s.session t' }

/-- One statement on one row, or the commit. A row that somebody else has locked is waited for. -/
def advance (s : TokenDesk T) (t : T) : TokenDesk T :=
  match s.session t with
  | .idle => s
  | .writing (u :: rest) use =>
    if s.db.available t u.key then
      { s with db := (s.db.update t u).1 }.enter t (.writing rest use)
    else s
  | .writing [] use =>
    { s with db := s.db.commit t, consumed := use.toList ++ s.consumed }.enter t .idle

/-- On SQLite a statement is a transaction: its rows and its commit, and nothing in between. -/
def turn (backend : IdentityBackend) (s : TokenDesk T) (t : T) : TokenDesk T :=
  match backend, s.session t with
  | .sqlite, .writing statements _ => (fun s => s.advance t)^[statements.length + 1] s
  | _, _ => s.advance t

section

variable [SecretHashing]

def openConsume (s : TokenDesk T) (t : T) (token : String) (purpose : IdentityTokenPurpose)
    (now : Nat) : Except IdentityStoreError TokenSession := do
  let (tokenId, secret) ← parsePrefixedSecret token identityTokenPrefix "identity_token_invalid"
  let row ← checkIdentityToken (s.db.view t tokenId) secret purpose now
  return .writing [consumeStatement tokenId now] (some ⟨token, row.consumed now⟩)

def step (backend : IdentityBackend) (s : TokenDesk T) : TokenInput T → TokenDesk T
  | .create tokenId secret salt principalId organizationId purpose ttl now =>
    let row :=
      (createIdentityToken tokenId secret salt principalId organizationId purpose ttl now).1
    { s with db := s.db.insert tokenId row }
  | .consume t token purpose now =>
    match s.session t, s.openConsume t token purpose now with
    | .idle, .ok session => s.enter t session
    | _, _ => s
  | .invalidate t principalId purpose now =>
    match s.session t with
    | .idle =>
      s.enter t (.writing (s.db.keys.map (invalidateStatement principalId purpose now)) none)
    | _ => s
  | .turn t => s.turn backend t
  | .abort t => { s with db := s.db.abort t }.enter t .idle

/-- The desk after a list of inputs. -/
abbrev run (backend : IdentityBackend) (s : TokenDesk T) (inputs : List (TokenInput T)) :
    TokenDesk T :=
  Runs.run (step backend) s inputs

end

end TokenDesk

end WebGuard
