import WebGuard.Contracts.IsoFormat
import WebGuard.Contracts.OwnedTargets
import WebGuard.Contracts.ScanJobs
import WebGuard.Lib.JsonScan

/-!
# Scan permits

`TrustScanPermitClaims`, `SignedTrustScanPermit` and their loader, from `scan_permits.py`. The
constructors are given whatever stood in a document, so their arguments are JSON values and each
check begins with the type; the times and the modes have been read before.

The constructors raise `TrustScanPermitValidationError`, which the loader turns into its own
`TrustScanPermitLoadError`. Four other things can come out of it (`Escape`).

`hashlib.sha256` is a parameter, and so are the floats, the readers of dates and addresses and the
tables of Unicode.
-/

namespace WebGuard.ScanPermits

open PyJson

/-- What a call raises. -/
inductive Escape where
  /-- `TrustScanPermitLoadError`. -/
  | load (error : ContractError)
  /-- `TrustScanPermitValidationError`. -/
  | validation (error : ContractError)
  /-- A `ValueError` that is neither. -/
  | value
  /-- `RecursionError`. -/
  | recursion
  /-- `OverflowError`. -/
  | overflow
  deriving DecidableEq

abbrev Raises (α : Type) := Except Escape α

/-- `raise TrustScanPermitValidationError(code, message)`. -/
def refuse {α : Type} (code message : String) : Raises α := .error (.validation ⟨code, message⟩)

/-- `raise TrustScanPermitLoadError(code, message)`. -/
def refuseLoad {α : Type} (code message : String) : Raises α := .error (.load ⟨code, message⟩)

/-- `if not condition: raise TrustScanPermitValidationError(code, message)`. -/
def demand (condition : Bool) (code message : String) : Raises Unit :=
  if condition then .ok () else refuse code message

def maximumDocumentBytes : Nat := 128 * 1024

def maximumValidity : Nat := 90 * 86400 * second

def maximumRequestAttempts : Int := 150

def maximumConcurrency : Int := 1

/-- `MINIMUM_TRUSTSCAN_REQUESTS_PER_SECOND`, the float nearest to `0.2`. -/
def minimumRate : ℚ := 3602879701896397 / 18014398509481984

def maximumRate : ℚ := 2

def permitType : PyText := ofString "trustscan_scan_permit"

def schemaVersion : PyText := ofString "1.3"

def signatureAlgorithms : List PyText := [ofString "Ed25519", ofString "ECDSA_SHA_256"]

def allowedMethods : List PyText := [ofString "GET", ofString "HEAD", ofString "POST"]

def prohibitedOperations : List PyText :=
  [ofString "autonomous_exploitation", ofString "credential_attacks", ofString "data_destruction",
    ofString "denial_of_service", ofString "malware", ofString "persistence",
    ofString "social_engineering"]

def knownActiveChecks : List PyText :=
  [ofString "active.authorization.idor", ofString "active.sqli.error",
    ofString "active.ssrf.callback", ofString "active.xss.reflected"]

/-- `sorted(set(texts))`. -/
def sortedSet (texts : List PyText) : List PyText := texts.dedup.insertionSort (· ≤ ·)

section Checks

variable {φ : Type}

/-! ## Field checks -/

/-- `_uuid`. -/
def uuidField (value : Json PyText φ) (fieldName : String) : Raises PyText :=
  match value with
  | .str text =>
    match canonicalUuid "trustscan_permit" (String.ofList (characters text)) fieldName with
    | .ok _ => .ok text
    | .error e => .error (.validation e)
  | _ => refuse "trustscan_permit_uuid_invalid" (fieldName ++ " must be a canonical UUID string.")

/-- `^[0-9a-f]{64}$`, matched in full. -/
def isHex64 (text : PyText) : Bool :=
  text.length = 64 && text.all fun n => (48 ≤ n && n ≤ 57) || (97 ≤ n && n ≤ 102)

/-- `_sha256`. -/
def sha256Field (value : Json PyText φ) (fieldName : String) : Raises PyText :=
  match value with
  | .str text =>
    if isHex64 text then .ok text
    else refuse "trustscan_permit_sha256_invalid"
      (fieldName ++ " must be a lower-case SHA-256 digest.")
  | _ => refuse "trustscan_permit_sha256_invalid"
      (fieldName ++ " must be a lower-case SHA-256 digest.")

/-- `canonicalize_owned_target_url`, with its error turned into one of the permit. -/
def targetField [UrlParse.StandardLibrary] [NetworkLibrary] (value : Json PyText φ) :
    Raises PyText :=
  match value with
  | .str text =>
    match OwnedTargets.canonicalizeOwnedTargetUrl text with
    | .ok target => .ok target
    | .error e => .error (.validation e)
  | _ => refuse "owned_target_url_invalid" "Owned-target URL must be text."

def positiveInteger (value : Json PyText φ) (fieldName : String) (maximum : Int) : Raises Int :=
  match value with
  | .int n =>
    if 1 ≤ n ∧ n ≤ maximum then .ok n
    else refuse "trustscan_permit_integer_invalid"
      (fieldName ++ " must be an integer from 1 to " ++ toString maximum ++ ".")
  | _ => refuse "trustscan_permit_integer_invalid"
      (fieldName ++ " must be an integer from 1 to " ++ toString maximum ++ ".")

/-- A rate in its range. -/
def rateInRange [PyFloat φ] (rate : φ) : Bool :=
  PyFloat.isFinite rate && minimumRate ≤ PyFloat.value rate && PyFloat.value rate ≤ maximumRate

def requestsPerSecond [PyFloat φ] (value : Json PyText φ) : Raises φ :=
  let checked := fun rate : φ =>
    if rateInRange rate then .ok rate
    else refuse "trustscan_permit_rate_invalid"
      "maximum_requests_per_second must be from 0.2 to 2.0."
  match value with
  | .int n =>
    match PyFloat.ofInt n with
    | none => .error .overflow
    | some rate => checked rate
  | .float rate => checked rate
  | _ => refuse "trustscan_permit_rate_invalid"
      "maximum_requests_per_second must be a finite number."

/-- `_modes`, of values that are modes. -/
def modesField (value : List ScanJobMode) : Raises (List ScanJobMode) := do
  demand (!value.isEmpty)
    "trustscan_permit_modes_invalid" "permitted_modes must be a non-empty tuple."
  demand (value.dedup.insertionSort (fun a b => a.value ≤ b.value) = value)
    "trustscan_permit_modes_non_canonical" "permitted_modes must be sorted and unique."
  return value

/-- The texts of a list that has only texts. -/
def textsOf : List (Json PyText φ) → Option (List PyText)
  | [] => some []
  | .str text :: rest => (textsOf rest).map (text :: ·)
  | _ => none

/-- `_http_methods`. -/
def methodsField [UnicodeTables] (value : List (Json PyText φ)) : Raises (List PyText) := do
  demand (!value.isEmpty)
    "trustscan_permit_methods_invalid" "allowed_http_methods must be a non-empty tuple."
  match textsOf value with
  | none =>
    refuse "trustscan_permit_methods_invalid" "allowed_http_methods must contain method names."
  | some texts =>
    let canonical := sortedSet (texts.map UnicodeTables.upper)
    demand (canonical = texts) "trustscan_permit_methods_non_canonical"
      "allowed_http_methods must be sorted, unique, and uppercase."
    demand (canonical.all (allowedMethods.contains ·)) "trustscan_permit_methods_invalid"
      "TrustScan permit v1 only permits GET and HEAD."
    demand (canonical.contains (ofString "GET")) "trustscan_permit_get_required"
      "TrustScan permit v1 requires GET for passive assessment execution."
    return canonical

/-- `_active_checks`. -/
def activeChecksField (value : List (Json PyText φ)) : Raises (List PyText) :=
  match textsOf value with
  | none =>
    refuse "trustscan_permit_active_checks_invalid"
      "active_checks must contain detector identifier strings."
  | some texts => do
    let canonical := sortedSet texts
    demand (canonical = texts.insertionSort (· ≤ ·) && canonical.length = texts.length)
      "trustscan_permit_active_checks_non_canonical" "active_checks must be sorted and unique."
    demand (canonical.all (knownActiveChecks.contains ·)) "trustscan_permit_active_checks_unknown"
      "active_checks contains an unrecognized detector identifier."
    return canonical

/-- `_authentication_context_id` and `_authorization_comparison_plan_id`. -/
def optionalUuidField (value : Json PyText φ) (fieldName : String) : Raises (Option PyText) :=
  match value with
  | .null => .ok none
  | value => (uuidField value fieldName).map some

/-- `_prohibited_operations`. -/
def prohibitedField (value : List (Json PyText φ)) : Raises (List PyText) := do
  demand (textsOf value = some prohibitedOperations)
    "trustscan_permit_prohibited_operations_invalid"
    "prohibited_operations must equal the TrustScan v1 mandatory safety set."
  return prohibitedOperations

end Checks

/-! ## Claims -/

/-- The arguments of `TrustScanPermitClaims(...)`. -/
structure ClaimsInput (φ : Type) where
  permitId : Json PyText φ
  organizationId : Json PyText φ
  authorizationId : Json PyText φ
  authorizationSha256 : Json PyText φ
  target : Json PyText φ
  issuedBy : Json PyText φ
  issuedAt : Nat
  notBefore : Nat
  expiresAt : Nat
  permittedModes : List ScanJobMode
  allowedHttpMethods : List (Json PyText φ)
  maximumRequestAttempts : Json PyText φ
  maximumRequestsPerSecond : Json PyText φ
  maximumConcurrency : Json PyText φ
  prohibitedOperations : List (Json PyText φ)
  activeChecks : List (Json PyText φ)
  authenticationContextId : Json PyText φ
  authorizationComparisonPlanId : Json PyText φ

/-- The fields of `TrustScanPermitClaims`. -/
structure Claims (φ : Type) where
  permitId : PyText
  organizationId : PyText
  authorizationId : PyText
  authorizationSha256 : PyText
  target : PyText
  issuedBy : PyText
  issuedAt : Nat
  notBefore : Nat
  expiresAt : Nat
  permittedModes : List ScanJobMode
  allowedHttpMethods : List PyText
  maximumRequestAttempts : Int
  maximumRequestsPerSecond : φ
  maximumConcurrency : Int
  prohibitedOperations : List PyText
  activeChecks : List PyText
  authenticationContextId : Option PyText
  authorizationComparisonPlanId : Option PyText
  deriving DecidableEq

section

variable {φ : Type} [PyFloat φ] [UrlParse.StandardLibrary] [NetworkLibrary] [UnicodeTables]

/-- The window of a permit. -/
def windowCheck (issuedAt notBefore expiresAt : Nat) : Raises Unit := do
  demand (issuedAt ≤ notBefore)
    "trustscan_permit_window_invalid" "not_before cannot precede issued_at."
  demand (notBefore < expiresAt)
    "trustscan_permit_window_invalid" "expires_at must be later than not_before."
  demand (expiresAt - notBefore ≤ maximumValidity)
    "trustscan_permit_window_too_long" "TrustScan permit validity cannot exceed 90 days."

def ClaimsInput.postInit (raw : ClaimsInput φ) : Raises (Claims φ) := do
  let permitId ← uuidField raw.permitId "permit_id"
  let organizationId ← uuidField raw.organizationId "organization_id"
  let authorizationId ← uuidField raw.authorizationId "authorization_id"
  let authorizationSha256 ← sha256Field raw.authorizationSha256 "authorization_sha256"
  let target ← targetField raw.target
  let issuedBy ← uuidField raw.issuedBy "issued_by"
  windowCheck raw.issuedAt raw.notBefore raw.expiresAt
  let permittedModes ← modesField raw.permittedModes
  let allowedHttpMethods ← methodsField raw.allowedHttpMethods
  let maximumRequestAttempts ← positiveInteger raw.maximumRequestAttempts
    "maximum_request_attempts" ScanPermits.maximumRequestAttempts
  let maximumRequestsPerSecond ← requestsPerSecond raw.maximumRequestsPerSecond
  let maximumConcurrency ← positiveInteger raw.maximumConcurrency "maximum_concurrency"
    ScanPermits.maximumConcurrency
  let prohibitedOperations ← prohibitedField raw.prohibitedOperations
  let activeChecks ← activeChecksField raw.activeChecks
  let authenticationContextId ← optionalUuidField raw.authenticationContextId
    "authentication_context_id"
  let authorizationComparisonPlanId ← optionalUuidField raw.authorizationComparisonPlanId
    "authorization_comparison_plan_id"
  return {
    permitId, organizationId, authorizationId, authorizationSha256, target, issuedBy,
    issuedAt := raw.issuedAt, notBefore := raw.notBefore, expiresAt := raw.expiresAt,
    permittedModes, allowedHttpMethods, maximumRequestAttempts, maximumRequestsPerSecond,
    maximumConcurrency, prohibitedOperations, activeChecks, authenticationContextId,
    authorizationComparisonPlanId }

/-- `_canonical_json`; the bytes are those of the characters in UTF-8. -/
def canonicalJson (value : Json PyText φ) : Raises (List Char) :=
  match dumps .utf8 value with
  | some document => .ok document
  | none =>
    refuse "trustscan_permit_json_invalid"
      "The TrustScan permit cannot be encoded as canonical JSON."

def optionalText (value : Option PyText) : Json PyText φ := value.elim .null .str

def textList (texts : List PyText) : Json PyText φ := .arr (texts.map .str)

def Claims.toDict (claims : Claims φ) : List (PyText × Json PyText φ) :=
  [(ofString "permit_id", .str claims.permitId),
    (ofString "organization_id", .str claims.organizationId),
    (ofString "authorization_id", .str claims.authorizationId),
    (ofString "authorization_sha256", .str claims.authorizationSha256),
    (ofString "target", .str claims.target),
    (ofString "issued_by", .str claims.issuedBy),
    (ofString "issued_at", .str (timestampText claims.issuedAt)),
    (ofString "not_before", .str (timestampText claims.notBefore)),
    (ofString "expires_at", .str (timestampText claims.expiresAt)),
    (ofString "permitted_modes", textList (claims.permittedModes.map fun m => ofString m.value)),
    (ofString "allowed_http_methods", textList claims.allowedHttpMethods),
    (ofString "maximum_request_attempts", .int claims.maximumRequestAttempts),
    (ofString "maximum_requests_per_second", .float claims.maximumRequestsPerSecond),
    (ofString "maximum_concurrency", .int claims.maximumConcurrency),
    (ofString "prohibited_operations", textList claims.prohibitedOperations),
    (ofString "active_checks", textList claims.activeChecks),
    (ofString "authentication_context_id", optionalText claims.authenticationContextId),
    (ofString "authorization_comparison_plan_id",
      optionalText claims.authorizationComparisonPlanId)]

def Claims.signingBytes (claims : Claims φ) : Raises (List Char) := canonicalJson (.obj claims.toDict)

end

/-! ## Permits -/

/-- The fields of `SignedTrustScanPermit`. -/
structure Permit (φ : Type) where
  claims : Claims φ
  signingKeyId : PyText
  signature : PyText
  signatureAlgorithm : PyText
  permitType : PyText
  schemaVersion : PyText
  deriving DecidableEq

/-- `^sha256:[0-9a-f]{64}$`, matched in full. -/
def isKeyId (text : PyText) : Bool :=
  text.take 7 = ofString "sha256:" && isHex64 (text.drop 7)

/-- Eighty to 128 characters of `[A-Za-z0-9_-]`. -/
def isSignature (text : PyText) : Bool :=
  80 ≤ text.length && text.length ≤ 128 && text.all fun n =>
    (65 ≤ n && n ≤ 90) || (97 ≤ n && n ≤ 122) || (48 ≤ n && n ≤ 57) || n = 95 || n = 45

section

variable {φ : Type}

/-- `value in texts`. -/
def textAmong (texts : List PyText) : Json PyText φ → Option PyText
  | .str text => if texts.contains text then some text else none
  | _ => none

/-- The text of a value that passes a check. -/
def textThat (check : PyText → Bool) : Json PyText φ → Option PyText
  | .str text => if check text then some text else none
  | _ => none

def orRefuse {α : Type} (value : Option α) (code message : String) : Raises α :=
  match value with
  | some a => .ok a
  | none => refuse code message

/-- `SignedTrustScanPermit(...)`. -/
def signedPermit (claims : Claims φ)
    (permitType schemaVersion algorithm keyId signature : Json PyText φ) : Raises (Permit φ) := do
  let permitType ← orRefuse (textAmong [ScanPermits.permitType] permitType)
    "trustscan_permit_type_invalid" "permit_type is invalid."
  let schemaVersion ← orRefuse (textAmong [ScanPermits.schemaVersion] schemaVersion)
    "trustscan_permit_schema_unsupported" "TrustScan permit schema_version is unsupported."
  let algorithm ← orRefuse (textAmong signatureAlgorithms algorithm)
    "trustscan_permit_signature_algorithm_invalid"
    "TrustScan permit signature algorithm is not supported."
  let keyId ← orRefuse (textThat isKeyId keyId)
    "trustscan_permit_key_id_invalid" "signing_key_id must be a SHA-256 key identifier."
  let signature ← orRefuse (textThat isSignature signature)
    "trustscan_permit_signature_invalid" "signature must be canonical unpadded Base64URL text."
  return ⟨claims, keyId, signature, algorithm, permitType, schemaVersion⟩

variable [PyFloat φ]

def Permit.fingerprint (digest : List Char → PyText) (permit : Permit φ) : Raises PyText := do
  let bytes ← permit.claims.signingBytes
  return digest bytes

/-- The signature of a permit, as a mapping. -/
def Permit.signatureDict (permit : Permit φ) : List (PyText × Json PyText φ) :=
  [(ofString "algorithm", .str permit.signatureAlgorithm),
    (ofString "key_id", .str permit.signingKeyId), (ofString "value", .str permit.signature)]

/-- `SignedTrustScanPermit.to_dict`, with the fingerprint it computes. -/
def Permit.dictWith (permit : Permit φ) (fingerprint : PyText) : List (PyText × Json PyText φ) :=
  [(ofString "permit_type", .str permit.permitType),
    (ofString "schema_version", .str permit.schemaVersion),
    (ofString "claims", .obj permit.claims.toDict),
    (ofString "signature", .obj permit.signatureDict),
    (ofString "permit_sha256", .str fingerprint)]

def Permit.toDict (digest : List Char → PyText) (permit : Permit φ) : Raises (Json PyText φ) := do
  let fingerprint ← permit.fingerprint digest
  return .obj (permit.dictWith fingerprint)

def Permit.toJson (digest : List Char → PyText) (permit : Permit φ) : Raises (List Char) := do
  let dict ← permit.toDict digest
  canonicalJson dict

end

end WebGuard.ScanPermits
