import WebGuard.Contracts.ScanPermits

/-!
# The permit loader

`load_signed_trustscan_permit_json`: bytes are decoded and parsed strictly, the fields are looked up,
the constructors run, and in the end the permit is written again and compared with the document.

`_parse_json` catches what is not JSON and a key that is there twice. The errors of the decoder
that are not a `JSONDecodeError` go through, and so does an `OverflowError` out of the constructors,
which are guarded against a `ValueError` only.
-/

namespace WebGuard.ScanPermits

open PyJson

/-- The limits that `json.loads` runs into, with room for a permit. -/
structure Interpreter where
  recursionLimit : Nat
  maximumDigits : Nat
  room : 16 ≤ recursionLimit ∧ 640 ≤ maximumDigits

def rootKeys : List PyText :=
  [ofString "permit_type", ofString "schema_version", ofString "claims", ofString "signature",
    ofString "permit_sha256"]

def claimKeys : List PyText :=
  [ofString "permit_id", ofString "organization_id", ofString "authorization_id",
    ofString "authorization_sha256", ofString "target", ofString "issued_by", ofString "issued_at",
    ofString "not_before", ofString "expires_at", ofString "permitted_modes",
    ofString "allowed_http_methods", ofString "maximum_request_attempts",
    ofString "maximum_requests_per_second", ofString "maximum_concurrency",
    ofString "prohibited_operations", ofString "active_checks",
    ofString "authentication_context_id", ofString "authorization_comparison_plan_id"]

def signatureKeys : List PyText := [ofString "algorithm", ofString "key_id", ofString "value"]

section

variable {φ : Type} [PyFloat φ]

/-- The hook of `_parse_json`: a key that is there twice is refused. -/
def strictHooks (interpreter : Interpreter) : Hooks Unit φ where
  pairs members := if (members.map Prod.fst).Nodup then .ok (.obj members) else .error ()
  constant c := .ok (.float (PyFloat.ofConstant c))
  recursionLimit := interpreter.recursionLimit
  maximumDigits := interpreter.maximumDigits

/-- `_parse_json`, of bytes. -/
def parseJson (interpreter : Interpreter) (raw : ByteArray) : Raises (Json PyText φ) :=
  if maximumDocumentBytes < raw.size then
    refuseLoad "trustscan_permit_document_too_large" "TrustScan permit document exceeds 128 KiB."
  else
    match raw.utf8Decode? with
    | none =>
      refuseLoad "trustscan_permit_encoding_invalid"
        "TrustScan permit document must be valid UTF-8."
    | some text =>
      match loads (strictHooks interpreter) text.toList with
      | .ok value => .ok value
      | .error .recursion => .error .recursion
      | .error .digits => .error .value
      | .error _ =>
        refuseLoad "trustscan_permit_json_invalid"
          "TrustScan permit document is not valid strict JSON."

def strictMapping [UnicodeTables] (value : Json PyText φ) (required : List PyText)
    (context : String) : Raises (List (PyText × Json PyText φ)) :=
  match value with
  | .obj members =>
    let keys := members.map Prod.fst
    match sortedSet (required.filter (!keys.contains ·)),
        sortedSet (keys.filter (!required.contains ·)) with
    | missing :: _, _ =>
      refuseLoad "trustscan_permit_field_missing"
        (context ++ " is missing required field " ++ UnicodeTables.quoted missing ++ ".")
    | [], unknown :: _ =>
      refuseLoad "trustscan_permit_field_unknown"
        (context ++ " contains unknown field " ++ UnicodeTables.quoted unknown ++ ".")
    | [], [] => .ok members
  | _ => refuseLoad "trustscan_permit_document_invalid" (context ++ " must be a JSON object.")

/-- `members[name]` of a mapping that has the key. -/
def member (name : String) (members : List (PyText × Json PyText φ)) : Json PyText φ :=
  (lookup (ofString name) members).getD .null

/-- A value that is a list. -/
def listField (value : Json PyText φ) : Raises (List (Json PyText φ)) :=
  match value with
  | .arr items => .ok items
  | _ => refuseLoad "trustscan_permit_list_required" "Permit list fields must be JSON arrays."

def parseTimestamp [IsoReader] (value : Json PyText φ) (fieldName : String) : Raises Nat :=
  match value with
  | .str text =>
    match readTimestamp text with
    | .ok t => .ok t
    | .error .zone =>
      refuseLoad "trustscan_permit_timestamp_invalid"
        (fieldName ++ " must use canonical UTC Z notation.")
    | .error .unreadable =>
      refuseLoad "trustscan_permit_timestamp_invalid" (fieldName ++ " is not a valid timestamp.")
    | .error .nonCanonical =>
      refuseLoad "trustscan_permit_timestamp_non_canonical"
        (fieldName ++ " must use canonical microsecond UTC notation.")
  | _ =>
    refuseLoad "trustscan_permit_timestamp_invalid"
      (fieldName ++ " must use canonical UTC Z notation.")

/-- `ScanJobMode(value)`. -/
def modeOf (value : Json PyText φ) : Raises ScanJobMode :=
  match value with
  | .str text =>
    if text = ofString ScanJobMode.singlePage.value then .ok .singlePage
    else if text = ofString ScanJobMode.crawl.value then .ok .crawl
    else .error .value
  | _ => .error .value

/-- The arguments of `TrustScanPermitClaims(...)`, as the loader computes them. -/
def claimsInput [IsoReader] (claims : List (PyText × Json PyText φ))
    (modes methods prohibited checks : List (Json PyText φ)) : Raises (ClaimsInput φ) := do
  let issuedAt ← parseTimestamp (member "issued_at" claims) "issued_at"
  let notBefore ← parseTimestamp (member "not_before" claims) "not_before"
  let expiresAt ← parseTimestamp (member "expires_at" claims) "expires_at"
  let permittedModes ← modes.mapM modeOf
  return {
    permitId := member "permit_id" claims
    organizationId := member "organization_id" claims
    authorizationId := member "authorization_id" claims
    authorizationSha256 := member "authorization_sha256" claims
    target := member "target" claims
    issuedBy := member "issued_by" claims
    issuedAt, notBefore, expiresAt, permittedModes
    allowedHttpMethods := methods
    maximumRequestAttempts := member "maximum_request_attempts" claims
    maximumRequestsPerSecond := member "maximum_requests_per_second" claims
    maximumConcurrency := member "maximum_concurrency" claims
    prohibitedOperations := prohibited
    activeChecks := checks
    authenticationContextId := member "authentication_context_id" claims
    authorizationComparisonPlanId := member "authorization_comparison_plan_id" claims }

/-- `except ValueError`: a controlled error keeps its code, any other one has a mode for its cause. -/
def asLoadError {α : Type} (answer : Raises α) : Raises α :=
  match answer with
  | .error (.validation e) => .error (.load e)
  | .error .value =>
    refuseLoad "trustscan_permit_modes_invalid"
      "permitted_modes contains an unsupported scan mode."
  | answer => answer

variable [UrlParse.StandardLibrary] [NetworkLibrary] [UnicodeTables] [IsoReader]

/-- The permit of a document, and the fingerprint it gives. -/
def buildPermit (document : Json PyText φ) : Raises (Permit φ × PyText) := do
  let root ← strictMapping document rootKeys "TrustScan permit"
  let claims ← strictMapping (member "claims" root) claimKeys "TrustScan permit claims"
  let signature ← strictMapping (member "signature" root) signatureKeys
    "TrustScan permit signature"
  let modes ← listField (member "permitted_modes" claims)
  let methods ← listField (member "allowed_http_methods" claims)
  let prohibited ← listField (member "prohibited_operations" claims)
  let checks ← listField (member "active_checks" claims)
  let permit ← asLoadError do
    let input ← claimsInput claims modes methods prohibited checks
    let claims ← input.postInit
    signedPermit claims (member "permit_type" root) (member "schema_version" root)
      (member "algorithm" signature) (member "key_id" signature) (member "value" signature)
  let supplied ← asLoadError (sha256Field (member "permit_sha256" root) "permit_sha256")
  return (permit, supplied)

/-- The two comparisons at the end of the loader. -/
def checkCanonical (digest : List Char → PyText) (document : Json PyText φ) (permit : Permit φ)
    (supplied : PyText) : Raises (Permit φ) := do
  let fingerprint ← permit.fingerprint digest
  if supplied ≠ fingerprint then
    refuseLoad "trustscan_permit_fingerprint_mismatch"
      "permit_sha256 does not match the canonical signed claims."
  else
    let written ← permit.toJson digest
    let given ← canonicalJson document
    if written ≠ given then
      refuseLoad "trustscan_permit_non_canonical"
        "TrustScan permit document contains non-canonical values."
    else .ok permit

/-- `load_signed_trustscan_permit_json`, of bytes. -/
def loadSignedPermit (digest : List Char → PyText) (interpreter : Interpreter) (raw : ByteArray) :
    Raises (Permit φ) := do
  let document ← parseJson interpreter raw
  let (permit, supplied) ← buildPermit document
  checkCanonical digest document permit supplied

end

end WebGuard.ScanPermits
