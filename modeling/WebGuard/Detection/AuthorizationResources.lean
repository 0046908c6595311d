import WebGuard.Detection.ActiveDetection

/-!
# Resources that belong to an identity

`authorization_resource.py`, `resource_graph.py` and the pairs of a comparison plan: an address with
the identity that owns what is there, and which two of them are compared.

The identifier of a resource is the digest of the fields that tell it apart. The digest of bytes,
`sha256`, is a parameter.
-/

namespace WebGuard.ActiveDetection

open PyJson UrlParse StandardLibrary

/-! ## Resources -/

inductive ResourceOwnership where
  | privateToOwner
  | shared
  | «public»
  | unknown
  deriving DecidableEq

inductive IdentifierLocation where
  | path
  | query
  | none
  deriving DecidableEq

def IdentifierLocation.value : IdentifierLocation → PyText
  | .path => ofString "path"
  | .query => ofString "query"
  | .none => ofString "none"

inductive IdentifierProvenance where
  | htmlLink
  | apiResponse
  | jsonField
  | formValue
  | openapiDeclaration
  | explicitOperatorInput
  | controlledFixture
  deriving DecidableEq

/-- The fields of an `AuthorizationResource` that are given to its constructor. -/
structure ResourceFields where
  resourceType : PyText
  endpoint : PyText
  method : PyText
  identifierLocation : IdentifierLocation
  identifierName : PyText
  identifierValue : PyText
  owningTestIdentity : PyText
  expectedAccess : ResourceOwnership
  ownerMarker : PyText
  provenance : IdentifierProvenance
  deriving DecidableEq

variable [StandardLibrary]

/-- `AuthorizationResource`; its endpoint can be split. -/
structure AuthorizationResource extends ResourceFields where
  parsed : SplitResult
  resourceId : PyText
  splits : urlsplit (characters endpoint) = some parsed

/-- `f"{parsed.scheme}://{parsed.netloc}{path}"`. -/
def canonicalEndpoint (parsed : SplitResult) (path : Text) : PyText :=
  codePoints (parsed.scheme ++ "://".toList ++ parsed.netloc ++ path)

/-- `parsed.path or "/"`. -/
def rootedPath (parsed : SplitResult) : Text := if parsed.path.isEmpty then ['/'] else parsed.path

/-- `"|".join(parts)`. -/
def joinBars (parts : List PyText) : PyText := List.intercalate [124] parts

/-- The text that a resource is told apart by. -/
def ResourceFields.identityKey (fields : ResourceFields) (parsed : SplitResult) : PyText :=
  joinBars [canonicalEndpoint parsed (rootedPath parsed), fields.method,
    fields.identifierLocation.value, fields.identifierName, fields.identifierValue]

/-- Whether the identity key of a resource can be encoded: nothing of a query or a fragment is in
it. -/
def ResourceFields.hasEncodableKey (fields : ResourceFields) : Bool :=
  isEncodable (fields.endpoint.takeWhile fun n => n ≠ 63 && n ≠ 35)
    && isEncodable fields.method && isEncodable fields.identifierName
    && isEncodable fields.identifierValue

/-- `__post_init__` of `AuthorizationResource`. -/
def ResourceFields.postInit [UnicodeTables] (sha256 : List Nat → PyText) (raw : ResourceFields) :
    Except Failure AuthorizationResource :=
  if (stripText raw.endpoint).isEmpty then
    .error (.resource "authorization_resource_endpoint_invalid"
      "An authorization resource requires a non-empty endpoint.")
  else if raw.owningTestIdentity.isEmpty then
    .error (.resource "authorization_resource_owner_invalid"
      "An authorization resource requires a non-empty owning test identity label.")
  else
    let fields := { raw with method := UnicodeTables.upper raw.method }
    match h : urlsplit (characters raw.endpoint) with
    | none => .error .url
    | some parsed =>
      if fields.hasEncodableKey then
        .ok { fields with
          parsed
          resourceId := sha256 ((fields.identityKey parsed).flatMap utf8Bytes)
          splits := h }
      else .error .encoding

structure AuthorizationResourcePair where
  primaryResource : AuthorizationResource
  secondaryResource : AuthorizationResource

/-- What tells a pair apart. -/
def AuthorizationResourcePair.ids (pair : AuthorizationResourcePair) : PyText × PyText :=
  (pair.primaryResource.resourceId, pair.secondaryResource.resourceId)

/-! ## Pairs of a plan -/

structure ResourcePairSpec where
  resourceType : PyText
  method : PyText
  primaryEndpoint : PyText
  secondaryEndpoint : PyText
  identifierLocation : PyText
  identifierName : PyText
  expectedAccess : PyText
  deriving DecidableEq

/-- `_IDENTIFIER_LOCATION_MAP`, with its default. -/
def identifierLocationOf (value : PyText) : IdentifierLocation :=
  if value = ofString "path" then .path
  else if value = ofString "query" then .query
  else .none

/-- `_RESOURCE_OWNERSHIP_MAP`, with its default. -/
def resourceOwnershipOf (value : PyText) : ResourceOwnership :=
  if value = ofString "shared" then .shared
  else if value = ofString "public" then .public
  else if value = ofString "unknown" then .unknown
  else .privateToOwner

/-- `endpoint.rsplit("/", 1)[-1]`. -/
def lastSegment (endpoint : PyText) : PyText := (endpoint.reverse.takeWhile (· ≠ 47)).reverse

/-- One side of a pair of a plan. -/
def ResourcePairSpec.side (spec : ResourcePairSpec) (endpoint identity : PyText) :
    ResourceFields where
  resourceType := spec.resourceType
  endpoint := endpoint
  method := spec.method
  identifierLocation := identifierLocationOf spec.identifierLocation
  identifierName := spec.identifierName
  identifierValue := lastSegment endpoint
  owningTestIdentity := identity
  expectedAccess := resourceOwnershipOf spec.expectedAccess
  ownerMarker := []
  provenance := .explicitOperatorInput

def resourcePairFromSpec [UnicodeTables] (sha256 : List Nat → PyText)
    (primaryIdentity secondaryIdentity : PyText) (spec : ResourcePairSpec) :
    Except Failure AuthorizationResourcePair := do
  let primaryResource ← (spec.side spec.primaryEndpoint primaryIdentity).postInit sha256
  let secondaryResource ← (spec.side spec.secondaryEndpoint secondaryIdentity).postInit sha256
  return { primaryResource, secondaryResource }

/-! ## Pairs of discovered resources -/

/-- `add_resources`, to the resources of an identity. -/
def addResources (identityLabel : PyText) (bucket : List AuthorizationResource) :
    List AuthorizationResource → List AuthorizationResource
  | [] => bucket
  | resource :: rest =>
    if resource.owningTestIdentity ≠ identityLabel
        ∨ resource.resourceId ∈ bucket.map (·.resourceId) then
      addResources identityLabel bucket rest
    else addResources identityLabel (bucket ++ [resource]) rest

/-- The last segment of a path that is the identifier is replaced. -/
def templateSegments (identifier : PyText) : List PyText → List PyText
  | [] => []
  | segment :: rest =>
    if identifier ∈ rest then segment :: templateSegments identifier rest
    else if segment = identifier then ofString "\x7bidentifier\x7d" :: rest
    else segment :: rest

def AuthorizationResource.endpointTemplate (resource : AuthorizationResource) : PyText :=
  let path := codePoints (rootedPath resource.parsed)
  let templated :=
    if resource.identifierLocation = .path ∧ resource.identifierValue ≠ [] then
      List.intercalate [47] (templateSegments resource.identifierValue (path.splitOn 47))
    else path
  joinBars [canonicalEndpoint resource.parsed [] ++ templated, resource.method,
    resource.identifierLocation.value, resource.identifierName]

def readOnlyMethods : List PyText := [ofString "GET", ofString "HEAD"]

def approvedComparisonProvenance : List IdentifierProvenance :=
  [.htmlLink, .apiResponse, .jsonField, .formValue, .openapiDeclaration, .explicitOperatorInput,
    .controlledFixture]

def isEligibleForComparison (primary secondary : AuthorizationResource) : Bool :=
  primary.owningTestIdentity ≠ secondary.owningTestIdentity
    && primary.resourceType = secondary.resourceType
    && primary.method = secondary.method
    && readOnlyMethods.contains primary.method
    && primary.identifierLocation = secondary.identifierLocation
    && primary.identifierLocation ≠ .none
    && primary.expectedAccess = .privateToOwner
    && secondary.expectedAccess = .privateToOwner
    && approvedComparisonProvenance.contains primary.provenance
    && approvedComparisonProvenance.contains secondary.provenance
    && primary.identifierValue ≠ secondary.identifierValue
    && primary.endpointTemplate = secondary.endpointTemplate

/-- The loop of `build_comparison_pairs` over the resources of the primary identity. -/
def pairUpTo (maximumPairs : Int) (secondaryResources : List AuthorizationResource) :
    List AuthorizationResourcePair → List AuthorizationResource → List AuthorizationResourcePair
  | pairs, [] => pairs
  | pairs, primary :: rest =>
    if maximumPairs ≤ pairs.length then pairs
    else
      match secondaryResources.find? fun secondary =>
          secondary.resourceId ∉ pairs.map (·.secondaryResource.resourceId)
            && isEligibleForComparison primary secondary with
      | none => pairUpTo maximumPairs secondaryResources pairs rest
      | some secondary =>
        pairUpTo maximumPairs secondaryResources (pairs ++ [⟨primary, secondary⟩]) rest

/-- `build_comparison_pairs` with its default of twenty pairs, for the resources of two identities. -/
def buildComparisonPairs (primaryResources secondaryResources : List AuthorizationResource) :
    List AuthorizationResourcePair :=
  pairUpTo 20 secondaryResources [] primaryResources

/-- The discovered pairs behind those of the plan; a pair of resources comes once more only in the
plan itself. -/
def addDiscoveredPairs (pairs : List AuthorizationResourcePair) :
    List AuthorizationResourcePair → List AuthorizationResourcePair
  | [] => pairs
  | pair :: rest =>
    if pair.ids ∈ pairs.map AuthorizationResourcePair.ids then addDiscoveredPairs pairs rest
    else addDiscoveredPairs (pairs ++ [pair]) rest

end WebGuard.ActiveDetection
