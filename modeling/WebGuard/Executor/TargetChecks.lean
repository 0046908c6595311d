import WebGuard.Contracts.OwnedTargets
import WebGuard.Crawler.NormalUrls

/-!
# Equality tests on targets

An authorization holds its target in the form of `canonicalize_owned_target_url`, and so do the
authentication contexts and the comparison plans that are bound to it. Before a scan the scanner
validates the target again, and its `normalised_url` is compared as a text: by
`validate_owned_target_preflight` and by the two `require_bound`.
-/

namespace WebGuard

open PyJson UrlParse StandardLibrary Atomic

variable [StandardLibrary] [NetworkLibrary]

/-! ## The checks -/

/-- What an `OwnedTargetAuthorization` says of its target. -/
structure TargetAuthorization where
  target : PyText
  allowedHosts : List Text

/-- The checks of its constructor that are about the target. -/
def TargetAuthorization.check [UnicodeTables] (authorization : TargetAuthorization) :
    Checked Unit := do
  let target ← OwnedTargets.canonicalizeOwnedTargetUrl authorization.target
  require (target = authorization.target) "owned_target_url_non_canonical"
    ("target must use canonical form " ++ UnicodeTables.quoted target ++ ".")
  require (!authorization.allowedHosts.isEmpty) "owned_target_allowed_hosts_invalid"
    "allowed_hosts must be a non-empty tuple."
  let hosts ← authorization.allowedHosts.mapM OwnedTargets.canonicalizeOwnedTargetHostname
  require (sortedTexts hosts = authorization.allowedHosts)
    "owned_target_allowed_hosts_non_canonical" "allowed_hosts must be sorted, unique, and canonical."
  match urlsplit (characters target) with
  | none => invalid "ValueError" "Invalid URL"
  | some parsed =>
    require (parsed.hostname.any authorization.allowedHosts.contains)
      "owned_target_canonical_host_not_allowed"
      "The canonical target hostname must appear in allowed_hosts."

/-- The checks of `validate_owned_target_preflight` that are about the target. -/
def preflightTarget (authorization : TargetAuthorization) (target : PyTarget) : Checked Unit := do
  require (target.scheme = https) "owned_target_https_required"
    "Owned production scans require HTTPS."
  require (target.normalisedUrl = authorization.target) "owned_target_canonical_target_mismatch"
    "The validated target must exactly match the authorization's canonical target."
  match urlsplit (characters target.normalisedUrl) with
  | none => invalid "ValueError" "Invalid URL"
  | some parsed =>
    require (parsed.hostname.any authorization.allowedHosts.contains)
      "owned_target_host_not_authorized"
      "The target hostname is not present in the authorization allowlist."

/-- `AuthenticationContextStatus` and `AuthorizationComparisonPlanStatus`. -/
inductive BindingStatus where
  | active
  | expired
  | revoked
  deriving DecidableEq

def BindingStatus.value : BindingStatus → String
  | .active => "active"
  | .expired => "expired"
  | .revoked => "revoked"

/-- What `require_bound` reads of a record. -/
structure BoundRecord where
  organizationId : String
  target : PyText
  authorizationId : String
  expiresAt : Nat
  revokedAt : Option Nat
  deriving DecidableEq

def BoundRecord.statusAt (record : BoundRecord) (now : Nat) : BindingStatus :=
  if record.revokedAt.isSome then .revoked
  else if record.expiresAt ≤ now then .expired
  else .active

/-- The words in which the two `require_bound` differ. -/
structure BindingWords where
  code : String
  statusCode : String
  subject : String

variable {target : PyText}

section

omit [StandardLibrary] [NetworkLibrary]

/-- `require_bound`, of the record that was found. -/
def requireBound (words : BindingWords) (record : BoundRecord) (organizationId : String)
    (target : PyText) (authorizationId : String) (now : Nat) : Checked BoundRecord := do
  require (record.organizationId = organizationId) (words.code ++ "_organization_mismatch")
    (words.subject ++ " does not belong to this organization.")
  require (record.target = target) (words.code ++ "_target_mismatch")
    (words.subject ++ " is not bound to this target.")
  require (record.authorizationId = authorizationId) (words.code ++ "_authorization_mismatch")
    (words.subject ++ " is not bound to this authorization.")
  let status := record.statusAt now
  require (status = .active) (words.statusCode ++ "_" ++ status.value)
    (words.subject ++ " is " ++ status.value ++ " and cannot be used.")
  return record

/-- `require_bound` of `authentication_contexts.py`. -/
def requireBoundContext := requireBound
  ⟨"authentication_context", "authentication_context", "Authentication context"⟩

/-- `require_bound` of `authorization_comparison.py`. -/
def requireBoundPlan := requireBound
  ⟨"authorization_comparison", "authorization_comparison_plan", "Authorization-comparison plan"⟩

theorem requireBound_eq_ok {words : BindingWords} {record : BoundRecord} {organizationId : String}
    {authorizationId : String} {now : Nat} {answer : BoundRecord} :
    requireBound words record organizationId target authorizationId now = .ok answer ↔
      record.organizationId = organizationId ∧ record.target = target ∧
        record.authorizationId = authorizationId ∧ record.statusAt now = .active ∧
        answer = record := by
  unfold requireBound
  simp only [bind_ok_iff, require_eq_ok, decide_eq_true_eq]
  constructor
  · rintro ⟨_, horganization, _, htarget, _, hauthorization, _, hstatus, h⟩
    cases h
    exact ⟨horganization, htarget, hauthorization, hstatus, rfl⟩
  · rintro ⟨horganization, htarget, hauthorization, hstatus, rfl⟩
    exact ⟨(), horganization, (), htarget, (), hauthorization, (), hstatus, rfl⟩

end

/-! ## The canonical form is a normalised URL -/

namespace OwnedTargets

omit [StandardLibrary] [NetworkLibrary] in
theorem isLabel_iff (label : Text) : isLabel label = true ↔ checkLabel label = .ok () := by
  unfold isLabel checkLabel
  simp only [bind_ok_iff, require_eq_ok, Bool.and_eq_true]
  constructor
  · rintro ⟨⟨⟨⟨hne, hlength⟩, hfirst⟩, hlast⟩, hall⟩
    exact ⟨(), hne, (), hlength, (), ⟨hfirst, hlast⟩, hall⟩
  · rintro ⟨_, hne, _, hlength, _, ⟨hfirst, hlast⟩, hall⟩
    exact ⟨⟨⟨⟨hne, hlength⟩, hfirst⟩, hlast⟩, hall⟩

variable {hostname : Text}

theorem labelled_of_canonicalize (laws : HostLaws) {value : Text}
    (h : canonicalizeOwnedTargetHostname value = .ok hostname) : Labelled hostname := by
  unfold canonicalizeOwnedTargetHostname at h
  dsimp only at h
  split at h
  · cases h
  split at h
  · cases h
  split at h
  · cases h
  next encoded hencoded =>
  split at h
  · cases h
  next hlength =>
  split at h
  · cases h
  split at h
  · cases h
  next hlabels =>
  cases h
  have hall : ∀ label ∈ split '.' (lower encoded), isLabel label = true := by simpa using hlabels
  exact labelled_of_labels (laws.encoded _ _ hencoded)
    (forM_ok_iff.mpr fun label hl => (isLabel_iff label).mp (hall label hl)) (by omega)

omit [NetworkLibrary] in
theorem targetAuthority_eq (laws : AddressLaws) (h : Labelled hostname) (port : Option Nat) :
    targetAuthority hostname port = authority hostname (port.getD 443) https := by
  have hname : isIPv6Host hostname = false := by
    unfold isIPv6Host
    cases haddress : ipAddress hostname with
    | none => rfl
    | some address =>
      obtain ⟨isIPv6, compressed⟩ := address
      cases isIPv6 with
      | false => rfl
      | true => exact absurd (h.characters ':' (laws.ipv6 _ _ haddress).1) (by decide)
  have hdefault : defaultPort https = 443 := rfl
  unfold authority
  rw [(renderedHost_named (h.hostname laws) hname).1, hdefault]
  cases port with
  | none => rfl
  | some port => rfl

/-- The name that is encoded: without white space around it, and without dots at its end. -/
def bareName (name : Text) : Text := (stripped name).rdropWhile (· = '.')

/-- What a URL is taken apart into: the encoded host, the port and the path. -/
structure TargetParts where
  hostname : Text
  port : Option Nat
  path : PyText
  deriving DecidableEq

def targetParts (value : PyText) : Option TargetParts := do
  let parsed ← urlsplit (characters (stripText value))
  let name ← parsed.hostname
  let encoded ← NetworkLibrary.idna (bareName name)
  let port ← parsed.port
  return ⟨lower encoded, port, targetPath (stripText value) parsed⟩

/-- A path that has a segment of dots. -/
def hasDots (path : PyText) : Bool :=
  (pathSegments path).any fun segment => segment = [46] || segment = [46, 46]

/-- What was checked of the parts of a URL that was accepted. -/
structure TargetParts.Accepted (parts : TargetParts) : Prop where
  labelled : Labelled parts.hostname
  labels : 2 ≤ (split '.' parts.hostname).length
  path : hasDots (rootedPath parts.path) = false
  normal : NormalUrl https parts.hostname (parts.port.getD 443) (rootedPath parts.path)

theorem encoded_of_canonicalize (laws : HostLaws) {value : Text}
    (h : canonicalizeOwnedTargetHostname value = .ok hostname) :
    (NetworkLibrary.idna (bareName value)).map lower = some hostname ∧ Labelled hostname ∧
      2 ≤ (split '.' hostname).length := by
  have hlabelled := labelled_of_canonicalize laws h
  have hbare : ((((value.dropWhile isSpace).reverse.dropWhile isSpace).reverse).reverse.dropWhile
      (fun c => decide (c = '.'))).reverse = bareName value := rfl
  unfold canonicalizeOwnedTargetHostname at h
  dsimp only at h
  rw [hbare] at h
  split at h
  · cases h
  split at h
  · cases h
  split at h
  · cases h
  next encoded hencoded =>
  split at h
  · cases h
  split at h
  · cases h
  next hlabels =>
  split at h
  · cases h
  cases h
  exact ⟨by rw [hencoded]; rfl, hlabelled, Nat.le_of_not_lt hlabels⟩

theorem normalUrl_of_parts (laws : HostLaws) {candidate : PyText} {parsed : SplitResult}
    {port : Option Nat} (hlabelled : Labelled hostname) (hport : parsed.port = some port)
    (hbackslash : 92 ∉ candidate) :
    NormalUrl https hostname (port.getD 443) (rootedPath (targetPath candidate parsed)) where
  web := Or.inr rfl
  host := hlabelled.hostname laws.toAddressLaws
  again := hlabelled.normaliseHostname_eq laws
  port := by
    cases port with
    | none => decide
    | some port => exact port_le hport
  rooted := by
    unfold rootedPath
    split
    · assumption
    · rfl
  plain := by
    intro n hn
    have hcases : n = 47 ∨ n ∈ targetPath candidate parsed := by
      unfold rootedPath at hn
      split at hn
      · exact Or.inr hn
      · exact List.mem_cons.mp hn
    rcases hcases with rfl | hn
    · decide
    · obtain ⟨hmem, hkept⟩ := mem_of_taken hn
      have hslash : n ≠ 92 := fun heq => hbackslash (heq ▸ hmem)
      omega

theorem canonicalize_spec (laws : HostLaws) {value : PyText}
    (h : canonicalizeOwnedTargetUrl value = .ok target) :
    ∃ parts, targetParts value = some parts ∧ parts.Accepted ∧
      target = normalUrl https parts.hostname (parts.port.getD 443) (rootedPath parts.path) := by
  unfold canonicalizeOwnedTargetUrl at h
  dsimp only at h
  split at h
  · cases h
  next hcandidate =>
  split at h
  · cases h
  next parsed hparsed =>
  split at h
  · cases h
  split at h
  · cases h
  split at h
  · cases h
  split at h
  · cases h
  next name hname =>
  split at h
  · cases h
  · cases h
  next hostname port hhostname hport =>
  split at h
  · cases h
  next hdots =>
  cases h
  obtain ⟨hencoded, hlabelled, hlabels⟩ := encoded_of_canonicalize laws hhostname
  obtain ⟨encoded, hidna, hlower⟩ := Option.map_eq_some_iff.mp hencoded
  have hbackslash : 92 ∉ stripText value := by
    simp only [Bool.or_eq_true, not_or] at hcandidate
    simpa using hcandidate.2
  refine ⟨⟨hostname, port, targetPath (stripText value) parsed⟩, ?_,
    ⟨hlabelled, hlabels, Bool.eq_false_iff.mpr hdots, ?_⟩, ?_⟩
  · simp [targetParts, hparsed, hname, hidna, hport, hlower]
  · exact normalUrl_of_parts laws hlabelled hport hbackslash
  · have hscheme : ofString "https://" = codePoints (https ++ "://".toList) := by decide
    rw [targetAuthority_eq laws.toAddressLaws hlabelled, normalUrl, hscheme]
    simp [codePoints, schemeAndAuthority]

theorem normalUrl_of_canonicalize (laws : HostLaws) {value : PyText}
    (h : canonicalizeOwnedTargetUrl value = .ok target) :
    ∃ hostname port path, NormalUrl https hostname port path ∧
      target = normalUrl https hostname port path := by
  obtain ⟨parts, -, haccepted, htarget⟩ := canonicalize_spec laws h
  exact ⟨_, _, _, haccepted.normal, htarget⟩

end OwnedTargets

end WebGuard
