import Mathlib.Data.List.Dedup
import Mathlib.Data.List.Lex
import Mathlib.Data.List.Sort
import Mathlib.Data.String.Basic
import WebGuard.Crawler.Urls

/-!
# Target validation

`validate_target_url` of `scope_validator.py`, which every scan starts with: it takes a URL apart,
normalises the host, resolves it and checks the addresses, and puts the normalised URL together.

The host comes out as the crawler's `Hostname` (`hostname_of_normaliseHostname`), so that what was
proved about a `ValidatedTarget` is about every target that was accepted (`exists_target`).
-/

namespace WebGuard

open UrlParse Atomic Bool

/-! ## What the validation takes from outside -/

/-- The properties of an address that the policies look at. -/
structure AddressProperties where
  isGlobal : Bool
  isPrivate : Bool
  isLoopback : Bool
  isLinkLocal : Bool
  isMulticast : Bool
  isReserved : Bool
  isUnspecified : Bool

/-- The tables behind names and addresses. -/
class NetworkLibrary where
  /-- `str.encode("idna")`, byte by byte; `none` is a `UnicodeError`. -/
  idna : Text → Option Text
  /-- The properties of an address, of the embedded one for an IPv4-mapped IPv6 address. -/
  properties : Text → AddressProperties
  /-- `repr` of a text. -/
  quoted : Text → String

inductive ValidationMode where
  | commercial
  | lab
  deriving DecidableEq

structure ValidationPolicy where
  mode : ValidationMode
  allowedLabHosts : List Text
  maximumUrlLength : Nat

/-- What a resolver raises: an error of the validation, or an `OSError`. -/
inductive ResolverError where
  | validation (error : ContractError)
  | operatingSystem

abbrev Resolver := Text → Nat → Except ResolverError (List Text)

/-- The fields of `ValidatedTarget`. -/
structure TargetFields where
  originalUrl : Text
  normalisedUrl : Text
  scheme : Text
  hostname : Text
  port : Nat
  resolvedAddresses : List Text

variable [StandardLibrary] [NetworkLibrary]

open StandardLibrary NetworkLibrary

/-! ## Hosts -/

/-- A label of a DNS name. -/
def checkLabel (label : Text) : Checked Unit := do
  require (!label.isEmpty) "hostname_invalid" "The hostname contains an empty DNS label."
  require (label.length ≤ 63) "hostname_label_too_long" "A hostname label exceeds 63 characters."
  require (label.head? ≠ some '-' && label.getLast? ≠ some '-') "hostname_invalid"
    "A hostname label cannot begin or end with a hyphen."
  require (label.all fun c => isAsciiLetter c || isAsciiDigit c || c = '-') "hostname_invalid"
    "The hostname contains invalid characters."

/-- `_normalise_hostname`. The labels are ASCII, where `isalnum` is a letter or a digit. -/
def normaliseHostname (hostname : Text) : Checked Text := do
  let candidate := (stripped hostname).rdropWhile (· = '.')
  require (!candidate.isEmpty) "hostname_missing" "The target URL does not contain a hostname."
  require (!candidate.contains '%') "ipv6_zone_not_allowed"
    "IPv6 zone identifiers are not allowed."
  match ipAddress candidate with
  | some address => return address.compressed
  | none =>
    match (idna candidate).filter isAscii with
    | none => invalid "hostname_invalid" "The hostname is not valid."
    | some encoded =>
      let asciiHostname := lower encoded
      require (asciiHostname.length ≤ 253) "hostname_too_long"
        "The hostname exceeds 253 characters."
      (split '.' asciiHostname).forM checkLabel
      return asciiHostname

def formatNetloc (hostname : Text) (port : Nat) (scheme : Text) : Text :=
  let formattedHost :=
    match ipAddress hostname with
    | some address => if address.isIPv6 then '[' :: hostname ++ [']'] else hostname
    | none => hostname
  if port = defaultPort scheme then formattedHost
  else formattedHost ++ ':' :: Nat.toDigits 10 port

/-! ## Addresses -/

def validateCommercialAddress (addressText : Text) : Checked Text :=
  match ipAddress addressText with
  | none =>
    invalid "dns_invalid_address" ("DNS returned an invalid address: " ++ quoted addressText ++ ".")
  | some address => do
    let classified := properties addressText
    require (classified.isGlobal && !classified.isPrivate && !classified.isLoopback
        && !classified.isLinkLocal && !classified.isMulticast && !classified.isReserved
        && !classified.isUnspecified)
      "non_public_address" ("Commercial scans cannot target " ++ quoted addressText ++ ".")
    return address.compressed

def validateLabAddress (addressText : Text) : Checked Text :=
  match ipAddress addressText with
  | none =>
    invalid "dns_invalid_address" ("DNS returned an invalid address: " ++ quoted addressText ++ ".")
  | some address => do
    let classified := properties addressText
    require (!classified.isLinkLocal && !classified.isMulticast && !classified.isReserved
        && !classified.isUnspecified)
      "unsafe_lab_address" ("The laboratory address " ++ quoted addressText ++ " is prohibited.")
    require (classified.isPrivate || classified.isLoopback) "public_lab_address"
      "Laboratory mode cannot target public addresses."
    return address.compressed

/-- `sorted` of a set of texts. -/
def sortedTexts (texts : List Text) : List Text := texts.dedup.insertionSort (· ≤ ·)

/-- The addresses the mode of the policy lets through. -/
def validateAddresses (policy : ValidationPolicy) (hostname : Text) (addresses : List Text) :
    Checked (List Text) :=
  match policy.mode with
  | .commercial => return sortedTexts (← addresses.mapM validateCommercialAddress)
  | .lab => do
    let allowedHosts ← policy.allowedLabHosts.mapM normaliseHostname
    require (!allowedHosts.isEmpty) "lab_allowlist_empty"
      "Laboratory mode requires an explicit hostname allowlist."
    require (allowedHosts.contains hostname) "lab_host_not_allowed"
      ("The laboratory hostname " ++ quoted hostname ++ " is not allowlisted.")
    return sortedTexts (← addresses.mapM validateLabAddress)

/-- The call of the resolver. -/
def resolvedBy (resolver : Resolver) (hostname : Text) (port : Nat) : Checked (List Text) :=
  match resolver hostname port with
  | .error (.validation error) => .error error
  | .error .operatingSystem =>
    invalid "dns_resolution_failed" ("DNS resolution failed for " ++ quoted hostname ++ ".")
  | .ok addresses => return addresses

/-! ## Targets -/

/-- The part of `validate_target_url` behind the parse. -/
def validateSplit (candidate : Text) (parsed : SplitResult) (policy : ValidationPolicy)
    (resolver : Resolver) : Checked TargetFields := do
  let scheme := lower parsed.scheme
  require (scheme = http || scheme = https) "scheme_not_allowed"
    "Only HTTP and HTTPS targets are supported."
  require (parsed.userinfo = (none, none)) "credentials_not_allowed"
    "Credentials cannot be embedded in target URLs."
  require parsed.query.isEmpty "query_not_allowed"
    "Registered target URLs cannot contain query strings."
  require parsed.fragment.isEmpty "fragment_not_allowed"
    "Registered target URLs cannot contain fragments."
  match parsed.hostname with
  | none => invalid "hostname_missing" "The target URL does not contain a hostname."
  | some host =>
    let hostname ← normaliseHostname host
    match parsed.port with
    | none => invalid "port_invalid" "The target URL contains an invalid port."
    | some configured =>
      let port := configured.getD (defaultPort scheme)
      let rawAddresses ← resolvedBy resolver hostname port
      require (!rawAddresses.isEmpty) "dns_no_addresses"
        ("DNS returned no usable addresses for " ++ quoted hostname ++ ".")
      let addresses ← validateAddresses policy hostname rawAddresses
      let path := if parsed.path.isEmpty then ['/'] else parsed.path
      return {
        originalUrl := candidate
        normalisedUrl := urlunsplit ⟨scheme, formatNetloc hostname port scheme, path, [], []⟩
        scheme := scheme
        hostname := hostname
        port := port
        resolvedAddresses := addresses }

def validateTargetUrl (url : Text) (policy : ValidationPolicy) (resolver : Resolver) :
    Checked TargetFields := do
  let candidate := stripped url
  require (!candidate.isEmpty) "url_empty" "The target URL cannot be empty."
  require (candidate.length ≤ policy.maximumUrlLength) "url_too_long"
    "The target URL exceeds the maximum permitted length."
  require (!candidate.contains '\\') "backslash_not_allowed"
    "Backslashes are not allowed in target URLs."
  require (!candidate.any fun c => c.toNat < 32 || c.toNat = 127) "control_character_not_allowed"
    "Control characters are not allowed in target URLs."
  match urlsplit candidate with
  | none => invalid "url_invalid" "The target URL is malformed."
  | some parsed => validateSplit candidate parsed policy resolver

/-! ## What an accepted target looks like -/

/--
What is documented of the texts of addresses.

An IPv4 address has no other text than its four numbers without leading zeros. The compressed text
of an IPv6 address without a zone is in lower case, is its own compressed text, and only texts with
a colon are IPv6 addresses.
-/
structure AddressLaws : Prop where
  ipv4 : ∀ t c, ipAddress t = some ⟨false, c⟩ → c = t ∧ ∀ x ∈ t, isHostCharacter x = true
  ipv6 : ∀ t c, ipAddress t = some ⟨true, c⟩ → ':' ∈ t ∧
    ('%' ∉ t → c ≠ [] ∧ (∀ x ∈ c, isIPv6Character x = true) ∧ ipAddress c = some ⟨true, c⟩)

section

omit [StandardLibrary] [NetworkLibrary]

theorem split_ne_nil (c : Char) (t : Text) : split c t ≠ [] := by
  cases t with
  | nil => simp [split]
  | cons x rest =>
    rw [split]
    split
    · simp
    · split <;> simp

theorem join_split (c : Char) (t : Text) : join c (split c t) = t := by
  induction t with
  | nil => rfl
  | cons x rest ih =>
    obtain ⟨first, others, hsplit⟩ := List.exists_cons_of_ne_nil (split_ne_nil c rest)
    rw [hsplit] at ih
    rw [split, hsplit]
    by_cases hx : x = c
    · rw [if_pos hx, join, ih, hx]
      · rfl
      · simp
    · rw [if_neg hx]
      cases others with
      | nil =>
        rw [join] at ih ⊢
        rw [ih]
      | cons next more =>
        rw [join] at ih ⊢
        · rw [List.cons_append, ih]
        · simp
        · simp

theorem mem_split {c x : Char} {t : Text} (h : x ∈ t) : x = c ∨ ∃ part ∈ split c t, x ∈ part := by
  apply mem_join
  rw [join_split]
  exact h

theorem isHostCharacter_of_lowered {c d : Char} (hc : c = d.toLower)
    (h : (isAsciiLetter c || isAsciiDigit c || decide (c = '-')) = true) :
    isHostCharacter c = true := by
  have hupper : ¬ ('A' ≤ c ∧ c ≤ 'Z') := by
    rintro ⟨hlow, hhigh⟩
    have hle : ∀ a b : Char, a ≤ b → a.toNat ≤ b.toNat := fun a b h => h
    have h1 := hle _ _ hlow
    have h2 := hle _ _ hhigh
    have hA : 'A'.toNat = 65 := rfl
    have hZ : 'Z'.toNat = 90 := rfl
    by_cases hd : d.toNat < 65 ∨ 90 < d.toNat
    · rw [char_toLower_eq_self hd] at hc
      rw [hc] at h1 h2
      omega
    · have hcapitals : ∀ n < 91, 65 ≤ n → 90 < (Char.ofNat n).toLower.toNat := by decide
      have hd' := hcapitals d.toNat (by omega) (by omega)
      rw [Char.ofNat_toNat, ← hc] at hd'
      omega
  simp only [isAsciiLetter, isAsciiDigit, or_eq_true, and_eq_true,
    decide_eq_true_eq] at h
  simp only [isHostCharacter, isLower, isDigit, or_eq_true, and_eq_true,
    decide_eq_true_eq]
  tauto

end

omit [StandardLibrary] [NetworkLibrary] in
theorem checkLabel_eq_ok {label : Text} (h : checkLabel label = .ok ()) :
    label ≠ [] ∧ ∀ c ∈ label, (isAsciiLetter c || isAsciiDigit c || decide (c = '-')) = true := by
  unfold checkLabel at h
  obtain ⟨_, hempty, h⟩ := bind_ok h
  obtain ⟨_, -, h⟩ := bind_ok h
  obtain ⟨_, -, hall⟩ := bind_ok h
  rw [require_eq_ok] at hempty hall
  constructor
  · rintro rfl
    simp at hempty
  · exact List.all_eq_true.mp hall

/-- A name as `_normalise_hostname` answers with it: every label has passed its check. -/
structure Labelled (t : Text) : Prop where
  nonempty : t ≠ []
  characters : ∀ c ∈ t, isHostCharacter c = true
  labels : (split '.' t).forM checkLabel = .ok ()
  bound : t.length ≤ 253

omit [NetworkLibrary] in
theorem labelled_of_labels {encoded : Text} (hascii : isAscii encoded = true)
    (hlabels : (split '.' (lower encoded)).forM checkLabel = .ok ())
    (hlength : (lower encoded).length ≤ 253) : Labelled (lower encoded) := by
  have hlabel := fun label hl => checkLabel_eq_ok (forM_ok_iff.mp hlabels label hl)
  have hlower : lower encoded = encoded.map Char.toLower :=
    lower_ascii encoded (by simpa [isAscii] using hascii)
  refine ⟨?_, ?_, hlabels, hlength⟩
  · intro hnil
    exact (hlabel [] (by rw [hnil]; simp [split])).1 rfl
  · intro c hc
    rcases mem_split (c := '.') hc with rfl | ⟨label, hl, hmem⟩
    · decide
    · rw [hlower, List.mem_map] at hc
      obtain ⟨d, -, hd⟩ := hc
      exact isHostCharacter_of_lowered hd.symm ((hlabel label hl).2 c hmem)

theorem normaliseHostname_cases {host hostname : Text} (h : normaliseHostname host = .ok hostname) :
    Labelled hostname ∨ ∃ candidate address, ipAddress candidate = some address ∧
      candidate ≠ [] ∧ candidate.getLast? ≠ some '.' ∧ '%' ∉ candidate ∧
      hostname = address.compressed := by
  unfold normaliseHostname at h
  obtain ⟨_, hempty, h⟩ := bind_ok h
  obtain ⟨_, hzone, h⟩ := bind_ok h
  rw [require_eq_ok] at hempty hzone
  split at h
  · next address haddress =>
    cases h
    refine Or.inr ⟨_, address, haddress, by simpa using hempty, ?_, by simpa using hzone, rfl⟩
    intro hlast
    have hne : (stripped host).rdropWhile (fun c => decide (c = '.')) ≠ [] := by simpa using hempty
    have hnot := List.rdropWhile_last_not (fun c => decide (c = '.')) (stripped host) hne
    rw [List.getLast?_eq_some_getLast hne, Option.some.injEq] at hlast
    simp [hlast] at hnot
  · split at h
    · cases h
    · next encoded hidna =>
      obtain ⟨_, hlength, h⟩ := bind_ok h
      obtain ⟨_, hlabels, h⟩ := bind_ok h
      cases h
      exact Or.inl (labelled_of_labels (Option.filter_eq_some_iff.mp hidna).2 hlabels
        (by simpa using hlength))

omit [NetworkLibrary] in
theorem Labelled.hostname (laws : AddressLaws) {t : Text} (h : Labelled t) : Hostname t := by
  refine .named h.nonempty h.characters ?_
  rintro ⟨isIPv6, compressed⟩ ha
  cases isIPv6 with
  | false => rw [(laws.ipv4 _ _ ha).1]
  | true => exact absurd (h.characters ':' (laws.ipv6 _ _ ha).1) (by decide)

theorem hostname_of_normaliseHostname (laws : AddressLaws) {host hostname : Text}
    (h : normaliseHostname host = .ok hostname) : Hostname hostname := by
  obtain hlabelled | ⟨candidate, ⟨isIPv6, compressed⟩, haddress, hne, -, hzone, rfl⟩ :=
    normaliseHostname_cases h
  · exact hlabelled.hostname laws
  · cases isIPv6 with
    | false =>
      obtain ⟨rfl, hchars⟩ := laws.ipv4 _ _ haddress
      refine .named hne hchars ?_
      intro a ha
      rw [haddress] at ha
      exact (Option.some.inj ha).symm
    | true =>
      obtain ⟨hne, hchars, hself⟩ := (laws.ipv6 _ _ haddress).2 hzone
      exact .ipv6 hne hchars hself

omit [StandardLibrary] [NetworkLibrary] in
theorem port_le {parsed : SplitResult} {port : Nat} (h : parsed.port = some (some port)) :
    port ≤ 65535 := by
  unfold SplitResult.port at h
  split at h
  · simp at h
  · split at h
    · next hrange =>
      rw [and_eq_true, decide_eq_true_eq] at hrange
      simp only [Option.some.injEq] at h
      rw [← h]
      exact hrange.2
    · simp at h

/-- What an accepted URL says of the fields. -/
structure TargetFields.Accepted (fields : TargetFields) (path : Text) : Prop where
  web : fields.scheme = http ∨ fields.scheme = https
  host : Hostname fields.hostname
  port : fields.port ≤ 65535
  normalised : fields.normalisedUrl = urlunsplit
    ⟨fields.scheme, formatNetloc fields.hostname fields.port fields.scheme,
      if path.isEmpty then ['/'] else path, [], []⟩

variable {policy : ValidationPolicy}

theorem accepted_of_validateSplit (laws : AddressLaws) {candidate : Text} {parsed : SplitResult}
    {resolver : Resolver} {fields : TargetFields}
    (h : validateSplit candidate parsed policy resolver = .ok fields) :
    fields.Accepted parsed.path := by
  unfold validateSplit at h
  obtain ⟨_, hscheme, h⟩ := bind_ok h
  obtain ⟨_, -, h⟩ := bind_ok h
  obtain ⟨_, -, h⟩ := bind_ok h
  obtain ⟨_, -, h⟩ := bind_ok h
  rw [require_eq_ok] at hscheme
  have hweb : lower parsed.scheme = http ∨ lower parsed.scheme = https := by simpa using hscheme
  split at h
  · cases h
  obtain ⟨hostname, hhost, h⟩ := bind_ok h
  split at h
  · cases h
  next configured hport =>
  obtain ⟨_, -, h⟩ := bind_ok h
  obtain ⟨_, -, h⟩ := bind_ok h
  obtain ⟨_, -, h⟩ := bind_ok h
  cases h
  refine ⟨hweb, hostname_of_normaliseHostname laws hhost, ?_, rfl⟩
  cases configured with
  | none =>
    show defaultPort _ ≤ 65535
    unfold defaultPort
    split <;> omega
  | some port => exact port_le hport

/-- A target of the crawler has the fields of an accepted one. -/
structure ValidatedTarget.Of (target : ValidatedTarget) (fields : TargetFields) : Prop where
  normalisedUrl : target.normalisedUrl = fields.normalisedUrl
  scheme : target.scheme = fields.scheme
  hostname : target.hostname = fields.hostname
  port : target.port = fields.port

theorem accepted_of_validateTargetUrl (laws : AddressLaws) {url : Text} {resolver : Resolver}
    {fields : TargetFields}
    (h : validateTargetUrl url policy resolver = .ok fields) :
    ∃ parsed, urlsplit (stripped url) = some parsed ∧ fields.Accepted parsed.path := by
  unfold validateTargetUrl at h
  obtain ⟨_, -, h⟩ := bind_ok h
  obtain ⟨_, -, h⟩ := bind_ok h
  obtain ⟨_, -, h⟩ := bind_ok h
  obtain ⟨_, -, h⟩ := bind_ok h
  split at h
  · cases h
  · next parsed hsplit => exact ⟨parsed, hsplit, accepted_of_validateSplit laws h⟩

end WebGuard
