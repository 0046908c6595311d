import WebGuard.Contracts.CheckpointUrls
import WebGuard.Contracts.PyText
import WebGuard.Lib.IpAddress

/-!
# Validated targets

`validate_target_url` on any text of Python, and `_request_path` of `safe_http.py`, which takes the
normalised URL apart once more before every connection.

The host of an accepted URL is made of characters; its path can hold anything that is not a character
too, and is copied as it is. So the fields are those of `validateTargetUrl`, which works on characters
(`fields_validateTarget`), and only the two URLs are texts here.
-/

namespace WebGuard

open PyJson UrlParse StandardLibrary Atomic List

/-- `ValidatedTarget`, as `validate_target_url` returns it. -/
structure PyTarget where
  originalUrl : PyText
  normalisedUrl : PyText
  scheme : Text
  hostname : Text
  port : Nat
  resolvedAddresses : List Text
  deriving DecidableEq

/-- The same target, its URLs as characters. -/
def PyTarget.fields (target : PyTarget) : TargetFields where
  originalUrl := characters target.originalUrl
  normalisedUrl := characters target.normalisedUrl
  scheme := target.scheme
  hostname := target.hostname
  port := target.port
  resolvedAddresses := target.resolvedAddresses

/-- `path or "/"`. -/
def orRoot (path : PyText) : PyText := if path.isEmpty then [47] else path

/-- `scheme://authority`. -/
def schemeAndAuthority (scheme netloc : Text) : Text := scheme ++ ':' :: '/' :: '/' :: netloc

variable [StandardLibrary] [NetworkLibrary]

/-- `validate_target_url`. -/
def validateTarget (url : PyText) (policy : ValidationPolicy) (resolver : Resolver) :
    Checked PyTarget := do
  let candidate := stripText url
  require (!candidate.isEmpty) "url_empty" "The target URL cannot be empty."
  require (candidate.length ≤ policy.maximumUrlLength) "url_too_long"
    "The target URL exceeds the maximum permitted length."
  require (!candidate.contains 92) "backslash_not_allowed"
    "Backslashes are not allowed in target URLs."
  require (!candidate.any fun n => n < 32 || n = 127) "control_character_not_allowed"
    "Control characters are not allowed in target URLs."
  match urlsplit (characters candidate) with
  | none => invalid "url_invalid" "The target URL is malformed."
  | some parsed =>
    let fields ← validateSplit (characters candidate) parsed policy resolver
    let netloc := formatNetloc fields.hostname fields.port fields.scheme
    return {
      originalUrl := candidate
      normalisedUrl := codePoints (schemeAndAuthority fields.scheme netloc)
        ++ orRoot (urlPath candidate parsed)
      scheme := fields.scheme
      hostname := fields.hostname
      port := fields.port
      resolvedAddresses := fields.resolvedAddresses }

/-- The query of a URL with an authority, as code points. -/
def urlQuery (candidate : PyText) (parsed : SplitResult) : PyText :=
  let url := (candidate.dropWhile (· ≤ 32)).filter fun n => n ≠ 9 && n ≠ 10 && n ≠ 13
  (url.drop (parsed.scheme.length + 3 + parsed.netloc.length + parsed.path.length + 1)).takeWhile
    (· ≠ 35)

/-- `_request_path`; `urlsplit` and `port` raise a `ValueError` of their own. -/
def requestPath (target : PyTarget) : Checked PyText :=
  match urlsplit (characters target.normalisedUrl) with
  | none => invalid "ValueError" "Invalid URL"
  | some parsed =>
    match parsed.port with
    | none => invalid "ValueError" "Port out of range 0-65535"
    | some port => do
      require (parsed.scheme = target.scheme && parsed.hostname = some target.hostname
          && port.getD (defaultPort parsed.scheme) = target.port) "validated_target_mismatch"
        "The validated fields do not match the normalised URL."
      require parsed.fragment.isEmpty "fragment_not_allowed"
        "URL fragments cannot be sent in HTTP requests."
      let path := orRoot (urlPath target.normalisedUrl parsed)
      return if parsed.query.isEmpty then path
        else path ++ 63 :: urlQuery target.normalisedUrl parsed

/-! ## Texts and characters -/

section

omit [StandardLibrary] [NetworkLibrary]

variable {p : Nat → Bool} {q : Char → Bool}

theorem characters_dropWhile (hpq : ∀ n, q (asChar n) = p n) (text : PyText) :
    characters (text.dropWhile p) = (characters text).dropWhile q := by
  have hcomp : (q ∘ asChar) = p := funext hpq
  unfold characters
  rw [dropWhile_map, hcomp]

theorem characters_takeWhile (hpq : ∀ n, q (asChar n) = p n) (text : PyText) :
    characters (text.takeWhile p) = (characters text).takeWhile q := by
  have hcomp : (q ∘ asChar) = p := funext hpq
  unfold characters
  rw [takeWhile_map, hcomp]

theorem characters_filter (hpq : ∀ n, q (asChar n) = p n) (text : PyText) :
    characters (text.filter p) = (characters text).filter q := by
  have hcomp : (q ∘ asChar) = p := funext hpq
  unfold characters
  rw [filter_map, hcomp]

theorem head_characters {path : PyText} (h : path.head? = some 47) :
    (characters path).head? = some '/' := by
  obtain ⟨rest, rfl⟩ : ∃ rest, path = 47 :: rest := by
    cases path with
    | nil => cases h
    | cons n rest => exact ⟨rest, by simpa using h⟩
  rfl

/-- What `urlsplit` looks at of a URL. -/
def visibleText (candidate : PyText) : PyText :=
  (candidate.dropWhile (· ≤ 32)).filter fun n => n ≠ 9 && n ≠ 10 && n ≠ 13

theorem characters_visibleText (candidate : PyText) :
    characters (visibleText candidate) = removeUnsafe (characters candidate) := by
  have hdrop : ∀ n, decide ((asChar n).toNat ≤ 32) = decide (n ≤ 32) := by
    intro n
    have h : (asChar n).toNat < 33 ↔ n < 33 := asChar_lt_iff (by decide)
    simp only [Nat.lt_succ_iff] at h
    simp [h]
  have hkeep : ∀ n, (!(['\t', '\r', '\n'].contains (asChar n))) = (n ≠ 9 && n ≠ 10 && n ≠ 13) := by
    intro n
    rw [Bool.eq_iff_iff]
    simp
    tauto
  unfold visibleText removeUnsafe
  rw [characters_filter (q := fun c => !(['\t', '\r', '\n'].contains c)) hkeep,
    characters_dropWhile (q := fun c => decide (c.toNat ≤ 32)) hdrop]

end

variable {parsed : SplitResult} {policy : ValidationPolicy} {resolver : Resolver} {candidate : Text}

omit [NetworkLibrary] in
theorem characters_urlPath {candidate : PyText}
    (h : urlsplit (characters candidate) = some parsed) (hscheme : parsed.scheme ≠ [])
    (hnetloc : parsed.netloc ≠ []) :
    characters (urlPath candidate parsed) = parsed.path ∧
      (urlPath candidate parsed).head?.all (· = 47) = true := by
  obtain ⟨before, rest, hvisible, hlength, hhead, hpath, -⟩ := parts_of_urlsplit h hscheme hnetloc
  have hstop : ∀ n, (decide (asChar n ≠ '?') && decide (asChar n ≠ '#'))
      = (decide (n ≠ 63) && decide (n ≠ 35)) := by
    intro n
    rw [Bool.eq_iff_iff]
    simp
  have hdrop : characters ((visibleText candidate).drop
      (parsed.scheme.length + 3 + parsed.netloc.length)) = rest := by
    have hrest : (characters (visibleText candidate)).drop
        (parsed.scheme.length + 3 + parsed.netloc.length) = rest := by
      rw [characters_visibleText, hvisible]
      have hfront : (before ++ ':' :: '/' :: '/' :: parsed.netloc).length
          = parsed.scheme.length + 3 + parsed.netloc.length := by
        simp only [length_append, length_cons, hlength]
        omega
      rw [← hfront]
      exact drop_left
    rw [← hrest]
    exact map_drop ..
  have hchars : characters (urlPath candidate parsed) = parsed.path := by
    rw [hpath, ← hdrop]
    exact characters_takeWhile (q := fun c => c ≠ '?' && c ≠ '#') hstop _
  refine ⟨hchars, ?_⟩
  have hfirst : parsed.path.head?.all (· = '/') = true := by
    rw [hpath]
    cases rest with
    | nil => rfl
    | cons c rest =>
      have hc : isAuthorityEnd c = true := by simpa using hhead
      simp only [isAuthorityEnd, Bool.or_eq_true, decide_eq_true_eq] at hc
      rcases hc with (rfl | rfl) | rfl
      · simp
      · rfl
      · rfl
  rw [← hchars] at hfirst
  cases hurl : urlPath candidate parsed with
  | nil => rfl
  | cons n path =>
    rw [hurl] at hfirst
    have hn : asChar n = '/' := by simpa [characters] using hfirst
    rw [asChar_eq_slash] at hn
    simp [hn]

/-! ## What is accepted -/

/-- What makes `validate_target_url` accept a URL that it has taken apart. -/
structure AcceptedSplit (candidate : Text) (parsed : SplitResult) (policy : ValidationPolicy)
    (resolver : Resolver) (fields : TargetFields) : Prop where
  scheme : fields.scheme = lower parsed.scheme
  web : fields.scheme = http ∨ fields.scheme = https
  userinfo : parsed.userinfo = (none, none)
  query : parsed.query = []
  fragment : parsed.fragment = []
  host : ∃ host, parsed.hostname = some host ∧ normaliseHostname host = .ok fields.hostname
  port : ∃ configured, parsed.port = some configured ∧
    fields.port = configured.getD (defaultPort fields.scheme)
  addresses : ∃ raw, resolvedBy resolver fields.hostname fields.port = .ok raw ∧ raw ≠ [] ∧
    validateAddresses policy fields.hostname raw = .ok fields.resolvedAddresses
  original : fields.originalUrl = candidate
  normalised : fields.normalisedUrl = urlunsplit
    ⟨fields.scheme, formatNetloc fields.hostname fields.port fields.scheme,
      if parsed.path.isEmpty then ['/'] else parsed.path, [], []⟩

variable {fields : TargetFields}

theorem validateSplit_eq_ok :
    validateSplit candidate parsed policy resolver = .ok fields ↔
      AcceptedSplit candidate parsed policy resolver fields := by
  unfold validateSplit
  simp only [bind_ok_iff, require_eq_ok]
  constructor
  · rintro ⟨_, hweb, _, huserinfo, _, hquery, _, hfragment, h⟩
    split at h
    · cases h
    next host hhost =>
    obtain ⟨hostname, hname, h⟩ := bind_ok h
    split at h
    · cases h
    next configured hport =>
    simp only [bind_ok_iff, require_eq_ok] at h
    obtain ⟨raw, hraw, _, hne, addresses, haddresses, h⟩ := h
    cases h
    exact ⟨rfl, by simpa using hweb, by simpa using huserinfo, by simpa using hquery,
      by simpa using hfragment, ⟨host, hhost, hname⟩, ⟨configured, hport, rfl⟩,
      ⟨raw, hraw, by simpa using hne, haddresses⟩, rfl, rfl⟩
  · rintro ⟨hscheme, hweb, huserinfo, hquery, hfragment, ⟨host, hhost, hname⟩,
      ⟨configured, hport, hfields⟩, ⟨raw, hraw, hne, haddresses⟩, horiginal, hnormalised⟩
    obtain ⟨original, normalised, scheme, hostname, port, addresses⟩ := fields
    simp only at hscheme hweb hname hfields hraw haddresses horiginal hnormalised
    subst hscheme hfields horiginal hnormalised
    refine ⟨(), by simpa using hweb, (), by simpa using huserinfo, (), by simpa using hquery, (),
      by simpa using hfragment, ?_⟩
    simp only [hhost, bind_ok_iff]
    refine ⟨hostname, hname, ?_⟩
    simp only [hport, bind_ok_iff, require_eq_ok]
    exact ⟨raw, hraw, (), by simpa using hne, addresses, haddresses, rfl⟩

theorem AcceptedSplit.scheme_ne_nil (h : AcceptedSplit candidate parsed policy resolver fields) :
    parsed.scheme ≠ [] := by
  intro hnil
  have hscheme := h.scheme
  rw [hnil, lower_ascii [] (by simp)] at hscheme
  rcases h.web with hweb | hweb
  · rw [hweb] at hscheme
    cases hscheme
  · rw [hweb] at hscheme
    cases hscheme

theorem AcceptedSplit.netloc_ne_nil (h : AcceptedSplit candidate parsed policy resolver fields) :
    parsed.netloc ≠ [] := by
  intro hnil
  obtain ⟨host, hhost, -⟩ := h.host
  have hinfo : parsed.hostinfo = ([], []) := by
    unfold SplitResult.hostinfo
    rw [hnil]
    rfl
  simp [SplitResult.hostname, hinfo] at hhost

omit [NetworkLibrary] in
theorem formatNetloc_eq {hostname : Text} (h : Hostname hostname) (port : Nat) (scheme : Text) :
    formatNetloc hostname port scheme = authority hostname port scheme := by
  unfold formatNetloc authority renderedHost
  cases h with
  | named hne hchars haddress =>
    have hlower : lower hostname = hostname :=
      lower_eq_self fun c hc => isAuthorityCharacter_of_host (hchars c hc)
    cases hip : ipAddress hostname with
    | none => simp only [hlower]
    | some a => simp [haddress a hip]
  | ipv6 hne hchars haddress => simp [haddress]

theorem validateTarget_eq_ok {url : PyText} {target : PyTarget} :
    validateTarget url policy resolver = .ok target ↔
      stripText url ≠ [] ∧ (stripText url).length ≤ policy.maximumUrlLength ∧
      92 ∉ stripText url ∧ (∀ n ∈ stripText url, 32 ≤ n ∧ n ≠ 127) ∧
      ∃ parsed fields, urlsplit (characters (stripText url)) = some parsed ∧
        AcceptedSplit (characters (stripText url)) parsed policy resolver fields ∧
        target = {
          originalUrl := stripText url
          normalisedUrl := codePoints (schemeAndAuthority fields.scheme
              (formatNetloc fields.hostname fields.port fields.scheme))
            ++ orRoot (urlPath (stripText url) parsed)
          scheme := fields.scheme
          hostname := fields.hostname
          port := fields.port
          resolvedAddresses := fields.resolvedAddresses } := by
  unfold validateTarget
  simp only [bind_ok_iff, require_eq_ok]
  have hcontrols : (!(stripText url).any fun n => n < 32 || n = 127) = true ↔
      ∀ n ∈ stripText url, 32 ≤ n ∧ n ≠ 127 := by
    simp [any_eq_false]
  rw [hcontrols]
  constructor
  · rintro ⟨_, hne, _, hlength, _, hslash, _, hvisible, h⟩
    refine ⟨by simpa using hne, by simpa using hlength, by simpa using hslash, hvisible, ?_⟩
    split at h
    · cases h
    next parsed hparsed =>
    obtain ⟨fields, hfields, h⟩ := bind_ok h
    cases h
    exact ⟨parsed, fields, hparsed, validateSplit_eq_ok.mp hfields, rfl⟩
  · rintro ⟨hne, hlength, hslash, hvisible, parsed, fields, hparsed, hfields, rfl⟩
    refine ⟨(), by simpa using hne, (), by simpa using hlength, (), by simpa using hslash, (),
      hvisible, ?_⟩
    simp only [hparsed]
    exact bind_ok_iff.mpr ⟨fields, validateSplit_eq_ok.mpr hfields, rfl⟩

/-! ## Addresses that were accepted -/

section

omit [StandardLibrary] [NetworkLibrary]

theorem mem_sortedTexts {t : Text} {texts : List Text} : t ∈ sortedTexts texts ↔ t ∈ texts := by
  unfold sortedTexts
  rw [mem_insertionSort, mem_dedup]

/-- The properties that `ipaddress` gives an address. -/
def addressProperties : IpAddresses.Address → AddressProperties
  | .v4 a =>
    { isGlobal := a.isGlobal
      isPrivate := a.isPrivate
      isLoopback := a.isLoopback
      isLinkLocal := a.isLinkLocal
      isMulticast := a.isMulticast
      isReserved := a.isReserved
      isUnspecified := a.isUnspecified }
  | .v6 a =>
    { isGlobal := a.isGlobal
      isPrivate := a.isPrivate
      isLoopback := a.isLoopback
      isLinkLocal := a.isLinkLocal
      isMulticast := a.isMulticast
      isReserved := a.isReserved
      isUnspecified := a.isUnspecified }

end

/--
What `ip_address` makes of a text, as a number: the compressed text is one of the same number, and
the properties are those of the address, or of the one inside an IPv4-mapped one.
-/
structure AddressValues (value : Text → Option IpAddresses.Address) : Prop where
  compressed : ∀ t address, ipAddress t = some address →
    ∃ a, value t = some a ∧ a.isIPv6 = address.isIPv6 ∧ value address.compressed = some a
  parsed : ∀ t a, value t = some a → ∃ address, ipAddress t = some address
  properties : ∀ t a, value t = some a → NetworkLibrary.properties t = addressProperties a.unmapped

/-- An address that is public, and all the IPv4 addresses inside it. -/
def PublicAddress (value : Text → Option IpAddresses.Address) (t : Text) : Prop :=
  ∃ a, value t = some a ∧ a.unmapped.isPublic = true ∧
    ∀ e ∈ a.embedded, IpAddresses.IPv4Address.isPublic e = true

variable {value : Text → Option IpAddresses.Address}

theorem publicAddress_of_commercial (values : AddressValues value) {t stored : Text}
    (h : validateCommercialAddress t = .ok stored) :
    PublicAddress value t ∧ PublicAddress value stored := by
  unfold validateCommercialAddress at h
  split at h
  · cases h
  next address haddress =>
  obtain ⟨_, hclassified, h⟩ := bind_ok h
  rw [require_eq_ok] at hclassified
  cases h
  obtain ⟨a, ha, -, hstored⟩ := values.compressed t address haddress
  rw [values.properties t a ha] at hclassified
  have hpublic : a.unmapped.isPublic = true := by
    cases hunmapped : a.unmapped with
    | v4 e => rwa [hunmapped] at hclassified
    | v6 e => rwa [hunmapped] at hclassified
  have hinside := IpAddresses.Address.isPublic_embedded hpublic
  exact ⟨⟨a, ha, hpublic, hinside⟩, ⟨a, hstored, hpublic, hinside⟩⟩

theorem publicAddress_of_validateAddresses (values : AddressValues value)
    (hmode : policy.mode = .commercial) {hostname : Text}
    {raw stored : List Text} (h : validateAddresses policy hostname raw = .ok stored) :
    ∀ t ∈ raw ++ stored, PublicAddress value t := by
  unfold validateAddresses at h
  rw [hmode] at h
  obtain ⟨outputs, houtputs, h⟩ := bind_ok h
  cases h
  intro t ht
  rcases mem_append.mp ht with ht | ht
  · obtain ⟨b, hb⟩ := exists_mapM_ok_iff.mp ⟨outputs, houtputs⟩ t ht
    exact (publicAddress_of_commercial values hb).1
  · obtain ⟨a, -, ha⟩ := exists_of_mapM houtputs t (mem_sortedTexts.mp ht)
    exact (publicAddress_of_commercial values ha).2

end WebGuard
