import Mathlib.Data.List.DropRight
import Mathlib.Algebra.Order.Ring.Rat
import WebGuard.Contracts.Text
import WebGuard.Lib.UrlParse

/-!
# URLs of the crawler

The two normal forms of `crawler.py`: `_canonical_candidate` makes the URL of a link out of what
a page wrote, and `_audit_url` checks a URL that is stored in a record, after it has stripped it.
The policy of a crawl and its validated target are here because the first reads them.
-/

namespace WebGuard

open UrlParse Atomic List SplitResult

/-! ## Policy -/

inductive CrawlQueryMode where
  | drop
  | reject
  deriving DecidableEq

/-- The reasons in the order of their values, in which every record sorts them. -/
inductive CrawlSkipReason where
  | destructivePath
  | duplicate
  | externalOrigin
  | fragmentOnly
  | linkLimit
  | malformedUrl
  | pageLimit
  | queryRejected
  | unsupportedScheme
  | userinfoNotAllowed
  deriving DecidableEq

def CrawlSkipReason.all : List CrawlSkipReason :=
  [.destructivePath, .duplicate, .externalOrigin, .fragmentOnly, .linkLimit, .malformedUrl,
    .pageLimit, .queryRejected, .unsupportedScheme, .userinfoNotAllowed]

theorem CrawlSkipReason.mem_all (reason : CrawlSkipReason) : reason ∈ all := by
  cases reason <;> decide

/-- `CrawlPolicy`, with the bounds of its constructor. Seconds are exact. -/
structure CrawlPolicy where
  maximumPages : Nat
  maximumDepth : Nat
  maximumLinksPerPage : Nat
  minimumDelaySeconds : ℚ
  queryMode : CrawlQueryMode
  maximumUrlLength : Nat
  maximumExecutionSeconds : ℚ
  maximumRequestAttempts : Nat
  allowedContentTypes : List Text
  blockedPathSegments : List Text
  pages_bounds : 1 ≤ maximumPages ∧ maximumPages ≤ 50
  depth_bound : maximumDepth ≤ 3
  links_bounds : 1 ≤ maximumLinksPerPage ∧ maximumLinksPerPage ≤ 500
  length_bounds : 128 ≤ maximumUrlLength ∧ maximumUrlLength ≤ 2048
  attempts_bounds : 1 ≤ maximumRequestAttempts ∧ maximumRequestAttempts ≤ 150
  execution_bounds : 0 < maximumExecutionSeconds ∧ maximumExecutionSeconds ≤ 3600
  delay_bounds : 0 ≤ minimumDelaySeconds ∧ minimumDelaySeconds ≤ 5

/-! ## The audit form -/

/-- `_CONTROL_CHARACTERS`; the space is one of them. -/
def isControlOrSpace (c : Char) : Bool := c.toNat ≤ 32 || c.toNat = 127

/-- `str.strip()`. -/
def stripped (t : Text) : Text := (t.dropWhile isSpace).rdropWhile isSpace

theorem stripped_stripped (t : Text) : stripped (stripped t) = stripped t := by
  have hhead : (stripped t).dropWhile isSpace = stripped t := by
    rw [dropWhile_eq_self_iff]
    intro hpos
    have hbefore : stripped t <+: t.dropWhile isSpace := rdropWhile_prefix _ _
    have hlen : 0 < (t.dropWhile isSpace).length := lt_of_lt_of_le hpos hbefore.length_le
    rw [hbefore.getElem hpos]
    exact dropWhile_get_zero_not isSpace t hlen
  unfold stripped at hhead ⊢
  rw [hhead, rdropWhile_idempotent]

def http : Text := "http".toList

def https : Text := "https".toList

theorem https_web : https = http ∨ https = https := Or.inr rfl

variable [StandardLibrary]

open StandardLibrary

/-- `_audit_url`; `urlsplit` raises a `ValueError` of its own. -/
def auditUrl (value : Text) (fieldName : String) : Checked Text := do
  let cleaned := stripped value
  require (!cleaned.isEmpty && cleaned.length ≤ 2048 && !cleaned.any isControlOrSpace)
    (fieldName ++ "_invalid") (fieldName ++ " is invalid or exceeds the URL limit.")
  match urlsplit cleaned with
  | none => invalid "ValueError" "Invalid URL"
  | some parsed =>
    require ((parsed.scheme = http || parsed.scheme = https) && parsed.hostname.isSome &&
        parsed.userinfo = (none, none) && parsed.query.isEmpty && parsed.fragment.isEmpty)
      (fieldName ++ "_invalid") (fieldName ++ " must be a canonical HTTP or HTTPS URL.")
    return cleaned

/-- What the audit looks at, after the strip. -/
def Auditable (url : Text) : Prop :=
  (!url.isEmpty && url.length ≤ 2048 && !url.any isControlOrSpace) = true ∧
    ∃ parsed, urlsplit url = some parsed ∧
      ((parsed.scheme = http || parsed.scheme = https) && parsed.hostname.isSome &&
        parsed.userinfo = (none, none) && parsed.query.isEmpty && parsed.fragment.isEmpty) = true

/-- A URL passes exactly if it is auditable once stripped, and is answered stripped. -/
theorem auditUrl_eq_ok {value url : Text} {fieldName : String} :
    auditUrl value fieldName = .ok url ↔ url = stripped value ∧ Auditable (stripped value) := by
  unfold auditUrl Auditable
  simp only [bind_ok_iff, require_eq_ok]
  constructor
  · rintro ⟨_, hlength, h⟩
    cases hsplit : urlsplit (stripped value) with
    | none => simp [hsplit, invalid] at h
    | some parsed =>
      simp only [hsplit, bind_ok_iff, require_eq_ok] at h
      obtain ⟨_, hshape, h⟩ := h
      cases h
      exact ⟨rfl, hlength, parsed, rfl, hshape⟩
  · rintro ⟨rfl, hlength, parsed, hsplit, hshape⟩
    refine ⟨(), hlength, ?_⟩
    simp only [hsplit, bind_ok_iff, require_eq_ok]
    exact ⟨(), hshape, rfl⟩

/-- A URL that passed passes again. -/
theorem auditUrl_idem {value url : Text} {fieldName : String}
    (h : auditUrl value fieldName = .ok url)
    (other : String) : auditUrl url other = .ok url := by
  obtain ⟨rfl, hshape⟩ := auditUrl_eq_ok.mp h
  rw [auditUrl_eq_ok, stripped_stripped]
  exact ⟨rfl, hshape⟩

/-! ## Origins -/

structure Origin where
  scheme : Text
  hostname : Text
  port : Nat
  deriving DecidableEq

def defaultPort (scheme : Text) : Nat := if scheme = https then 443 else 80

/-- `_effective_port`; `none` is the exception. -/
def effectivePort (parsed : SplitResult) : Option Nat :=
  match parsed.port with
  | none => none
  | some (some port) => some port
  | some none => some (defaultPort (lower parsed.scheme))

/-- A port, or the default one when there is none or it is zero. -/
def portOr (scheme : Text) (port : Option Nat) : Nat :=
  match port with
  | none => defaultPort scheme
  | some port => if port = 0 then defaultPort scheme else port

/-- The host as `_authority` writes it: an IPv6 address in brackets. -/
def renderedHost (hostname : Text) : Text :=
  match ipAddress hostname with
  | some address => if address.isIPv6 then '[' :: address.compressed ++ [']'] else address.compressed
  | none => lower hostname

def authority (hostname : Text) (port : Nat) (scheme : Text) : Text :=
  if port = defaultPort scheme then renderedHost hostname
  else renderedHost hostname ++ ':' :: Nat.toDigits 10 port

/-- A character of a DNS name or of an IPv4 address. -/
def isHostCharacter (c : Char) : Bool := isLower c || isDigit c || c = '.' || c = '-'

/-- A character of a compressed IPv6 address. -/
def isIPv6Character (c : Char) : Bool := isLowerHex c || c = ':' || c = '.'

/--
What `_normalise_hostname` of `scope_validator.py` answers with: a DNS name in lower case, or the
compressed text of an address, which is its own compressed text.
-/
inductive Hostname (hostname : Text) : Prop where
  | named (nonempty : hostname ≠ []) (characters : ∀ c ∈ hostname, isHostCharacter c = true)
      (address : ∀ a, ipAddress hostname = some a → a = ⟨false, hostname⟩)
  | ipv6 (nonempty : hostname ≠ []) (characters : ∀ c ∈ hostname, isIPv6Character c = true)
      (address : ipAddress hostname = some ⟨true, hostname⟩)

/-- `ValidatedTarget`, with what `validate_target_url` makes sure of. -/
structure ValidatedTarget where
  normalisedUrl : Text
  scheme : Text
  hostname : Text
  port : Nat
  web : scheme = http ∨ scheme = https
  host : Hostname hostname

/-- The origin of a target, by its fields. -/
def ValidatedTarget.origin (target : ValidatedTarget) : Origin :=
  ⟨target.scheme, target.hostname, target.port⟩

def rootOrigin (target : ValidatedTarget) : Checked Origin :=
  match urlsplit target.normalisedUrl with
  | none => invalid "ValueError" "Invalid URL"
  | some parsed =>
    match effectivePort parsed with
    | none => invalid "crawl_url_port_invalid" "A discovered URL contains an invalid port."
    | some port => do
      require (parsed.scheme = target.scheme && parsed.hostname = some target.hostname &&
          port = target.port && parsed.userinfo = (none, none) && parsed.fragment.isEmpty)
        "validated_target_mismatch" "Validated target fields do not match the normalised URL."
      return ⟨lower target.scheme, lower target.hostname, target.port⟩

/-! ## The canonical form -/

/-- `_normalise_path`; `none` is the exception. -/
def normalisePath (path : Text) : Option Text :=
  if path.contains '\\' || path.any isControlOrSpace then none
  else if path.isEmpty then some ['/']
  else
    let normalised := normpath path
    let normalised :=
      if path.head? = some '/' && normalised.head? ≠ some '/' then '/' :: normalised else normalised
    let normalised :=
      if path.getLast? = some '/' && normalised ≠ ['/'] then normalised ++ ['/'] else normalised
    some (if normalised.head? ≠ some '/' then '/' :: normalised else normalised)

def isDestructivePath (path : Text) (blockedSegments : List Text) : Bool :=
  let decoded := lower (unquote path)
  decoded.contains '\\' || decoded.any isControlOrSpace ||
    ((split '/' decoded).filter (fun s => !s.isEmpty)).any blockedSegments.contains

/-- The part of `_canonical_candidate` behind the parse. -/
def canonicalOf (parsed : SplitResult) (origin : Origin) (policy : CrawlPolicy) :
    Except CrawlSkipReason Text :=
  let scheme := lower parsed.scheme
  if scheme ≠ http && scheme ≠ https then .error .unsupportedScheme
  else if parsed.userinfo ≠ (none, none) then .error .userinfoNotAllowed
  else
    match parsed.hostname with
    | none => .error .malformedUrl
    | some hostname =>
      match effectivePort parsed with
      | none => .error .malformedUrl
      | some port =>
        if (⟨scheme, lower hostname, port⟩ : Origin) ≠ origin then .error .externalOrigin
        else
          match normalisePath parsed.path with
          | none => .error .malformedUrl
          | some path =>
            if isDestructivePath path policy.blockedPathSegments then .error .destructivePath
            else if !parsed.query.isEmpty && policy.queryMode = .reject then .error .queryRejected
            else
              let canonical := urlunsplit
                ⟨origin.scheme, authority origin.hostname origin.port origin.scheme, path, [], []⟩
              if policy.maximumUrlLength < canonical.length then .error .malformedUrl
              else .ok canonical

/-- `_canonical_candidate`: the URL, or the reason to skip the link. -/
def canonicalCandidate (rawHref baseUrl : Text) (origin : Origin) (policy : CrawlPolicy) :
    Except CrawlSkipReason Text :=
  let href := stripped rawHref
  if href.isEmpty then .error .fragmentOnly
  else if policy.maximumUrlLength < href.length || href.any isControlOrSpace then
    .error .malformedUrl
  else if href.head? = some '#' then .error .fragmentOnly
  else
    match (urljoin baseUrl href).bind urlsplit with
    | none => .error .malformedUrl
    | some parsed => canonicalOf parsed origin policy

/-! ## What a canonical URL looks like -/

variable {path t hostname : Text} {policy : CrawlPolicy}

section

omit [StandardLibrary]

def isPlain (c : Char) : Bool := c ≠ '?' && c ≠ '#' && !isControlOrSpace c

/-- A path that can stand in a canonical URL. -/
def PlainPath (path : Text) : Prop := path.head? = some '/' ∧ path.all isPlain = true

theorem all_isPlain_ite {b : Prop} [Decidable b] {s : Text} (hs : s.all isPlain = true)
    (ht : t.all isPlain = true) : (if b then s else t).all isPlain = true := by
  split
  · exact hs
  · exact ht

theorem all_isPlain_cons (h : t.all isPlain = true) : ('/' :: t).all isPlain = true := by
  rw [all_cons, h, Bool.and_true]
  decide

theorem all_isPlain_snoc (h : t.all isPlain = true) : (t ++ ['/']).all isPlain = true := by
  rw [all_append, h, Bool.true_and]
  decide

/-- Normalising a path keeps it plain. -/
theorem all_isPlain_normpath (h : path.all isPlain = true) :
    (normpath path).all isPlain = true := by
  rw [all_eq_true] at h ⊢
  intro c hc
  rcases mem_normpath hc with hc | rfl | rfl
  · exact h c hc
  · decide
  · decide

theorem head_repaired (t : Text) :
    (if t.head? ≠ some '/' then '/' :: t else t).head? = some '/' := by
  split
  · rfl
  · next h => simpa using h

/-- A path without a query and a fragment is plain once it is normalised. -/
theorem normalisePath_plain {p : Text} (h : normalisePath path = some p)
    (hpath : ∀ c ∈ path, c ≠ '?' ∧ c ≠ '#') : PlainPath p := by
  unfold normalisePath at h
  simp only at h
  split at h
  · cases h
  next hclean =>
  have hplain : path.all isPlain = true := by
    rw [all_eq_true]
    intro c hc
    simp only [Bool.or_eq_true, not_or, any_eq_true, not_exists, not_and,
      Bool.not_eq_true] at hclean
    simp [isPlain, hpath c hc, hclean.2 c hc]
  split at h
  · cases h
    exact ⟨rfl, by decide⟩
  cases h
  -- Each of the three repairs adds a slash at most.
  have hfirst := all_isPlain_ite (b := path.head? = some '/' && (normpath path).head? ≠ some '/')
    (all_isPlain_cons (all_isPlain_normpath hplain)) (all_isPlain_normpath hplain)
  constructor
  · exact head_repaired _
  · apply all_isPlain_ite
    · exact all_isPlain_cons (all_isPlain_ite (all_isPlain_snoc hfirst) hfirst)
    · exact all_isPlain_ite (all_isPlain_snoc hfirst) hfirst

end

/-- The URL that a path has under an origin. -/
def Origin.url (origin : Origin) (path : Text) : Text :=
  urlunsplit ⟨origin.scheme, authority origin.hostname origin.port origin.scheme, path, [], []⟩

/-- A canonical URL is the origin and a plain path, within the length of the policy. -/
theorem canonicalOf_spec {parsed : SplitResult} {origin : Origin} {url : Text}
    (h : canonicalOf parsed origin policy = .ok url)
    (hpath : ∀ c ∈ parsed.path, c ≠ '?' ∧ c ≠ '#') :
    ∃ path, PlainPath path ∧ url = origin.url path ∧ url.length ≤ policy.maximumUrlLength := by
  unfold canonicalOf at h
  simp only at h
  split at h
  · cases h
  split at h
  · cases h
  split at h
  · cases h
  split at h
  · cases h
  split at h
  · cases h
  split at h
  · cases h
  next path hnormal =>
  split at h
  · cases h
  split at h
  · cases h
  split at h
  · cases h
  next hlength =>
  cases h
  exact ⟨path, normalisePath_plain hnormal hpath, rfl, Nat.le_of_not_lt hlength⟩

/-- So is the URL of every link that is followed. -/
theorem canonicalCandidate_spec {rawHref baseUrl : Text} {origin : Origin} {url : Text}
    (h : canonicalCandidate rawHref baseUrl origin policy = .ok url) :
    ∃ path, PlainPath path ∧ url = origin.url path ∧ url.length ≤ policy.maximumUrlLength := by
  unfold canonicalCandidate at h
  simp only at h
  split at h
  · cases h
  split at h
  · cases h
  split at h
  · cases h
  split at h
  · cases h
  next parsed hparsed =>
  obtain ⟨absolute, -, hsplit⟩ := Option.bind_eq_some_iff.mp hparsed
  exact canonicalOf_spec h (path_of_urlsplitWith hsplit)

/-! ## The authority -/

section

omit [StandardLibrary]

variable {c : Char}

theorem char_toLower_eq_self (h : c.toNat < 65 ∨ 90 < c.toNat) : c.toLower = c := by
  unfold Char.toLower
  split
  · next hrange =>
    have hlow : 65 ≤ c.toNat := hrange.1
    have hhigh : c.toNat ≤ 90 := hrange.2
    omega
  · rfl

def isAuthorityCharacter (c : Char) : Bool :=
  isHostCharacter c || isIPv6Character c || c = '[' || c = ']'

/-- The characters of an authority are ASCII, and none is a capital letter. -/
theorem range_of_isAuthorityCharacter (h : isAuthorityCharacter c = true) :
    45 ≤ c.toNat ∧ c.toNat < 127 ∧ (c.toNat < 65 ∨ 90 < c.toNat) := by
  have heq : ∀ d : Char, c = d → c.toNat = d.toNat := fun d h => congrArg Char.toNat h
  have hle : ∀ d e : Char, d ≤ e → d.toNat ≤ e.toNat := fun d e h => h
  have ha : 'a'.toNat = 97 := rfl
  have hf : 'f'.toNat = 102 := rfl
  have hz : 'z'.toNat = 122 := rfl
  have h0 : '0'.toNat = 48 := rfl
  have h9 : '9'.toNat = 57 := rfl
  have hdot : '.'.toNat = 46 := rfl
  have hminus : '-'.toNat = 45 := rfl
  have hcolon : ':'.toNat = 58 := rfl
  have hopen : '['.toNat = 91 := rfl
  have hclose : ']'.toNat = 93 := rfl
  simp only [isAuthorityCharacter, isHostCharacter, isIPv6Character, isLowerHex, isLower, isDigit,
    Bool.or_eq_true, Bool.and_eq_true, decide_eq_true_eq] at h
  rcases h with ((((((⟨h1, h2⟩ | ⟨h1, h2⟩) | h) | h) | (((⟨h1, h2⟩ | ⟨h1, h2⟩) | h) | h)) | h) | h)
  all_goals
    first
    | (have h1 := hle _ _ h1; have h2 := hle _ _ h2; omega)
    | (have h := heq _ h; omega)

theorem isAuthorityCharacter_of_host (h : isHostCharacter c = true) :
    isAuthorityCharacter c = true := by
  simp [isAuthorityCharacter, h]

theorem isAuthorityCharacter_of_ipv6 (h : isIPv6Character c = true) :
    isAuthorityCharacter c = true := by
  simp [isAuthorityCharacter, h]

theorem isHostCharacter_of_mem_toDigits {n : Nat} (h : c ∈ Nat.toDigits 10 n) :
    isHostCharacter c = true := by
  have hdigit : c.isDigit = true := Nat.isDigit_of_mem_toDigits (by decide) (by decide) h
  rw [Char.isDigit, Bool.and_eq_true, decide_eq_true_eq, decide_eq_true_eq] at hdigit
  have hrange : '0' ≤ c ∧ c ≤ '9' := hdigit
  simp [isHostCharacter, isDigit, hrange]

end

/-- An authority is in lower case. -/
theorem lower_eq_self (h : ∀ c ∈ t, isAuthorityCharacter c = true) : lower t = t := by
  have hascii : ∀ c ∈ t, c.toNat < 128 := by
    intro c hc
    have hrange := range_of_isAuthorityCharacter (h c hc)
    omega
  rw [lower_ascii t hascii]
  calc t.map Char.toLower = t.map id := map_congr_left fun c hc =>
        char_toLower_eq_self (range_of_isAuthorityCharacter (h c hc)).2.2
    _ = t := map_id t

theorem Hostname.authorityCharacters (h : Hostname hostname) :
    ∀ c ∈ hostname, isAuthorityCharacter c = true := by
  intro c hc
  cases h with
  | named _ hchars _ => exact isAuthorityCharacter_of_host (hchars c hc)
  | ipv6 _ hchars _ => exact isAuthorityCharacter_of_ipv6 (hchars c hc)

theorem Hostname.ne_nil (h : Hostname hostname) : hostname ≠ [] := by
  cases h with
  | named hne => exact hne
  | ipv6 hne => exact hne

theorem lower_web {scheme : Text} (h : scheme = http ∨ scheme = https) : lower scheme = scheme := by
  apply lower_eq_self
  rcases h with rfl | rfl
  · exact all_eq_true.mp (by decide)
  · exact all_eq_true.mp (by decide)

/-- The origin that is answered is that of the target. -/
theorem rootOrigin_eq {target : ValidatedTarget} {origin : Origin}
    (h : rootOrigin target = .ok origin) : origin = target.origin := by
  unfold rootOrigin at h
  split at h
  · cases h
  split at h
  · cases h
  obtain ⟨_, -, h⟩ := bind_ok h
  cases h
  rw [lower_web target.web, lower_eq_self target.host.authorityCharacters, ValidatedTarget.origin]

/-- What may follow the host. -/
def PortSuffix (tail : Text) : Prop := tail = [] ∨ ∃ port, tail = ':' :: Nat.toDigits 10 port

theorem authority_suffix (hostname : Text) (port : Nat) (scheme : Text) :
    ∃ tail, PortSuffix tail ∧ authority hostname port scheme = renderedHost hostname ++ tail := by
  unfold authority
  split
  · exact ⟨[], Or.inl rfl, by simp⟩
  · exact ⟨_, Or.inr ⟨port, rfl⟩, rfl⟩

/-- An authority is the host, in brackets if it is an IPv6 address, and its port. -/
theorem authority_spec (h : Hostname hostname) (port : Nat) (scheme : Text) :
    ∃ tail, PortSuffix tail ∧
      ((∀ c ∈ hostname, isHostCharacter c = true) ∧
          authority hostname port scheme = hostname ++ tail ∨
        (∀ c ∈ hostname, isIPv6Character c = true) ∧ ipAddress hostname = some ⟨true, hostname⟩ ∧
          authority hostname port scheme = '[' :: hostname ++ ']' :: tail) := by
  obtain ⟨tail, htail, heq⟩ := authority_suffix hostname port scheme
  refine ⟨tail, htail, ?_⟩
  cases h with
  | named hne hchars haddress =>
    have hhost : renderedHost hostname = hostname := by
      unfold renderedHost
      cases hip : ipAddress hostname with
      | none => exact lower_eq_self fun c hc => isAuthorityCharacter_of_host (hchars c hc)
      | some a => simp [haddress a hip]
    rw [hhost] at heq
    exact Or.inl ⟨hchars, heq⟩
  | ipv6 hne hchars haddress =>
    have hhost : renderedHost hostname = '[' :: hostname ++ [']'] := by
      simp [renderedHost, haddress]
    rw [hhost] at heq
    exact Or.inr ⟨hchars, haddress, by simpa using heq⟩

omit [StandardLibrary] in
theorem PortSuffix.characters {tail : Text} (h : PortSuffix tail) :
    ∀ c ∈ tail, isAuthorityCharacter c = true ∧ c ≠ '[' ∧ c ≠ ']' := by
  intro c hc
  rcases h with rfl | ⟨port, rfl⟩
  · exact absurd hc not_mem_nil
  · rcases mem_cons.mp hc with rfl | hc
    · decide
    · have hhost := isHostCharacter_of_mem_toDigits hc
      refine ⟨isAuthorityCharacter_of_host hhost, ?_, ?_⟩
      · rintro rfl
        exact absurd hhost (by decide)
      · rintro rfl
        exact absurd hhost (by decide)

theorem authority_characters (h : Hostname hostname) (port : Nat) (scheme : Text) :
    ∀ c ∈ authority hostname port scheme, isAuthorityCharacter c = true := by
  intro c hc
  obtain ⟨tail, htail, ⟨hchars, heq⟩ | ⟨hchars, -, heq⟩⟩ := authority_spec h port scheme
  · rw [heq] at hc
    rcases mem_append.mp hc with hc | hc
    · exact isAuthorityCharacter_of_host (hchars c hc)
    · exact (htail.characters c hc).1
  · rw [heq] at hc
    simp only [cons_append, mem_cons, mem_append] at hc
    rcases hc with rfl | hc | rfl | hc
    · decide
    · exact isAuthorityCharacter_of_ipv6 (hchars c hc)
    · decide
    · exact (htail.characters c hc).1

/-- The host is read back from an authority. -/
theorem hostinfo_authority (h : Hostname hostname) (port : Nat) (scheme : Text) {r : SplitResult}
    (hr : r.netloc = authority hostname port scheme) : r.hostinfo.1 = hostname := by
  have hat : '@' ∉ r.netloc := by
    intro hmem
    exact absurd (authority_characters h port scheme '@' (hr ▸ hmem)) (by decide)
  have hrpart : (rpartition '@' r.netloc).2.2 = r.netloc := by
    simp [rpartition, hat]
  unfold hostinfo
  rw [hrpart, hr]
  obtain ⟨tail, htail, ⟨hchars, heq⟩ | ⟨hchars, -, heq⟩⟩ := authority_spec h port scheme
  · have hopen : '[' ∉ hostname ++ tail := by
      intro hmem
      rcases mem_append.mp hmem with hmem | hmem
      · exact absurd (hchars '[' hmem) (by decide)
      · exact (htail.characters '[' hmem).2.1 rfl
    have hcolon : ':' ∉ hostname := fun hmem => absurd (hchars ':' hmem) (by decide)
    rw [heq, partition_of_not_mem hopen]
    rcases htail with rfl | ⟨port, rfl⟩
    · simp [partition_of_not_mem hcolon]
    · simp [partition_append hcolon]
  · have hclose : ']' ∉ hostname := fun hmem => absurd (hchars ']' hmem) (by decide)
    rw [heq, cons_append, partition_cons_self]
    simp [partition_append hclose]

/-- The brackets of an authority are accepted. -/
theorem checkBrackets_authority (h : Hostname hostname) (port : Nat) (scheme : Text) :
    checkBrackets (authority hostname port scheme) = true := by
  have hat : '@' ∉ authority hostname port scheme := by
    intro hmem
    exact absurd (authority_characters h port scheme '@' hmem) (by decide)
  have hrpart : (rpartition '@' (authority hostname port scheme)).2.2 =
      authority hostname port scheme := by
    simp [rpartition, hat]
  obtain ⟨tail, htail, ⟨hchars, heq⟩ | ⟨hchars, haddress, heq⟩⟩ := authority_spec h port scheme
  · have hbracket : ∀ b, b = '[' ∨ b = ']' → b ∉ authority hostname port scheme := by
      intro b hb hmem
      rw [heq] at hmem
      rcases mem_append.mp hmem with hmem | hmem
      · have hhost := hchars b hmem
        rcases hb with rfl | rfl
        · exact absurd hhost (by decide)
        · exact absurd hhost (by decide)
      · rcases hb with rfl | rfl
        · exact (htail.characters _ hmem).2.1 rfl
        · exact (htail.characters _ hmem).2.2 rfl
    simp [checkBrackets, hbracket '[' (Or.inl rfl), hbracket ']' (Or.inr rfl)]
  · have hclose : ']' ∉ hostname := fun hmem => absurd (hchars ']' hmem) (by decide)
    have htail' : (tail.isEmpty || decide (tail.head? = some ':')) = true := by
      rcases htail with rfl | ⟨port, rfl⟩
      · rfl
      · rfl
    have hhost : checkBracketedHost hostname = true := by
      unfold checkBracketedHost
      split
      · next rest => exact absurd (hchars 'v' mem_cons_self) (by decide)
      · simp [haddress]
    unfold checkBrackets checkBracketedNetloc
    rw [hrpart, heq, cons_append, partition_cons_self]
    simp only [partition_append hclose, hhost]
    simpa using htail'

/-- An authority and a plain path make an absolute URL. -/
theorem absolute_of_plain {scheme : Text} (hweb : scheme = http ∨ scheme = https)
    (hhost : Hostname hostname) (port : Nat) (hpath : PlainPath path) :
    Absolute scheme (authority hostname port scheme) path where
  letter := by rcases hweb with rfl | rfl <;> decide
  characters := by rcases hweb with rfl | rfl <;> decide
  lowered := lower_web hweb
  authority := by
    intro c hc
    have hchar := authority_characters hhost port scheme c hc
    have hrange := range_of_isAuthorityCharacter hchar
    constructor
    · unfold isAuthorityEnd
      simp only [Bool.or_eq_false_iff, decide_eq_false_iff_not]
      refine ⟨⟨?_, ?_⟩, ?_⟩
      all_goals
        rintro rfl
        exact absurd hchar (by decide)
    · omega
  brackets := checkBrackets_authority hhost port scheme
  normal := by
    unfold checkNetloc
    rw [if_pos]
    unfold isAscii
    rw [all_eq_true]
    intro c hc
    have hrange := range_of_isAuthorityCharacter (authority_characters hhost port scheme c hc)
    have : c.toNat < 128 := by omega
    simpa using this
  rooted := hpath.1
  plain := by
    intro c hc
    have hplain := all_eq_true.mp hpath.2 c hc
    simp only [isPlain, isControlOrSpace, Bool.and_eq_true, decide_eq_true_eq, Bool.not_eq_true',
      Bool.or_eq_false_iff, decide_eq_false_iff_not] at hplain
    exact ⟨hplain.1.1, hplain.1.2, by omega⟩

/-! ## The audit of a canonical URL -/

variable (target : ValidatedTarget)

theorem ValidatedTarget.absolute (hpath : PlainPath path) :
    Absolute target.scheme (authority target.hostname target.port target.scheme) path :=
  absolute_of_plain target.web target.host target.port hpath

theorem ValidatedTarget.authority_ne_nil :
    authority target.hostname target.port target.scheme ≠ [] := by
  have hne := target.host.ne_nil
  obtain ⟨tail, -, ⟨-, heq⟩ | ⟨-, -, heq⟩⟩ := authority_spec target.host target.port target.scheme
  · simp [heq, hne]
  · simp [heq]

/-- A URL of the target, part by part. -/
theorem ValidatedTarget.url_eq (hpath : PlainPath path) :
    target.origin.url path = target.scheme ++ ':' :: '/' :: '/' ::
      authority target.hostname target.port target.scheme ++ path := by
  apply urlunsplit_absolute
  · show target.scheme ≠ []
    rcases target.web with h | h
    · simp [h, http]
    · simp [h, https]
  · exact target.authority_ne_nil
  · exact hpath.1

/-- It is split into these parts. -/
theorem ValidatedTarget.urlsplit_url (hpath : PlainPath path) :
    urlsplit (target.origin.url path) =
      some ⟨target.scheme, authority target.hostname target.port target.scheme, path, [], []⟩ := by
  rw [target.url_eq hpath]
  exact (target.absolute hpath).urlsplit_eq

/-- It has no space and no control character. -/
theorem ValidatedTarget.url_visible (hpath : PlainPath path) :
    (target.origin.url path).any isControlOrSpace = false := by
  have hweb : target.scheme.any isControlOrSpace = false := by
    rcases target.web with h | h
    · rw [h]; decide
    · rw [h]; decide
  have hauthority :
      (authority target.hostname target.port target.scheme).any isControlOrSpace = false := by
    rw [any_eq_false]
    intro c hc
    have hrange := range_of_isAuthorityCharacter
      (authority_characters target.host target.port target.scheme c hc)
    simp only [isControlOrSpace, Bool.or_eq_true, decide_eq_true_eq]
    omega
  have hplain : path.any isControlOrSpace = false := by
    rw [any_eq_false]
    intro c hc
    have hc := all_eq_true.mp hpath.2 c hc
    simp only [isPlain, Bool.and_eq_true, Bool.not_eq_true'] at hc
    simp [hc.2]
  have hsep : [':', '/', '/'].any isControlOrSpace = false := by decide
  rw [target.url_eq hpath]
  simp only [append_assoc, any_append, hweb, cons_append, any_cons, hauthority,
    hplain]
  simpa using hsep

/-- A canonical URL passes the audit, unless white space is at its end. -/
theorem auditUrl_canonical {target : ValidatedTarget} {rawHref baseUrl url : Text}
    (h : canonicalCandidate rawHref baseUrl target.origin policy = .ok url)
    (htidy : stripped url = url) (fieldName : String) : auditUrl url fieldName = .ok url := by
  obtain ⟨path, hpath, rfl, hlength⟩ := canonicalCandidate_spec h
  rw [auditUrl_eq_ok, htidy]
  have hbound := policy.length_bounds.2
  have hne : target.origin.url path ≠ [] := by
    rw [target.url_eq hpath]
    simp
  refine ⟨rfl, ?_, _, target.urlsplit_url hpath, ?_⟩
  · simp [target.url_visible hpath, hne]
    omega
  · have hhost := hostinfo_authority target.host target.port target.scheme
      (r := ⟨target.scheme, authority target.hostname target.port target.scheme, path, [], []⟩) rfl
    have hat : '@' ∉ authority target.hostname target.port target.scheme := by
      intro hmem
      exact absurd (authority_characters target.host target.port target.scheme '@' hmem) (by decide)
    have hne := target.host.ne_nil
    have hsome : (hostname
        ⟨target.scheme, authority target.hostname target.port target.scheme, path, [], []⟩).isSome := by
      unfold hostname
      rw [hhost]
      simp [hne]
    have hinfo : userinfo
        ⟨target.scheme, authority target.hostname target.port target.scheme, path, [], []⟩ =
          (none, none) := userinfo_of_not_mem hat
    have hweb := target.web
    simp [hsome, hinfo, hweb]

end WebGuard
