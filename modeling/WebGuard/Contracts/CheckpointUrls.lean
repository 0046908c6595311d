import WebGuard.Crawler.Scope

/-!
# URLs of a checkpoint

`_canonical_url` of `crawl_checkpoints.py`: a checkpoint stores URLs only as this function writes
them, so it has to leave the URLs of the crawler alone. It rebuilds the authority from the host
that `urlsplit` answers with, which has no brackets.
-/

namespace WebGuard

open UrlParse StandardLibrary

variable [StandardLibrary]

def canonicalUrl (value : Text) (fieldName : String) : Checked Text := do
  require (!value.isEmpty && value.length ≤ 2048) "checkpoint_url_invalid"
    (fieldName ++ " must be a bounded HTTP or HTTPS URL.")
  match urlsplit value with
  | none => invalid "checkpoint_url_invalid" (fieldName ++ " is not a valid URL.")
  | some parsed =>
    let scheme := lower parsed.scheme
    match parsed.hostname.map lower with
    | none =>
      invalid "checkpoint_url_invalid" (fieldName ++ " must be an absolute HTTP or HTTPS URL.")
    | some hostname =>
      require (scheme = http || scheme = https) "checkpoint_url_invalid"
        (fieldName ++ " must be an absolute HTTP or HTTPS URL.")
      require (parsed.userinfo = (none, none)) "checkpoint_url_credentials_not_allowed"
        (fieldName ++ " cannot contain user information.")
      require (parsed.query.isEmpty && parsed.fragment.isEmpty)
        "checkpoint_url_query_fragment_not_allowed"
        (fieldName ++ " cannot contain a query string or fragment.")
      match parsed.port with
      | none =>
        invalid "checkpoint_url_port_invalid" (fieldName ++ " contains an invalid port.")
      | some port =>
        let authority :=
          match port with
          | none => hostname
          | some port =>
            if port = defaultPort scheme then hostname else hostname ++ ':' :: Nat.toDigits 10 port
        let path := if parsed.path.isEmpty then ['/'] else parsed.path
        let path := if path.head? = some '/' then path else '/' :: path
        let canonical := urlunsplit ⟨scheme, authority, path, [], []⟩
        require (canonical = value) "checkpoint_url_non_canonical"
          (fieldName ++ " must be canonical.")
        return canonical

/-! ## The parts of an authority -/

omit [StandardLibrary] in
theorem digitsValue_toDigits (n : Nat) : digitsValue (Nat.toDigits 10 n) = n := by
  have h : Nat.ofDigitChars 10 (Nat.toDigits 10 n) 0 = n := Nat.ofDigitChars_ten_toDigits
  rw [Nat.ofDigitChars_eq_foldl] at h
  exact h

omit [StandardLibrary] in
theorem isAsciiDigit_toDigits (n : Nat) : (Nat.toDigits 10 n).all isAsciiDigit = true := by
  rw [List.all_eq_true]
  intro c hc
  have hdigit : c.isDigit = true := Nat.isDigit_of_mem_toDigits (by decide) (by decide) hc
  rw [Char.isDigit, Bool.and_eq_true, decide_eq_true_eq, decide_eq_true_eq] at hdigit
  have hrange : '0' ≤ c ∧ c ≤ '9' := hdigit
  simp [isAsciiDigit, hrange]

/-- What an authority has behind its host. -/
def portTail (port : Nat) (scheme : Text) : Text :=
  if port = defaultPort scheme then [] else ':' :: Nat.toDigits 10 port

omit [StandardLibrary] in
theorem portTail_cases (port : Nat) (scheme : Text) :
    portTail port scheme = [] ∨ portTail port scheme = ':' :: Nat.toDigits 10 port := by
  unfold portTail
  split
  · exact Or.inl rfl
  · exact Or.inr rfl

theorem authority_eq (hostname : Text) (port : Nat) (scheme : Text) :
    authority hostname port scheme = renderedHost hostname ++ portTail port scheme := by
  unfold authority portTail
  split
  · simp
  · rfl

/-- An address that is written in brackets. -/
def isIPv6Host (hostname : Text) : Bool := (ipAddress hostname).any (·.isIPv6)

variable {hostname : Text}

theorem renderedHost_named (h : Hostname hostname) (hname : isIPv6Host hostname = false) :
    renderedHost hostname = hostname ∧ ∀ c ∈ hostname, isHostCharacter c = true := by
  cases h with
  | named hne hchars haddress =>
    refine ⟨?_, hchars⟩
    unfold renderedHost
    cases hip : ipAddress hostname with
    | none => exact lower_eq_self fun c hc => isAuthorityCharacter_of_host (hchars c hc)
    | some a => simp [haddress a hip]
  | ipv6 hne hchars haddress => simp [isIPv6Host, haddress] at hname

theorem renderedHost_ipv6 (h : Hostname hostname) (hname : isIPv6Host hostname = true) :
    renderedHost hostname = '[' :: hostname ++ [']'] ∧
      ∀ c ∈ hostname, isIPv6Character c = true := by
  cases h with
  | named hne hchars haddress =>
    unfold isIPv6Host at hname
    cases hip : ipAddress hostname with
    | none => simp [hip] at hname
    | some a => simp [hip, haddress a hip] at hname
  | ipv6 hne hchars haddress => exact ⟨by simp [renderedHost, haddress], hchars⟩

theorem port_authority (h : Hostname hostname) {port : Nat} (hport : port ≤ 65535) (scheme : Text)
    {r : SplitResult} (hr : r.netloc = authority hostname port scheme) :
    r.port = some (if port = defaultPort scheme then none else some port) := by
  have hat : '@' ∉ r.netloc := by
    intro hmem
    exact absurd (authority_characters h port scheme '@' (hr ▸ hmem)) (by decide)
  have hrpart : (rpartition '@' r.netloc).2.2 = r.netloc := by
    simp [rpartition, hat]
  have hopenTail : '[' ∉ portTail port scheme := by
    rcases portTail_cases port scheme with htail | htail
    · simp [htail]
    · rw [htail]
      intro hmem
      rcases List.mem_cons.mp hmem with hmem | hmem
      · exact absurd hmem (by decide)
      · exact absurd (isHostCharacter_of_mem_toDigits hmem) (by decide)
  -- the text of the port is what is behind the colon of the tail
  have htext : r.hostinfo.2 = (portTail port scheme).drop 1 := by
    unfold SplitResult.hostinfo
    rw [hrpart, hr, authority_eq]
    cases hname : isIPv6Host hostname with
    | false =>
      obtain ⟨hhost, hchars⟩ := renderedHost_named h hname
      have hopen : '[' ∉ hostname ++ portTail port scheme := by
        intro hmem
        rcases List.mem_append.mp hmem with hmem | hmem
        · exact absurd (hchars '[' hmem) (by decide)
        · exact hopenTail hmem
      have hcolon : ':' ∉ hostname := fun hmem => absurd (hchars ':' hmem) (by decide)
      rw [hhost, partition_of_not_mem hopen]
      rcases portTail_cases port scheme with htail | htail
      · simp [htail, partition_of_not_mem hcolon]
      · simp [htail, partition_append hcolon]
    | true =>
      obtain ⟨hhost, hchars⟩ := renderedHost_ipv6 h hname
      have hclose : ']' ∉ hostname := fun hmem => absurd (hchars ']' hmem) (by decide)
      rw [hhost, List.cons_append, List.cons_append, List.append_assoc, partition_cons_self]
      simp only [List.singleton_append, partition_append hclose, if_true]
      rcases portTail_cases port scheme with htail | htail
      · rw [htail]
        rfl
      · rw [htail, partition_cons_self]
        rfl
  unfold SplitResult.port
  rw [htext]
  unfold portTail
  split
  · rfl
  · have hne : Nat.toDigits 10 port ≠ [] := Nat.toDigits_ne_nil
    simp [hne, isAsciiDigit_toDigits, digitsValue_toDigits, hport]

theorem hostname_authority (h : Hostname hostname) (port : Nat) (scheme : Text) {r : SplitResult}
    (hr : r.netloc = authority hostname port scheme) : r.hostname = some hostname := by
  have hhost := hostinfo_authority h port scheme hr
  have hzone : '%' ∉ hostname := fun hmem => absurd (h.authorityCharacters '%' hmem) (by decide)
  unfold SplitResult.hostname
  rw [hhost, partition_of_not_mem hzone]
  simp [h.ne_nil, lower_eq_self h.authorityCharacters]

/-! The parts of a URL that is a scheme, an authority and a path. -/

section

variable (h : Hostname hostname) (port : Nat) (scheme path : Text)

include h

theorem hostname_parts :
    SplitResult.hostname ⟨scheme, authority hostname port scheme, path, [], []⟩ = some hostname :=
  hostname_authority h port scheme rfl

theorem userinfo_parts :
    SplitResult.userinfo ⟨scheme, authority hostname port scheme, path, [], []⟩ = (none, none) :=
  SplitResult.userinfo_of_not_mem fun hmem =>
    absurd (authority_characters h port scheme '@' hmem) (by decide)

variable {port}

theorem port_parts (hport : port ≤ 65535) :
    SplitResult.port ⟨scheme, authority hostname port scheme, path, [], []⟩
      = some (if port = defaultPort scheme then none else some port) :=
  port_authority h hport scheme rfl

end

omit [StandardLibrary] in
theorem getD_defaultPort (port : Nat) (scheme : Text) :
    (if port = defaultPort scheme then none else some port).getD (defaultPort scheme) = port := by
  split
  · next heq => exact heq.symm
  · rfl

/-! ## The URLs of the crawler -/

theorem canonicalUrl_url {target : ValidatedTarget} (hport : target.port ≤ 65535) {path : Text}
    (hpath : PlainPath path) (hlength : (target.origin.url path).length ≤ 2048)
    (fieldName : String) :
    canonicalUrl (target.origin.url path) fieldName =
      (let canonical := urlunsplit
        ⟨target.scheme, target.hostname ++ portTail target.port target.scheme, path, [], []⟩
      require (canonical = target.origin.url path) "checkpoint_url_non_canonical"
        (fieldName ++ " must be canonical.") >>= fun _ => .ok canonical) := by
  have hne : target.origin.url path ≠ [] := by
    rw [target.url_eq hpath]
    simp
  have hparsed := target.urlsplit_url hpath
  have hhost := hostname_parts target.host target.port target.scheme path
  have hports := port_parts target.host target.scheme path hport
  have hinfo := userinfo_parts target.host target.port target.scheme path
  have hlower : lower target.hostname = target.hostname :=
    lower_eq_self target.host.authorityCharacters
  have hroot : path.head? = some '/' := hpath.1
  have hpathne : path ≠ [] := by
    rintro rfl
    simp at hroot
  have hauthority : (match (if target.port = defaultPort target.scheme then none
      else some target.port : Option Nat) with
      | none => target.hostname
      | some port =>
        if port = defaultPort target.scheme then target.hostname
        else target.hostname ++ ':' :: Nat.toDigits 10 port) =
      target.hostname ++ portTail target.port target.scheme := by
    unfold portTail
    by_cases hdefault : target.port = defaultPort target.scheme
    · simp [hdefault]
    · simp [hdefault]
  unfold canonicalUrl
  rw [hparsed]
  simp only [hhost, hports, hinfo, Option.map_some, hlower, lower_web target.web, hauthority]
  simp [require, hne, hlength, target.web, hpathne, hroot]
  rfl

end WebGuard
