import WebGuard.Crawler.Targets

/-!
# Normalised URLs

What `validate_target_url` writes into a target: the origin and a path. The validation of such a URL
gives its parts back, up to white space at the end of the path, which a query or a fragment that is
empty can leave there.
-/

namespace WebGuard

open PyJson UrlParse StandardLibrary Atomic List Option

variable [StandardLibrary] [NetworkLibrary]

/-! ## Hosts that were normalised -/

/--
What is documented of names, besides the texts of addresses.

The compressed text of an IPv6 address does not end with a dot. IDNA encodes as ASCII, and leaves a
name alone that is ASCII and has labels of the right lengths.
-/
structure HostLaws : Prop extends AddressLaws where
  compressed : ∀ t c, ipAddress t = some ⟨true, c⟩ → c.getLast? ≠ some '.'
  encoded : ∀ t e, NetworkLibrary.idna t = some e → isAscii e = true
  ascii : ∀ t : Text, (∀ c ∈ t, c.toNat < 128) →
    (∀ label ∈ split '.' t, label ≠ [] ∧ label.length ≤ 63) → NetworkLibrary.idna t = some t

section

omit [StandardLibrary] [NetworkLibrary]

theorem isSpace_of_visible {c : Char} (h : 32 < c.toNat) (h' : c.toNat < 128) :
    isSpace c = false := by
  simp only [isSpace, Bool.or_eq_false_iff, Bool.and_eq_false_iff, decide_eq_false_iff_not,
    beq_eq_false_iff_ne, ne_eq]
  omega

theorem split_snoc (c : Char) (t : Text) : split c (t ++ [c]) = split c t ++ [[]] := by
  induction t with
  | nil => simp [split]
  | cons x rest ih =>
    rw [cons_append, split, split, ih]
    by_cases hx : x = c
    · rw [if_pos hx, if_pos hx, cons_append]
    · obtain ⟨first, others, hsplit⟩ := exists_cons_of_ne_nil (split_ne_nil c rest)
      rw [if_neg hx, if_neg hx, hsplit]
      rfl

theorem nil_mem_split {c : Char} {t : Text} (h : t.getLast? = some c) : [] ∈ split c t := by
  obtain ⟨front, rfl⟩ := getLast?_eq_some_iff.mp h
  rw [split_snoc]
  exact mem_append_right _ mem_cons_self

theorem rdropWhile_eq_self {p : Char → Bool} {t : Text} (h : t.getLast?.any p = false) :
    t.rdropWhile p = t := by
  rw [rdropWhile_eq_self_iff]
  intro hne hp
  rw [getLast?_eq_some_getLast hne] at h
  simp [hp] at h

end

omit [StandardLibrary] [NetworkLibrary] in
theorem length_of_checkLabel {label : Text} (h : checkLabel label = .ok ()) :
    label ≠ [] ∧ label.length ≤ 63 := by
  refine ⟨(checkLabel_eq_ok h).1, ?_⟩
  unfold checkLabel at h
  obtain ⟨_, -, h⟩ := bind_ok h
  obtain ⟨_, hlength, -⟩ := bind_ok h
  simpa using hlength

namespace Labelled

variable {t : Text}

omit [StandardLibrary] [NetworkLibrary]

theorem isAuthorityCharacter (h : Labelled t) :
    ∀ c ∈ t, isAuthorityCharacter c = true := fun c hc =>
  isAuthorityCharacter_of_host (h.characters c hc)

theorem visible (h : Labelled t) : ∀ c ∈ t, 32 < c.toNat ∧ c.toNat < 128 := by
  intro c hc
  have hrange := range_of_isAuthorityCharacter (h.isAuthorityCharacter c hc)
  omega

theorem label (h : Labelled t) : ∀ label ∈ split '.' t, label ≠ [] ∧ label.length ≤ 63 :=
  fun label hl => length_of_checkLabel (forM_ok_iff.mp h.labels label hl)

theorem zone (h : Labelled t) : '%' ∉ t := fun hmem => absurd (h.characters '%' hmem) (by decide)

theorem stripped_eq (h : Labelled t) : stripped t = t := trim_eq_self fun c hc =>
  isSpace_of_visible (h.visible c hc).1 (h.visible c hc).2

theorem rdropWhile_eq (h : Labelled t) : t.rdropWhile (fun c => decide (c = '.')) = t := by
  refine rdropWhile_eq_self ?_
  cases hlast : t.getLast? with
  | none => rfl
  | some c =>
    have hc : c ≠ '.' := by
      rintro rfl
      exact (h.label [] (nil_mem_split hlast)).1 rfl
    simp [hc]

end Labelled

/-- A labelled name is its own IDNA form. -/
theorem Labelled.idna_eq (laws : HostLaws) {t : Text} (h : Labelled t) :
    NetworkLibrary.idna t = some t := laws.ascii t (fun c hc => (h.visible c hc).2) h.label

/-- So it is normalised to itself. -/
theorem Labelled.normaliseHostname_eq (laws : HostLaws) {t : Text} (h : Labelled t) :
    normaliseHostname t = .ok t := by
  have hzone := h.zone
  have hidna : (NetworkLibrary.idna t).filter isAscii = some t := by
    rw [h.idna_eq laws, filter_some, if_pos]
    exact all_eq_true.mpr fun c hc => by simpa using (h.visible c hc).2
  unfold normaliseHostname
  simp only [h.stripped_eq, h.rdropWhile_eq]
  rw [bind_ok_iff]
  refine ⟨(), by simpa using h.nonempty, ?_⟩
  rw [bind_ok_iff]
  refine ⟨(), by simpa using hzone, ?_⟩
  cases haddress : ipAddress t with
  | some address =>
    obtain ⟨isIPv6, compressed⟩ := address
    cases isIPv6 with
    | false => rw [(laws.ipv4 _ _ haddress).1]; rfl
    | true => exact absurd (h.characters ':' (laws.ipv6 _ _ haddress).1) (by decide)
  | none =>
    simp only [hidna, lower_eq_self h.isAuthorityCharacter, bind_ok_iff, require_eq_ok]
    exact ⟨(), by simpa using h.bound, (), h.labels, rfl⟩

/-- An address is normalised to itself as well. -/
theorem normaliseHostname_address {t : Text} {isIPv6 : Bool} (hhost : Hostname t)
    (haddress : ipAddress t = some ⟨isIPv6, t⟩) (hend : t.getLast? ≠ some '.') :
    normaliseHostname t = .ok t := by
  have hvisible : ∀ c ∈ t, isSpace c = false := by
    intro c hc
    have hrange := range_of_isAuthorityCharacter (hhost.authorityCharacters c hc)
    exact isSpace_of_visible (by omega) (by omega)
  have hstrip : stripped t = t := trim_eq_self hvisible
  have hdots : t.rdropWhile (fun c => decide (c = '.')) = t := by
    refine rdropWhile_eq_self ?_
    cases hlast : t.getLast? with
    | none => rfl
    | some c =>
      rw [hlast] at hend
      simpa using hend
  have hzone : '%' ∉ t := fun hmem => absurd (hhost.authorityCharacters '%' hmem) (by decide)
  unfold normaliseHostname
  simp only [hstrip, hdots, haddress, bind_ok_iff, require_eq_ok]
  exact ⟨(), by simpa using hhost.ne_nil, (), by simpa using hzone, rfl⟩

/-- A normalised host is normalised to itself. -/
theorem normaliseHostname_again (laws : HostLaws) {host hostname : Text}
    (h : normaliseHostname host = .ok hostname) : normaliseHostname hostname = .ok hostname := by
  have hhost := hostname_of_normaliseHostname laws.toAddressLaws h
  obtain hlabelled | ⟨candidate, ⟨isIPv6, compressed⟩, haddress, hne, hend, hzone, rfl⟩ :=
    normaliseHostname_cases h
  · exact hlabelled.normaliseHostname_eq laws
  · cases isIPv6 with
    | false =>
      obtain ⟨rfl, -⟩ := laws.ipv4 _ _ haddress
      exact normaliseHostname_address hhost haddress hend
    | true =>
      exact normaliseHostname_address hhost ((laws.ipv6 _ _ haddress).2 hzone).2.2
        (laws.compressed _ _ haddress)

/-! ## A URL as the validation writes it -/

/-- The URL of a path under an origin. -/
def normalUrl (scheme hostname : Text) (port : Nat) (path : PyText) : PyText :=
  codePoints (schemeAndAuthority scheme (authority hostname port scheme)) ++ path

omit [NetworkLibrary] in
theorem normalUrl_inj {scheme hostname : Text} {port : Nat} {path path' : PyText}
    (h : normalUrl scheme hostname port path = normalUrl scheme hostname port path') :
    path = path' := append_cancel_left h

/-- What the parts of a normalised URL are like. -/
structure NormalUrl (scheme hostname : Text) (port : Nat) (path : PyText) : Prop where
  web : scheme = http ∨ scheme = https
  host : Hostname hostname
  again : normaliseHostname hostname = .ok hostname
  port : port ≤ 65535
  rooted : path.head? = some 47
  plain : ∀ n ∈ path, n ≠ 63 ∧ n ≠ 35 ∧ n ≠ 92 ∧ n ≠ 9 ∧ n ≠ 10 ∧ n ≠ 13

/-- A URL without its trailing white space. -/
def trimEnd (text : PyText) : PyText :=
  (text.reverse.dropWhile fun n => isSpace (asChar n)).reverse

variable {policy : ValidationPolicy} {resolver : Resolver} {target : PyTarget}

namespace NormalUrl

variable {scheme hostname : Text} {port : Nat} {path : PyText}

theorem front_visible (h : NormalUrl scheme hostname port path) :
    ∀ c ∈ schemeAndAuthority scheme (authority hostname port scheme),
      32 < c.toNat ∧ c.toNat < 127 ∧ c ≠ '\\' := by
  intro c hc
  simp only [schemeAndAuthority, mem_append, mem_cons] at hc
  rcases hc with hc | rfl | rfl | rfl | hc
  · have hweb : ∀ t, t = http ∨ t = https → ∀ c ∈ t, 32 < c.toNat ∧ c.toNat < 127 ∧ c ≠ '\\' := by
      rintro t (rfl | rfl)
      · exact forall_iff_forall_mem.mp (by decide)
      · exact forall_iff_forall_mem.mp (by decide)
    exact hweb scheme h.web c hc
  · decide
  · decide
  · decide
  · have hchar := authority_characters h.host port scheme c hc
    have hrange := range_of_isAuthorityCharacter hchar
    refine ⟨by omega, by omega, ?_⟩
    rintro rfl
    exact absurd hchar (by decide)

theorem backslash_not_mem (h : NormalUrl scheme hostname port path) :
    92 ∉ normalUrl scheme hostname port path := by
  intro hmem
  rcases mem_append.mp hmem with hmem | hmem
  · obtain ⟨c, hc, heq⟩ := mem_map.mp hmem
    have hslash : '\\'.toNat = 92 := rfl
    rw [← hslash] at heq
    exact (h.front_visible c hc).2.2 (Char.toNat_inj.mp heq)
  · exact (h.plain 92 hmem).2.2.1 rfl

omit [NetworkLibrary] in
theorem characters_normalUrl (scheme hostname : Text) (port : Nat) (path : PyText) :
    characters (normalUrl scheme hostname port path) =
      scheme ++ ':' :: '/' :: '/' :: authority hostname port scheme ++ characters path := by
  have happend : ∀ s t : PyText, characters (s ++ t) = characters s ++ characters t := fun s t =>
    map_append ..
  rw [normalUrl, happend, characters_codePoints]
  simp [schemeAndAuthority]

/-- A normalised URL is split into its parts. -/
theorem urlsplit_eq (h : NormalUrl scheme hostname port path) :
    urlsplit (characters (normalUrl scheme hostname port path)) =
      some ⟨scheme, authority hostname port scheme, characters path, [], []⟩ := by
  have hroot : PlainPath ['/'] := ⟨rfl, by decide⟩
  have habsolute := absolute_of_plain h.web h.host port hroot
  rw [characters_normalUrl]
  refine habsolute.urlsplit_path (.inr (head_characters h.rooted)) ?_
  intro c hc
  obtain ⟨n, hn, rfl⟩ := mem_map.mp hc
  have hplain := h.plain n hn
  have hne : ∀ d : Char, d.toNat < 0xD800 → n ≠ d.toNat → asChar n ≠ d := fun d hd hnd heq =>
    hnd ((asChar_eq_iff hd).mp heq)
  refine ⟨hne '?' (by decide) hplain.1, hne '#' (by decide) hplain.2.1, ?_⟩
  simp only [mem_cons, not_mem_nil, or_false, not_or]
  exact ⟨hne '\t' (by decide) hplain.2.2.2.1, hne '\r' (by decide) hplain.2.2.2.2.2,
    hne '\n' (by decide) hplain.2.2.2.2.1⟩

theorem head_normalUrl (h : NormalUrl scheme hostname port path) :
    ∃ n rest, normalUrl scheme hostname port path = n :: rest ∧ 32 < n ∧ n < 127 := by
  have hfront := h.front_visible
  cases hfields : schemeAndAuthority scheme (authority hostname port scheme) with
  | nil => simp [schemeAndAuthority] at hfields
  | cons c rest =>
    rw [hfields] at hfront
    have hc := hfront c mem_cons_self
    exact ⟨c.toNat, codePoints rest ++ path, by simp [normalUrl, hfields, codePoints], hc.1, hc.2.1⟩

theorem urlPath_eq (h : NormalUrl scheme hostname port path) :
    urlPath (normalUrl scheme hostname port path)
      ⟨scheme, authority hostname port scheme, characters path, [], []⟩ = path := by
  obtain ⟨n, rest, hurl, hn, -⟩ := h.head_normalUrl
  have hdrop : (normalUrl scheme hostname port path).dropWhile (fun n => decide (n ≤ 32)) =
      normalUrl scheme hostname port path := by
    rw [hurl, dropWhile_cons, if_neg (by simp; omega)]
  have hkeep : (normalUrl scheme hostname port path).filter
      (fun n => n ≠ 9 && n ≠ 10 && n ≠ 13) = normalUrl scheme hostname port path := by
    rw [filter_eq_self]
    intro n hn
    rcases mem_append.mp hn with hn | hn
    · obtain ⟨c, hc, rfl⟩ := mem_map.mp hn
      have hvisible := (h.front_visible c hc).1
      simp
      omega
    · have hplain := h.plain n hn
      simp [hplain]
  have hlength : (codePoints (schemeAndAuthority scheme (authority hostname port scheme))).length =
      scheme.length + 3 + (authority hostname port scheme).length := by
    simp [codePoints, schemeAndAuthority]
    omega
  have hpath : path.takeWhile (fun n => n ≠ 63 && n ≠ 35) = path := by
    rw [takeWhile_eq_self_iff]
    intro n hn
    have hplain := h.plain n hn
    simp [hplain]
  unfold urlPath
  simp only [hdrop, hkeep, ← hlength]
  rw [normalUrl, drop_left, hpath]

omit [StandardLibrary] [NetworkLibrary] in
theorem mem_trimEnd {n : Nat} {text : PyText} (h : n ∈ trimEnd text) : n ∈ text := by
  unfold trimEnd at h
  have hmem := (dropWhile_suffix _).subset (mem_reverse.mp h)
  exact mem_reverse.mp hmem

omit [StandardLibrary] [NetworkLibrary] in
theorem trimEnd_append {front back : PyText} (h : ∃ n ∈ back, isSpace (asChar n) = false) :
    trimEnd (front ++ back) = front ++ trimEnd back := by
  obtain ⟨n, hn, hspace⟩ := h
  unfold trimEnd
  rw [reverse_append, dropWhile_append, if_neg, reverse_append, reverse_reverse]
  intro hnil
  have hall := dropWhile_eq_nil_iff.mp (isEmpty_iff.mp hnil) n (mem_reverse.mpr hn)
  rw [hspace] at hall
  cases hall

theorem stripText_eq (h : NormalUrl scheme hostname port path) :
    stripText (normalUrl scheme hostname port path) =
      normalUrl scheme hostname port (trimEnd path) := by
  obtain ⟨n, rest, hurl, hlow, hhigh⟩ := h.head_normalUrl
  have hn : isSpace (asChar n) = false := by
    obtain heq | ⟨hlarge, -⟩ := toNat_asChar n
    · exact isSpace_of_visible (by omega) (by omega)
    · omega
  have hdrop : (normalUrl scheme hostname port path).dropWhile (fun n => isSpace (asChar n)) =
      normalUrl scheme hostname port path := by
    rw [hurl, dropWhile_cons, if_neg (by simp [hn])]
  have hslash : ∃ n ∈ path, isSpace (asChar n) = false :=
    ⟨47, mem_of_mem_head? h.rooted, by decide⟩
  unfold stripText
  rw [hdrop]
  exact trimEnd_append hslash

/-- Without the white space at its end it is still normalised. -/
theorem trim (h : NormalUrl scheme hostname port path) :
    NormalUrl scheme hostname port (trimEnd path) where
  web := h.web
  host := h.host
  again := h.again
  port := h.port
  rooted := by
    obtain ⟨rest, rfl⟩ : ∃ rest, path = [47] ++ rest := by
      cases hpath : path with
      | nil => rw [hpath] at h; cases h.rooted
      | cons n rest =>
        have hrooted := h.rooted
        rw [hpath] at hrooted
        exact ⟨rest, by simpa using hrooted⟩
    by_cases hblank : ∃ n ∈ rest, isSpace (asChar n) = false
    · rw [trimEnd_append hblank]
      rfl
    · have hall : ∀ n ∈ rest.reverse, isSpace (asChar n) = true := by
        intro n hn
        by_contra hspace
        exact hblank ⟨n, mem_reverse.mp hn, by simpa using hspace⟩
      have hslash : isSpace (asChar 47) = false := by decide
      unfold trimEnd
      rw [reverse_append, dropWhile_append_of_pos hall]
      simp [hslash]
  plain n hn := h.plain n (mem_trimEnd hn)

/-- What is checked of the split URL comes down to the addresses of its host. -/
theorem acceptedSplit_iff (h : NormalUrl scheme hostname port path) {candidate : Text}
    {fields : TargetFields} :
    AcceptedSplit candidate ⟨scheme, authority hostname port scheme, characters path, [], []⟩ policy
        resolver fields ↔
      ∃ raw addresses, resolvedBy resolver hostname port = .ok raw ∧ raw ≠ [] ∧
        validateAddresses policy hostname raw = .ok addresses ∧
        fields = ⟨candidate, urlunsplit ⟨scheme, formatNetloc hostname port scheme, characters path, [],
          []⟩, scheme, hostname, port, addresses⟩ := by
  have hhost := hostname_parts h.host port scheme (characters path)
  have hport := port_parts h.host scheme (characters path) h.port
  have hinfo := userinfo_parts h.host port scheme (characters path)
  have hpath : characters path ≠ [] := by
    intro hnil
    have hhead := head_characters h.rooted
    rw [hnil] at hhead
    cases hhead
  have hdefault := getD_defaultPort port scheme
  have hlower := lower_web h.web
  constructor
  · intro haccepted
    obtain ⟨hscheme, -, -, -, -, ⟨host, hhost', hname⟩, ⟨configured, hport', hfields⟩,
      ⟨raw, hraw, hne, haddresses⟩, horiginal, hnormalised⟩ := haccepted
    rw [hhost, some.injEq] at hhost'
    rw [hport, some.injEq] at hport'
    subst hhost' hport'
    rw [h.again, Except.ok.injEq] at hname
    rw [hlower] at hscheme
    rw [hscheme, hdefault] at hfields
    obtain ⟨original, normalised, scheme', hostname', port', addresses⟩ := fields
    simp only at hscheme hname hfields hraw haddresses horiginal hnormalised
    subst hscheme hname hfields horiginal hnormalised
    exact ⟨raw, addresses, hraw, hne, haddresses, by simp [hpath]⟩
  · rintro ⟨raw, addresses, hraw, hne, haddresses, rfl⟩
    exact ⟨hlower.symm, h.web, hinfo, rfl, rfl, ⟨hostname, hhost, h.again⟩,
      ⟨_, hport, hdefault.symm⟩, ⟨raw, hraw, hne, haddresses⟩, rfl, by simp [hpath]⟩

/-- A normalised URL is validated again, up to the white space at its end. -/
theorem validateTarget_iff (h : NormalUrl scheme hostname port path) :
    validateTarget (normalUrl scheme hostname port path) policy resolver = .ok target ↔
      (normalUrl scheme hostname port (trimEnd path)).length ≤ policy.maximumUrlLength ∧
      (∀ n ∈ trimEnd path, 32 ≤ n ∧ n ≠ 127) ∧
      ∃ raw addresses, resolvedBy resolver hostname port = .ok raw ∧ raw ≠ [] ∧
        validateAddresses policy hostname raw = .ok addresses ∧
        target = ⟨normalUrl scheme hostname port (trimEnd path),
          normalUrl scheme hostname port (trimEnd path), scheme, hostname, port, addresses⟩ := by
  have htrim := h.trim
  have hne : trimEnd path ≠ [] := by
    intro hnil
    have hrooted := htrim.rooted
    rw [hnil] at hrooted
    cases hrooted
  have hbackslash := htrim.backslash_not_mem
  have hvisible : (∀ n ∈ normalUrl scheme hostname port (trimEnd path), 32 ≤ n ∧ n ≠ 127) ↔
      ∀ n ∈ trimEnd path, 32 ≤ n ∧ n ≠ 127 := by
    constructor
    · intro hall n hn
      exact hall n (mem_append_right _ hn)
    · intro hall n hn
      rcases mem_append.mp hn with hn | hn
      · obtain ⟨c, hc, rfl⟩ := mem_map.mp hn
        have hrange := htrim.front_visible c hc
        omega
      · exact hall n hn
  have htarget : ∀ fields : TargetFields, fields.scheme = scheme → fields.hostname = hostname →
      fields.port = port → codePoints (schemeAndAuthority fields.scheme
          (formatNetloc fields.hostname fields.port fields.scheme)) ++
        orRoot (trimEnd path) = normalUrl scheme hostname port (trimEnd path) := by
    rintro fields rfl rfl rfl
    rw [formatNetloc_eq h.host, orRoot, if_neg (by simpa using hne), normalUrl]
  rw [validateTarget_eq_ok, h.stripText_eq, hvisible]
  constructor
  · rintro ⟨-, hlength, -, hall, parsed, fields, hparsed, hfields, rfl⟩
    rw [htrim.urlsplit_eq, some.injEq] at hparsed
    subst hparsed
    obtain ⟨raw, addresses, hraw, hraw', haddresses, rfl⟩ := htrim.acceptedSplit_iff.mp hfields
    rw [htrim.urlPath_eq, htarget _ rfl rfl rfl]
    exact ⟨hlength, hall, raw, addresses, hraw, hraw', haddresses, rfl⟩
  · rintro ⟨hlength, hall, raw, addresses, hraw, hraw', haddresses, rfl⟩
    refine ⟨by simp [normalUrl, hne], hlength, hbackslash, hall, _, _, htrim.urlsplit_eq,
      htrim.acceptedSplit_iff.mpr ⟨raw, addresses, hraw, hraw', haddresses, rfl⟩, ?_⟩
    rw [htrim.urlPath_eq, htarget _ rfl rfl rfl]

end NormalUrl

/-! ## Targets that were accepted -/

omit [StandardLibrary] [NetworkLibrary] in
theorem mem_of_taken {n skipped : Nat} {candidate : PyText}
    (h : n ∈ (((candidate.dropWhile (· ≤ 32)).filter fun n => n ≠ 9 && n ≠ 10 && n ≠ 13).drop
      skipped).takeWhile fun n => n ≠ 63 && n ≠ 35) :
    n ∈ candidate ∧ n ≠ 63 ∧ n ≠ 35 ∧ n ≠ 9 ∧ n ≠ 10 ∧ n ≠ 13 := by
  have hends := mem_takeWhile_imp h
  have hmem := mem_of_mem_drop ((List.takeWhile_prefix _).subset h)
  obtain ⟨hmem, hkept⟩ := mem_filter.mp hmem
  have hcandidate := (dropWhile_suffix _).subset hmem
  simp only [Bool.and_eq_true, decide_eq_true_eq] at hends hkept
  exact ⟨hcandidate, hends.1, hends.2, hkept.1.1, hkept.1.2, hkept.2⟩

/-- What validation writes into a target is normalised. -/
theorem normalised_of_accepted (laws : HostLaws) {url : PyText}
    (h : validateTarget url policy resolver = .ok target) :
    ∃ path, NormalUrl target.scheme target.hostname target.port path ∧
      target.normalisedUrl = normalUrl target.scheme target.hostname target.port path ∧
      (∀ n ∈ path, 32 ≤ n ∧ n ≠ 127) ∧
      ∃ raw, resolvedBy resolver target.hostname target.port = .ok raw ∧ raw ≠ [] ∧
        validateAddresses policy target.hostname raw = .ok target.resolvedAddresses := by
  obtain ⟨-, -, hbackslash, hvisible, parsed, fields, hparsed, hfields, rfl⟩ :=
    validateTarget_eq_ok.mp h
  obtain ⟨host, hhost, hname⟩ := hfields.host
  have hhostname := hostname_of_normaliseHostname laws.toAddressLaws hname
  have hrooted := (characters_urlPath hparsed hfields.scheme_ne_nil hfields.netloc_ne_nil).2
  have hport : fields.port ≤ 65535 := by
    obtain ⟨configured, hport, heq⟩ := hfields.port
    rw [heq]
    cases configured with
    | none =>
      rw [getD_none, defaultPort]
      split <;> omega
    | some port => exact port_le hport
  refine ⟨orRoot (urlPath (stripText url) parsed), ?_, by rw [formatNetloc_eq hhostname, normalUrl],
    ?_, hfields.addresses⟩
  · refine ⟨hfields.web, hhostname, normaliseHostname_again laws hname, hport, ?_, ?_⟩
    · unfold orRoot
      cases hpath : urlPath (stripText url) parsed with
      | nil => rfl
      | cons n rest =>
        rw [hpath] at hrooted
        simpa using hrooted
    · intro n hn
      unfold orRoot at hn
      split at hn
      · rw [mem_singleton] at hn
        omega
      · obtain ⟨hmem, hkept⟩ := mem_of_taken hn
        have hslash : n ≠ 92 := fun heq => hbackslash (heq ▸ hmem)
        omega
  · intro n hn
    unfold orRoot at hn
    split at hn
    · rw [mem_singleton] at hn
      omega
    · exact hvisible n (mem_of_taken hn).1

namespace NormalUrl

variable {scheme hostname : Text} {port : Nat} {path : PyText}

theorem effectivePort_eq (h : NormalUrl scheme hostname port path) :
    effectivePort ⟨scheme, authority hostname port scheme, characters path, [], []⟩ = some port := by
  have hport := port_parts h.host scheme (characters path) h.port
  unfold effectivePort
  rw [hport]
  split
  · next heq => cases heq
  · next configured heq =>
    rw [some.injEq] at heq
    by_cases hdefault : port = defaultPort scheme
    · simp [hdefault] at heq
    · rw [if_neg hdefault] at heq
      rw [some.inj heq]
  · next heq =>
    by_cases hdefault : port = defaultPort scheme
    · rw [lower_web h.web, hdefault]
    · simp [hdefault] at heq

theorem rootOrigin_eq_ok (h : NormalUrl scheme hostname port path) {target : ValidatedTarget}
    (hurl : target.normalisedUrl = characters (normalUrl scheme hostname port path))
    (hscheme : target.scheme = scheme) (hhostname : target.hostname = hostname)
    (hport : target.port = port) : rootOrigin target = .ok ⟨scheme, hostname, port⟩ := by
  have hhost := hostname_parts h.host port scheme (characters path)
  have hinfo := userinfo_parts h.host port scheme (characters path)
  unfold rootOrigin
  rw [hurl, h.urlsplit_eq]
  simp only [h.effectivePort_eq, hhost, hinfo, hscheme, hhostname, hport, lower_web h.web,
    lower_eq_self h.host.authorityCharacters]
  simp [require, bind, Except.bind, pure, Except.pure]

theorem requestPath_eq_ok (h : NormalUrl scheme hostname port path)
    (hurl : target.normalisedUrl = normalUrl scheme hostname port path)
    (hscheme : target.scheme = scheme) (hhostname : target.hostname = hostname)
    (hport : target.port = port) : requestPath target = .ok path := by
  have hhost := hostname_parts h.host port scheme (characters path)
  have hports := port_parts h.host scheme (characters path) h.port
  have hdefault := getD_defaultPort port scheme
  have hpath : orRoot path = path := by
    unfold orRoot
    split
    · next hempty =>
      have hrooted := h.rooted
      rw [isEmpty_iff.mp hempty] at hrooted
      cases hrooted
    · rfl
  unfold requestPath
  rw [hurl, h.urlsplit_eq]
  simp only [hports, hhost, h.urlPath_eq, hdefault, hscheme, hhostname, hport, hpath]
  simp [require, bind, Except.bind, pure, Except.pure]

end NormalUrl

end WebGuard
