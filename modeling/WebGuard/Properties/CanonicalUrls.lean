import WebGuard.Contracts.CheckpointUrls
import WebGuard.Crawler.RootedPaths
import WebGuard.Crawler.Crawl

/-!
# Canonical links

What `_canonical_candidate` makes of a link that it accepts, and of that URL when it meets it again.
-/

namespace WebGuard

open UrlParse StandardLibrary List

variable [StandardLibrary]

/-! ## Accepted links -/

/-- The URL that a link leads to from a page, taken apart. -/
def linkParts (rawHref baseUrl : Text) : Option SplitResult :=
  (urljoin baseUrl (stripped rawHref)).bind urlsplit

/-- A link that is accepted: where it leads, and the path it is requested with. -/
structure AcceptedLink (parsed : SplitResult) (origin : Origin) (policy : CrawlPolicy)
    (path url : Text) : Prop where
  web : lower parsed.scheme = http ∨ lower parsed.scheme = https
  userinfo : parsed.userinfo = (none, none)
  sameOrigin : ∃ hostname port, parsed.hostname = some hostname ∧
    effectivePort parsed = some port ∧ (⟨lower parsed.scheme, lower hostname, port⟩ : Origin) = origin
  rooted : parsed.path = [] ∨ parsed.path.head? = some '/'
  normal : normalisePath parsed.path = some path
  harmless : isDestructivePath path policy.blockedPathSegments = false
  query : (!parsed.query.isEmpty && policy.queryMode = .reject) = false
  url_eq : url = origin.url path
  length : url.length ≤ policy.maximumUrlLength
  plain : PlainPath path

variable {parsed : SplitResult} {url path : Text} {policy : CrawlPolicy} {target : ValidatedTarget}

theorem netloc_ne_nil {hostname : Text} (h : parsed.hostname = some hostname) :
    parsed.netloc ≠ [] := by
  intro hempty
  have hinfo : parsed.hostinfo.1 = [] := by
    unfold SplitResult.hostinfo
    rw [hempty]
    decide
  unfold SplitResult.hostname at h
  rw [hinfo] at h
  cases h

theorem rooted_of_urlsplit (h : urlsplit url = some parsed) (hscheme : parsed.scheme ≠ [])
    (hnetloc : parsed.netloc ≠ []) : parsed.path = [] ∨ parsed.path.head? = some '/' := by
  obtain ⟨before, rest, -, -, hends, hpath, -⟩ := parts_of_urlsplit h hscheme hnetloc
  cases rest with
  | nil => exact Or.inl (by simpa using hpath)
  | cons c rest =>
    have hc : c = '/' ∨ c = '?' ∨ c = '#' := by
      simpa [isAuthorityEnd, or_assoc] using hends
    rcases hc with rfl | rfl | rfl
    · exact Or.inr (by rw [hpath]; rfl)
    · exact Or.inl (by rw [hpath]; rfl)
    · exact Or.inl (by rw [hpath]; rfl)

theorem canonicalCandidate_accepted {rawHref baseUrl : Text} {origin : Origin}
    (h : canonicalCandidate rawHref baseUrl origin policy = .ok url) :
    ∃ parsed path, linkParts rawHref baseUrl = some parsed ∧
      AcceptedLink parsed origin policy path url := by
  unfold canonicalCandidate at h
  dsimp only at h
  split at h
  · cases h
  split at h
  · cases h
  split at h
  · cases h
  split at h
  · cases h
  next parsed hparsed =>
  obtain ⟨absolute, -, hsplit⟩ := Option.bind_eq_some_iff.mp hparsed
  unfold canonicalOf at h
  dsimp only at h
  split at h
  · cases h
  next hscheme =>
  split at h
  · cases h
  next hinfo =>
  split at h
  · cases h
  next hostname hhostname =>
  split at h
  · cases h
  next port hport =>
  split at h
  · cases h
  next horigin =>
  split at h
  · cases h
  next path hpath =>
  split at h
  · cases h
  next hharmless =>
  split at h
  · cases h
  next hquery =>
  split at h
  · cases h
  next hlength =>
  cases h
  have hweb : lower parsed.scheme = http ∨ lower parsed.scheme = https := by
    by_contra hnot
    rw [not_or] at hnot
    exact hscheme (by simpa using hnot)
  have hnonempty : parsed.scheme ≠ [] := by
    intro hempty
    rw [hempty, lower_ascii [] (by simp)] at hweb
    rcases hweb with hweb | hweb <;> cases hweb
  have hrooted := rooted_of_urlsplit hsplit hnonempty (netloc_ne_nil hhostname)
  exact ⟨parsed, path, hparsed, hweb, not_not.mp hinfo,
    ⟨hostname, port, hhostname, hport, not_not.mp horigin⟩, hrooted, hpath,
    Bool.eq_false_iff.mpr hharmless, Bool.eq_false_iff.mpr hquery, rfl, Nat.le_of_not_lt hlength,
    normalisePath_plain hpath (path_of_urlsplitWith hsplit)⟩

/-! ## A canonical URL as a link -/

/-- A page on an origin. -/
def OnOrigin (base : Text) (origin : Origin) : Prop :=
  ∃ parsed, urlsplit base = some parsed ∧ parsed.scheme = origin.scheme ∧
    parsed.hostname = some origin.hostname ∧ effectivePort parsed = some origin.port

theorem urlsplitWith_url (target : ValidatedTarget) (hpath : PlainPath path) (default : Text) :
    urlsplitWith default (target.origin.url path)
      = some ⟨target.scheme, authority target.hostname target.port target.scheme, path, [], []⟩ := by
  have habsolute := target.absolute hpath
  have hvisible : removeUnsafe (target.origin.url path) = target.origin.url path := by
    have hclean := target.url_visible hpath
    rw [any_eq_false] at hclean
    have hlow : ∀ c ∈ target.origin.url path, 32 < c.toNat := by
      intro c hc
      have := hclean c hc
      simp only [isControlOrSpace, Bool.or_eq_true, decide_eq_true_eq] at this
      omega
    refine removeUnsafe_of_kept ?_ fun c hc => kept_of_visible (hlow c hc)
    cases hurl : target.origin.url path with
    | nil =>
      rw [target.url_eq hpath] at hurl
      simp at hurl
    | cons c rest => simpa using hlow c (by simp [hurl])
  have hsame : urlsplitWith default (target.origin.url path) = urlsplit (target.origin.url path) := by
    unfold urlsplit urlsplitWith
    rw [hvisible, target.url_eq hpath, append_assoc, cons_append,
      habsolute.splitScheme_eq, habsolute.splitScheme_eq]
  rw [hsame, target.urlsplit_url hpath]

omit [StandardLibrary] in
theorem usesParams_web {scheme : Text} (h : scheme = http ∨ scheme = https) :
    usesParams.contains scheme = true := by
  rcases h with rfl | rfl <;> decide

theorem urljoin_url {base : Text} (hbase : OnOrigin base target.origin) (hpath : PlainPath path) :
    urljoin base (target.origin.url path)
      = some (target.origin.url (rejoined target.scheme path)) := by
  obtain ⟨b, hb, hscheme, -, -⟩ := hbase
  have hscheme : b.scheme = target.scheme := hscheme
  have hweb : target.scheme ≠ [] := by
    rcases target.web with h | h <;> rw [h] <;> decide
  have hnonempty : base.isEmpty = false := by
    cases base with
    | nil =>
      cases hb
      exact absurd hscheme.symm hweb
    | cons => rfl
  have hurl : (target.origin.url path).isEmpty = false := by
    rw [target.url_eq hpath]
    simp
  have hrelative : usesRelative.contains target.scheme = true := by
    rcases target.web with h | h <;> rw [h] <;> decide
  have hnetloc : usesNetloc.contains target.scheme = true := by
    rcases target.web with h | h <;> rw [h] <;> decide
  have hauthority : (authority target.hostname target.port target.scheme).isEmpty = false := by
    simpa using target.authority_ne_nil
  unfold urljoin
  rw [if_neg (by rw [hnonempty]; simp), if_neg (by rw [hurl]; simp), hb]
  simp only [Option.bind_eq_bind, Option.bind_some, urlsplitWith_url target hpath, hscheme, ne_eq,
    not_true_eq_false, decide_false, hrelative, Bool.not_true, Bool.or_self, hnetloc, hauthority,
    Bool.not_false, Bool.and_self, if_true, Bool.false_eq_true, if_false, Option.pure_def]
  unfold urlunparse rejoined
  dsimp only
  congr 1
  split <;> rfl

section

omit [StandardLibrary]

theorem plainPath_rejoined {scheme : Text} (hscheme : usesParams.contains scheme = true)
    (h : PlainPath path) : PlainPath (rejoined scheme path) := by
  refine ⟨head_rejoined hscheme h.1, ?_⟩
  have hplain := h.2
  rcases exists_rejoined_append hscheme path with heq | heq
  · rw [← heq]
    exact hplain
  · rw [heq, all_append, Bool.and_eq_true] at hplain
    exact hplain.1

theorem plainPath_rdropWhile (h : PlainPath path) : PlainPath (path.rdropWhile isSpace) := by
  refine ⟨head_rdropWhile h.1, ?_⟩
  rw [all_eq_true]
  intro c hc
  exact all_eq_true.mp h.2 c ((List.rdropWhile_prefix _ _).subset hc)

theorem rdropWhile_append {p : Char → Bool} {t : Text} (h : t.rdropWhile p ≠ []) (front : Text) :
    (front ++ t).rdropWhile p = front ++ t.rdropWhile p := by
  induction t using reverseRecOn with
  | nil => exact absurd rfl h
  | append_singleton t c ih =>
    rw [← append_assoc, rdropWhile_concat, rdropWhile_concat]
    rw [rdropWhile_concat] at h
    split
    · next hc =>
      rw [if_pos hc] at h
      exact ih h
    · rw [append_assoc]

end

theorem stripped_url (target : ValidatedTarget) (hpath : PlainPath path) :
    stripped (target.origin.url path) = target.origin.url (path.rdropWhile isSpace) := by
  have hdropped := plainPath_rdropWhile hpath
  have hne : path.rdropWhile isSpace ≠ [] := by
    intro hempty
    have hhead := hdropped.1
    rw [hempty] at hhead
    cases hhead
  rw [target.url_eq hpath, target.url_eq hdropped]
  obtain ⟨c, rest, hscheme, hc⟩ : ∃ c rest, target.scheme = c :: rest ∧ isSpace c = false := by
    rcases target.web with h | h <;> rw [h]
    · exact ⟨'h', ['t', 't', 'p'], rfl, by decide⟩
    · exact ⟨'h', ['t', 't', 'p', 's'], rfl, by decide⟩
  unfold stripped
  rw [hscheme, cons_append, cons_append, dropWhile_cons, if_neg (by simp [hc]),
    ← cons_append, ← cons_append, rdropWhile_append hne]

theorem effectivePort_url (hport : target.port ≤ 65535) (path : Text) :
    effectivePort ⟨target.scheme, authority target.hostname target.port target.scheme, path, [], []⟩
      = some target.port := by
  have hports := port_parts target.host target.scheme path hport
  unfold effectivePort
  rw [hports]
  by_cases hdefault : target.port = defaultPort target.scheme
  · rw [if_pos hdefault]
    dsimp only
    rw [lower_web target.web, hdefault]
  · rw [if_neg hdefault]

theorem canonicalOf_url (hport : target.port ≤ 65535) (path : Text) (policy : CrawlPolicy) :
    canonicalOf ⟨target.scheme, authority target.hostname target.port target.scheme, path, [], []⟩
        target.origin policy
      = match normalisePath path with
        | none => .error .malformedUrl
        | some q =>
          if isDestructivePath q policy.blockedPathSegments then .error .destructivePath
          else if policy.maximumUrlLength < (target.origin.url q).length then .error .malformedUrl
          else .ok (target.origin.url q) := by
  have hhost := hostname_parts target.host target.port target.scheme path
  have hinfo := userinfo_parts target.host target.port target.scheme path
  have hscheme : (decide (target.scheme ≠ http) && decide (target.scheme ≠ https)) = false := by
    rcases target.web with h | h <;> simp [h]
  unfold canonicalOf
  simp only [lower_web target.web, hscheme, hinfo, hhost, effectivePort_url hport,
    lower_eq_self target.host.authorityCharacters]
  cases normalisePath path with
  | none => simp [ValidatedTarget.origin]
  | some q =>
    simp only [ValidatedTarget.origin, Origin.url, ne_eq, not_true_eq_false, Bool.false_eq_true,
      if_false, isEmpty_nil, Bool.not_true, Bool.false_and]
    rfl

theorem url_injective (target : ValidatedTarget) {path' : Text} (h : PlainPath path)
    (h' : PlainPath path') (heq : target.origin.url path = target.origin.url path') :
    path = path' := by
  rw [target.url_eq h, target.url_eq h'] at heq
  simpa using heq

theorem port_of_accepted (h : AcceptedLink parsed target.origin policy path url) :
    target.port ≤ 65535 := by
  obtain ⟨hostname, port, -, heffective, hsame⟩ := h.sameOrigin
  have hport : port = target.port := congrArg Origin.port hsame
  rw [← hport]
  unfold effectivePort at heffective
  split at heffective
  · cases heffective
  · next configured hconfigured =>
    cases heffective
    exact port_le hconfigured
  · cases heffective
    unfold defaultPort
    split <;> omega

theorem canonicalCandidate_url {base : Text} (hbase : OnOrigin base target.origin)
    (hpath : PlainPath path) (hlength : (target.origin.url path).length ≤ policy.maximumUrlLength) :
    canonicalCandidate (target.origin.url path) base target.origin policy
      = canonicalOf ⟨target.scheme, authority target.hostname target.port target.scheme,
          rejoined target.scheme (path.rdropWhile isSpace), [], []⟩ target.origin policy := by
  have hdropped := plainPath_rdropWhile hpath
  have hjoined := plainPath_rejoined (usesParams_web target.web) hdropped
  have hshort : (target.origin.url (path.rdropWhile isSpace)).length ≤ policy.maximumUrlLength := by
    refine le_trans ?_ hlength
    have := (List.rdropWhile_prefix isSpace path).length_le
    rw [target.url_eq hpath, target.url_eq hdropped]
    simp only [length_append]
    omega
  have hfront : ∃ c rest, target.origin.url (path.rdropWhile isSpace) = c :: rest ∧ c ≠ '#' := by
    rw [target.url_eq hdropped]
    rcases target.web with h | h <;> rw [h]
    · exact ⟨'h', _, rfl, by decide⟩
    · exact ⟨'h', _, rfl, by decide⟩
  obtain ⟨c, rest, hurl, hc⟩ := hfront
  unfold canonicalCandidate
  dsimp only
  rw [stripped_url target hpath, if_neg (by rw [hurl]; simp),
    if_neg (by rw [target.url_visible hdropped]; simpa using hshort),
    if_neg (by rw [hurl]; simpa using hc), urljoin_url hbase hdropped, Option.bind_some,
    target.urlsplit_url hjoined]

/-! ## Fixed points -/

/--
**An accepted URL is its own canonical form exactly if the path it comes from is settled.**

Otherwise another pass strips white space or an empty parameter from its end, or makes three slashes
of two, and one of three.
-/
theorem canonical_again_iff {target : ValidatedTarget} {policy : CrawlPolicy}
    {rawHref baseUrl url again : Text} {parsed : SplitResult}
    (h : canonicalCandidate rawHref baseUrl target.origin policy = .ok url)
    (hparsed : linkParts rawHref baseUrl = some parsed) (hagain : OnOrigin again target.origin) :
    canonicalCandidate url again target.origin policy = .ok url ↔ Settled parsed.path := by
  obtain ⟨parsed', path, hparsed', haccepted⟩ := canonicalCandidate_accepted h
  rw [hparsed, Option.some.injEq] at hparsed'
  subst hparsed'
  have hscheme := usesParams_web target.web
  have hpath := haccepted.plain
  rw [← normalisePath_again haccepted.normal haccepted.rooted hscheme, haccepted.url_eq,
    canonicalCandidate_url hagain hpath (haccepted.url_eq ▸ haccepted.length),
    canonicalOf_url (port_of_accepted haccepted)]
  have hjoined := plainPath_rejoined hscheme (plainPath_rdropWhile hpath)
  constructor
  · intro hfixed
    split at hfixed
    · cases hfixed
    next q hq =>
    split at hfixed
    · cases hfixed
    split at hfixed
    · cases hfixed
    have hplain : PlainPath q := by
      refine normalisePath_plain hq ?_
      intro c hc
      have := all_eq_true.mp hjoined.2 c hc
      simp only [isPlain, Bool.and_eq_true, decide_eq_true_eq] at this
      exact this.1
    rw [hq, url_injective target hplain hpath (Except.ok.inj hfixed)]
  · intro hnormal
    have hlength := haccepted.length
    rw [haccepted.url_eq] at hlength
    rw [hnormal]
    dsimp only
    rw [if_neg (by rw [haccepted.harmless]; simp), if_neg (Nat.not_lt.mpr hlength)]

omit [StandardLibrary] in
/-- A link to a page in a directory. -/
theorem canonical_again_page :
    letI := sampleLibrary
    canonicalCandidate "https://h/a/b".toList "https://h/".toList sampleTarget.origin samplePolicy
      = .ok "https://h/a/b".toList := by
  let _ := sampleLibrary
  have hcandidate : canonicalCandidate "./a//b#c".toList "https://h/".toList sampleTarget.origin
      samplePolicy = .ok "https://h/a/b".toList := by decide
  have hparsed : linkParts "./a//b#c".toList "https://h/".toList
      = some ⟨https, "h".toList, "/a/b".toList, [], "c".toList⟩ := by decide
  have hbase : OnOrigin "https://h/".toList sampleTarget.origin :=
    ⟨⟨https, "h".toList, "/".toList, [], []⟩, by decide, by decide, by decide,
      by decide⟩
  refine (canonical_again_iff hcandidate hparsed hbase).mpr ⟨by decide, ?_, ?_⟩
  · intro _ last hlast
    cases hlast
    decide
  · intro _ last hlast
    cases hlast
    rintro ⟨name, hname, -⟩
    have hends := congrArg getLast? hname
    rw [getLast?_concat] at hends
    exact absurd hends (by decide)

omit [StandardLibrary] in
/-- A semicolon that a dot segment has covered: the page is met again under another URL. -/
theorem semicolon_moves :
    letI := sampleLibrary
    canonicalCandidate "https://h/a;/.".toList "https://h/".toList sampleTarget.origin samplePolicy
        = .ok "https://h/a;".toList ∧
      canonicalCandidate "https://h/a;".toList "https://h/".toList sampleTarget.origin samplePolicy
        = .ok "https://h/a".toList := by
  let _ := sampleLibrary
  exact ⟨by decide, by decide⟩

end WebGuard
