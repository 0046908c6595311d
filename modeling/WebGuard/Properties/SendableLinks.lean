import WebGuard.Properties.CanonicalUrls
import WebGuard.Properties.SafeResponses

/-!
# Links that can be requested

A link that is accepted may have characters that are not ASCII in its path. `http.client` raises a
`UnicodeEncodeError` for them, which `fetch_once` does not catch.
-/

namespace WebGuard

namespace SafeHttp

open PyJson UrlParse StandardLibrary NetworkLibrary HttpLibrary Atomic List

variable [StandardLibrary]

/-! ## Request paths -/

def targetForUrl (rootTarget : ValidatedTarget) (resolvedAddresses : List Text) (url : Text) :
    PyTarget where
  originalUrl := codePoints url
  normalisedUrl := codePoints url
  scheme := rootTarget.scheme
  hostname := rootTarget.hostname
  port := rootTarget.port
  resolvedAddresses := resolvedAddresses

theorem urlPath_page {url : Text} {parsed : SplitResult} (h : urlsplit url = some parsed)
    (hscheme : parsed.scheme ≠ []) (hnetloc : parsed.netloc ≠ []) :
    urlPath (codePoints url) parsed = codePoints parsed.path := by
  have hsplit : urlsplit (characters (codePoints url)) = some parsed := by
    rw [characters_codePoints, h]
  rw [← (characters_urlPath hsplit hscheme hnetloc).1, codePoints_characters]
  intro n hn
  have hmem : n ∈ codePoints url := by
    unfold urlPath at hn
    have htaken := (takeWhile_sublist _).subset hn
    have hvisible := mem_of_mem_drop htaken
    exact (dropWhile_sublist _).subset (mem_filter.mp hvisible).1
  obtain ⟨c, -, rfl⟩ := mem_map.mp hmem
  exact ⟨c, rfl⟩

theorem requestPath_page {target : ValidatedTarget} (hport : target.port ≤ 65535) {path : Text}
    (hpath : PlainPath path) (resolvedAddresses : List Text) :
    requestPath (targetForUrl target resolvedAddresses (target.origin.url path))
      = .ok (codePoints path) := by
  have hparts := target.urlsplit_url hpath
  have hports := port_parts target.host target.scheme path hport
  have hhost := hostname_parts target.host target.port target.scheme path
  have hscheme : target.scheme ≠ [] := by
    rcases target.web with h | h <;> rw [h] <;> nofun
  have hnetloc := netloc_ne_nil hhost
  have hdefault := getD_defaultPort target.port target.scheme
  have hne : (codePoints path).isEmpty = false := by
    have hhead := hpath.1
    cases path with
    | nil => cases hhead
    | cons c rest => rfl
  unfold requestPath targetForUrl
  dsimp only
  rw [characters_codePoints, hparts]
  dsimp only
  rw [hports, hhost, urlPath_page hparts hscheme hnetloc]
  dsimp only
  rw [hdefault]
  simp [require, orRoot, hne, bind, Except.bind, pure, Except.pure]

/-! ## Requests -/

omit [StandardLibrary] in
theorem isIllegalHeaderValue_of_visible {value : Text} (h : ∀ c ∈ value, 32 < c.toNat) :
    isIllegalHeaderValue value = false := by
  induction value with
  | nil => rfl
  | cons c rest ih =>
    have hc := h c mem_cons_self
    have hnewline : c ≠ '\n' := by
      rintro rfl
      exact absurd hc (by decide)
    have hreturn : c ≠ '\r' := by
      rintro rfl
      exact absurd hc (by decide)
    rw [isIllegalHeaderValue, ih fun d hd => h d (mem_cons_of_mem c hd)]
    simp [hnewline, hreturn]

theorem putheader_host (target : ValidatedTarget) :
    putheader "Host".toList (hostHeader target.hostname target.port target.scheme) = .ok () := by
  have hchars : ∀ c ∈ authority target.hostname target.port target.scheme,
      45 ≤ c.toNat ∧ c.toNat < 127 := by
    intro c hc
    have hrange := range_of_isAuthorityCharacter
      (authority_characters target.host target.port target.scheme c hc)
    exact ⟨hrange.1, hrange.2.1⟩
  have hlatin : (authority target.hostname target.port target.scheme).all (·.toNat < 256) = true := by
    rw [all_eq_true]
    intro c hc
    have := (hchars c hc).2
    simp only [decide_eq_true_eq]
    omega
  have hlegal := isIllegalHeaderValue_of_visible fun c hc => by
    have := (hchars c hc).1
    omega
  unfold putheader hostHeader
  rw [formatNetloc_eq target.host, hlatin, hlegal]
  decide

/-- A header field that is sent as it is. -/
def LegalHeaders [NetworkLibrary] (extraHeaders : List (Text × Text)) : Prop :=
  ∀ field ∈ extraHeaders, demandHeader field.1 = .ok () ∧ putheader field.1 field.2 = .ok ()

section

variable [NetworkLibrary] {extraHeaders : List (Text × Text)}

theorem forM_demandHeader (h : LegalHeaders extraHeaders) :
    extraHeaders.forM (fun (name, _) => demandHeader name) = .ok () :=
  forM_ok_iff.mpr fun field hfield => (h field hfield).1

theorem forM_putheader (h : LegalHeaders extraHeaders) :
    extraHeaders.forM (fun (name, value) => do
      demandHeader name
      raising (putheader name value)) = .ok () := by
  rw [forM_ok_iff]
  intro field hfield
  obtain ⟨hdemand, hput⟩ := h field hfield
  exact bind_ok_iff.mpr ⟨(), hdemand, raising_eq_ok.mpr hput⟩

omit [StandardLibrary] [NetworkLibrary] in
theorem putrequest_get {path : Text} (hpath : PlainPath path) :
    putrequest "GET".toList (codePoints path)
      = if path.all (·.toNat < 128) then .ok () else .error (.other "UnicodeEncodeError") := by
  have hne : (codePoints path).isEmpty = false := by
    have hhead := hpath.1
    cases path with
    | nil => cases hhead
    | cons c rest => rfl
  have hvisible : ((codePoints path).any fun n => n ≤ 32 || n = 127) = false := by
    rw [any_eq_false]
    intro n hn
    obtain ⟨c, hc, rfl⟩ := mem_map.mp hn
    have hplain := all_eq_true.mp hpath.2 c hc
    rw [isPlain, Bool.and_eq_true] at hplain
    simpa [isControlOrSpace] using hplain.2
  have hascii : (codePoints path).all (· < 128) = path.all (·.toNat < 128) := all_map ..
  have hmethod : "GET".toList.any (·.toNat < 32) = false := by decide
  have hletters : "GET".toList.all (·.toNat < 128) = true := by decide
  unfold putrequest
  dsimp only
  rw [hne, if_neg Bool.false_ne_true, hvisible, hmethod, hletters, hascii]
  cases path.all (·.toNat < 128) <;> rfl

theorem writeRequest_page {target : ValidatedTarget} {resolvedAddresses : List Text}
    {url path : Text}
    (hpath : PlainPath path) (h : LegalHeaders extraHeaders) :
    writeRequest (targetForUrl target resolvedAddresses url) "GET".toList (codePoints path) [] []
        extraHeaders
      = if path.all (·.toNat < 128) then .ok ()
        else .error (.client (.other "UnicodeEncodeError")) := by
  unfold writeRequest
  rw [putrequest_get hpath]
  by_cases hascii : path.all (·.toNat < 128) = true
  · rw [if_pos hascii, if_pos hascii]
    have hhost := putheader_host target
    simp only [bind_ok_iff, raising_eq_ok]
    exact ⟨(), trivial, (), hhost, (), by decide, (), by decide, (), by decide, (), rfl, (),
      forM_putheader h, by decide⟩
  · rw [if_neg hascii, if_neg hascii]
    rfl

end

/-! ## Links -/

section

omit [StandardLibrary]

/-- The components of a path that are left of it, without the white space that is stripped. -/
def sentComponents (path : Text) : Text :=
  if path.getLast? = some '/' then join '/' (resolved path)
  else (join '/' (resolved path)).rdropWhile isSpace

/-- What is left of a path is ASCII. -/
def Sendable (path : Text) : Prop := ∀ c ∈ sentComponents path, c.toNat < 128

theorem rdropWhile_slashes (n : Nat) (t : Text) :
    (replicate n '/' ++ t).rdropWhile isSpace = replicate n '/' ++ t.rdropWhile isSpace := by
  have hslash : isSpace '/' = false := by decide
  induction t using reverseRecOn with
  | nil =>
    rw [append_nil, rdropWhile_nil, append_nil]
    cases n with
    | zero => rfl
    | succ n => rw [replicate_succ', rdropWhile_concat_neg _ _ _ (by simp [hslash])]
  | append_singleton t c ih =>
    rw [← append_assoc, rdropWhile_concat, rdropWhile_concat, ih]
    split
    · rfl
    · rw [append_assoc]

theorem ascii_normalisePath {path p : Text} (h : normalisePath path = some p)
    (hroot : path = [] ∨ path.head? = some '/') :
    (p.rdropWhile isSpace).all (·.toNat < 128) = true ↔ Sendable path := by
  obtain ⟨-, -, -, rfl⟩ := exists_normalPath h hroot
  generalize (if path = [] then 1 else initialSlashes path) = slashes
  have hslashes : (replicate slashes '/').all (·.toNat < 128) = true := by
    rw [all_eq_true]
    intro c hc
    rw [(mem_replicate.mp hc).2]
    decide
  unfold Sendable sentComponents rootedPath
  rw [append_assoc, rdropWhile_slashes, all_append, hslashes, Bool.true_and,
    all_eq_true]
  simp only [decide_eq_true_eq]
  by_cases hlast : path.getLast? = some '/'
  · rw [if_pos hlast]
    by_cases hempty : initialSlashes path = 1 ∧ resolved path = []
    · simp [hlast, hempty.1, hempty.2, join, rdropWhile]
    · have htrailing : (decide (path.getLast? = some '/') &&
          !(decide (initialSlashes path = 1) && (resolved path).isEmpty)) = true := by
        simpa [hlast, ← not_and_or] using hempty
      rw [htrailing, if_pos rfl, rdropWhile_concat_neg _ _ _ (by decide)]
      simp only [mem_append, mem_singleton, or_imp, forall_and, forall_eq]
      exact and_iff_left (by decide)
  · rw [if_neg hlast]
    have htrailing : (decide (path.getLast? = some '/') &&
        !(decide (initialSlashes path = 1) && (resolved path).isEmpty)) = false := by
      simp [hlast]
    rw [htrailing, if_neg Bool.false_ne_true, append_nil]

end

section

variable [NetworkLibrary] [HttpLibrary]

omit [StandardLibrary] [NetworkLibrary] in
theorem upper_get : upper "GET".toList = "GET".toList := by
  rw [upper_ascii "GET".toList (forall_iff_forall_mem.mp (by decide))]
  decide

/-- A connection that is refused. -/
def refusing (Tls : Type) : Connection Tls where
  make := .ok ()
  endheaders := .error ⟨.refused, "ConnectionRefusedError"⟩
  tls := .error (.tlsMetadataUnavailable, "The verified TLS socket metadata is unavailable.")
  getresponse := .error ⟨.httpException, "CannotSendRequest"⟩
  elapsedMilliseconds := 0

omit [NetworkLibrary] in
theorem not_fails_refusing {Tls : Type} {scheme method : Text} {policy : FetchPolicy}
    {allowRedirectStatus : Bool} {exceptionName : String} :
    ¬ Fails (refusing Tls) scheme method policy allowRedirectStatus (.other exceptionName) := by
  rintro ⟨-, ⟨failure, h, -⟩ | ⟨response, hanswers, -⟩⟩
  · cases h
  · cases hanswers.response

/--
**An accepted link is fetched in a controlled way exactly if what is left of its path is ASCII.**

This is so for every network whose connections end with a response that can be read, an exception of
the transport or a `SafeRequestError`. A call that is refused before a request is written is
controlled in any case.
-/
theorem accepted_link_sendable_iff {target : ValidatedTarget} {policy : CrawlPolicy}
    {rawHref baseUrl url : Text} {parsed : SplitResult}
    (h : canonicalCandidate rawHref baseUrl target.origin policy = .ok url)
    (hparsed : linkParts rawHref baseUrl = some parsed) {extraHeaders : List (Text × Text)}
    (hheaders : LegalHeaders extraHeaders) (Tls : Type) (fetchPolicy : FetchPolicy)
    (resolvedAddresses : List Text) :
    (∀ network : Text → Connection Tls,
      (∀ address exceptionName, ¬ Fails (network address) target.scheme "GET".toList fetchPolicy false
        (.other exceptionName)) →
      Closed (fun response => (response.body.length : Int) ≤ fetchPolicy.maximumBodyBytes)
        (fetchOnce network (targetForUrl target resolvedAddresses (stripped url)) "GET".toList
          fetchPolicy [] [] extraHeaders false)) ↔
      (Permitted fetchPolicy "GET".toList [] → (canonicalAddresses resolvedAddresses).isOk = true →
        Sendable parsed.path) := by
  obtain ⟨parsed', path, hparsed', haccepted⟩ := canonicalCandidate_accepted h
  rw [hparsed, Option.some.injEq] at hparsed'
  subst hparsed'
  have hplain := plainPath_rdropWhile haccepted.plain
  have hpath := requestPath_page (port_of_accepted haccepted) hplain resolvedAddresses
  rw [← stripped_url target haccepted.plain, ← haccepted.url_eq] at hpath
  rw [← ascii_normalisePath haccepted.normal haccepted.rooted]
  have hwrite : writeRequest (targetForUrl target resolvedAddresses (stripped url))
      (upper "GET".toList) (codePoints (path.rdropWhile isSpace)) [] [] extraHeaders
        = if (path.rdropWhile isSpace).all (·.toNat < 128) then .ok ()
          else .error (.client (.other "UnicodeEncodeError")) := by
    rw [upper_get]
    exact writeRequest_page hplain hheaders
  constructor
  · intro hall hpermitted haddresses
    by_contra hascii
    rw [if_neg hascii] at hwrite
    have hclosed := hall (fun _ => refusing Tls) fun _ _ => not_fails_refusing
    rw [fetchOnce_closed hpath (forM_demandHeader hheaders), upper_get] at hclosed
    obtain ⟨addresses, haddresses⟩ := exists_ok_of_isOk haddresses
    obtain ⟨first, rest, rfl⟩ := exists_cons_of_ne_nil (canonicalAddresses_ne_nil haddresses)
    rw [upper_get] at hwrite
    have hraised : ∀ address, performRequest (refusing Tls)
        (targetForUrl target resolvedAddresses (stripped url)) address "GET".toList
        (codePoints (path.rdropWhile isSpace)) fetchPolicy [] [] extraHeaders false
          = .error (.client (.other "UnicodeEncodeError")) :=
      fun address => performRequest_of_unwritten rfl target.web hwrite
    have hfirst := hclosed hpermitted _ haddresses
    rw [tryAddresses, hraised] at hfirst
    exact hfirst
  · intro hsendable network hsound
    rw [fetchOnce_closed hpath (forM_demandHeader hheaders), upper_get]
    intro hpermitted addresses haddresses
    have hok : (canonicalAddresses resolvedAddresses).isOk = true := by
      have haddresses : canonicalAddresses resolvedAddresses = .ok addresses := haddresses
      rw [haddresses]
      rfl
    rw [if_pos (hsendable hpermitted hok), upper_get] at hwrite
    have hlimit := bodyLimit_of_validatePolicy hpermitted.limits
    rw [tryAddresses_closed_iff fun address response => performRequest_ok hlimit]
    intro before address after heq hbefore exceptionName hescape
    exact hsound address exceptionName ((performRequest_client hwrite).mp hescape)

section

omit [StandardLibrary] [NetworkLibrary] [HttpLibrary]

def pageTarget : @ValidatedTarget addressLibrary :=
  letI := addressLibrary
  { normalisedUrl := "https://h/".toList
    scheme := https
    hostname := ['h']
    port := 443
    web := https_web
    host := .named (by decide) (all_eq_true.mp (by decide)) (by rintro a ⟨⟩) }

/-- A link to a page with an ASCII name. -/
theorem accepted_link_sendable_page :
    letI := addressLibrary
    letI := publicNetwork
    letI := asciiUpper
    Closed (fun response => (response.body.length : Int) ≤ FetchPolicy.usual.maximumBodyBytes)
      (fetchOnce (fun _ => refusing Unit)
        (targetForUrl pageTarget ["8.8.8.8".toList] (stripped "https://h/a".toList))
        "GET".toList FetchPolicy.usual [] [] [] false) := by
  let _ := addressLibrary
  let _ := publicNetwork
  let _ := asciiUpper
  have haccepted : canonicalCandidate "/a".toList "https://h/".toList pageTarget.origin samplePolicy
      = .ok "https://h/a".toList := by decide
  have hparsed : linkParts "/a".toList "https://h/".toList
      = some ⟨https, "h".toList, "/a".toList, [], []⟩ := by decide
  have hheaders : LegalHeaders [] := by simp [LegalHeaders]
  refine (accepted_link_sendable_iff haccepted hparsed hheaders Unit FetchPolicy.usual
    ["8.8.8.8".toList]).mpr ?_ (fun _ => refusing Unit) fun _ _ => not_fails_refusing
  intro _ _ c hc
  have hsent : sentComponents "/a".toList = ['a'] := by decide
  rw [hsent, mem_singleton] at hc
  rw [hc]
  decide

/-- **A link to "/é"** is accepted, and ends the crawl. -/
theorem accented_link_escapes :
    letI := addressLibrary
    letI := publicNetwork
    letI := asciiUpper
    canonicalCandidate "/é".toList "https://h/".toList pageTarget.origin samplePolicy
        = .ok "https://h/é".toList ∧
      fetchOnce (fun _ => answeringWith contentLengthName [50] [104, 105])
        (targetForUrl pageTarget ["8.8.8.8".toList] (stripped "https://h/é".toList)) "GET".toList
        FetchPolicy.usual [] [] [] false = .error (.client (.other "UnicodeEncodeError")) := by
  let _ := addressLibrary
  let _ := publicNetwork
  let _ := asciiUpper
  exact ⟨by decide, by decide⟩

end

end

end SafeHttp

end WebGuard
