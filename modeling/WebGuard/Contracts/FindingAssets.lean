import WebGuard.Contracts.FindingDocuments
import WebGuard.Contracts.ScanResults
import WebGuard.Crawler.Targets

/-!
# The asset of a finding as a target

A finding that is read on its own is put into a report whose target is its asset with a slash
behind it. An asset that passes its own check is such a target, and its origin is the asset again
(`canonicalTarget_asset`, `targetOrigin_asset`), unless there is a backslash in it.
-/

namespace WebGuard.FindingContract

open PyJson UrlParse StandardLibrary Atomic ScanReports Option SplitResult
open List hiding partition

/-- White space, and the ASCII characters that are not letters. -/
def isUncased (n : Nat) : Bool :=
  isSpace (asChar n) || (n < 128 && !(65 ≤ n && n ≤ 90) && !(97 ≤ n && n ≤ 122))

/-- What is documented of `str.lower` on the characters of a host. -/
structure LowerLaws [LowerTable] : Prop where
  /-- Characters without a case stay, and no others come in. -/
  lower_uncased : ∀ text, (LowerTable.lower text).filter isUncased = text.filter isUncased
  /-- The beginning of a text in lower case is in lower case. -/
  lower_append : ∀ a b, LowerTable.lower (a ++ b) = a ++ b → LowerTable.lower a = a

variable {n port : Nat} {text netloc : PyText} {r : SplitResult} {url : Text}

section

variable [LowerTable]

/-- Lowering a text neither adds nor removes a character without a case. -/
theorem mem_lower (laws : LowerLaws) (hn : isUncased n = true) :
    n ∈ LowerTable.lower text ↔ n ∈ text := by
  have h : n ∈ (LowerTable.lower text).filter isUncased ↔ n ∈ text.filter isUncased := by
    rw [laws.lower_uncased]
  simpa [mem_filter, hn] using h

omit [LowerTable] in
theorem dropWhile_ne_of_mem (h : n ∈ text) :
    text.dropWhile (· ≠ n) = n :: (text.dropWhile (· ≠ n)).drop 1 := by
  induction text with
  | nil => cases h
  | cons m rest ih =>
    by_cases hm : m = n
    · simp [hm]
    · have hrest : n ∈ rest := (mem_cons.mp h).resolve_left fun h => hm h.symm
      rw [dropWhile_cons_of_pos (by simpa using hm)]
      exact ih hrest

variable {host : PyText}

theorem hostnameOf_of_zone (h : 37 ∈ host) :
    hostnameOf host = LowerTable.lower (host.takeWhile (· ≠ 37)) ++ host.dropWhile (· ≠ 37) := by
  rw [dropWhile_ne_of_mem h, hostnameOf, if_pos (by simpa using h)]

theorem hostnameOf_of_not_zone (h : 37 ∉ host) :
    hostnameOf host = LowerTable.lower host := by
  rw [hostnameOf, if_neg (by simpa using h)]

/-- The characters without a case are those of the host, in their order. -/
theorem filter_hostnameOf (laws : LowerLaws) (host : PyText) :
    (hostnameOf host).filter isUncased = host.filter isUncased := by
  by_cases hzone : 37 ∈ host
  · rw [hostnameOf_of_zone hzone, filter_append, laws.lower_uncased, ← filter_append,
      takeWhile_append_dropWhile]
  · rw [hostnameOf_of_not_zone hzone, laws.lower_uncased]

theorem mem_hostnameOf (laws : LowerLaws) (hn : isUncased n = true) :
    n ∈ hostnameOf host ↔ n ∈ host := by
  have h : n ∈ (hostnameOf host).filter isUncased ↔ n ∈ host.filter isUncased := by
    rw [filter_hostnameOf laws]
  simpa [mem_filter, hn] using h

/-- The host of an asset, from the one in its network location. -/
def storedHost (host : PyText) : PyText := (LowerTable.lower (hostnameOf host)).rdropWhile (· = 46)

theorem assetHost_eq (asset : PyText) (parsed : SplitResult) :
    assetHost asset parsed = storedHost (hostOf (netlocOf asset parsed)) := rfl

/-- What has no case and is in the stored host was written in the host. -/
theorem mem_of_mem_storedHost (laws : LowerLaws) (hn : isUncased n = true)
    (h : n ∈ storedHost host) : n ∈ host :=
  (mem_hostnameOf laws hn).mp ((mem_lower laws hn).mp ((List.rdropWhile_prefix _ _).subset h))

/-- A stored host is read as it is. -/
theorem hostnameOf_of_stored (laws : LowerLaws) (cases : ∀ text : PyText,
      LowerTable.lower (LowerTable.lower text) = LowerTable.lower text)
    (h : storedHost host = host) : hostnameOf host = host := by
  obtain ⟨dots, hdots, hall⟩ : ∃ dots, storedHost host ++ dots = LowerTable.lower (hostnameOf host)
      ∧ ∀ n ∈ dots, n = 46 :=
    ⟨_, rdropWhile_append_rtakeWhile, fun n hn => by simpa using mem_rtakeWhile_imp hn⟩
  rw [h] at hdots
  have hnone : dots = [] := by
    have hfilter := laws.lower_uncased (hostnameOf host)
    rw [← hdots, filter_hostnameOf laws, filter_append] at hfilter
    have hdotless : dots.filter isUncased = [] := by simpa using hfilter
    rw [filter_eq_nil_iff] at hdotless
    refine eq_nil_iff_forall_not_mem.mpr fun n hn => hdotless n hn ?_
    rw [hall n hn]
    decide
  rw [hnone, append_nil] at hdots
  have hfixed : LowerTable.lower host = host := by
    conv_lhs => rw [hdots]
    rw [cases, ← hdots]
  by_cases hzone : 37 ∈ host
  · have hsplit : host.takeWhile (· ≠ 37) ++ host.dropWhile (· ≠ 37) = host :=
      takeWhile_append_dropWhile
    rw [hostnameOf_of_zone hzone, laws.lower_append _ (host.dropWhile (· ≠ 37)), hsplit]
    rw [hsplit, hfixed]
  · rw [hostnameOf_of_not_zone hzone, hfixed]

end

/-! ## Network locations -/

section

variable [StandardLibrary]

omit [StandardLibrary] in
theorem isAuthorityEnd_asChar : isAuthorityEnd (asChar n) = false ↔ n ≠ 47 ∧ n ≠ 63 ∧ n ≠ 35 := by
  simp [isAuthorityEnd, and_assoc]

/-- What `urlsplit` has checked of a network location. -/
theorem netloc_of_urlsplit (h : urlsplit url = some r) :
    (∀ c ∈ r.netloc, isAuthorityEnd c = false) ∧ checkBrackets r.netloc = true ∧
      checkNetloc r.netloc = true := by
  unfold urlsplit urlsplitWith at h
  simp only [ite_none_right_eq_some, some.injEq, Bool.and_eq_true] at h
  obtain ⟨⟨hbrackets, hnormal⟩, rfl⟩ := h
  refine ⟨fun c hc => ?_, hbrackets, hnormal⟩
  unfold splitNetloc at hc
  split at hc
  · simpa using mem_takeWhile_imp hc
  · cases hc

/-- The network location in code points is the one in characters. -/
theorem characters_netlocOf {url : PyText} (h : urlsplit (characters url) = some r)
    (hscheme : r.scheme ≠ []) (hnetloc : r.netloc ≠ []) :
    characters (netlocOf url r) = r.netloc := by
  obtain ⟨before, rest, hvisible, hlength, -⟩ := parts_of_urlsplit h hscheme hnetloc
  have hfront : (before ++ [':', '/', '/']).length = r.scheme.length + 3 := by simp [hlength]
  have htext : characters (visibleText url) = (before ++ [':', '/', '/']) ++ (r.netloc ++ rest) := by
    rw [characters_visibleText, hvisible]
    simp
  calc characters (netlocOf url r)
      = ((characters (visibleText url)).drop (r.scheme.length + 3)).take r.netloc.length := by
        unfold characters
        rw [← map_drop, ← map_take]
        rfl
    _ = r.netloc := by rw [htext, ← hfront, drop_left, take_left]

end

/-- What a canonical asset has behind its scheme. -/
def locatedText (scheme : Text) (host : PyText) (port : Nat) : PyText :=
  (if host.contains 58 then 91 :: host ++ [93] else host) ++ codePoints (portTail port scheme)

theorem assetText_eq (scheme : Text) (host : PyText) (port : Nat) :
    assetText scheme host port
      = codePoints (scheme ++ "://".toList) ++ locatedText scheme host port := by
  unfold assetText locatedText portTail
  by_cases hport : port = defaultPort scheme <;> simp [codePoints, hport]

variable {scheme : Text}

theorem mem_portTail (h : n ∈ codePoints (portTail port scheme)) :
    n = 58 ∨ (48 ≤ n ∧ n ≤ 57) := by
  obtain ⟨c, hc, rfl⟩ := mem_map.mp h
  unfold portTail at hc
  split at hc
  · cases hc
  · rcases mem_cons.mp hc with rfl | hc
    · exact Or.inl rfl
    · have hdigit := all_eq_true.mp (isAsciiDigit_toDigits port) c hc
      simp only [isAsciiDigit, Bool.and_eq_true, decide_eq_true_eq] at hdigit
      exact Or.inr ⟨hdigit.1, hdigit.2⟩

/-- What a location is rendered with besides its host. -/
theorem mem_locatedText {host : PyText} (h : n ∈ locatedText scheme host port) :
    n ∈ host ∨ n = 91 ∨ n = 93 ∨ n = 58 ∨ (48 ≤ n ∧ n ≤ 57) := by
  unfold locatedText at h
  rcases mem_append.mp h with h | h
  · split at h
    · simp only [cons_append, mem_cons, mem_append, not_mem_nil, or_false] at h
      tauto
    · exact Or.inl h
  · have := mem_portTail h
    tauto

theorem mem_of_mem_hostOf (h : n ∈ hostOf netloc) : n ∈ netloc := by
  unfold hostOf at h
  split at h
  · exact (dropWhile_suffix _).subset
      (mem_of_mem_drop ((List.takeWhile_prefix _).subset h))
  · exact (List.takeWhile_prefix _).subset h

/-- Brackets come together. -/
theorem closed_of_checkBrackets [StandardLibrary] (h : checkBrackets (characters netloc) = true) :
    91 ∈ netloc ↔ 93 ∈ netloc := by
  have hopen : '[' ∈ characters netloc ↔ '['.toNat ∈ netloc := mem_characters_iff (by decide)
  have hclose : ']' ∈ characters netloc ↔ ']'.toNat ∈ netloc := mem_characters_iff (by decide)
  have h91 : '['.toNat = 91 := rfl
  have h93 : ']'.toNat = 93 := rfl
  rw [h91] at hopen
  rw [h93] at hclose
  rw [← hopen, ← hclose]
  unfold checkBrackets at h
  split at h
  · next hmem =>
    simp only [Bool.and_eq_true] at h
    exact ⟨fun _ => by simpa using h.1, fun _ => by simpa using hmem⟩
  · next hmem => exact ⟨fun hin => absurd (by simpa using hin) hmem, fun hin => by simp [hin] at h⟩

theorem not_mem_hostOf (h : 91 ∈ netloc ↔ 93 ∈ netloc) : 93 ∉ hostOf netloc := by
  intro hmem
  have hclose := h.mpr (mem_of_mem_hostOf hmem)
  rw [hostOf, if_pos (by simpa using hclose)] at hmem
  simpa using mem_takeWhile_imp hmem

/-- The host of a rendered location is the one it was rendered from. -/
theorem hostOf_locatedText {host : PyText} (hhost : 93 ∉ host)
    (hbrackets : 91 ∈ locatedText scheme host port ↔ 93 ∈ locatedText scheme host port) :
    hostOf (locatedText scheme host port) = host := by
  unfold locatedText at hbrackets ⊢
  by_cases hcolon : 58 ∈ host
  · have htake : ∀ n ∈ host, (!decide (n = 93)) = true := fun n hn => by
      simpa using fun h : n = 93 => hhost (h ▸ hn)
    rw [if_pos (by simpa using hcolon), hostOf, if_pos (by simp)]
    simp [takeWhile_append_of_pos htake]
  · rw [if_neg (by simpa using hcolon)] at hbrackets ⊢
    have hopen : 91 ∉ host ++ codePoints (portTail port scheme) := by
      intro hmem
      rcases mem_append.mp (hbrackets.mp hmem) with hin | hin
      · exact hhost hin
      · have := mem_portTail hin
        omega
    have htake : ∀ n ∈ host, decide (n ≠ 58) = true := fun n hn => by
      simpa using fun h : n = 58 => hcolon (h ▸ hn)
    rw [hostOf, if_neg (by simpa using hopen), takeWhile_append_of_pos htake]
    unfold portTail
    by_cases hport : port = defaultPort scheme <;> simp [codePoints, hport]

/-- A text that begins with a letter, and without tabs and line breaks, is seen whole. -/
theorem visibleText_of_kept (hhead : text.head? = some 104)
    (hkept : ∀ n ∈ text, n ≠ 9 ∧ n ≠ 10 ∧ n ≠ 13) : visibleText text = text := by
  obtain ⟨rest, rfl⟩ := head?_eq_some_iff.mp hhead
  unfold visibleText
  rw [dropWhile_cons_of_neg (by decide), filter_eq_self]
  exact fun n hn => by simpa [and_assoc] using hkept n hn

/-! ## Assets -/

section

variable [LowerTable] [StandardLibrary]

/-- What the check of an asset accepts, and what it stores. -/
theorem assetField_eq_ok {value stored : PyText} :
    assetField value = .ok stored ↔ ∃ parsed configured,
      Plain (stripText value) ∧ (stripText value).length ≤ 2048 ∧
      urlsplit (characters (stripText value)) = some parsed ∧
      (lower parsed.scheme = http ∨ lower parsed.scheme = https) ∧ parsed.hostname.isSome = true ∧
      parsed.userinfo = (none, none) ∧ parsed.query = [] ∧ parsed.fragment = [] ∧
      (parsed.path = [] ∨ parsed.path = ['/']) ∧ parsed.port = some configured ∧
      stored = assetText (lower parsed.scheme) (assetHost (stripText value) parsed)
        (portOr (lower parsed.scheme) configured) := by
  unfold assetField
  simp only [bind_ok_iff, boundedText_eq_ok]
  constructor
  · rintro ⟨text, ⟨rfl, hplain, hlength⟩, h⟩
    split at h
    · cases h
    next parsed hparsed =>
    obtain ⟨_, hcheck, h⟩ := bind_ok h
    simp only [require_eq_ok, Bool.and_eq_true, Bool.or_eq_true, decide_eq_true_eq,
      List.isEmpty_iff] at hcheck
    obtain ⟨⟨⟨⟨⟨hscheme, hhost⟩, hinfo⟩, hpath⟩, hquery⟩, hfragment⟩ := hcheck
    split at h
    · cases h
    next configured hport =>
    cases h
    exact ⟨parsed, configured, hplain, hlength, hparsed, hscheme, hhost, hinfo, hquery, hfragment,
      hpath, hport, rfl⟩
  · rintro ⟨parsed, configured, hplain, hlength, hparsed, hscheme, hhost, hinfo, hquery, hfragment,
      hpath, hport, rfl⟩
    refine ⟨_, ⟨rfl, hplain, hlength⟩, ?_⟩
    simp only [hparsed]
    refine bind_ok_iff.mpr ⟨(), require_eq_ok.mpr ?_, ?_⟩
    · simp [hscheme, hhost, hinfo, hquery, hfragment, hpath]
    · simp only [hport]
      rfl

omit [LowerTable] [StandardLibrary] in
/-- A text that does not begin with a space is its stripped text and spaces behind it. -/
theorem exists_spaces (h : text.head?.all (fun n => !isSpace (asChar n)) = true) :
    ∃ spaces, stripText text ++ spaces = text ∧ ∀ n ∈ spaces, isSpace (asChar n) = true := by
  have hhead : text.dropWhile (fun n => isSpace (asChar n)) = text := by
    cases text with
    | nil => rfl
    | cons n rest => rw [dropWhile_cons_of_neg (by simpa using h)]
  have hstrip : stripText text = text.rdropWhile fun n => isSpace (asChar n) := by
    unfold stripText rdropWhile
    rw [hhead]
  rw [hstrip]
  exact ⟨_, rdropWhile_append_rtakeWhile, fun n hn =>
    mem_rtakeWhile_imp (p := fun n => isSpace (asChar n)) hn⟩

omit [LowerTable] [StandardLibrary] in
theorem stripText_of_ends (hhead : text.head?.all (fun n => !isSpace (asChar n)) = true)
    (hlast : text.getLast?.all (fun n => !isSpace (asChar n)) = true) : stripText text = text := by
  obtain ⟨spaces, heq, hall⟩ := exists_spaces hhead
  rcases spaces.eq_nil_or_concat with rfl | ⟨front, last, rfl⟩
  · rwa [append_nil] at heq
  · have hspace := hall last (by simp)
    rw [← heq, concat_eq_append, ← append_assoc, getLast?_concat] at hlast
    simp [hspace] at hlast

/-- An asset that passes its own check, taken apart. -/
structure OwnAsset (asset : PyText) (scheme : Text) (host : PyText) (configured : Option Nat) :
    Prop where
  web : scheme = http ∨ scheme = https
  text : asset = assetText scheme host (portOr scheme configured)
  plain : Plain asset
  length : asset.length ≤ 2048
  stored : storedHost host = host
  kept : hostOf (locatedText scheme host (portOr scheme configured)) = host
  authority : ∀ c ∈ characters (locatedText scheme host (portOr scheme configured)),
    isAuthorityEnd c = false ∧ c ∉ ['\t', '\r', '\n']
  brackets : checkBrackets (characters (locatedText scheme host (portOr scheme configured))) = true
  normal : checkNetloc (characters (locatedText scheme host (portOr scheme configured))) = true
  parts : ∀ r : SplitResult,
    r.netloc = characters (locatedText scheme host (portOr scheme configured)) →
      r.hostname.isSome = true ∧ r.userinfo = (none, none) ∧ r.port = some configured

section

omit [LowerTable]

theorem lower_nil : lower [] = [] := lower_ascii [] (by simp)

theorem lower_web {scheme : Text} (hweb : scheme = http ∨ scheme = https) :
    lower scheme = scheme := by
  have hascii : ∀ c ∈ scheme, c.toNat < 128 := by
    intro c hc
    have hall : scheme.all (fun c => decide (c.toNat < 128)) = true := by
      rcases hweb with rfl | rfl <;> decide
    simpa using all_eq_true.mp hall c hc
  rw [lower_ascii scheme hascii]
  rcases hweb with rfl | rfl <;> decide

theorem nonempty_of_host (hweb : lower r.scheme = http ∨ lower r.scheme = https)
    (hhost : r.hostname.isSome = true) : r.scheme ≠ [] ∧ r.netloc ≠ [] := by
  constructor
  · intro hnil
    rw [hnil, lower_nil] at hweb
    rcases hweb with h | h <;> cases h
  · intro hnil
    have hinfo : r.hostinfo.1 = [] := by
      unfold hostinfo
      rw [hnil]
      rfl
    simp [hostname, hinfo] at hhost

theorem mem_netlocOf {url : PyText} (h : urlsplit (characters url) = some r)
    (hscheme : r.scheme ≠ []) (hnetloc : r.netloc ≠ []) (hn : n ∈ netlocOf url r) :
    n ∈ url ∧ (n ≠ 9 ∧ n ≠ 10 ∧ n ≠ 13) ∧ n ≠ 47 ∧ n ≠ 63 ∧ n ≠ 35 := by
  have hvisible : n ∈ visibleText url := mem_of_mem_drop ((List.take_prefix _ _).subset hn)
  have hchar : asChar n ∈ r.netloc := by
    rw [← characters_netlocOf h hscheme hnetloc]
    exact mem_map_of_mem hn
  have hend := (netloc_of_urlsplit h).1 _ hchar
  rw [isAuthorityEnd_asChar] at hend
  obtain ⟨hurl, hkept⟩ := mem_filter.mp hvisible
  simp only [Bool.and_eq_true, decide_eq_true_eq] at hkept
  exact ⟨(dropWhile_suffix _).subset hurl, ⟨hkept.1.1, hkept.1.2, hkept.2⟩, hend⟩

end

variable {scheme : Text}

/-- A rendered location has no delimiter of a URL in it. -/
theorem plain_located (laws : LowerLaws) {url : PyText} (h : urlsplit (characters url) = some r)
    (hscheme : r.scheme ≠ []) (hnetloc : r.netloc ≠ [])
    (hn : n ∈ locatedText scheme (storedHost (hostOf (netlocOf url r))) port) :
    (n ≠ 9 ∧ n ≠ 10 ∧ n ≠ 13) ∧ n ≠ 47 ∧ n ≠ 63 ∧ n ≠ 35 := by
  have huncased : n = 9 ∨ n = 10 ∨ n = 13 ∨ n = 47 ∨ n = 63 ∨ n = 35 → isUncased n = true := by
    rintro (rfl | rfl | rfl | rfl | rfl | rfl) <;> decide
  by_contra hnot
  have hcase : n = 9 ∨ n = 10 ∨ n = 13 ∨ n = 47 ∨ n = 63 ∨ n = 35 := by
    by_contra hnone
    simp only [not_or] at hnone
    tauto
  rcases mem_locatedText hn with hhost | hrest
  · have hmem := mem_of_mem_hostOf (mem_of_mem_storedHost laws (huncased hcase) hhost)
    exact hnot (mem_netlocOf h hscheme hnetloc hmem).2
  · omega

omit [LowerTable] [StandardLibrary] in
theorem eq_of_colon {before before' after after' : Text} (h : ':' ∉ before) (h' : ':' ∉ before')
    (heq : before ++ ':' :: after = before' ++ ':' :: after') :
    before = before' ∧ after = after' := by
  have hparts := congrArg (partition ':') heq
  rw [partition_append h, partition_append h'] at hparts
  exact ⟨congrArg Prod.fst hparts, congrArg (·.2.2) hparts⟩

/-- Spaces behind a rendered asset stand behind its network location. -/
theorem netlocOf_append (laws : LowerLaws) {spaces : PyText}
    (h : urlsplit (characters text) = some r) (hscheme : r.scheme ≠ []) (hnetloc : r.netloc ≠ [])
    (hvisible : visibleText text = text) (hcolon : ':' ∉ scheme)
    (heq : text ++ spaces = assetText scheme (storedHost (hostOf (netlocOf text r))) port) :
    netlocOf text r ++ spaces = locatedText scheme (storedHost (hostOf (netlocOf text r))) port := by
  have hplain : ∀ n ∈ locatedText scheme (storedHost (hostOf (netlocOf text r))) port,
      n ≠ 47 ∧ n ≠ 63 ∧ n ≠ 35 := fun n hn => (plain_located laws h hscheme hnetloc hn).2
  have hnetlocOf : netlocOf text r = (text.drop (r.scheme.length + 3)).take r.netloc.length := by
    conv_rhs => rw [← hvisible]
    rfl
  rw [assetText_eq] at heq
  generalize locatedText scheme (storedHost (hostOf (netlocOf text r))) port = located at *
  obtain ⟨before, rest, hbefore, hlength, hend, -, hnone⟩ := parts_of_urlsplit h hscheme hnetloc
  rw [← characters_visibleText, hvisible] at hbefore
  have hchars : characters text ++ characters spaces
      = scheme ++ ':' :: '/' :: '/' :: characters located := by
    have hmap := congrArg characters heq
    have happend : ∀ a b, characters (a ++ b) = characters a ++ characters b := fun a b =>
      map_append
    rw [happend, happend, characters_codePoints] at hmap
    simpa using hmap
  rw [hbefore] at hchars
  simp only [append_assoc, cons_append] at hchars
  obtain ⟨hscheme', htail⟩ := eq_of_colon hnone hcolon hchars
  simp only [cons.injEq, true_and] at htail
  -- the rest would begin with a delimiter, and there is none
  have hrest : rest = [] := by
    cases rest with
    | nil => rfl
    | cons c rest =>
      have hc : c ∈ characters located := by
        rw [← htail]
        simp
      obtain ⟨n, hn, rfl⟩ := mem_map.mp hc
      simp [isAuthorityEnd_asChar.mpr (hplain n hn)] at hend
  have htextLength : text.length = r.scheme.length + 3 + r.netloc.length := by
    have hlen := congrArg length hbefore
    rw [hrest, characters, length_map] at hlen
    simp only [length_append, length_cons, length_nil, hlength] at hlen
    omega
  have hfront : (codePoints (scheme ++ "://".toList)).length = r.scheme.length + 3 := by
    rw [codePoints, length_map, length_append, ← hscheme', hlength]
    rfl
  calc netlocOf text r ++ spaces
      = text.drop (r.scheme.length + 3) ++ spaces := by
        rw [hnetlocOf, take_of_length_le (by rw [length_drop]; omega)]
    _ = (text ++ spaces).drop (r.scheme.length + 3) := by
        rw [drop_append_of_le_length (by omega)]
    _ = located := by rw [heq, ← hfront, drop_left]

omit [StandardLibrary] in
/-- There are none: a rendered location ends with no space. -/
theorem spaces_eq_nil (laws : LowerLaws) {spaces : PyText} (hclosed : 91 ∈ netloc ↔ 93 ∈ netloc)
    (hspaces : ∀ n ∈ spaces, isSpace (asChar n) = true)
    (h : netloc ++ spaces = locatedText scheme (storedHost (hostOf netloc)) port) :
    spaces = [] := by
  have hhost : 93 ∉ storedHost (hostOf netloc) := fun hmem =>
    not_mem_hostOf hclosed (mem_of_mem_storedHost laws (by decide) hmem)
  by_contra hne
  have hspace := hspaces _ (getLast_mem hne)
  have hnotSpace : ∀ n : Nat, n = 93 ∨ n = 58 ∨ (48 ≤ n ∧ n ≤ 57) → isSpace (asChar n) = false := by
    rintro n (rfl | rfl | ⟨hlow, hhigh⟩)
    · decide
    · decide
    · interval_cases n <;> decide
  have hend : (locatedText scheme (storedHost (hostOf netloc)) port).getLast?
      = some (spaces.getLast hne) := by
    rw [← h, getLast?_append, getLast?_eq_some_getLast hne, some_or]
  have hport : codePoints (portTail port scheme) = [] := by
    by_contra hport
    rw [locatedText, getLast?_append, getLast?_eq_some_getLast hport, some_or,
      some.injEq] at hend
    have hlast := mem_portTail (getLast_mem hport)
    rw [hend] at hlast
    rw [hnotSpace _ (Or.inr hlast)] at hspace
    cases hspace
  rw [locatedText, hport, append_nil] at hend h
  by_cases hcolon : 58 ∈ storedHost (hostOf netloc)
  · rw [if_pos (by simpa using hcolon), getLast?_concat, some.injEq] at hend
    rw [← hend, hnotSpace 93 (Or.inl rfl)] at hspace
    cases hspace
  · rw [if_neg (by simpa using hcolon)] at h
    have hbare : hostOf netloc = netloc := by
      have hopen : 91 ∉ netloc := fun hmem =>
        hhost (h ▸ mem_append_left _ (hclosed.mp hmem))
      have htake : ∀ n ∈ netloc, decide (n ≠ 58) = true := fun n hn => by
        simpa using fun hn58 : n = 58 => hcolon (h ▸ mem_append_left _ (hn58 ▸ hn))
      rw [hostOf, if_neg (by simpa using hopen), takeWhile_eq_self_iff]
      exact htake
    -- a host keeps what has no case, so nothing was behind it
    rw [hbare] at h
    obtain ⟨dots, hdots⟩ : storedHost netloc <+: LowerTable.lower (hostnameOf netloc) :=
      rdropWhile_prefix _ _
    have hfilter := laws.lower_uncased (hostnameOf netloc)
    rw [← hdots, filter_hostnameOf laws, ← h, append_assoc,
      filter_append] at hfilter
    have hnone : (spaces ++ dots).filter isUncased = [] := by simpa using hfilter
    rw [filter_eq_nil_iff] at hnone
    exact hnone _ (mem_append_left _ (getLast_mem hne)) (by simp [isUncased, hspace])

variable {asset : PyText}

/-- An asset that is its own stored form is rendered from its parts. -/
theorem ownAsset (laws : LowerLaws) (h : assetField asset = .ok asset) :
    ∃ scheme host configured, OwnAsset asset scheme host configured := by
  obtain ⟨parsed, configured, hplain, hlength, hparsed, hweb, hhost, hinfo, -, -, -, hport, htext⟩ :=
    assetField_eq_ok.mp h
  obtain ⟨hscheme, hnetloc⟩ := nonempty_of_host hweb hhost
  rw [assetHost_eq] at htext
  have hweb' : ∀ n ∈ codePoints (lower parsed.scheme ++ "://".toList), 32 < n := by
    rcases hweb with h | h <;> rw [h] <;> decide
  have hcolon : ':' ∉ lower parsed.scheme := by
    rcases hweb with h | h <;> rw [h] <;> decide
  have hhead : asset.head? = some 104 := by
    rw [htext, assetText_eq]
    rcases hweb with h | h <;> rw [h] <;> rfl
  have hfirst : asset.head?.all (fun n => !isSpace (asChar n)) = true := by
    rw [hhead]
    decide
  obtain ⟨spaces, hspaces, hall⟩ := exists_spaces hfirst
  have hlocated : ∀ n ∈ locatedText (lower parsed.scheme)
      (storedHost (hostOf (netlocOf (stripText asset) parsed)))
      (portOr (lower parsed.scheme) configured),
      (n ≠ 9 ∧ n ≠ 10 ∧ n ≠ 13) ∧ n ≠ 47 ∧ n ≠ 63 ∧ n ≠ 35 := fun n =>
    plain_located laws hparsed hscheme hnetloc
  have hvisible : visibleText (stripText asset) = stripText asset := by
    refine visibleText_of_kept ?_ fun n hn => ?_
    · rwa [← hspaces, head?_append_of_ne_nil _ hplain.nonempty] at hhead
    · have hmem : n ∈ asset := hspaces ▸ mem_append_left _ hn
      rw [htext, assetText_eq] at hmem
      rcases mem_append.mp hmem with hmem | hmem
      · have := hweb' n hmem
        omega
      · exact (hlocated n hmem).1
  have hsplit := netlocOf_append laws hparsed hscheme hnetloc hvisible hcolon (hspaces.trans htext)
  have hbrackets : checkBrackets (characters (netlocOf (stripText asset) parsed)) = true := by
    rw [characters_netlocOf hparsed hscheme hnetloc]
    exact (netloc_of_urlsplit hparsed).2.1
  have hclosed := closed_of_checkBrackets hbrackets
  have hnil := spaces_eq_nil laws hclosed hall hsplit
  rw [hnil, append_nil] at hspaces hsplit
  have hchars : parsed.netloc = characters (locatedText (lower parsed.scheme)
      (storedHost (hostOf (netlocOf (stripText asset) parsed)))
      (portOr (lower parsed.scheme) configured)) := by
    rw [← hsplit, characters_netlocOf hparsed hscheme hnetloc]
  have hkept : hostOf (locatedText (lower parsed.scheme)
      (storedHost (hostOf (netlocOf (stripText asset) parsed)))
      (portOr (lower parsed.scheme) configured))
        = storedHost (hostOf (netlocOf (stripText asset) parsed)) :=
    hostOf_locatedText
      (fun hmem => not_mem_hostOf hclosed (mem_of_mem_storedHost laws (by decide) hmem))
      (hsplit ▸ hclosed)
  refine ⟨lower parsed.scheme, _, configured, hweb, htext, hspaces ▸ hplain, hspaces ▸ hlength, ?_,
    hkept, fun c hc => ?_, ?_, ?_, fun r hr => ?_⟩
  · have hhostOf := congrArg hostOf hsplit
    rw [hkept] at hhostOf
    rw [← hhostOf]
    exact hhostOf.symm
  · obtain ⟨n, hn, rfl⟩ := mem_map.mp hc
    obtain ⟨⟨h9, h10, h13⟩, -⟩ := hlocated n hn
    exact ⟨(netloc_of_urlsplit hparsed).1 _ (hchars ▸ hc), by simp [h9, h10, h13]⟩
  · rw [← hchars]
    exact (netloc_of_urlsplit hparsed).2.1
  · rw [← hchars]
    exact (netloc_of_urlsplit hparsed).2.2
  · have hsame : r.hostinfo = parsed.hostinfo := by
      unfold hostinfo
      rw [hr, hchars]
    refine ⟨?_, ?_, ?_⟩
    · rwa [hostname, hsame]
    · rw [← hinfo, userinfo, userinfo, hr, hchars]
    · rw [← hport, port, port, hsame]

namespace OwnAsset

variable {asset : PyText} {scheme : Text} {host : PyText} {configured : Option Nat}

/-- The asset as a target. -/
def parsed (scheme : Text) (host : PyText) (configured : Option Nat) : SplitResult where
  scheme := scheme
  netloc := characters (locatedText scheme host (portOr scheme configured))
  path := ['/']
  query := []
  fragment := []

theorem slashed (h : OwnAsset asset scheme host configured) :
    asset ++ [47] = codePoints (scheme ++ "://".toList)
      ++ (locatedText scheme host (portOr scheme configured) ++ [47]) := by
  rw [← append_assoc, ← assetText_eq, ← h.text]

theorem head_slashed (h : OwnAsset asset scheme host configured) :
    (asset ++ [47]).head? = some 104 := by
  rw [h.slashed]
  rcases h.web with hweb | hweb <;> rw [hweb] <;> rfl

theorem visible (h : OwnAsset asset scheme host configured) :
    visibleText (asset ++ [47]) = asset ++ [47] := by
  refine visibleText_of_kept h.head_slashed fun n hn => ?_
  rw [h.slashed] at hn
  simp only [mem_append, mem_singleton] at hn
  rcases hn with hn | hn | rfl
  · have hlow : ∀ n ∈ codePoints (scheme ++ "://".toList), 32 < n := by
      rcases h.web with hweb | hweb <;> rw [hweb] <;> decide
    have := hlow n hn
    omega
  · have hc := (h.authority _ (mem_map_of_mem hn)).2
    simp only [mem_cons, not_mem_nil, or_false, asChar_eq_tab, asChar_eq_return,
      asChar_eq_newline, not_or] at hc
    exact ⟨hc.1, hc.2.2, hc.2.1⟩
  · decide

/-- With a slash behind it, the asset is split into these parts. -/
theorem urlsplit_slashed (h : OwnAsset asset scheme host configured) :
    urlsplit (characters (asset ++ [47])) = some (parsed scheme host configured) := by
  have hremoved : removeUnsafe (characters (asset ++ [47])) = characters (asset ++ [47]) := by
    rw [← characters_visibleText, h.visible]
  have hchars : characters (asset ++ [47]) = scheme ++ ':' :: '/' :: '/' ::
      (characters (locatedText scheme host (portOr scheme configured)) ++ ['/']) := by
    have happend : ∀ a b, characters (a ++ b) = characters a ++ characters b := fun a b =>
      map_append
    rw [h.slashed, happend, happend, characters_codePoints]
    simp
    rfl
  have hscheme : ∀ rest, splitScheme [] (scheme ++ ':' :: rest) = (scheme, rest) := by
    intro rest
    have hcolon : ':' ∉ scheme := by rcases h.web with hweb | hweb <;> rw [hweb] <;> decide
    have hletter : scheme.head?.any isAsciiLetter = true := by
      rcases h.web with hweb | hweb <;> rw [hweb] <;> decide
    have hall : scheme.all isSchemeCharacter = true := by
      rcases h.web with hweb | hweb <;> rw [hweb] <;> decide
    have hlower : lower scheme = scheme := lower_web h.web
    unfold splitScheme
    rw [partition_append hcolon]
    simp [hletter, hall, hlower]
  unfold urlsplit urlsplitWith
  rw [hremoved, hchars]
  simp only [hscheme]
  rw [Absolute.splitNetloc_eq (fun c hc => (h.authority c hc).1) (.inr rfl)]
  simp [h.brackets, h.normal, partition, parsed]

theorem netlocOf_slashed (h : OwnAsset asset scheme host configured) :
    netlocOf (asset ++ [47]) (parsed scheme host configured)
      = locatedText scheme host (portOr scheme configured) := by
  have hvisible : netlocOf (asset ++ [47]) (parsed scheme host configured)
      = ((visibleText (asset ++ [47])).drop (scheme.length + 3)).take
        (characters (locatedText scheme host (portOr scheme configured))).length := rfl
  have hfront : (codePoints (scheme ++ "://".toList)).length = scheme.length + 3 := by
    simp [codePoints]
  rw [hvisible, h.visible, h.slashed, ← hfront, drop_left, characters, length_map,
    take_left]

theorem urlPath_slashed (h : OwnAsset asset scheme host configured) :
    urlPath (asset ++ [47]) (parsed scheme host configured) = [47] := by
  have hvisible : urlPath (asset ++ [47]) (parsed scheme host configured)
      = ((visibleText (asset ++ [47])).drop (scheme.length + 3
        + (characters (locatedText scheme host (portOr scheme configured))).length)).takeWhile
          fun n => n ≠ 63 && n ≠ 35 := rfl
  have hfront : (codePoints (scheme ++ "://".toList)).length = scheme.length + 3 := by
    simp [codePoints]
  rw [hvisible, h.visible, h.slashed, ← hfront, ← drop_drop, drop_left, characters,
    length_map, drop_left]
  rfl

theorem host_ne_nil (h : OwnAsset asset scheme host configured) : host ≠ [] := by
  rintro rfl
  have hsome := (h.parts (parsed scheme [] configured) rfl).1
  have hnetloc : (parsed scheme [] configured).netloc = portTail (portOr scheme configured) scheme :=
    characters_codePoints _
  have hinfo : (parsed scheme [] configured).hostinfo.1 = [] := by
    unfold hostinfo
    rw [hnetloc]
    rcases portTail_cases (portOr scheme configured) scheme with htail | htail
    · rw [htail]
      rfl
    · have hdigits : ∀ c, isAsciiDigit c = false →
          c ∉ Nat.toDigits 10 (portOr scheme configured) := fun c hc hmem => by
        rw [all_eq_true.mp (isAsciiDigit_toDigits _) c hmem] at hc
        cases hc
      have hinfo := hdigits '@' (by decide)
      have hopen := hdigits '[' (by decide)
      rw [htail]
      simp [rpartition, hinfo, partition, hopen]
  simp [hostname, hinfo] at hsome

/-- An asset does not end with a slash. -/
theorem rdropWhile_slash (h : OwnAsset asset scheme host configured) :
    asset.rdropWhile (· = 47) = asset := by
  have hne : locatedText scheme host (portOr scheme configured) ≠ [] := by
    intro hnil
    have hhost := h.kept
    rw [hnil] at hhost
    exact h.host_ne_nil hhost.symm
  rw [h.text, assetText_eq, rdropWhile_eq_self_iff]
  intro _ hslash
  rw [getLast_append_of_ne_nil _ hne] at hslash
  have hmem := getLast_mem hne
  rw [decide_eq_true_eq.mp hslash] at hmem
  have hend := (h.authority '/' ((mem_characters_iff (by decide)).mpr hmem)).1
  exact absurd hend (by decide)

end OwnAsset

/-- The asset with a slash is a canonical target. -/
theorem canonicalTarget_asset (laws : LowerLaws) (h : assetField asset = .ok asset)
    (hbackslash : 92 ∉ asset) :
    canonicalTarget (asset ++ [47]) = .ok (asset ++ [47]) := by
  obtain ⟨scheme, host, configured, own⟩ := ownAsset laws h
  obtain ⟨hsome, hinfo, hport⟩ := own.parts (OwnAsset.parsed scheme host configured) rfl
  have hlower : lower scheme = scheme := lower_web own.web
  have hbounded : boundedText (asset ++ [47]) "target" 4096 = .ok (asset ++ [47]) := by
    have hedges : stripText (asset ++ [47]) = asset ++ [47] := by
      refine stripText_of_ends ?_ (by rw [getLast?_concat]; decide)
      rw [own.head_slashed]
      decide
    refine boundedText_eq_ok.mpr ⟨hedges.symm, ⟨hedges, by simp, ?_⟩, ?_⟩
    · simpa using own.plain.noNull
    · rw [length_append]
      have := own.length
      simp only [length_singleton]
      omega
  have hhost : assetHost (asset ++ [47]) (OwnAsset.parsed scheme host configured) = host := by
    rw [assetHost_eq, own.netlocOf_slashed, own.kept, own.stored]
  unfold canonicalTarget
  rw [hbounded, ok_bind, bind_ok_iff]
  refine ⟨(), require_eq_ok.mpr (by simpa using hbackslash), ?_⟩
  simp only [own.urlsplit_slashed, hsome, hinfo, hport]
  refine bind_ok_iff.mpr ⟨(), require_eq_ok.mpr ?_, bind_ok_iff.mpr
    ⟨(), require_eq_ok.mpr ?_, ?_⟩⟩
  · simp [OwnAsset.parsed, hlower, own.web]
  · simpa [hhost] using own.host_ne_nil
  · rw [hhost, own.urlPath_slashed]
    show Except.ok (assetText (lower scheme) host (portOr (lower scheme) configured) ++ [47]) = _
    rw [hlower, ← own.text]

/-- The origin of this target is the asset. -/
theorem targetOrigin_asset (laws : LowerLaws) (cases : ∀ text : PyText,
      LowerTable.lower (LowerTable.lower text) = LowerTable.lower text)
    (h : assetField asset = .ok asset) : targetOrigin (asset ++ [47]) = .ok asset := by
  obtain ⟨scheme, host, configured, own⟩ := ownAsset laws h
  obtain ⟨hsome, -, hport⟩ := own.parts (OwnAsset.parsed scheme host configured) rfl
  unfold targetOrigin
  simp only [own.urlsplit_slashed, hsome, hport, if_true, own.netlocOf_slashed, own.kept,
    hostnameOf_of_stored laws cases own.stored]
  exact congrArg Except.ok own.text.symm

/-! ## Backslashes -/

omit [LowerTable] in
theorem scheme_backslash (h : urlsplit url = some r) : 92 ∉ codePoints r.scheme := by
  intro hmem
  obtain ⟨c, hc, hbackslash⟩ := mem_map.mp hmem
  unfold urlsplit urlsplitWith at h
  simp only [ite_none_right_eq_some, some.injEq] at h
  obtain ⟨-, rfl⟩ := h
  unfold splitScheme at hc
  dsimp only at hc
  split at hc
  · next hcond =>
    simp only [Bool.and_eq_true] at hcond
    have hascii : ∀ c ∈ (partition ':' (removeUnsafe url)).1, c.toNat < 128 := fun c hc =>
      (ascii_of_isSchemeCharacter (all_eq_true.mp hcond.2 c hc)).2
    rw [lower_ascii _ hascii] at hc
    obtain ⟨d, hd, rfl⟩ := mem_map.mp hc
    have hscheme := all_eq_true.mp hcond.2 d hd
    have hd128 := hascii d hd
    have hall : ∀ n < 128, (Char.ofNat n).toLower.toNat = 92 →
        isSchemeCharacter (Char.ofNat n) = false := by decide
    rw [← Char.ofNat_toNat d] at hbackslash hscheme
    rw [hall _ hd128 hbackslash] at hscheme
    cases hscheme
  · cases hc

variable {target : PyText}

/-- A canonical target is made of what was written, and of what a location is rendered with. -/
theorem mem_of_mem_canonicalTarget (laws : LowerLaws) {raw : PyText}
    (h : canonicalTarget raw = .ok target) (hcase : isUncased n = true)
    (hwritten : n ≠ 47 ∧ n ≠ 58 ∧ n ≠ 91 ∧ n ≠ 93 ∧ ¬(48 ≤ n ∧ n ≤ 57)) (hmem : n ∈ target) :
    n ∈ stripText raw := by
  unfold canonicalTarget at h
  obtain ⟨candidate, hcandidate, h⟩ := bind_ok h
  obtain ⟨rfl, -, -⟩ := boundedText_eq_ok.mp hcandidate
  obtain ⟨_, -, h⟩ := bind_ok h
  split at h
  · cases h
  next parsed hparsed =>
  obtain ⟨_, hcheck, h⟩ := bind_ok h
  simp only [require_eq_ok, Bool.and_eq_true, Bool.or_eq_true, decide_eq_true_eq] at hcheck
  obtain ⟨hscheme, hnetloc⟩ := nonempty_of_host hcheck.1.1.1.1 hcheck.1.1.1.2
  split at h
  · cases h
  next configured hport =>
  obtain ⟨_, -, h⟩ := bind_ok h
  cases h
  rw [assetText_eq, append_assoc, mem_append, mem_append] at hmem
  rcases hmem with hmem | hmem | hmem
  · have hfront : ∀ m ∈ codePoints (lower parsed.scheme ++ "://".toList),
        m = 58 ∨ m = 47 ∨ isUncased m = false := by
      rcases hcheck.1.1.1.1 with hweb | hweb <;> rw [hweb] <;> decide
    rcases hfront n hmem with heq | heq | heq
    · exact absurd heq hwritten.2.1
    · exact absurd heq hwritten.1
    · rw [hcase] at heq
      cases heq
  · rcases mem_locatedText hmem with hhost | hrest
    · rw [assetHost_eq] at hhost
      have hin := mem_of_mem_hostOf (mem_of_mem_storedHost laws hcase hhost)
      exact (mem_netlocOf hparsed hscheme hnetloc hin).1
    · omega
  · split at hmem
    · exact absurd (mem_singleton.mp hmem) hwritten.1
    · exact (dropWhile_suffix _).subset (mem_of_mem_filter
        (mem_of_mem_drop ((List.takeWhile_prefix _).subset hmem)))

theorem plain_canonicalTarget (laws : LowerLaws) {raw : PyText}
    (h : canonicalTarget raw = .ok target) :
    0 ∉ target ∧ 92 ∉ target ∧ target.head? = some 104 := by
  have hmem := fun n hcase hwritten => mem_of_mem_canonicalTarget laws h (n := n) hcase hwritten
  unfold canonicalTarget at h
  obtain ⟨candidate, hcandidate, h⟩ := bind_ok h
  obtain ⟨rfl, hplain, -⟩ := boundedText_eq_ok.mp hcandidate
  obtain ⟨_, hbackslash, h⟩ := bind_ok h
  refine ⟨fun hnull => hplain.noNull (hmem 0 (by decide) (by decide) hnull), fun hin => ?_, ?_⟩
  · have hnone : 92 ∉ stripText raw := by simpa using require_eq_ok.mp hbackslash
    exact hnone (hmem 92 (by decide) (by decide) hin)
  · split at h
    · cases h
    next parsed hparsed =>
    obtain ⟨_, hcheck, h⟩ := bind_ok h
    simp only [require_eq_ok, Bool.and_eq_true, Bool.or_eq_true, decide_eq_true_eq] at hcheck
    split at h
    · cases h
    next configured hport =>
    obtain ⟨_, -, h⟩ := bind_ok h
    cases h
    rw [assetText_eq]
    rcases hcheck.1.1.1.1 with hweb | hweb <;> rw [hweb] <;> rfl

/-- No backslash comes into an origin. -/
theorem backslash_targetOrigin (laws : LowerLaws) {origin : PyText} (hnone : 92 ∉ target)
    (h : targetOrigin target = .ok origin) : 92 ∉ origin := by
  unfold targetOrigin at h
  split at h
  · cases h
  next parsed hparsed =>
  dsimp only at h
  split at h
  · cases h
  next configured hport =>
  cases h
  intro hmem
  rw [assetText_eq, mem_append] at hmem
  rcases hmem with hmem | hmem
  · rw [codePoints, map_append, mem_append] at hmem
    rcases hmem with hmem | hmem
    · exact scheme_backslash hparsed hmem
    · revert hmem
      decide
  · rcases mem_locatedText hmem with hhost | hrest
    · split at hhost
      · have hin := mem_of_mem_hostOf ((mem_hostnameOf laws (by decide)).mp hhost)
        exact hnone ((dropWhile_suffix _).subset (mem_of_mem_filter
          (mem_of_mem_drop ((List.take_prefix _ _).subset hin))))
      · cases hhost
    · omega

end

end WebGuard.FindingContract
