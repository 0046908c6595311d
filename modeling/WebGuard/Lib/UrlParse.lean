import Mathlib.Data.List.TakeWhile

/-!
# `urllib.parse` and `posixpath`

The functions of Python's standard library that take URLs apart and put them together, on texts
as lists of characters: `urlsplit` with the properties of its result, `urlunsplit`, `urljoin`,
`unquote`, and `posixpath.normpath`. An exception (`ValueError`) is `none`.

Three things depend on tables that are not part of the algorithms, and are parameters
(`StandardLibrary`): the Unicode case mapping and normalization, and `ipaddress.ip_address`, whose
text form differs between the versions of Python.
-/

namespace UrlParse

open List Char

abbrev Text := List Char

/-- What `ipaddress.ip_address` makes of a text. -/
structure IpAddress where
  isIPv6 : Bool
  compressed : Text
  deriving DecidableEq

class StandardLibrary where
  /-- `str.lower`. -/
  lower : Text → Text
  /-- `unicodedata.normalize("NFKC", ·)`. -/
  nfkc : Text → Text
  /-- `ipaddress.ip_address`. -/
  ipAddress : Text → Option IpAddress
  lower_ascii : ∀ t : Text, (∀ c ∈ t, c.toNat < 128) → lower t = t.map toLower

/-- The law of a library whose `lower` is the one of ASCII. -/
theorem map_toLower_ascii (t : Text) (_ : ∀ c ∈ t, c.toNat < 128) :
    t.map toLower = t.map toLower := rfl

/-! ## Texts -/

/-- `str.partition`: what is before the first `c`, whether there is one, and what is after it. -/
def partition (c : Char) (t : Text) : Text × Bool × Text :=
  (t.takeWhile (· != c), t.contains c, (t.dropWhile (· != c)).drop 1)

def rpartition (c : Char) (t : Text) : Text × Bool × Text :=
  if t.contains c then
    (((t.reverse.dropWhile (· != c)).drop 1).reverse, true, (t.reverse.takeWhile (· != c)).reverse)
  else ([], false, t)

variable {c x : Char} {t : Text}

theorem partition_append {before : Text} (h : c ∉ before) (after : Text) :
    partition c (before ++ c :: after) = (before, true, after) := by
  have hbefore : ∀ x ∈ before, (x != c) = true := by
    intro x hx
    simp only [bne_iff_ne]
    rintro rfl
    exact h hx
  unfold partition
  rw [takeWhile_append_of_pos hbefore, dropWhile_append_of_pos hbefore]
  simp

theorem partition_cons_self (c : Char) (after : Text) : partition c (c :: after) =
    ([], true, after) :=
  partition_append List.not_mem_nil after

theorem partition_of_not_mem (h : c ∉ t) : partition c t = (t, false, []) := by
  have hall : ∀ x ∈ t, (x != c) = true := by
    intro x hx
    simp only [bne_iff_ne]
    rintro rfl
    exact h hx
  unfold partition
  rw [takeWhile_eq_self_iff.mpr hall, dropWhile_eq_nil_iff.mpr hall]
  simp [h]

theorem mem_partition_fst (h : x ∈ (partition c t).1) : x ≠ c ∧ x ∈ t := by
  have hmem : x ∈ t.takeWhile (· != c) := h
  have hne : (x != c) = true := by simpa using mem_takeWhile_imp hmem
  exact ⟨by simpa using hne, (List.takeWhile_prefix _).subset hmem⟩

theorem append_partition (h : c ∈ t) : t = (partition c t).1 ++ c :: (partition c t).2.2 := by
  obtain ⟨before, after, rfl, hnot⟩ := eq_append_cons_of_mem h
  rw [partition_append hnot]

def split (c : Char) : Text → List Text
  | [] => [[]]
  | x :: rest =>
    if x = c then [] :: split c rest
    else
      match split c rest with
      | [] => [[x]]
      | first :: others => (x :: first) :: others

/-- `c.join(parts)`. -/
def join (c : Char) : List Text → Text
  | [] => []
  | [part] => part
  | part :: rest => part ++ c :: join c rest

theorem mem_of_mem_split {part : Text} (hpart : part ∈ split c t) (hx : x ∈ part) : x ∈ t := by
  induction t generalizing part with
  | nil =>
    rw [split, mem_singleton] at hpart
    rw [hpart] at hx
    exact hx
  | cons y rest ih =>
    rw [split] at hpart
    by_cases hy : y = c
    · rw [if_pos hy] at hpart
      rcases mem_cons.mp hpart with rfl | hpart
      · exact absurd hx not_mem_nil
      · exact mem_cons_of_mem y (ih hpart hx)
    · rw [if_neg hy] at hpart
      cases hsplit : split c rest with
      | nil =>
        simp only [hsplit, mem_singleton] at hpart
        rw [hpart, mem_singleton] at hx
        rw [hx]
        exact mem_cons_self
      | cons first others =>
        simp only [hsplit, mem_cons] at hpart
        rw [hsplit] at ih
        rcases hpart with rfl | hpart
        · rcases mem_cons.mp hx with rfl | hx
          · exact mem_cons_self
          · exact mem_cons_of_mem y (ih mem_cons_self hx)
        · exact mem_cons_of_mem y (ih (mem_cons_of_mem first hpart) hx)

theorem mem_join {parts : List Text} (h : x ∈ join c parts) : x = c ∨ ∃ part ∈ parts, x ∈ part := by
  induction parts with
  | nil => exact absurd h not_mem_nil
  | cons part rest ih =>
    cases rest with
    | nil => exact Or.inr ⟨part, mem_cons_self, h⟩
    | cons next others =>
      rw [join, mem_append, mem_cons] at h
      · rcases h with h | rfl | h
        · exact Or.inr ⟨part, mem_cons_self, h⟩
        · exact Or.inl rfl
        · rcases ih h with rfl | ⟨other, hother, hx⟩
          · exact Or.inl rfl
          · exact Or.inr ⟨other, mem_cons_of_mem part hother, hx⟩
      · simp

def isAscii (t : Text) : Bool := t.all (·.toNat < 128)

def isAsciiLetter (c : Char) : Bool := ('a' ≤ c && c ≤ 'z') || ('A' ≤ c && c ≤ 'Z')

def isAsciiDigit (c : Char) : Bool := '0' ≤ c && c ≤ '9'

/-- `int(text)` of decimal digits. -/
def digitsValue (t : Text) : Nat := t.foldl (fun n c => 10 * n + (c.toNat - '0'.toNat)) 0

section

variable [StandardLibrary]

open StandardLibrary

/-! ## `urlsplit` -/

structure SplitResult where
  scheme : Text
  netloc : Text
  path : Text
  query : Text
  fragment : Text
  deriving DecidableEq

def isSchemeCharacter (c : Char) : Bool :=
  isAsciiLetter c || isAsciiDigit c || c = '+' || c = '-' || c = '.'

omit [StandardLibrary] in
theorem ascii_of_isSchemeCharacter (h : isSchemeCharacter c = true) :
    32 < c.toNat ∧ c.toNat < 128 := by
  have hle : ∀ d e : Char, d ≤ e → d.toNat ≤ e.toNat := fun d e h => h
  have ha : 'a'.toNat = 97 := rfl
  have hz : 'z'.toNat = 122 := rfl
  have hA : 'A'.toNat = 65 := rfl
  have hZ : 'Z'.toNat = 90 := rfl
  have h0 : '0'.toNat = 48 := rfl
  have h9 : '9'.toNat = 57 := rfl
  simp only [isSchemeCharacter, isAsciiLetter, isAsciiDigit, Bool.or_eq_true, Bool.and_eq_true,
    decide_eq_true_eq] at h
  rcases h with ((((⟨h1, h2⟩ | ⟨h1, h2⟩) | ⟨h1, h2⟩) | rfl) | rfl) | rfl
  · have h1 := hle _ _ h1
    have h2 := hle _ _ h2
    omega
  · have h1 := hle _ _ h1
    have h2 := hle _ _ h2
    omega
  · have h1 := hle _ _ h1
    have h2 := hle _ _ h2
    omega
  · decide
  · decide
  · decide

/-- The scheme in front of the first colon, or the default, and what follows. -/
def splitScheme (default url : Text) : Text × Text :=
  let (before, found, after) := partition ':' url
  if found && (before.head?.any isAsciiLetter) && before.all isSchemeCharacter then
    (lower before, after)
  else (default, url)

/-- `_check_bracketed_host`; the pattern of an `IPvFuture` is `v[a-fA-F0-9]+\..+`. -/
def checkBracketedHost (hostname : Text) : Bool :=
  match hostname with
  | 'v' :: rest =>
    let digits := rest.takeWhile fun c =>
      isAsciiDigit c || ('a' ≤ c && c ≤ 'f') || ('A' ≤ c && c ≤ 'F')
    let after := rest.drop digits.length
    !digits.isEmpty && after.head? = some '.' && (after.drop 1).head?.any (· ≠ '\n')
  | _ => (ipAddress hostname).any (·.isIPv6)

def checkBracketedNetloc (netloc : Text) : Bool :=
  let (before, found, bracketed) := partition '[' (rpartition '@' netloc).2.2
  if found then
    let (hostname, _, port) := partition ']' bracketed
    before.isEmpty && (port.isEmpty || port.head? = some ':') && checkBracketedHost hostname
  else checkBracketedHost (partition ':' (rpartition '@' netloc).2.2).1

/-- `_checknetloc`: no character may turn into a delimiter when it is normalized. -/
def checkNetloc (netloc : Text) : Bool :=
  if isAscii netloc then true
  else
    let bare := netloc.filter fun c => !(['@', ':', '#', '?'].contains c)
    let normal := nfkc bare
    bare = normal || !(['/', '?', '#', '@', ':'].any normal.contains)

/-- The brackets of a network location belong together. -/
def checkBrackets (netloc : Text) : Bool :=
  if netloc.contains '[' then netloc.contains ']' && checkBracketedNetloc netloc
  else !netloc.contains ']'

def isAuthorityEnd (c : Char) : Bool := c = '/' || c = '?' || c = '#'

/-- The network location behind two slashes, and the rest. -/
def splitNetloc : Text → Text × Text
  | '/' :: '/' :: rest =>
    (rest.takeWhile fun c => !isAuthorityEnd c, rest.dropWhile fun c => !isAuthorityEnd c)
  | url => ([], url)

variable {url : Text}

section

omit [StandardLibrary]

/-- C0 controls and spaces in front are stripped, tabs and line breaks removed everywhere. -/
def removeUnsafe (url : Text) : Text :=
  (url.dropWhile (·.toNat ≤ 32)).filter fun c => !(['\t', '\r', '\n'].contains c)

theorem kept_of_visible (h : 32 < c.toNat) : c ∉ ['\t', '\r', '\n'] := by
  intro hmem
  have hlow : ∀ x ∈ ['\t', '\r', '\n'], x.toNat ≤ 32 := by simp
  have := hlow c hmem
  omega

theorem removeUnsafe_of_kept (hhead : url.head?.any (32 < ·.toNat) = true)
    (h : ∀ c ∈ url, c ∉ ['\t', '\r', '\n']) : removeUnsafe url = url := by
  have hdrop : url.dropWhile (fun c => decide (c.toNat ≤ 32)) = url := by
    cases url with
    | nil => rfl
    | cons c rest =>
      have hc : 32 < c.toNat := by simpa using hhead
      rw [dropWhile_cons, if_neg (by simp; omega)]
  unfold removeUnsafe
  rw [hdrop, filter_eq_self]
  intro c hc
  simpa using h c hc

end

/-- `urlsplit(url, default)`. -/
def urlsplitWith (default url : Text) : Option SplitResult :=
  let (scheme, rest) := splitScheme default (removeUnsafe url)
  let (netloc, rest) := splitNetloc rest
  if checkBrackets netloc && checkNetloc netloc then
    let (rest, _, fragment) := partition '#' rest
    let (path, _, query) := partition '?' rest
    some { scheme, netloc, path, query, fragment }
  else none

/-- `urlsplit(url)`. -/
def urlsplit (url : Text) : Option SplitResult := urlsplitWith [] url

variable {r : SplitResult}

theorem exists_located (h : urlsplit url = some r) (hscheme : r.scheme ≠ [])
    (hnetloc : r.netloc ≠ []) :
    ∃ before located, removeUnsafe url = before ++ ':' :: '/' :: '/' :: located ∧
      before.all isSchemeCharacter = true ∧ r.scheme = lower before ∧
      r.netloc = (located.takeWhile fun c => !isAuthorityEnd c) ∧
      r.path = (located.dropWhile fun c => !isAuthorityEnd c).takeWhile
        fun c => c ≠ '?' && c ≠ '#' := by
  unfold urlsplit urlsplitWith at h
  simp only [Option.ite_none_right_eq_some, Option.some.injEq] at h
  obtain ⟨-, rfl⟩ := h
  generalize removeUnsafe url = visible at hscheme hnetloc ⊢
  simp only at hscheme hnetloc
  have hfound : ':' ∈ visible ∧ (partition ':' visible).1.all isSchemeCharacter = true ∧
      splitScheme [] visible = (lower (partition ':' visible).1, (partition ':' visible).2.2) := by
    unfold splitScheme at hscheme ⊢
    dsimp only at hscheme ⊢
    split at hscheme
    · next hcond =>
      rw [if_pos hcond]
      simp only [Bool.and_eq_true] at hcond
      have hmem : ':' ∈ visible := by simpa [partition] using hcond.1.1
      exact ⟨hmem, hcond.2, rfl⟩
    · exact absurd rfl hscheme
  obtain ⟨hmem, hchars, hsplit⟩ := hfound
  have hvisible := append_partition hmem
  rw [hsplit] at hnetloc ⊢
  generalize (partition ':' visible).1 = before at hvisible hchars ⊢
  generalize (partition ':' visible).2.2 = after at hvisible hnetloc ⊢
  have hslashes : ∃ rest, after = '/' :: '/' :: rest := by
    unfold splitNetloc at hnetloc
    split at hnetloc
    · next rest => exact ⟨rest, rfl⟩
    · exact absurd rfl hnetloc
  obtain ⟨located, rfl⟩ := hslashes
  refine ⟨before, located, hvisible, hchars, rfl, rfl, ?_⟩
  simp only [splitNetloc, partition]
  rw [takeWhile_takeWhile]
  congr 1
  funext c
  rw [Bool.eq_iff_iff]
  simp

theorem parts_of_urlsplit (h : urlsplit url = some r) (hscheme : r.scheme ≠ [])
    (hnetloc : r.netloc ≠ []) :
    ∃ before rest, removeUnsafe url = before ++ ':' :: '/' :: '/' :: r.netloc ++ rest ∧
      before.length = r.scheme.length ∧ rest.head?.all isAuthorityEnd = true ∧
      (r.path = rest.takeWhile fun c => c ≠ '?' && c ≠ '#') ∧ ':' ∉ before := by
  obtain ⟨before, located, hvisible, hchars, hlowered, hlocated, hpath⟩ :=
    exists_located h hscheme hnetloc
  refine ⟨before, located.dropWhile fun c => !isAuthorityEnd c, ?_, ?_, ?_, hpath, fun hmem =>
    absurd (all_eq_true.mp hchars _ hmem) (by decide)⟩
  · rw [hvisible, hlocated, append_assoc]
    simp only [cons_append, takeWhile_append_dropWhile]
  · have hascii : ∀ c ∈ before, c.toNat < 128 := by
      intro c hc
      exact (ascii_of_isSchemeCharacter (all_eq_true.mp hchars c hc)).2
    rw [hlowered, lower_ascii before hascii, length_map]
  · cases hrest : located.dropWhile fun c => !isAuthorityEnd c with
    | nil => rfl
    | cons c rest =>
      have hhead := head?_dropWhile_not (fun c => !isAuthorityEnd c) located
      rw [hrest] at hhead
      simpa using hhead

theorem path_of_urlsplitWith {default : Text} (h : urlsplitWith default url = some r) :
    ∀ c ∈ r.path, c ≠ '?' ∧ c ≠ '#' := by
  unfold urlsplitWith at h
  simp only [Option.ite_none_right_eq_some, Option.some.injEq] at h
  obtain ⟨-, rfl⟩ := h
  intro c hc
  obtain ⟨hquery, hc⟩ := mem_partition_fst hc
  exact ⟨hquery, (mem_partition_fst hc).1⟩

namespace SplitResult

variable (r : SplitResult)

/-- `username` and `password`. -/
def userinfo : Option Text × Option Text :=
  let (info, found, _) := rpartition '@' r.netloc
  if found then
    let (username, hasPassword, password) := partition ':' info
    (some username, if hasPassword then some password else none)
  else (none, none)

/-- `_hostinfo`: the host, and the text of the port. -/
def hostinfo : Text × Text :=
  let (_, found, bracketed) := partition '[' (rpartition '@' r.netloc).2.2
  if found then
    let (hostname, _, port) := partition ']' bracketed
    (hostname, (partition ':' port).2.2)
  else
    let (hostname, _, port) := partition ':' (rpartition '@' r.netloc).2.2
    (hostname, port)

/-- `hostname`; a zone is not put into lower case. -/
def hostname : Option Text :=
  if r.hostinfo.1.isEmpty then none
  else
    let (name, found, zone) := partition '%' r.hostinfo.1
    some (lower name ++ (if found then '%' :: zone else []))

/-- `port`; the outer `none` is the exception. -/
def port : Option (Option Nat) :=
  if r.hostinfo.2.isEmpty then some none
  else if r.hostinfo.2.all isAsciiDigit && digitsValue r.hostinfo.2 ≤ 65535 then
    some (some (digitsValue r.hostinfo.2))
  else none

end SplitResult

omit [StandardLibrary] in
theorem SplitResult.userinfo_of_not_mem (h : '@' ∉ r.netloc) :
    r.userinfo = (none, none) := by
  unfold userinfo rpartition
  simp [h]

/-- What can be read back of an absolute URL: a scheme, a network location and a path. -/
structure Absolute (scheme netloc path : Text) : Prop where
  letter : scheme.head?.any isAsciiLetter = true
  characters : scheme.all isSchemeCharacter = true
  lowered : lower scheme = scheme
  authority : ∀ c ∈ netloc, isAuthorityEnd c = false ∧ 32 < c.toNat
  brackets : checkBrackets netloc = true
  normal : checkNetloc netloc = true
  rooted : path.head? = some '/'
  plain : ∀ c ∈ path, c ≠ '?' ∧ c ≠ '#' ∧ 32 < c.toNat

namespace Absolute

variable {scheme netloc path : Text}

theorem scheme_not_mem_colon (h : Absolute scheme netloc path) : ':' ∉ scheme := by
  intro hmem
  have hcolon := all_eq_true.mp h.characters ':' hmem
  exact absurd hcolon (by decide)

theorem splitScheme_eq (h : Absolute scheme netloc path) (default rest : Text) :
    splitScheme default (scheme ++ ':' :: rest) = (scheme, rest) := by
  unfold splitScheme
  rw [partition_append h.scheme_not_mem_colon]
  simp [h.letter, h.characters, h.lowered]

omit [StandardLibrary] in
theorem splitNetloc_eq (hnetloc : ∀ c ∈ netloc, isAuthorityEnd c = false)
    (hpath : path = [] ∨ path.head? = some '/') :
    splitNetloc ('/' :: '/' :: (netloc ++ path)) = (netloc, path) := by
  have hall : ∀ c ∈ netloc, (!isAuthorityEnd c) = true := by
    intro c hc
    simp [hnetloc c hc]
  have hslash : isAuthorityEnd '/' = true := by decide
  show (takeWhile _ (netloc ++ _), dropWhile _ (netloc ++ _)) = _
  rw [takeWhile_append_of_pos hall, dropWhile_append_of_pos hall]
  cases path with
  | nil => simp
  | cons c rest =>
    obtain rfl : c = '/' := by simpa using hpath
    simp [hslash]

theorem scheme_visible (h : Absolute scheme netloc path) : ∀ c ∈ scheme, 32 < c.toNat := by
  intro c hc
  exact (ascii_of_isSchemeCharacter (all_eq_true.mp h.characters c hc)).1

theorem urlsplit_path (h : Absolute scheme netloc path) {path' : Text}
    (hrooted : path' = [] ∨ path'.head? = some '/')
    (hpath : ∀ c ∈ path', c ≠ '?' ∧ c ≠ '#' ∧ c ∉ ['\t', '\r', '\n']) :
    urlsplit (scheme ++ ':' :: '/' :: '/' :: netloc ++ path') =
      some ⟨scheme, netloc, path', [], []⟩ := by
  have hkept : ∀ c ∈ scheme ++ ':' :: '/' :: '/' :: netloc ++ path', c ∉ ['\t', '\r', '\n'] := by
    intro c hc
    simp only [append_assoc, cons_append, mem_append, mem_cons] at hc
    rcases hc with hc | rfl | rfl | rfl | hc | hc
    · exact kept_of_visible (h.scheme_visible c hc)
    · decide
    · decide
    · decide
    · exact kept_of_visible (h.authority c hc).2
    · exact (hpath c hc).2.2
  have hhead : (scheme ++ ':' :: '/' :: '/' :: netloc ++ path').head?.any (32 < ·.toNat) = true := by
    cases hscheme : scheme with
    | nil =>
      have hletter := h.letter
      rw [hscheme] at hletter
      cases hletter
    | cons c rest => simpa using h.scheme_visible c (by simp [hscheme])
  have hquery : '?' ∉ path' := fun hmem => (hpath '?' hmem).1 rfl
  have hfragment : '#' ∉ path' := fun hmem => (hpath '#' hmem).2.1 rfl
  unfold urlsplit urlsplitWith
  simp only [removeUnsafe_of_kept hhead hkept]
  rw [append_assoc, cons_append, h.splitScheme_eq]
  simp only [cons_append]
  rw [splitNetloc_eq (fun c hc => (h.authority c hc).1) hrooted]
  simp [h.brackets, h.normal, partition_of_not_mem hquery, partition_of_not_mem hfragment]

theorem urlsplit_eq (h : Absolute scheme netloc path) :
    urlsplit (scheme ++ ':' :: '/' :: '/' :: netloc ++ path) =
      some ⟨scheme, netloc, path, [], []⟩ :=
  h.urlsplit_path (.inr h.rooted) fun c hc =>
    ⟨(h.plain c hc).1, (h.plain c hc).2.1, kept_of_visible (h.plain c hc).2.2⟩

end Absolute

/-! ## `urlunsplit` and `urljoin` -/

def usesRelative : List Text :=
  ["", "ftp", "http", "gopher", "nntp", "imap", "wais", "file", "https", "shttp", "mms",
    "prospero", "rtsp", "rtsps", "rtspu", "sftp", "svn", "svn+ssh", "ws", "wss"].map (·.toList)

def usesNetloc : List Text :=
  ["", "ftp", "http", "gopher", "nntp", "telnet", "imap", "wais", "file", "mms", "https", "shttp",
    "snews", "prospero", "rtsp", "rtsps", "rtspu", "rsync", "svn", "svn+ssh", "sftp", "nfs", "git",
    "git+ssh", "ws", "wss", "itms-services"].map (·.toList)

def usesParams : List Text :=
  ["", "ftp", "hdl", "prospero", "http", "imap", "https", "shttp", "rtsp", "rtsps", "rtspu", "sip",
    "sips", "mms", "sftp", "tel"].map (·.toList)

section

omit [StandardLibrary]

def urlunsplit (r : SplitResult) : Text :=
  let located :=
    if !r.netloc.isEmpty then
      '/' :: '/' :: r.netloc ++
        (if r.path.isEmpty || r.path.head? = some '/' then r.path else '/' :: r.path)
    else if r.path.take 2 = ['/', '/'] then '/' :: '/' :: r.path
    else if !r.scheme.isEmpty && usesNetloc.contains r.scheme &&
        (r.path.isEmpty || r.path.head? = some '/') then '/' :: '/' :: r.path
    else r.path
  let schemed := if r.scheme.isEmpty then located else r.scheme ++ ':' :: located
  let queried := if r.query.isEmpty then schemed else schemed ++ '?' :: r.query
  if r.fragment.isEmpty then queried else queried ++ '#' :: r.fragment

theorem urlunsplit_absolute {scheme netloc path : Text} (hscheme : scheme ≠ [])
    (hnetloc : netloc ≠ [])
    (hpath : path.head? = some '/') :
    urlunsplit ⟨scheme, netloc, path, [], []⟩ = scheme ++ ':' :: '/' :: '/' :: netloc ++ path := by
  simp [urlunsplit, hscheme, hnetloc, hpath]

/-- `_splitparams`: from the first semicolon of the last segment on. -/
def splitParams (scheme path : Text) : Text × Text :=
  if usesParams.contains scheme then
    let last := (path.reverse.takeWhile (· != '/')).reverse
    let (before, found, params) := partition ';' last
    if found then (path.take (path.length - last.length) ++ before, params) else (path, [])
  else (path, [])

def urlunparse (r : SplitResult) (params : Text) : Text :=
  urlunsplit (if params.isEmpty then r else { r with path := r.path ++ ';' :: params })

/-- One segment of a path that is resolved; `resolved` is reversed. -/
def resolveSegment (resolved : List Text) (segment : Text) : List Text :=
  if segment = ['.', '.'] then resolved.drop 1
  else if segment = ['.'] then resolved
  else segment :: resolved

/-- The path that a relative reference leads to. -/
def resolvePath (base path : Text) : Text :=
  let parts := split '/' base
  let parts := if parts.getLast? = some [] then parts else parts.dropLast
  let segments :=
    if path.head? = some '/' then split '/' path
    else
      -- Empty segments in the middle would become redundant slashes.
      match parts ++ split '/' path with
      | [] => []
      | [only] => [only]
      | first :: rest =>
        first :: rest.dropLast.filter (fun s => !s.isEmpty) ++ rest.getLast?.toList
  let resolved := (segments.foldl resolveSegment []).reverse
  let resolved :=
    if segments.getLast? = some ['.'] || segments.getLast? = some ['.', '.'] then resolved ++ [[]]
    else resolved
  let joined := join '/' resolved
  if joined.isEmpty then ['/'] else joined

end

def urljoin (base url : Text) : Option Text :=
  if base.isEmpty then some url
  else if url.isEmpty then some base
  else do
    let b ← urlsplit base
    let u ← urlsplitWith b.scheme url
    let (bpath, bparams) := splitParams b.scheme b.path
    let (path, params) := splitParams u.scheme u.path
    if u.scheme ≠ b.scheme || !usesRelative.contains u.scheme then return url
    if usesNetloc.contains u.scheme && !u.netloc.isEmpty then
      return urlunparse { u with path := path } params
    let netloc := if usesNetloc.contains u.scheme then b.netloc else u.netloc
    if path.isEmpty && params.isEmpty then
      return urlunparse
        { u with netloc := netloc, path := bpath, query := if u.query.isEmpty then b.query else u.query }
        bparams
    return urlunparse { u with netloc := netloc, path := resolvePath bpath path } params

end

/-! ## `unquote` -/

def hexValue (c : Char) : Option Nat :=
  if isAsciiDigit c then some (c.toNat - '0'.toNat)
  else if 'a' ≤ c && c ≤ 'f' then some (c.toNat - 'a'.toNat + 10)
  else if 'A' ≤ c && c ≤ 'F' then some (c.toNat - 'A'.toNat + 10)
  else none

/-- `unquote_to_bytes`, of ASCII text. -/
def unquoteToBytes : Text → List Nat
  | '%' :: a :: b :: rest =>
    match hexValue a, hexValue b with
    | some x, some y => (16 * x + y) :: unquoteToBytes rest
    | _, _ => '%'.toNat :: unquoteToBytes (a :: b :: rest)
  | c :: rest => c.toNat :: unquoteToBytes rest
  | [] => []

/-- The second bytes that may follow a leading byte of UTF-8, and how many more follow. -/
def utf8Lead (b : Nat) : Option (Nat × Nat × Nat) :=
  if 0xC2 ≤ b && b ≤ 0xDF then some (0x80, 0xBF, 0)
  else if b = 0xE0 then some (0xA0, 0xBF, 1)
  else if b = 0xED then some (0x80, 0x9F, 1)
  else if 0xE1 ≤ b && b ≤ 0xEF then some (0x80, 0xBF, 1)
  else if b = 0xF0 then some (0x90, 0xBF, 2)
  else if 0xF1 ≤ b && b ≤ 0xF3 then some (0x80, 0xBF, 2)
  else if b = 0xF4 then some (0x80, 0x8F, 2)
  else none

def isContinuation (b : Nat) : Bool := 0x80 ≤ b && b ≤ 0xBF

def replacement : Char := ofNat 0xFFFD

/--
`bytes.decode("utf-8", errors="replace")`.

Of a sequence that is cut short, the longest correct start becomes one replacement character.
The first argument is the number of bytes still to be looked at.
-/
def decodeUtf8 : Nat → List Nat → Text
  | 0, _ => []
  | _, [] => []
  | fuel + 1, b :: rest =>
    if b < 0x80 then ofNat b :: decodeUtf8 fuel rest
    else
      match utf8Lead b, rest with
      | some (low, high, more), second :: others =>
        if low ≤ second && second ≤ high then
          let following := (others.take more).takeWhile isContinuation
          let value := following.foldl (fun n c => 64 * n + (c - 0x80))
            (64 * (b % (if more = 0 then 32 else if more = 1 then 16 else 8)) + (second - 0x80))
          (if following.length = more then ofNat value else replacement) ::
            decodeUtf8 fuel (others.drop following.length)
        else replacement :: decodeUtf8 fuel rest
      | _, _ => replacement :: decodeUtf8 fuel rest

/-- The runs of ASCII are unquoted, everything else is kept; the first argument is the run. -/
def unquoteFrom (run : Text) : Text → Text
  | [] =>
    let bytes := unquoteToBytes run.reverse
    decodeUtf8 bytes.length bytes
  | c :: rest =>
    if c.toNat < 128 then unquoteFrom (c :: run) rest
    else
      let bytes := unquoteToBytes run.reverse
      decodeUtf8 bytes.length bytes ++ c :: unquoteFrom [] rest

def unquote (t : Text) : Text := unquoteFrom [] t

/-! ## `posixpath.normpath` -/

/-- One component of a path; `done` is reversed. -/
def normalizeComponent (rooted : Bool) (done : List Text) (component : Text) : List Text :=
  if component = [] || component = ['.'] then done
  else if component ≠ ['.', '.'] || (!rooted && done.isEmpty) || done.head? = some ['.', '.'] then
    component :: done
  else done.drop 1

/-- Two slashes in front of a path are kept, three or more are one. -/
def initialSlashes (path : Text) : Nat :=
  let slashes := (path.takeWhile (· == '/')).length
  if slashes = 2 then 2 else min slashes 1

def normpath (path : Text) : Text :=
  let initial := initialSlashes path
  let components := ((split '/' path).foldl (normalizeComponent (initial ≠ 0)) []).reverse
  let normal := replicate initial '/' ++ join '/' components
  if normal.isEmpty then ['.'] else normal

theorem mem_foldl_normalizeComponent {rooted : Bool} {components done : List Text} {part : Text}
    (h : part ∈ components.foldl (normalizeComponent rooted) done) :
    part ∈ done ∨ part ∈ components := by
  induction components generalizing done with
  | nil => exact Or.inl h
  | cons component rest ih =>
    rcases ih h with h | h
    · unfold normalizeComponent at h
      split at h
      · exact Or.inl h
      · split at h
        · rcases mem_cons.mp h with rfl | h
          · exact Or.inr mem_cons_self
          · exact Or.inl h
        · exact Or.inl (mem_of_mem_drop h)
    · exact Or.inr (mem_cons_of_mem component h)

theorem mem_normpath {path : Text} (h : x ∈ normpath path) : x ∈ path ∨ x = '/' ∨ x = '.' := by
  unfold normpath at h
  simp only at h
  split at h
  · exact Or.inr (Or.inr (mem_singleton.mp h))
  · rcases mem_append.mp h with h | h
    · exact Or.inr (Or.inl (eq_of_mem_replicate h))
    · rcases mem_join h with rfl | ⟨part, hpart, hx⟩
      · exact Or.inr (Or.inl rfl)
      · rcases mem_foldl_normalizeComponent (mem_reverse.mp hpart) with hpart | hpart
        · exact absurd hpart not_mem_nil
        · exact Or.inl (mem_of_mem_split hpart hx)

end UrlParse
