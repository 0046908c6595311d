import WebGuard.Lib.UrlParse

/-!
# What `urljoin` makes of an absolute base

The scheme of the base is one of the hierarchical ones. What is joined to it has a scheme of its own,
or is put together with the scheme of the base, so it is never a relative reference.
-/

namespace UrlParse

open StandardLibrary List Option

variable [StandardLibrary]

/-- A scheme whose URLs are joined and have a network location. -/
structure Hierarchical (scheme : Text) : Prop where
  letter : scheme.head?.any isAsciiLetter = true
  characters : scheme.all isSchemeCharacter = true
  lowered : lower scheme = scheme
  relative : usesRelative.contains scheme = true
  netloc : usesNetloc.contains scheme = true

namespace Hierarchical

variable {scheme : Text}

theorem ne_nil (h : Hierarchical scheme) : scheme ≠ [] := by
  rintro rfl
  exact absurd h.letter (by decide)

theorem colon_not_mem (h : Hierarchical scheme) : ':' ∉ scheme := by
  intro hmem
  exact absurd (all_eq_true.mp h.characters ':' hmem) (by decide)

theorem visible (h : Hierarchical scheme) : ∀ c ∈ scheme, 32 < c.toNat := fun c hc =>
  (ascii_of_isSchemeCharacter (all_eq_true.mp h.characters c hc)).1

theorem removeUnsafe_eq (h : Hierarchical scheme) (rest : Text) :
    removeUnsafe (scheme ++ ':' :: rest) =
      scheme ++ ':' :: rest.filter fun c => !(['\t', '\r', '\n'].contains c) := by
  have hdrop : (scheme ++ ':' :: rest).dropWhile (fun c => decide (c.toNat ≤ 32)) =
      scheme ++ ':' :: rest := by
    cases hscheme : scheme with
    | nil => exact absurd hscheme h.ne_nil
    | cons c others =>
      have hc : 32 < c.toNat := h.visible c (by simp [hscheme])
      rw [cons_append, dropWhile_cons, if_neg (by simp; omega)]
  have hkept : scheme.filter (fun c => !(['\t', '\r', '\n'].contains c)) = scheme := by
    rw [filter_eq_self]
    intro c hc
    simpa using kept_of_visible (h.visible c hc)
  unfold removeUnsafe
  rw [hdrop, filter_append, hkept, filter_cons_of_pos (by decide)]

theorem splitScheme_eq (h : Hierarchical scheme) (default rest : Text) :
    splitScheme default (removeUnsafe (scheme ++ ':' :: rest)) =
      (scheme, rest.filter fun c => !(['\t', '\r', '\n'].contains c)) := by
  rw [h.removeUnsafe_eq]
  unfold splitScheme
  rw [partition_append h.colon_not_mem]
  simp [h.letter, h.characters, h.lowered]

end Hierarchical

/-! ## What is put together -/

variable {r p b : SplitResult} {url default base absolute : Text} {c : Char}

section

omit [StandardLibrary]

/-- What `urlunsplit` writes behind the scheme and in front of the query. -/
def located (r : SplitResult) : Text :=
  if !r.netloc.isEmpty then
    '/' :: '/' :: r.netloc ++
      (if r.path.isEmpty || r.path.head? = some '/' then r.path else '/' :: r.path)
  else if r.path.take 2 = ['/', '/'] then '/' :: '/' :: r.path
  else if !r.scheme.isEmpty && usesNetloc.contains r.scheme &&
      (r.path.isEmpty || r.path.head? = some '/') then '/' :: '/' :: r.path
  else r.path

/-- What `urlunsplit` writes behind the path. -/
def queryTail (r : SplitResult) : Text :=
  (if r.query.isEmpty then [] else '?' :: r.query)
    ++ (if r.fragment.isEmpty then [] else '#' :: r.fragment)

theorem urlunsplit_eq (r : SplitResult) :
    urlunsplit r = (if r.scheme.isEmpty then [] else r.scheme ++ [':']) ++ located r ++ queryTail r := by
  have hwritten : urlunsplit r =
      (if r.fragment.isEmpty then
        (if r.query.isEmpty then
          (if r.scheme.isEmpty then located r else r.scheme ++ ':' :: located r)
        else (if r.scheme.isEmpty then located r else r.scheme ++ ':' :: located r) ++ '?' :: r.query)
      else
        (if r.query.isEmpty then
          (if r.scheme.isEmpty then located r else r.scheme ++ ':' :: located r)
        else (if r.scheme.isEmpty then located r else r.scheme ++ ':' :: located r) ++ '?' :: r.query)
          ++ '#' :: r.fragment) := rfl
  rw [hwritten]
  unfold queryTail
  by_cases hscheme : r.scheme.isEmpty = true <;> by_cases hquery : r.query.isEmpty = true <;>
    by_cases hfragment : r.fragment.isEmpty = true <;> simp [hscheme, hquery, hfragment]

theorem exists_urlunsplit (h : r.scheme ≠ []) : ∃ rest, urlunsplit r = r.scheme ++ ':' :: rest := by
  have hempty : r.scheme.isEmpty = false := by simpa using h
  rw [urlunsplit_eq, hempty]
  exact ⟨located r ++ queryTail r, by simp⟩

theorem exists_urlunparse (params : Text) (h : r.scheme ≠ []) :
    ∃ rest, urlunparse r params = r.scheme ++ ':' :: rest := by
  unfold urlunparse
  split
  · exact exists_urlunsplit h
  · exact exists_urlunsplit (r := { r with path := _ }) h

end

theorem scheme_of_urlsplit {scheme rest : Text} (h : Hierarchical scheme)
    (hp : urlsplit (scheme ++ ':' :: rest) = some p) : p.scheme = scheme := by
  unfold urlsplit urlsplitWith at hp
  rw [h.splitScheme_eq] at hp
  simp only [ite_none_right_eq_some, some.injEq] at hp
  rw [← hp.2]

theorem scheme_of_urlsplitWith {u : SplitResult} (hu : urlsplitWith default url = some u)
    (hne : u.scheme ≠ default) (hp : urlsplit url = some p) :
    p.scheme = u.scheme ∧ p.scheme ≠ [] := by
  unfold urlsplit at hp
  unfold urlsplitWith at hu hp
  simp only [ite_none_right_eq_some, some.injEq] at hu hp
  obtain ⟨-, rfl⟩ := hu
  obtain ⟨-, rfl⟩ := hp
  generalize removeUnsafe url = visible at hne ⊢
  dsimp only at hne ⊢
  unfold splitScheme at hne ⊢
  dsimp only at hne ⊢
  split at hne
  · next hcond =>
    rw [if_pos hcond, if_pos hcond]
    refine ⟨rfl, ?_⟩
    simp only [Bool.and_eq_true] at hcond
    obtain ⟨⟨-, hhead⟩, hchars⟩ := hcond
    have hascii : ∀ c ∈ (partition ':' visible).1, c.toNat < 128 := by
      intro c hc
      exact (ascii_of_isSchemeCharacter (all_eq_true.mp hchars c hc)).2
    rw [lower_ascii _ hascii]
    intro hnil
    rw [map_eq_nil_iff] at hnil
    rw [hnil] at hhead
    exact absurd hhead (by decide)
  · exact absurd rfl hne

/-! ## Characters -/

/-- A character that `urlsplit` keeps. -/
def IsKept (c : Char) : Prop := c ∉ ['\t', '\r', '\n']

instance : DecidablePred IsKept := fun c => inferInstanceAs (Decidable (c ∉ _))

/-- Every character of the parts of a URL was kept. -/
def SplitResult.Kept (r : SplitResult) : Prop :=
  (∀ c ∈ r.netloc, IsKept c) ∧ (∀ c ∈ r.path, IsKept c) ∧ (∀ c ∈ r.query, IsKept c) ∧
    ∀ c ∈ r.fragment, IsKept c

omit [StandardLibrary] in
theorem mem_partition_snd {x : Char} {t : Text} (h : x ∈ (partition c t).2.2) : x ∈ t :=
  (dropWhile_sublist _).subset (mem_of_mem_drop h)

theorem mem_splitScheme (h : c ∈ (splitScheme default url).2) : c ∈ url := by
  unfold splitScheme at h
  dsimp only at h
  split at h
  · exact mem_partition_snd h
  · exact h

omit [StandardLibrary] in
theorem mem_splitNetloc (h : c ∈ (splitNetloc url).1 ∨ c ∈ (splitNetloc url).2) : c ∈ url := by
  unfold splitNetloc at h
  split at h
  · rcases h with h | h
    · exact mem_cons_of_mem _ (mem_cons_of_mem _ ((List.takeWhile_prefix _).subset h))
    · exact mem_cons_of_mem _ (mem_cons_of_mem _ ((dropWhile_sublist _).subset h))
  · rcases h with h | h
    · cases h
    · exact h

theorem kept_of_urlsplitWith {u : SplitResult} (h : urlsplitWith default url = some u) :
    u.Kept := by
  have hkept : ∀ c ∈ removeUnsafe url, IsKept c := by
    intro c hc
    simpa [IsKept] using (mem_filter.mp hc).2
  unfold urlsplitWith at h
  simp only [ite_none_right_eq_some, some.injEq] at h
  obtain ⟨-, rfl⟩ := h
  have hrest : ∀ c ∈ (splitNetloc (splitScheme default (removeUnsafe url)).2).2, IsKept c :=
    fun c hc => hkept c (mem_splitScheme (mem_splitNetloc (.inr hc)))
  exact ⟨fun c hc => hkept c (mem_splitScheme (mem_splitNetloc (.inl hc))),
    fun c hc => hrest c (mem_partition_fst (mem_partition_fst hc).2).2,
    fun c hc => hrest c (mem_partition_fst (mem_partition_snd hc)).2,
    fun c hc => hrest c (mem_partition_snd hc)⟩

section

omit [StandardLibrary]

variable {path part : Text}

theorem mem_splitParams {scheme : Text}
    (h : c ∈ (splitParams scheme path).1 ∨ c ∈ (splitParams scheme path).2) : c ∈ path := by
  have hlast : ∀ x ∈ (path.reverse.takeWhile (· != '/')).reverse, x ∈ path := fun x hx =>
    mem_reverse.mp ((List.takeWhile_prefix _).subset (mem_reverse.mp hx))
  unfold splitParams at h
  split at h
  · dsimp only at h
    split at h
    · rcases h with h | h
      · rcases mem_append.mp h with h | h
        · exact mem_of_mem_take h
        · exact hlast c (mem_partition_fst h).2
      · exact hlast c (mem_partition_snd h)
    · rcases h with h | h
      · exact h
      · cases h
  · rcases h with h | h
    · exact h
    · cases h

theorem mem_foldl_resolveSegment {segments resolved : List Text}
    (h : part ∈ segments.foldl resolveSegment resolved) : part ∈ resolved ∨ part ∈ segments := by
  induction segments generalizing resolved with
  | nil => exact .inl h
  | cons segment rest ih =>
    rcases ih h with h | h
    · unfold resolveSegment at h
      split at h
      · exact .inl (mem_of_mem_drop h)
      · split at h
        · exact .inl h
        · rcases mem_cons.mp h with rfl | h
          · exact .inr mem_cons_self
          · exact .inl h
    · exact .inr (mem_cons_of_mem _ h)

/-- The segments without the empty ones in the middle. -/
def dropEmptyMiddle : List Text → List Text
  | [] => []
  | [only] => [only]
  | first :: rest => first :: rest.dropLast.filter (fun s => !s.isEmpty) ++ rest.getLast?.toList

theorem mem_dropEmptyMiddle {parts : List Text} (h : part ∈ dropEmptyMiddle parts) :
    part ∈ parts := by
  unfold dropEmptyMiddle at h
  split at h
  · exact h
  · exact h
  · rcases mem_append.mp h with h | h
    · rcases mem_cons.mp h with rfl | h
      · exact mem_cons_self
      · exact mem_cons_of_mem _ ((dropLast_sublist _).subset (mem_filter.mp h).1)
    · exact mem_cons_of_mem _ (mem_of_getLast? (mem_toList.mp h))

/-- The segments of the base in front of its last one. -/
def baseSegments (base : Text) : List Text :=
  if (split '/' base).getLast? = some [] then split '/' base else (split '/' base).dropLast

/-- The segments that are resolved. -/
def referenceSegments (base path : Text) : List Text :=
  if path.head? = some '/' then split '/' path
  else dropEmptyMiddle (baseSegments base ++ split '/' path)

theorem mem_referenceSegments (h : part ∈ referenceSegments base path) :
    part ∈ split '/' base ∨ part ∈ split '/' path := by
  unfold referenceSegments at h
  split at h
  · exact .inr h
  · rcases mem_append.mp (mem_dropEmptyMiddle h) with h | h
    · unfold baseSegments at h
      split at h
      · exact .inl h
      · exact .inl ((dropLast_sublist _).subset h)
    · exact .inr h

/-- The segments that are left; a dot at the end leaves an empty one. -/
def resolvedSegments (segments : List Text) : List Text :=
  if segments.getLast? = some ['.'] || segments.getLast? = some ['.', '.'] then
    (segments.foldl resolveSegment []).reverse ++ [[]]
  else (segments.foldl resolveSegment []).reverse

theorem mem_resolvedSegments {segments : List Text} (h : part ∈ resolvedSegments segments) :
    part = [] ∨ part ∈ segments := by
  have hresolved : part ∈ (segments.foldl resolveSegment []).reverse → part ∈ segments := by
    intro hpart
    rcases mem_foldl_resolveSegment (mem_reverse.mp hpart) with hpart | hpart
    · cases hpart
    · exact hpart
  unfold resolvedSegments at h
  split at h
  · rcases mem_append.mp h with h | h
    · exact .inr (hresolved h)
    · exact .inl (mem_singleton.mp h)
  · exact .inr (hresolved h)

theorem resolvePath_eq (base path : Text) :
    resolvePath base path =
      if (join '/' (resolvedSegments (referenceSegments base path))).isEmpty then ['/']
      else join '/' (resolvedSegments (referenceSegments base path)) := by
  rfl

theorem mem_resolvePath (h : c ∈ resolvePath base path) : c ∈ base ∨ c ∈ path ∨ c = '/' := by
  rw [resolvePath_eq] at h
  split at h
  · rw [mem_singleton.mp h]
    exact .inr (.inr rfl)
  · rcases mem_join h with rfl | ⟨part, hpart, hc⟩
    · exact .inr (.inr rfl)
    · rcases mem_resolvedSegments hpart with rfl | hpart
      · cases hc
      · rcases mem_referenceSegments hpart with hpart | hpart
        · exact .inl (mem_of_mem_split hpart hc)
        · exact .inr (.inl (mem_of_mem_split hpart hc))

theorem kept_urlunsplit (hscheme : ∀ c ∈ r.scheme, IsKept c) (h : r.Kept) :
    ∀ c ∈ urlunsplit r, IsKept c := by
  obtain ⟨hnetloc, hpath, hquery, hfragment⟩ := h
  have hcolon : IsKept ':' := by decide
  have hslash : IsKept '/' := by decide
  have hmark : IsKept '?' := by decide
  have hhash : IsKept '#' := by decide
  have hslashed : ∀ c ∈ '/' :: r.path, IsKept c := forall_mem_cons.mpr ⟨hslash, hpath⟩
  have hdoubled : ∀ c ∈ '/' :: '/' :: r.path, IsKept c := forall_mem_cons.mpr ⟨hslash, hslashed⟩
  have hlocated : ∀ c ∈ located r, IsKept c := by
    unfold located
    split
    · rw [cons_append, cons_append]
      refine forall_mem_cons.mpr ⟨hslash, forall_mem_cons.mpr ⟨hslash, ?_⟩⟩
      rw [forall_mem_append]
      refine ⟨hnetloc, ?_⟩
      split
      · exact hpath
      · exact hslashed
    · split
      · exact hdoubled
      · split
        · exact hdoubled
        · exact hpath
  have htail : ∀ c ∈ queryTail r, IsKept c := by
    unfold queryTail
    rw [forall_mem_append]
    constructor
    · split
      · exact fun c hc => absurd hc not_mem_nil
      · exact forall_mem_cons.mpr ⟨hmark, hquery⟩
    · split
      · exact fun c hc => absurd hc not_mem_nil
      · exact forall_mem_cons.mpr ⟨hhash, hfragment⟩
  rw [urlunsplit_eq, forall_mem_append, forall_mem_append]
  refine ⟨⟨?_, hlocated⟩, htail⟩
  split
  · exact fun c hc => absurd hc not_mem_nil
  · rw [forall_mem_append]
    exact ⟨hscheme, forall_mem_singleton.mpr hcolon⟩

theorem kept_urlunparse {params : Text} (hscheme : ∀ c ∈ r.scheme, IsKept c) (h : r.Kept)
    (hparams : ∀ c ∈ params, IsKept c) : ∀ c ∈ urlunparse r params, IsKept c := by
  unfold urlunparse
  split
  · exact kept_urlunsplit hscheme h
  · refine kept_urlunsplit hscheme ⟨h.1, ?_, h.2.2⟩
    intro c hc
    rcases mem_append.mp hc with hc | hc
    · exact h.2.1 c hc
    · rcases mem_cons.mp hc with rfl | hc
      · decide
      · exact hparams c hc

end

/-! ## `urljoin` -/

/-- The ends of `urljoin`: the base, a URL with another scheme, or what is put together. -/
inductive Joined (base : Text) (b : SplitResult) (url : Text) : Text → Prop where
  | base : url = [] → Joined base b url base
  | foreign (u : SplitResult) : urlsplitWith b.scheme url = some u → u.scheme ≠ b.scheme →
      Joined base b url url
  | built (u r : SplitResult) (params : Text) : urlsplitWith b.scheme url = some u →
      r.scheme = b.scheme → (r.netloc = u.netloc ∨ r.netloc = b.netloc) →
      (∀ c ∈ urlunparse r params, IsKept c) → Joined base b url (urlunparse r params)

/-- The three ends of `urljoin`. -/
theorem urljoin_cases (hb : urlsplit base = some b) (hscheme : Hierarchical b.scheme)
    (h : urljoin base url = some absolute) : Joined base b url absolute := by
  have hbase : base ≠ [] := by
    rintro rfl
    have hnil : urlsplit [] = some ⟨[], [], [], [], []⟩ := by
      rfl
    rw [hnil] at hb
    cases hb
    exact hscheme.ne_nil rfl
  unfold urljoin at h
  rw [if_neg (by simpa using hbase)] at h
  by_cases hurl : url = []
  · subst hurl
    rw [if_pos (by rfl)] at h
    cases h
    exact .base rfl
  rw [if_neg (by simpa using hurl), hb, bind_eq_bind, bind_some] at h
  obtain ⟨u, hu, h⟩ := bind_eq_some_iff.mp h
  dsimp only at h
  by_cases hsame : u.scheme = b.scheme
  · have hnetloc : usesNetloc.contains u.scheme = true := hsame ▸ hscheme.netloc
    rw [if_neg (by simpa [hsame] using hscheme.relative)] at h
    have hchars : ∀ c ∈ u.scheme, IsKept c := fun c hc =>
      kept_of_visible ((hsame ▸ hscheme).visible c hc)
    have hbkept := kept_of_urlsplitWith hb
    have hukept := kept_of_urlsplitWith hu
    have hbase : ∀ c, c ∈ (splitParams b.scheme b.path).1 ∨ c ∈ (splitParams b.scheme b.path).2 →
        IsKept c := fun c hc => hbkept.2.1 c (mem_splitParams hc)
    have hreference : ∀ c, c ∈ (splitParams u.scheme u.path).1 ∨
        c ∈ (splitParams u.scheme u.path).2 → IsKept c := fun c hc =>
      hukept.2.1 c (mem_splitParams hc)
    split at h
    · cases h
      exact .built u _ _ hu hsame (.inl rfl) (kept_urlunparse hchars
        ⟨hukept.1, fun c hc => hreference c (.inl hc), hukept.2.2⟩
        fun c hc => hreference c (.inr hc))
    · split at h
      · cases h
        refine .built u _ _ hu hsame (.inr rfl) (kept_urlunparse hchars
          ⟨hbkept.1, fun c hc => hbase c (.inl hc), ?_, hukept.2.2.2⟩
          fun c hc => hbase c (.inr hc))
        dsimp only
        split
        · exact hbkept.2.2.1
        · exact hukept.2.2.1
      · cases h
        refine .built u _ _ hu hsame (.inr rfl) (kept_urlunparse hchars
          ⟨hbkept.1, fun c hc => ?_, hukept.2.2⟩ fun c hc => hreference c (.inr hc))
        rcases mem_resolvePath hc with hc | hc | rfl
        · exact hbase c (.inl hc)
        · exact hreference c (.inl hc)
        · decide
  · rw [if_pos (by simp [hsame])] at h
    cases h
    exact .foreign u hu hsame

/-- What is joined has a scheme. -/
theorem scheme_of_urljoin (hb : urlsplit base = some b) (hscheme : Hierarchical b.scheme)
    (h : urljoin base url = some absolute) (hp : urlsplit absolute = some p) : p.scheme ≠ [] := by
  cases urljoin_cases hb hscheme h with
  | base hurl =>
    rw [hb] at hp
    cases hp
    exact hscheme.ne_nil
  | foreign u hu hne => exact (scheme_of_urlsplitWith hu hne hp).2
  | built u r params hu hr hnetloc hkept =>
    obtain ⟨rest, hrest⟩ := exists_urlunparse params (hr ▸ hscheme.ne_nil)
    rw [hrest] at hp
    rw [scheme_of_urlsplit (hr ▸ hscheme) hp, hr]
    exact hscheme.ne_nil

/-- Nothing that `urlsplit` removes is in what is joined. -/
theorem kept_of_urljoin (hb : urlsplit base = some b) (hscheme : Hierarchical b.scheme)
    (h : urljoin base url = some absolute) (hp : urlsplit absolute = some p)
    (hsame : p.scheme = b.scheme) (hbase : url = [] → ∀ c ∈ base, IsKept c) :
    ∀ c ∈ absolute, IsKept c := by
  cases urljoin_cases hb hscheme h with
  | base hurl => exact hbase hurl
  | foreign u hu hne => exact absurd ((scheme_of_urlsplitWith hu hne hp).1.symm.trans hsame) hne
  | built u r params hu hr hnetloc hkept => exact hkept

theorem path_within (h : urlsplit url = some r) (hscheme : r.scheme ≠ [])
    (hnetloc : r.netloc ≠ []) (hkept : ∀ c ∈ url, IsKept c) :
    r.path <:+: url.takeWhile fun c => c ≠ '?' && c ≠ '#' := by
  obtain ⟨before, located, hvisible, hchars, -, hlocated, hpath⟩ := exists_located h hscheme hnetloc
  have hfilter : removeUnsafe url = url.dropWhile fun c => decide (c.toNat ≤ 32) := by
    unfold removeUnsafe
    rw [filter_eq_self]
    intro c hc
    simpa [IsKept] using hkept c ((dropWhile_sublist _).subset hc)
  have hurl : url = (url.takeWhile fun c => decide (c.toNat ≤ 32)) ++ before ++ [':', '/', '/']
      ++ (located.takeWhile fun c => !isAuthorityEnd c)
      ++ located.dropWhile fun c => !isAuthorityEnd c := by
    have happend := takeWhile_append_dropWhile (p := fun c => decide (c.toNat ≤ 32)) (l := url)
    rw [← hfilter, hvisible] at happend
    refine happend.symm.trans ?_
    simp [takeWhile_append_dropWhile]
  -- nothing in front of the path is a question mark or a number sign
  have hfront : ∀ c ∈ (url.takeWhile fun c => decide (c.toNat ≤ 32)) ++ before ++ [':', '/', '/']
      ++ (located.takeWhile fun c => !isAuthorityEnd c), (c ≠ '?' && c ≠ '#') = true := by
    intro c hc
    simp only [mem_append] at hc
    rcases hc with ((hc | hc) | hc) | hc
    · have hlow : c.toNat ≤ 32 := by simpa using mem_takeWhile_imp hc
      have hne : ∀ d : Char, d.toNat ≤ 32 → d ≠ '?' ∧ d ≠ '#' := by
        rintro d hd
        constructor <;> rintro rfl <;> exact absurd hd (by decide)
      simpa using hne c hlow
    · have hscheme := all_eq_true.mp hchars c hc
      have hne : c ≠ '?' ∧ c ≠ '#' := by
        constructor <;> rintro rfl <;> exact absurd hscheme (by decide)
      simpa using hne
    · have hall : [':', '/', '/'].all (fun c => c ≠ '?' && c ≠ '#') = true := by decide
      exact all_eq_true.mp hall c hc
    · have hend := mem_takeWhile_imp hc
      have hne : c ≠ '?' ∧ c ≠ '#' := by
        constructor <;> rintro rfl <;> exact absurd hend (by decide)
      simpa using hne
  rw [hurl, takeWhile_append_of_pos hfront, ← hpath]
  exact (suffix_append _ _).isInfix

end UrlParse
