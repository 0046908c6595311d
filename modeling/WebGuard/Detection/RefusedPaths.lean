import WebGuard.Crawler.RootedPaths
import WebGuard.Detection.AttackSurface
import WebGuard.Executor.Policies

/-!
# Paths that the crawler refuses

The crawler decodes the path of a link and looks for blocked segments in it. Most of them contain one
of the keywords of discovery, which looks for these in the path as it is written.
-/

namespace WebGuard.AttackSurface

open PyJson UrlParse StandardLibrary List
open FindingContract (LowerTable)

/-! ## Decoding -/

/-- ASCII without a percent sign. -/
def isPlain (path : Text) : Bool := path.all fun c => c.toNat < 128 && c ≠ '%'

variable {path t : Text}

theorem isPlain_iff : isPlain path = true ↔ ∀ c ∈ path, c.toNat < 128 ∧ c ≠ '%' := by
  simp [isPlain]

theorem unquoteToBytes_plain (h : '%' ∉ t) : unquoteToBytes t = t.map Char.toNat := by
  induction t with
  | nil => rfl
  | cons c rest ih =>
    rw [mem_cons, not_or] at h
    have hbyte : unquoteToBytes (c :: rest) = c.toNat :: unquoteToBytes rest := by
      rw [unquoteToBytes]
      intro a b others hc _
      exact h.1 hc.symm
    rw [hbyte, ih h.2, map_cons]

theorem decodeUtf8_ascii (h : ∀ c ∈ t, c.toNat < 128) :
    decodeUtf8 (t.map Char.toNat).length (t.map Char.toNat) = t := by
  induction t with
  | nil => rfl
  | cons c rest ih =>
    have hc : c.toNat < 128 := h c mem_cons_self
    have hrest := ih fun d hd => h d (mem_cons_of_mem c hd)
    rw [map_cons, length_cons]
    unfold decodeUtf8
    rw [if_pos hc, Char.ofNat_toNat, hrest]

theorem unquoteFrom_plain {run : Text} (hrun : ∀ c ∈ run, c.toNat < 128 ∧ c ≠ '%')
    (h : ∀ c ∈ t, c.toNat < 128 ∧ c ≠ '%') : unquoteFrom run t = run.reverse ++ t := by
  induction t generalizing run with
  | nil =>
    have hpercent : '%' ∉ run.reverse := fun hmem => (hrun '%' (mem_reverse.mp hmem)).2 rfl
    unfold unquoteFrom
    rw [unquoteToBytes_plain hpercent, append_nil]
    exact decodeUtf8_ascii fun c hc => (hrun c (mem_reverse.mp hc)).1
  | cons c rest ih =>
    have hc := h c mem_cons_self
    have hrest := ih (forall_mem_cons.mpr ⟨hc, hrun⟩) fun d hd => h d (mem_cons_of_mem c hd)
    rw [unquoteFrom, if_pos hc.1, hrest]
    simp

theorem unquote_plain (h : isPlain path = true) : unquote path = path :=
  unquoteFrom_plain (fun _ hc => absurd hc not_mem_nil) (isPlain_iff.mp h)

/-! ## Segments -/

theorem split_cons_self (c : Char) (t : Text) : split c (c :: t) = [] :: split c t := by
  rw [split, if_pos rfl]

theorem mem_split_normpath {segment : Text} (h : segment ∈ split '/' (normpath path)) :
    segment = [] ∨ segment = ['.'] ∨ segment ∈ split '/' path := by
  unfold normpath at h
  dsimp only at h
  split at h
  · rcases mem_cons.mp h with rfl | h
    · exact .inr (.inl rfl)
    · cases h
  · rw [split_replicate, mem_append] at h
    rcases h with h | h
    · exact .inl (eq_of_mem_replicate h)
    · by_cases hnil : ((split '/' path).foldl
          (normalizeComponent (decide (initialSlashes path ≠ 0))) []).reverse = []
      · rw [hnil] at h
        exact .inl (mem_singleton.mp h)
      · have hparts : ∀ part ∈ ((split '/' path).foldl
            (normalizeComponent (decide (initialSlashes path ≠ 0))) []).reverse,
            part ∈ split '/' path := by
          intro part hpart
          rcases mem_foldl_normalizeComponent (mem_reverse.mp hpart) with hpart | hpart
          · cases hpart
          · exact hpart
        rw [split_join hnil fun part hpart => not_mem_of_mem_split (hparts part hpart)] at h
        exact .inr (.inr (hparts segment h))

theorem mem_split_normalisePath {normal segment : Text} (h : normalisePath path = some normal)
    (hsegment : segment ∈ split '/' normal) :
    segment = [] ∨ segment = ['.'] ∨ segment ∈ split '/' path := by
  -- slashes at the ends only add empty segments
  have hfront : ∀ t : Text, (∀ s ∈ split '/' t, s = [] ∨ s = ['.'] ∨ s ∈ split '/' path) →
      ∀ s ∈ split '/' ('/' :: t), s = [] ∨ s = ['.'] ∨ s ∈ split '/' path := by
    intro t ht
    rw [split_cons_self]
    exact forall_mem_cons.mpr ⟨.inl rfl, ht⟩
  have hback : ∀ t : Text, (∀ s ∈ split '/' t, s = [] ∨ s = ['.'] ∨ s ∈ split '/' path) →
      ∀ s ∈ split '/' (t ++ ['/']), s = [] ∨ s = ['.'] ∨ s ∈ split '/' path := by
    intro t ht
    rw [split_snoc, forall_mem_append]
    exact ⟨ht, forall_mem_singleton.mpr (.inl rfl)⟩
  have hnormpath : ∀ s ∈ split '/' (normpath path), s = [] ∨ s = ['.'] ∨ s ∈ split '/' path :=
    fun s hs => mem_split_normpath hs
  unfold normalisePath at h
  split at h
  · cases h
  split at h
  · cases h
    refine .inl ?_
    rw [split_cons_self, split] at hsegment
    simpa using hsegment
  rw [Option.some.injEq] at h
  subst h
  revert segment
  have hfirst : ∀ s ∈ split '/' (if (decide (path.head? = some '/') &&
      decide ((normpath path).head? ≠ some '/')) = true then '/' :: normpath path
      else normpath path), s = [] ∨ s = ['.'] ∨ s ∈ split '/' path := by
    split
    · exact hfront _ hnormpath
    · exact hnormpath
  generalize (if (decide (path.head? = some '/') &&
      decide ((normpath path).head? ≠ some '/')) = true then '/' :: normpath path
      else normpath path) = rooted at hfirst ⊢
  have hlast : ∀ s ∈ split '/' (if (decide (path.getLast? = some '/') &&
      decide (rooted ≠ ['/'])) = true then rooted ++ ['/'] else rooted),
      s = [] ∨ s = ['.'] ∨ s ∈ split '/' path := by
    split
    · exact hback _ hfirst
    · exact hfirst
  generalize (if (decide (path.getLast? = some '/') &&
      decide (rooted ≠ ['/'])) = true then rooted ++ ['/'] else rooted) = ended at hlast ⊢
  split
  · exact fun s hs => hfront _ hlast s hs
  · exact fun s hs => hlast s hs

theorem infix_of_mem_split {c : Char} {part : Text} (h : part ∈ split c t) : part <:+: t := by
  induction t generalizing part with
  | nil =>
    rw [split, mem_singleton] at h
    rw [h]
  | cons x rest ih =>
    rw [split] at h
    by_cases hx : x = c
    · rw [if_pos hx] at h
      rcases mem_cons.mp h with rfl | h
      · exact nil_infix
      · exact (ih h).trans (suffix_cons x rest).isInfix
    · rw [if_neg hx] at h
      have hjoin := join_split c rest
      obtain ⟨first, others, hsplit⟩ := exists_cons_of_ne_nil (split_ne_nil c rest)
      rw [hsplit] at h ih hjoin
      rcases mem_cons.mp h with rfl | h
      · refine List.IsPrefix.isInfix ?_
        rw [cons_prefix_cons]
        refine ⟨rfl, ?_⟩
        rw [← hjoin]
        cases others with
        | nil => exact prefix_rfl
        | cons next more => exact prefix_append first _
      · exact (ih (mem_cons_of_mem first h)).trans (suffix_cons x rest).isInfix

theorem toLower_eq_slash {c : Char} (h : c.toLower = '/') : c = '/' := by
  by_cases hc : c.toNat < 65 ∨ 90 < c.toNat
  · rw [char_toLower_eq_self hc] at h
    exact h
  · have hcapitals : ∀ n < 91, 65 ≤ n → 90 < (Char.ofNat n).toLower.toNat := by decide
    have hc' := hcapitals c.toNat (by omega) (by omega)
    rw [Char.ofNat_toNat, h] at hc'
    exact absurd hc' (by decide)

theorem split_map_toLower (t : Text) :
    split '/' (t.map Char.toLower) = (split '/' t).map (map Char.toLower) := by
  induction t with
  | nil => rfl
  | cons x rest ih =>
    rw [map_cons, split, split]
    by_cases hx : x = '/'
    · subst hx
      rw [if_pos (by decide), if_pos rfl, ih]
      rfl
    · rw [if_neg fun hlower => hx (toLower_eq_slash hlower), if_neg hx, ih]
      obtain ⟨first, others, hsplit⟩ := exists_cons_of_ne_nil (split_ne_nil '/' rest)
      rw [hsplit]
      rfl

/-! ## Keywords -/

theorem hasKeyword_of_part {text other : PyText} (h : hasKeyword text = true)
    (hwithin : text <:+: other) : hasKeyword other = true := by
  unfold hasKeyword at h ⊢
  obtain ⟨keyword, hkeyword, hfound⟩ := any_eq_true.mp h
  have hfound : keyword <:+: text := of_decide_eq_true hfound
  exact any_eq_true.mpr ⟨keyword, hkeyword, decide_eq_true (hfound.trans hwithin)⟩

/-- The blocked segments that have a keyword in them. -/
def namedSegments : List Text :=
  defaultBlockedPathSegments.filter fun segment => hasKeyword (codePoints segment)

/-- The blocked segments without a keyword. -/
def unnamedSegments : List Text :=
  defaultBlockedPathSegments.filter fun segment => !hasKeyword (codePoints segment)

example : unnamedSegments =
    ["close-account", "confirm-order", "log-out", "place-order",
      "terminate-account"].map (·.toList) := by
  decide

variable [StandardLibrary] [LowerTable]

/-- Whether the crawler skips a link with this path as destructive. -/
def crawlerRefuses (path : Text) : Bool :=
  match normalisePath path with
  | none => false
  | some normal => isDestructivePath normal defaultBlockedPathSegments

/-- A path that the crawler refuses though no keyword is written in it: decoded, it has a backslash or
a control character, a blocked segment without a keyword, or one that is not written plainly. -/
def refusedUnnamed (path : Text) : Bool :=
  match normalisePath path with
  | none => false
  | some normal =>
    let decoded := lower (unquote normal)
    decoded.contains '\\' || decoded.any isControlOrSpace
      || (split '/' decoded).any unnamedSegments.contains
      || (!isPlain path && (split '/' decoded).any namedSegments.contains)

omit [StandardLibrary] [LowerTable] in
theorem any_blocked {segments : List Text} :
    ((segments.filter fun s => !s.isEmpty).any defaultBlockedPathSegments.contains) = true ↔
      segments.any unnamedSegments.contains = true ∨ segments.any namedSegments.contains = true := by
  have hnil : [] ∉ defaultBlockedPathSegments := by decide
  simp only [any_eq_true, mem_filter, contains_iff_mem, unnamedSegments,
    namedSegments]
  constructor
  · rintro ⟨segment, ⟨hmem, -⟩, hblocked⟩
    cases hnamed : hasKeyword (codePoints segment) with
    | false => exact .inl ⟨segment, hmem, hblocked, by simp [hnamed]⟩
    | true => exact .inr ⟨segment, hmem, hblocked, hnamed⟩
  · have hne : ∀ segment ∈ defaultBlockedPathSegments, (!segment.isEmpty) = true := by
      rintro (_ | ⟨c, rest⟩) hmem
      · exact absurd hmem hnil
      · rfl
    rintro (⟨segment, hmem, hblocked, -⟩ | ⟨segment, hmem, hblocked, -⟩)
    · exact ⟨segment, ⟨hmem, hne segment hblocked⟩, hblocked⟩
    · exact ⟨segment, ⟨hmem, hne segment hblocked⟩, hblocked⟩

omit [LowerTable] in
theorem crawlerRefuses_of_refusedUnnamed (h : refusedUnnamed path = true) :
    crawlerRefuses path = true := by
  unfold refusedUnnamed at h
  unfold crawlerRefuses
  split at h
  · cases h
  next normal hnormal =>
  unfold isDestructivePath
  simp only [Bool.or_eq_true, Bool.and_eq_true, any_blocked] at h ⊢
  rcases h with (h | h) | ⟨-, h⟩
  · exact .inl h
  · exact .inr (.inl h)
  · exact .inr (.inr h)

omit [StandardLibrary] [LowerTable] in
theorem isPlain_normalisePath {normal : Text} (h : normalisePath path = some normal)
    (hplain : isPlain path = true) : isPlain normal = true := by
  rw [isPlain_iff] at hplain ⊢
  intro c hc
  rcases mem_split (c := '/') hc with rfl | ⟨part, hpart, hc⟩
  · decide
  · rcases mem_split_normalisePath h hpart with rfl | rfl | hpart
    · cases hc
    · rw [mem_singleton.mp hc]
      decide
    · exact hplain c (mem_of_mem_split hpart hc)

omit [StandardLibrary] in
theorem lower_codePoints (h : ∀ c ∈ t, c.toNat < 128) :
    LowerTable.lower (codePoints t) = codePoints (t.map Char.toLower) := by
  have hascii : ∀ n ∈ codePoints t, n < 128 := by
    intro n hn
    obtain ⟨c, hc, rfl⟩ := mem_map.mp hn
    exact h c hc
  rw [LowerTable.lower_ascii _ hascii]
  unfold codePoints
  rw [map_map, map_map]
  refine map_congr_left fun c hc => ?_
  have hall : ∀ n < 128, (if 65 ≤ n ∧ n ≤ 90 then n + 32 else n) = (Char.ofNat n).toLower.toNat := by
    decide
  have hc := hall c.toNat (h c hc)
  rw [Char.ofNat_toNat] at hc
  exact hc

theorem refusedUnnamed_of_crawlerRefuses (h : crawlerRefuses path = true)
    (hnone : hasKeyword (LowerTable.lower (codePoints path)) = false) :
    refusedUnnamed path = true := by
  unfold crawlerRefuses at h
  split at h
  · cases h
  next normal hnormal =>
  unfold refusedUnnamed
  rw [hnormal]
  unfold isDestructivePath at h
  simp only [Bool.or_eq_true, Bool.and_eq_true, any_blocked] at h ⊢
  rcases h with h | h | h
  · exact .inl (.inl h)
  · exact .inl (.inr h)
  · refine .inr ⟨?_, h⟩
    rw [Bool.not_eq_true']
    by_contra hnot
    have hplain : isPlain path = true := by simpa using hnot
    have hplain' := isPlain_normalisePath hnormal hplain
    have hascii : ∀ c ∈ path, c.toNat < 128 := fun c hc => (isPlain_iff.mp hplain c hc).1
    have hascii' : ∀ c ∈ normal, c.toNat < 128 := fun c hc => (isPlain_iff.mp hplain' c hc).1
    -- a plain path is decoded segment by segment
    rw [unquote_plain hplain', lower_ascii normal hascii', split_map_toLower] at h
    obtain ⟨lowered, hlowered, hnamed⟩ := any_eq_true.mp h
    obtain ⟨segment, hsegment, rfl⟩ := mem_map.mp hlowered
    have hnamed : segment.map Char.toLower ∈ namedSegments := contains_iff_mem.mp hnamed
    obtain ⟨hblocked, hkeyword⟩ := mem_filter.mp hnamed
    have hwithin : segment <:+: path := by
      rcases mem_split_normalisePath hnormal hsegment with rfl | rfl | hmem
      · exact nil_infix
      · exact absurd hblocked (by decide)
      · exact infix_of_mem_split hmem
    have hcodes : codePoints (segment.map Char.toLower) <:+:
        LowerTable.lower (codePoints path) := by
      rw [lower_codePoints hascii]
      exact (hwithin.map Char.toLower).map Char.toNat
    rw [hasKeyword_of_part hkeyword hcodes] at hnone
    cases hnone

end WebGuard.AttackSurface
