import WebGuard.Crawler.NormalUrls

/-!
# Normal paths

What `_normalise_path` makes of a path: one or two slashes, the components that are left of it, and
perhaps a slash at the end (`normalisePath_eq`). Such a path is normal already, unless it is two
slashes: their normal form has three, and three are one (`normalisePath_self`).
-/

namespace WebGuard

open UrlParse List

/-! ## Components -/

/-- A component that `normpath` keeps. -/
structure Proper (part : Text) : Prop where
  ne_nil : part ≠ []
  ne_dot : part ≠ ['.']
  ne_dots : part ≠ ['.', '.']
  slash : '/' ∉ part

variable {c : Char} {t path q scheme : Text} {parts : List Text} {slashes : Nat}

theorem not_mem_of_mem_split {part : Text} (h : part ∈ split c t) : c ∉ part := by
  induction t generalizing part with
  | nil =>
    rw [split, mem_singleton] at h
    simp [h]
  | cons x rest ih =>
    rw [split] at h
    by_cases hx : x = c
    · rw [if_pos hx] at h
      rcases mem_cons.mp h with rfl | h
      · exact not_mem_nil
      · exact ih h
    · rw [if_neg hx] at h
      obtain ⟨first, others, hsplit⟩ := exists_cons_of_ne_nil (split_ne_nil c rest)
      rw [hsplit] at h ih
      rcases mem_cons.mp h with rfl | h
      · intro hmem
        rcases mem_cons.mp hmem with rfl | hmem
        · exact hx rfl
        · exact ih mem_cons_self hmem
      · exact ih (mem_cons_of_mem first h)

theorem split_of_not_mem (h : c ∉ t) : split c t = [t] := by
  induction t with
  | nil => rfl
  | cons x rest ih =>
    rw [mem_cons, not_or] at h
    rw [split, if_neg (Ne.symm h.1), ih h.2]

theorem split_append_cons {front : Text} (h : c ∉ front) (back : Text) :
    split c (front ++ c :: back) = front :: split c back := by
  induction front with
  | nil => rw [nil_append, split, if_pos rfl]
  | cons x rest ih =>
    rw [mem_cons, not_or] at h
    rw [cons_append, split, if_neg (Ne.symm h.1), ih h.2]

/-- Joined parts are split again. -/
theorem split_join (hne : parts ≠ []) (h : ∀ part ∈ parts, c ∉ part) :
    split c (join c parts) = parts := by
  induction parts with
  | nil => exact absurd rfl hne
  | cons part rest ih =>
    cases rest with
    | nil => exact split_of_not_mem (h part mem_cons_self)
    | cons next more =>
      rw [join, split_append_cons (h part mem_cons_self), ih (by simp)]
      · intro other hother
        exact h other (mem_cons_of_mem part hother)
      · simp

theorem split_replicate (c : Char) (n : Nat) (t : Text) :
    split c (replicate n c ++ t) = replicate n [] ++ split c t := by
  induction n with
  | zero => rfl
  | succ n ih => rw [replicate_succ, cons_append, split, if_pos rfl, ih]; rfl

/-- What is left of the components of a rooted path. -/
def resolved (path : Text) : List Text :=
  ((split '/' path).foldl (normalizeComponent true) []).reverse

theorem normalizeComponent_proper {part : Text} (h : Proper part) (done : List Text) :
    normalizeComponent true done part = part :: done := by
  unfold normalizeComponent
  simp [h.ne_nil, h.ne_dot, h.ne_dots]

/-- Proper components stay, in their order. -/
theorem foldl_proper (h : ∀ part ∈ parts, Proper part) (done : List Text) :
    parts.foldl (normalizeComponent true) done = parts.reverse ++ done := by
  induction parts generalizing done with
  | nil => rfl
  | cons part rest ih =>
    rw [foldl_cons, normalizeComponent_proper (h part mem_cons_self),
      ih fun other hother => h other (mem_cons_of_mem part hother), reverse_cons,
      append_assoc]
    rfl

/-- Only proper components are left. -/
theorem proper_foldl {done : List Text} (hparts : ∀ part ∈ parts, '/' ∉ part)
    (hdone : ∀ part ∈ done, Proper part) :
    ∀ part ∈ parts.foldl (normalizeComponent true) done, Proper part := by
  induction parts generalizing done with
  | nil => exact hdone
  | cons part rest ih =>
    rw [foldl_cons]
    refine ih (fun other hother => hparts other (mem_cons_of_mem part hother)) ?_
    intro other hother
    unfold normalizeComponent at hother
    split at hother
    · exact hdone other hother
    · next hkept =>
      have hkept : part ≠ [] ∧ part ≠ ['.'] := by simpa using hkept
      split at hother
      · next hpush =>
        rcases mem_cons.mp hother with rfl | hother
        · have hdots : other ≠ ['.', '.'] := by
            rintro rfl
            have htop : done.head? = some ['.', '.'] := by simpa using hpush
            exact (hdone _ (mem_of_mem_head? htop)).ne_dots rfl
          exact ⟨hkept.1, hkept.2, hdots, hparts other mem_cons_self⟩
        · exact hdone other hother
      · exact hdone other (mem_of_mem_drop hother)

theorem proper_resolved (path : Text) : ∀ part ∈ resolved path, Proper part := by
  intro part hpart
  have hnone : ∀ part ∈ ([] : List Text), Proper part := by simp
  exact proper_foldl (fun part hpart => not_mem_of_mem_split hpart) hnone part
    (mem_reverse.mp hpart)

theorem join_ne_nil (h : ∀ part ∈ parts, Proper part) (hne : parts ≠ []) :
    ∃ c rest, join '/' parts = c :: rest ∧ c ≠ '/' := by
  obtain ⟨part, others, rfl⟩ := exists_cons_of_ne_nil hne
  have hpart := h part mem_cons_self
  obtain ⟨c, rest, rfl⟩ := exists_cons_of_ne_nil hpart.ne_nil
  have hc : c ≠ '/' := by
    rintro rfl
    exact hpart.slash mem_cons_self
  cases others with
  | nil => exact ⟨c, rest, rfl, hc⟩
  | cons next more => exact ⟨c, rest ++ '/' :: join '/' (next :: more), by simp [join], hc⟩

/-! ## Rooted paths -/

/-- A path of slashes, components, and perhaps a slash at the end. -/
def rootedPath (slashes : Nat) (parts : List Text) (trailing : Bool) : Text :=
  replicate slashes '/' ++ join '/' parts ++ if trailing then ['/'] else []

/-- A rooted path resolves to its components. -/
theorem resolved_rootedPath (h : ∀ part ∈ parts, Proper part) (slashes : Nat) (trailing : Bool) :
    resolved (rootedPath slashes parts trailing) = parts := by
  have hskip : ∀ (n : Nat) (done : List Text),
      (replicate n []).foldl (normalizeComponent true) done = done := by
    intro n done
    induction n with
    | zero => rfl
    | succ n ih => rw [replicate_succ, foldl_cons]; exact ih
  have hplain : (split '/' (join '/' parts)).foldl (normalizeComponent true) [] = parts.reverse := by
    by_cases hne : parts = []
    · rw [hne]
      rfl
    · rw [split_join hne fun part hpart => (h part hpart).slash, foldl_proper h, append_nil]
  unfold resolved rootedPath
  rw [append_assoc, split_replicate, foldl_append, hskip]
  cases trailing with
  | false =>
    rw [if_neg (by simp), append_nil, hplain, reverse_reverse]
  | true =>
    rw [if_pos rfl, split_snoc, foldl_append, hplain]
    exact reverse_reverse parts

theorem initialSlashes_cases (h : path.head? = some '/') :
    initialSlashes path = 1 ∨ initialSlashes path = 2 := by
  obtain ⟨rest, rfl⟩ : ∃ rest, path = '/' :: rest := by
    cases path with
    | nil => simp at h
    | cons c rest => exact ⟨rest, by simpa using h⟩
  unfold initialSlashes
  simp only [takeWhile_cons, beq_self_eq_true, if_true, length_cons]
  split <;> omega

theorem takeWhile_replicate (n : Nat) (h : t.head? ≠ some '/') :
    (replicate n '/' ++ t).takeWhile (· == '/') = replicate n '/' := by
  rw [takeWhile_append_of_pos (by simp)]
  cases t with
  | nil => simp
  | cons c rest =>
    have hc : c ≠ '/' := by simpa using h
    simp [hc]

theorem initialSlashes_rootedPath (hslashes : slashes = 1 ∨ slashes = 2)
    (h : ∀ part ∈ parts, Proper part) {trailing : Bool} (hends : parts = [] → trailing = false) :
    initialSlashes (rootedPath slashes parts trailing) = slashes := by
  have hhead : (join '/' parts ++ if trailing then ['/'] else []).head? ≠ some '/' := by
    by_cases hne : parts = []
    · simp [hne, hends hne, join]
    · obtain ⟨c, rest, hjoin, hc⟩ := join_ne_nil h hne
      simpa [hjoin] using hc
  unfold initialSlashes rootedPath
  rw [append_assoc, takeWhile_replicate slashes hhead]
  rcases hslashes with rfl | rfl <;> rfl

/-- `normpath` of a rooted path. -/
theorem normpath_eq (h : path.head? = some '/') :
    normpath path = rootedPath (initialSlashes path) (resolved path) false := by
  unfold normpath resolved rootedPath
  rcases initialSlashes_cases h with heq | heq <;> simp [heq]

/-- `_normalise_path` of a clean rooted path. -/
theorem normalisePath_eq (hroot : path.head? = some '/')
    (hclean : (path.contains '\\' || path.any isControlOrSpace) = false) :
    normalisePath path = some (rootedPath (initialSlashes path) (resolved path)
      (path.getLast? = some '/' && !(initialSlashes path = 1 && (resolved path).isEmpty))) := by
  have hne : path.isEmpty = false := by
    cases path with
    | nil => simp at hroot
    | cons c rest => rfl
  have hhead : ∀ (parts : List Text) (trailing : Bool),
      (rootedPath (initialSlashes path) parts trailing).head? = some '/' := by
    intro parts trailing
    unfold rootedPath
    rcases initialSlashes_cases hroot with heq | heq <;> rw [heq] <;> rfl
  have hone : rootedPath (initialSlashes path) (resolved path) false = ['/'] ↔
      initialSlashes path = 1 ∧ resolved path = [] := by
    constructor
    · intro heq
      have hlength := congrArg length heq
      have hparts : resolved path = [] := by
        by_contra hparts
        obtain ⟨c, rest, hjoin, -⟩ := join_ne_nil (proper_resolved path) hparts
        simp only [rootedPath, hjoin, length_append, length_replicate, length_cons,
          length_nil] at hlength
        rcases initialSlashes_cases hroot with heq | heq <;> omega
      simp only [rootedPath, hparts, join, length_append, length_replicate,
        length_cons, length_nil] at hlength
      exact ⟨by simpa using hlength, hparts⟩
    · rintro ⟨hslashes, hparts⟩
      rw [hslashes, hparts]
      rfl
  have hfirst : (decide (path.head? = some '/') && decide
      ((rootedPath (initialSlashes path) (resolved path) false).head? ≠ some '/')) = false := by
    simp [hhead]
  have hends : (if decide (path.getLast? = some '/') && decide
        (rootedPath (initialSlashes path) (resolved path) false ≠ ['/']) then
        rootedPath (initialSlashes path) (resolved path) false ++ ['/']
      else rootedPath (initialSlashes path) (resolved path) false)
      = rootedPath (initialSlashes path) (resolved path)
        (path.getLast? = some '/' && !(initialSlashes path = 1 && (resolved path).isEmpty)) := by
    have happend : rootedPath (initialSlashes path) (resolved path) false ++ ['/']
        = rootedPath (initialSlashes path) (resolved path) true := by
      simp [rootedPath]
    have hcond : (decide (path.getLast? = some '/') && decide
        (rootedPath (initialSlashes path) (resolved path) false ≠ ['/']))
        = (decide (path.getLast? = some '/')
          && !(decide (initialSlashes path = 1) && (resolved path).isEmpty)) := by
      congr 1
      rw [Bool.eq_iff_iff]
      simpa [← not_and_or] using not_congr hone
    rw [hcond, happend]
    split
    · next htrailing => rw [htrailing]
    · next htrailing => rw [Bool.eq_false_iff.mpr htrailing]
  unfold normalisePath
  rw [if_neg (by rw [hclean]; simp), if_neg (by rw [hne]; simp), normpath_eq hroot]
  dsimp only
  rw [hfirst, if_neg Bool.false_ne_true, hends, if_neg (by rw [hhead]; simp)]

/-! ## Normal paths -/

/-- What `_normalise_path` answers with. -/
structure NormalPath (path : Text) (slashes : Nat) (parts : List Text) (trailing : Bool) : Prop where
  count : slashes = 1 ∨ slashes = 2
  proper : ∀ part ∈ parts, Proper part
  ends : parts = [] → trailing = true → slashes = 2
  eq : path = rootedPath slashes parts trailing

theorem join_snoc (c : Char) {front : List Text} (h : front ≠ []) (last : Text) :
    join c (front ++ [last]) = join c front ++ c :: last := by
  induction front with
  | nil => exact absurd rfl h
  | cons part rest ih =>
    cases rest with
    | nil => rfl
    | cons next more =>
      rw [cons_append, join, join, ih (by simp), append_assoc]
      · rfl
      · simp
      · simp

theorem exists_rootedPath_snoc (hslashes : slashes = 1 ∨ slashes = 2) (front : List Text)
    (last : Text) : ∃ t, rootedPath slashes (front ++ [last]) false = t ++ '/' :: last := by
  by_cases hfront : front = []
  · refine ⟨replicate (slashes - 1) '/', ?_⟩
    subst hfront
    rcases hslashes with rfl | rfl <;> simp [rootedPath, join, replicate]
  · refine ⟨replicate slashes '/' ++ join '/' front, ?_⟩
    simp [rootedPath, join_snoc '/' hfront]

theorem getLast_rootedPath (hslashes : slashes = 1 ∨ slashes = 2)
    (h : ∀ part ∈ parts, Proper part) (trailing : Bool) :
    (rootedPath slashes parts trailing).getLast?
      = if trailing then some '/' else (parts.getLast?.elim (some '/') (·.getLast?)) := by
  cases trailing with
  | true => simp [rootedPath]
  | false =>
    rw [if_neg Bool.false_ne_true]
    cases hlast : parts.getLast? with
    | none =>
      rw [getLast?_eq_none_iff] at hlast
      rcases hslashes with rfl | rfl <;> simp [rootedPath, hlast, join, replicate]
    | some last =>
      obtain ⟨front, rfl⟩ := getLast?_eq_some_iff.mp hlast
      have hne := (h last (by simp)).ne_nil
      obtain ⟨t, ht⟩ := exists_rootedPath_snoc hslashes front last
      rw [ht, append_cons, getLast?_append_of_ne_nil _ hne]
      rfl

/-- A normal path is its own normal form, but for two slashes alone. -/
theorem normalisePath_self {trailing : Bool} (h : NormalPath path slashes parts trailing)
    (hclean : (path.contains '\\' || path.any isControlOrSpace) = false) :
    normalisePath path = some path ↔ slashes = 2 → parts ≠ [] := by
  obtain ⟨hslashes, hproper, hends, rfl⟩ := h
  have hroot : (rootedPath slashes parts trailing).head? = some '/' := by
    unfold rootedPath
    rcases hslashes with rfl | rfl <;> rfl
  by_cases hempty : parts = []
  · subst hempty
    cases trailing with
    | true =>
      cases hends rfl rfl
      simp only [true_imp_iff, ne_eq, not_true_eq_false, iff_false]
      decide
    | false =>
      rcases hslashes with rfl | rfl
      · simp only [OfNat.one_ne_ofNat, false_imp_iff, iff_true]
        decide
      · simp only [true_imp_iff, ne_eq, not_true_eq_false, iff_false]
        decide
  · rw [normalisePath_eq hroot hclean, resolved_rootedPath hproper,
      initialSlashes_rootedPath hslashes hproper (fun h => absurd h hempty),
      getLast_rootedPath hslashes hproper]
    have hlast : trailing = false → parts.getLast?.elim (some '/') (·.getLast?) ≠ some '/' := by
      intro _
      obtain ⟨front, last, rfl⟩ := (eq_nil_or_concat parts).resolve_left hempty
      intro heq
      have hmem : '/' ∈ last := mem_of_getLast? (by simpa using heq)
      exact (hproper last (by simp)).slash hmem
    have hsome : parts.isEmpty = false := by simpa using hempty
    cases trailing with
    | true => simp [hempty, hsome]
    | false => simp [hempty, hlast rfl]

/-- Every answer is a normal path. -/
theorem exists_normalPath {p : Text} (h : normalisePath path = some p)
    (hroot : path = [] ∨ path.head? = some '/') :
    NormalPath p (if path = [] then 1 else initialSlashes path) (resolved path)
      (path.getLast? = some '/' && !(initialSlashes path = 1 && (resolved path).isEmpty)) := by
  rcases hroot with rfl | hroot
  · cases h
    exact ⟨Or.inl rfl, by simp [resolved, split, normalizeComponent], by simp, rfl⟩
  · have hclean : (path.contains '\\' || path.any isControlOrSpace) = false := by
      by_contra hnot
      unfold normalisePath at h
      rw [if_pos (Bool.not_eq_false _ ▸ hnot)] at h
      cases h
    have hne : path ≠ [] := by
      rintro rfl
      simp at hroot
    rw [normalisePath_eq hroot hclean] at h
    rw [if_neg hne]
    refine ⟨initialSlashes_cases hroot, proper_resolved path, ?_, (Option.some.inj h).symm⟩
    intro hempty htrailing
    have hone : initialSlashes path ≠ 1 := by
      intro hone
      simp [hempty, hone] at htrailing
    exact (initialSlashes_cases hroot).resolve_left hone

/-! ## Characters that are not slashes -/

theorem sum_countP_foldl (p : Char → Bool) (parts done : List Text) :
    ((parts.foldl (normalizeComponent true) done).map (·.countP p)).sum
      ≤ (parts.map (·.countP p)).sum + (done.map (·.countP p)).sum := by
  induction parts generalizing done with
  | nil => simp
  | cons part rest ih =>
    have hstep : ((normalizeComponent true done part).map (·.countP p)).sum
        ≤ part.countP p + (done.map (·.countP p)).sum := by
      unfold normalizeComponent
      split
      · omega
      · split
        · simp
        · cases done with
          | nil => simp
          | cons top below =>
            simp only [drop_succ_cons, drop_zero, map_cons, sum_cons]
            omega
    have := ih (normalizeComponent true done part)
    rw [foldl_cons, map_cons, sum_cons]
    omega

section

variable {p : Char → Bool} (hp : p '/' = false)

include hp

theorem countP_join (parts : List Text) :
    (join '/' parts).countP p = (parts.map (·.countP p)).sum := by
  induction parts with
  | nil => rfl
  | cons part rest ih =>
    cases rest with
    | nil => simp [join]
    | cons next more =>
      rw [join, countP_append, countP_cons_of_neg (by simp [hp]), ih]
      · rfl
      · simp

/-- No character is made. -/
theorem countP_normalisePath (h : normalisePath path = some q) (hroot : path.head? = some '/') :
    q.countP p ≤ path.countP p := by
  obtain ⟨hslashes, hproper, hends, rfl⟩ := exists_normalPath h (Or.inr hroot)
  have hparts : ((resolved path).map (·.countP p)).sum ≤ path.countP p := by
    have := sum_countP_foldl p (split '/' path) []
    rw [← countP_join hp (split '/' path), join_split] at this
    simpa [resolved, sum_reverse] using this
  have htail : ∀ b : Bool, (if b = true then ['/'] else []).countP p = 0 := by
    intro b
    cases b <;> simp [hp]
  have hfront : ∀ n : Nat, (replicate n '/').countP p = 0 := by
    intro n
    rw [countP_replicate]
    simp [hp]
  rw [rootedPath, countP_append, countP_append, countP_join hp, hfront, htail]
  omega

end

/-! ## Parameters -/

/-- What is behind the last slash. -/
def lastSegment (path : Text) : Text := (path.reverse.takeWhile (· != '/')).reverse

/-- The path of a URL that `urljoin` has taken apart and put together. -/
def rejoined (scheme path : Text) : Text :=
  let (before, params) := splitParams scheme path
  if params.isEmpty then before else before ++ ';' :: params

theorem exists_append_lastSegment (path : Text) : ∃ front, path = front ++ lastSegment path := by
  refine ⟨(path.reverse.dropWhile (· != '/')).reverse, ?_⟩
  rw [lastSegment, ← reverse_append, takeWhile_append_dropWhile, reverse_reverse]

/-- Joining drops a semicolon at the end, and nothing else. -/
theorem rejoined_cases (hscheme : usesParams.contains scheme = true) (path : Text) :
    (rejoined scheme path = path ∧ ¬ ∃ name, lastSegment path = name ++ [';'] ∧ ';' ∉ name)
      ∨ path = rejoined scheme path ++ [';']
        ∧ ∃ name, lastSegment path = name ++ [';'] ∧ ';' ∉ name := by
  obtain ⟨front, hfront⟩ := exists_append_lastSegment path
  have htake : path.take (path.length - (lastSegment path).length) = front := by
    generalize lastSegment path = last at hfront
    rw [hfront]
    simp
  unfold rejoined splitParams
  rw [if_pos hscheme]
  change (_ ∧ _) ∨ _
  have hlast : (path.reverse.takeWhile (· != '/')).reverse = lastSegment path := rfl
  dsimp only
  rw [hlast, htake]
  by_cases hmem : ';' ∈ lastSegment path
  · obtain ⟨name, params, hsplit, hname⟩ : ∃ name params,
        lastSegment path = name ++ ';' :: params ∧ ';' ∉ name := by
      refine ⟨_, _, append_partition hmem, ?_⟩
      intro h
      exact (mem_partition_fst h).1 rfl
    rw [hsplit, partition_append hname]
    dsimp only
    rw [if_pos rfl]
    by_cases hparams : params = []
    · refine Or.inr ⟨?_, name, by rw [hparams], hname⟩
      rw [hparams, if_pos (by rfl)]
      rw [hfront, hsplit, hparams]
      simp
    · refine Or.inl ⟨?_, ?_⟩
      · rw [if_neg (by simpa using hparams)]
        conv_rhs => rw [hfront, hsplit]
        simp
      · rintro ⟨other, hother, hnot⟩
        have hsame : name = other := by
          have hleft := congrArg (partition ';') hother
          rw [partition_append hname, partition_append hnot] at hleft
          exact congrArg Prod.fst hleft
        subst hsame
        simp [hparams] at hother
  · refine Or.inl ⟨?_, ?_⟩
    · rw [partition_of_not_mem hmem]
      simp
    · rintro ⟨name, hname, -⟩
      exact hmem (by simp [hname])

theorem exists_rejoined_append (hscheme : usesParams.contains scheme = true) (path : Text) :
    path = rejoined scheme path ∨ path = rejoined scheme path ++ [';'] := by
  rcases rejoined_cases hscheme path with ⟨heq, -⟩ | ⟨heq, -⟩
  · exact Or.inl heq.symm
  · exact Or.inr heq

theorem head_rejoined (hscheme : usesParams.contains scheme = true) (h : path.head? = some '/') :
    (rejoined scheme path).head? = some '/' := by
  rcases exists_rejoined_append hscheme path with heq | heq
  · rw [← heq]
    exact h
  · generalize rejoined scheme path = t at heq ⊢
    rw [heq] at h
    cases t with
    | nil => simp at h
    | cons c rest => simpa using h

theorem lastSegment_rootedPath (hslashes : slashes = 1 ∨ slashes = 2)
    (h : ∀ part ∈ parts, Proper part) (trailing : Bool) :
    lastSegment (rootedPath slashes parts trailing)
      = if trailing then [] else parts.getLast?.getD [] := by
  unfold lastSegment
  cases trailing with
  | true => simp [rootedPath]
  | false =>
    rw [if_neg Bool.false_ne_true]
    cases hlast : parts.getLast? with
    | none =>
      rw [getLast?_eq_none_iff] at hlast
      rcases hslashes with rfl | rfl <;> simp [rootedPath, hlast, join, replicate]
    | some last =>
      obtain ⟨front, rfl⟩ := getLast?_eq_some_iff.mp hlast
      have hplain : ∀ c ∈ last.reverse, (c != '/') = true := by
        intro c hc
        have := (h last (by simp)).slash
        simp only [bne_iff_ne, ne_eq]
        rintro rfl
        exact this (mem_reverse.mp hc)
      obtain ⟨t, ht⟩ := exists_rootedPath_snoc hslashes front last
      rw [ht]
      simp only [reverse_append, reverse_cons, append_assoc, singleton_append]
      rw [takeWhile_append_of_pos hplain]
      simp

/-! ## The form of a path that is canonicalised again -/

theorem clean_of_normalisePath (h : normalisePath path = some q)
    (hroot : path = [] ∨ path.head? = some '/') :
    (q.contains '\\' || q.any isControlOrSpace) = false := by
  rcases hroot with rfl | hroot
  · cases h
    decide
  · have hclean : path.contains '\\' = false ∧ path.any isControlOrSpace = false := by
      rw [← Bool.or_eq_false_iff]
      by_contra hnot
      unfold normalisePath at h
      rw [if_pos (Bool.not_eq_false _ ▸ hnot)] at h
      cases h
    have hnone : ∀ p : Char → Bool, p '/' = false → path.any p = false → q.any p = false := by
      intro p hp hpath
      have hcount := countP_normalisePath hp h hroot
      rw [any_eq_false] at hpath ⊢
      rw [countP_eq_zero.mpr hpath, Nat.le_zero, countP_eq_zero] at hcount
      exact hcount
    have hbackslash : ∀ t : Text, t.contains '\\' = t.any (· == '\\') := by
      intro t
      rw [contains_eq_any_beq]
      congr
      funext c
      exact Bool.beq_comm
    rw [hbackslash] at hclean ⊢
    rw [Bool.or_eq_false_iff]
    exact ⟨hnone _ (by decide) hclean.1, hnone _ (by decide) hclean.2⟩

/--
A path whose normal form is not changed by another pass.

Two slashes have a component behind them; the last component does not end with white space, and does
not have its first semicolon at its end. A path that ends with a slash has no last component here.
-/
structure Settled (path : Text) : Prop where
  slashes : initialSlashes path = 2 → resolved path ≠ []
  visible : path.getLast? ≠ some '/' → ∀ last ∈ (resolved path).getLast?,
    last.getLast?.any isSpace = false
  params : path.getLast? ≠ some '/' → ∀ last ∈ (resolved path).getLast?,
    ¬ ∃ name, last = name ++ [';'] ∧ ';' ∉ name

theorem head_rdropWhile (h : t.head? = some '/') : (t.rdropWhile isSpace).head? = some '/' := by
  obtain ⟨rest, rfl⟩ : ∃ rest, t = '/' :: rest := by
    cases t with
    | nil => simp at h
    | cons c rest => exact ⟨rest, by simpa using h⟩
  induction rest using reverseRecOn with
  | nil => decide
  | append_singleton front c ih =>
    rw [← cons_append, rdropWhile_concat]
    split
    · exact ih rfl
    · rfl

/-- The path is the same when it is met again exactly if it is settled. -/
theorem normalisePath_again (h : normalisePath path = some q)
    (hroot : path = [] ∨ path.head? = some '/') (hscheme : usesParams.contains scheme = true) :
    normalisePath (rejoined scheme (q.rdropWhile isSpace)) = some q ↔ Settled path := by
  have hclean := clean_of_normalisePath h hroot
  have hnormal := exists_normalPath h hroot
  obtain ⟨hslashes, hproper, hends, hq⟩ := hnormal
  have hhead : q.head? = some '/' := by
    rw [hq, rootedPath]
    rcases hslashes with heq | heq <;> rw [heq] <;> rfl
  have hlast := getLast_rootedPath hslashes hproper
    (path.getLast? = some '/' && !(initialSlashes path = 1 && (resolved path).isEmpty))
  have hsegment := lastSegment_rootedPath hslashes hproper
    (path.getLast? = some '/' && !(initialSlashes path = 1 && (resolved path).isEmpty))
  rw [← hq] at hlast hsegment
  have hself := normalisePath_self (exists_normalPath h hroot) hclean
  have htwo : ((if path = [] then 1 else initialSlashes path) = 2 → resolved path ≠ []) ↔
      (initialSlashes path = 2 → resolved path ≠ []) := by
    rcases hroot with rfl | hroot
    · simp [initialSlashes]
    · rw [if_neg (by rintro rfl; simp at hroot)]
  rw [htwo] at hself
  constructor
  · intro hagain
    have hdropped := head_rdropWhile hhead
    have hcases := rejoined_cases hscheme (q.rdropWhile isSpace)
    have hrooted := head_rejoined hscheme hdropped
    have hcount : ∀ p : Char → Bool, p '/' = false →
        q.countP p ≤ (rejoined scheme (q.rdropWhile isSpace)).countP p :=
      fun p hp => countP_normalisePath hp hagain hrooted
    have hshorter : ∀ p : Char → Bool,
        (rejoined scheme (q.rdropWhile isSpace)).countP p ≤ (q.rdropWhile isSpace).countP p := by
      intro p
      have hlost := exists_rejoined_append hscheme (q.rdropWhile isSpace)
      generalize rejoined scheme (q.rdropWhile isSpace) = t at hlost ⊢
      rcases hlost with heq | heq
      · rw [heq]
      · rw [heq, countP_append]
        omega
    have hvisible : q.getLast?.any isSpace = false := by
      by_contra hspace
      obtain ⟨c, hc, hspace⟩ : ∃ c, q.getLast? = some c ∧ isSpace c = true := by
        simpa [Option.any_eq_true] using hspace
      obtain ⟨front, hfront⟩ := getLast?_eq_some_iff.mp hc
      have hless : (q.rdropWhile isSpace).countP isSpace ≤ front.countP isSpace := by
        rw [hfront, rdropWhile_concat_pos _ _ _ hspace]
        exact (List.rdropWhile_prefix _ _).sublist.countP_le
      have htotal : q.countP isSpace = front.countP isSpace + 1 := by
        rw [hfront, countP_append]
        simp [hspace]
      have := hcount isSpace (by decide)
      have := hshorter isSpace
      omega
    rw [rdropWhile_eq_self hvisible] at hcases hcount hagain
    rcases hcases with ⟨heq, hparams⟩ | ⟨heq, -⟩
    · rw [heq] at hagain
      refine ⟨hself.mp hagain, ?_, ?_⟩
      · intro hopen last hmem
        rw [hlast] at hvisible
        simpa [hopen, Option.mem_def.mp hmem] using hvisible
      · intro hopen last hmem
        rw [hsegment] at hparams
        simpa [hopen, Option.mem_def.mp hmem] using hparams
    · have := hcount (· == ';') (by decide)
      conv at this => lhs; rw [heq, countP_append]
      simp at this
  · intro hsettled
    have hopen : ∀ last ∈ (resolved path).getLast?,
        (path.getLast? = some '/' && !(initialSlashes path = 1 && (resolved path).isEmpty)) = false →
          path.getLast? ≠ some '/' := by
      intro last hmem hflag hslash
      have hempty : (resolved path).isEmpty = false := by
        cases hparts : resolved path with
        | nil => simp [hparts] at hmem
        | cons => rfl
      simp [hslash, hempty] at hflag
    have hvisible : q.getLast?.any isSpace = false := by
      rw [hlast]
      split
      · decide
      · next hflag =>
        cases hparts : (resolved path).getLast? with
        | none => decide
        | some last =>
          exact hsettled.visible (hopen last hparts (Bool.eq_false_iff.mpr hflag)) last hparts
    have hparams : ¬ ∃ name, lastSegment q = name ++ [';'] ∧ ';' ∉ name := by
      rw [hsegment]
      split
      · simp
      · next hflag =>
        cases hparts : (resolved path).getLast? with
        | none => simp
        | some last =>
          exact hsettled.params (hopen last hparts (Bool.eq_false_iff.mpr hflag)) last hparts
    rw [rdropWhile_eq_self hvisible]
    rcases rejoined_cases hscheme q with ⟨heq, -⟩ | ⟨-, hlost⟩
    · rw [heq]
      exact hself.mpr hsettled.slashes
    · exact absurd hlost hparams

end WebGuard
