import WebGuard.Detection.AttackSurface
import WebGuard.Lib.UrlJoin

/-!
# URLs on the origin of a target

`_same_origin` lets a relative reference pass. What was joined to a URL of the target is none, so
there the check says that the URL is on the target's scheme, host and port.
-/

namespace WebGuard.AttackSurface

open PyJson UrlParse StandardLibrary Option

/-! ## Texts that are not blank -/

theorem stripText_ne_nil {text : PyText} {n : Nat} (h : n ∈ text)
    (hspace : isSpace (asChar n) = false) : stripText text ≠ [] := by
  unfold stripText
  intro hnil
  rw [List.reverse_eq_nil_iff, List.dropWhile_eq_nil_iff] at hnil
  -- the character is not among the blanks in front
  have hmem : n ∈ text.dropWhile fun n => isSpace (asChar n) := by
    have happend := List.takeWhile_append_dropWhile (p := fun n => isSpace (asChar n)) (l := text)
    rw [← happend] at h
    rcases List.mem_append.mp h with htake | hdrop
    · have hblank := List.mem_takeWhile_imp htake
      rw [hspace] at hblank
      cases hblank
    · exact hdrop
  have hblank := hnil n (List.mem_reverse.mpr hmem)
  rw [hspace] at hblank
  cases hblank

variable {url base absolute : Text} {parsed : SplitResult}

theorem stripText_ne_nil_of_colon (h : ':' ∈ url) : stripText (codePoints url) ≠ [] :=
  stripText_ne_nil (List.mem_map_of_mem h) (by decide)

variable [StandardLibrary]

theorem colon_mem_of_urlsplit {p : SplitResult} (h : urlsplit url = some p)
    (hscheme : p.scheme ≠ []) : ':' ∈ url := by
  unfold urlsplit urlsplitWith at h
  simp only [ite_none_right_eq_some, some.injEq] at h
  obtain ⟨-, rfl⟩ := h
  dsimp only at hscheme
  unfold splitScheme at hscheme
  dsimp only at hscheme
  split at hscheme
  · next hcond =>
    simp only [Bool.and_eq_true] at hcond
    have hmem : ':' ∈ removeUnsafe url := by simpa [partition] using hcond.1.1
    exact (List.dropWhile_sublist _).subset (List.mem_of_mem_filter hmem)
  · exact absurd rfl hscheme

theorem hierarchical_of_web {scheme : Text} (h : scheme = http ∨ scheme = https) :
    Hierarchical scheme := by
  have hlower : lower scheme = scheme.map Char.toLower := by
    refine lower_ascii scheme fun c hc => ?_
    have hall : scheme.all (·.toNat < 128) = true := by
      rcases h with rfl | rfl <;> decide
    simpa using List.all_eq_true.mp hall c hc
  rcases h with rfl | rfl
  · exact ⟨by decide, by decide, hlower.trans (by decide), by decide, by decide⟩
  · exact ⟨by decide, by decide, hlower.trans (by decide), by decide, by decide⟩

theorem joined_eq_ok : joined base url = .ok absolute ↔ urljoin base url = some absolute := by
  unfold joined
  cases urljoin base url with
  | none => simp
  | some other => simp

/-! ## The target -/

/-- A URL with the scheme, the host and the port of the target. -/
def OnTarget (target : PyTarget) (url : Text) : Prop :=
  ∃ parsed, urlsplit url = some parsed ∧ onOrigin target parsed = some true

variable {target : PyTarget}

theorem onOrigin_eq_true :
    onOrigin target parsed = some true ↔
      ∃ port, parsed.port = some port ∧ parsed.scheme = target.scheme ∧
        lower (parsed.hostname.getD []) = target.hostname ∧
        port.getD (defaultPort parsed.scheme) = target.port := by
  unfold onOrigin
  simp [map_eq_some_iff, and_assoc]

theorem requireSameOrigin_eq_ok :
    ActiveDetection.requireSameOrigin target url = .ok () ↔ OnTarget target url := by
  unfold ActiveDetection.requireSameOrigin OnTarget
  cases hparsed : urlsplit url with
  | none => simp
  | some parsed =>
    simp only [some.injEq, exists_eq_left', onOrigin_eq_true]
    cases hport : parsed.port with
    | none => simp
    | some port =>
      simp only [some.injEq, exists_eq_left']
      by_cases hon : parsed.scheme = target.scheme ∧
          lower (parsed.hostname.getD []) = target.hostname ∧
          port.getD (defaultPort parsed.scheme) = target.port
      · rw [if_neg (by
          rw [not_or, not_or, not_not, not_not, not_not]
          exact hon)]
        exact ⟨fun _ => hon, fun _ => rfl⟩
      · rw [if_pos (by
          rw [not_and_or, not_and_or] at hon
          exact hon)]
        exact ⟨nofun, fun h => absurd h hon⟩

theorem sameOrigin_eq_true (hparsed : urlsplit url = some parsed) (hscheme : parsed.scheme ≠ []) :
    sameOrigin target url = .ok true ↔ OnTarget target url := by
  unfold sameOrigin OnTarget
  simp only [hparsed, some.injEq, exists_eq_left']
  rw [if_neg (by simp [hscheme])]
  split
  next hnone => simp [hnone]
  next same hsome => simp [hsome]

theorem exists_urlsplit_of_sameOrigin {same : Bool} (h : sameOrigin target url = .ok same) :
    ∃ parsed, urlsplit url = some parsed := by
  unfold sameOrigin at h
  split at h
  · cases h
  next parsed hparsed => exact ⟨parsed, hparsed⟩

section

variable (hweb : target.scheme = http ∨ target.scheme = https)

include hweb

variable {reference : Text}

theorem scheme_of_joined (hbase : OnTarget target base)
    (hjoined : joined base reference = .ok absolute) (hparsed : urlsplit absolute = some parsed) :
    parsed.scheme ≠ [] := by
  obtain ⟨b, hb, hon⟩ := hbase
  obtain ⟨-, -, hscheme, -⟩ := onOrigin_eq_true.mp hon
  have hhierarchical : Hierarchical b.scheme := hierarchical_of_web (hscheme ▸ hweb)
  exact scheme_of_urljoin hb hhierarchical (joined_eq_ok.mp hjoined) hparsed

theorem onTarget_of_joined (hbase : OnTarget target base)
    (hjoined : joined base reference = .ok absolute)
    (hsame : sameOrigin target absolute = .ok true) : OnTarget target absolute := by
  obtain ⟨parsed, hparsed⟩ := exists_urlsplit_of_sameOrigin hsame
  have hscheme := scheme_of_joined hweb hbase hjoined hparsed
  exact (sameOrigin_eq_true hparsed hscheme).mp hsame

theorem colon_mem_of_joined (hbase : OnTarget target base)
    (hjoined : joined base reference = .ok absolute)
    (hsame : sameOrigin target absolute = .ok true) : ':' ∈ absolute := by
  obtain ⟨parsed, hparsed⟩ := exists_urlsplit_of_sameOrigin hsame
  exact colon_mem_of_urlsplit hparsed (scheme_of_joined hweb hbase hjoined hparsed)

end

end WebGuard.AttackSurface
