import WebGuard.Contracts.PyText
import WebGuard.Crawler.Scope

/-!
# Owned targets

`canonicalize_owned_target_url` and `canonicalize_owned_target_hostname` of `owned_targets.py`: the
form a target has in an authorization, a permit and a job.
-/

namespace WebGuard.OwnedTargets

open PyJson UrlParse List

variable [StandardLibrary] [NetworkLibrary]

/-- A label of a host name, after it was encoded and put into lower case. -/
def isLabel (label : Text) : Bool :=
  !label.isEmpty && label.length ≤ 63 && label.head? ≠ some '-' && label.getLast? ≠ some '-'
    && label.all fun c => isAsciiLetter c || isAsciiDigit c || c = '-'

def canonicalizeOwnedTargetHostname (value : Text) : Checked Text :=
  let stripped := ((value.dropWhile isSpace).reverse.dropWhile isSpace).reverse
  let candidate := (stripped.reverse.dropWhile (· = '.')).reverse
  if candidate.isEmpty || candidate.contains '%' then
    invalid "owned_target_hostname_invalid" "Owned-target hostname is invalid."
  else if (StandardLibrary.ipAddress candidate).isSome then
    invalid "owned_target_hostname_ip_not_allowed"
      "Owned production authorizations require a DNS hostname, not an IP literal."
  else
    match NetworkLibrary.idna candidate with
    | none =>
      invalid "owned_target_hostname_invalid" "Owned-target hostname is not valid IDNA text."
    | some encoded =>
      let hostname := StandardLibrary.lower encoded
      if 253 < hostname.length then
        invalid "owned_target_hostname_invalid" "Owned-target hostname exceeds 253 characters."
      else if (split '.' hostname).length < 2 then
        invalid "owned_target_hostname_public_name_required"
          "Owned production authorizations require a fully qualified public DNS name."
      else if !(split '.' hostname).all isLabel then
        invalid "owned_target_hostname_invalid"
          "Owned-target hostname contains an invalid DNS label."
      else .ok hostname

/--
`parsed.path` of a URL with a scheme and a network location, as code points.

It is what follows `https://` and the network location, up to the query or the fragment.
-/
def targetPath (candidate : PyText) (parsed : SplitResult) : PyText :=
  let url := (candidate.dropWhile (· ≤ 32)).filter fun n => n ≠ 9 && n ≠ 10 && n ≠ 13
  (url.drop (8 + parsed.netloc.length)).takeWhile fun n => n ≠ 63 && n ≠ 35

/-- `path.split("/")`. -/
def pathSegments (path : PyText) : List PyText := path.splitOn 47

/-- The path of the canonical URL. -/
def rootedPath (path : PyText) : PyText :=
  if path.head? = some 47 then path else 47 :: path

/-- The host, with the port when it is not that of HTTPS. -/
def targetAuthority (hostname : Text) (port : Option Nat) : Text :=
  match port with
  | none => hostname
  | some port => if port = 443 then hostname else hostname ++ ':' :: Nat.toDigits 10 port

def canonicalizeOwnedTargetUrl (value : PyText) : Checked PyText :=
  let candidate := stripText value
  if candidate.isEmpty || 2048 < candidate.length || candidate.contains 92 then
    invalid "owned_target_url_invalid" "Owned-target URL is invalid or exceeds 2048 characters."
  else
    match urlsplit (characters candidate) with
    | none => invalid "owned_target_url_invalid" "Owned-target URL is invalid."
    | some parsed =>
      if StandardLibrary.lower parsed.scheme ≠ "https".toList then
        invalid "owned_target_https_required" "Owned production targets must use HTTPS."
      else if parsed.userinfo ≠ (none, none) then
        invalid "owned_target_credentials_not_allowed" "Owned-target URL cannot contain credentials."
      else if !parsed.query.isEmpty || !parsed.fragment.isEmpty then
        invalid "owned_target_query_fragment_not_allowed"
          "Owned-target URL cannot contain a query string or fragment."
      else
        match parsed.hostname with
        | none =>
          invalid "owned_target_hostname_missing" "Owned-target URL must contain a hostname."
        | some name =>
          match canonicalizeOwnedTargetHostname name, parsed.port with
          | .error e, _ => .error e
          | .ok _, none =>
            invalid "owned_target_port_invalid" "Owned-target URL contains an invalid port."
          | .ok hostname, some port =>
            let path := rootedPath (targetPath candidate parsed)
            if (pathSegments path).any fun segment => segment = [46] || segment = [46, 46] then
              invalid "owned_target_path_ambiguous"
                "Owned-target URL cannot contain dot path segments."
            else .ok (ofString "https://" ++ codePoints (targetAuthority hostname port) ++ path)

/-! ## How long a target gets -/

theorem length_of_hostname {value hostname : Text}
    (h : canonicalizeOwnedTargetHostname value = .ok hostname) : hostname.length ≤ 253 := by
  unfold canonicalizeOwnedTargetHostname at h
  dsimp only at h
  split at h
  · cases h
  · split at h
    · cases h
    · split at h
      · cases h
      · split at h
        · cases h
        · split at h
          · cases h
          · split at h
            · cases h
            · rename_i hlength _ _
              cases h
              omega

section

omit [StandardLibrary] [NetworkLibrary]

theorem length_targetPath_le (candidate : PyText) (parsed : SplitResult) :
    (targetPath candidate parsed).length ≤ candidate.length := by
  unfold targetPath
  dsimp only
  refine le_trans ( takeWhile_prefix _).length_le ?_
  rw [length_drop]
  refine le_trans (Nat.sub_le _ _) ?_
  exact le_trans (length_filter_le _ _) (dropWhile_suffix _).length_le

theorem length_rootedPath_le (path : PyText) : (rootedPath path).length ≤ path.length + 1 := by
  unfold rootedPath
  split <;> simp

theorem length_targetAuthority_le (hostname : Text) {parsed : SplitResult} {port : Option Nat}
    (h : parsed.port = some port) : (targetAuthority hostname port).length ≤ hostname.length + 6 := by
  unfold targetAuthority
  cases port with
  | none => exact Nat.le_add_right _ _
  | some n =>
    have hn : n ≤ 65535 := by
      unfold SplitResult.port at h
      split at h
      · cases h
      · split at h
        · rename_i hrange
          rw [Bool.and_eq_true, decide_eq_true_eq] at hrange
          cases h
          exact hrange.2
        · cases h
    have hdigits : (Nat.toDigits 10 n).length ≤ 5 := by
      rw [Nat.length_toDigits_le_iff (by decide) (by decide)]
      omega
    dsimp only
    split
    · exact Nat.le_add_right _ _
    · rw [length_append, length_cons]
      omega

end

theorem length_of_canonicalizeOwnedTargetUrl {value target : PyText}
    (h : canonicalizeOwnedTargetUrl value = .ok target) : target.length ≤ 2316 := by
  unfold canonicalizeOwnedTargetUrl at h
  dsimp only at h
  split at h
  · cases h
  rename_i hcandidate
  simp only [Bool.or_eq_true, decide_eq_true_eq, not_or, Nat.not_lt] at hcandidate
  split at h
  · cases h
  rename_i parsed _
  split at h
  · cases h
  split at h
  · cases h
  split at h
  · cases h
  split at h
  · cases h
  split at h
  · cases h
  · cases h
  rename_i hostname port hhostname hport
  split at h
  · cases h
  have hhost := length_of_hostname hhostname
  have hauthority := length_targetAuthority_le hostname hport
  have hpath := length_targetPath_le (stripText value) parsed
  have hrooted := length_rootedPath_le (targetPath (stripText value) parsed)
  have hscheme : (ofString "https://").length = 8 := rfl
  cases h
  rw [length_append, length_append, codePoints, length_map, hscheme]
  omega

end WebGuard.OwnedTargets
