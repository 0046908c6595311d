import WebGuard.Contracts.CheckpointUrls
import WebGuard.Crawler.Crawl

/-!
# Checkpoint and crawler URL forms

Three modules put the authority of a URL together: the validator, the crawler and the checkpoint.
They agree on names, on IPv4 addresses and on ports. The checkpoint alone forgets the brackets of an
IPv6 address, so that no checkpoint can be written for a crawl of such a host.
-/

namespace WebGuard

open UrlParse StandardLibrary List

section

variable [StandardLibrary] [NetworkLibrary]

omit [NetworkLibrary] in
theorem url_eq_iff {target : ValidatedTarget} {path : Text} (hpath : PlainPath path) :
    urlunsplit ⟨target.scheme, target.hostname ++ portTail target.port target.scheme, path, [], []⟩
        = target.origin.url path ↔
      isIPv6Host target.hostname = false := by
  have hne := target.host.ne_nil
  have hscheme : target.scheme ≠ [] := by
    rcases target.web with h | h <;> simp [h, http, https]
  rw [target.url_eq hpath, urlunsplit_absolute hscheme (by simp [hne]) hpath.1, authority_eq]
  cases hname : isIPv6Host target.hostname with
  | false => simp [(renderedHost_named target.host hname).1]
  | true =>
    obtain ⟨hhost, hchars⟩ := renderedHost_ipv6 target.host hname
    obtain ⟨c, rest, hcons⟩ := exists_cons_of_ne_nil hne
    have hbracket : c ≠ '[' := by
      rintro rfl
      exact absurd (hchars '[' (by simp [hcons])) (by decide)
    simp only [hhost, Bool.true_eq_false, iff_false]
    intro heq
    simp only [append_assoc, cons_append] at heq
    have htail := append_cancel_left heq
    rw [hcons] at htail
    simp [hbracket] at htail

/--
A URL that the crawler takes as canonical is canonical for the checkpoint exactly when the host of
the target is not an IPv6 address.
-/
theorem checkpoint_url_forms (laws : AddressLaws) {url : Text} {policy : ValidationPolicy}
    {resolver : Resolver} {fields : TargetFields}
    (haccepted : validateTargetUrl url policy resolver = .ok fields) {target : ValidatedTarget}
    (htarget : target.Of fields) {origin : Origin} (horigin : rootOrigin target = .ok origin)
    {rawHref baseUrl canonical : Text} {crawlPolicy : CrawlPolicy}
    (hcanonical : canonicalCandidate rawHref baseUrl origin crawlPolicy = .ok canonical)
    (fieldName : String) :
    canonicalUrl canonical fieldName = .ok canonical ↔ isIPv6Host fields.hostname = false := by
  obtain ⟨_, -, hfields⟩ := accepted_of_validateTargetUrl laws haccepted
  have hport : target.port ≤ 65535 := by
    rw [htarget.port]
    exact hfields.port
  rw [rootOrigin_eq horigin] at hcanonical
  obtain ⟨path, hpath, rfl, hlength⟩ := canonicalCandidate_spec hcanonical
  have hbound := crawlPolicy.length_bounds.2
  rw [canonicalUrl_url hport hpath (by omega), ← htarget.hostname, ← url_eq_iff hpath]
  simp only [Atomic.bind_ok_iff, require_eq_ok, decide_eq_true_eq, Except.ok.injEq]
  constructor
  · rintro ⟨-, h, -⟩
    exact h
  · intro h
    exact ⟨(), h, h⟩

end

/-! ## One target of each kind -/

@[reducible] def addressLibrary : StandardLibrary where
  lower := map Char.toLower
  nfkc := id
  ipAddress := fun t =>
    if t = "2001:4860:4860::8888".toList then some ⟨true, t⟩
    else if t = "8.8.8.8".toList then some ⟨false, t⟩
    else none
  lower_ascii := UrlParse.map_toLower_ascii

@[reducible] def publicNetwork : NetworkLibrary where
  idna := some
  properties := fun _ => ⟨true, false, false, false, false, false, false⟩
  quoted := fun t => String.ofList ('\'' :: t ++ ['\''])

def commercialPolicy : ValidationPolicy := ⟨.commercial, [], 2048⟩

theorem addressLibrary_laws : @AddressLaws addressLibrary := by
  let _ := addressLibrary
  have hcases : ∀ t a, ipAddress t = some a →
      t = "2001:4860:4860::8888".toList ∧ a = ⟨true, t⟩ ∨ t = "8.8.8.8".toList ∧ a = ⟨false, t⟩ := by
    intro t a h
    have h : (if t = "2001:4860:4860::8888".toList then some (⟨true, t⟩ : IpAddress)
      else if t = "8.8.8.8".toList then some ⟨false, t⟩ else none) = some a := h
    split at h
    · next ht => exact Or.inl ⟨ht, (Option.some.inj h).symm⟩
    · split at h
      · next ht => exact Or.inr ⟨ht, (Option.some.inj h).symm⟩
      · cases h
  constructor
  · intro t c h
    rcases hcases t _ h with ⟨-, ha⟩ | ⟨ht, ha⟩
    · cases ha
    · cases ha
      rw [ht]
      exact ⟨rfl, all_eq_true.mp (by decide)⟩
  · intro t c h
    rcases hcases t _ h with ⟨ht, ha⟩ | ⟨-, ha⟩
    · cases ha
      rw [ht]
      exact ⟨by decide, fun _ => ⟨by decide, all_eq_true.mp (by decide), by decide⟩⟩
    · cases ha

def TargetFields.crawled (fields : TargetFields) : Text × Text × Text × Nat :=
  (fields.normalisedUrl, fields.scheme, fields.hostname, fields.port)

theorem exists_fields_of_crawled (validated : Checked TargetFields)
    (parts : Text × Text × Text × Nat)
    (h : validated.toOption.map TargetFields.crawled = some parts) :
    ∃ fields, validated = .ok fields ∧ fields.crawled = parts := by
  cases validated with
  | error e => cases h
  | ok fields => exact ⟨fields, rfl, Option.some.inj h⟩

def namedTarget : @ValidatedTarget addressLibrary :=
  letI := addressLibrary
  { normalisedUrl := "https://example.com:8443/a/../b".toList
    scheme := https
    hostname := "example.com".toList
    port := 8443
    web := https_web
    host := .named (by decide) (all_eq_true.mp (by decide)) (by
      intro a h
      have hnone : ipAddress "example.com".toList = none := by decide
      rw [hnone] at h
      cases h) }

theorem checkpoint_url_forms_named :
    letI := addressLibrary
    letI := publicNetwork
    ∃ fields : TargetFields,
      validateTargetUrl "https://example.com:8443/a/../b".toList commercialPolicy
        (fun _ _ => .ok ["8.8.8.8".toList]) = .ok fields ∧
      namedTarget.Of fields ∧ isIPv6Host fields.hostname = false ∧
      canonicalUrl "https://example.com:8443/b".toList "target"
        = .ok "https://example.com:8443/b".toList := by
  let _ := addressLibrary
  let _ := publicNetwork
  obtain ⟨fields, haccepted, hcrawled⟩ := exists_fields_of_crawled
    (validateTargetUrl "https://example.com:8443/a/../b".toList commercialPolicy
      (fun _ _ => .ok ["8.8.8.8".toList]))
    ("https://example.com:8443/a/../b".toList, https, "example.com".toList, 8443)
    (by decide)
  simp only [TargetFields.crawled, Prod.mk.injEq] at hcrawled
  have htarget : namedTarget.Of fields :=
    ⟨hcrawled.1.symm, hcrawled.2.1.symm, hcrawled.2.2.1.symm, hcrawled.2.2.2.symm⟩
  have hname : isIPv6Host fields.hostname = false := by
    rw [← htarget.hostname]
    decide
  have horigin : rootOrigin namedTarget = .ok namedTarget.origin := by decide
  have hcanonical : canonicalCandidate namedTarget.normalisedUrl namedTarget.normalisedUrl
      namedTarget.origin samplePolicy = .ok "https://example.com:8443/b".toList := by
    decide
  exact ⟨fields, haccepted, htarget, hname,
    (checkpoint_url_forms addressLibrary_laws haccepted htarget horigin hcanonical "target").mpr
      hname⟩

def ipv6Target : @ValidatedTarget addressLibrary :=
  letI := addressLibrary
  { normalisedUrl := "https://[2001:4860:4860::8888]/".toList
    scheme := https
    hostname := "2001:4860:4860::8888".toList
    port := 443
    web := https_web
    host := .ipv6 (by decide) (all_eq_true.mp (by decide)) (by decide) }

/-- It is accepted, its root is canonical for the crawler, and no checkpoint may name it. -/
theorem ipv6_url_refused :
    letI := addressLibrary
    letI := publicNetwork
    ∃ fields : TargetFields,
      validateTargetUrl "https://[2001:4860:4860::8888]/".toList commercialPolicy
        (fun _ _ => .ok ["2001:4860:4860::8888".toList]) = .ok fields ∧
      ipv6Target.Of fields ∧ rootOrigin ipv6Target = .ok ipv6Target.origin ∧
      canonicalCandidate ipv6Target.normalisedUrl ipv6Target.normalisedUrl ipv6Target.origin
        samplePolicy = .ok "https://[2001:4860:4860::8888]/".toList ∧
      canonicalUrl "https://[2001:4860:4860::8888]/".toList "target" =
        invalid "checkpoint_url_non_canonical" "target must be canonical." := by
  let _ := addressLibrary
  let _ := publicNetwork
  obtain ⟨fields, haccepted, hcrawled⟩ := exists_fields_of_crawled
    (validateTargetUrl "https://[2001:4860:4860::8888]/".toList commercialPolicy
      (fun _ _ => .ok ["2001:4860:4860::8888".toList]))
    ("https://[2001:4860:4860::8888]/".toList, https, "2001:4860:4860::8888".toList, 443)
    (by decide)
  simp only [TargetFields.crawled, Prod.mk.injEq] at hcrawled
  exact ⟨fields, haccepted,
    ⟨hcrawled.1.symm, hcrawled.2.1.symm, hcrawled.2.2.1.symm, hcrawled.2.2.2.symm⟩,
    by decide, by decide, by decide⟩

end WebGuard
