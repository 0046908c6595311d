import WebGuard.Executor.TargetChecks
import WebGuard.Properties.CheckpointUrls
import WebGuard.Properties.PermitCodec

/-!
# What an accepted target is

The validation of a target, the crawl and the connection each take the normalised URL apart, and they
find the same scheme, host and port in it. The two canonicalisers write the same URL, but only one of
them refuses control characters.
-/

namespace WebGuard

open PyJson UrlParse StandardLibrary Atomic List

section

variable [StandardLibrary] [NetworkLibrary]

/-! ## The target that is scanned -/

/--
**An accepted target is public, and everybody who takes its URL apart finds its fields.**

Another validation gives the same target, with the normalised URL in the place of the original one,
if no white space ends the URL and it is not too long.
-/
theorem accepted_target (laws : HostLaws) {value : Text → Option IpAddresses.Address}
    (values : AddressValues value) {url : PyText} {policy : ValidationPolicy}
    (hmode : policy.mode = .commercial) {resolver : Resolver} {target : PyTarget}
    (h : validateTarget url policy resolver = .ok target) :
    (∃ raw, resolver target.hostname target.port = .ok raw ∧ raw ≠ [] ∧
        ∀ t ∈ raw ++ target.resolvedAddresses, PublicAddress value t) ∧
      (validateTarget target.normalisedUrl policy resolver =
          .ok { target with originalUrl := target.normalisedUrl } ↔
        stripText target.normalisedUrl = target.normalisedUrl ∧
          target.normalisedUrl.length ≤ policy.maximumUrlLength) ∧
      (∃ crawled : ValidatedTarget, crawled.Of target.fields) ∧
      (∀ crawled : ValidatedTarget, crawled.Of target.fields →
        rootOrigin crawled = .ok crawled.origin) ∧
      ∃ path, requestPath target = .ok path ∧
        target.normalisedUrl = normalUrl target.scheme target.hostname target.port path := by
  obtain ⟨path, hnormal, hurl, hvisible, raw, hraw, hne, haddresses⟩ :=
    normalised_of_accepted laws h
  refine ⟨⟨raw, ?_, hne, publicAddress_of_validateAddresses values hmode haddresses⟩, ?_,
    ⟨⟨characters target.normalisedUrl, target.scheme, target.hostname, target.port, hnormal.web,
      hnormal.host⟩, rfl, rfl, rfl, rfl⟩, ?_, path, hnormal.requestPath_eq_ok hurl rfl rfl rfl, hurl⟩
  · unfold resolvedBy at hraw
    split at hraw
    · cases hraw
    · cases hraw
    · next heq =>
      cases hraw
      exact heq
  · rw [hurl, hnormal.stripText_eq, hnormal.validateTarget_iff]
    constructor
    · rintro ⟨hlength, -, _, _, -, -, -, heq⟩
      have htidy : normalUrl target.scheme target.hostname target.port path =
          normalUrl target.scheme target.hostname target.port (trimEnd path) :=
        congrArg PyTarget.originalUrl heq
      rw [← htidy] at hlength
      exact ⟨htidy.symm, hlength⟩
    · rintro ⟨htidy, hlength⟩
      rw [normalUrl_inj htidy]
      refine ⟨hlength, hvisible, raw, _, hraw, hne, haddresses, ?_⟩
      obtain ⟨original, normalised, scheme, hostname, port, addresses⟩ := target
      simp only at hurl
      rw [hurl]
  · intro crawled hof
    have hcrawled : crawled.normalisedUrl = characters (normalUrl target.scheme target.hostname
        target.port path) := hof.normalisedUrl.trans (congrArg characters hurl)
    rw [hnormal.rootOrigin_eq_ok hcrawled hof.scheme hof.hostname hof.port, ValidatedTarget.origin,
      hof.scheme, hof.hostname, hof.port]
    rfl

/-! ## The target that is authorised -/

/-- A resolver that answers every host with addresses, and with public ones alone. -/
def PublicResolver (value : Text → Option IpAddresses.Address) (resolver : Resolver) : Prop :=
  ∀ hostname port, ∃ raw, resolver hostname port = .ok raw ∧ raw ≠ [] ∧
    ∀ t ∈ raw, PublicAddress value t

variable {value : Text → Option IpAddresses.Address}

theorem commercial_of_publicAddress (values : AddressValues value) {t : Text}
    (h : PublicAddress value t) :
    ∃ stored, validateCommercialAddress t = .ok stored := by
  obtain ⟨a, ha, hpublic, -⟩ := h
  obtain ⟨address, haddress⟩ := values.parsed t a ha
  refine ⟨address.compressed, ?_⟩
  unfold validateCommercialAddress
  rw [haddress]
  simp only [values.properties t a ha]
  rw [bind_ok_iff]
  refine ⟨(), ?_, rfl⟩
  rw [require_eq_ok]
  cases hunmapped : a.unmapped with
  | v4 e => rwa [hunmapped] at hpublic
  | v6 e => rwa [hunmapped] at hpublic

theorem exists_addresses (values : AddressValues value)
    {policy : ValidationPolicy} (hmode : policy.mode = .commercial) {resolver : Resolver}
    (hpublic : PublicResolver value resolver) (hostname : Text) (port : Nat) :
    ∃ raw addresses, resolvedBy resolver hostname port = .ok raw ∧ raw ≠ [] ∧
      validateAddresses policy hostname raw = .ok addresses := by
  obtain ⟨raw, hraw, hne, hall⟩ := hpublic hostname port
  obtain ⟨outputs, houtputs⟩ := exists_mapM_ok_iff.mpr fun t ht =>
    commercial_of_publicAddress values (hall t ht)
  refine ⟨raw, sortedTexts outputs, by unfold resolvedBy; rw [hraw]; rfl, hne, ?_⟩
  unfold validateAddresses
  rw [hmode]
  simp only [houtputs]
  rfl

/-- The URL of a target has the host and the port of the target. -/
def SameEndpoint (target : PyTarget) (url : PyText) : Prop :=
  ∃ parsed, urlsplit (characters url) = some parsed ∧ parsed.hostname = some target.hostname ∧
    effectivePort parsed = some target.port

/-- The tests that an execution makes of a target that was bound and authorised as `canonical`. -/
structure PassesTests [UnicodeTables] (target : PyTarget) (canonical : PyText) : Prop where
  preflight : ∀ authorization : TargetAuthorization, authorization.target = canonical →
    authorization.check = .ok () → preflightTarget authorization target = .ok ()
  context : ∀ record now, record.target = canonical → record.statusAt now = .active →
    requireBoundContext record record.organizationId target.normalisedUrl record.authorizationId now
      = .ok record
  plan : ∀ record now, record.target = canonical → record.statusAt now = .active →
    requireBoundPlan record record.organizationId target.normalisedUrl record.authorizationId now
      = .ok record

theorem passesTests [UnicodeTables] {target : PyTarget} {canonical : PyText}
    (hscheme : target.scheme = https) (hurl : target.normalisedUrl = canonical) :
    PassesTests target canonical where
  preflight := by
    rintro authorization rfl hcheck
    unfold TargetAuthorization.check at hcheck
    obtain ⟨url, -, hcheck⟩ := bind_ok hcheck
    obtain ⟨_, hsame, hcheck⟩ := bind_ok hcheck
    obtain ⟨_, -, hcheck⟩ := bind_ok hcheck
    obtain ⟨_, -, hcheck⟩ := bind_ok hcheck
    obtain ⟨_, -, hcheck⟩ := bind_ok hcheck
    rw [require_eq_ok, decide_eq_true_eq] at hsame
    rw [hsame] at hcheck
    unfold preflightTarget
    rw [hurl]
    cases hparsed : urlsplit (characters authorization.target) with
    | none => simp [hparsed, invalid] at hcheck
    | some parsed =>
      simp only [hparsed, require_eq_ok] at hcheck
      simp only [bind_ok_iff, require_eq_ok, decide_eq_true_eq]
      exact ⟨(), hscheme, (), trivial, hcheck⟩
  context record now hrecord hactive :=
    requireBound_eq_ok.mpr ⟨rfl, hrecord.trans hurl.symm, rfl, hactive, rfl⟩
  plan record now hrecord hactive :=
    requireBound_eq_ok.mpr ⟨rfl, hrecord.trans hurl.symm, rfl, hactive, rfl⟩

/--
**The scanner accepts a canonical target as it is exactly if it has no control characters, does not
end with white space, and is not too long; and then no test refuses it.**
-/
theorem canonical_target_accepted_iff [UnicodeTables] (laws : HostLaws)
    {value : Text → Option IpAddresses.Address} (values : AddressValues value)
    {policy : ValidationPolicy} (hmode : policy.mode = .commercial) {resolver : Resolver}
    (hpublic : PublicResolver value resolver) {url canonical : PyText}
    (h : OwnedTargets.canonicalizeOwnedTargetUrl url = .ok canonical) :
    (∃ target, validateTarget canonical policy resolver = .ok target ∧
        target.normalisedUrl = canonical ∧ SameEndpoint target canonical ∧
        PassesTests target canonical) ↔
      (∀ n ∈ canonical, 32 ≤ n ∧ n ≠ 127) ∧ stripText canonical = canonical ∧
        canonical.length ≤ policy.maximumUrlLength := by
  obtain ⟨hostname, port, path, hnormal, rfl⟩ := OwnedTargets.normalUrl_of_canonicalize laws h
  have hpath : ∀ n ∈ path, n ∈ normalUrl https hostname port path := fun n hn =>
    mem_append_right _ hn
  constructor
  · rintro ⟨target, haccepted, hurl, -, -⟩
    obtain ⟨hlength, hvisible, _, _, -, -, -, rfl⟩ := hnormal.validateTarget_iff.mp haccepted
    have htidy : trimEnd path = path := normalUrl_inj hurl
    rw [htidy] at hlength hvisible
    refine ⟨?_, by rw [hnormal.stripText_eq, htidy], hlength⟩
    intro n hn
    rcases mem_append.mp hn with hn | hn
    · obtain ⟨c, hc, rfl⟩ := mem_map.mp hn
      have hrange := hnormal.front_visible c hc
      omega
    · exact hvisible n hn
  · rintro ⟨hvisible, htidy, hlength⟩
    rw [hnormal.stripText_eq] at htidy
    have htrim := normalUrl_inj htidy
    obtain ⟨raw, addresses, hraw, hne, haddresses⟩ :=
      exists_addresses values hmode hpublic hostname port
    refine ⟨_, hnormal.validateTarget_iff.mpr ⟨?_, ?_, raw, addresses, hraw, hne, haddresses, rfl⟩,
      htidy, ⟨_, hnormal.urlsplit_eq, ?_, hnormal.effectivePort_eq⟩, passesTests rfl htidy⟩
    · rw [htrim]
      exact hlength
    · rw [htrim]
      exact fun n hn => hvisible n (hpath n hn)
    · exact hostname_authority hnormal.host port https rfl

end

/-! ## One host -/

@[reducible] def transitionLibrary : StandardLibrary where
  lower := map Char.toLower
  nfkc := id
  ipAddress := fun t =>
    if t = "8.8.8.8".toList then some ⟨false, t⟩
    else if t = "2001:470::5efe:a00:1".toList then some ⟨true, t⟩
    else none
  lower_ascii := UrlParse.map_toLower_ascii

def publicAddress : IpAddresses.IPv4Address := IpAddresses.ipv4 8 8 8 8

def isatapAddress : IpAddresses.IPv6Address :=
  IpAddresses.ipv6 [0x2001, 0x470, 0, 0, 0, 0x5efe, 0xa00, 1]

def transitionValue (t : Text) : Option IpAddresses.Address :=
  if t = "8.8.8.8".toList then some (.v4 publicAddress)
  else if t = "2001:470::5efe:a00:1".toList then some (.v6 isatapAddress)
  else none

@[reducible] def transitionNetwork : NetworkLibrary where
  idna := fun t => if isAscii t then some t else none
  properties := fun t =>
    match transitionValue t with
    | some a => addressProperties a.unmapped
    | none => ⟨false, false, false, false, false, false, false⟩
  quoted := fun t => String.ofList ('\'' :: t ++ ['\''])

theorem transition_cases {t : Text} {a : IpAddress} (h : transitionLibrary.ipAddress t = some a) :
    t = "8.8.8.8".toList ∧ a = ⟨false, t⟩ ∨ t = "2001:470::5efe:a00:1".toList ∧ a = ⟨true, t⟩ := by
  have h : (if t = "8.8.8.8".toList then some (⟨false, t⟩ : IpAddress)
    else if t = "2001:470::5efe:a00:1".toList then some ⟨true, t⟩ else none) = some a := h
  split at h
  · next ht => exact Or.inl ⟨ht, (Option.some.inj h).symm⟩
  · split at h
    · next ht => exact Or.inr ⟨ht, (Option.some.inj h).symm⟩
    · cases h

theorem transition_laws : @HostLaws transitionLibrary transitionNetwork := by
  let _ := transitionLibrary
  let _ := transitionNetwork
  refine ⟨⟨?_, ?_⟩, ?_, ?_, ?_⟩
  · intro t c h
    rcases transition_cases h with ⟨rfl, ha⟩ | ⟨-, ha⟩
    · cases ha
      exact ⟨rfl, all_eq_true.mp (by decide)⟩
    · cases ha
  · intro t c h
    rcases transition_cases h with ⟨-, ha⟩ | ⟨rfl, ha⟩
    · cases ha
    · cases ha
      exact ⟨by decide, fun _ => ⟨by decide, all_eq_true.mp (by decide), by decide⟩⟩
  · intro t c h
    rcases transition_cases h with ⟨-, ha⟩ | ⟨rfl, ha⟩
    · cases ha
    · cases ha
      decide
  · intro t e h
    have h : (if isAscii t then some t else none) = some e := h
    split at h
    · next hascii =>
      cases h
      exact hascii
    · cases h
  · intro t hascii _
    have hall : isAscii t = true := all_eq_true.mpr fun c hc => by simpa using hascii c hc
    show (if isAscii t then some t else none) = some t
    rw [if_pos hall]

theorem transition_values :
    letI := transitionLibrary
    letI := transitionNetwork
    AddressValues transitionValue := by
  let _ := transitionLibrary
  let _ := transitionNetwork
  refine ⟨?_, ?_, ?_⟩
  · intro t address h
    rcases transition_cases h with ⟨rfl, rfl⟩ | ⟨rfl, rfl⟩
    · exact ⟨.v4 publicAddress, by decide, rfl, by decide⟩
    · exact ⟨.v6 isatapAddress, by decide, rfl, by decide⟩
  · intro t a h
    unfold transitionValue at h
    split at h
    · next ht => exact ⟨⟨false, t⟩, by rw [ht]; rfl⟩
    · split at h
      · next ht => exact ⟨⟨true, t⟩, by rw [ht]; rfl⟩
      · cases h
  · intro t a h
    show (match transitionValue t with
      | some a => addressProperties a.unmapped
      | none => ⟨false, false, false, false, false, false, false⟩) = _
    rw [h]

def answering (address : String) : Resolver := fun _ _ => .ok [address.toList]

theorem publicAddress_public : PublicAddress transitionValue "8.8.8.8".toList :=
  ⟨.v4 publicAddress, by decide, by decide, fun _ he => absurd he not_mem_nil⟩

theorem answering_public : PublicResolver transitionValue (answering "8.8.8.8") := by
  intro hostname port
  refine ⟨["8.8.8.8".toList], rfl, cons_ne_nil _ _, ?_⟩
  intro t ht
  rw [mem_singleton.mp ht]
  exact publicAddress_public

def scannedTarget (url normalised : String) (address : String) : PyTarget where
  originalUrl := codePoints url.toList
  normalisedUrl := codePoints normalised.toList
  scheme := https
  hostname := "h.com".toList
  port := 443
  resolvedAddresses := [address.toList]

theorem accepted_target_sample :
    letI := transitionLibrary
    letI := transitionNetwork
    validateTarget (codePoints "HTTPS://H.com:443".toList) commercialPolicy (answering "8.8.8.8")
        = .ok (scannedTarget "HTTPS://H.com:443" "https://h.com/" "8.8.8.8") ∧
      validateTarget (codePoints "https://h.com/".toList) commercialPolicy (answering "8.8.8.8")
        = .ok (scannedTarget "https://h.com/" "https://h.com/" "8.8.8.8") ∧
      PublicAddress transitionValue "8.8.8.8".toList := by
  let _ := transitionLibrary
  let _ := transitionNetwork
  have haccepted : validateTarget (codePoints "HTTPS://H.com:443".toList) commercialPolicy
      (answering "8.8.8.8") = .ok (scannedTarget "HTTPS://H.com:443" "https://h.com/" "8.8.8.8") := by
    decide
  obtain ⟨⟨raw, -, -, hpublic⟩, hagain, -⟩ :=
    accepted_target transition_laws transition_values rfl haccepted
  exact ⟨haccepted, hagain.mpr ⟨by decide, by decide⟩,
    hpublic _ (mem_append_right raw mem_cons_self)⟩

/--
The second target differs from the first in the URL that was given, and in the white space that an
empty query leaves at the end of the path. An address of ISATAP is accepted, and the one in it is
private.
-/
theorem accepted_target_differs :
    letI := transitionLibrary
    letI := transitionNetwork
    (∃ target again,
        validateTarget (codePoints "HTTPS://h.com".toList) commercialPolicy (answering "8.8.8.8")
          = .ok target ∧
        validateTarget target.normalisedUrl commercialPolicy (answering "8.8.8.8") = .ok again ∧
        again ≠ target) ∧
      (∃ target again,
        validateTarget (codePoints "https://h.com/a ?".toList) commercialPolicy (answering "8.8.8.8")
          = .ok target ∧
        validateTarget target.normalisedUrl commercialPolicy (answering "8.8.8.8") = .ok again ∧
        again.normalisedUrl ≠ target.normalisedUrl) ∧
      ∃ target a e,
        validateTarget (codePoints "https://h.com/".toList) commercialPolicy
          (answering "2001:470::5efe:a00:1") = .ok target ∧
        target.resolvedAddresses = ["2001:470::5efe:a00:1".toList] ∧
        transitionValue "2001:470::5efe:a00:1".toList = some (.v6 a) ∧
        IpAddresses.IPv6Address.isatap a = some e ∧ IpAddresses.IPv4Address.isPublic e = false := by
  let _ := transitionLibrary
  let _ := transitionNetwork
  refine ⟨⟨scannedTarget "HTTPS://h.com" "https://h.com/" "8.8.8.8",
      scannedTarget "https://h.com/" "https://h.com/" "8.8.8.8", by decide, by decide,
      by decide⟩,
    ⟨scannedTarget "https://h.com/a ?" "https://h.com/a " "8.8.8.8",
      scannedTarget "https://h.com/a" "https://h.com/a" "8.8.8.8", by decide,
      by decide, by decide⟩,
    ⟨scannedTarget "https://h.com/" "https://h.com/" "2001:470::5efe:a00:1",
      isatapAddress, IpAddresses.ipv4 10 0 0 1,
      by decide, by decide, by decide, by decide,
      by decide⟩⟩

theorem canonical_target_accepted_sample :
    letI := transitionLibrary
    letI := transitionNetwork
    letI := ScanPermits.asciiTables
    ∃ target, validateTarget (codePoints "https://h.com/a".toList) commercialPolicy
        (answering "8.8.8.8") = .ok target ∧
      target.normalisedUrl = codePoints "https://h.com/a".toList ∧
      SameEndpoint target (codePoints "https://h.com/a".toList) ∧
      PassesTests target (codePoints "https://h.com/a".toList) := by
  let _ := transitionLibrary
  let _ := transitionNetwork
  let _ := ScanPermits.asciiTables
  have hcanonical : OwnedTargets.canonicalizeOwnedTargetUrl
      (codePoints "https://H.com:443/a".toList) = .ok (codePoints "https://h.com/a".toList) := by
    decide
  exact (canonical_target_accepted_iff transition_laws transition_values rfl answering_public
    hcanonical).mpr ⟨by decide, by decide, by decide⟩

/-- The canonical form may have a control character in its path, which the scanner refuses. -/
theorem canonical_target_refused :
    letI := transitionLibrary
    letI := transitionNetwork
    OwnedTargets.canonicalizeOwnedTargetUrl (codePoints "https://h.com/a\x01".toList)
        = .ok (codePoints "https://h.com/a\x01".toList) ∧
      PublicResolver transitionValue (answering "8.8.8.8") ∧
      validateTarget (codePoints "https://h.com/a\x01".toList) commercialPolicy (answering "8.8.8.8")
        = invalid "control_character_not_allowed"
          "Control characters are not allowed in target URLs." := by
  let _ := transitionLibrary
  let _ := transitionNetwork
  exact ⟨by decide, answering_public, by decide⟩

end WebGuard
