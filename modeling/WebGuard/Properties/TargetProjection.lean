import WebGuard.Contracts.ScanSchedules
import WebGuard.Executor.TargetChecks
import WebGuard.Postgres.ScheduleAgreement
import WebGuard.Properties.PermitCodec
import WebGuard.Properties.Targets

/-!
# Canonical targets that are read again

A job request, a permit and a schedule canonicalise their target whenever they are built, so also
when they are loaded from where they were stored.
-/

namespace WebGuard.OwnedTargets

open PyJson UrlParse StandardLibrary Atomic List ScanPermits ScanScheduleRecord ScanScheduleRecordFields

variable {text : PyText} {kind fieldName : String}

section

variable [StandardLibrary] [NetworkLibrary]

/-! ## The canonical form, as a URL of its own -/

/--
Nothing is lost when the parts are put together and taken apart again.

The encoded host may be the text of an address, white space may be at the end of the path once an
empty query is gone, and the URL may have grown.
-/
structure TargetParts.Stable (parts : TargetParts) : Prop where
  name : ipAddress parts.hostname = none
  path : parts.path.getLast?.any (fun n => isSpace (asChar n)) = false
  length : 8 + (targetAuthority parts.hostname parts.port).length + (rootedPath parts.path).length
    ≤ 2048

/-- A URL whose canonical form is its own canonical form. -/
def Persistent (value : PyText) : Prop := ∃ parts, targetParts value = some parts ∧ parts.Stable

section

omit [StandardLibrary] [NetworkLibrary]

theorem trimEnd_eq_self_iff :
    trimEnd text = text ↔ text.getLast?.any (fun n => isSpace (asChar n)) = false := by
  show text.rdropWhile (fun n => isSpace (asChar n)) = text ↔ _
  rw [rdropWhile_eq_self_iff]
  cases text using reverseRecOn with
  | nil => simp
  | append_singleton front n => simp

theorem getLast_rootedPath (path : PyText) :
    (rootedPath path).getLast?.any (fun n => isSpace (asChar n)) =
      path.getLast?.any fun n => isSpace (asChar n) := by
  have hslash : isSpace (asChar 47) = false := by decide
  unfold rootedPath
  split
  · rfl
  · cases path with
    | nil => simpa using hslash
    | cons n rest => rw [getLast?_cons_cons]

end

variable {hostname : Text} {port : Nat} {path : PyText}

theorem canonicalizeHostname_iff (laws : HostLaws) (h : Labelled hostname)
    (hlabels : 2 ≤ (split '.' hostname).length) :
    canonicalizeOwnedTargetHostname hostname = .ok hostname ↔ ipAddress hostname = none := by
  have hbare : ((((hostname.dropWhile isSpace).reverse.dropWhile isSpace).reverse).reverse.dropWhile
      (fun c => decide (c = '.'))).reverse = hostname := by
    show (stripped hostname).rdropWhile (fun c => decide (c = '.')) = hostname
    rw [h.stripped_eq, h.rdropWhile_eq]
  have hzone := h.zone
  have hall : (split '.' hostname).all isLabel = true := all_eq_true.mpr fun label hl =>
    (isLabel_iff label).mpr (forM_ok_iff.mp h.labels label hl)
  unfold canonicalizeOwnedTargetHostname
  dsimp only
  rw [hbare, if_neg (by simp [h.nonempty, hzone])]
  cases haddress : ipAddress hostname with
  | some address => simp [invalid]
  | none =>
    rw [if_neg (by simp), h.idna_eq laws]
    simp only [lower_eq_self h.isAuthorityCharacter]
    rw [if_neg (Nat.not_lt.mpr h.bound), if_neg (Nat.not_lt.mpr hlabels), if_neg (by simp [hall])]
    simp

theorem eq_of_canonicalizeHostname (laws : HostLaws) {name : Text} (h : Labelled hostname)
    (hname : canonicalizeOwnedTargetHostname hostname = .ok name) : name = hostname := by
  have hencoded := (encoded_of_canonicalize laws hname).1
  have hbare : bareName hostname = hostname := by
    unfold bareName
    rw [h.stripped_eq, h.rdropWhile_eq]
  rw [hbare, h.idna_eq laws, Option.map_some, lower_eq_self h.isAuthorityCharacter] at hencoded
  exact (Option.some.inj hencoded).symm

theorem targetPath_normalUrl (h : NormalUrl https hostname port path) :
    targetPath (normalUrl https hostname port path)
      ⟨https, authority hostname port https, characters path, [], []⟩ = path := h.urlPath_eq

omit [NetworkLibrary] in
theorem isEmpty_normalUrl : (normalUrl https hostname port path).isEmpty = false := by
  simp [normalUrl, codePoints, schemeAndAuthority]

theorem canonicalize_normalUrl (h : NormalUrl https hostname port path) :
    canonicalizeOwnedTargetUrl (normalUrl https hostname port path) =
      if 2048 < (normalUrl https hostname port (trimEnd path)).length then
        invalid "owned_target_url_invalid" "Owned-target URL is invalid or exceeds 2048 characters."
      else
        match canonicalizeOwnedTargetHostname hostname with
        | .error e => .error e
        | .ok name =>
          if hasDots (trimEnd path) then
            invalid "owned_target_path_ambiguous" "Owned-target URL cannot contain dot path segments."
          else .ok (ofString "https://" ++
            codePoints (targetAuthority name (if port = 443 then none else some port)) ++
            trimEnd path) := by
  have htrim := h.trim
  have hhost := hostname_parts h.host port https (characters (trimEnd path))
  have hport := port_parts h.host https (characters (trimEnd path)) h.port
  have hinfo := userinfo_parts h.host port https (characters (trimEnd path))
  have hrooted : rootedPath (trimEnd path) = trimEnd path := if_pos htrim.rooted
  have hbackslash : (normalUrl https hostname port (trimEnd path)).contains 92 = false := by
    simpa using htrim.backslash_not_mem
  have hdefault : defaultPort https = 443 := rfl
  unfold canonicalizeOwnedTargetUrl
  dsimp only
  rw [h.stripText_eq, htrim.urlsplit_eq, isEmpty_normalUrl, hbackslash, Bool.false_or, Bool.or_false]
  by_cases hlength : 2048 < (normalUrl https hostname port (trimEnd path)).length
  · rw [if_pos hlength, if_pos (by simpa using hlength)]
  · rw [if_neg hlength, if_neg (by simpa using hlength)]
    dsimp only
    rw [lower_web h.web, hinfo, hhost, hport, hdefault, targetPath_normalUrl htrim, hrooted,
      if_neg (by simp [https]), if_neg (by simp), if_neg (by simp)]
    dsimp only
    cases canonicalizeOwnedTargetHostname hostname with
    | error e => rfl
    | ok name => rfl

theorem canonicalize_normalUrl_iff (laws : HostLaws) (hlabelled : Labelled hostname)
    (hlabels : 2 ≤ (split '.' hostname).length) (hdots : hasDots path = false)
    (h : NormalUrl https hostname port path) :
    canonicalizeOwnedTargetUrl (normalUrl https hostname port path)
        = .ok (normalUrl https hostname port path) ↔
      ipAddress hostname = none ∧ trimEnd path = path ∧
        (normalUrl https hostname port path).length ≤ 2048 := by
  have hauthority : targetAuthority hostname (if port = 443 then none else some port) =
      authority hostname port https := by
    rw [targetAuthority_eq laws.toAddressLaws hlabelled]
    congr 1
    split
    · next heq => exact heq.symm
    · rfl
  have hscheme : ofString "https://" = codePoints (https ++ "://".toList) := by decide
  have hurl : ∀ path', ofString "https://" ++ codePoints (authority hostname port https) ++ path' =
      normalUrl https hostname port path' := by
    intro path'
    rw [normalUrl, hscheme]
    simp [codePoints, schemeAndAuthority]
  rw [canonicalize_normalUrl h, ← canonicalizeHostname_iff laws hlabelled hlabels]
  constructor
  · intro hfixed
    split at hfixed
    · cases hfixed
    next hlength =>
    split at hfixed
    · cases hfixed
    next name hname =>
    split at hfixed
    · cases hfixed
    have hsame := eq_of_canonicalizeHostname laws hlabelled hname
    subst hsame
    rw [hauthority, hurl, Except.ok.injEq] at hfixed
    have htrim := normalUrl_inj hfixed
    rw [htrim] at hlength
    exact ⟨hname, htrim, Nat.le_of_not_lt hlength⟩
  · rintro ⟨hname, htrim, hlength⟩
    rw [hname, htrim, if_neg (Nat.not_lt.mpr hlength)]
    dsimp only
    rw [if_neg (by simp [hdots]), hauthority, hurl]

theorem canonicalize_again_iff (laws : HostLaws) {value target : PyText}
    (h : canonicalizeOwnedTargetUrl value = .ok target) :
    canonicalizeOwnedTargetUrl target = .ok target ↔ Persistent value := by
  obtain ⟨parts, hparts, haccepted, rfl⟩ := canonicalize_spec laws h
  have hlength : (normalUrl https parts.hostname (parts.port.getD 443) (rootedPath parts.path)).length
      = 8 + (targetAuthority parts.hostname parts.port).length + (rootedPath parts.path).length := by
    rw [targetAuthority_eq laws.toAddressLaws haccepted.labelled]
    simp [normalUrl, codePoints, schemeAndAuthority, https]
    omega
  have hpersistent : Persistent value ↔ parts.Stable := by
    constructor
    · rintro ⟨found, hfound, hstable⟩
      rw [hparts, Option.some.injEq] at hfound
      rwa [hfound]
    · exact fun hstable => ⟨parts, hparts, hstable⟩
  rw [canonicalize_normalUrl_iff laws haccepted.labelled haccepted.labels haccepted.path
    haccepted.normal, trimEnd_eq_self_iff, getLast_rootedPath, hlength, hpersistent]
  constructor
  · rintro ⟨hname, hpath, hlength⟩
    exact ⟨hname, hpath, hlength⟩
  · rintro ⟨hname, hpath, hlength⟩
    exact ⟨hname, hpath, hlength⟩

end

/-! ## What was stored is built again -/

theorem strip_strip (s : String) : strip (strip s) = strip s := by
  have htrim : ∀ t : String, strip t = String.ofList (stripped t.toList) := fun _ => rfl
  rw [htrim, htrim, String.toList_ofList, stripped_stripped]

theorem requiredText_again {value cleaned : String} {maximum : Nat}
    (h : requiredText kind value fieldName maximum = .ok cleaned) :
    requiredText kind cleaned fieldName maximum = .ok cleaned := by
  rw [requiredText_eq_ok] at h ⊢
  obtain ⟨rfl, hchecks⟩ := h
  rw [strip_strip]
  exact ⟨rfl, hchecks⟩

theorem range_of_errorCodeShape {afterAlnum : Bool} {text : List Char}
    (h : errorCodeShape afterAlnum text = true) :
    ∀ c ∈ text, 44 < c.toNat ∧ c.toNat < 123 ∧ isUpper c = false := by
  have hle : ∀ a b : Char, a ≤ b ↔ a.toNat ≤ b.toNat := fun _ _ => Iff.rfl
  have hclass : ∀ c, (isLower c || isDigit c) = true →
      44 < c.toNat ∧ c.toNat < 123 ∧ isUpper c = false := by
    intro c hc
    simp only [isLower, isDigit, isUpper, Bool.or_eq_true, Bool.and_eq_true, decide_eq_true_eq,
      Bool.and_eq_false_iff, decide_eq_false_iff_not, hle, Char.reduceToNat] at hc ⊢
    omega
  induction text generalizing afterAlnum with
  | nil => simp
  | cons c rest ih =>
    rw [errorCodeShape] at h
    split at h
    · next hc => exact forall_mem_cons.mpr ⟨hclass c hc, ih h⟩
    · rw [Bool.and_eq_true, Bool.and_eq_true] at h
      refine forall_mem_cons.mpr ⟨?_, ih h.2⟩
      have hseparator : (c = '.' ∨ c = '_') ∨ c = '-' := by simpa using h.1.2
      rcases hseparator with (rfl | rfl) | rfl
      · decide
      · decide
      · decide

theorem errorCode_again {value code : Option String}
    (h : errorCode kind value fieldName = .ok code) : errorCode kind code fieldName = .ok code := by
  cases value with
  | none =>
    cases h
    rfl
  | some v =>
    obtain ⟨cleaned, hcleaned, h⟩ := bind_ok h
    obtain ⟨_, hshape, h⟩ := bind_ok h
    cases h
    rw [require_eq_ok] at hshape
    rw [requiredText_eq_ok] at hcleaned
    obtain ⟨rfl, hne, hlength, -⟩ := hcleaned
    generalize hlowered : String.ofList ((strip v).toList.map toLower) = lowered at hshape ⊢
    have hrange := range_of_errorCodeShape hshape
    have hsize : lowered.toList.length = (strip v).toList.length := by
      rw [← hlowered, String.toList_ofList, length_map]
    have hempty : lowered.toList.isEmpty = false := by
      rw [isEmpty_eq_false_iff, ← length_pos_iff] at hne ⊢
      rw [hsize]
      exact hne
    have hstrip : strip lowered = lowered := by
      refine strip_eq_self fun c hc => ?_
      have := hrange c hc
      simp only [isSpace, Bool.or_eq_false_iff, Bool.and_eq_false_iff, decide_eq_false_iff_not,
        beq_eq_false_iff_ne, ne_eq]
      omega
    have hcontrols : lowered.toList.any isControl = false := by
      rw [any_eq_false]
      intro c hc
      have := hrange c hc
      simp only [isControl, Bool.or_eq_true, decide_eq_true_eq, beq_iff_eq]
      omega
    have hsame : String.ofList (lowered.toList.map toLower) = lowered := by
      have hchars : ∀ c ∈ lowered.toList, toLower c = id c := by
        intro c hc
        obtain ⟨-, hhigh, hupper⟩ := hrange c hc
        have hkelvin : (c.toNat == 0x212A) = false := by simp; omega
        simp [toLower, hupper, hkelvin]
      rw [map_congr_left hchars, map_id, String.ofList_toList]
    have hrequired : requiredText kind lowered fieldName 128 = .ok lowered := by
      refine requiredText_eq_ok.mpr ?_
      rw [hstrip]
      exact ⟨rfl, hempty, hsize.trans_le hlength, hcontrols⟩
    unfold errorCode
    dsimp only
    rw [hrequired, ok_bind, hsame, hshape]
    rfl

theorem canonical_of_mapM {value stored : Option String}
    (h : value.mapM (canonicalUuid kind · fieldName) = .ok stored) :
    ∀ v, stored = some v → isCanonicalUuid v = true := by
  rintro v rfl
  cases value with
  | none => cases h
  | some text =>
    have h : (canonicalUuid kind text fieldName >>= fun c => Except.ok (some c)) = .ok (some v) := h
    obtain ⟨c, htext, hstored⟩ := bind_ok h
    cases hstored
    obtain ⟨rfl, hcanonical⟩ := canonicalUuid_eq_ok.mp htext
    exact hcanonical

variable {raw fields : ScanScheduleRecordFields}

theorem sound_of_postInit [Primitives] (h : raw.postInit = .ok fields)
    (htarget : Primitives.canonicalizeOwnedTargetUrl fields.target = .ok fields.target) :
    ScanScheduleRecordFields.Sound fields ∧
      requiredText "scan_schedule" fields.name "name" 120 = .ok fields.name ∧
      errorCode "scan_schedule" fields.lastErrorCode "last_error_code"
      = .ok fields.lastErrorCode := by
  obtain ⟨hid, horganization, hcreatedBy, hname, -, hauthorization, hsha, hinterval, horder, hjob,
    hcode, herror, hstored⟩ := postInit_eq_ok.mp h
  have hlast := canonical_of_mapM hjob
  have hname := requiredText_again hname
  have hcode := errorCode_again hcode
  refine ⟨?_, hname, hcode⟩
  rw [hstored] at htarget hname hcode hlast herror ⊢
  exact ⟨hid, horganization, hcreatedBy, ⟨_, hname⟩, htarget, hauthorization, hsha, hinterval,
    horder, hlast, ⟨_, hcode⟩, herror⟩

theorem schedule_again_iff [Primitives] (h : raw.postInit = .ok fields) :
    fields.postInit = .ok fields ↔
      Primitives.canonicalizeOwnedTargetUrl fields.target = .ok fields.target := by
  constructor
  · exact fun hagain => (postInit_keeps hagain).2.2.2.2.2.2
  · intro htarget
    obtain ⟨hsound, hname, hcode⟩ := sound_of_postInit h htarget
    exact hsound.postInit_eq hname hcode

/-! ## Jobs, schedules and permits -/

section

variable [StandardLibrary] [NetworkLibrary]

/-- The canonicaliser, on texts without lone surrogates. -/
def canonicalText (text : String) : Checked String :=
  (canonicalizeOwnedTargetUrl (codePoints text.toList)).map fun target =>
    String.ofList (characters target)

/-- What the contracts take from elsewhere, with the canonicaliser that they import. -/
@[reducible] def ownedPrimitives (sha256Hex : String → String) : Primitives where
  canonicalizeOwnedTargetUrl := canonicalText
  sha256Hex := sha256Hex

omit [StandardLibrary] [NetworkLibrary] in
theorem mem_of_mem_stripText {n : Nat} (h : n ∈ stripText text) : n ∈ text :=
  (dropWhile_suffix _).subset (NormalUrl.mem_trimEnd h)

theorem codePoints_canonical (laws : HostLaws) {text : List Char} {target : PyText}
    (h : canonicalizeOwnedTargetUrl (codePoints text) = .ok target) :
    codePoints (characters target) = target := by
  obtain ⟨parts, hparts, -, rfl⟩ := canonicalize_spec laws h
  have hpath : ∀ n ∈ parts.path, n ∈ codePoints text := by
    unfold targetParts at hparts
    obtain ⟨parsed, -, hparts⟩ := Option.bind_eq_some_iff.mp hparts
    obtain ⟨name, -, hparts⟩ := Option.bind_eq_some_iff.mp hparts
    obtain ⟨encoded, -, hparts⟩ := Option.bind_eq_some_iff.mp hparts
    obtain ⟨port, -, hparts⟩ := Option.bind_eq_some_iff.mp hparts
    cases hparts
    exact fun n hn => mem_of_mem_stripText (mem_of_taken hn).1
  refine codePoints_characters fun n hn => ?_
  rcases mem_append.mp hn with hn | hn
  · obtain ⟨c, -, rfl⟩ := mem_map.mp hn
    exact ⟨c, rfl⟩
  · have hcases : n = 47 ∨ n ∈ parts.path := by
      unfold rootedPath at hn
      split at hn
      · exact Or.inr hn
      · exact mem_cons.mp hn
    rcases hcases with rfl | hn
    · exact ⟨'/', rfl⟩
    · obtain ⟨c, -, rfl⟩ := mem_map.mp (hpath n hn)
      exact ⟨c, rfl⟩

theorem canonicalText_again_iff (laws : HostLaws) {text target : String}
    (h : canonicalText text = .ok target) :
    canonicalText target = .ok target ↔ Persistent (codePoints text.toList) := by
  obtain ⟨stored, hstored, rfl⟩ := map_ok_iff.mp h
  have hchars := codePoints_canonical laws hstored
  rw [← canonicalize_again_iff laws hstored]
  unfold canonicalText
  rw [String.toList_ofList, hchars, map_ok_iff]
  constructor
  · rintro ⟨again, hagain, hsame⟩
    have hagainChars : codePoints (characters again) = again := by
      rw [← hchars] at hagain
      exact codePoints_canonical laws hagain
    rw [hagain, ← hagainChars, String.ofList_injective hsame, hchars]
  · exact fun hagain => ⟨stored, hagain, rfl⟩

variable {φ : Type} [PyFloat φ] [UnicodeTables]

theorem claims_again_iff (laws : HostLaws) {raw : ScanPermits.ClaimsInput φ}
    {claims : ScanPermits.Claims φ} (htext : raw.target = .str text)
    (h : raw.postInit = .ok claims) : claims.input.postInit = .ok claims ↔ Persistent text := by
  rw [postInit_eq_ok] at h
  have htarget := h.target
  rw [htext, targetField_str] at htarget
  rw [← canonicalize_again_iff laws htarget, postInit_eq_ok]
  constructor
  · exact fun hbuilt => targetField_str.mp hbuilt.target
  · exact fun hagain => h.input (targetField_str.mpr hagain)

/--
**Which targets come back as they were, and with them the jobs, the schedules and the permits.**

A request that comes back has the fingerprint that it had.
-/
theorem target_reload_iff (laws : HostLaws) (sha256Hex : String → String) :
    letI := ownedPrimitives sha256Hex
    (∀ value target, canonicalizeOwnedTargetUrl value = .ok target →
        (canonicalizeOwnedTargetUrl target = .ok target ↔ Persistent value)) ∧
      (∀ raw request, ScanJobRequest.new raw = .ok request →
        ((∃ again, ScanJobRequest.new request.toScanJobRequestFields = .ok again ∧
            again = request ∧ again.fingerprint = request.fingerprint) ↔
          Persistent (codePoints raw.target.toList))) ∧
      (∀ raw schedule, new raw = .ok schedule →
        (new schedule.toScanScheduleRecordFields = .ok schedule ↔
          Persistent (codePoints raw.target.toList))) ∧
      ∀ (raw : ScanPermits.ClaimsInput φ) claims text, raw.target = .str text →
        raw.postInit = .ok claims →
        (claims.input.postInit = .ok claims ↔ Persistent text) := by
  let _ := ownedPrimitives sha256Hex
  refine ⟨fun value target h => canonicalize_again_iff laws h, ?_, ?_,
    fun raw claims text htext h => claims_again_iff laws htext h⟩
  · intro raw request h
    rw [ScanJobRequest.new_eq_ok] at h
    obtain ⟨hkey, htarget, hauthorization, hsame, hsha, hsame', -, -⟩ :=
      ScanJobRequestFields.postInit_eq_ok.mp h
    rw [← hsame] at hauthorization
    rw [← hsame'] at hsha
    rw [← canonicalText_again_iff laws htarget]
    constructor
    · rintro ⟨again, hagain, rfl, -⟩
      rw [ScanJobRequest.new_eq_ok] at hagain
      exact (ScanJobRequestFields.postInit_eq_ok.mp hagain).2.1
    · intro hagain
      refine ⟨request, ScanJobRequest.new_eq_ok.mpr ?_, rfl, rfl⟩
      exact ScanJobRequestFields.postInit_self (idempotencyKey_of_ok hkey) hagain hauthorization hsha
  · intro raw schedule h
    rw [new_eq_ok] at h
    have htarget := (postInit_keeps h).2.2.2.2.2.2
    rw [← canonicalText_again_iff laws htarget, new_eq_ok]
    exact schedule_again_iff h

end

theorem target_reload_sample :
    letI := transitionLibrary
    letI := transitionNetwork
    canonicalizeOwnedTargetUrl (codePoints "https://h.com:81/a".toList)
      = .ok (codePoints "https://h.com:81/a".toList) := by
  let _ := transitionLibrary
  let _ := transitionNetwork
  let _ := oneFloat
  let _ := asciiTables
  have hcanonical : canonicalizeOwnedTargetUrl (codePoints " HTTPS://H.com.:081/a?".toList)
      = .ok (codePoints "https://h.com:81/a".toList) := by decide
  obtain ⟨hurls, -⟩ := target_reload_iff (φ := Unit) transition_laws (fun _ => "")
  refine (hurls _ _ hcanonical).mpr
    ⟨⟨"h.com".toList, some 81, codePoints "/a".toList⟩, by decide, by decide, by decide, ?_⟩
  decide

def narrow (c : Char) : Char :=
  if 0xFF01 ≤ c.toNat ∧ c.toNat ≤ 0xFF5E then Char.ofNat (c.toNat - 0xFEE0) else c

@[reducible] def wideLibrary : StandardLibrary where
  lower := map Char.toLower
  nfkc := map narrow
  ipAddress := fun t => if t = "1.2.3.4".toList then some ⟨false, t⟩ else none
  lower_ascii := UrlParse.map_toLower_ascii

@[reducible] def wideNetwork : NetworkLibrary where
  idna := fun t => if isAscii (t.map narrow) then some (t.map narrow) else none
  properties := fun _ => ⟨false, false, false, false, false, false, false⟩
  quoted := fun t => String.ofList ('\'' :: t ++ ['\''])

/--
The empty query hides the white space in front of it from the strip, and the digits of full width
hide an address from the check of the host.
-/
theorem target_changes :
    letI := wideLibrary
    letI := wideNetwork
    canonicalizeOwnedTargetUrl (codePoints "https://h.com/a\u00a0?".toList)
        = .ok (codePoints "https://h.com/a\u00a0".toList) ∧
      canonicalizeOwnedTargetUrl (codePoints "https://h.com/a\u00a0".toList)
        = .ok (codePoints "https://h.com/a".toList) ∧
      canonicalizeOwnedTargetUrl (codePoints "https://\uff11.\uff12.\uff13.\uff14/".toList)
        = .ok (codePoints "https://1.2.3.4/".toList) ∧
      canonicalizeOwnedTargetUrl (codePoints "https://1.2.3.4/".toList)
        = invalid "owned_target_hostname_ip_not_allowed"
          "Owned production authorizations require a DNS hostname, not an IP literal." := by
  let _ := wideLibrary
  let _ := wideNetwork
  exact ⟨by decide +kernel, by decide +kernel, by decide +kernel, by decide +kernel⟩

end WebGuard.OwnedTargets
