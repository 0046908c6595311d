import WebGuard.Contracts.PermitErrors

/-!
# The permit codec

A permit is small: it is written in less than the 128 KiB that the loader reads, whatever its target
(`cost_dictWith_le`). So the target decides the round trip: the constructor is run on it again.
-/

namespace WebGuard.ScanPermits

open PyJson Atomic ScanPermits Permit OwnedTargets

section

variable {φ : Type} [PyFloat φ]

/-! ## The size of a document -/

variable {bound : Nat} {digest : List Char → PyText} {permit : Permit φ} {document : Json PyText φ}
  {supplied : PyText} {interpreter : Interpreter} {raw : ByteArray}

theorem costItems_str_le {texts : List PyText} (h : ∀ text ∈ texts, text.length ≤ bound) :
    costItems (φ := φ) (texts.map .str) ≤ texts.length * (6 * bound + 3) := by
  induction texts with
  | nil => simp [costItems]
  | cons text rest ih =>
    have htext := h text List.mem_cons_self
    have hrest := ih (fun t ht => h t (List.mem_cons_of_mem _ ht))
    rw [List.map_cons, costItems, Json.cost, List.length_cons, Nat.add_mul,
      Nat.one_mul]
    omega

theorem cost_table_le (table : List PyText) (bound : Nat) {texts : List PyText}
    (hnodup : texts.Nodup) (h : ∀ text ∈ texts, text ∈ table)
    (htable : ∀ text ∈ table, text.length ≤ bound) :
    (textList (φ := φ) texts).cost ≤ table.length * (6 * bound + 3) + 2 := by
  have hlength : texts.length ≤ table.length := (List.subperm_of_subset hnodup h).length_le
  have hcost := costItems_str_le (φ := φ) (fun text ht => htable text (h text ht))
  have hmul := Nat.mul_le_mul_right (6 * bound + 3) hlength
  rw [textList, Json.cost]
  omega

theorem costMembers_le {members : List (PyText × Json PyText φ)}
    (h : ∀ key ∈ members.map Prod.fst, key.length ≤ bound) :
    costMembers members
      ≤ members.length * (6 * bound + 4) + (members.map fun member => member.2.cost).sum := by
  induction members with
  | nil => simp [costMembers]
  | cons member rest ih =>
    have hmember := h member.1 (by simp)
    have hrest := ih (fun key hkey => h key (List.mem_cons_of_mem _ hkey))
    rw [costMembers, List.map_cons, List.sum_cons, List.length_cons, Nat.add_mul, Nat.one_mul]
    omega

theorem cost_optionalText_le {value : Option PyText} (h : ∀ text ∈ value, text.length ≤ bound) :
    (optionalText (φ := φ) value).cost ≤ 6 * bound + 4 := by
  cases value with
  | none =>
    simp only [optionalText, Option.elim, Json.cost]
    omega
  | some text =>
    have htext := h text rfl
    simp only [optionalText, Option.elim, Json.cost]
    omega

theorem length_timestampText {t : Nat} : (timestampText t).length = 27 := by
  rw [timestampText_eq, List.length_append, List.length_map, timestampBody]
  simp [length_digits]

theorem nodup_of_modesField {value modes : List ScanJobMode} (h : modesField value = .ok modes) :
    modes.Nodup := by
  obtain ⟨_, -, h⟩ := bind_ok h
  obtain ⟨_, hcanonical, h⟩ := bind_ok h
  cases h
  rw [demand_eq_ok, decide_eq_true_eq] at hcanonical
  rw [← hcanonical, (List.perm_insertionSort _ _).nodup_iff]
  exact List.nodup_dedup _

theorem cost_modes_le {modes : List ScanJobMode} (h : modes.Nodup) :
    (textList (φ := φ) (modes.map fun m => ofString m.value)).cost ≤ 140 := by
  have hsubset : modes ⊆ [.singlePage, .crawl] := by
    intro mode _
    cases mode <;> decide
  have hlength : modes.length ≤ 2 := (List.subperm_of_subset h hsubset).length_le
  have hbound : ∀ text ∈ modes.map (fun m => ofString m.value), text.length ≤ 11 := by
    intro text htext
    obtain ⟨mode, -, rfl⟩ := List.mem_map.mp htext
    cases mode <;> decide
  have hcost := costItems_str_le (φ := φ) hbound
  rw [List.length_map] at hcost
  rw [textList, Json.cost]
  omega

/-! ## The end of the loader -/

omit [PyFloat φ] in
theorem sha256Field_digest (hdigest : ∀ bytes, isHex64 (digest bytes) = true) (bytes : List Char)
    (fieldName : String) :
    sha256Field (Json.str (φ := φ) (digest bytes)) fieldName = .ok (digest bytes) := by
  rw [sha256Field, if_pos (hdigest bytes)]

theorem checkCanonical_dictWith {bytes document : List Char}
    (hbytes : permit.claims.signingBytes = .ok bytes)
    (hdumps : dumps .utf8 (.obj (permit.dictWith (digest bytes))) = some document) :
    checkCanonical digest (sortKeys (.obj (permit.dictWith (digest bytes)))) permit (digest bytes)
      = .ok permit := by
  have hfingerprint : permit.fingerprint digest = .ok (digest bytes) := by
    unfold fingerprint
    rw [hbytes]
    rfl
  have hjson : permit.toJson digest = .ok document := by
    unfold toJson toDict
    rw [hfingerprint]
    exact canonicalJson_eq_ok.mpr hdumps
  have hgiven : canonicalJson (sortKeys (.obj (permit.dictWith (digest bytes)))) = .ok document := by
    rw [canonicalJson_eq_ok, dumps_sortKeys, hdumps]
  unfold checkCanonical
  rw [hfingerprint, hjson, hgiven]
  simp [bind, Except.bind]

theorem permit_of_checkCanonical {built : Permit φ}
    (h : checkCanonical digest document built supplied = .ok permit) : built = permit := by
  obtain ⟨_, -, h⟩ := bind_ok h
  split at h
  · cases h
  · obtain ⟨_, -, h⟩ := bind_ok h
    obtain ⟨_, -, h⟩ := bind_ok h
    split at h
    · cases h
    · cases h
      rfl

variable [UrlParse.StandardLibrary] [NetworkLibrary] [UnicodeTables]

theorem cost_claims_le {raw : ClaimsInput φ} {claims : Claims φ} (h : Built raw claims)
    (hrepr : (PyFloat.repr claims.maximumRequestsPerSecond).length ≤ 24)
    (htarget : claims.target.length ≤ 2316) : (Json.obj claims.toDict).cost ≤ 24000 := by
  have huuid : ∀ {value : Json PyText φ} {name : String} {text : PyText},
      uuidField value name = .ok text → text.length = 36 :=
    fun h => (uuid_spec (uuidField_of_ok h).2).2
  have hoptional : ∀ {value : Json PyText φ} {name : String} {answer : Option PyText},
      optionalUuidField value name = .ok answer → (optionalText (φ := φ) answer).cost ≤ 220 :=
    fun h => cost_optionalText_le fun text ht =>
      (uuid_spec ((optionalUuidField_of_ok h).2 text ht)).2.le
  have hpermit := huuid h.permitId
  have horganization := huuid h.organizationId
  have hauthorization := huuid h.authorizationId
  have hissued := huuid h.issuedBy
  have hsha := (hex64_spec (sha256Field_of_ok h.authorizationSha256).2).2
  have hmodes := cost_modes_le (φ := φ) (nodup_of_modesField h.permittedModes)
  obtain ⟨-, hmethodsNodup, hmethods⟩ := methodsField_of_ok h.allowedHttpMethods
  have hmethodsCost := cost_table_le (φ := φ) allowedMethods 4 hmethodsNodup hmethods (by decide)
  obtain ⟨-, hchecksNodup, hchecks⟩ := activeChecksField_of_ok h.activeChecks
  have hchecksCost := cost_table_le (φ := φ) knownActiveChecks 25 hchecksNodup hchecks (by decide)
  have hprohibitedCost : (textList (φ := φ) claims.prohibitedOperations).cost ≤ 1000 := by
    rw [(prohibitedField_of_ok h.prohibitedOperations).1]
    have hnodup : prohibitedOperations.Nodup := by decide
    exact le_trans (cost_table_le (φ := φ) prohibitedOperations 23 hnodup
      (fun _ ht => ht) (by decide)) (by decide)
  obtain ⟨-, hlow, hhigh⟩ := positiveInteger_of_ok h.maximumRequestAttempts
  have hattempts : decimalLength claims.maximumRequestAttempts ≤ 3 :=
    decimalLength_le (by decide) (by omega) (lt_of_le_of_lt hhigh (by decide))
  obtain ⟨-, hlow', hhigh'⟩ := positiveInteger_of_ok h.maximumConcurrency
  have hconcurrency : decimalLength claims.maximumConcurrency ≤ 3 :=
    decimalLength_le (by decide) (by omega) (lt_of_le_of_lt hhigh' (by decide))
  have hcontext := hoptional h.authenticationContextId
  have hplan := hoptional h.authorizationComparisonPlanId
  have htable : allowedMethods.length = 3 ∧ knownActiveChecks.length = 4 := ⟨rfl, rfl⟩
  rw [htable.1] at hmethodsCost
  rw [htable.2] at hchecksCost
  have hkeys : ∀ key ∈ claims.toDict.map Prod.fst, key.length ≤ 32 := by
    rw [keys_toDict]
    decide
  have hcost := costMembers_le hkeys
  simp only [Claims.toDict, List.map_cons, List.map_nil, List.sum_cons, List.sum_nil,
    List.length_cons, List.length_nil, Json.cost, length_timestampText] at hcost
  rw [Json.cost, Claims.toDict]
  omega

theorem cost_dictWith_le (h : Valid permit) {fingerprint : PyText}
    (hfingerprint : fingerprint.length = 64)
    (hrepr : (PyFloat.repr permit.claims.maximumRequestsPerSecond).length ≤ 24)
    (htarget : permit.claims.target.length ≤ 2316) :
    (Json.obj (permit.dictWith fingerprint)).cost ≤ 32768 := by
  obtain ⟨raw, hbuilt⟩ := h.claims
  have hclaims := cost_claims_le hbuilt hrepr htarget
  have hkey := (isKeyId_spec h.envelope.signingKeyId).2
  have hsignature := (isSignature_spec h.envelope.signature).2
  have htype : permit.permitType.length = 21 := by rw [h.envelope.permitType]; rfl
  have hschema : permit.schemaVersion.length = 3 := by rw [h.envelope.schemaVersion]; rfl
  have halgorithm : permit.signatureAlgorithm.length ≤ 13 := by
    have htable : ∀ text ∈ signatureAlgorithms, text.length ≤ 13 := by decide
    exact htable _ h.envelope.signatureAlgorithm
  have hroot : (ofString "permit_type").length = 11 ∧ (ofString "schema_version").length = 14
      ∧ (ofString "claims").length = 6 ∧ (ofString "signature").length = 9
      ∧ (ofString "permit_sha256").length = 13 ∧ (ofString "algorithm").length = 9
      ∧ (ofString "key_id").length = 6 ∧ (ofString "value").length = 5 := by decide
  simp only [dictWith, signatureDict, Json.cost, costMembers] at hclaims ⊢
  omega

/-! ## A written permit, read -/

theorem buildPermit_dictWith [IsoReader] (iso : IsoLaws) (permit : Permit φ) (fingerprint : PyText)
    (hissued : permit.claims.issuedAt < datetimeEnd)
    (hbefore : permit.claims.notBefore < datetimeEnd)
    (hexpires : permit.claims.expiresAt < datetimeEnd) :
    buildPermit (sortKeys (.obj (permit.dictWith fingerprint))) = (do
      let built ← asLoadError do
        let claims ← permit.claims.input.postInit
        signedPermit claims (.str permit.permitType) (.str permit.schemaVersion)
          (.str permit.signatureAlgorithm) (.str permit.signingKeyId) (.str permit.signature)
      let supplied ← asLoadError (sha256Field (.str (φ := φ) fingerprint) "permit_sha256")
      return (built, supplied)) := by
  have hroot := member_sorted (keys_dictWith permit fingerprint) nodup_rootKeys
  have hclaims := member_sorted (keys_toDict permit.claims) nodup_claimKeys
  have hsignature := member_sorted (keys_signatureDict permit) nodup_signatureKeys
  have hlist : ∀ texts : List PyText, listField (textList (φ := φ) texts) = .ok (texts.map .str) :=
    fun _ => rfl
  have hread := claimsInput_toDict iso hissued hbefore hexpires
  have hmapping : ∀ (members : List (PyText × Json PyText φ)) (required : List PyText)
      (context : String), members.map Prod.fst = required →
      strictMapping (sortKeys (.obj members)) required context
        = .ok (byKey (sortMembers members)) := by
    intro members required context hkeys
    rw [sortKeys]
    exact strictMapping_of_perm (hkeys ▸ keys_byKey_sortMembers members) context
  unfold buildPermit
  rw [hmapping _ _ _ (keys_dictWith permit fingerprint), ok_bind]
  simp (disch := decide) only [hroot]
  simp only [dictWith, member_cons, String.reduceEq, if_true, if_false]
  rw [hmapping _ _ _ (keys_toDict permit.claims), ok_bind,
    hmapping _ _ _ (keys_signatureDict permit), ok_bind]
  simp (disch := decide) only [hclaims, hsignature]
  simp only [Claims.toDict, signatureDict, member_cons, String.reduceEq, if_true, if_false,
    sortKeys_textList, hlist, ok_bind, sortKeys] at hread ⊢
  rw [hread, ok_bind]

omit [PyFloat φ] [UnicodeTables] in
theorem targetField_str {text target : PyText} :
    targetField (φ := φ) (.str text) = .ok target
      ↔ canonicalizeOwnedTargetUrl text = .ok target := by
  rw [targetField]
  split
  · rename_i found h
    simp [h]
  · rename_i e h
    simp [h]

theorem Valid.instants (h : Valid permit) :
    permit.claims.issuedAt < datetimeEnd ∧ permit.claims.notBefore < datetimeEnd := by
  obtain ⟨raw, hbuilt⟩ := h.claims
  have hwindow := hbuilt.window
  obtain ⟨_, hissued, hwindow⟩ := bind_ok hwindow
  obtain ⟨_, hbefore, -⟩ := bind_ok hwindow
  rw [demand_eq_ok, decide_eq_true_eq] at hissued hbefore
  have hexpires := h.expiresAt
  omega

omit [UrlParse.StandardLibrary] [NetworkLibrary] [UnicodeTables] in
theorem parseJson_of_dumps (laws : FloatLaws φ) {value : Json PyText φ} {document : List Char}
    (hfits : Fits .utf8 (strictHooks (φ := φ) interpreter)
      interpreter.recursionLimit value) (h : dumps .utf8 value = some document)
    (hsize : document.utf8Encode.size ≤ maximumDocumentBytes) :
    parseJson interpreter document.utf8Encode = .ok (sortKeys value) := by
  have hloads := loads_dumps laws keepsPairs_strictHooks hfits h
  unfold parseJson
  rw [if_neg (by omega), List.utf8Decode?_utf8Encode]
  simp only [hloads]

theorem toJson_eq_ok (digest : List Char → PyText) (h : Valid permit) {document : List Char} :
    permit.toJson digest = .ok document ↔
      isEncodable permit.claims.target = true ∧ ∃ bytes,
        permit.claims.signingBytes = .ok bytes
          ∧ dumps .utf8 (.obj (permit.dictWith (digest bytes))) = some document := by
  obtain ⟨raw, hbuilt⟩ := h.claims
  constructor
  · intro hjson
    obtain ⟨dict, hdict, hjson⟩ := bind_ok hjson
    obtain ⟨fingerprint, hfingerprint, hdict⟩ := bind_ok hdict
    obtain ⟨bytes, hbytes, hfingerprint⟩ := bind_ok hfingerprint
    cases hfingerprint
    cases hdict
    have hall := all_of_dumps (canonicalJson_eq_ok.mp hbytes)
    rw [all_toDict hbuilt.encoded] at hall
    exact ⟨hall, bytes, hbytes, canonicalJson_eq_ok.mp hjson⟩
  · rintro ⟨-, bytes, hbytes, hdumps⟩
    unfold toJson toDict fingerprint
    rw [hbytes]
    exact canonicalJson_eq_ok.mpr hdumps

theorem loadSignedPermit_of [IsoReader] (hparse : parseJson interpreter raw = .ok document)
    (hbuild : buildPermit document = .ok (permit, supplied)) :
    loadSignedPermit digest interpreter raw = checkCanonical digest document permit supplied := by
  unfold loadSignedPermit
  rw [hparse]
  show (buildPermit document >>= fun answer => checkCanonical digest document answer.1 answer.2) = _
  rw [hbuild]
  rfl

theorem load_toJson_iff [IsoReader] (laws : FloatLaws φ) (iso : IsoLaws)
    (hdigest : ∀ bytes, isHex64 (digest bytes) = true) (interpreter : Interpreter)
    (h : Valid permit) :
    (∃ document, permit.toJson digest = .ok document
        ∧ loadSignedPermit digest interpreter document.utf8Encode = .ok permit)
      ↔ canonicalizeOwnedTargetUrl permit.claims.target = .ok permit.claims.target
        ∧ isEncodable permit.claims.target = true := by
  obtain ⟨raw, hbuilt⟩ := h.claims
  have hencoded := hbuilt.encoded
  have hfits : isEncodable permit.claims.target = true → ∀ bytes,
      Fits .utf8 (strictHooks (φ := φ) interpreter) interpreter.recursionLimit
        (.obj (permit.dictWith (digest bytes))) := fun htarget bytes =>
    fits_dictWith hencoded h.envelope (hex64_spec (hdigest bytes)).1 htarget
      (positiveInteger_of_ok hbuilt.maximumRequestAttempts).2
      (positiveInteger_of_ok hbuilt.maximumConcurrency).2
  have hbuild := fun bytes => buildPermit_dictWith iso permit (digest bytes) h.instants.1
    h.instants.2 h.expiresAt
  constructor
  · rintro ⟨document, hjson, hload⟩
    obtain ⟨htarget, bytes, hbytes, hdumps⟩ := (toJson_eq_ok digest h).mp hjson
    refine ⟨?_, htarget⟩
    obtain ⟨parsed, hparsed, hload⟩ := bind_ok hload
    have hsize : document.utf8Encode.size ≤ maximumDocumentBytes := by
      by_contra hlarge
      rw [parseJson, if_pos (by omega)] at hparsed
      cases hparsed
    rw [parseJson_of_dumps laws (hfits htarget bytes) hdumps hsize] at hparsed
    cases hparsed
    obtain ⟨⟨built, supplied⟩, hanswer, hcheck⟩ := bind_ok hload
    have hsame : built = permit := permit_of_checkCanonical hcheck
    rw [hbuild bytes] at hanswer
    obtain ⟨found, hfound, hanswer⟩ := bind_ok hanswer
    obtain ⟨_, -, hanswer⟩ := bind_ok hanswer
    cases hanswer
    obtain ⟨claims, hclaims, hsigned⟩ := bind_ok (asLoadError_eq_ok.mp hfound)
    rw [hsame, signedPermit_eq_ok] at hsigned
    rw [← hsigned.1, postInit_eq_ok] at hclaims
    exact targetField_str.mp hclaims.target
  · rintro ⟨hcanonical, htarget⟩
    have hall : (Json.obj permit.claims.toDict).all (fun s => Mode.utf8 = .ascii || isEncodable s)
        PyFloat.isFinite = true := by rw [all_toDict hencoded, htarget]
    obtain ⟨bytes, hbytes⟩ : ∃ bytes, permit.claims.signingBytes = .ok bytes :=
      ⟨_, canonicalJson_eq_ok.mpr (dumps_of_all hall)⟩
    have hdictAll : (Json.obj (permit.dictWith (digest bytes))).all
        (fun s => Mode.utf8 = .ascii || isEncodable s) PyFloat.isFinite = true := by
      rw [all_dictWith hencoded h.envelope (hex64_spec (hdigest bytes)).1, htarget]
    have hdumps := dumps_of_all hdictAll
    have hcost := cost_dictWith_le h (hex64_spec (hdigest bytes)).2
      (laws.length_repr _ hencoded.maximumRequestsPerSecond)
      (length_of_canonicalizeOwnedTargetUrl hcanonical)
    have hsize := size_of_dumps hdumps
    have hpostInit := postInit_eq_ok.mpr (hbuilt.input (targetField_str.mpr hcanonical))
    have hsigned := signedPermit_eq_ok.mpr
      ⟨rfl, rfl, rfl, rfl, rfl, rfl, h.envelope⟩
    have hanswer : buildPermit (sortKeys (.obj (permit.dictWith (digest bytes))))
        = .ok (permit, digest bytes) := by
      rw [hbuild bytes, hpostInit]
      rw [ok_bind, hsigned, asLoadError_eq_ok.mpr rfl, ok_bind,
        asLoadError_eq_ok.mpr (sha256Field_digest hdigest bytes "permit_sha256"), ok_bind]
      rfl
    refine ⟨_, (toJson_eq_ok digest h).mpr ⟨htarget, bytes, hbytes, hdumps⟩, ?_⟩
    rw [loadSignedPermit_of
      (parseJson_of_dumps laws (hfits htarget bytes) hdumps (by unfold maximumDocumentBytes; omega))
      hanswer]
    exact checkCanonical_dictWith hbytes hdumps

/-! ## The end of the loader, on any document -/

theorem buildPermit_eq_ok [IsoReader] (h : buildPermit document = .ok (permit, supplied)) :
    Encoded permit.claims ∧ Sealed permit := by
  obtain ⟨_, -, h⟩ := bind_ok h
  obtain ⟨_, -, h⟩ := bind_ok h
  obtain ⟨_, -, h⟩ := bind_ok h
  obtain ⟨_, -, h⟩ := bind_ok h
  obtain ⟨_, -, h⟩ := bind_ok h
  obtain ⟨_, -, h⟩ := bind_ok h
  obtain ⟨_, -, h⟩ := bind_ok h
  obtain ⟨built, hbuilt, h⟩ := bind_ok h
  obtain ⟨_, -, h⟩ := bind_ok h
  cases h
  obtain ⟨input, -, hbuilt⟩ := bind_ok (asLoadError_eq_ok.mp hbuilt)
  obtain ⟨claims, hclaims, hsigned⟩ := bind_ok hbuilt
  obtain ⟨hsame, -, -, -, -, -, hsealed⟩ := signedPermit_eq_ok.mp hsigned
  rw [hsame]
  exact ⟨(postInit_eq_ok.mp hclaims).encoded, hsealed⟩

omit [UrlParse.StandardLibrary] [NetworkLibrary] [UnicodeTables] in
theorem canonicalJson_of_not_encodable {value : Json PyText φ} (h : dumps .utf8 value = none) :
    ∃ e, canonicalJson value = .error e ∧ ¬ e.IsLoad := by
  refine ⟨_, by rw [canonicalJson, h]; rfl, ?_⟩
  rintro ⟨c, hc⟩
  cases hc

omit [UrlParse.StandardLibrary] [NetworkLibrary] [UnicodeTables] in
theorem checkCanonical_escapes (hdigest : ∀ bytes, isHex64 (digest bytes) = true)
    (hclaims : Encoded permit.claims) (hsealed : Sealed permit) :
    (∃ e, checkCanonical digest document permit supplied = .error e ∧ ¬ e.IsLoad)
      ↔ isEncodable permit.claims.target = false
        ∨ permit.fingerprint digest = .ok supplied ∧ dumps .utf8 document = none := by
  have herror : ∀ {α β : Type} (e : Escape) (next : α → Raises β),
      (Except.error e >>= next) = .error e := fun _ _ => rfl
  have hload : ∀ (code message : String) (e : Escape),
      ¬ (refuseLoad (α := Permit φ) code message = .error e ∧ ¬ e.IsLoad) :=
    fun code message e h => h.2 (onlyLoads_refuseLoad code message e h.1)
  cases htarget : isEncodable permit.claims.target with
  | false =>
    have hnone : dumps .utf8 (Json.obj permit.claims.toDict) = none := by
      rw [dumps, all_toDict hclaims, htarget, if_neg (by simp)]
    obtain ⟨e, he, hkind⟩ := canonicalJson_of_not_encodable hnone
    refine ⟨fun _ => Or.inl rfl, fun _ => ⟨e, ?_, hkind⟩⟩
    unfold checkCanonical fingerprint Claims.signingBytes
    rw [he, herror, herror]
  | true =>
    have hwrite : ∀ {members}, (Json.obj members).all
        (fun s => Mode.utf8 = .ascii || isEncodable s) (PyFloat.isFinite (φ := φ))
          = isEncodable permit.claims.target →
      ∃ document, canonicalJson (.obj members) = .ok document :=
      fun hall => ⟨_, canonicalJson_eq_ok.mpr (dumps_of_all (hall.trans htarget))⟩
    obtain ⟨bytes, hbytes⟩ := hwrite (all_toDict hclaims)
    have hfingerprint : permit.fingerprint digest = .ok (digest bytes) := by
      unfold fingerprint Claims.signingBytes
      rw [hbytes]
      rfl
    obtain ⟨written, hwritten⟩ :=
      hwrite (all_dictWith hclaims hsealed (hex64_spec (hdigest bytes)).1)
    have hjson : permit.toJson digest = .ok written := by
      unfold toJson toDict
      rw [hfingerprint]
      exact hwritten
    unfold checkCanonical
    rw [hfingerprint, ok_bind, hjson, ok_bind]
    by_cases hsupplied : supplied = digest bytes
    · rw [if_neg (by simpa using hsupplied)]
      cases hgiven : dumps .utf8 document with
      | none =>
        obtain ⟨e, he, hkind⟩ := canonicalJson_of_not_encodable hgiven
        rw [he, herror]
        exact ⟨fun _ => Or.inr ⟨by rw [hsupplied], rfl⟩, fun _ => ⟨e, rfl, hkind⟩⟩
      | some given =>
        rw [canonicalJson_eq_ok.mpr hgiven, ok_bind]
        constructor
        · rintro ⟨e, he⟩
          split at he
          · exact absurd he (hload _ _ e)
          · cases he.1
        · simp
    · rw [if_pos hsupplied]
      constructor
      · rintro ⟨e, he⟩
        exact absurd he (hload _ _ e)
      · rintro (h | ⟨h, -⟩)
        · cases h
        · exact absurd (Except.ok.inj h).symm hsupplied

/-- The byte strings on which something other than an error of the loader comes out of it. -/
inductive Escapes [IsoReader] (digest : List Char → PyText) (interpreter : Interpreter)
    (raw : ByteArray) : Prop where
  /-- The document is nested deeper than the interpreter recurses. -/
  | nesting {text : Array Char} : raw.size ≤ maximumDocumentBytes → raw.utf8Decode? = some text →
    loads (strictHooks (φ := φ) interpreter) text.toList = .error .recursion →
    Escapes digest interpreter raw
  /-- An integer has more digits than the interpreter converts. -/
  | digits {text : Array Char} : raw.size ≤ maximumDocumentBytes → raw.utf8Decode? = some text →
    loads (strictHooks (φ := φ) interpreter) text.toList = .error .digits →
    Escapes digest interpreter raw
  /-- The rate is an integer too large for a float. -/
  | rate {document : Json PyText φ} : parseJson interpreter raw = .ok document →
    RateOverflows document → Escapes digest interpreter raw
  /-- The fields pass, and the target has a lone surrogate. -/
  | target {document : Json PyText φ} {permit : Permit φ} {supplied : PyText} :
    parseJson interpreter raw = .ok document → buildPermit document = .ok (permit, supplied) →
    isEncodable permit.claims.target = false → Escapes digest interpreter raw
  /-- The fields and the fingerprint pass, and the document cannot be encoded. -/
  | document {document : Json PyText φ} {permit : Permit φ} {supplied : PyText} :
    parseJson interpreter raw = .ok document → buildPermit document = .ok (permit, supplied) →
    permit.fingerprint digest = .ok supplied → dumps .utf8 document = none →
    Escapes digest interpreter raw

omit [UrlParse.StandardLibrary] [NetworkLibrary] [UnicodeTables] in
theorem parseJson_escapes :
    (∃ e, parseJson (φ := φ) interpreter raw = .error e ∧ ¬ e.IsLoad) ↔
      raw.size ≤ maximumDocumentBytes ∧ ∃ text, raw.utf8Decode? = some text
        ∧ (loads (strictHooks (φ := φ) interpreter) text.toList = .error .recursion
          ∨ loads (strictHooks (φ := φ) interpreter) text.toList = .error .digits) := by
  have hload : ∀ (code message : String) (e : Escape),
      ¬ (refuseLoad (α := Json PyText φ) code message = .error e ∧ ¬ e.IsLoad) :=
    fun code message e h => h.2 (onlyLoads_refuseLoad code message e h.1)
  unfold parseJson
  by_cases hsize : maximumDocumentBytes < raw.size
  · rw [if_pos hsize]
    exact ⟨fun ⟨e, he⟩ => absurd he (hload _ _ e), fun h => absurd h.1 (by omega)⟩
  rw [if_neg hsize]
  cases hdecode : raw.utf8Decode? with
  | none =>
    constructor
    · rintro ⟨e, he⟩
      exact absurd he (hload _ _ e)
    · rintro ⟨-, text, htext, -⟩
      cases htext
  | some text =>
    simp only [Option.some.injEq, exists_eq_left', not_lt.mp hsize, true_and]
    cases hloads : loads (strictHooks (φ := φ) interpreter) text.toList with
    | ok value => simp
    | error error =>
      cases error with
      | recursion => simp [Escape.IsLoad]
      | digits => simp [Escape.IsLoad]
      | _ => simp [refuseLoad, Escape.IsLoad]

theorem escapes_iff [IsoReader] (hdigest : ∀ bytes, isHex64 (digest bytes) = true) :
    (∃ e, loadSignedPermit (φ := φ) digest interpreter raw = .error e ∧ ¬ e.IsLoad)
      ↔ Escapes (φ := φ) digest interpreter raw := by
  constructor
  · rintro ⟨e, he, hkind⟩
    rcases bind_eq_error.mp he with he | ⟨document, hparse, he⟩
    · obtain ⟨hsize, text, htext, hloads | hloads⟩ := parseJson_escapes.mp ⟨e, he, hkind⟩
      · exact .nesting hsize htext hloads
      · exact .digits hsize htext hloads
    rcases bind_eq_error.mp he with he | ⟨⟨permit, supplied⟩, hbuild, he⟩
    · rcases buildPermit_eq_error he with hload | hrate
      · exact absurd hload hkind
      · exact .rate hparse hrate
    · obtain ⟨hclaims, hsealed⟩ := buildPermit_eq_ok hbuild
      rcases (checkCanonical_escapes hdigest hclaims hsealed).mp ⟨e, he, hkind⟩ with
        htarget | ⟨hfingerprint, hdumps⟩
      · exact .target hparse hbuild htarget
      · exact .document hparse hbuild hfingerprint hdumps
  · have hbuilt : ∀ {document : Json PyText φ} {permit : Permit φ} {supplied : PyText},
        parseJson interpreter raw = .ok document → buildPermit document = .ok (permit, supplied) →
        isEncodable permit.claims.target = false
          ∨ permit.fingerprint digest = .ok supplied ∧ dumps .utf8 document = none →
        ∃ e, loadSignedPermit (φ := φ) digest interpreter raw = .error e ∧ ¬ e.IsLoad := by
      intro document permit supplied hparse hbuild hcase
      obtain ⟨hclaims, hsealed⟩ := buildPermit_eq_ok hbuild
      rw [loadSignedPermit_of hparse hbuild]
      exact (checkCanonical_escapes hdigest hclaims hsealed).mpr hcase
    have hunparsed : (∃ e, parseJson (φ := φ) interpreter raw = .error e ∧ ¬ e.IsLoad) →
        ∃ e, loadSignedPermit (φ := φ) digest interpreter raw = .error e ∧ ¬ e.IsLoad := by
      rintro ⟨e, he, hkind⟩
      exact ⟨e, bind_eq_error.mpr (Or.inl he), hkind⟩
    intro h
    cases h with
    | nesting hsize htext hloads =>
      exact hunparsed (parseJson_escapes.mpr ⟨hsize, _, htext, Or.inl hloads⟩)
    | digits hsize htext hloads =>
      exact hunparsed (parseJson_escapes.mpr ⟨hsize, _, htext, Or.inr hloads⟩)
    | rate hparse hrate =>
      refine ⟨.overflow, bind_eq_error.mpr (Or.inr ⟨_, hparse, ?_⟩), ?_⟩
      · exact bind_eq_error.mpr (Or.inl (buildPermit_overflow.mpr hrate))
      · rintro ⟨c, hc⟩
        cases hc
    | target hparse hbuild htarget => exact hbuilt hparse hbuild (Or.inl htarget)
    | document hparse hbuild hfingerprint hdumps =>
      exact hbuilt hparse hbuild (Or.inr ⟨hfingerprint, hdumps⟩)

theorem canonical_of_load [IsoReader] (h : loadSignedPermit digest interpreter raw = .ok permit) :
    ∃ (document : Json PyText φ) (written : List Char), parseJson interpreter raw = .ok document
      ∧ permit.toJson digest = .ok written ∧ canonicalJson document = .ok written := by
  obtain ⟨document, hparse, h⟩ := bind_ok h
  obtain ⟨⟨built, supplied⟩, hbuild, h⟩ := bind_ok h
  obtain rfl : built = permit := permit_of_checkCanonical h
  obtain ⟨_, -, h⟩ := bind_ok h
  split at h
  · cases h
  · obtain ⟨written, hwritten, h⟩ := bind_ok h
    obtain ⟨given, hgiven, h⟩ := bind_ok h
    split at h
    · cases h
    · next hsame =>
      rw [not_not] at hsame
      exact ⟨document, written, hparse, hwritten, hsame ▸ hgiven⟩

/--
**The codec of permits.** A valid permit comes back from its document, with the same signing bytes,
exactly when its target is a text that the constructor keeps and that can be encoded. A byte string
gives a permit that is written as the document is, or an error of the loader, exactly when nothing
in it escapes.
-/
theorem permit_codec [IsoReader] (laws : FloatLaws φ) (iso : IsoLaws) {digest : List Char → PyText}
    (hdigest : ∀ bytes, isHex64 (digest bytes) = true) (interpreter : Interpreter) :
    (∀ permit : Permit φ, Valid permit →
      ((∃ document loaded, permit.toJson digest = .ok document
          ∧ loadSignedPermit digest interpreter document.utf8Encode = .ok loaded
          ∧ loaded = permit ∧ loaded.claims.signingBytes = permit.claims.signingBytes)
        ↔ canonicalizeOwnedTargetUrl permit.claims.target = .ok permit.claims.target
          ∧ isEncodable permit.claims.target = true))
    ∧ ∀ raw : ByteArray,
      ((∃ permit : Permit φ, loadSignedPermit digest interpreter raw = .ok permit
          ∧ ∃ (document : Json PyText φ) (written : List Char),
            parseJson interpreter raw = .ok document
            ∧ permit.toJson digest = .ok written ∧ canonicalJson document = .ok written)
        ∨ ∃ e, loadSignedPermit (φ := φ) digest interpreter raw = .error (.load e))
        ↔ ¬ Escapes (φ := φ) digest interpreter raw := by
  constructor
  · intro permit h
    rw [← load_toJson_iff laws iso hdigest interpreter h]
    constructor
    · rintro ⟨document, loaded, hjson, hload, rfl, -⟩
      exact ⟨document, hjson, hload⟩
    · rintro ⟨document, hjson, hload⟩
      exact ⟨document, permit, hjson, hload, rfl, rfl⟩
  · intro raw
    rw [← escapes_iff hdigest]
    cases h : loadSignedPermit (φ := φ) digest interpreter raw with
    | ok permit => simpa using canonical_of_load h
    | error e => simp [Escape.IsLoad]

end

/-! ## One permit, and two that fail -/

/-- Floats that are all `1.0`; an integer beyond the largest float has none. -/
@[reducible] def oneFloat : PyFloat Unit where
  ofConstant _ := ()
  repr _ := "1.0".toList
  ofText _ := ()
  ofInt n := if n.natAbs < 2 ^ 1024 then some () else none
  isFinite _ := true
  value _ := 1

theorem oneFloat_laws : @FloatLaws Unit oneFloat := by
  let _ := oneFloat
  have hlength : "1.0".toList.length ≤ 24 := by decide
  refine ⟨fun x _ => rfl, ?_, fun x _ => hlength⟩
  intro x _
  exact ⟨['1'], ['.', '0'], [], rfl,
    ⟨[], '1', [], rfl, Or.inl rfl, rfl, fun h => absurd h (by decide), by simp⟩,
    Or.inr ⟨'0', [], rfl, rfl, by simp⟩, Or.inl rfl, rfl⟩

@[reducible] def asciiTables : UnicodeTables where
  quoted text := String.ofList ('\'' :: characters text ++ ['\''])
  upper text := text.map fun n => if 97 ≤ n ∧ n ≤ 122 then n - 32 else n
  upper_ascii _ _ := rfl

@[reducible] def asciiLibrary : UrlParse.StandardLibrary where
  lower := List.map Char.toLower
  nfkc := id
  ipAddress _ := none
  lower_ascii := UrlParse.map_toLower_ascii

@[reducible] def asciiNetwork : NetworkLibrary where
  idna := some
  properties _ := ⟨true, false, false, false, false, false, false⟩
  quoted t := String.ofList ('\'' :: t ++ ['\''])

theorem sampleInterpreter_room : 16 ≤ 1000 ∧ 640 ≤ 4300 := by decide

def sampleInterpreter : Interpreter := ⟨1000, 4300, sampleInterpreter_room⟩

def sampleUuid : PyText := ofString "00000000-0000-4000-8000-000000000001"

def sampleClaims (target : PyText) : Claims Unit where
  permitId := sampleUuid
  organizationId := sampleUuid
  authorizationId := sampleUuid
  authorizationSha256 := List.replicate 64 97
  target := target
  issuedBy := sampleUuid
  issuedAt := 0
  notBefore := 0
  expiresAt := second
  permittedModes := [.singlePage]
  allowedHttpMethods := [ofString "GET"]
  maximumRequestAttempts := 1
  maximumRequestsPerSecond := ()
  maximumConcurrency := 1
  prohibitedOperations := prohibitedOperations
  activeChecks := []
  authenticationContextId := none
  authorizationComparisonPlanId := none

def samplePermit (target : PyText) : Permit Unit where
  claims := sampleClaims target
  signingKeyId := ofString "sha256:" ++ List.replicate 64 97
  signature := List.replicate 80 65
  signatureAlgorithm := ofString "Ed25519"
  permitType := permitType
  schemaVersion := schemaVersion

/-- The digest of the claims about `https://example.com/`. -/
def sampleDigest (_ : List Char) : PyText :=
  ofString "b9e271008e86c53bc52837fb792b6a176accdfd130bdb59433359db544718015"

def sampleTarget : PyText := ofString "https://example.com/"

theorem valid_samplePermit {text target : PyText}
    (h : letI := oneFloat; letI := asciiLibrary; letI := asciiNetwork; letI := asciiTables
      (sampleClaims text).input.postInit = .ok (sampleClaims target)) :
    letI := oneFloat; letI := asciiLibrary; letI := asciiNetwork; letI := asciiTables
    Valid (samplePermit target) := by
  let _ := oneFloat
  let _ := asciiLibrary
  let _ := asciiNetwork
  let _ := asciiTables
  have hkey : isKeyId (ofString "sha256:" ++ List.replicate 64 97) = true := by decide
  have hsignature : isSignature (List.replicate 80 65) = true := by decide
  have hexpires : second < datetimeEnd := by decide
  exact ⟨⟨(sampleClaims text).input, postInit_eq_ok.mp h⟩,
    ⟨rfl, rfl, List.mem_cons_self, hkey, hsignature⟩, hexpires⟩

theorem isHex64_sampleDigest (bytes : List Char) : isHex64 (sampleDigest bytes) = true := by
  have h : isHex64 (sampleDigest []) = true := by decide
  exact h

theorem permit_codec_sample :
    letI := oneFloat; letI := asciiLibrary; letI := asciiNetwork; letI := asciiTables
    letI := isoReader
    ∃ document, (samplePermit sampleTarget).toJson sampleDigest = .ok document
      ∧ loadSignedPermit sampleDigest sampleInterpreter document.utf8Encode
        = .ok (samplePermit sampleTarget)
      ∧ ¬ Escapes (φ := Unit) sampleDigest sampleInterpreter document.utf8Encode := by
  let _ := oneFloat
  let _ := asciiLibrary
  let _ := asciiNetwork
  let _ := asciiTables
  let _ := isoReader
  have hcanonical : canonicalizeOwnedTargetUrl sampleTarget = .ok sampleTarget := by
    decide
  have hbuilt : (sampleClaims sampleTarget).input.postInit = .ok (sampleClaims sampleTarget) := by
    decide +kernel
  obtain ⟨hpermits, hbytes⟩ :=
    permit_codec oneFloat_laws isoReader_laws isHex64_sampleDigest sampleInterpreter
  obtain ⟨document, loaded, hjson, hload, rfl, -⟩ :=
    (hpermits (samplePermit sampleTarget) (valid_samplePermit hbuilt)).mpr
      ⟨hcanonical, by decide⟩
  exact ⟨document, hjson, hload,
    (hbytes document.utf8Encode).mp (Or.inl ⟨_, hload, canonical_of_load hload⟩)⟩

theorem scanOnce_brackets {ε φ : Type} [PyFloat φ] (hooks : Hooks ε φ) (depth : Nat) :
    ∀ fuel, 2 * depth < fuel →
      scanOnce hooks fuel depth (List.replicate (depth + 1) '[') = .error .recursion := by
  induction depth with
  | zero =>
    intro fuel hfuel
    obtain ⟨fuel, rfl⟩ := Nat.exists_eq_succ_of_ne_zero (by omega : fuel ≠ 0)
    rfl
  | succ depth ih =>
    intro fuel hfuel
    obtain ⟨fuel, rfl⟩ : ∃ n, fuel = n + 2 := ⟨fuel - 2, by omega⟩
    have hitem := ih fuel (by omega)
    rw [List.replicate_succ] at hitem ⊢
    rw [List.replicate_succ, scanOnce]
    simp [skipWhitespace, after, isWhitespace, scanItems, hitem]

/-- `https://example.com/x` and a space that does not break, which `str.strip` takes away. -/
def spacedTarget : PyText := ofString "https://example.com/x" ++ [0xA0]

/-- The empty query of `https://example.com/x\xa0?` is left out after the text was stripped, so the
permit has a target that the loader changes. And nested brackets raise a `RecursionError`. -/
theorem permit_not_loaded :
    letI := oneFloat; letI := asciiLibrary; letI := asciiNetwork; letI := asciiTables
    letI := isoReader
    Valid (samplePermit spacedTarget)
      ∧ (¬ ∃ document, (samplePermit spacedTarget).toJson sampleDigest = .ok document
        ∧ loadSignedPermit sampleDigest sampleInterpreter document.utf8Encode
          = .ok (samplePermit spacedTarget))
      ∧ loadSignedPermit (φ := Unit) sampleDigest sampleInterpreter
        (List.replicate 1001 '[').utf8Encode = .error .recursion := by
  let _ := oneFloat
  let _ := asciiLibrary
  let _ := asciiNetwork
  let _ := asciiTables
  let _ := isoReader
  have hbuilt : (sampleClaims (spacedTarget ++ [63])).input.postInit
      = .ok (sampleClaims spacedTarget) := by decide +kernel
  have hvalid := valid_samplePermit hbuilt
  refine ⟨hvalid, ?_, ?_⟩
  · intro h
    have hcanonical := ((load_toJson_iff oneFloat_laws isoReader_laws isHex64_sampleDigest
      sampleInterpreter hvalid).mp h).1
    have hchanged : canonicalizeOwnedTargetUrl spacedTarget ≠ .ok spacedTarget := by
      decide
    exact hchanged hcanonical
  · have hloads : loads (strictHooks (φ := Unit) sampleInterpreter) (List.replicate 1001 '[')
        = .error .recursion := by
      have hskip : skipWhitespace (List.replicate 1001 '[') = List.replicate 1001 '[' := rfl
      have hscan : scanOnce (strictHooks (φ := Unit) sampleInterpreter) (2 * 1001 + 1)
          (strictHooks (φ := Unit) sampleInterpreter).recursionLimit (List.replicate 1001 '[')
            = .error .recursion :=
        scanOnce_brackets (strictHooks (φ := Unit) sampleInterpreter) 1000 2003 (by decide)
      rw [loads, if_neg (by decide), hskip, List.length_replicate, hscan]
    have hsize : (List.replicate 1001 '[').utf8Encode.size ≤ maximumDocumentBytes := by
      refine le_trans (size_utf8Encode_le _) ?_
      rw [List.length_replicate]
      decide
    refine bind_eq_error.mpr (Or.inl ?_)
    rw [parseJson, if_neg (by omega), List.utf8Decode?_utf8Encode]
    simp only [hloads]

end WebGuard.ScanPermits
