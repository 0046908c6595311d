import WebGuard.Contracts.PermitLoader
import WebGuard.Lib.JsonEquality
import WebGuard.Lib.JsonSize

/-!
# Permits and their documents

What the constructors of a permit check (`Built`, `Sealed`), and what follows for the document the
permit is written as: which of its texts can be written at all, that it can be read back, and that
the loader gives to the constructor what the permit was made of.

Each check answers with a value that passes the check again, with one exception: a canonical target
need not be the canonical form of itself.
-/

namespace WebGuard.ScanPermits

open PyJson Atomic List ScanPermits

theorem demand_eq_ok {condition : Bool} {code message : String} {u : Unit} :
    demand condition code message = .ok u ↔ condition = true := by
  unfold demand refuse
  split <;> simp_all

variable {text : PyText} {texts : List PyText}

section

variable {φ : Type}

/-! ## Every check answers with what passes it -/

variable {fieldName : String} {value : List (Json PyText φ)}

/-- The field is a canonical UUID. -/
theorem uuidField_of_ok {value : Json PyText φ} (h : uuidField value fieldName = .ok text) :
    value = .str text ∧ isCanonicalUuid (String.ofList (characters text)) = true := by
  unfold uuidField at h
  split at h
  · split at h
    · rename_i huuid
      cases h
      exact ⟨rfl, (canonicalUuid_eq_ok.mp huuid).2⟩
    · cases h
  · cases h

/-- The field is a digest of 64 hexadecimal digits. -/
theorem sha256Field_of_ok {value : Json PyText φ} (h : sha256Field value fieldName = .ok text) :
    value = .str text ∧ isHex64 text = true := by
  unfold sha256Field at h
  split at h
  · split at h
    · rename_i hhex
      cases h
      exact ⟨rfl, hhex⟩
    · cases h
  · cases h

/-- The field is an integer within its bounds. -/
theorem positiveInteger_of_ok {value : Json PyText φ} {maximum n : Int}
    (h : positiveInteger value fieldName maximum = .ok n) :
    value = .int n ∧ 1 ≤ n ∧ n ≤ maximum := by
  unfold positiveInteger at h
  split at h
  · split at h
    · rename_i hrange
      cases h
      exact ⟨rfl, hrange⟩
    · cases h
  · cases h

theorem textsOf_map_str (texts : List PyText) : textsOf (φ := φ) (texts.map .str) = some texts := by
  induction texts with
  | nil => rfl
  | cons text rest ih => rw [map_cons, textsOf, ih, Option.map_some]

theorem eq_map_of_textsOf (h : textsOf value = some texts) : value = texts.map .str := by
  induction value generalizing texts with
  | nil =>
    cases h
    rfl
  | cons item rest ih =>
    cases item with
    | str text =>
      obtain ⟨more, hmore, rfl⟩ := Option.map_eq_some_iff.mp h
      rw [ih hmore, map_cons]
    | null => cases h
    | bool b => cases h
    | int n => cases h
    | float x => cases h
    | arr items => cases h
    | obj members => cases h

theorem sortedSet_spec (texts : List PyText) :
    (sortedSet texts).Nodup ∧ (sortedSet texts).Pairwise (· ≤ ·) :=
  ⟨(perm_insertionSort _ _).nodup_iff.mpr (nodup_dedup _),
    pairwise_insertionSort _ _⟩

/-- A list in order and without repetition is its own sorted set. -/
theorem sortedSet_of_sorted (hnodup : texts.Nodup) (hsorted : texts.Pairwise (· ≤ ·)) :
    sortedSet texts = texts := by
  rw [sortedSet, hnodup.dedup, hsorted.insertionSort_eq]

/-- The checks are known, each is named once, and they pass the check again. -/
theorem activeChecksField_of_ok (h : activeChecksField value = .ok texts) :
    activeChecksField (φ := φ) (texts.map .str) = .ok texts
      ∧ texts.Nodup ∧ ∀ text ∈ texts, text ∈ knownActiveChecks := by
  unfold activeChecksField at h
  split at h
  · cases h
  · rename_i found hfound
    obtain ⟨_, -, h⟩ := bind_ok h
    obtain ⟨_, hknown, h⟩ := bind_ok h
    cases h
    rw [demand_eq_ok] at hknown
    obtain ⟨hnodup, hsorted⟩ := sortedSet_spec found
    refine ⟨?_, hnodup, ?_⟩
    · unfold activeChecksField
      rw [textsOf_map_str]
      simp only [sortedSet_of_sorted hnodup hsorted, hsorted.insertionSort_eq]
      rw [demand, if_pos (by simp), demand, if_pos hknown]
      rfl
    · intro text htext
      simpa using all_eq_true.mp hknown text htext

/-- The prohibited operations are all of them, in their order. -/
theorem prohibitedField_of_ok (h : prohibitedField value = .ok texts) :
    texts = prohibitedOperations ∧ value = texts.map .str := by
  obtain ⟨_, hvalue, h⟩ := bind_ok h
  cases h
  rw [demand_eq_ok, decide_eq_true_eq] at hvalue
  exact ⟨rfl, eq_map_of_textsOf hvalue⟩

theorem optionalUuidField_of_ok {value : Json PyText φ} {answer : Option PyText}
    (h : optionalUuidField value fieldName = .ok answer) :
    value = optionalText answer
      ∧ ∀ text ∈ answer, isCanonicalUuid (String.ofList (characters text)) = true := by
  unfold optionalUuidField at h
  split at h
  · cases h
    exact ⟨rfl, by simp⟩
  · cases hfield : uuidField value fieldName with
    | error e => rw [hfield] at h; cases h
    | ok text =>
      rw [hfield] at h
      cases h
      obtain ⟨rfl, huuid⟩ := uuidField_of_ok hfield
      refine ⟨rfl, ?_⟩
      rintro found hfound
      cases hfound
      exact huuid

/-- The methods are allowed ones, each named once. -/
theorem methodsField_of_ok [UnicodeTables] (h : methodsField value = .ok texts) :
    value = texts.map .str ∧ texts.Nodup ∧ ∀ text ∈ texts, text ∈ allowedMethods := by
  obtain ⟨_, -, h⟩ := bind_ok h
  split at h
  · cases h
  · rename_i found hfound
    obtain ⟨_, hcanonical, h⟩ := bind_ok h
    obtain ⟨_, hallowed, h⟩ := bind_ok h
    obtain ⟨_, -, h⟩ := bind_ok h
    cases h
    rw [demand_eq_ok, decide_eq_true_eq] at hcanonical
    rw [demand_eq_ok] at hallowed
    refine ⟨?_, (sortedSet_spec _).1, ?_⟩
    · rw [hcanonical]
      exact eq_map_of_textsOf hfound
    · intro text htext
      simpa using all_eq_true.mp hallowed text htext

theorem modesField_of_ok {value modes : List ScanJobMode} (h : modesField value = .ok modes) :
    modes = value := by
  obtain ⟨_, -, h⟩ := bind_ok h
  obtain ⟨_, -, h⟩ := bind_ok h
  cases h
  rfl

variable [PyFloat φ]

theorem rateInRange_of_requestsPerSecond {value : Json PyText φ} {rate : φ}
    (h : requestsPerSecond value = .ok rate) : rateInRange rate = true := by
  unfold requestsPerSecond at h
  dsimp only at h
  split at h
  · split at h
    · cases h
    · split at h
      · rename_i hrange
        cases h
        exact hrange
      · cases h
  · split at h
    · rename_i hrange
      cases h
      exact hrange
    · cases h
  · cases h

/-- A rate in range passes the check again. -/
theorem requestsPerSecond_float {rate : φ} (h : rateInRange rate = true) :
    requestsPerSecond (.float rate) = .ok rate := by
  unfold requestsPerSecond
  simp [h]

end

section

variable {φ : Type} [PyFloat φ] [UrlParse.StandardLibrary] [NetworkLibrary] [UnicodeTables]

/-! ## Claims and their arguments -/

/-- Every field of some claims is what the check of its argument answered. -/
structure Built (raw : ClaimsInput φ) (claims : Claims φ) : Prop where
  permitId : uuidField raw.permitId "permit_id" = .ok claims.permitId
  organizationId : uuidField raw.organizationId "organization_id" = .ok claims.organizationId
  authorizationId : uuidField raw.authorizationId "authorization_id" = .ok claims.authorizationId
  authorizationSha256 : sha256Field raw.authorizationSha256 "authorization_sha256"
    = .ok claims.authorizationSha256
  target : targetField raw.target = .ok claims.target
  issuedBy : uuidField raw.issuedBy "issued_by" = .ok claims.issuedBy
  window : windowCheck claims.issuedAt claims.notBefore claims.expiresAt = .ok ()
  issuedAt : raw.issuedAt = claims.issuedAt
  notBefore : raw.notBefore = claims.notBefore
  expiresAt : raw.expiresAt = claims.expiresAt
  permittedModes : modesField raw.permittedModes = .ok claims.permittedModes
  allowedHttpMethods : methodsField raw.allowedHttpMethods = .ok claims.allowedHttpMethods
  maximumRequestAttempts : positiveInteger raw.maximumRequestAttempts "maximum_request_attempts"
    maximumRequestAttempts = .ok claims.maximumRequestAttempts
  maximumRequestsPerSecond : requestsPerSecond raw.maximumRequestsPerSecond
    = .ok claims.maximumRequestsPerSecond
  maximumConcurrency : positiveInteger raw.maximumConcurrency "maximum_concurrency"
    maximumConcurrency = .ok claims.maximumConcurrency
  prohibitedOperations : prohibitedField raw.prohibitedOperations = .ok claims.prohibitedOperations
  activeChecks : activeChecksField raw.activeChecks = .ok claims.activeChecks
  authenticationContextId : optionalUuidField raw.authenticationContextId
    "authentication_context_id" = .ok claims.authenticationContextId
  authorizationComparisonPlanId : optionalUuidField raw.authorizationComparisonPlanId
    "authorization_comparison_plan_id" = .ok claims.authorizationComparisonPlanId

variable {raw : ClaimsInput φ} {claims : Claims φ}

/-- The constructor accepts what `Built` says. -/
theorem postInit_eq_ok :
    raw.postInit = .ok claims ↔ Built raw claims := by
  constructor
  · intro h
    obtain ⟨_, hpermit, h⟩ := bind_ok h
    obtain ⟨_, horganization, h⟩ := bind_ok h
    obtain ⟨_, hauthorization, h⟩ := bind_ok h
    obtain ⟨_, hsha, h⟩ := bind_ok h
    obtain ⟨_, htarget, h⟩ := bind_ok h
    obtain ⟨_, hissued, h⟩ := bind_ok h
    obtain ⟨_, hwindow, h⟩ := bind_ok h
    obtain ⟨_, hmodes, h⟩ := bind_ok h
    obtain ⟨_, hmethods, h⟩ := bind_ok h
    obtain ⟨_, hattempts, h⟩ := bind_ok h
    obtain ⟨_, hrate, h⟩ := bind_ok h
    obtain ⟨_, hconcurrency, h⟩ := bind_ok h
    obtain ⟨_, hprohibited, h⟩ := bind_ok h
    obtain ⟨_, hchecks, h⟩ := bind_ok h
    obtain ⟨_, hcontext, h⟩ := bind_ok h
    obtain ⟨_, hplan, h⟩ := bind_ok h
    cases h
    exact ⟨hpermit, horganization, hauthorization, hsha, htarget, hissued, hwindow, rfl, rfl, rfl,
      hmodes, hmethods, hattempts, hrate, hconcurrency, hprohibited, hchecks, hcontext, hplan⟩
  · intro h
    have hwindow := h.window
    rw [← h.issuedAt, ← h.notBefore, ← h.expiresAt] at hwindow
    unfold ClaimsInput.postInit
    rw [h.permitId, h.organizationId, h.authorizationId, h.authorizationSha256, h.target,
      h.issuedBy, hwindow, h.permittedModes, h.allowedHttpMethods, h.maximumRequestAttempts,
      h.maximumRequestsPerSecond, h.maximumConcurrency, h.prohibitedOperations, h.activeChecks,
      h.authenticationContextId, h.authorizationComparisonPlanId, h.issuedAt, h.notBefore,
      h.expiresAt]
    rfl

/-- The arguments that some claims are loaded with. -/
def Claims.input (claims : Claims φ) : ClaimsInput φ where
  permitId := .str claims.permitId
  organizationId := .str claims.organizationId
  authorizationId := .str claims.authorizationId
  authorizationSha256 := .str claims.authorizationSha256
  target := .str claims.target
  issuedBy := .str claims.issuedBy
  issuedAt := claims.issuedAt
  notBefore := claims.notBefore
  expiresAt := claims.expiresAt
  permittedModes := claims.permittedModes
  allowedHttpMethods := claims.allowedHttpMethods.map .str
  maximumRequestAttempts := .int claims.maximumRequestAttempts
  maximumRequestsPerSecond := .float claims.maximumRequestsPerSecond
  maximumConcurrency := .int claims.maximumConcurrency
  prohibitedOperations := claims.prohibitedOperations.map .str
  activeChecks := claims.activeChecks.map .str
  authenticationContextId := optionalText claims.authenticationContextId
  authorizationComparisonPlanId := optionalText claims.authorizationComparisonPlanId

/-- Claims that were built are built again of what they hold, if their target is its own form. -/
theorem Built.input (h : Built raw claims)
    (htarget : targetField (φ := φ) (.str claims.target) = .ok claims.target) :
    Built claims.input claims := by
  have hmodes := modesField_of_ok h.permittedModes
  refine ⟨?_, ?_, ?_, ?_, htarget, ?_, h.window, rfl, rfl, rfl, ?_, ?_, ?_,
    requestsPerSecond_float (rateInRange_of_requestsPerSecond h.maximumRequestsPerSecond), ?_, ?_,
    (activeChecksField_of_ok h.activeChecks).1, ?_, ?_⟩
  · rw [Claims.input, ← (uuidField_of_ok h.permitId).1, h.permitId]
  · rw [Claims.input, ← (uuidField_of_ok h.organizationId).1, h.organizationId]
  · rw [Claims.input, ← (uuidField_of_ok h.authorizationId).1, h.authorizationId]
  · rw [Claims.input, ← (sha256Field_of_ok h.authorizationSha256).1, h.authorizationSha256]
  · rw [Claims.input, ← (uuidField_of_ok h.issuedBy).1, h.issuedBy]
  · rw [Claims.input, hmodes, h.permittedModes, hmodes]
  · rw [Claims.input, ← (methodsField_of_ok h.allowedHttpMethods).1, h.allowedHttpMethods]
  · rw [Claims.input, ← (positiveInteger_of_ok h.maximumRequestAttempts).1,
      h.maximumRequestAttempts]
  · rw [Claims.input, ← (positiveInteger_of_ok h.maximumConcurrency).1, h.maximumConcurrency]
  · rw [Claims.input, ← (prohibitedField_of_ok h.prohibitedOperations).2, h.prohibitedOperations]
  · rw [Claims.input, ← (optionalUuidField_of_ok h.authenticationContextId).1,
      h.authenticationContextId]
  · rw [Claims.input, ← (optionalUuidField_of_ok h.authorizationComparisonPlanId).1,
      h.authorizationComparisonPlanId]

end

/-! ## What is written -/

theorem uuid_spec (h : isCanonicalUuid (String.ofList (characters text)) = true) :
    isEncodable text = true ∧ text.length = 36 := by
  rw [isCanonicalUuid, String.toList_ofList, Bool.and_eq_true, beq_iff_eq] at h
  have hjoin : ['-'].intercalate ((characters text).splitOn '-') = characters text :=
    intercalate_splitOn '-'
  generalize (characters text).splitOn '-' = groups at h hjoin
  obtain ⟨hlengths, hhex⟩ := h
  obtain ⟨a, _, rfl, ha, hlengths⟩ := map_eq_cons_iff.mp hlengths
  obtain ⟨b, _, rfl, hb, hlengths⟩ := map_eq_cons_iff.mp hlengths
  obtain ⟨c, _, rfl, hc, hlengths⟩ := map_eq_cons_iff.mp hlengths
  obtain ⟨d, _, rfl, hd, hlengths⟩ := map_eq_cons_iff.mp hlengths
  obtain ⟨e, _, rfl, he, hlengths⟩ := map_eq_cons_iff.mp hlengths
  rw [map_eq_nil_iff.mp hlengths] at hhex hjoin
  simp only [all_cons, all_nil, Bool.and_true, Bool.and_eq_true] at hhex
  have htext : characters text = a ++ '-' :: (b ++ '-' :: (c ++ '-' :: (d ++ '-' :: e))) := by
    rw [← hjoin]
    simp [intercalate, intersperse]
  refine ⟨isEncodable_of_characters (p := fun c => isLowerHex c || c = '-') rfl ?_, ?_⟩
  · rw [htext]
    have hor : ∀ l : List Char, l.all isLowerHex = true →
        (l.all fun c => isLowerHex c || c = '-') = true := by
      intro l hl
      rw [all_eq_true] at hl ⊢
      intro c hc
      rw [hl c hc, Bool.true_or]
    simp only [all_append, all_cons, hor _ hhex.1, hor _ hhex.2.1, hor _ hhex.2.2.1,
      hor _ hhex.2.2.2.1, hor _ hhex.2.2.2.2]
    rfl
  · have hlength := congrArg length htext
    simp only [characters, length_map, length_append, length_cons] at hlength
    omega

theorem hex64_spec (h : isHex64 text = true) : isEncodable text = true ∧ text.length = 64 := by
  rw [isHex64, Bool.and_eq_true, decide_eq_true_eq] at h
  refine ⟨all_eq_true.mpr ?_, h.1⟩
  intro n hn
  have hhex := all_eq_true.mp h.2 n hn
  simp only [Bool.or_eq_true, Bool.and_eq_true, decide_eq_true_eq] at hhex
  simp only [isScalar, Bool.or_eq_true, decide_eq_true_eq]
  omega

section

variable {φ : Type}

variable {p : PyText → Bool}

theorem all_of_table {table : List PyText} (htable : table.all p = true)
    (h : ∀ text ∈ texts, text ∈ table) : texts.all p = true := by
  refine all_eq_true.mpr ?_
  intro text htext
  exact all_eq_true.mp htable text (h text htext)

theorem all_textList {q : φ → Bool} (texts : List PyText) :
    (textList texts).all p q = texts.all p := by
  rw [textList, Json.all]
  induction texts with
  | nil => rfl
  | cons text rest ih => rw [map_cons, allItems, ih, all_cons, Json.all]

theorem all_optionalText {q : φ → Bool} (value : Option PyText) :
    (optionalText value).all p q = value.all p := by
  cases value with
  | none => rfl
  | some text => rfl

theorem isEncodable_timestampText (t : Nat) : isEncodable (timestampText t) = true :=
  isEncodable_ofString _

end

section

variable {φ : Type} [PyFloat φ] [UrlParse.StandardLibrary] [NetworkLibrary] [UnicodeTables]

/-- The texts of some claims, the target apart. -/
structure Encoded (claims : Claims φ) : Prop where
  permitId : isEncodable claims.permitId = true
  organizationId : isEncodable claims.organizationId = true
  authorizationId : isEncodable claims.authorizationId = true
  authorizationSha256 : isEncodable claims.authorizationSha256 = true
  issuedBy : isEncodable claims.issuedBy = true
  permittedModes : (claims.permittedModes.map fun m => ofString m.value).all isEncodable = true
  allowedHttpMethods : claims.allowedHttpMethods.all isEncodable = true
  maximumRequestsPerSecond : PyFloat.isFinite claims.maximumRequestsPerSecond = true
  prohibitedOperations : claims.prohibitedOperations.all isEncodable = true
  activeChecks : claims.activeChecks.all isEncodable = true
  authenticationContextId : claims.authenticationContextId.all isEncodable = true
  authorizationComparisonPlanId : claims.authorizationComparisonPlanId.all isEncodable = true

/-- Every text of built claims can be encoded, but perhaps the target. -/
theorem Built.encoded {raw : ClaimsInput φ} {claims : Claims φ} (h : Built raw claims) :
    Encoded claims := by
  have hoptional : ∀ value : Option PyText,
      (∀ text ∈ value, isCanonicalUuid (String.ofList (characters text)) = true) →
      value.all isEncodable = true := by
    intro value hvalue
    cases value with
    | none => rfl
    | some text => exact (uuid_spec (hvalue text rfl)).1
  have hrate := rateInRange_of_requestsPerSecond h.maximumRequestsPerSecond
  rw [rateInRange, Bool.and_eq_true, Bool.and_eq_true] at hrate
  refine ⟨(uuid_spec (uuidField_of_ok h.permitId).2).1,
    (uuid_spec (uuidField_of_ok h.organizationId).2).1,
    (uuid_spec (uuidField_of_ok h.authorizationId).2).1,
    (hex64_spec (sha256Field_of_ok h.authorizationSha256).2).1,
    (uuid_spec (uuidField_of_ok h.issuedBy).2).1, ?_,
    all_of_table (by decide) (methodsField_of_ok h.allowedHttpMethods).2.2, hrate.1.1, ?_,
    all_of_table (by decide) (activeChecksField_of_ok h.activeChecks).2.2,
    hoptional _ (optionalUuidField_of_ok h.authenticationContextId).2,
    hoptional _ (optionalUuidField_of_ok h.authorizationComparisonPlanId).2⟩
  · refine all_eq_true.mpr ?_
    intro text htext
    obtain ⟨mode, -, rfl⟩ := mem_map.mp htext
    exact isEncodable_ofString _
  · rw [(prohibitedField_of_ok h.prohibitedOperations).1]
    decide

end

section

variable {φ : Type} [PyFloat φ]

/-- So the document of the claims can be encoded exactly if the target can. -/
theorem all_toDict {claims : Claims φ} (h : Encoded claims) :
    (Json.obj claims.toDict).all (fun s => Mode.utf8 = .ascii || isEncodable s) PyFloat.isFinite
      = isEncodable claims.target := by
  have hkey : ∀ s : String, isEncodable (ofString s) = true := isEncodable_ofString
  simp only [reduceCtorEq, decide_false, Bool.false_or, Claims.toDict, Json.all, allMembers,
    all_textList, all_optionalText, hkey, h.permitId, h.organizationId, h.authorizationId,
    h.authorizationSha256, h.issuedBy, isEncodable_timestampText, h.permittedModes,
    h.allowedHttpMethods, h.maximumRequestsPerSecond, h.prohibitedOperations, h.activeChecks,
    h.authenticationContextId, h.authorizationComparisonPlanId, Bool.true_and, Bool.and_true]

variable {value : Json PyText φ}

theorem canonicalJson_eq_ok {document : List Char} :
    canonicalJson value = .ok document ↔ dumps .utf8 value = some document := by
  unfold canonicalJson
  cases dumps .utf8 value with
  | none => simp [refuse]
  | some found => simp

/-- A document whose texts can be encoded is dumped with its keys sorted. -/
theorem dumps_of_all
    (h : value.all (fun s => Mode.utf8 = .ascii || isEncodable s) PyFloat.isFinite = true) :
    dumps .utf8 value = some (render .utf8 (sortKeys value)) := by
  rw [dumps, if_pos h]

/-- The texts of a dumped document can be encoded. -/
theorem all_of_dumps {document : List Char}
    (h : dumps .utf8 value = some document) :
    value.all (fun s => Mode.utf8 = .ascii || isEncodable s) PyFloat.isFinite = true := by
  unfold dumps at h
  split at h
  · assumption
  · cases h

/-! ## The envelope -/

/-- What `SignedTrustScanPermit(...)` checks. -/
structure Sealed (permit : Permit φ) : Prop where
  permitType : permit.permitType = permitType
  schemaVersion : permit.schemaVersion = schemaVersion
  signatureAlgorithm : permit.signatureAlgorithm ∈ signatureAlgorithms
  signingKeyId : isKeyId permit.signingKeyId = true
  signature : isSignature permit.signature = true

variable {permit : Permit φ}

section

omit [PyFloat φ]

theorem orRefuse_eq_ok {α : Type} {value : Option α} {code message : String} {a : α} :
    orRefuse value code message = .ok a ↔ value = some a := by
  cases value with
  | none => simp [orRefuse, refuse]
  | some b => simp [orRefuse]

theorem textAmong_eq_some {value : Json PyText φ} :
    textAmong texts value = some text ↔ value = .str text ∧ text ∈ texts := by
  cases value with
  | str found =>
    simp only [textAmong, contains_eq_mem, decide_eq_true_eq, Json.str.injEq]
    split
    · rename_i hfound
      simp only [Option.some.injEq]
      exact ⟨fun h => ⟨h, h ▸ hfound⟩, fun h => h.1⟩
    · rename_i hfound
      simp only [reduceCtorEq, false_iff, not_and]
      rintro rfl
      exact hfound
  | _ => simp [textAmong]

theorem textThat_eq_some {check : PyText → Bool} {value : Json PyText φ} :
    textThat check value = some text ↔ value = .str text ∧ check text = true := by
  cases value with
  | str found =>
    simp only [textThat, Json.str.injEq]
    split
    · rename_i hfound
      simp only [Option.some.injEq]
      exact ⟨fun h => ⟨h, h ▸ hfound⟩, fun h => h.1⟩
    · rename_i hfound
      simp only [reduceCtorEq, false_iff, not_and]
      rintro rfl
      exact hfound
  | _ => simp [textThat]

/-- The constructor of a permit takes the claims and texts that pass their checks. -/
theorem signedPermit_eq_ok {claims : Claims φ}
    {permitType schemaVersion algorithm keyId signature : Json PyText φ} :
    signedPermit claims permitType schemaVersion algorithm keyId signature = .ok permit ↔
      permit.claims = claims ∧ permitType = .str permit.permitType
        ∧ schemaVersion = .str permit.schemaVersion ∧ algorithm = .str permit.signatureAlgorithm
        ∧ keyId = .str permit.signingKeyId ∧ signature = .str permit.signature ∧ Sealed permit := by
  constructor
  · intro h
    obtain ⟨_, htype, h⟩ := bind_ok h
    obtain ⟨_, hschema, h⟩ := bind_ok h
    obtain ⟨_, halgorithm, h⟩ := bind_ok h
    obtain ⟨_, hkey, h⟩ := bind_ok h
    obtain ⟨_, hsignature, h⟩ := bind_ok h
    cases h
    rw [orRefuse_eq_ok, textAmong_eq_some] at htype hschema halgorithm
    rw [orRefuse_eq_ok, textThat_eq_some] at hkey hsignature
    exact ⟨rfl, htype.1, hschema.1, halgorithm.1, hkey.1, hsignature.1,
      ⟨mem_singleton.mp htype.2, mem_singleton.mp hschema.2, halgorithm.2, hkey.2,
        hsignature.2⟩⟩
  · rintro ⟨rfl, rfl, rfl, rfl, rfl, rfl, hsealed⟩
    have htype : textAmong [permitType] (Json.str (φ := φ) permit.permitType)
        = some permit.permitType :=
      textAmong_eq_some.mpr ⟨rfl, mem_singleton.mpr hsealed.permitType⟩
    have hschema : textAmong [schemaVersion] (Json.str (φ := φ) permit.schemaVersion)
        = some permit.schemaVersion :=
      textAmong_eq_some.mpr ⟨rfl, mem_singleton.mpr hsealed.schemaVersion⟩
    have halgorithm : textAmong signatureAlgorithms (Json.str (φ := φ) permit.signatureAlgorithm)
        = some permit.signatureAlgorithm :=
      textAmong_eq_some.mpr ⟨rfl, hsealed.signatureAlgorithm⟩
    have hkey : textThat isKeyId (Json.str (φ := φ) permit.signingKeyId)
        = some permit.signingKeyId := textThat_eq_some.mpr ⟨rfl, hsealed.signingKeyId⟩
    have hsignature : textThat isSignature (Json.str (φ := φ) permit.signature)
        = some permit.signature := textThat_eq_some.mpr ⟨rfl, hsealed.signature⟩
    unfold signedPermit
    rw [htype, hschema, halgorithm, hkey, hsignature]
    rfl

end

/-- A permit that the constructors made; a `datetime` does not go beyond the year 9999. -/
structure Valid [UrlParse.StandardLibrary] [NetworkLibrary] [UnicodeTables] (permit : Permit φ) :
    Prop where
  claims : ∃ raw : ClaimsInput φ, Built raw permit.claims
  envelope : Sealed permit
  expiresAt : permit.claims.expiresAt < datetimeEnd

theorem isKeyId_spec (h : isKeyId text = true) : isEncodable text = true ∧ text.length = 71 := by
  rw [isKeyId, Bool.and_eq_true, decide_eq_true_eq] at h
  obtain ⟨hhex, hlength⟩ := hex64_spec h.2
  have htake : isEncodable (text.take 7) = true := by
    rw [h.1]
    exact isEncodable_ofString _
  refine ⟨?_, ?_⟩
  · rw [← take_append_drop 7 text, isEncodable, all_append, Bool.and_eq_true]
    exact ⟨htake, hhex⟩
  · rw [length_drop] at hlength
    omega

theorem isSignature_spec (h : isSignature text = true) :
    isEncodable text = true ∧ text.length ≤ 128 := by
  rw [isSignature, Bool.and_eq_true, Bool.and_eq_true, decide_eq_true_eq, decide_eq_true_eq] at h
  refine ⟨all_eq_true.mpr ?_, h.1.2⟩
  intro n hn
  have hcharacter := all_eq_true.mp h.2 n hn
  simp only [Bool.or_eq_true, Bool.and_eq_true, decide_eq_true_eq] at hcharacter
  simp only [isScalar, Bool.or_eq_true, decide_eq_true_eq]
  omega

theorem isEncodable_algorithm (h : text ∈ signatureAlgorithms) : isEncodable text = true := by
  have htable : signatureAlgorithms.all isEncodable = true := by decide
  exact all_eq_true.mp htable text h

/-- The document of a permit can be encoded exactly if the target of its claims can. -/
theorem all_dictWith {fingerprint : PyText} (hclaims : Encoded permit.claims) (h : Sealed permit)
    (hfingerprint : isEncodable fingerprint = true) :
    (Json.obj (permit.dictWith fingerprint)).all (fun s => Mode.utf8 = .ascii || isEncodable s)
      PyFloat.isFinite = isEncodable permit.claims.target := by
  have hkey : ∀ s : String, isEncodable (ofString s) = true := isEncodable_ofString
  have hdict := all_toDict hclaims
  rw [Json.all] at hdict
  simp only [reduceCtorEq, decide_false, Bool.false_or] at hdict
  simp only [reduceCtorEq, decide_false, Bool.false_or, Permit.dictWith, Permit.signatureDict,
    Json.all, allMembers, hkey, h.permitType, h.schemaVersion, isEncodable_algorithm h.signatureAlgorithm,
    (isKeyId_spec h.signingKeyId).1, (isSignature_spec h.signature).1, hfingerprint, hdict,
    permitType, schemaVersion, Bool.true_and, Bool.and_true]

/-! ## What is read -/

variable {interpreter : Interpreter}

theorem keepsPairs_strictHooks : KeepsPairs (strictHooks (φ := φ) interpreter) := by
  intro members hnodup
  exact if_pos hnodup

section

omit [PyFloat φ]

theorem keys_toDict (claims : Claims φ) : claims.toDict.map Prod.fst = claimKeys := rfl

theorem keys_dictWith (permit : Permit φ) (fingerprint : PyText) :
    (permit.dictWith fingerprint).map Prod.fst = rootKeys := rfl

theorem keys_signatureDict (permit : Permit φ) :
    permit.signatureDict.map Prod.fst = signatureKeys := rfl

end

theorem nodup_claimKeys : claimKeys.Nodup := by decide

theorem nodup_rootKeys : rootKeys.Nodup := by decide

theorem nodup_signatureKeys : signatureKeys.Nodup := by decide

theorem fits_textList {hooks : Hooks Unit φ} {depth : Nat} (hdepth : depth ≠ 0)
    (h : texts.all isEncodable = true) : Fits .utf8 hooks depth (textList texts) := by
  refine ⟨hdepth, ?_⟩
  induction texts with
  | nil => trivial
  | cons text rest ih =>
    rw [all_cons, Bool.and_eq_true] at h
    exact ⟨h.1, ih h.2⟩

theorem fits_optionalText {hooks : Hooks Unit φ} {depth : Nat} {value : Option PyText}
    (h : value.all isEncodable = true) : Fits .utf8 hooks depth (optionalText value) := by
  cases value with
  | none => trivial
  | some text => exact h

theorem decimalLength_le {n : Int} {k : Nat} (hk : 0 < k) (hlow : 0 ≤ n) (hhigh : n < 10 ^ k) :
    decimalLength n ≤ k := by
  rw [decimalLength, Nat.length_toDigits_le_iff (by decide) hk]
  have hnat : ((n.natAbs : Nat) : Int) < ((10 ^ k : Nat) : Int) := by
    rw [Int.natAbs_of_nonneg hlow]
    exact_mod_cast hhigh
  exact_mod_cast hnat

/-- The document of a permit whose texts can be encoded can be read back. -/
theorem fits_dictWith {fingerprint : PyText} (hclaims : Encoded permit.claims) (h : Sealed permit)
    (hfingerprint : isEncodable fingerprint = true)
    (htarget : isEncodable permit.claims.target = true)
    (hattempts : 1 ≤ permit.claims.maximumRequestAttempts
      ∧ permit.claims.maximumRequestAttempts ≤ maximumRequestAttempts)
    (hconcurrency : 1 ≤ permit.claims.maximumConcurrency
      ∧ permit.claims.maximumConcurrency ≤ maximumConcurrency) :
    Fits .utf8 (strictHooks (φ := φ) interpreter) interpreter.recursionLimit
      (.obj (permit.dictWith fingerprint)) := by
  obtain ⟨hdepth, hdigits⟩ := interpreter.room
  have hkey : ∀ s : String, readsBack .utf8 (ofString s) = true := isEncodable_ofString
  have hint : ∀ n : Int, 1 ≤ n → n ≤ 150 → decimalLength n ≤ interpreter.maximumDigits := by
    intro n hlow hhigh
    have hthree : decimalLength n ≤ 3 := decimalLength_le (by decide) (by omega) (by omega)
    omega
  have hdict : Fits .utf8 (strictHooks (φ := φ) interpreter) (interpreter.recursionLimit - 1)
      (.obj permit.claims.toDict) := by
    refine ⟨by omega, by rw [keys_toDict]; exact nodup_claimKeys, ?_⟩
    exact ⟨hkey _, hclaims.permitId, hkey _, hclaims.organizationId, hkey _,
      hclaims.authorizationId, hkey _, hclaims.authorizationSha256, hkey _, htarget, hkey _,
      hclaims.issuedBy, hkey _, hkey _, hkey _, hkey _, hkey _, hkey _, hkey _,
      fits_textList (by omega) hclaims.permittedModes, hkey _,
      fits_textList (by omega) hclaims.allowedHttpMethods, hkey _,
      hint _ hattempts.1 hattempts.2, hkey _, hclaims.maximumRequestsPerSecond, hkey _,
      hint _ hconcurrency.1 (le_trans hconcurrency.2 (by decide)), hkey _,
      fits_textList (by omega) hclaims.prohibitedOperations, hkey _,
      fits_textList (by omega) hclaims.activeChecks, hkey _,
      fits_optionalText hclaims.authenticationContextId, hkey _,
      fits_optionalText hclaims.authorizationComparisonPlanId, trivial⟩
  refine ⟨by omega, nodup_rootKeys, ?_⟩
  refine ⟨hkey _, ?_, hkey _, ?_, hkey _, hdict, hkey _, ⟨by omega, nodup_signatureKeys, ?_⟩, hkey _,
    hfingerprint, trivial⟩
  · rw [h.permitType]
    exact hkey _
  · rw [h.schemaVersion]
    exact hkey _
  · exact ⟨hkey _, isEncodable_algorithm h.signatureAlgorithm, hkey _,
      (isKeyId_spec h.signingKeyId).1, hkey _, (isSignature_spec h.signature).1, trivial⟩

section

omit [PyFloat φ]

variable {members : List (PyText × Json PyText φ)}

/-- The order of the members does not matter. -/
theorem strictMapping_of_perm [UnicodeTables] {required : List PyText}
    (h : (members.map Prod.fst).Perm required) (context : String) :
    strictMapping (.obj members) required context = .ok members := by
  have hmissing : required.filter (!(members.map Prod.fst).contains ·) = [] := by
    rw [filter_eq_nil_iff]
    intro key hkey
    simpa using h.mem_iff.mpr hkey
  have hunknown : (members.map Prod.fst).filter (!required.contains ·) = [] := by
    rw [filter_eq_nil_iff]
    intro key hkey
    simpa using h.mem_iff.mp hkey
  have hnil : sortedSet [] = [] := rfl
  unfold strictMapping
  simp only [hmissing, hunknown, hnil]

/-- A member of a mapping that is written out. -/
theorem member_cons (name key : String) (value : Json PyText φ)
    (members : List (PyText × Json PyText φ)) :
    member name ((ofString key, value) :: members)
      = if name = key then value else member name members := by
  rw [member, member, PyJson.lookup]
  by_cases h : name = key
  · simp [h]
  · simp [h, ofString_inj, eq_comm]

/-- The member of a name is the spelled member. -/
theorem member_spelled (σ : Spelling φ) {expected : List PyText}
    (hkeys : members.map Prod.fst = expected) (hnodup : expected.Nodup)
    (name : String) (h : ofString name ∈ expected) :
    member name (σ.members members) = σ.value (member name members) := by
  subst hkeys
  obtain ⟨⟨key, value⟩, hmem, rfl⟩ := mem_map.mp h
  rw [member, σ.lookup hnodup hmem, member, lookup_of_mem hnodup hmem]
  rfl

/-- The members of a sorted document are the sorted members. -/
theorem member_sorted {expected : List PyText}
    (hkeys : members.map Prod.fst = expected) (hnodup : expected.Nodup) (name : String)
    (h : ofString name ∈ expected) :
    member name (byKey (sortMembers members)) = sortKeys (member name members) :=
  member_spelled Spelling.sorted hkeys hnodup name h

theorem sortKeys_textList (texts : List PyText) :
    sortKeys (textList (φ := φ) texts) = textList texts := by
  rw [textList, sortKeys, sortItems_eq_map, map_map]
  rfl

theorem sortKeys_optionalText (value : Option PyText) :
    sortKeys (optionalText (φ := φ) value) = optionalText value := by
  cases value <;> rfl

/-- The modes are read back from their values. -/
theorem mapM_modeOf (modes : List ScanJobMode) :
    ((modes.map fun m => ofString m.value).map (Json.str (φ := φ))).mapM modeOf = .ok modes := by
  have hmode : ∀ m : ScanJobMode, modeOf (Json.str (φ := φ) (ofString m.value)) = .ok m := by
    intro m
    cases m <;> rfl
  rw [map_map, mapM_map]
  exact Atomic.mapM_eq_self fun m _ => hmode m

/-- A written time is read back. -/
theorem parseTimestamp_timestampText [IsoReader] (iso : IsoLaws) {t : Nat} (h : t < datetimeEnd)
    (fieldName : String) :
    parseTimestamp (Json.str (φ := φ) (timestampText t)) fieldName = .ok t := by
  rw [parseTimestamp, readTimestamp_timestamp iso h]

/-- The loader gives to the constructor what the claims hold. -/
theorem claimsInput_toDict [IsoReader] (iso : IsoLaws) {claims : Claims φ}
    (hissued : claims.issuedAt < datetimeEnd) (hbefore : claims.notBefore < datetimeEnd)
    (hexpires : claims.expiresAt < datetimeEnd) :
    claimsInput (byKey (sortMembers claims.toDict))
      ((claims.permittedModes.map fun m => ofString m.value).map .str)
      (claims.allowedHttpMethods.map .str) (claims.prohibitedOperations.map .str)
      (claims.activeChecks.map .str) = .ok claims.input := by
  have hmember := member_sorted (keys_toDict claims) nodup_claimKeys
  unfold claimsInput
  simp (disch := decide) only [hmember]
  simp only [Claims.toDict, member_cons, String.reduceEq, if_true, if_false, sortKeys,
    sortKeys_optionalText, parseTimestamp_timestampText iso hissued,
    parseTimestamp_timestampText iso hbefore, parseTimestamp_timestampText iso hexpires,
    mapM_modeOf]
  rfl

end

end

end WebGuard.ScanPermits
