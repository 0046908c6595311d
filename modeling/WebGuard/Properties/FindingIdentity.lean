import WebGuard.Contracts.FindingPayload
import WebGuard.Properties.PermitCodec

/-!
# Which finding a fingerprint stands for

The constructors strip a text, check its length and only then put it into another case or take a part
of it. So a stored text need not pass the check it went through, and the loader, which runs the
constructors on the stored texts and compares, refuses the report of such a finding.
-/

namespace WebGuard.FindingContract

open PyJson UrlParse StandardLibrary List Char FindingIdentity
open ScanPermits (Interpreter oneFloat oneFloat_laws asciiTables asciiLibrary sampleInterpreter)

section

variable {φ : Type} [PyFloat φ] [DecidableEq φ] [LowerTable] [StandardLibrary] [UnicodeTables]
  [TimeReader]

/--
**The identity of a finding.** Two stored identities have equal payloads only if they are equal, as
long as their texts differ in code units, and the fingerprints differ with the payloads. A stored
finding comes back with its fingerprint exactly if its fields fit and its texts can be encoded.
-/
theorem finding_identity (laws : FloatLaws φ) (cases : CaseLaws) (times : ReadsTimes)
    {digest : List Char → PyText} (hdigest : ∀ bytes, isEncodable (digest bytes) = true)
    (interpreter : Interpreter) (index : Nat) {i j : FindingIdentity} (hi : StoredIdentity i)
    (hj : StoredIdentity j) {finding : NormalizedFinding} (h : Stored finding) :
    ((i.payload φ = j.payload φ ↔ i = j)
      ∧ ((digest (i.payload φ) = digest (j.payload φ) → i.payload φ = j.payload φ) →
        (i.fingerprint φ digest = j.fingerprint φ digest ↔ i = j))
      ∧ ∃ again, reloadFinding φ digest interpreter index finding = some again
        ∧ again.identity.fingerprint φ digest = finding.identity.fingerprint φ digest)
    ↔ (SameUnits i j → i = j) ∧ Fitting finding ∧ finding.Encodable := by
  have hpayload := payload_eq_iff (φ := φ) hi hj
  have hreload : ∀ again, reloadFinding φ digest interpreter index finding = some again ↔
      again = finding ∧ Fitting finding ∧ finding.Encodable := fun again =>
    reloadFinding_eq_some laws cases times hdigest interpreter index h
  constructor
  · rintro ⟨hsame, -, again, hagain, -⟩
    exact ⟨fun hunits => hsame.mp (hpayload.mpr hunits), ((hreload again).mp hagain).2⟩
  · rintro ⟨hunits, hfitting⟩
    have hsame : i.payload φ = j.payload φ ↔ i = j :=
      ⟨fun h => hunits (hpayload.mp h), fun h => by rw [h]⟩
    refine ⟨hsame, fun hcollision => ?_, finding, (hreload finding).mpr ⟨rfl, hfitting⟩, rfl⟩
    unfold fingerprint
    exact ⟨fun h => hsame.mp (hcollision h), fun h => by rw [h]⟩

end

/-! ## Samples -/

@[reducible] def asciiLower : LowerTable where
  lower text := text.map fun n => if 65 ≤ n ∧ n ≤ 90 then n + 32 else n
  lower_ascii _ _ := rfl

/-- The reader of timestamps, for both spellings of `isoformat`. -/
@[reducible] def isoformatReader : TimeReader where
  fromIsoFormat text :=
    (isoReader.fromIsoFormat
      (if text.length = 25 then text.take 19 ++ ofString ".000000" ++ text.drop 19
        else text)).map .aware

theorem stripText_map {f : Nat → Nat} (hspace : ∀ n, isSpace (asChar (f n)) = isSpace (asChar n))
    (text : PyText) : stripText (text.map f) = (stripText text).map f := by
  have hdrop : ∀ t : PyText, (t.map f).dropWhile (fun n => isSpace (asChar n)) =
      (t.dropWhile fun n => isSpace (asChar n)).map f := by
    intro t
    rw [dropWhile_map]
    congr 1
    exact congrArg (dropWhile · t) (funext hspace)
  unfold stripText
  rw [hdrop, ← map_reverse, hdrop, map_reverse]

theorem asciiLower_space (n : Nat) :
    isSpace (asChar (if 65 ≤ n ∧ n ≤ 90 then n + 32 else n)) = isSpace (asChar n) := by
  have hletters : ∀ k < 26, isSpace (asChar (65 + k + 32)) = isSpace (asChar (65 + k)) := by decide
  split
  · obtain ⟨k, rfl⟩ : ∃ k, n = 65 + k := ⟨n - 65, by omega⟩
    exact hletters k (by omega)
  · rfl

theorem asciiUpper_space (n : Nat) :
    isSpace (asChar (if 97 ≤ n ∧ n ≤ 122 then n - 32 else n)) = isSpace (asChar n) := by
  have hletters : ∀ k < 26, isSpace (asChar (97 + k - 32)) = isSpace (asChar (97 + k)) := by decide
  split
  · obtain ⟨k, rfl⟩ : ∃ k, n = 97 + k := ⟨n - 97, by omega⟩
    exact hletters k (by omega)
  · rfl

theorem map_plain {f : Nat → Nat} (hzero : ∀ n, f n = 0 → n = 0) {text : PyText} (hne : text ≠ [])
    (hnull : 0 ∉ text) : text.map f ≠ [] ∧ 0 ∉ text.map f := by
  refine ⟨by simpa using hne, fun hmem => ?_⟩
  obtain ⟨n, hn, heq⟩ := mem_map.mp hmem
  exact hnull (hzero n heq ▸ hn)

theorem asciiCases : letI := asciiLower; letI := asciiTables; CaseLaws := by
  let _ := asciiLower
  let _ := asciiTables
  refine ⟨fun text => ?_, fun text => ?_, fun text h => ?_, fun text h => ?_,
    fun text => map_plain fun n hn => ?_, fun text => map_plain fun n hn => ?_⟩
  · show map _ (map _ text) = map _ text
    rw [map_map]
    refine map_congr_left fun n _ => ?_
    simp only [Function.comp_apply]
    split
    · rw [if_neg (by omega)]
    · rfl
  · show map _ (map _ text) = map _ text
    rw [map_map]
    refine map_congr_left fun n _ => ?_
    simp only [Function.comp_apply]
    split
    · rw [if_neg (by omega)]
    · rfl
  · show stripText (map _ text) = map _ text
    rw [stripText_map asciiLower_space, h]
  · show stripText (map _ text) = map _ text
    rw [stripText_map asciiUpper_space, h]
  · split at hn <;> omega
  · split at hn <;> omega

theorem filled_isoformat (t : Nat) :
    (if (ofString (isoformat t)).length = 25 then
        (ofString (isoformat t)).take 19 ++ ofString ".000000" ++ (ofString (isoformat t)).drop 19
      else ofString (isoformat t)) = withOffset (timestampText t) := by
  have hlength : ((secondsText (t / 1000000)).map Char.toNat).length = 19 := by
    rw [length_map]
    simp [secondsText, length_digits]
  have hlong : withOffset (timestampText t) = (secondsText (t / 1000000)).map Char.toNat
      ++ 46 :: (digits 6 (t % 1000000)).map Char.toNat ++ ofString "+00:00" := by
    rw [withOffset, timestampText, timestamp_eq_secondsText, ofString, String.toList_ofList,
      ← cons_append, ← append_assoc, map_append, map_append, map_cons,
      map_singleton, dropLast_concat]
    rfl
  have hshort : ofString (isoformat t) = (secondsText (t / 1000000)).map Char.toNat
      ++ ((if t % 1000000 = 0 then [] else '.' :: digits 6 (t % 1000000)).map Char.toNat
        ++ ofString "+00:00") := by
    rw [isoformat, ofString, String.toList_ofList, map_append, map_append,
      append_assoc]
    rfl
  have hoffset : (ofString "+00:00").length = 6 := by decide
  rw [hlong, hshort]
  by_cases hwhole : t % 1000000 = 0
  · have hzeros : 46 :: (digits 6 0).map Char.toNat = ofString ".000000" := by decide
    rw [if_pos hwhole, hwhole, map_nil, nil_append, if_pos, take_left' hlength,
      drop_left' hlength, hzeros]
    rw [length_append, hlength, hoffset]
  · rw [if_neg hwhole, if_neg, map_cons, append_assoc]
    · rfl
    · simp only [length_append, length_map, length_cons, length_digits, hoffset]
      rw [length_map] at hlength
      omega

theorem isoformatReader_times : letI := isoformatReader; ReadsTimes := by
  let _ := isoformatReader
  intro t ht
  have hread : isoReader.fromIsoFormat (withOffset (timestampText t)) = some t :=
    letI := isoReader
    isoReader_laws.fromIsoFormat_isoFormat t ht
  show Option.map _ (isoReader.fromIsoFormat _) = _
  rw [filled_isoformat, hread]
  rfl

/-- An identity on `https://example.com`. -/
def sampleIdentity (path : PyText) : FindingIdentity where
  ruleId := ofString "headers.missing"
  asset := ofString "https://example.com"
  path := path
  method := ofString "GET"
  parameter := none

def sampleFinding (identity : FindingIdentity) : NormalizedFinding where
  identity := identity
  source := ofString "scanner"
  title := ofString "Missing header"
  description := ofString "A header is missing."
  severity := .low
  confidence := .high
  remediation := ofString "Send the header."
  detectedAt := second
  sourceRuleId := none
  identifiers := []
  evidence := []
  references := []
  tags := []

/-- The digests of the payloads for `/a` and `/b`. -/
def sampleFingerprint (bytes : List Char) : PyText :=
  if bytes.contains 'b' then
    ofString "31ae2bfa462a557f484263d497a53333010da2b3eb4099012844bee1d1a58519"
  else ofString "23815c9899671883edc18e2e1a18f4560bc1240190248a4f0c77b9815a80418b"

theorem isEncodable_sampleFingerprint (bytes : List Char) :
    isEncodable (sampleFingerprint bytes) = true := by
  unfold sampleFingerprint
  split <;> exact isEncodable_ofString _

theorem storedIdentity_sample {path : PyText}
    (h : letI := asciiLower; letI := asciiLibrary; letI := asciiTables
      (sampleIdentity path).postInit = .ok (sampleIdentity path))
    (hcodes : path.all (· < 0x110000) = true) :
    letI := asciiLower; letI := asciiLibrary; letI := asciiTables
    StoredIdentity (sampleIdentity path) := by
  let _ := asciiLower
  let _ := asciiLibrary
  let _ := asciiTables
  refine ⟨⟨_, h⟩, ?_⟩
  simp only [texts, sampleIdentity, Option.toList_none, append_nil,
    forall_mem_cons]
  exact ⟨by decide, by decide, hcodes, by decide, by simp⟩

theorem stored_sampleFinding {raw identity : FindingIdentity}
    (h : letI := asciiLower; letI := asciiLibrary; letI := asciiTables
      raw.postInit = .ok identity) :
    letI := asciiLower; letI := asciiLibrary; letI := asciiTables
    Stored (sampleFinding identity) := by
  let _ := asciiLower
  let _ := asciiLibrary
  let _ := asciiTables
  have htime : second < datetimeEnd := by decide
  have hsource : sourceField (ofString "scanner") = .ok (ofString "scanner") := by decide
  have htitle : boundedText (ofString "Missing header") "title" 256
      = .ok (ofString "Missing header") := by decide
  have hdescription : boundedText (ofString "A header is missing.") "description" 16384
      = .ok (ofString "A header is missing.") := by decide
  have hremediation : boundedText (ofString "Send the header.") "remediation" 16384
      = .ok (ofString "Send the header.") := by decide
  refine ⟨⟨raw, h⟩, by simp [sampleFinding], by simp [sampleFinding],
    ⟨sampleFinding identity, finding_postInit_eq_ok.mpr ⟨[], [], rfl, rfl, ?_, rfl, hsource, rfl,
      htitle, hdescription, hremediation, rfl⟩⟩, htime⟩
  simp [sampleFinding, sortedIdentifiers, ScanPermits.sortedSet]

theorem finding_identity_sample :
    letI := oneFloat; letI := asciiLower; letI := asciiLibrary; letI := asciiTables
    letI := isoformatReader
    ((sampleIdentity (ofString "/a")).fingerprint Unit sampleFingerprint
      ≠ (sampleIdentity (ofString "/b")).fingerprint Unit sampleFingerprint)
    ∧ ∃ again, reloadFinding Unit sampleFingerprint sampleInterpreter 0
        (sampleFinding (sampleIdentity (ofString "/a"))) = some again
      ∧ again.identity.fingerprint Unit sampleFingerprint
        = (sampleIdentity (ofString "/a")).fingerprint Unit sampleFingerprint := by
  let _ := oneFloat
  let _ := asciiLower
  let _ := asciiLibrary
  let _ := asciiTables
  let _ := isoformatReader
  have ha : (sampleIdentity (ofString "/a")).postInit = .ok (sampleIdentity (ofString "/a")) := by
    decide
  have hb : (sampleIdentity (ofString "/b")).postInit = .ok (sampleIdentity (ofString "/b")) := by
    decide
  have hpaths : ofString "/a" ≠ ofString "/b" := by decide
  have hne : sampleIdentity (ofString "/a") ≠ sampleIdentity (ofString "/b") :=
    fun h => hpaths (congrArg path h)
  have hpayloads : sampleFingerprint ((sampleIdentity (ofString "/a")).payload Unit)
      ≠ sampleFingerprint ((sampleIdentity (ofString "/b")).payload Unit) := by decide
  have hasset : assetField (ofString "https://example.com")
      = .ok (ofString "https://example.com") := by decide
  have hunits : units (ofString "/a") ≠ units (ofString "/b") := by decide
  have hencodable : ∀ text ∈ (sampleFinding (sampleIdentity (ofString "/a"))).texts,
      isEncodable text = true := by decide
  have hstored := stored_sampleFinding ha
  obtain ⟨-, hfingerprints, again, hagain, hsame⟩ :=
    (finding_identity oneFloat_laws asciiCases isoformatReader_times
      isEncodable_sampleFingerprint sampleInterpreter 0 (storedIdentity_sample ha (by decide))
      (storedIdentity_sample hb (by decide)) hstored).mpr
      ⟨fun h => absurd h.path hunits,
        ⟨by decide, hasset, by decide, by decide, by simp [sampleFinding],
          by simp [sampleFinding]⟩, hencodable⟩
  exact ⟨fun h => hne ((hfingerprints fun h => absurd h hpayloads).mp h), again, hagain, hsame⟩

/-- The path `/` with the two surrogates of a character, and with the character. -/
def pairedPath : PyText := [47, 0xD800, 0xDC00]

def astralPath : PyText := [47, 0x10000]

/-- The asset `http://a /` is stored without its slash, so with a space at its end. -/
def spacedIdentity (asset : PyText) : FindingIdentity :=
  { sampleIdentity (ofString "/a") with asset := asset }

/-- Two paths have one payload, and the finding on `http://a /` is not loaded again. -/
theorem finding_not_loaded :
    letI := oneFloat; letI := asciiLower; letI := asciiLibrary; letI := asciiTables
    letI := isoformatReader
    (StoredIdentity (sampleIdentity pairedPath) ∧ StoredIdentity (sampleIdentity astralPath)
      ∧ sampleIdentity pairedPath ≠ sampleIdentity astralPath
      ∧ (sampleIdentity pairedPath).payload Unit = (sampleIdentity astralPath).payload Unit)
    ∧ (spacedIdentity (ofString "http://a /")).postInit
        = .ok (spacedIdentity (ofString "http://a "))
    ∧ Stored (sampleFinding (spacedIdentity (ofString "http://a ")))
    ∧ reloadFinding Unit sampleFingerprint sampleInterpreter 0
        (sampleFinding (spacedIdentity (ofString "http://a "))) = none := by
  let _ := oneFloat
  let _ := asciiLower
  let _ := asciiLibrary
  let _ := asciiTables
  let _ := isoformatReader
  have hpaired : (sampleIdentity pairedPath).postInit = .ok (sampleIdentity pairedPath) := by
    decide
  have hastral : (sampleIdentity astralPath).postInit = .ok (sampleIdentity astralPath) := by
    decide
  have hspaced : (spacedIdentity (ofString "http://a /")).postInit
      = .ok (spacedIdentity (ofString "http://a ")) := by decide
  have hpaths : pairedPath ≠ astralPath := by decide
  have hunits : units pairedPath = units astralPath := by decide
  have hi := storedIdentity_sample hpaired (by decide)
  have hj := storedIdentity_sample hastral (by decide)
  have hstored := stored_sampleFinding hspaced
  refine ⟨⟨hi, hj, fun h => hpaths (congrArg path h),
    (payload_eq_iff hi hj).mpr ⟨rfl, rfl, hunits, rfl, rfl⟩⟩, hspaced, hstored, ?_⟩
  rw [Option.eq_none_iff_forall_ne_some]
  intro again hagain
  have hasset : assetField (ofString "http://a ") ≠ .ok (ofString "http://a ") := by
    decide
  exact hasset ((reloadFinding_eq_some oneFloat_laws asciiCases isoformatReader_times
    isEncodable_sampleFingerprint sampleInterpreter 0 hstored).mp hagain).2.1.asset

end WebGuard.FindingContract
