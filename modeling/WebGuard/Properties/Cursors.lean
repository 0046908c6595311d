import WebGuard.Api.Pagination
import WebGuard.Lib.JsonCanonical

/-!
# The cursor codec

A cursor that was encoded opens to the payload it was made of (`openCursor_token`), so it decodes to
its position for the organization, resource and filters it was made for and for no others. In the
other direction every cursor that opens is the token of its own payload (`eq_token_of_openCursor`):
both base64url parts are encoded again and compared, the payload is written again and compared, and
the signature is computed. So one payload has one cursor.
-/

namespace WebGuard.Pagination

open PyJson Base64 Atomic Bool

variable {φ : Type} [PyFloat φ] {hmac : Bytes → Bytes → Bytes} {interpreter : Interpreter}
  {codec : SignedCursorCodec}

/-! ## The two parts -/

theorem takeWhile_dot {left : List Char} (h : '.' ∉ left) (right : List Char) :
    (left ++ '.' :: right).takeWhile (· ≠ '.') = left
      ∧ (left ++ '.' :: right).dropWhile (· ≠ '.') = '.' :: right := by
  have hall : ∀ c ∈ left, decide (c ≠ '.') = true := by
    intro c hc
    rw [decide_eq_true_eq]
    rintro rfl
    exact h hc
  rw [List.takeWhile_append_of_pos hall, List.dropWhile_append_of_pos hall]
  simp

variable {raw : Bytes}

theorem decodeCanonical_encode (h : raw ≠ []) : decodeCanonical (Base64.encode raw) = .ok raw := by
  unfold decodeCanonical
  rw [if_neg (by simpa using encode_ne_nil h), decode_encode]
  simp

theorem encode_of_decodeCanonical {text : List Char} (h : decodeCanonical text = .ok raw) :
    Base64.encode raw = text := by
  unfold decodeCanonical at h
  split at h
  · cases h
  · split at h
    · cases h
    · split at h
      · cases h
      · rename_i htext
        cases h
        exact not_not.mp htext

theorem decodeAscii_encodeAscii {document : List Char} (h : encodeAscii document = some raw) :
    decodeAscii raw = some document := by
  unfold encodeAscii at h
  split at h
  · rename_i hascii
    rw [List.all_eq_true] at hascii
    have hbyte : ∀ c ∈ document, (UInt8.ofNat c.toNat).toNat = c.toNat := by
      intro c hc
      have hlt := hascii c hc
      rw [decide_eq_true_eq] at hlt
      rw [UInt8.toNat_ofNat']
      omega
    cases h
    unfold decodeAscii
    rw [if_pos, List.map_map]
    · refine congrArg some ?_
      conv_rhs => rw [← List.map_id document]
      refine List.map_congr_left ?_
      intro c hc
      rw [Function.comp_apply, hbyte c hc, Char.ofNat_toNat]
      rfl
    · rw [List.all_map, List.all_eq_true]
      intro c hc
      rw [Function.comp_apply, hbyte c hc]
      exact hascii c hc
  · cases h

/-! ## The payload -/

theorem canonicalJson_sortKeys (value : Json PyText φ) :
    canonicalJson (sortKeys value) = canonicalJson value := by
  rw [canonicalJson, canonicalJson, dumps_sortKeys]

theorem keepsPairs_plainHooks : KeepsPairs (plainHooks (φ := φ) interpreter) := by
  intro members hnodup
  show Except.ok (Json.obj (dictOf members)) = _
  rw [dictOf_of_nodup hnodup]

theorem isEncodable_of_isResource {resource : PyText} (h : isResource resource = true) :
    isEncodable resource = true := by
  cases resource with
  | nil => rfl
  | cons c rest =>
    simp only [isResource, and_eq_true, decide_eq_true_eq, List.all_eq_true,
      or_eq_true] at h
    refine List.all_eq_true.mpr ?_
    intro n hn
    simp only [isScalar, or_eq_true, decide_eq_true_eq]
    rcases List.mem_cons.mp hn with rfl | hn
    · omega
    · have hn := h.2 n hn
      omega

/-- The texts of a cursor that an ASCII document brings back: in none of them are two surrogates
that belong together written as two code points. -/
structure Readable (organizationId : PyText) (filters : Filters) (position : CursorPosition) :
    Prop where
  organizationId : readsBack .ascii organizationId = true
  filters : ∀ item ∈ filters.items,
    readsBack .ascii item.1 = true ∧ readsBack .ascii item.2 = true
  orderedAt : readsBack .ascii position.orderedAt = true
  resourceId : readsBack .ascii position.resourceId = true

section

omit [PyFloat φ]

variable {organizationId resource : PyText} {filters : Filters} {position : CursorPosition}
  {expiresAt : Nat}

theorem keys_payloadOf :
    (payloadOf (φ := φ) organizationId resource filters position expiresAt).map Prod.fst
      = requiredKeys := rfl

theorem nodup_requiredKeys : requiredKeys.Nodup := by decide

theorem keys_filters :
    ((filters.items.map fun item => (item.1, Json.str (φ := φ) item.2)).map Prod.fst).Nodup := by
  rw [List.map_map]
  exact filters.distinct

theorem sortKeys_sorted : sortKeys (filters.sorted (φ := φ)) = filters.sorted := by
  have hstr : sortMembers (filters.items.map fun item => (item.1, Json.str (φ := φ) item.2))
      = filters.items.map fun item => (item.1, Json.str item.2) := by
    rw [sortMembers_eq_map, List.map_map]
    rfl
  rw [Filters.sorted, sortKeys, sortMembers_byKey, hstr, byKey_of_pairwise (pairwise_byKey _)]

theorem member_sorted (name : String) (value : Json PyText φ)
    (h : (ofString name, value) ∈ payloadOf organizationId resource filters position expiresAt) :
    member name (byKey (sortMembers
      (payloadOf organizationId resource filters position expiresAt))) = sortKeys value := by
  rw [member, lookup_sorted (by rw [keys_payloadOf]; exact nodup_requiredKeys) h, Option.getD_some]

/-- An opened payload, by its members. -/
structure Carried (members : List (PyText × Json PyText φ)) (organizationId resource : PyText)
    (filters : Filters) (position : CursorPosition) (expiresAt : Nat) : Prop where
  version : member "v" members = .int 1
  organizationId : member "organization_id" members = .str organizationId
  resource : member "resource" members = .str resource
  filters : member "filters" members = filters.sorted
  orderedAt : member "ordered_at" members = .str position.orderedAt
  resourceId : member "resource_id" members = .str position.resourceId
  expiresAt : member "expires_at" members = .str (timestampText expiresAt)

theorem carried_payloadOf : Carried (φ := φ) (byKey (sortMembers
    (payloadOf organizationId resource filters position expiresAt)))
    organizationId resource filters position expiresAt where
  version := member_sorted "v" (.int 1) (by simp [payloadOf])
  organizationId := member_sorted "organization_id" (.str organizationId) (by simp [payloadOf])
  resource := member_sorted "resource" (.str resource) (by simp [payloadOf])
  filters := (member_sorted "filters" filters.sorted (by simp [payloadOf])).trans sortKeys_sorted
  orderedAt := member_sorted "ordered_at" (.str position.orderedAt) (by simp [payloadOf])
  resourceId := member_sorted "resource_id" (.str position.resourceId) (by simp [payloadOf])
  expiresAt := member_sorted "expires_at" (.str (timestampText expiresAt)) (by simp [payloadOf])

theorem lookup_filters {key value : PyText} (h : (key, value) ∈ filters.items) :
    lookup key (byKey (filters.items.map fun item => (item.1, Json.str (φ := φ) item.2)))
      = some (.str value) := by
  refine lookup_of_mem (((perm_byKey _).map Prod.fst).nodup_iff.mpr keys_filters) ?_
  rw [(perm_byKey _).mem_iff]
  exact List.mem_map.mpr ⟨(key, value), h, rfl⟩

theorem equalsFilters_sorted : equalsFilters filters (filters.sorted (φ := φ)) = true := by
  rw [Filters.sorted, equalsFilters, and_eq_true, decide_eq_true_eq, List.all_eq_true]
  refine ⟨?_, ?_⟩
  · rw [(perm_byKey _).length_eq, List.length_map]
  · intro item hitem
    rw [lookup_filters hitem]
    simp [equalsText]

theorem perm_of_equalsFilters {others : Filters}
    (h : equalsFilters others (filters.sorted (φ := φ)) = true) :
    others.items.Perm filters.items := by
  rw [Filters.sorted, equalsFilters, and_eq_true, decide_eq_true_eq, List.all_eq_true,
    (perm_byKey _).length_eq, List.length_map] at h
  have hsubset : others.items ⊆ filters.items := by
    intro item hitem
    have hlookup := h.2 item hitem
    split at hlookup
    · rename_i value hvalue
      have hmem := (perm_byKey _).mem_iff.mp (mem_of_lookup hvalue)
      obtain ⟨found, hfound, heq⟩ := List.mem_map.mp hmem
      obtain ⟨hkey, hstr⟩ := Prod.mk.inj heq
      rw [← hstr, equalsText, decide_eq_true_eq] at hlookup
      rw [show item = found from Prod.ext hkey.symm hlookup.symm]
      exact hfound
    · cases hlookup
  have hnodup : others.items.Nodup := others.distinct.of_map
  exact (List.subperm_of_subset hnodup hsubset).perm_of_length_le h.1.le

end

section

variable {organizationId resource : PyText} {filters : Filters} {position : CursorPosition}
  {expiresAt : Nat}

theorem fits_payloadOf (h : Readable organizationId filters position)
    (hresource : isResource resource = true) :
    Fits .ascii (plainHooks (φ := φ) interpreter) interpreter.recursionLimit
      (.obj (payloadOf organizationId resource filters position expiresAt)) := by
  obtain ⟨hdepth, hdigits⟩ := interpreter.room
  have hkey : ∀ s : String, readsBack .ascii (ofString s) = true :=
    fun s => readsBack_of_isEncodable (isEncodable_ofString s)
  have hone : decimalLength 1 ≤ interpreter.maximumDigits := by
    have hlength : decimalLength 1 = 1 := by decide
    omega
  have hfilters : Fits .ascii (plainHooks (φ := φ) interpreter) (interpreter.recursionLimit - 1)
      filters.sorted := by
    refine ⟨by omega, ?_, fitsMembers_iff.mpr ?_⟩
    · rw [((perm_byKey _).map Prod.fst).nodup_iff]
      exact keys_filters
    · intro member hmember
      rw [(perm_byKey _).mem_iff] at hmember
      obtain ⟨item, hitem, rfl⟩ := List.mem_map.mp hmember
      exact h.filters item hitem
  refine ⟨by omega, nodup_requiredKeys, ?_⟩
  exact ⟨hkey _, hone, hkey _, h.organizationId, hkey _,
    readsBack_of_isEncodable (isEncodable_of_isResource hresource), hkey _, hfilters, hkey _,
    h.orderedAt, hkey _, h.resourceId, hkey _, hkey _, trivial⟩

theorem exists_document {value : Json PyText φ} (h : canonicalJson value = some raw) :
    ∃ document, dumps .ascii value = some document ∧ encodeAscii document = some raw :=
  Option.bind_eq_some_iff.mp h

variable {members : List (PyText × Json PyText φ)} {cursor : List Char} {now : Nat}

theorem raw_ne_nil (h : canonicalJson (.obj members) = some raw) : raw ≠ [] := by
  obtain ⟨document, hdumps, hascii⟩ := exists_document h
  have hdecode := decodeAscii_encodeAscii hascii
  rintro rfl
  rw [dumps_eq_some hdumps, sortKeys, render] at hdecode
  cases hdecode

theorem splitCursor_token (hraw : raw ≠ []) (hhmac : ∀ key message, hmac key message ≠ [])
    (hlength : (tokenOf hmac codec raw).length ≤ maximumCursorLength) :
    splitCursor (tokenOf hmac codec raw)
      = .ok (Base64.encode raw, Base64.encode (hmac codec.key raw)) := by
  obtain ⟨hleft, hright⟩ := takeWhile_dot (dot_not_mem_encode raw)
    (Base64.encode (hmac codec.key raw))
  have hne : (tokenOf hmac codec raw).isEmpty = false := by simp [tokenOf]
  unfold splitCursor
  rw [if_neg (by simp [hne, hlength]), tokenOf, hleft, hright]
  simp [encode_ne_nil hraw, encode_ne_nil (hhmac codec.key raw)]

theorem verify_token (hraw : raw ≠ []) (hhmac : ∀ key message, hmac key message ≠ [])
    (hlength : (tokenOf hmac codec raw).length ≤ maximumCursorLength) :
    verify hmac codec (tokenOf hmac codec raw) = .ok raw := by
  unfold verify
  rw [splitCursor_token hraw hhmac hlength]
  simp [Except.bind, bind, decodeCanonical_encode hraw, decodeCanonical_encode (hhmac codec.key raw)]

/-- A token is opened again by the codec that made it. -/
theorem openCursor_token (laws : FloatLaws φ) (hhmac : ∀ key message, hmac key message ≠ [])
    (hreadable : Readable organizationId filters position)
    (hresource : isResource resource = true)
    (hraw : canonicalJson (φ := φ)
      (.obj (payloadOf organizationId resource filters position expiresAt)) = some raw)
    (hlength : (tokenOf hmac codec raw).length ≤ maximumCursorLength) :
    openCursor (φ := φ) hmac interpreter codec (tokenOf hmac codec raw)
      = .ok (byKey (sortMembers (payloadOf organizationId resource filters position expiresAt))) := by
  obtain ⟨document, hdumps, hascii⟩ := exists_document hraw
  have hfits : Fits .ascii (plainHooks (φ := φ) interpreter) interpreter.recursionLimit
      (.obj (payloadOf organizationId resource filters position expiresAt)) :=
    fits_payloadOf hreadable hresource
  have hloads := loads_dumps laws keepsPairs_plainHooks hfits hdumps
  have hsorted := canonicalJson_sortKeys (φ := φ)
    (.obj (payloadOf organizationId resource filters position expiresAt))
  have hkeys := keys_byKey_sortMembers (φ := φ)
    (payloadOf organizationId resource filters position expiresAt)
  rw [sortKeys] at hloads hsorted
  rw [keys_payloadOf] at hkeys
  have hparse : parsePayload interpreter raw = .ok (.obj (byKey (sortMembers
      (payloadOf (φ := φ) organizationId resource filters position expiresAt)))) := by
    unfold parsePayload
    rw [decodeAscii_encodeAscii hascii]
    simp only [hloads]
  unfold openCursor
  rw [verify_token (raw_ne_nil hraw) hhmac hlength]
  simp only [bind, Except.bind, hparse]
  unfold canonicalMembers
  dsimp only
  rw [if_neg (by simp [List.isPerm_iff, hkeys.symm]), hsorted, hraw]
  simp

theorem splitCursor_spec {encodedPayload encodedSignature : List Char}
    (h : splitCursor cursor = .ok (encodedPayload, encodedSignature)) :
    cursor = encodedPayload ++ '.' :: encodedSignature := by
  unfold splitCursor at h
  split at h
  · cases h
  · split at h
    · rename_i dot signature hdrop
      split at h
      · cases h
      · cases h
        have hdot : dot = '.' := by
          have hhead := List.head?_dropWhile_not (fun c => decide (c ≠ '.')) cursor
          rw [hdrop, List.head?_cons] at hhead
          simpa using hhead
        rw [hdot] at hdrop
        rw [← hdrop, List.takeWhile_append_dropWhile]
    · cases h

theorem eq_token_of_verify (h : verify hmac codec cursor = .ok raw) :
    cursor = tokenOf hmac codec raw := by
  obtain ⟨⟨encodedPayload, encodedSignature⟩, hsplit, h⟩ := bind_ok h
  obtain ⟨found, hpayload, h⟩ := bind_ok h
  obtain ⟨supplied, hsignature, h⟩ := bind_ok h
  split at h
  · cases h
  · rename_i hsupplied
    cases h
    rw [splitCursor_spec hsplit, ← encode_of_decodeCanonical hpayload,
      ← encode_of_decodeCanonical hsignature, ← not_not.mp hsupplied, tokenOf]

theorem canonicalJson_of_canonicalMembers {payload : Json PyText φ}
    (h : canonicalMembers raw payload = .ok members) : canonicalJson (.obj members) = some raw := by
  unfold canonicalMembers at h
  split at h
  · split at h
    · cases h
    · split at h
      · cases h
      · rename_i hcanonical
        split at h
        · cases h
        · rename_i hraw
          cases h
          rw [hcanonical, not_not.mp hraw]
  · cases h

/-- What is opened is the token of its payload. -/
theorem eq_token_of_openCursor (h : openCursor hmac interpreter codec cursor = .ok members) :
    ∃ raw, canonicalJson (.obj members) = some raw ∧ cursor = tokenOf hmac codec raw := by
  obtain ⟨raw, hverify, h⟩ := bind_ok h
  obtain ⟨payload, -, h⟩ := bind_ok h
  exact ⟨raw, canonicalJson_of_canonicalMembers h, eq_token_of_verify hverify⟩

/-! ## The checks -/

theorem demand_eq_ok {condition : Bool} {code message : String} {u : Unit} :
    demand condition code message = .ok u ↔ condition = true := by
  unfold demand refuse
  split <;> simp_all

theorem checkPayload_spec [IsoReader] {answer : CursorPosition}
    (h : checkPayload organizationId resource filters now members = .ok answer) :
    equalsText organizationId (member "organization_id" members) = true
      ∧ equalsText resource (member "resource" members) = true
      ∧ equalsFilters filters (member "filters" members) = true := by
  obtain ⟨_, -, h⟩ := bind_ok h
  obtain ⟨_, horganization, h⟩ := bind_ok h
  obtain ⟨_, hresource, h⟩ := bind_ok h
  obtain ⟨_, hfilters, -⟩ := bind_ok h
  exact ⟨demand_eq_ok.mp horganization, demand_eq_ok.mp hresource, demand_eq_ok.mp hfilters⟩

omit [PyFloat φ] in
theorem nonEmptyText_str {text : PyText} (h : text ≠ []) :
    nonEmptyText (φ := φ) (.str text) = some text := by
  rw [nonEmptyText, if_neg (by simpa using h)]

theorem checkPayload_of_carried [IsoReader] (iso : IsoLaws)
    (h : Carried members organizationId resource filters position expiresAt)
    (hrange : expiresAt < datetimeEnd) (hnow : now < expiresAt)
    (hordered : position.orderedAt ≠ []) (hid : position.resourceId ≠ []) :
    checkPayload organizationId resource filters now members = .ok position := by
  have hposition : positionOf members = .ok position := by
    unfold positionOf
    rw [h.orderedAt, h.resourceId, nonEmptyText_str hordered, nonEmptyText_str hid]
  have hexpiry : expiryOf (member "expires_at" members) = .ok expiresAt := by
    rw [h.expiresAt, expiryOf, readTimestamp_timestamp iso hrange]
  unfold checkPayload
  rw [h.version, h.organizationId, h.resource, h.filters, equalsFilters_sorted, hexpiry, hposition]
  simp [demand, equalsOne, equalsText, hnow, bind, Except.bind]

/-! ## The codec -/

/-- What a cursor carries. -/
theorem encode_spec {token : List Char}
    (h : codec.encode φ hmac organizationId resource
      filters position now = .ok token) :
    isResource resource = true ∧ now + codec.validitySeconds * second < datetimeEnd
      ∧ ∃ raw, canonicalJson (φ := φ) (.obj (payloadOf organizationId resource filters position
        (now + codec.validitySeconds * second))) = some raw
      ∧ token = tokenOf hmac codec raw ∧ token.length ≤ maximumCursorLength := by
  unfold SignedCursorCodec.encode at h
  split at h
  · cases h
  · rename_i hresource
    split at h
    · cases h
    · rename_i hrange
      split at h
      · cases h
      · rename_i raw hraw
        split at h
        · cases h
        · rename_i hlength
          cases h
          exact ⟨by simpa using hresource, by omega, raw, hraw, rfl, by omega⟩

/-- A cursor is opened as what it carries. -/
theorem openCursor_encode (interpreter : Interpreter) (laws : FloatLaws φ)
    (hhmac : ∀ key message, (hmac key message).length = 32) {token : List Char}
    (hreadable : Readable organizationId filters position)
    (h : codec.encode φ hmac organizationId resource filters position now = .ok token) :
    ∃ members, openCursor (φ := φ) hmac interpreter codec token = .ok members
      ∧ Carried members organizationId resource filters position
        (now + codec.validitySeconds * second) := by
  obtain ⟨hresource, -, raw, hraw, rfl, hlength⟩ := encode_spec h
  have hne : ∀ key message, hmac key message ≠ [] := by
    intro key message hnil
    have hlength := hhmac key message
    rw [hnil] at hlength
    cases hlength
  exact ⟨_, openCursor_token laws hne hreadable hresource hraw hlength, carried_payloadOf⟩

/-- A cursor of another listing is refused. -/
theorem checkPayload_refused [IsoReader]
    (h : Carried members organizationId resource filters position expiresAt)
    {organizationId' resource' : PyText} {filters' : Filters}
    (hother : organizationId' ≠ organizationId ∨ resource' ≠ resource
      ∨ ¬ filters'.items.Perm filters.items) :
    ∃ failure, checkPayload organizationId' resource' filters' now members = .error failure := by
  cases hanswer : checkPayload organizationId' resource' filters' now members with
  | error failure => exact ⟨failure, rfl⟩
  | ok answer =>
    obtain ⟨horganization, hresource, hfilters⟩ := checkPayload_spec hanswer
    rw [h.organizationId, equalsText, decide_eq_true_eq] at horganization
    rw [h.resource, equalsText, decide_eq_true_eq] at hresource
    rw [h.filters] at hfilters
    rcases hother with hother | hother | hother
    · exact absurd horganization.symm hother
    · exact absurd hresource.symm hother
    · exact absurd (perm_of_equalsFilters hfilters) hother

end

/--
**The cursor codec.** An encoded cursor decodes to its position before it expires, for the
organization, resource and filters it was encoded for; it is refused for all others; and of two
cursors that carry the same payload, up to the order of its members, one is the other. Every cursor
that decodes opens first.
-/
theorem cursors_decode_once [IsoReader] (laws : FloatLaws φ) (iso : IsoLaws)
    (hmac : Bytes → Bytes → Bytes) (hhmac : ∀ key message, (hmac key message).length = 32)
    (interpreter : Interpreter) (codec : SignedCursorCodec) :
    (∀ organizationId resource filters position now token later,
      codec.encode φ hmac organizationId resource filters position now = .ok token →
      Readable organizationId filters position →
      (position.orderedAt ≠ [] → position.resourceId ≠ [] →
        later < now + codec.validitySeconds * second →
        codec.decode φ hmac interpreter token organizationId resource filters later = .ok position)
      ∧ ∀ organizationId' resource' filters', (organizationId' ≠ organizationId
          ∨ resource' ≠ resource ∨ ¬ filters'.items.Perm filters.items) →
        ∃ failure, codec.decode φ hmac interpreter token organizationId' resource' filters' later
          = .error failure)
    ∧ ∀ cursor cursor' members members',
      openCursor (φ := φ) hmac interpreter codec cursor = .ok members →
      openCursor (φ := φ) hmac interpreter codec cursor' = .ok members' →
      sortKeys (.obj members) = sortKeys (.obj members') → cursor = cursor' := by
  refine ⟨?_, ?_⟩
  · intro organizationId resource filters position now token later hencode hreadable
    obtain ⟨members, hopen, hcarried⟩ :=
      openCursor_encode interpreter laws hhmac hreadable hencode
    have hrange := (encode_spec hencode).2.1
    unfold SignedCursorCodec.decode
    rw [hopen]
    refine ⟨?_, ?_⟩
    · intro hordered hid hlater
      exact checkPayload_of_carried iso hcarried hrange hlater hordered hid
    · intro organizationId' resource' filters' hother
      exact checkPayload_refused hcarried hother
  · intro cursor cursor' members members' hopen hopen' hsame
    obtain ⟨raw, hraw, rfl⟩ := eq_token_of_openCursor hopen
    obtain ⟨raw', hraw', rfl⟩ := eq_token_of_openCursor hopen'
    rw [← canonicalJson_sortKeys, hsame, canonicalJson_sortKeys, hraw', Option.some.injEq] at hraw
    rw [hraw]

/-! ## Samples -/

@[reducible] def noFloats : PyFloat Unit where
  ofConstant _ := ()
  repr _ := "0.0".toList
  ofText _ := ()
  ofInt _ := some ()
  isFinite _ := true
  value _ := 0

theorem noFloats_laws : @FloatLaws Unit noFloats := by
  let _ := noFloats
  have hlength : "0.0".toList.length ≤ 24 := by decide
  refine ⟨fun x _ => rfl, ?_, fun x _ => hlength⟩
  intro x _
  exact ⟨['0'], ['.', '0'], [], rfl,
    ⟨[], '0', [], rfl, Or.inl rfl, rfl, fun _ => rfl, by simp⟩,
    Or.inr ⟨'0', [], rfl, rfl, by simp⟩, Or.inl rfl, rfl⟩

def sampleInterpreter : Interpreter := ⟨1000, 4300, Pagination.cpython_room⟩

def sampleCodec : SignedCursorCodec := ⟨List.replicate 32 7, 300, by decide, by decide⟩

/-- A digest that HMAC-SHA256 has for the key of `sampleCodec`, for every message. -/
def sampleHmac (_ _ : Bytes) : Bytes :=
  [32, 73, 15, 224, 183, 12, 216, 222, 46, 112, 38, 53, 220, 136, 113, 37, 230, 98, 87, 123, 67,
    168, 26, 115, 214, 190, 100, 76, 186, 183, 171, 20]

def sampleFilters : Filters := ⟨[(ofString "status", ofString "queued")], by decide⟩

def samplePosition : CursorPosition := ⟨ofString "x", ofString "y"⟩

theorem cursors_decode_once_queued :
    letI := noFloats
    letI := isoReader
    ∃ token, sampleCodec.encode Unit sampleHmac (ofString "a") (ofString "jobs") sampleFilters
        samplePosition 0 = .ok token
      ∧ sampleCodec.decode Unit sampleHmac sampleInterpreter token (ofString "a") (ofString "jobs")
        sampleFilters 299999999 = .ok samplePosition
      ∧ ∃ failure, sampleCodec.decode Unit sampleHmac sampleInterpreter token (ofString "b")
        (ofString "jobs") sampleFilters 299999999 = .error failure := by
  let _ := noFloats
  let _ := isoReader
  obtain ⟨token, htoken⟩ : ∃ token, sampleCodec.encode Unit sampleHmac (ofString "a")
      (ofString "jobs") sampleFilters samplePosition 0 = .ok token :=
    exists_ok_of_isOk (by decide +kernel)
  have hreadable : Readable (ofString "a") sampleFilters samplePosition :=
    ⟨by decide, by decide, by decide, by decide⟩
  have hcodec := (cursors_decode_once noFloats_laws isoReader_laws sampleHmac (fun _ _ => rfl)
    sampleInterpreter sampleCodec).1 (ofString "a") (ofString "jobs") sampleFilters
    samplePosition 0 token 299999999 htoken hreadable
  refine ⟨token, htoken, ?_, ?_⟩
  · exact hcodec.1 (by decide) (by decide) (by decide)
  · exact hcodec.2 (ofString "b") (ofString "jobs") sampleFilters (Or.inl (by decide))

def noFilters : Filters := ⟨[], distinct_nil⟩

/-- The digests of HMAC-SHA256 for the key of `sampleCodec` and the two payloads below. -/
def otherHmac (_ message : Bytes) : Bytes :=
  if message.length = 137 then
    [90, 255, 226, 249, 243, 123, 207, 120, 150, 126, 81, 200, 203, 137, 128, 50, 12, 144, 109, 105,
      93, 53, 70, 55, 189, 160, 60, 148, 49, 83, 71, 2]
  else
    [138, 29, 205, 39, 57, 213, 191, 220, 226, 78, 214, 5, 137, 158, 118, 105, 119, 243, 113, 103,
      236, 36, 21, 6, 57, 154, 92, 41, 230, 149, 85, 164]

def decodedPosition (position : CursorPosition) : Answer CursorPosition :=
  letI := noFloats
  letI := isoReader
  (sampleCodec.encode Unit otherHmac (ofString "a") (ofString "jobs") noFilters position 0).bind
    fun token => sampleCodec.decode Unit otherHmac sampleInterpreter token (ofString "a")
      (ofString "jobs") noFilters 1

/-- A position without an ordering time is encoded and not decoded, and a pair of surrogates in one
is decoded as the code point it stands for. -/
theorem cursor_of_odd_position :
    letI := noFloats
    (sampleCodec.encode Unit otherHmac (ofString "a") (ofString "jobs") noFilters
        ⟨[], ofString "y"⟩ 0).isOk = true
      ∧ decodedPosition ⟨[], ofString "y"⟩
        = refuse "page_cursor_invalid" "cursor ordering time is invalid."
      ∧ decodedPosition ⟨[0xD83D, 0xDE00], ofString "y"⟩ = .ok ⟨[0x1F600], ofString "y"⟩ := by
  refine ⟨?_, ?_, ?_⟩
  · decide +kernel
  · decide +kernel
  · decide +kernel

end WebGuard.Pagination
