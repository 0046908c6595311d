import WebGuard.Api.PageQuery
import WebGuard.Contracts.FindingDocuments
import WebGuard.Lib.FailingFolds
import WebGuard.Lib.JsonLength
import WebGuard.Properties.Cursors
import WebGuard.Properties.PermitCodec
import WebGuard.Store.Schedules

/-!
# The size of the next cursor
-/

namespace WebGuard.Pagination

open PyJson Base64 Atomic List
open ScanPermits (sortedSet asciiTables)

/-! ## The filters of a query -/

/-- The values of a query, each parameter with its first one. -/
def PageQuery.values (query : PageQuery) : List (PyText × PyText) :=
  query.items.map fun item => (item.1, item.2.headD [])

/-- The parameters of a query that are filters. -/
def filterItems (query : PageQuery) (rules : FilterRules) : List (PyText × PyText) :=
  (without limitName query.values).filter fun item => rules.names.contains item.1

variable {name : PyText} {values : List (PyText × PyText)}

theorem mem_without {item : PyText × PyText} :
    item ∈ without name values ↔ item ∈ values ∧ item.1 ≠ name := by
  simp [without]

theorem perm_without {value : PyText} (hnodup : (values.map Prod.fst).Nodup)
    (h : values.lookup name = some value) :
    values.Perm ((name, value) :: without name values) := by
  induction values with
  | nil => cases h
  | cons item rest ih =>
    obtain ⟨key, other⟩ := item
    rw [map_cons, nodup_cons] at hnodup
    by_cases hkey : name = key
    · subst hkey
      rw [lookup_cons_self, Option.some.injEq] at h
      subst h
      have hrest : without name ((name, other) :: rest) = rest := by
        rw [without, filter_cons_of_neg (by simp), filter_eq_self]
        intro item hitem
        refine decide_eq_true fun heq => hnodup.1 (mem_map.mpr ⟨item, hitem, heq⟩)
      rw [hrest]
    · rw [lookup_cons, (beq_eq_false_iff_ne).mpr hkey] at h
      have hrest : without name ((key, other) :: rest) = (key, other) :: without name rest := by
        rw [without, filter_cons_of_pos (by simpa using fun heq => hkey heq.symm), without]
      rw [hrest]
      exact ((ih hnodup.2 h).cons _).trans (List.Perm.swap _ _ _)

theorem not_mem_of_lookup (h : values.lookup name = none) :
    ∀ item ∈ values, item.1 ≠ name := by
  intro item hitem heq
  rw [lookup_eq_none_iff] at h
  have hne := h item hitem
  rw [heq] at hne
  simp at hne

/--
Filters taken out of some values: together they are the values there were, and no value is left
with one of the names that are done.
-/
structure TakenOut (base : List (PyText × PyText)) (names done : List PyText)
    (state : List (PyText × PyText) × List (PyText × PyText)) : Prop where
  perm : (state.1 ++ state.2).Perm base
  named : ∀ item ∈ state.1, item.1 ∈ names
  left : ∀ item ∈ state.2, item.1 ∉ done

section

variable [UnicodeTables] {base : List (PyText × PyText)} {names done : List PyText}
  {state state' : List (PyText × PyText) × List (PyText × PyText)}

theorem TakenOut.step (hbase : (base.map Prod.fst).Nodup) (h : TakenOut base names done state)
    {accepts : PyText → Bool} (hname : name ∈ names)
    (hstep : takeFilter accepts state name = .ok state') :
    TakenOut base names (done ++ [name]) state' := by
  unfold takeFilter at hstep
  split at hstep
  · next hnone =>
    cases hstep
    refine ⟨h.perm, h.named, fun item hitem hmem => ?_⟩
    obtain hdone | hlast := mem_append.mp hmem
    · exact h.left item hitem hdone
    · exact not_mem_of_lookup hnone item hitem (mem_singleton.mp hlast)
  · next value hvalue =>
    split at hstep
    · cases hstep
      have hkeys : (state.2.map Prod.fst).Nodup := by
        have hall := (h.perm.map Prod.fst).nodup_iff.mpr hbase
        rw [map_append] at hall
        exact (nodup_append'.mp hall).2.1
      refine ⟨?_, fun item hitem => ?_, fun item hitem hmem => ?_⟩
      · have hperm := (perm_without hkeys hvalue).symm.append_left state.1
        rw [append_assoc, singleton_append]
        exact hperm.trans h.perm
      · obtain hold | hlast := mem_append.mp hitem
        · exact h.named item hold
        · cases mem_singleton.mp hlast
          exact hname
      · obtain ⟨hold, hne⟩ := mem_without.mp hitem
        obtain hdone | hlast := mem_append.mp hmem
        · exact h.left item hold hdone
        · exact hne (mem_singleton.mp hlast)
    · cases hstep

theorem TakenOut.loop {α : Type} {items : List α} {nameOf : α → PyText}
    {accepts : α → PyText → Bool} (hbase : (base.map Prod.fst).Nodup)
    (h : TakenOut base names done state) (hnames : ∀ a ∈ items, nameOf a ∈ names)
    (hloop : items.foldlM (fun state a => takeFilter (accepts a) state (nameOf a)) state
      = .ok state') :
    TakenOut base names (done ++ items.map nameOf) state' := by
  refine foldlM_induct
    (fun passed state => TakenOut base names (done ++ passed.map nameOf) state) (by simpa using h)
    ?_ hloop
  intro passed a rest m m' hitems hm hstep
  rw [map_append, ← append_assoc]
  exact hm.step hbase (hnames a (by simp [hitems])) hstep

theorem singleValue_eq_ok {item : PyText × List PyText} {value : PyText × PyText}
    (h : singleValue item = .ok value) : value = (item.1, item.2.headD []) := by
  unfold singleValue at h
  split at h
  · next hitem =>
    split at h
    · cases h
    · cases h
      rw [hitem]
      rfl
  · cases h

omit [UnicodeTables] in
theorem postInit_filters {raw : PageRequestFields} {page : PageRequest}
    (h : raw.postInit = .ok page) : page.filters = raw.filters := by
  unfold PageRequestFields.postInit at h
  obtain ⟨_, -, h⟩ := bind_ok h
  obtain ⟨_, -, h⟩ := bind_ok h
  obtain ⟨_, -, h⟩ := bind_ok h
  split at h
  · cases h
    rfl
  · cases h

omit [UnicodeTables] in
theorem TakenOut.perm_filter (h : TakenOut base names done state)
    (hdone : ∀ name ∈ names, name ∈ done) :
    state.1.Perm (base.filter fun item => names.contains item.1) := by
  have hfilter := h.perm.filter fun item => names.contains item.1
  have hfirst : state.1.filter (fun item => names.contains item.1) = state.1 :=
    filter_eq_self.mpr fun item hitem => by simpa using h.named item hitem
  have hsecond : state.2.filter (fun item => names.contains item.1) = [] := by
    refine filter_eq_nil_iff.mpr fun item hitem hname => ?_
    exact h.left item hitem (hdone item.1 (by simpa using hname))
  rwa [filter_append, hfirst, hsecond, append_nil] at hfilter

variable [IntReader]

theorem filters_of_parse {query : PageQuery} {rules : FilterRules} {page : PageRequest}
    (h : parsePageRequest query rules = .ok page) :
    page.filters.Perm (filterItems query rules) := by
  unfold parsePageRequest at h
  obtain ⟨_, -, h⟩ := bind_ok h
  obtain ⟨values, hvalues, h⟩ := bind_ok h
  have hvalues : values = query.values := eq_map_of_mapM (fun _ _ => singleValue_eq_ok) hvalues
  dsimp only at h
  split at h
  · cases h
  obtain ⟨middle, hmiddle, h⟩ := bind_ok h
  obtain ⟨state, hstate, h⟩ := bind_ok h
  obtain ⟨_, hnone, h⟩ := bind_ok h
  rw [postInit_filters h]
  have hbase : ((without limitName query.values).map Prod.fst).Nodup := by
    refine List.Nodup.sublist (filter_sublist.map _) ?_
    rw [PageQuery.values, map_map]
    exact query.distinct
  rw [hvalues] at hmiddle
  have hstart : TakenOut (without limitName query.values) rules.names []
      ([], without limitName query.values) := ⟨by simp, by simp, by simp⟩
  have hallowed : ∀ rule ∈ rules.allowed.insertionSort (fun a b => a.1 ≤ b.1),
      rule.1 ∈ rules.names := by
    intro rule hrule
    rw [mem_insertionSort] at hrule
    exact mem_append_left _ (mem_map.mpr ⟨rule, hrule, rfl⟩)
  have hfree : ∀ name ∈ sortedSet rules.freeForm, id name ∈ rules.names := fun name hname =>
    mem_append_right _ (FindingContract.mem_sortedSet.mp hname)
  have htaken := (hstart.loop hbase hallowed hmiddle).loop hbase hfree hstate
  refine (perm_insertionSort _ _).trans (htaken.perm_filter fun name hname => ?_)
  rw [nil_append, map_id, mem_append]
  obtain hname | hname := mem_append.mp hname
  · obtain ⟨rule, hrule, rfl⟩ := mem_map.mp hname
    exact .inl (mem_map.mpr ⟨rule, (mem_insertionSort _).mpr hrule, rfl⟩)
  · exact .inr (FindingContract.mem_sortedSet.mpr hname)

end

/-! ## The length of a payload -/

/-- The characters of some filters, as an object. -/
def filtersLength (items : List (PyText × PyText)) : Nat :=
  (items.map fun item => escapedLength item.1 + escapedLength item.2 + 6).sum
    + if items.isEmpty then 2 else 1

/-- The characters of the payload of a cursor. -/
def payloadLength (organizationId resource : PyText) (position : CursorPosition)
    (items : List (PyText × PyText)) : Nat :=
  129 + escapedLength organizationId + escapedLength resource + escapedLength position.orderedAt
    + escapedLength position.resourceId + filtersLength items

theorem filtersLength_perm {items others : List (PyText × PyText)} (h : items.Perm others) :
    filtersLength items = filtersLength others := by
  have hempty : items.isEmpty = others.isEmpty := by
    rw [Bool.eq_iff_iff, List.isEmpty_iff, List.isEmpty_iff]
    exact ⟨fun hnil => by simpa [hnil] using h.symm, fun hnil => by simpa [hnil] using h⟩
  rw [filtersLength, filtersLength, (h.map _).sum_eq, hempty]

theorem escapedLength_timestampText (t : Nat) : escapedLength (timestampText t) = 27 := by
  obtain ⟨hlength, hkeys⟩ := timestamp_spec t
  rw [escapedLength_of_verbatim, timestampText, ofString, length_map, hlength]
  intro n hn
  obtain ⟨c, hc, rfl⟩ := mem_map.mp hn
  have hkey := hkeys c hc
  simp only [isKeyCharacter, isLower, isUpper, isDigit, Bool.or_eq_true, Bool.and_eq_true,
    decide_eq_true_eq, Char.le_def, UInt32.le_iff_toNat_le, beq_iff_eq] at hkey
  simp at hkey
  obtain ((((hletter | hdigit) | rfl) | rfl) | rfl) | rfl := hkey
  · simp only [Mode.verbatim, Bool.and_eq_true, decide_eq_true_eq]
    omega
  · simp only [Mode.verbatim, Bool.and_eq_true, decide_eq_true_eq]
    omega
  all_goals decide

section

variable {φ : Type} [PyFloat φ] {organizationId resource : PyText} {filters : Filters}
  {position : CursorPosition} {expiresAt : Nat}

theorem length_filters :
    (render .ascii (filters.sorted (φ := φ))).length = filtersLength filters.items ∧
      AsciiText (render .ascii (filters.sorted (φ := φ))) := by
  have hperm := perm_byKey (filters.items.map fun item => (item.1, Json.str (φ := φ) item.2))
  have hempty : (byKey (filters.items.map fun item => (item.1, Json.str (φ := φ) item.2))).isEmpty
      = filters.items.isEmpty := by
    rw [Bool.eq_iff_iff, List.isEmpty_iff, List.isEmpty_iff]
    constructor
    · intro hnil
      rw [hnil] at hperm
      simpa using hperm.symm
    · intro hnil
      rw [hnil]
      rfl
  constructor
  · rw [Filters.sorted, length_render_obj, membersLength_perm hperm, hempty, membersLength,
      filtersLength, map_map]
    have hitem : ∀ item : PyText × PyText, ((fun member : PyText × Json PyText φ =>
        escapedLength member.1 + 4 + (render .ascii member.2).length)
          ∘ fun item => (item.1, .str item.2)) item
        = escapedLength item.1 + escapedLength item.2 + 6 := by
      intro item
      simp only [Function.comp_apply, render, length_renderText_ascii]
      omega
    rw [map_congr_left fun item _ => hitem item]
  · refine render_obj_ascii fun member hmember => ?_
    obtain ⟨item, -, rfl⟩ := mem_map.mp (hperm.mem_iff.mp hmember)
    rw [render]
    exact renderText_ascii item.2

omit [PyFloat φ] in
theorem sortMembers_payloadOf :
    sortMembers (payloadOf (φ := φ) organizationId resource filters position expiresAt)
      = payloadOf organizationId resource filters position expiresAt := by
  simp only [payloadOf, sortMembers, sortKeys_sorted, sortKeys]

theorem render_payload_ascii : AsciiText (render .ascii (.obj (byKey (payloadOf (φ := φ)
    organizationId resource filters position expiresAt)))) := by
  refine render_obj_ascii fun member hmember => ?_
  have hmember := (perm_byKey _).mem_iff.mp hmember
  simp only [payloadOf, mem_cons, not_mem_nil, or_false] at hmember
  obtain rfl | rfl | rfl | rfl | rfl | rfl | rfl := hmember
  · rw [render]
    exact asciiText_of_all (by decide)
  · exact renderText_ascii _
  · exact renderText_ascii _
  · exact length_filters.2
  · exact renderText_ascii _
  · exact renderText_ascii _
  · exact renderText_ascii _

theorem length_render_payload : (render .ascii (.obj (byKey (payloadOf (φ := φ) organizationId
    resource filters position expiresAt)))).length
      = payloadLength organizationId resource position filters.items := by
  have hnames : escapedLength (ofString "v") = 1 ∧ escapedLength (ofString "organization_id") = 15
      ∧ escapedLength (ofString "resource") = 8 ∧ escapedLength (ofString "filters") = 7
      ∧ escapedLength (ofString "ordered_at") = 10 ∧ escapedLength (ofString "resource_id") = 11
      ∧ escapedLength (ofString "expires_at") = 10 := by
    decide
  obtain ⟨hv, horganization, hresource, hfilters, hordered, hid, hexpires⟩ := hnames
  have hone : (renderInt 1).length = 1 := by decide
  have hperm := perm_byKey (payloadOf (φ := φ) organizationId resource filters position expiresAt)
  have hnonempty : (byKey (payloadOf (φ := φ) organizationId resource filters position
      expiresAt)).isEmpty = false := by
    rw [Bool.eq_false_iff, ne_eq, List.isEmpty_iff]
    intro hnil
    rw [hnil] at hperm
    cases hperm.symm.eq_nil
  rw [length_render_obj, membersLength_perm hperm, hnonempty]
  simp only [membersLength, payloadOf, map_cons, map_nil, sum_cons, sum_nil,
    render, length_renderText_ascii, hone, hv, horganization, hresource, hfilters, hordered, hid,
    hexpires, length_filters.1, escapedLength_timestampText, Bool.false_eq_true, if_false]
  rw [payloadLength]
  omega

theorem dumps_payload : dumps .ascii (.obj (payloadOf (φ := φ) organizationId resource filters
      position expiresAt))
    = some (render .ascii (.obj (byKey (payloadOf (φ := φ) organizationId resource filters position
        expiresAt)))) := by
  have hfilters : (filters.sorted (φ := φ)).all
      (fun s => decide (Mode.ascii = .ascii) || isEncodable s) PyFloat.isFinite = true := by
    rw [Filters.sorted, Json.all, allMembers_eq_all, all_eq_true]
    intro member hmember
    obtain ⟨item, -, rfl⟩ := mem_map.mp ((perm_byKey _).mem_iff.mp hmember)
    rfl
  unfold dumps
  rw [sortKeys, sortMembers_payloadOf, if_pos]
  simpa [payloadOf, Json.all, allMembers] using hfilters

theorem length_payload : ∃ raw, canonicalJson (φ := φ) (.obj (payloadOf organizationId resource
      filters position expiresAt)) = some raw ∧
    raw.length = payloadLength organizationId resource position filters.items := by
  refine ⟨(render .ascii (.obj (byKey (payloadOf (φ := φ) organizationId resource filters position
    expiresAt)))).map fun c => UInt8.ofNat c.toNat, ?_, ?_⟩
  · refine Option.bind_eq_some_iff.mpr ⟨_, dumps_payload, ?_⟩
    unfold encodeAscii
    rw [if_pos]
    exact all_eq_true.mpr fun c hc => decide_eq_true (render_payload_ascii c hc)
  · rw [length_map, length_render_payload]

/-! ## The next cursor -/

variable {hmac : Bytes → Bytes → Bytes}

theorem length_tokenOf (hhmac : ∀ key message, (hmac key message).length = 32)
    (codec : SignedCursorCodec)
    (raw : Bytes) : (tokenOf hmac codec raw).length = (4 * raw.length + 2) / 3 + 44 := by
  rw [tokenOf, length_append, length_cons, length_encode, length_encode, hhmac]

theorem encode_iff (hhmac : ∀ key message, (hmac key message).length = 32)
    {codec : SignedCursorCodec} {now : Nat} :
    (∃ token, codec.encode φ hmac organizationId resource filters position now = .ok token) ↔
      isResource resource = true ∧ now + codec.validitySeconds * second < datetimeEnd ∧
        payloadLength organizationId resource position filters.items ≤ 3039 := by
  obtain ⟨raw, hraw, hlength⟩ := @length_payload φ _ organizationId resource filters position
    (now + codec.validitySeconds * second)
  have htoken := length_tokenOf hhmac codec raw
  rw [hlength] at htoken
  constructor
  · rintro ⟨token, h⟩
    obtain ⟨hresource, hrange, raw', hraw', rfl, hle⟩ := encode_spec h
    rw [hraw, Option.some.injEq] at hraw'
    subst hraw'
    rw [htoken, maximumCursorLength] at hle
    exact ⟨hresource, hrange, by omega⟩
  · rintro ⟨hresource, hrange, hle⟩
    refine ⟨tokenOf hmac codec raw, ?_⟩
    unfold SignedCursorCodec.encode
    rw [hresource, if_neg (by simp), if_neg (by omega), hraw]
    simp only
    rw [if_neg]
    rw [htoken, maximumCursorLength]
    omega

/--
**For which page requests the next cursor can be made.**

The parser bounds each filter of free form by itself, and the cursor carries them all, escaped.
-/
theorem next_cursor_iff [UnicodeTables] [IntReader] {hmac : Bytes → Bytes → Bytes}
    (hhmac : ∀ key message, (hmac key message).length = 32) {codec : SignedCursorCodec} {now : Nat}
    {query : PageQuery} {rules : FilterRules} {page : PageRequest}
    (h : parsePageRequest query rules = .ok page) :
    (∃ token, codec.encode φ hmac organizationId resource page.filterMap position now = .ok token) ↔
      isResource resource = true ∧ now + codec.validitySeconds * second < datetimeEnd ∧
        payloadLength organizationId resource position (filterItems query rules) ≤ 3039 := by
  have hfilters : filtersLength page.filterMap.items = filtersLength (filterItems query rules) :=
    filtersLength_perm (filters_of_parse h)
  rw [encode_iff hhmac, payloadLength, payloadLength, hfilters]

end

@[reducible] def smallIntReader : IntReader where
  intOf text := if text.all (fun n => 48 ≤ n && n ≤ 57) && text.length ≤ 2 then
    some (text.foldl (fun value n => 10 * value + (n - 48 : Nat)) 0) else none

def scheduleRules : FilterRules where
  allowed := [(ofString "state", [ofString "active", ofString "paused"])]
  freeForm := [ofString "target"]
  distinct := by decide

def activeQuery : PageQuery where
  items := [(ofString "state", [ofString "active"]), (ofString "limit", [ofString "10"])]
  distinct := by decide

theorem next_cursor_active :
    letI := noFloats
    letI := asciiTables
    letI := smallIntReader
    ∃ page, parsePageRequest activeQuery scheduleRules = .ok page ∧
      ∃ token, sampleCodec.encode Unit sampleHmac (ofString "org") (ofString "schedules")
        page.filterMap samplePosition 0 = .ok token := by
  let _ := noFloats
  let _ := asciiTables
  let _ := smallIntReader
  have hok : (parsePageRequest activeQuery scheduleRules).isOk = true := by decide
  obtain ⟨page, hpage⟩ := exists_ok_of_isOk hok
  refine ⟨page, hpage, (next_cursor_iff (fun _ _ => rfl) hpage).mpr ?_⟩
  refine ⟨by decide, by decide, ?_⟩
  decide

def longTargetQuery : PageQuery where
  items := [(ofString "target", [replicate 2048 233])]
  distinct := by decide

/-- **A page request is accepted whose next cursor cannot be made.** -/
theorem next_cursor_too_long :
    letI := noFloats
    letI := asciiTables
    letI := smallIntReader
    ∃ page, parsePageRequest longTargetQuery scheduleRules = .ok page ∧
      ∀ token, sampleCodec.encode Unit sampleHmac (ofString "org") (ofString "schedules")
        page.filterMap samplePosition 0 ≠ .ok token := by
  let _ := noFloats
  let _ := asciiTables
  let _ := smallIntReader
  have hok : (parsePageRequest longTargetQuery scheduleRules).isOk = true := by decide +kernel
  obtain ⟨page, hpage⟩ := exists_ok_of_isOk hok
  refine ⟨page, hpage, fun token htoken => ?_⟩
  have hsize : 3039 < filtersLength (filterItems longTargetQuery scheduleRules) := by
    decide +kernel
  have hlengths := (encode_iff (fun _ _ => rfl)).mp ⟨token, htoken⟩
  have hfilters := filtersLength_perm (filters_of_parse hpage)
  rw [payloadLength] at hlengths
  have hitems : filtersLength page.filterMap.items = filtersLength page.filters := rfl
  omega

end WebGuard.Pagination
