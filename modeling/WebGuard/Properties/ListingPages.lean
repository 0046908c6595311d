import WebGuard.Api.Listings
import WebGuard.Properties.Cursors

/-!
# Which listings are complete

The time of a cursor ends with `Z` and has all six digits of the fraction; `isoformat()` ends with
`+00:00`, and has no fraction where that is zero. Compared as texts, the row that a page ended with
is below its own cursor, and so is every row of its time. An in-memory repository therefore repeats
the boundary row on the next page, and never comes to the end where one time has more rows than a
page (`memoryPage_repeats`). PostgreSQL compares the times, and its pages fit together.

So the listing of an in-memory repository is complete where it has one page, and that of PostgreSQL
where the `scan_id` filter is a UUID (`listing_pages_complete`).
-/

namespace WebGuard.Listings

open PyJson Pagination Atomic Keyset List

/-- The listing was followed to its end, and has the rows, each once, in descending order. -/
def Complete {ρ : Type} (order : Order ρ) (rows : List ρ)
    (answer : Except ListFault (List ρ × Bool)) : Prop :=
  ∃ records, answer = .ok (records, true) ∧
    records.Pairwise (fun a b => order.key b < order.key a) ∧ ∀ r, r ∈ records ↔ r ∈ rows

/-! ## Texts side by side -/

theorem ofString_lt_iff {a b : String} : ofString a < ofString b ↔ a < b := by
  rw [String.lt_iff_toList_lt, ofString, ofString]
  generalize a.toList = x
  generalize b.toList = y
  induction x generalizing y with
  | nil =>
    cases y with
    | nil => simp
    | cons d y => simp
  | cons c x ih =>
    cases y with
    | nil => simp
    | cons d y =>
      rw [map_cons, map_cons, cons_lt_cons_iff, cons_lt_cons_iff, ih]
      have hlt : c.toNat < d.toNat ↔ c < d := Iff.rfl
      have heq : c.toNat = d.toNat ↔ c = d := ⟨fun h => Char.toNat_inj.mp h, congrArg Char.toNat⟩
      rw [hlt, heq]

variable {limit : Nat} {times : List Readings}

section

variable {ρ : Type} {order : Order ρ}

theorem position_orderedAt (r : ρ) :
    (order.position r).orderedAt = ofString (timestamp (order.time r)) := by
  simp only [Order.position, timestampText]

omit order in
theorem isoformat_ne_timestamp (t u : Nat) : ofString (isoformat t) ≠ ofString (timestamp u) := by
  intro heq
  have hz := getLast_timestampText u
  have hzero : (ofString (isoformat t)).getLast? = some 48 := by
    rw [ofString, isoformat, String.toList_ofList, map_append]
    simp
  rw [timestampText, ← heq, hzero] at hz
  cases hz

variable {r : ρ} {rows values : List ρ} {after : Option CursorPosition} {τ : Type}

theorem tupleBelow_iff {last : ρ} (hr : order.time r < datetimeEnd)
    (hlast : order.time last < datetimeEnd) :
    tupleBelow (ofString (isoformat (order.time r))) (ofString (order.identifier r))
        (order.position last) = true ↔ order.time r ≤ order.time last := by
  have hbelow : ofString (isoformat (order.time r)) < ofString (timestamp (order.time last)) ↔
      order.time r ≤ order.time last :=
    ofString_lt_iff.trans (isoformat_lt_timestamp_iff hr hlast)
  rw [tupleBelow, Bool.or_eq_true, decide_eq_true_eq, Bool.and_eq_true, decide_eq_true_eq,
    position_orderedAt, hbelow]
  simp [isoformat_ne_timestamp]

/-! ## The pages of one repository -/

theorem ofString_injective {a b : String} (h : ofString a = ofString b) : a = b := by
  rcases lt_trichotomy a b with hlt | heq | hgt
  · exact absurd (ofString_lt_iff.mpr hlt) (by rw [h]; exact lt_irrefl _)
  · exact heq
  · exact absurd (ofString_lt_iff.mpr hgt) (by rw [h]; exact lt_irrefl _)

theorem nodup_key (h : (rows.map order.identifier).Nodup) : (rows.map order.key).Nodup := by
  refine List.Nodup.of_map (fun k : Nat ×ₗ PyText => (ofLex k).2) ?_
  rw [map_map]
  have hmap : (fun k : Nat ×ₗ PyText => (ofLex k).2) ∘ order.key = ofString ∘ order.identifier := rfl
  rw [hmap, ← map_map]
  exact h.map fun _ _ => ofString_injective

theorem complete_of_eq (hdistinct : (rows.map order.identifier).Nodup)
    {answer : Except ListFault (List ρ × Bool)}
    (h : answer = .ok (descending order.key rows, true)) : Complete order rows answer :=
  ⟨_, h, descending_strict (nodup_key hdistinct), fun _ => mem_descending⟩

/-- A row with a time of `datetime` is a record. -/
def readDated (order : Order ρ) (r : ρ) : Except ListFault ρ :=
  if order.time r < datetimeEnd then .ok r else .error .database

theorem mapM_readDated (h : ∀ r ∈ rows, order.time r < datetimeEnd) :
    rows.mapM (readDated order) = .ok rows :=
  mapM_eq_self fun r hr => if_pos (h r hr)

theorem mem_of_repositoryPage [PostgresInput] {backend : Backend} {records : List ρ} {more : Bool}
    (h : repositoryPage order backend values limit after = .ok (records, more)) :
    ∀ r ∈ records, r ∈ values := by
  intro r hr
  cases backend with
  | memory =>
    cases h
    exact mem_descending.mp (mem_of_mem_filter (mem_of_mem_take hr))
  | postgres =>
    unfold repositoryPage postgresPage at h
    obtain ⟨position, -, h⟩ := bind_ok h
    cases h
    have hmem := mem_of_mem_take (mem_of_mem_take hr)
    exact mem_of_mem_filter (mem_descending.mp hmem)

/-! ### PostgreSQL -/

section

variable [PostgresInput]

/-- Where a position stands among the keys. -/
def place (position : CursorPosition) : Nat ×ₗ PyText :=
  toLex ((PostgresInput.timestamptz position.orderedAt).getD 0, position.resourceId)

theorem timestamptz_position (laws : PostgresLaws) (hr : order.time r < datetimeEnd) :
    PostgresInput.timestamptz (order.position r).orderedAt = some (order.time r) := by
  rw [position_orderedAt]
  exact laws.timestamptz_timestamp (order.time r) hr

theorem place_position (laws : PostgresLaws) (hr : order.time r < datetimeEnd) :
    place (order.position r) = order.key r := by
  rw [place, timestamptz_position laws hr]
  rfl

theorem postgresPage_eq (laws : PostgresLaws) (hdated : ∀ r ∈ values, order.time r < datetimeEnd)
    (hafter : ∀ p ∈ after, ∃ r, order.time r < datetimeEnd ∧ p = order.position r) :
    postgresPage order values limit after
      = page order.key (readDated order) values limit (after.map place) := by
  have hread : ∃ position, readPosition after = .ok position ∧
      position.map toLex = after.map place := by
    cases after with
    | none => exact ⟨none, rfl, rfl⟩
    | some p =>
      obtain ⟨r, hr, rfl⟩ := hafter p rfl
      refine ⟨some (order.time r, (order.position r).resourceId), ?_, ?_⟩
      · rw [readPosition, timestamptz_position laws hr]
      · rw [Option.map_some, Option.map_some, place_position laws hr]
        rfl
  obtain ⟨position, hposition, hplace⟩ := hread
  have hbelow : (values.filter fun r => position.all fun p =>
      decide (order.time r < p.1)
        || (decide (order.time r = p.1) && decide (ofString (order.identifier r) < p.2)))
      = below order.key (after.map place) values := by
    rw [← hplace]
    refine filter_congr fun r _ => ?_
    cases position with
    | none => rfl
    | some p =>
      rw [Option.all_some, Option.map_some, Option.all_some, Bool.eq_iff_iff]
      simp only [Order.key, Prod.Lex.toLex_lt_toLex, Bool.or_eq_true, Bool.and_eq_true,
        decide_eq_true_eq]
  have hrows : ∀ r ∈ ((remaining order.key (after.map place) values).take (limit + 1)).take
      limit, order.time r < datetimeEnd := by
    intro r hr
    have hmem := mem_of_mem_take (mem_of_mem_take hr)
    exact hdated r (mem_remaining.mp hmem).1
  rw [page, mapM_readDated hrows, postgresPage, hposition, remaining, ← hbelow]
  rfl

theorem follow_postgres (laws : PostgresLaws) (hdistinct : (values.map order.identifier).Nodup)
    (hdated : ∀ r ∈ values, order.time r < datetimeEnd) (hlimit : 1 ≤ limit) {times : List τ}
    (hstarted : times ≠ []) (henough : values.length ≤ limit * times.length) :
    follow (fun (_ : τ) after => postgresPage order values limit after) order.position none
      times = .ok (descending order.key values, true) := by
  have hkeys := nodup_key hdistinct
  have hread : ∀ a b, readDated order a = .ok b → order.time b < datetimeEnd ∧ b = a := by
    intro a b h
    unfold readDated at h
    split at h
    · next hlt =>
      cases h
      exact ⟨hlt, rfl⟩
    · cases h
  have hall : remaining order.key ((none : Option CursorPosition).map place) values
      = descending order.key values := by
    simp [remaining, below]
  have hsum : (times.map fun _ => limit).sum = limit * times.length := by
    simp [Nat.mul_comm]
  have hplace : ∀ a b, readDated order a = .ok b → place (order.position b) = order.key a := by
    intro a b h
    obtain ⟨hlt, rfl⟩ := hread a b h
    exact place_position laws hlt
  have hpages : ∀ s ∈ times, ∀ after,
      (∀ p ∈ after, ∃ b a, readDated order a = .ok b ∧ p = order.position b) →
      (fun (_ : τ) after => postgresPage order values limit after) s after
        = page order.key (readDated order) values limit (after.map place) := by
    intro _ _ after hafter
    refine postgresPage_eq laws hdated fun p hp => ?_
    obtain ⟨b, a, hok, rfl⟩ := hafter p hp
    exact ⟨b, (hread a b hok).1, rfl⟩
  have hfollow := follow_eq hkeys hplace times hpages (fun _ _ => hkeys)
    (fun _ _ => hlimit) (fun _ _ _ _ _ _ => Iff.rfl) none (by simp) (by simp) hstarted (by
      rw [hall, hsum, descending, length_insertionSort]
      exact henough)
  rw [hfollow, hall, mapM_readDated fun r hr => hdated r (mem_descending.mp hr)]
  rfl

end

/-! ### The in-memory repositories -/

theorem follow_memory (hfits : values.length ≤ limit) {times : List τ} (hstarted : times ≠ []) :
    follow (fun (_ : τ) after => (.ok (memoryPage order values limit after) :
      Except ListFault (List ρ × Bool))) order.position none times
      = .ok (descending order.key values, true) := by
  cases times with
  | nil => exact absurd rfl hstarted
  | cons now rest =>
    have hlength : (descending order.key values).length = values.length :=
      length_insertionSort _ _
    have hpage : memoryPage order values limit none
        = (descending order.key values, false) := by
      simp only [memoryPage, Option.all_none, filter_true]
      rw [take_of_length_le (by omega), decide_eq_false (by omega)]
    rw [follow, hpage]
    rfl

theorem memoryPage_repeats (hdated : ∀ r ∈ values, order.time r < datetimeEnd)
    (hlimit : 1 ≤ limit) {last : ρ} (hlast : last ∈ values) :
    ∃ r rest, (memoryPage order values limit (some (order.position last))).1 = r :: rest ∧
      order.key last ≤ order.key r := by
  have hmem : last ∈ (descending order.key values).filter fun r =>
      (some (order.position last)).all
        (tupleBelow (ofString (isoformat (order.time r))) (ofString (order.identifier r))) := by
    refine mem_filter.mpr ⟨mem_descending.mpr hlast, ?_⟩
    rw [Option.all_some, tupleBelow_iff (hdated last hlast) (hdated last hlast)]
  have hsorted : ((descending order.key values).filter fun r =>
      (some (order.position last)).all
        (tupleBelow (ofString (isoformat (order.time r))) (ofString (order.identifier r)))).Pairwise
      fun a b => order.key b ≤ order.key a := by
    have : Std.Total (fun a b : ρ => order.key b ≤ order.key a) :=
      ⟨fun a b => le_total (order.key b) (order.key a)⟩
    have : IsTrans ρ (fun a b => order.key b ≤ order.key a) := ⟨fun _ _ _ hab hbc => hbc.trans hab⟩
    exact (pairwise_insertionSort _ values).sublist filter_sublist
  rw [memoryPage]
  dsimp only
  revert hmem hsorted
  generalize (descending order.key values).filter _ = listed
  intro hmem hsorted
  cases listed with
  | nil => cases hmem
  | cons r rest =>
    refine ⟨r, rest.take (limit - 1), ?_, ?_⟩
    · obtain ⟨n, rfl⟩ := Nat.exists_eq_add_of_le' hlimit
      rw [take_succ_cons, Nat.add_sub_cancel]
    · rcases mem_cons.mp hmem with rfl | hrest
      · exact le_refl _
      · exact (pairwise_cons.mp hsorted).1 last hrest

theorem not_complete_memory (hdated : ∀ r ∈ values, order.time r < datetimeEnd)
    (hlimit : 1 ≤ limit) (hmore : limit < values.length) (times : List τ) :
    ¬ Complete order values
      (follow (fun (_ : τ) after => (.ok (memoryPage order values limit after) :
        Except ListFault (List ρ × Bool))) order.position none times) := by
  rintro ⟨records, hanswer, hsorted, -⟩
  have hlength : (descending order.key values).length = values.length :=
    length_insertionSort _ _
  have hpage : memoryPage order values limit none
      = ((descending order.key values).take limit, true) := by
    simp only [memoryPage, Option.all_none, filter_true]
    rw [decide_eq_true (by omega)]
  -- the first page ends with a row, from whose position the second one is read
  obtain ⟨front, last, back, hcut, hfront, -⟩ :=
    exists_cut hlimit (show limit < (descending order.key values).length by omega)
  have htake : (descending order.key values).take limit = front ++ [last] := by
    rw [hcut, append_cons, ← hfront, take_left]
  have hlast : last ∈ values := by
    have hmem : last ∈ descending order.key values := by simp [hcut]
    exact mem_descending.mp hmem
  cases times with
  | nil => cases hanswer
  | cons now rest =>
    rw [follow, hpage, htake] at hanswer
    have hfollow : (follow (fun (_ : τ) after => (.ok (memoryPage order values limit after) :
        Except ListFault (List ρ × Bool))) order.position (some (order.position last)) rest).map
        (fun later => (front ++ [last] ++ later.1, later.2)) = .ok (records, true) := by
      simpa [bind, Except.bind] using hanswer
    cases rest with
    | nil => cases hfollow
    | cons now' rest =>
      obtain ⟨r, others, hrepeats, hle⟩ := memoryPage_repeats hdated hlimit hlast
      obtain ⟨answer, hrest, hrecords⟩ := map_ok_iff.mp hfollow
      have hsecond : (.ok (memoryPage order values limit (some (order.position last))) :
          Except ListFault (List ρ × Bool)) = .ok (r :: others,
            (memoryPage order values limit (some (order.position last))).2) := by
        rw [← hrepeats]
      obtain ⟨later, hlater⟩ := follow_starts hsecond hrest
      obtain rfl : front ++ [last] ++ answer.1 = records := congrArg Prod.fst hrecords
      rw [hlater] at hsorted
      have hlt := (pairwise_append.mp hsorted).2.2 last (by simp) r (by simp)
      exact absurd hlt (not_lt_of_ge hle)

/-! ## The client and its cursors -/

variable {φ : Type} [PyFloat φ] [IsoReader] {hmac : Base64.Bytes → Base64.Bytes → Base64.Bytes}
  {interpreter : Interpreter} {codec : SignedCursorCodec} {request : ListRequest}
  {resource : String}

/-- What the codec needs. -/
structure Codec (φ : Type) [PyFloat φ] [IsoReader]
    (hmac : Base64.Bytes → Base64.Bytes → Base64.Bytes) : Prop where
  floats : FloatLaws φ
  iso : IsoLaws
  digest : ∀ key message, (hmac key message).length = 32

/-- The filters are texts that a document brings back. -/
def Plain (filters : Filters) : Prop :=
  ∀ item ∈ filters.items, readsBack .ascii item.1 = true ∧ readsBack .ascii item.2 = true

section

omit [IsoReader]

theorem plain_filterMap (items : List (String × Option String))
    (h : (items.map fun item => ofString item.1).Nodup) : Plain (filterMap items h) := by
  intro item hitem
  obtain ⟨⟨name, value⟩, -, hvalue⟩ := mem_filterMap.mp hitem
  obtain ⟨text, -, rfl⟩ := Option.map_eq_some_iff.mp hvalue
  exact ⟨readsBack_of_isEncodable (isEncodable_ofString _),
    readsBack_of_isEncodable (isEncodable_ofString _)⟩

theorem FindingFilters.plain_map (filters : FindingFilters) : Plain filters.map :=
  plain_filterMap
    [("asset", filters.asset), ("cwe_id", filters.cweId), ("scan_id", filters.scanId),
      ("severity", filters.severity), ("status", filters.status.map FindingStatus.value)] _

theorem ScanFilters.plain_map (filters : ScanFilters) : Plain filters.map :=
  plain_filterMap [("status", filters.status), ("target", filters.target)] _

end

theorem decodePage_of_nextCursor (hcodec : Codec φ hmac) (hfilters : Plain request.filters)
    (hid : order.identifier r ≠ "") {issued opened : Nat} {token : List Char}
    (htoken : nextCursor hmac codec φ request resource (order.position r) issued = .ok token)
    (hopened : opened < issued + codec.validitySeconds * second) :
    decodePage hmac interpreter codec φ request resource (some token) opened
      = .ok (some (order.position r)) := by
  have hencode : codec.encode φ hmac (ofString request.organizationId) (ofString resource)
      request.filters (order.position r) issued = .ok token := by
    unfold nextCursor at htoken
    cases hanswer : codec.encode φ hmac (ofString request.organizationId) (ofString resource)
        request.filters (order.position r) issued with
    | error failure =>
      rw [hanswer] at htoken
      cases htoken
    | ok token' =>
      rw [hanswer] at htoken
      cases htoken
      rfl
  have htext : ∀ s : String, readsBack .ascii (ofString s) = true :=
    fun s => readsBack_of_isEncodable (isEncodable_ofString s)
  have hreadable : Readable (ofString request.organizationId) request.filters
      (order.position r) := by
    refine ⟨htext request.organizationId, hfilters, ?_, htext (order.identifier r)⟩
    rw [position_orderedAt]
    exact htext (timestamp (order.time r))
  have hordered : (order.position r).orderedAt ≠ [] := by
    intro hnil
    have hlast := getLast_timestampText (order.time r)
    rw [timestampText, ← position_orderedAt, hnil] at hlast
    cases hlast
  have hresourceId : (order.position r).resourceId ≠ [] := by
    intro hnil
    have hlist : (order.identifier r).toList = [] := map_eq_nil_iff.mp hnil
    exact hid (String.toList_eq_nil_iff.mp hlist)
  have hdecode := ((cursors_decode_once hcodec.floats hcodec.iso hmac hcodec.digest interpreter
    codec).1 _ _ _ _ _ _ opened hencode hreadable).1 hordered hresourceId hopened
  simp only [decodePage, hdecode, Atomic.mapError_ok, Except.map]

/-- The cursor of a request, with the position in it. -/
inductive Carries (hmac : Base64.Bytes → Base64.Bytes → Base64.Bytes) (codec : SignedCursorCodec)
    (φ : Type) [PyFloat φ] (order : Order ρ) (request : ListRequest) (resource : String)
    (times : List Readings) : Option (List Char) → Option CursorPosition → Prop where
  | start : Carries hmac codec φ order request resource times none none
  | next {r : ρ} {issued : Nat} {token : List Char} (hid : order.identifier r ≠ "")
      (htoken : nextCursor hmac codec φ request resource (order.position r) issued = .ok token)
      (hopened : ∀ now ∈ times.head?, now.opened < issued + codec.validitySeconds * second) :
      Carries hmac codec φ order request resource times (some token) (some (order.position r))

/-- The requests of one listing: enough of them, with cursors that are issued and used in time. -/
structure Followed (hmac : Base64.Bytes → Base64.Bytes → Base64.Bytes) (codec : SignedCursorCodec)
    (φ : Type) [PyFloat φ] (order : Order ρ) (request : ListRequest) (resource : String)
    (rows : List ρ) (times : List Readings) : Prop where
  started : times ≠ []
  enough : rows.length ≤ request.limit * times.length
  issued : ∀ r ∈ rows, ∀ now ∈ times,
    (nextCursor hmac codec φ request resource (order.position r) now.issued).isOk = true
  timely : times.IsChain fun before now =>
    now.opened < before.issued + codec.validitySeconds * second

theorem followPages_eq (hcodec : Codec φ hmac) (hfilters : Plain request.filters)
    (hids : ∀ r ∈ rows, order.identifier r ≠ "")
    {repository : Option CursorPosition → Except ListFault (List ρ × Bool)}
    (hmem : ∀ after records more, repository after = .ok (records, more) → ∀ r ∈ records, r ∈ rows)
    (hissued : ∀ r ∈ rows, ∀ now ∈ times,
      (nextCursor hmac codec φ request resource (order.position r) now.issued).isOk = true)
    (htimely : times.IsChain fun before now =>
      now.opened < before.issued + codec.validitySeconds * second) {cursor : Option (List Char)}
    (hcarries : Carries hmac codec φ order request resource times cursor after) :
    followPages (listPage hmac interpreter codec φ order resource request repository) cursor times
      = follow (fun _ after => repository after) order.position after times := by
  induction times generalizing cursor after with
  | nil => rfl
  | cons now rest ih =>
    have hdecode : decodePage hmac interpreter codec φ request resource cursor now.opened
        = .ok after := by
      cases hcarries with
      | start => rfl
      | next hid htoken hopened =>
        exact decodePage_of_nextCursor hcodec hfilters hid htoken (hopened now rfl)
    rw [followPages, follow, listPage, hdecode]
    cases hpage : repository after with
    | error fault =>
      simp only [bind, Except.bind, hpage]
    | ok answer =>
      obtain ⟨records, more⟩ := answer
      simp only [bind, Except.bind, hpage]
      cases hlast : records.getLast? with
      | none => cases more <;> rfl
      | some last =>
        cases more with
        | false => rfl
        | true =>
          have hrow : last ∈ rows := hmem after records true hpage last (mem_of_getLast? hlast)
          obtain ⟨token, htoken⟩ := exists_ok_of_isOk (hissued last hrow now (by simp))
          have hrest := ih (fun r hr t ht => hissued r hr t (by simp [ht])) htimely.of_cons
            (.next (hids last hrow) htoken ?_)
          · simp only [htoken]
            simp only [pure, Except.pure]
            rw [hrest]
            cases follow (fun (_ : Readings) after => repository after) order.position
                (some (order.position last)) rest <;> rfl
          · intro now' hnow'
            cases rest with
            | nil => cases hnow'
            | cons first rest =>
              cases hnow'
              exact htimely.rel

end

/-! ## The three listings -/

section

variable {φ : Type} [PyFloat φ] [IsoReader] [PostgresInput]
  {hmac : Base64.Bytes → Base64.Bytes → Base64.Bytes} {interpreter : Interpreter}
  {codec : SignedCursorCodec}

/-- The rows of a repository that a filter lets through. -/
structure Selected {ρ : Type} (order : Order ρ) (values : List ρ) : Prop where
  distinct : (values.map order.identifier).Nodup
  identified : ∀ r ∈ values, isCanonicalUuid (order.identifier r) = true
  dated : ∀ r ∈ values, order.time r < datetimeEnd

omit [IsoReader] [PostgresInput] in
theorem Repository.selected {ρ : Type} {order : Order ρ} (repository : Repository order)
    (p : ρ → Bool) : Selected order (repository.rows.filter p) where
  distinct := repository.distinct.sublist (filter_sublist.map _)
  identified := fun r hr => repository.identified r (mem_of_mem_filter hr)
  dated := fun r hr => repository.dated r (mem_of_mem_filter hr)

theorem listPage_complete_iff (hcodec : Codec φ hmac) (laws : PostgresLaws) {ρ : Type}
    {order : Order ρ} {resource : String} {request : ListRequest}
    (hfilters : Plain request.filters) {values : List ρ} (hvalues : Selected order values)
    (backend : Backend) (hfollowed : Followed hmac codec φ order request resource values times) :
    Complete order values (followPages (listPage hmac interpreter codec φ order resource request
        (repositoryPage order backend values request.limit)) none times) ↔
      (backend = .memory → values.length ≤ request.limit) := by
  have hids : ∀ r ∈ values, order.identifier r ≠ "" := by
    intro r hr hempty
    have hcanonical := hvalues.identified r hr
    rw [hempty] at hcanonical
    exact absurd hcanonical (by decide)
  have hmem : ∀ after records more,
      repositoryPage order backend values request.limit after = .ok (records, more) →
        ∀ r ∈ records, r ∈ values := fun after records more h => mem_of_repositoryPage h
  rw [followPages_eq hcodec hfilters hids hmem hfollowed.issued hfollowed.timely .start]
  cases backend with
  | memory =>
    constructor
    · intro hcomplete _
      by_contra hmore
      exact not_complete_memory hvalues.dated request.limited.1 (by omega) times hcomplete
    · intro hfits
      exact complete_of_eq hvalues.distinct (follow_memory (hfits rfl) hfollowed.started)
  | postgres =>
    refine ⟨fun _ => nofun, fun _ => ?_⟩
    exact complete_of_eq hvalues.distinct (follow_postgres laws hvalues.distinct hvalues.dated
      request.limited.1 hfollowed.started hfollowed.enough)

/-- The `scan_id` filter is a text that the column can be compared with. -/
def FindingFilters.Readable (backend : Backend) (filters : FindingFilters) : Prop :=
  ∀ v ∈ filters.scanId, (readUuid backend v).isSome = true

theorem listFindings_complete_iff (hcodec : Codec φ hmac) (laws : PostgresLaws)
    (backend : Backend) (repository : Repository findingOrder) (organizationId : String)
    (filters : FindingFilters) (limited : 1 ≤ limit ∧ limit ≤ 100)
    (hfollowed : Followed hmac codec φ findingOrder ⟨organizationId, limit, filters.map, limited⟩
      "findings" (matchingFindings backend repository.rows organizationId filters) times) :
    Complete findingOrder (matchingFindings backend repository.rows organizationId filters)
        (followPages (listFindings hmac interpreter codec φ backend repository.rows organizationId
          filters limit limited) none times) ↔
      filters.Readable backend ∧ (backend = .memory →
        (matchingFindings backend repository.rows organizationId filters).length ≤ limit) := by
  have hvalues : Selected findingOrder
      (matchingFindings backend repository.rows organizationId filters) := repository.selected _
  by_cases hread : filters.Readable backend
  · have hrefused : (filters.scanId.any fun v => (readUuid backend v).isNone) = false := by
      rw [Option.any_eq_false]
      intro v hv
      simpa using hread v hv
    have hrepository : listFindingsScopedPage backend repository.rows organizationId filters limit
        = repositoryPage findingOrder backend
          (matchingFindings backend repository.rows organizationId filters) limit := by
      funext after
      rw [listFindingsScopedPage, hrefused]
      rfl
    unfold listFindings
    rw [hrepository, listPage_complete_iff hcodec laws filters.plain_map hvalues backend hfollowed]
    exact ⟨fun h => ⟨hread, h⟩, fun h => h.2⟩
  · have hrefused : (filters.scanId.any fun v => (readUuid backend v).isNone) = true := by
      simpa [FindingFilters.Readable, Option.any_eq_true] using hread
    refine ⟨?_, fun h => absurd h.1 hread⟩
    rintro ⟨records, hanswer, -⟩
    cases times with
    | nil => cases hanswer
    | cons now rest =>
      have hpage : listFindingsScopedPage backend repository.rows organizationId filters limit none
          = .error .database := by
        rw [listFindingsScopedPage, hrefused]
        rfl
      unfold followPages listFindings listPage at hanswer
      simp [decodePage, hpage, bind, Except.bind] at hanswer

/--
**Following the cursors lists every matching row once, in descending order, exactly where** the
repository is PostgreSQL's and reads the `scan_id` filter, or is the in-memory one and has no more
matching rows than fit on one page.
-/
theorem listing_pages_complete (hcodec : Codec φ hmac) (laws : PostgresLaws) (backend : Backend)
    (organizationId : String) {limit : Nat} (limited : 1 ≤ limit ∧ limit ≤ 100)
    (times : List Readings) :
    (∀ (repository : Repository findingOrder) (filters : FindingFilters),
      Followed hmac codec φ findingOrder ⟨organizationId, limit, filters.map, limited⟩ "findings"
        (matchingFindings backend repository.rows organizationId filters) times →
      (Complete findingOrder (matchingFindings backend repository.rows organizationId filters)
          (followPages (listFindings hmac interpreter codec φ backend repository.rows
            organizationId filters limit limited) none times) ↔
        filters.Readable backend ∧ (backend = .memory →
          (matchingFindings backend repository.rows organizationId filters).length ≤ limit))) ∧
    (∀ (repository : Repository scanOrder) (filters : ScanFilters),
      Followed hmac codec φ scanOrder ⟨organizationId, limit, filters.map, limited⟩ "scans"
        (matchingScans repository.rows organizationId filters) times →
      (Complete scanOrder (matchingScans repository.rows organizationId filters)
          (followPages (listScans hmac interpreter codec φ backend repository.rows organizationId
            filters limit limited) none times) ↔
        (backend = .memory →
          (matchingScans repository.rows organizationId filters).length ≤ limit))) ∧
    ∀ repository : Repository targetOrder,
      Followed hmac codec φ targetOrder ⟨organizationId, limit, ⟨[], nodup_nil⟩, limited⟩ "assets"
        (matchingTargets repository.rows organizationId false) times →
      (Complete targetOrder (matchingTargets repository.rows organizationId false)
          (followPages (listAssets hmac interpreter codec φ backend repository.rows organizationId
            limit limited) none times) ↔
        (backend = .memory →
          (matchingTargets repository.rows organizationId false).length ≤ limit)) := by
  refine ⟨?_, ?_, ?_⟩
  · intro repository filters hfollowed
    exact listFindings_complete_iff hcodec laws backend repository organizationId filters limited
      hfollowed
  · intro repository filters hfollowed
    exact listPage_complete_iff hcodec laws filters.plain_map (repository.selected _) backend
      hfollowed
  · intro repository hfollowed
    exact listPage_complete_iff hcodec laws (fun _ h => absurd h not_mem_nil)
      (repository.selected _) backend hfollowed

end

/-! ## Two assets -/

@[reducible] def postgresInput : PostgresInput where
  timestamptz text :=
    if text.getLast? = some 90 then isoReader.fromIsoFormat (withOffset text) else none
  uuid value := if isCanonicalUuid value then some value else none

theorem postgresInput_laws : @PostgresLaws postgresInput := by
  let _ := isoReader
  let _ := postgresInput
  refine ⟨fun t ht => ?_⟩
  show (if (timestampText t).getLast? = some 90 then
    isoReader.fromIsoFormat (withOffset (timestampText t)) else none) = some t
  rw [if_pos (getLast_timestampText t)]
  exact isoReader_laws.fromIsoFormat_isoFormat t ht

theorem sample_codec : @Codec Unit noFloats isoReader sampleHmac :=
  @Codec.mk Unit noFloats isoReader sampleHmac noFloats_laws isoReader_laws fun _ _ => rfl

def sampleAsset (targetId url : String) (createdAt : Nat) : TargetRecord where
  targetId := targetId
  organizationId := "7b8f1c1e-3c55-4f0e-9d8a-52a1f0a6c001"
  url := url
  createdBy := "7b8f1c1e-3c55-4f0e-9d8a-52a1f0a6c002"
  createdAt := createdAt
  label := none
  archivedAt := none
  defaultMode := none

def twoAssets : Repository targetOrder where
  rows :=
    [sampleAsset "5f0c9a52-6c1b-4a57-9e0c-0d1f4b8e7c01" "https://example.com/" 63838000000000000,
      sampleAsset "5f0c9a52-6c1b-4a57-9e0c-0d1f4b8e7c02" "https://example.org/" 63838000000000000]
  distinct := by decide
  identified := by decide
  dated := by decide

def twoReadings : List Readings := [⟨0, 0⟩, ⟨1000000, 1000000⟩]

theorem followed_twoAssets :
    @Followed TargetRecord sampleHmac sampleCodec Unit noFloats targetOrder
      ⟨"7b8f1c1e-3c55-4f0e-9d8a-52a1f0a6c001", 1, ⟨[], nodup_nil⟩, by decide⟩ "assets"
      (matchingTargets twoAssets.rows "7b8f1c1e-3c55-4f0e-9d8a-52a1f0a6c001" false) twoReadings := by
  let _ := noFloats
  refine ⟨by decide, by decide +kernel, by decide +kernel, ?_⟩
  decide

theorem listing_pages_complete_assets :
    letI := noFloats
    letI := isoReader
    letI := postgresInput
    Complete targetOrder
      (matchingTargets twoAssets.rows "7b8f1c1e-3c55-4f0e-9d8a-52a1f0a6c001" false)
      (followPages (listAssets sampleHmac sampleInterpreter sampleCodec Unit .postgres
        twoAssets.rows "7b8f1c1e-3c55-4f0e-9d8a-52a1f0a6c001" 1 (by decide)) none twoReadings) := by
  let _ := noFloats
  let _ := isoReader
  let _ := postgresInput
  exact ((listing_pages_complete sample_codec postgresInput_laws .postgres
    "7b8f1c1e-3c55-4f0e-9d8a-52a1f0a6c001" (by decide) twoReadings).2.2 twoAssets
    followed_twoAssets).mpr nofun

/-- **The in-memory repository repeats the row that a page ended with.** -/
theorem memory_listing_repeats :
    letI := noFloats
    letI := isoReader
    letI := postgresInput
    ¬ ∀ (backend : Backend) (repository : Repository targetOrder) (organizationId : String)
      (limit : Nat) (limited : 1 ≤ limit ∧ limit ≤ 100) (times : List Readings),
      Followed sampleHmac sampleCodec Unit targetOrder
        ⟨organizationId, limit, ⟨[], nodup_nil⟩, limited⟩ "assets"
        (matchingTargets repository.rows organizationId false) times →
      Complete targetOrder (matchingTargets repository.rows organizationId false)
        (followPages (listAssets sampleHmac sampleInterpreter sampleCodec Unit backend
          repository.rows organizationId limit limited) none times) := by
  let _ := noFloats
  let _ := isoReader
  let _ := postgresInput
  intro h
  have hcomplete := h .memory twoAssets "7b8f1c1e-3c55-4f0e-9d8a-52a1f0a6c001" 1 (by decide)
    twoReadings followed_twoAssets
  have hfits := (listPage_complete_iff sample_codec postgresInput_laws
    (fun _ h => absurd h not_mem_nil) (twoAssets.selected _) .memory followed_twoAssets).mp
    hcomplete rfl
  revert hfits
  decide

end WebGuard.Listings
