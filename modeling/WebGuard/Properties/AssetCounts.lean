import WebGuard.Api.Assets
import WebGuard.Contracts.FindingAssets
import WebGuard.Lib.Mvcc
import WebGuard.Properties.FindingHistory
import WebGuard.Properties.ListingPages
import WebGuard.Properties.ReportComparison

/-!
# The finding counts of an asset

The page of an asset filters the findings by the URL that `create_asset` has stored. That URL always
has a path, `/` at least. The asset of a finding is an origin, without one. No finding is ever
selected: the counts are empty, and they are right exactly as long as there is nothing to count
(`counts_exact_iff`).

The filter is all that is wrong: of the findings that it selects the page counts every one
(`findingSummary_counts`).
-/

namespace WebGuard.Assets

open PyJson UrlParse StandardLibrary Listings Mvcc Atomic
open List hiding partition
open FindingContract
open ScanPermits (oneFloat asciiTables asciiLibrary)
open ReportComparisons (asciiHosts)

/-! ## Slashes -/

theorem urlunsplit_located {r : UrlParse.SplitResult} (hnetloc : r.netloc ≠ [])
    (hpath : r.path ≠ []) :
    ∃ front rest back, urlunsplit r = front ++ '/' :: '/' :: r.netloc ++ '/' :: rest ++ back := by
  obtain ⟨rest, hrest⟩ : ∃ rest, (if r.path.isEmpty || r.path.head? = some '/' then r.path
      else '/' :: r.path) = '/' :: rest := by
    split
    · next hslash =>
      rw [Bool.or_eq_true, List.isEmpty_iff, decide_eq_true_eq] at hslash
      exact head?_eq_some_iff.mp (hslash.resolve_left hpath)
    · exact ⟨_, rfl⟩
  obtain ⟨front, hfront⟩ : ∃ front, (if r.scheme.isEmpty then '/' :: '/' :: r.netloc ++ '/' :: rest
      else r.scheme ++ ':' :: ('/' :: '/' :: r.netloc ++ '/' :: rest))
      = front ++ '/' :: '/' :: r.netloc ++ '/' :: rest := by
    split
    · exact ⟨[], rfl⟩
    · exact ⟨r.scheme ++ [':'], by simp⟩
  unfold urlunsplit
  simp only [isEmpty_eq_false_iff.mpr hnetloc, Bool.not_false, if_true, hrest, hfront]
  refine ⟨front, rest, (if r.query.isEmpty then [] else '?' :: r.query)
    ++ if r.fragment.isEmpty then [] else '#' :: r.fragment, ?_⟩
  split <;> split <;> simp

section

variable [StandardLibrary]

theorem three_le_count_canonicalizeAssetUrl {reason : Text → String} {url stored : Text}
    (h : canonicalizeAssetUrl reason url = .ok stored) : 3 ≤ stored.count '/' := by
  unfold canonicalizeAssetUrl at h
  split at h
  · cases h
  next parsed hparsed =>
  split at h
  · cases h
  next hcond =>
  cases h
  have hnetloc : parsed.netloc ≠ [] := by
    intro hnil
    refine hcond ?_
    have hnone : parsed.hostname = none := by
      simp [UrlParse.SplitResult.hostname, UrlParse.SplitResult.hostinfo, hnil, rpartition,
        partition]
    rw [hnone, Option.isNone_none, Bool.or_true]
  have hpath : (if parsed.path.isEmpty then ['/'] else parsed.path) ≠ [] := by
    split
    · exact cons_ne_nil _ _
    · next hempty => exact fun hnil => hempty (List.isEmpty_iff.mpr hnil)
  obtain ⟨front, rest, back, hparts⟩ := urlunsplit_located
    (r := { parsed with path := if parsed.path.isEmpty then ['/'] else parsed.path }) hnetloc hpath
  rw [hparts]
  simp only [count_append, count_cons_self]
  omega

variable [LowerTable]

theorem slash_not_mem_assetHost (laws : LowerLaws) {asset : PyText} {parsed : UrlParse.SplitResult}
    (h : urlsplit (characters asset) = some parsed) (hscheme : parsed.scheme ≠ []) :
    47 ∉ assetHost asset parsed := by
  intro hmem
  rw [assetHost_eq] at hmem
  have hnetloc := mem_of_mem_hostOf (mem_of_mem_storedHost laws (by decide) hmem)
  by_cases hnil : parsed.netloc = []
  · rw [netlocOf, hnil] at hnetloc
    exact absurd hnetloc not_mem_nil
  · have hslash : '/' ∈ parsed.netloc := by
      rw [← characters_netlocOf h hscheme hnil]
      exact (mem_characters_iff (by decide)).mpr hnetloc
    exact absurd ((netloc_of_urlsplit h).1 '/' hslash) (by decide)

theorem count_assetField (laws : LowerLaws) {value stored : PyText}
    (h : assetField value = .ok stored) : stored.count 47 = 2 := by
  obtain ⟨parsed, configured, -, -, hparsed, hweb, -, -, -, -, -, -, rfl⟩ := assetField_eq_ok.mp h
  have hscheme : parsed.scheme ≠ [] := by
    intro hnil
    have hlower : lower ([] : Text) = [] := lower_ascii [] (by simp)
    rw [hnil, hlower] at hweb
    rcases hweb with hweb | hweb <;> exact absurd hweb (by decide)
  have hhost := slash_not_mem_assetHost laws hparsed hscheme
  have hlocated : ∀ port, (locatedText (lower parsed.scheme)
      (assetHost (stripText value) parsed) port).count 47 = 0 := by
    intro port
    rw [count_eq_zero]
    intro hmem
    rcases mem_locatedText hmem with hin | hin
    · exact hhost hin
    · omega
  rw [assetText_eq, count_append, hlocated]
  rcases hweb with hweb | hweb <;> rw [hweb] <;> decide

end

theorem count_characters (text : PyText) : (characters text).count '/' = text.count 47 := by
  unfold characters
  rw [count_eq_countP, countP_map, count_eq_countP]
  refine countP_congr fun n _ => ?_
  simp

/-! ## What the page counts -/

section

variable [PostgresInput]

theorem findingSummary_counts (backend : Backend) (rows : List FindingRecord)
    (organizationId : String) (target : TargetRecord)
    (h : (matchingFindings backend rows organizationId { asset := some target.url }).length ≤ 100) :
    ∃ counts capped, findingSummary backend rows organizationId target = .ok (counts, capped)
      ∧ ∀ severity, Tally.read counts severity
        = (matchingFindings backend rows organizationId { asset := some target.url }).countP
          (·.severity = severity) := by
  generalize hvalues : matchingFindings backend rows organizationId { asset := some target.url }
    = values at h
  have hperm : (Keyset.descending findingOrder.key values).Perm values :=
    perm_insertionSort _ values
  have hlength : (Keyset.descending findingOrder.key values).length ≤ 100 := by
    rw [hperm.length_eq]
    exact h
  have hall : ∀ l : List FindingRecord, l.filter (fun _ => true) = l := fun l => by simp
  have hlist : listFindingsScopedPage backend rows organizationId { asset := some target.url } 100
      none = .ok (Keyset.descending findingOrder.key values, false) := by
    unfold listFindingsScopedPage repositoryPage
    rw [hvalues]
    cases backend with
    | memory => simp [memoryPage, take_of_length_le hlength, hlength]
    | postgres =>
      have hmore : (Keyset.descending findingOrder.key values).length ≤ 101 := by omega
      simp [postgresPage, readPosition, hall, take_of_length_le hlength,
        take_of_length_le hmore, hlength, ok_bind, pure, Except.pure]
  refine ⟨_, _, by rw [findingSummary, hlist, ok_bind]; rfl, fun severity => ?_⟩
  rw [Tally.read_count, count_eq_countP, countP_map, hperm.countP_eq]
  refine countP_congr fun row _ => ?_
  simp

end

/-! ## What is stored -/

variable {T : Type} [DecidableEq T] {P : String → Prop}

/-- The assets of the findings, and of those that are about to be recorded, are as `P` says. -/
structure AssetsFit (P : String → Prop) (s : FindingDesk T) : Prop where
  rows : s.db.Rows fun row => P row.asset
  detecting : ∀ t d existing, s.session t = .detecting d existing → P d.asset

variable {s : FindingDesk T} {session : FindingSession}

theorem AssetsFit.enter (h : AssetsFit P s) {db : Database String FindingRecord T}
    (hrows : db.Rows fun row => P row.asset) {events : List FindingEventRecord} {t : T}
    (hdetecting : ∀ d existing, session = .detecting d existing → P d.asset) :
    AssetsFit P (FindingDesk.enter ⟨db, events, s.session⟩ t session) where
  rows := hrows
  detecting := by
    intro t' d existing hd
    rw [FindingDesk.session_enter] at hd
    split at hd
    · exact hdetecting d existing hd
    · exact h.detecting t' d existing hd

theorem AssetsFit.upsert (h : AssetsFit P s) {d : Detection} (hd : P d.asset) (t : T)
    (existing : Option FindingStatus) : AssetsFit P (s.upsert t d existing) := by
  unfold FindingDesk.upsert
  split
  · split
    · next row _ hview =>
      have hrow : P row.asset := h.rows.view hview
      exact h.enter (h.rows.write (v := d.again row) hrow _) fun _ _ hd => nomatch hd
    · exact h
  · split
    · exact h.enter (h.rows.stage hd _) fun _ _ hd => nomatch hd
    · exact h.enter h.rows.abort fun _ _ hd => nomatch hd
    · exact h

theorem AssetsFit.setStatus (h : AssetsFit P s) (t : T) (c : Triage)
    (currentStatus : FindingStatus) : AssetsFit P (s.setStatus t c currentStatus) := by
  unfold FindingDesk.setStatus
  dsimp only
  split
  · next row _ hseen =>
    have hrow : P row.asset := h.rows.view (Option.filter_eq_some_iff.mp hseen).1
    refine h.enter (h.rows.write (v := { row with status := c.newStatus }) hrow _) ?_
    exact fun _ _ hd => nomatch hd
  · exact h.enter h.rows.abort fun _ _ hd => nomatch hd
  · exact h

theorem openUpdate_ne_detecting {t : T} {c : Triage} (h : s.openUpdate t c = .ok session)
    (d : Detection) (existing : Option FindingStatus) :
    session ≠ .detecting d existing := by
  unfold FindingDesk.openUpdate at h
  split at h
  · cases h
  · split at h
    · cases h
      nofun
    · obtain ⟨_, -, h⟩ := bind_ok h
      cases h
      nofun

theorem AssetsFit.turn (h : AssetsFit P s) (t : T) : AssetsFit P (s.turn t) := by
  unfold FindingDesk.turn
  cases hsession : s.session t with
  | idle => exact h
  | detecting d existing => exact h.upsert (h.detecting t d existing hsession) t existing
  | triaging c currentStatus => exact h.setStatus t c currentStatus
  | closing record event => exact h.enter h.rows.commit fun _ _ hd => nomatch hd

theorem AssetsFit.step (h : AssetsFit P s) (input : FindingInput T)
    (hinput : ∀ t d, input = .record t d → P d.asset) : AssetsFit P (s.step input) := by
  cases input with
  | record t d =>
    dsimp only [FindingDesk.step]
    split
    · refine h.enter h.rows fun d' existing hd => ?_
      cases hd
      exact hinput t _ rfl
    · exact h
  | update t c =>
    dsimp only [FindingDesk.step]
    split
    · next session _ hopen =>
      refine h.enter h.rows fun d existing hd => ?_
      exact absurd hd (openUpdate_ne_detecting hopen d existing)
    · exact h
  | turn t => exact h.turn t
  | abort t => exact h.enter h.rows.abort fun _ _ hd => nomatch hd

section

variable [LowerTable] [StandardLibrary] [UnicodeTables]

/-- The text of an asset that an identity can have. -/
def IdentityAsset (asset : String) : Prop :=
  ∃ value stored, assetField value = .ok stored ∧ asset = storedText stored

/-- The URL of a target that `create_asset` can store. -/
def AssetUrl (reason : Text → String) (url : String) : Prop :=
  ∃ typed, canonicalizeAssetUrl reason typed = .ok url.toList

omit [UnicodeTables] in
theorem IdentityAsset.ne (laws : LowerLaws) {reason : Text → String} {asset url : String}
    (hasset : IdentityAsset asset) (hurl : AssetUrl reason url) : asset ≠ url := by
  rintro rfl
  obtain ⟨value, stored, hstored, rfl⟩ := hasset
  obtain ⟨typed, htyped⟩ := hurl
  have hthree := three_le_count_canonicalizeAssetUrl htyped
  rw [storedText, String.toList_ofList, count_characters, count_assetField laws hstored] at hthree
  omega

theorem ScanFinding.identityAsset (f : ScanFinding) (φ : Type) [PyFloat φ]
    (digest : List Char → PyText) (recording : Recording) :
    IdentityAsset (recordCall φ digest recording f.finding).asset := by
  obtain ⟨ruleId, -, h⟩ := bind_ok f.accepted
  obtain ⟨asset, hasset, h⟩ := bind_ok h
  obtain ⟨path, -, h⟩ := bind_ok h
  obtain ⟨method, -, h⟩ := bind_ok h
  obtain ⟨parameter, -, h⟩ := bind_ok h
  refine ⟨_, _, hasset, ?_⟩
  unfold recordCall
  rw [← Except.ok.inj h]

/-! ## Runs -/

variable {φ : Type} [PyFloat φ] {digest : List Char → PyText} {reason : Text → String}

/-- What holds of the service in every run. -/
structure Reachable (reason : Text → String) (s : AssetDesk T) : Prop where
  urls : ∀ target ∈ s.targets, AssetUrl reason target.url
  assets : AssetsFit IdentityAsset s.desk

variable {targets : List TargetRecord} {after : List TargetRecord}

omit [LowerTable] [StandardLibrary] [UnicodeTables] in
theorem createTarget_eq_ok {record : TargetRecord}
    (h : createTarget targets record = .ok after) : after = targets ++ [record] := by
  unfold createTarget at h
  split at h
  · cases h
  · exact (Except.ok.inj h).symm

omit [LowerTable] [UnicodeTables] in
theorem url_of_createAsset {context : AuthContext} {body : Option AssetBody} {targetId : String}
    {now : Nat} (h : createAsset reason context body targetId now targets = .ok after) :
    ∀ target ∈ after, target ∈ targets ∨ AssetUrl reason target.url := by
  unfold createAsset at h
  split at h
  case isFalse => cases h
  obtain ⟨⟨url, label, mode⟩, hfields, h⟩ := bind_ok h
  have hurl : AssetUrl reason url := by
    unfold assetFields at hfields
    dsimp only at hfields
    split at hfields
    · cases hfields
    · split at hfields
      · cases hfields
      · obtain ⟨_, -, hfields⟩ := bind_ok hfields
        obtain ⟨_, -, hfields⟩ := bind_ok hfields
        split at hfields
        · cases hfields
        next canonicalUrl hcanonical =>
        cases hfields
        exact ⟨_, by rw [hcanonical, String.toList_ofList]⟩
    · cases hfields
  intro target hmem
  rw [createTarget_eq_ok h] at hmem
  rcases mem_append.mp hmem with hold | hnew
  · exact Or.inl hold
  · rw [mem_singleton.mp hnew]
    exact Or.inr hurl

omit [LowerTable] [StandardLibrary] [UnicodeTables] in
theorem url_of_changeTarget {targetId organizationId : String}
    {change : TargetRecord → TargetRecord} (hchange : ∀ t, (change t).url = t.url)
    {target : TargetRecord} (h : target ∈ changeTarget targetId organizationId change targets) :
    ∃ old ∈ targets, target.url = old.url := by
  obtain ⟨old, hold, rfl⟩ := mem_map.mp h
  refine ⟨old, hold, ?_⟩
  split
  · exact hchange old
  · rfl

theorem Reachable.step {s : AssetDesk T} (h : Reachable reason s) (call : AssetCall T) :
    Reachable reason (s.step φ digest reason call) := by
  have hchanged : ∀ {targetId organizationId change}, (∀ t : TargetRecord, (change t).url = t.url) →
      ∀ target ∈ changeTarget targetId organizationId change s.targets,
        AssetUrl reason target.url := by
    intro targetId organizationId change hchange target hmem
    obtain ⟨old, hold, hurl⟩ := url_of_changeTarget hchange hmem
    rw [hurl]
    exact h.urls old hold
  cases call with
  | create context body targetId now =>
    dsimp only [AssetDesk.step]
    split
    · next targets hcreated =>
      refine ⟨fun target hmem => ?_, h.assets⟩
      exact (url_of_createAsset hcreated target hmem).elim (h.urls target) id
    · exact h
  | update targetId organizationId label defaultMode =>
    exact ⟨hchanged fun _ => rfl, h.assets⟩
  | archive targetId organizationId now => exact ⟨hchanged fun _ => rfl, h.assets⟩
  | record t recording f =>
    refine ⟨h.urls, h.assets.step (.record t (recordCall φ digest recording f.finding)) ?_⟩
    intro t' d hd
    cases hd
    exact f.identityAsset φ digest recording
  | triage t c => exact ⟨h.urls, h.assets.step (.update t c) fun _ _ hd => nomatch hd⟩
  | turn t => exact ⟨h.urls, h.assets.step (.turn t) fun _ _ hd => nomatch hd⟩
  | abort t => exact ⟨h.urls, h.assets.step (.abort t) fun _ _ hd => nomatch hd⟩

theorem reachable_run (calls : List (AssetCall T)) :
    Reachable reason (AssetDesk.run φ digest reason .empty calls) :=
  Runs.run_induction (fun _ call h => h.step call)
    ⟨nofun, Database.rows_empty, fun _ _ _ hd => nomatch hd⟩ calls

/-- The origin of a target, as the asset of a finding has it. -/
def targetAsset (url : Text) : Option PyText := do
  let parsed ← urlsplit url
  let located := parsed.scheme ++ "://".toList ++ (rpartition '@' parsed.netloc).2.2
  (assetField (codePoints located)).toOption

/-- The finding was stored, for the organization, with the origin of the target. -/
def onTarget (target : TargetRecord) (row : FindingRecord) : Bool :=
  row.organizationId = target.organizationId
    && targetAsset target.url.toList = some (ofString row.asset)

variable [PostgresInput]

/-- The counts on the page are the numbers of the findings that are stored on the target. -/
def CountsExact (backend : Backend) (s : AssetDesk T) (target : TargetRecord) : Prop :=
  ∃ counts capped,
    findingSummary backend s.findings target.organizationId target = .ok (counts, capped)
      ∧ ∀ severity, Tally.read counts severity
        = (s.findings.filter (onTarget target)).countP (·.severity = severity)

omit [UnicodeTables] in
theorem findingSummary_eq_nil (laws : LowerLaws) {s : AssetDesk T} (h : Reachable reason s)
    {target : TargetRecord} (htarget : target ∈ s.targets) (backend : Backend)
    (organizationId : String) :
    matchingFindings backend s.findings organizationId { asset := some target.url } = [] := by
  refine filter_eq_nil_iff.mpr fun row hrow hkept => ?_
  obtain ⟨k, -, hcommitted⟩ := mem_filterMap.mp hrow
  have hasset := h.assets.rows.committed k row hcommitted
  have hsame : target.url = row.asset := by
    simp only [Bool.and_eq_true, Option.all_some, decide_eq_true_eq] at hkept
    exact hkept.2
  exact hasset.ne laws (h.urls target htarget) hsame.symm

/-- **When the finding counts of a target are exact**: as long as no finding is stored on it. -/
theorem counts_exact_iff (laws : LowerLaws) (backend : Backend) (calls : List (AssetCall T))
    (target : TargetRecord)
    (htarget : target ∈ (AssetDesk.run φ digest reason .empty calls).targets) :
    CountsExact backend (AssetDesk.run φ digest reason .empty calls) target
      ↔ ∀ row ∈ (AssetDesk.run φ digest reason .empty calls).findings,
        onTarget target row = false := by
  generalize hs : AssetDesk.run φ digest reason .empty calls = s at htarget
  have hreachable : Reachable reason s := hs ▸ reachable_run calls
  have hnone := findingSummary_eq_nil laws hreachable htarget backend target.organizationId
  obtain ⟨counts, capped, hsummary, hcounts⟩ := findingSummary_counts backend s.findings
    target.organizationId target (by rw [hnone]; exact Nat.zero_le _)
  have hread : ∀ severity, Tally.read counts severity = 0 := fun severity => by
    rw [hcounts, hnone, countP_nil]
  constructor
  · rintro ⟨counts', capped', hsummary', hexact⟩ row hrow
    rw [hsummary] at hsummary'
    cases hsummary'
    by_contra hon
    have hzero := (hexact row.severity).symm.trans (hread _)
    rw [countP_eq_zero] at hzero
    exact hzero row (mem_filter.mpr ⟨hrow, by simpa using hon⟩) (by simp)
  · intro hempty
    refine ⟨counts, capped, hsummary, fun severity => ?_⟩
    have hnil : s.findings.filter (onTarget target) = [] :=
      filter_eq_nil_iff.mpr fun row hrow => by simp [hempty row hrow]
    rw [hread, hnil, countP_nil]

end

def sampleMember : AuthContext where
  organizationId := "7b8f1c1e-3c55-4f0e-9d8a-52a1f0a6c001"
  organizationName := "Example"
  principalId := "7b8f1c1e-3c55-4f0e-9d8a-52a1f0a6c002"
  principalName := "Owner"
  role := .owner
  tokenId := "token"
  authMethod := .apiToken

def sampleTarget : TargetRecord where
  targetId := "5f0c9a52-6c1b-4a57-9e0c-0d1f4b8e7c01"
  organizationId := sampleMember.organizationId
  url := "https://example.com/"
  createdBy := sampleMember.principalId
  createdAt := 0
  label := none
  archivedAt := none
  defaultMode := none

def sampleRecording : Recording where
  organizationId := sampleMember.organizationId
  scanId := "scan"
  findingId := "finding"
  eventId := "event"
  now := 0

/-- The registration of `https://example.com`. -/
def registration [LowerTable] [StandardLibrary] [UnicodeTables] : AssetCall Unit :=
  .create sampleMember (some ⟨.text "https://example.com", .absent, .absent⟩)
    sampleTarget.targetId 0

def oneFinding : letI := asciiLower; letI := asciiLibrary; letI := asciiTables
    List (AssetCall Unit) :=
  let _ := asciiLower
  let _ := asciiLibrary
  let _ := asciiTables
  [registration,
    .record () sampleRecording ⟨sampleFinding (FindingContract.sampleIdentity (ofString "/a")),
      FindingContract.sampleIdentity (ofString "/a"), by decide⟩,
    .turn (), .turn ()]

/-- A finding of another origin. -/
def foreignFinding : letI := asciiLower; letI := asciiLibrary; letI := asciiTables
    List (AssetCall Unit) :=
  let _ := asciiLower
  let _ := asciiLibrary
  let _ := asciiTables
  let identity := { FindingContract.sampleIdentity (ofString "/a") with
    asset := ofString "https://example.org" }
  [registration, .record () sampleRecording ⟨sampleFinding identity, identity, by decide⟩,
    .turn (), .turn ()]

/-- The service after some calls. -/
abbrev sampleRun (calls : letI := asciiLower; letI := asciiLibrary; letI := asciiTables
    List (AssetCall Unit)) : AssetDesk Unit :=
  let _ := asciiLower
  let _ := asciiLibrary
  let _ := asciiTables
  let _ := oneFloat
  AssetDesk.run Unit sampleFingerprint (fun _ => "") .empty calls

theorem foreignFinding_facts : letI := asciiLower; letI := asciiLibrary; letI := asciiTables
    (sampleRun foreignFinding).targets = [sampleTarget]
      ∧ (sampleRun foreignFinding).findings.map (onTarget sampleTarget) = [false] := by
  let _ := asciiLower
  let _ := asciiLibrary
  let _ := asciiTables
  decide

/-- What is found elsewhere is not counted. -/
theorem counts_exact_registered : letI := asciiLower; letI := asciiLibrary; letI := asciiTables
    letI := postgresInput
    CountsExact .postgres (sampleRun foreignFinding) sampleTarget
      ∧ (sampleRun foreignFinding).findings.length = 1 := by
  let _ := asciiLower
  let _ := asciiLibrary
  let _ := asciiTables
  let _ := postgresInput
  let _ := oneFloat
  obtain ⟨htargets, hfindings⟩ := foreignFinding_facts
  obtain ⟨row, hrow, helsewhere⟩ := map_eq_singleton_iff.mp hfindings
  refine ⟨(counts_exact_iff asciiHosts .postgres foreignFinding sampleTarget ?_).mpr ?_, ?_⟩
  · rw [htargets]
    exact mem_singleton_self _
  · rw [hrow]
    exact fun _ hmem => mem_singleton.mp hmem ▸ helsewhere
  · rw [hrow]
    rfl

theorem oneFinding_facts : letI := asciiLower; letI := asciiLibrary; letI := asciiTables
    letI := postgresInput
    ((sampleRun oneFinding).findings.map fun row =>
        (row.severity, onTarget sampleTarget row)) = [("low", true)]
      ∧ findingSummary .postgres (sampleRun oneFinding).findings sampleTarget.organizationId
        sampleTarget = .ok ([], false) := by
  let _ := asciiLower
  let _ := asciiLibrary
  let _ := asciiTables
  let _ := postgresInput
  decide

/-- **The finding of a scan is not counted.** -/
theorem finding_not_counted : letI := asciiLower; letI := asciiLibrary; letI := asciiTables
    letI := postgresInput
    ¬ CountsExact .postgres (sampleRun oneFinding) sampleTarget := by
  let _ := asciiLower
  let _ := asciiLibrary
  let _ := asciiTables
  let _ := postgresInput
  rintro ⟨counts, capped, hsummary, hexact⟩
  obtain ⟨hfindings, hempty⟩ := oneFinding_facts
  rw [hempty] at hsummary
  cases hsummary
  obtain ⟨row, hrow, hlow⟩ := map_eq_singleton_iff.mp hfindings
  rw [Prod.mk.injEq] at hlow
  have hcount := hexact "low"
  rw [hrow, filter_cons_of_pos hlow.2, filter_nil, countP_singleton] at hcount
  simp [hlow.1, Tally.read] at hcount

end WebGuard.Assets
