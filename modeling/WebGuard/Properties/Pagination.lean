import WebGuard.Store.Listing
import WebGuard.Properties.Readable

/-!
# Listings are complete

Whoever follows a listing from its first page is given every matching job that existed when the
first page was read, once each and in strictly descending order, whatever the limits of the pages
are and although newer jobs arrive between them. Schedules are listed the same way.

A page decodes its rows, so one row that `_record_from_row` refuses ends the listing with an
error. That is the only way to miss a job: `listings_complete` has it as an equivalence, and
`listing_of_poisoned_row` the shortest history that comes to it.
-/

namespace WebGuard

open Primitives Atomic List JobRow ScanScheduleRecordFields

/-! ## What a listing should be -/

section

variable {α β : Type}

/-- The rows of a later read: those of the first one, and newer ones. -/
structure GrownBy (instant : α → Nat ×ₗ String) (start later : List α) : Prop where
  kept : ∀ row ∈ start, row ∈ later
  newer : ∀ row ∈ later, row ∉ start → ∀ old ∈ start, instant old < instant row

/--
The listing was followed to its end and has the rows of `start`, each once, in strictly
descending order of their instants.
-/
def Lists (instant : α → Nat ×ₗ String) (read : α → Answer β) (start : List α)
    (answer : Answer (List β × Bool)) : Prop :=
  ∃ rows records, rows.Pairwise (fun a b => instant b < instant a) ∧
    (∀ row, row ∈ rows ↔ row ∈ start) ∧
    List.Forall₂ (fun row record => read row = .ok record) rows records ∧
    answer = .ok (records, true)

variable {instant : α → Nat ×ₗ String} {read : α → Answer β} {start : List α}

theorem lists_iff_of_eq {rows : List α} {answer : Answer (List β × Bool)}
    (hsorted : rows.Pairwise (fun a b => instant b < instant a))
    (hmem : ∀ row, row ∈ rows ↔ row ∈ start)
    (hanswer : answer = (rows.mapM read).map (fun records => (records, true))) :
    Lists instant read start answer ↔ ∀ row ∈ start, ∃ record, read row = .ok record := by
  have hall : (∃ records, rows.mapM read = .ok records) ↔
      ∀ row ∈ start, ∃ record, read row = .ok record := by
    rw [exists_mapM_ok_iff]
    simp only [hmem]
  rw [← hall, hanswer]
  constructor
  · rintro ⟨_, records, -, -, -, hok⟩
    cases hread : rows.mapM read with
    | error e =>
      rw [hread] at hok
      cases hok
    | ok records' => exact ⟨records', rfl⟩
  · rintro ⟨records, hread⟩
    exact ⟨rows, records, hsorted, hmem, mapM_ok_iff.mp hread, by rw [hread]; rfl⟩

theorem follow_lists_iff {time : α → Nat} {identifier : α → String} {position : β → String × String}
    {page : Store × Nat → Option (String × String) → Answer (List β × Bool)}
    {first : Store × Nat} {rest : List (Store × Nat)} (rows : Store × Nat → List α)
    (hplace : ∀ a b, read a = .ok b → position b = (timestamp (time a), identifier a))
    (hidentifier : ∀ a b, read a = .ok b → identifier a ≠ "")
    (hpage : ∀ source after, pageLimit source.2 = true → pagePosition after = true →
      page source after
        = Keyset.page (textKey time identifier) read (rows source) source.2 (after.map toLex))
    (hunique : ∀ source, ((rows source).map identifier).Nodup)
    (hlimits : ∀ source ∈ first :: rest, pageLimit source.2 = true)
    (hdated : ∀ source ∈ first :: rest, ∀ row ∈ rows source, time row < datetimeEnd)
    (hgrown : ∀ source ∈ rest, GrownBy (instantKey time identifier) (rows first) (rows source))
    (henough : (rows first).length ≤ ((first :: rest).map Prod.snd).sum) :
    Lists (instantKey time identifier) read (rows first)
        (Keyset.follow page position none (first :: rest)) ↔
      ∀ row ∈ rows first, ∃ record, read row = .ok record := by
  have hkeys : ∀ source, ((rows source).map (textKey time identifier)).Nodup := by
    intro source
    apply List.Nodup.of_map (fun key => (ofLex key).2)
    rw [map_map]
    exact hunique source
  have hfirst := hdated first mem_cons_self
  have hmem : ∀ row, row ∈ Keyset.remaining (textKey time identifier) none (rows first) ↔
      row ∈ rows first := by
    intro row
    rw [Keyset.mem_remaining]
    simp
  have hsorted : (Keyset.remaining (textKey time identifier) none (rows first)).Pairwise
      (fun a b => instantKey time identifier b < instantKey time identifier a) := by
    apply (Keyset.remaining_strict (hkeys first)).imp_of_mem
    intro a b ha hb hlt
    exact (textKey_lt_iff (hfirst b ((hmem b).mp hb)) (hfirst a ((hmem a).mp ha))).mp hlt
  have hpages : ∀ source ∈ first :: rest, ∀ after,
      (∀ p ∈ after, ∃ b a, read a = .ok b ∧ p = position b) →
      page source after
        = Keyset.page (textKey time identifier) read (rows source) (Prod.snd source)
          (after.map toLex) := by
    intro source hsource after hafter
    apply hpage source after (hlimits source hsource)
    cases after with
    | none => rfl
    | some p =>
      obtain ⟨b, a, hread, rfl⟩ := hafter p rfl
      rw [hplace a b hread]
      simp [pagePosition, timestamp_ne_empty, hidentifier a b hread]
  have hpositive : ∀ source ∈ first :: rest, 1 ≤ Prod.snd source := by
    intro source hsource
    have := hlimits source hsource
    simp only [pageLimit, Bool.and_eq_true, decide_eq_true_eq] at this
    exact this.1
  -- a row below one of the first read is a row of the first read
  have hsame : ∀ source ∈ first :: rest, ∀ a ∈ rows first, ∀ r,
      textKey time identifier r < textKey time identifier a →
        (r ∈ rows source ↔ r ∈ rows first) := by
    intro source hsource a ha r hlt
    rcases mem_cons.mp hsource with rfl | hrest
    · exact Iff.rfl
    · constructor
      · intro hr
        by_contra hnew
        exact lt_asymm ((hgrown source hrest).newer r hr hnew a ha)
          ((textKey_lt_iff (hdated source hsource r hr) (hfirst a ha)).mp hlt)
      · exact (hgrown source hrest).kept r
  have hlength : (Keyset.remaining (textKey time identifier) none (rows first)).length
      = (rows first).length := by
    rw [Keyset.remaining, Keyset.descending, length_insertionSort]
    simp [Keyset.below]
  exact lists_iff_of_eq hsorted hmem (Keyset.follow_eq (hkeys first)
    (fun a b hread => congrArg toLex (hplace a b hread)) _ hpages (fun source _ => hkeys source)
    hpositive hsame none (by simp) (by simp) (by simp)
    (by rw [Option.map_none, hlength]; exact henough))

end

/-! ## The two listings -/

section

variable [Primitives]

/-- The columns the listings are ordered by hold values of `datetime`. -/
structure Store.ListingDated (s : Store) : Prop where
  jobs : ∀ row ∈ s.scanJobs.rows, row.submittedAt < datetimeEnd
  schedules : ∀ row ∈ s.scanSchedules.rows, row.createdAt < datetimeEnd

omit [Primitives] in
theorem ne_empty_of_isCanonicalUuid {value : String} (h : isCanonicalUuid value = true) :
    value ≠ "" := by
  rintro rfl
  have hlength := (isCanonicalUuid_spec h).1
  simp at hlength

theorem jobId_ne_empty {row : JobRow} {record : ScanJobRecord}
    (h : recordFromRow row = .ok record) :
    row.jobId ≠ "" :=
  ne_empty_of_isCanonicalUuid (readable_iff.mp ⟨record, h⟩).jobId

theorem scheduleId_ne_empty {row : ScheduleRow} {record : ScanScheduleRecord}
    (h : scheduleFromRow row = .ok record) : row.scheduleId ≠ "" := by
  unfold scheduleFromRow at h
  rw [checked_eq_ok, ScanScheduleRecord.new_eq_ok] at h
  unfold postInit at h
  obtain ⟨scheduleId, hid, -⟩ := bind_ok h
  exact ne_empty_of_isCanonicalUuid (canonicalUuid_eq_ok.mp hid).2

variable {organizationId : String} {first : Store × Nat} {rest : List (Store × Nat)}

theorem followJobs_lists_iff {filters : JobFilters}
    (hlimits : ∀ source ∈ first :: rest, pageLimit source.2 = true)
    (hdated : ∀ source ∈ first :: rest, source.1.ListingDated)
    (hgrown : ∀ source ∈ rest, GrownBy (instantKey submittedAt jobId)
      (first.1.matchingJobs organizationId filters) (source.1.matchingJobs organizationId filters))
    (henough : (first.1.matchingJobs organizationId filters).length
      ≤ ((first :: rest).map Prod.snd).sum) :
    Lists (instantKey submittedAt jobId) recordFromRow
        (first.1.matchingJobs organizationId filters)
        (followJobs organizationId filters (first :: rest)) ↔
      ∀ row ∈ first.1.matchingJobs organizationId filters, row.Readable := by
  have hpage : ∀ (source : Store × Nat) after, pageLimit source.2 = true →
      pagePosition after = true →
      source.1.listJobsScopedPage organizationId source.2 after filters
        = Keyset.page (textKey submittedAt jobId) recordFromRow
          (source.1.matchingJobs organizationId filters) source.2 (after.map toLex) :=
    fun _ _ hlimit hafter => page_of_ensure hlimit hafter
  apply follow_lists_iff (fun source => source.1.matchingJobs organizationId filters)
    (fun a b h => place_of_recordFromRow h) (fun a b h => jobId_ne_empty h) hpage
  · intro source
    exact (source.1.scanJobs.unique _ (by simp)).sublist (filter_sublist.map _)
  · exact hlimits
  · intro source hsource row hrow
    exact (hdated source hsource).jobs row (mem_of_mem_filter hrow)
  · exact hgrown
  · exact henough

theorem followSchedules_lists_iff {filters : ScheduleFilters}
    (hlimits : ∀ source ∈ first :: rest, pageLimit source.2 = true)
    (hdated : ∀ source ∈ first :: rest, source.1.ListingDated)
    (hgrown : ∀ source ∈ rest, GrownBy
      (instantKey createdAt scheduleId)
      (first.1.matchingSchedules organizationId filters)
      (source.1.matchingSchedules organizationId filters))
    (henough : (first.1.matchingSchedules organizationId filters).length
      ≤ ((first :: rest).map Prod.snd).sum) :
    Lists (instantKey createdAt scheduleId)
        scheduleFromRow (first.1.matchingSchedules organizationId filters)
        (followSchedules organizationId filters (first :: rest)) ↔
      ∀ row ∈ first.1.matchingSchedules organizationId filters,
        ∃ record, scheduleFromRow row = .ok record := by
  have hpage : ∀ (source : Store × Nat) after, pageLimit source.2 = true →
      pagePosition after = true →
      source.1.listSchedulesScopedPage organizationId source.2 after filters
        = Keyset.page
          (textKey createdAt scheduleId)
          scheduleFromRow (source.1.matchingSchedules organizationId filters) source.2
          (after.map toLex) :=
    fun _ _ hlimit hafter => page_of_ensure hlimit hafter
  apply follow_lists_iff (fun source => source.1.matchingSchedules organizationId filters)
    (fun a b h => place_of_scheduleFromRow h) (fun a b h => scheduleId_ne_empty h) hpage
  · intro source
    exact (source.1.scanSchedules.unique _ (by simp)).sublist (filter_sublist.map _)
  · exact hlimits
  · intro source hsource row hrow
    exact (hdated source hsource).schedules row (mem_of_mem_filter hrow)
  · exact hgrown
  · exact henough

/--
A listing is complete exactly when every row it should list reads back.

Each element of `first :: rest` is the store a page was read from and the limit of that page. The
stores of the later reads have the matching rows of the first one and newer ones; the limits are
enough to come to the end.
-/
theorem listings_complete (organizationId : String) (first : Store × Nat)
    (rest : List (Store × Nat)) (hlimits : ∀ source ∈ first :: rest, pageLimit source.2 = true)
    (hdated : ∀ source ∈ first :: rest, source.1.ListingDated) :
    (∀ filters : JobFilters,
      (∀ source ∈ rest, GrownBy (instantKey submittedAt jobId)
        (first.1.matchingJobs organizationId filters)
        (source.1.matchingJobs organizationId filters)) →
      (first.1.matchingJobs organizationId filters).length
        ≤ ((first :: rest).map Prod.snd).sum →
      (Lists (instantKey submittedAt jobId) recordFromRow
          (first.1.matchingJobs organizationId filters)
          (followJobs organizationId filters (first :: rest)) ↔
        ∀ row ∈ first.1.matchingJobs organizationId filters, row.Readable)) ∧
    (∀ filters : ScheduleFilters,
      (∀ source ∈ rest, GrownBy
        (instantKey createdAt scheduleId)
        (first.1.matchingSchedules organizationId filters)
        (source.1.matchingSchedules organizationId filters)) →
      (first.1.matchingSchedules organizationId filters).length
        ≤ ((first :: rest).map Prod.snd).sum →
      (Lists (instantKey createdAt scheduleId)
          scheduleFromRow (first.1.matchingSchedules organizationId filters)
          (followSchedules organizationId filters (first :: rest)) ↔
        ∀ row ∈ first.1.matchingSchedules organizationId filters,
          ∃ record, scheduleFromRow row = .ok record)) := by
  constructor
  · intro filters hgrown henough
    exact followJobs_lists_iff hlimits hdated hgrown henough
  · intro filters hgrown henough
    exact followSchedules_lists_iff hlimits hdated hgrown henough

end

/-! ## A listing that grows, and one that fails -/

def queuedJob (jobId idempotencyKey : String) (submittedAt : Nat) : JobRow where
  jobId := jobId
  idempotencyKey := idempotencyKey
  requestFingerprint := "4bf6a0a034483222498f8788cd180ca682aed08b3b590268109b7bea3537cfbb"
  target := "https://example.com/"
  authorizationId := "6f1d2c3b-4a59-4e68-8b77-0c1d2e3f4a5b"
  authorizationSha256 := "0123456789abcdef0123456789abcdef0123456789abcdef0123456789abcdef"
  mode := .singlePage
  submittedAt := submittedAt
  state := .queued
  updatedAt := submittedAt
  revision := 0
  cancellationRequested := false

def tiedStore : Store :=
  { Store.empty with
    scanJobs := ⟨[queuedJob sampleJobId "submit-0001" 100, queuedJob otherJobId "submit-0002" 100],
      by decide⟩
    jobScopes := ⟨[⟨sampleJobId, sampleOrganizationId, samplePrincipalId⟩,
      ⟨otherJobId, sampleOrganizationId, samplePrincipalId⟩], by decide⟩ }

def tiedStoreGrown : Store :=
  { Store.empty with
    scanJobs := ⟨[queuedJob sampleJobId "submit-0001" 100, queuedJob otherJobId "submit-0002" 100,
      queuedJob sampleScheduleId "submit-0003" 200], by decide⟩
    jobScopes := ⟨[⟨sampleJobId, sampleOrganizationId, samplePrincipalId⟩,
      ⟨otherJobId, sampleOrganizationId, samplePrincipalId⟩,
      ⟨sampleScheduleId, sampleOrganizationId, samplePrincipalId⟩], by decide⟩ }

/-- The first page ends in the middle of the tie, and the third job comes before the second page. -/
theorem listings_complete_tied :
    letI := samplePrimitives
    Lists (instantKey submittedAt jobId) recordFromRow
      (tiedStore.matchingJobs sampleOrganizationId {})
      (followJobs sampleOrganizationId {} [(tiedStore, 1), (tiedStoreGrown, 1)]) := by
  let _ := samplePrimitives
  have hlimits : ∀ source ∈ [(tiedStore, 1), (tiedStoreGrown, 1)],
      pageLimit source.2 = true := by
    intro source hsource
    simp only [mem_cons, not_mem_nil, or_false] at hsource
    rcases hsource with rfl | rfl <;> rfl
  have hdated : ∀ source ∈ [(tiedStore, 1), (tiedStoreGrown, 1)], source.1.ListingDated := by
    intro source hsource
    simp only [mem_cons, not_mem_nil, or_false] at hsource
    rcases hsource with rfl | rfl
    · exact ⟨by decide, by decide⟩
    · exact ⟨by decide, by decide⟩
  have hgrown : ∀ source ∈ [(tiedStoreGrown, 1)],
      GrownBy (instantKey submittedAt jobId)
        (tiedStore.matchingJobs sampleOrganizationId {})
        (source.1.matchingJobs sampleOrganizationId {}) := by
    intro source hsource
    rw [mem_singleton] at hsource
    rw [hsource]
    exact ⟨by decide, by decide⟩
  have hreadable : ∀ row ∈ tiedStore.matchingJobs sampleOrganizationId {}, row.Readable := by
    intro row hrow
    have hok : ∀ row ∈ tiedStore.matchingJobs sampleOrganizationId {},
        (recordFromRow row).isOk = true := by
      decide
    exact exists_ok_of_isOk (hok row hrow)
  exact ((listings_complete sampleOrganizationId (tiedStore, 1) [(tiedStoreGrown, 1)] hlimits
    hdated).1 {} hgrown (by decide)).mpr hreadable

/--
A job that was cancelled by a clock behind the one it was submitted by.

Its row is there and matches, and the one page that should list it raises.
-/
theorem listing_of_poisoned_row :
    letI := samplePrimitives
    ∃ s : Store,
      s = Store.empty.run [
        .submit sampleRequest sampleJobId (some sampleOrganizationId) (some samplePrincipalId) none
          none,
        .requestCancellation sampleJobId 50] ∧
      (s.matchingJobs sampleOrganizationId {}).map jobId = [sampleJobId] ∧
      ¬ Lists (instantKey submittedAt jobId) recordFromRow
        (s.matchingJobs sampleOrganizationId {})
        (followJobs sampleOrganizationId {} [(s, 50)]) := by
  let _ := samplePrimitives
  refine ⟨_, rfl, by decide, ?_⟩
  rintro ⟨rows, records, -, -, -, hanswer⟩
  have herror : (followJobs sampleOrganizationId {} [(Store.empty.run [
      .submit sampleRequest sampleJobId (some sampleOrganizationId) (some samplePrincipalId) none
        none,
      .requestCancellation sampleJobId 50], 50)]).isOk = false := by
    decide
  rw [hanswer] at herror
  cases herror

end WebGuard
