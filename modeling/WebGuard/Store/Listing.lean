import Mathlib.Data.Prod.Lex
import WebGuard.Lib.Keyset
import WebGuard.Contracts.TimestampOrder
import WebGuard.Store.Schema

/-!
# Listing pages

`list_jobs_scoped_page` and `list_schedules_scoped_page`, and the client that follows the
listing: it reads a page, and asks for the next one after the timestamp and the identifier of the
last record it was given.

The columns are compared as texts, by bytes, which is the order of the code points. The order of
two texts that `_timestamp` wrote is the order of their instants, so a listing is ordered by
`instantKey`, the instant and the identifier.
-/

namespace WebGuard

open Keyset

/-- `column < ? OR (column = ? AND identifier < ?)`, on the texts. -/
def listedAfter (orderedAt identifier : String) (position : String × String) : Bool :=
  decide (orderedAt < position.1)
    || (decide (orderedAt = position.1) && decide (identifier < position.2))

theorem listedAfter_iff {orderedAt identifier : String} {position : String × String} :
    listedAfter orderedAt identifier position = true ↔
      toLex (orderedAt, identifier) < toLex position := by
  rw [Prod.Lex.toLex_lt_toLex]
  simp [listedAfter]

theorem toLex_timestamp_lt_iff {t u : Nat} {a b : String} (ht : t < datetimeEnd)
    (hu : u < datetimeEnd) :
    toLex (timestamp t, a) < toLex (timestamp u, b) ↔ toLex (t, a) < toLex (u, b) := by
  rw [Prod.Lex.toLex_lt_toLex, Prod.Lex.toLex_lt_toLex]
  simp only [timestamp_lt_iff ht hu]
  have : timestamp t = timestamp u ↔ t = u := ⟨timestamp_injective ht hu, congrArg timestamp⟩
  rw [this]

/-- The key of a listing as the statements compare it. -/
def textKey {α : Type} (time : α → Nat) (identifier : α → String) (row : α) : String ×ₗ String :=
  toLex (timestamp (time row), identifier row)

/-- The key of a listing in terms of instants. -/
def instantKey {α : Type} (time : α → Nat) (identifier : α → String) (row : α) : Nat ×ₗ String :=
  toLex (time row, identifier row)

theorem textKey_lt_iff {α : Type} {time : α → Nat} {identifier : α → String} {a b : α}
    (ha : time a < datetimeEnd) (hb : time b < datetimeEnd) :
    textKey time identifier a < textKey time identifier b ↔
      instantKey time identifier a < instantKey time identifier b := toLex_timestamp_lt_iff ha hb

/-- `limit` is from 1 to 100. -/
def pageLimit (limit : Nat) : Bool := decide (1 ≤ limit) && decide (limit ≤ 100)

/-- Both texts of the position are there. -/
def pagePosition (after : Option (String × String)) : Bool :=
  after.all (fun position => decide (position.1 ≠ "") && decide (position.2 ≠ ""))

/-- The rows of a listing behind a position, `ORDER BY column DESC, identifier DESC`. -/
def listingRows {α : Type} (place : α → String × String) (after : Option (String × String))
    (rows : List α) : List α :=
  descending (fun row => toLex (place row))
    (rows.filter (fun row => after.all (listedAfter (place row).1 (place row).2)))

theorem listingRows_eq {α : Type} (place : α → String × String)
    (after : Option (String × String)) (rows : List α) :
    listingRows place after rows
      = remaining (fun row => toLex (place row)) (after.map toLex) rows := by
  unfold listingRows remaining below
  congr 1
  apply List.filter_congr
  intro row _
  cases after with
  | none => rfl
  | some position =>
    rw [Bool.eq_iff_iff]
    simp only [Option.all_some, Option.map_some, decide_eq_true_eq]
    exact listedAfter_iff

variable [Primitives]

/-! ## Jobs -/

/-- The optional filters of `list_jobs_scoped_page`. -/
structure JobFilters where
  state : Option ScanJobState := none
  mode : Option ScanJobMode := none

/-- The columns a job listing is ordered by. -/
def JobRow.place (row : JobRow) : String × String := (timestamp row.submittedAt, row.jobId)

/--
The jobs of an organisation that pass the filters.

The join with `job_scopes` has at most one row for a job, `job_id` being its key.
-/
def Store.matchingJobs (s : Store) (organizationId : String) (filters : JobFilters) :
    List JobRow :=
  s.scanJobs.rows.filter fun row =>
    s.jobScopes.rows.any
        (fun scope => scope.jobId == row.jobId && scope.organizationId == organizationId)
      && filters.state.all (· == row.state) && filters.mode.all (· == row.mode)

def Store.listJobsScopedPage (s : Store) (organizationId : String) (limit : Nat)
    (after : Option (String × String)) (filters : JobFilters) :
    Answer (List ScanJobRecord × Bool) := do
  ensure (pageLimit limit)
    (.jobStore "job_list_limit_invalid" "Job list limit must be from 1 to 100.")
  ensure (pagePosition after)
    (.jobStore "job_list_cursor_invalid" "Job cursor position is invalid.")
  let rows := (listingRows JobRow.place after (s.matchingJobs organizationId filters)).take
    (limit + 1)
  let records ← (rows.take limit).mapM recordFromRow
  return (records, decide (limit < rows.length))

/-- The position `list_jobs` of the service signs into the next cursor. -/
def ScanJobRecord.place (record : ScanJobRecord) : String × String :=
  (timestamp record.request.submittedAt, record.jobId)

/-- Follows the listing of an organisation's jobs, one store and one limit for each page. -/
def followJobs (organizationId : String) (filters : JobFilters) (reads : List (Store × Nat)) :
    Answer (List ScanJobRecord × Bool) :=
  follow (fun read after => read.1.listJobsScopedPage organizationId read.2 after filters)
    ScanJobRecord.place none reads

/-! ## Schedules -/

/-- The optional filters of `list_schedules_scoped_page`. -/
structure ScheduleFilters where
  state : Option ScanScheduleState := none
  target : Option String := none

/-- The columns a schedule listing is ordered by. -/
def schedulePlace (row : ScheduleRow) : String × String := (timestamp row.createdAt, row.scheduleId)

/-- The schedules of an organisation that pass the filters. -/
def Store.matchingSchedules (s : Store) (organizationId : String) (filters : ScheduleFilters) :
    List ScheduleRow :=
  s.scanSchedules.rows.filter fun row =>
    row.organizationId == organizationId
      && filters.state.all (· == row.state) && filters.target.all (· == row.target)

def Store.listSchedulesScopedPage (s : Store) (organizationId : String) (limit : Nat)
    (after : Option (String × String)) (filters : ScheduleFilters) :
    Answer (List ScanScheduleRecord × Bool) := do
  ensure (pageLimit limit)
    (.jobStore "schedule_list_limit_invalid" "Schedule list limit must be from 1 to 100.")
  ensure (pagePosition after)
    (.jobStore "schedule_list_cursor_invalid" "Schedule cursor position is invalid.")
  let rows := (listingRows schedulePlace after (s.matchingSchedules organizationId filters)).take
    (limit + 1)
  let records ← (rows.take limit).mapM scheduleFromRow
  return (records, decide (limit < rows.length))

/-- Follows the listing of an organisation's schedules. -/
def followSchedules (organizationId : String) (filters : ScheduleFilters)
    (reads : List (Store × Nat)) : Answer (List ScanScheduleRecord × Bool) :=
  follow
    (fun read after => read.1.listSchedulesScopedPage organizationId read.2 after filters)
    (fun record => schedulePlace record.toScanScheduleRecordFields) none reads

/-! ## Pages of the library -/

omit [Primitives] in
theorem page_of_ensure {α β : Type} {place : α → String × String} {read : α → Answer β}
    {rows : List α} {limit : Nat} {after : Option (String × String)} {e e' : Failure}
    (hlimit : pageLimit limit = true) (hafter : pagePosition after = true) :
    (do
      ensure (pageLimit limit) e
      ensure (pagePosition after) e'
      let fetched := (listingRows place after rows).take (limit + 1)
      let records ← (fetched.take limit).mapM read
      return (records, decide (limit < fetched.length)) : Answer (List β × Bool))
      = page (fun row => toLex (place row)) read rows limit (after.map toLex) := by
  rw [hlimit, hafter, page, ← listingRows_eq]
  rfl

omit [Primitives] in
theorem timestamp_ne_empty (t : Nat) : timestamp t ≠ "" := by
  intro h
  have hlist := congrArg String.toList h
  simp [timestamp] at hlist

theorem place_of_recordFromRow {row : JobRow} {record : ScanJobRecord}
    (h : recordFromRow row = .ok record) : record.place = row.place := by
  obtain ⟨hid, -, -, -, hsubmitted⟩ := recordFromRow_keeps h
  unfold ScanJobRecord.place JobRow.place
  rw [hid, hsubmitted]

theorem createdAt_of_postInit {raw fields : ScanScheduleRecordFields}
    (h : raw.postInit = .ok fields) : fields.createdAt = raw.createdAt := by
  rw [(ScanScheduleRecordFields.postInit_eq_ok.mp h).stored]

theorem place_of_scheduleFromRow {row : ScheduleRow} {record : ScanScheduleRecord}
    (h : scheduleFromRow row = .ok record) :
    schedulePlace record.toScanScheduleRecordFields = schedulePlace row := by
  unfold scheduleFromRow at h
  rw [checked_eq_ok, ScanScheduleRecord.new_eq_ok] at h
  unfold schedulePlace
  rw [createdAt_of_postInit h, (ScanScheduleRecordFields.postInit_keeps h).1]

end WebGuard
