import Mathlib.Data.Prod.Lex
import WebGuard.Api.Pagination
import WebGuard.Findings.Store
import WebGuard.Lib.Keyset

/-!
# Listings of findings, scans and assets

The list operations of the service, over the two repositories that each of them may have. A page is
the rows behind a position, in descending order of a time and an identifier; the service signs the
position of the last record into the next cursor, the time as `_timestamp` writes it.

`PostgresFindingRepository` and the others compare timestamps. The in-memory repositories compare
texts: the position of the cursor with `datetime.isoformat()` of a row.

The times of a repository are UTC. How PostgreSQL reads a timestamp and a UUID is a parameter.
-/

namespace WebGuard.Listings

open PyJson Pagination

/-! ## Records -/

structure ScanRecord where
  scanId : String
  organizationId : String
  jobId : String
  target : String
  authorizationId : String
  mode : String
  status : String
  scannerVersion : String
  createdAt : Nat
  permitId : Option String
  permitFingerprint : Option String
  requestedChecks : List String
  startedAt : Option Nat
  completedAt : Option Nat
  reportRef : Option String
  cancellationRequested : Bool
  cancelledAt : Option Nat
  findingCount : Nat
deriving DecidableEq

structure TargetRecord where
  targetId : String
  organizationId : String
  url : String
  createdBy : String
  createdAt : Nat
  label : Option String
  archivedAt : Option Nat
  defaultMode : Option String
deriving DecidableEq

/-- What a listing is ordered by. -/
structure Order (ρ : Type) where
  time : ρ → Nat
  identifier : ρ → String

namespace Order

variable {ρ : Type} (order : Order ρ)

/-- The key of a row: its time and its identifier, by code points. -/
def key (r : ρ) : Nat ×ₗ PyText := toLex (order.time r, ofString (order.identifier r))

/-- The position that the service signs into a cursor. -/
def position (r : ρ) : CursorPosition :=
  ⟨timestampText (order.time r), ofString (order.identifier r)⟩

end Order

def findingOrder : Order FindingRecord := ⟨FindingRecord.lastSeenAt, FindingRecord.findingId⟩

def scanOrder : Order ScanRecord := ⟨ScanRecord.createdAt, ScanRecord.scanId⟩

def targetOrder : Order TargetRecord := ⟨TargetRecord.createdAt, TargetRecord.targetId⟩

/-- The rows of a repository: one for each identifier, which is a UUID, with times of `datetime`. -/
structure Repository {ρ : Type} (order : Order ρ) where
  rows : List ρ
  distinct : (rows.map order.identifier).Nodup
  identified : ∀ r ∈ rows, isCanonicalUuid (order.identifier r) = true
  dated : ∀ r ∈ rows, order.time r < datetimeEnd

/-! ## Pages -/

inductive ListFault where
  /-- `ApiServiceError`, from an error of the cursor codec. -/
  | page (failure : Pagination.Failure) (status : Nat)
  /-- `psycopg.DataError`: a parameter that the column type does not read. -/
  | database
deriving DecidableEq

inductive Backend where
  | memory | postgres
deriving DecidableEq

/-- The input functions of PostgreSQL: `timestamptz`, and `uuid` with its canonical text. -/
class PostgresInput where
  timestamptz : PyText → Option Nat
  uuid : String → Option String

/-- What is documented of them: a canonical text is read as what it is a text of. -/
structure PostgresLaws [PostgresInput] : Prop where
  timestamptz_timestamp : ∀ t, t < datetimeEnd →
    PostgresInput.timestamptz (timestampText t) = some t

/-- `(a, b) < (c, d)` on tuples of texts. -/
def tupleBelow (a b : PyText) (position : CursorPosition) : Bool :=
  decide (a < position.orderedAt)
    || (decide (a = position.orderedAt) && decide (b < position.resourceId))

section

variable {ρ : Type} (order : Order ρ)

/-- The end of `list_…_scoped_page` of the in-memory repositories. -/
def memoryPage (values : List ρ) (limit : Nat) (after : Option CursorPosition) : List ρ × Bool :=
  let values := Keyset.descending order.key values
  let values := values.filter fun r =>
    after.all (tupleBelow (ofString (isoformat (order.time r))) (ofString (order.identifier r)))
  (values.take limit, decide (limit < values.length))

/-- The parameters of a position, as PostgreSQL reads them. -/
def readPosition [PostgresInput] (after : Option CursorPosition) :
    Except ListFault (Option (Nat × PyText)) :=
  match after with
  | none => .ok none
  | some position =>
    match PostgresInput.timestamptz position.orderedAt with
    | none => .error .database
    | some t => .ok (some (t, position.resourceId))

/-- `… AND (time < %s OR (time = %s AND identifier::text < %s)) ORDER BY … DESC LIMIT limit + 1`. -/
def postgresPage [PostgresInput] (values : List ρ) (limit : Nat) (after : Option CursorPosition) :
    Except ListFault (List ρ × Bool) := do
  let position ← readPosition after
  let values := values.filter fun r => position.all fun p =>
    decide (order.time r < p.1)
      || (decide (order.time r = p.1) && decide (ofString (order.identifier r) < p.2))
  let rows := (Keyset.descending order.key values).take (limit + 1)
  pure (rows.take limit, decide (limit < rows.length))

def repositoryPage [PostgresInput] (backend : Backend) (values : List ρ) (limit : Nat)
    (after : Option CursorPosition) : Except ListFault (List ρ × Bool) :=
  match backend with
  | .memory => .ok (memoryPage order values limit after)
  | .postgres => postgresPage order values limit after

end

/-! ## The repositories -/

/-- The filters of `list_findings`. -/
structure FindingFilters where
  scanId : Option String := none
  status : Option FindingStatus := none
  severity : Option String := none
  cweId : Option String := none
  asset : Option String := none

/-- The filters of `list_scans`. -/
structure ScanFilters where
  target : Option String := none
  status : Option String := none

section

variable [PostgresInput]

/-- A text that is compared with a column of the type `uuid`. -/
def readUuid (backend : Backend) (value : String) : Option String :=
  match backend with
  | .memory => some value
  | .postgres => PostgresInput.uuid value

/-- The findings of an organization that the filters let through. -/
def matchingFindings (backend : Backend) (rows : List FindingRecord) (organizationId : String)
    (filters : FindingFilters) : List FindingRecord :=
  rows.filter fun r =>
    decide (r.organizationId = organizationId)
      && filters.scanId.all (fun v => readUuid backend v = some r.scanId)
      && filters.status.all (· = r.status)
      && filters.severity.all (· = r.severity)
      && filters.cweId.all (fun v => r.cweId = some v)
      && filters.asset.all (· = r.asset)

def listFindingsScopedPage (backend : Backend) (rows : List FindingRecord)
    (organizationId : String) (filters : FindingFilters) (limit : Nat)
    (after : Option CursorPosition) : Except ListFault (List FindingRecord × Bool) :=
  if filters.scanId.any fun v => (readUuid backend v).isNone then .error .database
  else
    repositoryPage findingOrder backend (matchingFindings backend rows organizationId filters) limit
      after

def matchingScans (rows : List ScanRecord) (organizationId : String) (filters : ScanFilters) :
    List ScanRecord :=
  rows.filter fun r =>
    decide (r.organizationId = organizationId)
      && filters.target.all (· = r.target) && filters.status.all (· = r.status)

def listScansScopedPage (backend : Backend) (rows : List ScanRecord) (organizationId : String)
    (filters : ScanFilters) (limit : Nat) (after : Option CursorPosition) :
    Except ListFault (List ScanRecord × Bool) :=
  repositoryPage scanOrder backend (matchingScans rows organizationId filters) limit after

def matchingTargets (rows : List TargetRecord) (organizationId : String)
    (includeArchived : Bool) : List TargetRecord :=
  rows.filter fun r =>
    decide (r.organizationId = organizationId) && (includeArchived || r.archivedAt.isNone)

def listTargetsScopedPage (backend : Backend) (rows : List TargetRecord) (organizationId : String)
    (includeArchived : Bool) (limit : Nat) (after : Option CursorPosition) :
    Except ListFault (List TargetRecord × Bool) :=
  repositoryPage targetOrder backend (matchingTargets rows organizationId includeArchived) limit
    after

end

/-! ## The service -/

/-- The members of a filter map that are there. -/
def presentItems (items : List (String × Option String)) : List (PyText × PyText) :=
  items.filterMap fun item => item.2.map fun value => (ofString item.1, ofString value)

theorem keys_presentItems (items : List (String × Option String)) :
    ((presentItems items).map Prod.fst).Sublist (items.map fun item => ofString item.1) := by
  induction items with
  | nil => exact List.Sublist.slnil
  | cons item rest ih =>
    obtain ⟨name, value⟩ := item
    cases value with
    | none => exact ih.cons _
    | some value => exact ih.cons_cons _

def filterMap (items : List (String × Option String))
    (h : (items.map fun item => ofString item.1).Nodup) : Filters :=
  ⟨presentItems items, h.sublist (keys_presentItems items)⟩

def FindingFilters.map (filters : FindingFilters) : Filters :=
  filterMap
    [("asset", filters.asset), ("cwe_id", filters.cweId), ("scan_id", filters.scanId),
      ("severity", filters.severity), ("status", filters.status.map FindingStatus.value)]
    (show (["asset", "cwe_id", "scan_id", "severity", "status"].map ofString).Nodup by decide)

def ScanFilters.map (filters : ScanFilters) : Filters :=
  filterMap [("status", filters.status), ("target", filters.target)]
    (show (["status", "target"].map ofString).Nodup by decide)

/-- A list request of one organization. -/
structure ListRequest where
  organizationId : String
  limit : Nat
  filters : Filters
  limited : 1 ≤ limit ∧ limit ≤ 100

/-- The two readings of the clock in one request: for the cursor it has, and for the one it issues. -/
structure Readings where
  opened : Nat
  issued : Nat

section

variable {φ : Type} [PyFloat φ] [IsoReader] (hmac : Base64.Bytes → Base64.Bytes → Base64.Bytes)
  (interpreter : Interpreter) (codec : SignedCursorCodec)

def decodePage (φ : Type) [PyFloat φ] (request : ListRequest) (resource : String)
    (cursor : Option (List Char)) (now : Nat) : Except ListFault (Option CursorPosition) :=
  match cursor with
  | none => .ok none
  | some token =>
    ((codec.decode φ hmac interpreter token (ofString request.organizationId) (ofString resource)
      request.filters now).mapError (.page · 400)).map some

def nextCursor (φ : Type) [PyFloat φ] (request : ListRequest) (resource : String)
    (position : CursorPosition) (now : Nat) : Except ListFault (List Char) :=
  (codec.encode φ hmac (ofString request.organizationId) (ofString resource) request.filters position
    now).mapError (.page · 500)

/-- What the list operations share: the records, and the next cursor where there are more. -/
def listPage (φ : Type) [PyFloat φ] {ρ : Type} (order : Order ρ) (resource : String)
    (request : ListRequest)
    (repository : Option CursorPosition → Except ListFault (List ρ × Bool))
    (cursor : Option (List Char)) (now : Readings) :
    Except ListFault (List ρ × Option (List Char)) := do
  let after ← decodePage hmac interpreter codec φ request resource cursor now.opened
  let (records, hasMore) ← repository after
  match hasMore, records.getLast? with
  | true, some last =>
    let token ← nextCursor hmac codec φ request resource (order.position last) now.issued
    pure (records, some token)
  | _, _ => pure (records, none)

/-- The client that follows the cursors: the records of all pages, and whether it came to the end. -/
def followPages {ρ : Type}
    (page : Option (List Char) → Readings → Except ListFault (List ρ × Option (List Char))) :
    Option (List Char) → List Readings → Except ListFault (List ρ × Bool)
  | _, [] => .ok ([], false)
  | cursor, now :: rest => do
    let (records, next) ← page cursor now
    match next with
    | none => pure (records, true)
    | some token =>
      let later ← followPages page (some token) rest
      pure (records ++ later.1, later.2)

variable [PostgresInput]

def listFindings (φ : Type) [PyFloat φ] (backend : Backend) (rows : List FindingRecord)
    (organizationId : String) (filters : FindingFilters) (limit : Nat)
    (limited : 1 ≤ limit ∧ limit ≤ 100) (cursor : Option (List Char)) (now : Readings) :
    Except ListFault (List FindingRecord × Option (List Char)) :=
  listPage hmac interpreter codec φ findingOrder "findings"
    ⟨organizationId, limit, filters.map, limited⟩
    (listFindingsScopedPage backend rows organizationId filters limit) cursor now

def listScans (φ : Type) [PyFloat φ] (backend : Backend) (rows : List ScanRecord)
    (organizationId : String) (filters : ScanFilters) (limit : Nat)
    (limited : 1 ≤ limit ∧ limit ≤ 100) (cursor : Option (List Char)) (now : Readings) :
    Except ListFault (List ScanRecord × Option (List Char)) :=
  listPage hmac interpreter codec φ scanOrder "scans" ⟨organizationId, limit, filters.map, limited⟩
    (listScansScopedPage backend rows organizationId filters limit) cursor now

def listAssets (φ : Type) [PyFloat φ] (backend : Backend) (rows : List TargetRecord)
    (organizationId : String) (limit : Nat) (limited : 1 ≤ limit ∧ limit ≤ 100)
    (cursor : Option (List Char)) (now : Readings) :
    Except ListFault (List TargetRecord × Option (List Char)) :=
  listPage hmac interpreter codec φ targetOrder "assets"
    ⟨organizationId, limit, ⟨[], Pagination.distinct_nil⟩, limited⟩
    (listTargetsScopedPage backend rows organizationId false limit) cursor now

end

end WebGuard.Listings
