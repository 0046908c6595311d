import Mathlib.Data.List.Sort
import WebGuard.Executor.Artifacts
import WebGuard.Lib.Mvcc
import WebGuard.Lib.Run

/-!
# Findings and their history

A finding is unique by organization and fingerprint. Scans record it, again and again
(`record_finding`), and members of the organization decide about it (`update_status`); a change of
its status is an entry of `finding_events`.

On PostgreSQL both are a `SELECT` of the status and then a write, in one transaction at READ
COMMITTED. The write is a statement of its own: it waits for whoever has locked the row, and it
does not look at the status that was read.
-/

namespace WebGuard

open Mvcc

namespace FindingStatus

def value : FindingStatus → String
  | .open => "open"
  | .confirmed => "confirmed"
  | .falsePositive => "false_positive"
  | .acceptedRisk => "accepted_risk"
  | .resolved => "resolved"
  | .reopened => "reopened"

def allowedTransitions : FindingStatus → List FindingStatus
  | .open => [.confirmed, .falsePositive, .acceptedRisk, .resolved]
  | .confirmed => [.falsePositive, .acceptedRisk, .resolved]
  | .falsePositive => [.open, .confirmed]
  | .acceptedRisk => [.open, .resolved]
  | .resolved => [.reopened]
  | .reopened => [.confirmed, .falsePositive, .acceptedRisk, .resolved]

/-- What a scan that sees the finding again makes of its status. -/
def redetected : FindingStatus → FindingStatus
  | .resolved => .reopened
  | status => status

end FindingStatus

structure FindingStoreError where
  code : String
  message : String
deriving DecidableEq

/-- A row of `finding_events`. -/
structure FindingEventRecord where
  eventId : String
  findingId : String
  organizationId : String
  previousStatus : FindingStatus
  newStatus : FindingStatus
  createdAt : Nat
  reason : Option String
  changedBy : Option String
deriving DecidableEq

/-- A row of `findings`. -/
structure FindingRecord where
  findingId : String
  organizationId : String
  scanId : String
  fingerprint : String
  checkId : String
  scannerVersion : String
  title : String
  severity : String
  confidence : String
  asset : String
  endpoint : String
  httpMethod : String
  status : FindingStatus
  firstSeenAt : Nat
  lastSeenAt : Nat
  parameter : Option String
  checkVersion : Option String
  cweId : Option String
  owaspCategory : Option String
  evidence : Option String
  remediation : Option String
  references : List String
deriving DecidableEq

/-- A call of `record_finding`, with the identifiers that it draws. -/
structure Detection where
  findingId : String
  eventId : String
  organizationId : String
  scanId : String
  fingerprint : String
  checkId : String
  scannerVersion : String
  title : String
  severity : String
  confidence : String
  asset : String
  endpoint : String
  httpMethod : String
  now : Nat
  parameter : Option String
  checkVersion : Option String
  cweId : Option String
  owaspCategory : Option String
  evidence : Option String
  remediation : Option String
  references : List String

/-- A call of `update_status`, with the identifier that it draws. -/
structure Triage where
  findingId : String
  eventId : String
  organizationId : String
  newStatus : FindingStatus
  now : Nat
  reason : Option String
  changedBy : Option String

def assertValidTransition (current target : FindingStatus) : Except FindingStoreError Unit :=
  if target ∈ current.allowedTransitions then .ok ()
  else .error
    ⟨"finding_status_transition_invalid",
      "Cannot transition a finding from " ++ current.value ++ " to " ++ target.value ++ "."⟩

namespace Detection

/-- The row of the same finding. -/
def names (d : Detection) (r : FindingRecord) : Bool :=
  r.organizationId = d.organizationId ∧ r.fingerprint = d.fingerprint

/-- The row that is inserted. -/
def first (d : Detection) : FindingRecord where
  findingId := d.findingId
  organizationId := d.organizationId
  scanId := d.scanId
  fingerprint := d.fingerprint
  checkId := d.checkId
  scannerVersion := d.scannerVersion
  title := d.title
  severity := d.severity
  confidence := d.confidence
  asset := d.asset
  endpoint := d.endpoint
  httpMethod := d.httpMethod
  status := .open
  firstSeenAt := d.now
  lastSeenAt := d.now
  parameter := d.parameter
  checkVersion := d.checkVersion
  cweId := d.cweId
  owaspCategory := d.owaspCategory
  evidence := d.evidence
  remediation := d.remediation
  references := d.references

/-- `DO UPDATE SET …`. -/
def again (d : Detection) (r : FindingRecord) : FindingRecord :=
  { r with
    scanId := d.scanId
    scannerVersion := d.scannerVersion
    severity := d.severity
    confidence := d.confidence
    lastSeenAt := d.now
    checkVersion := d.checkVersion
    evidence := d.evidence
    status := r.status.redetected }

/-- The event, from the status that was read and the row that was written. -/
def event (d : Detection) (existing : Option FindingStatus) (record : FindingRecord) :
    Option FindingEventRecord :=
  match existing with
  | none => none
  | some previousStatus =>
    if record.status = previousStatus then none
    else
      some { eventId := d.eventId, findingId := record.findingId,
             organizationId := d.organizationId, previousStatus, newStatus := record.status,
             createdAt := d.now, reason := some "Re-detected on a subsequent scan.",
             changedBy := none }

end Detection

namespace Triage

def event (c : Triage) (currentStatus : FindingStatus) : FindingEventRecord where
  eventId := c.eventId
  findingId := c.findingId
  organizationId := c.organizationId
  previousStatus := currentStatus
  newStatus := c.newStatus
  createdAt := c.now
  reason := c.reason
  changedBy := c.changedBy

end Triage

/-! ## Transactions side by side -/

/-- A transaction between two statements. -/
inductive FindingSession where
  | idle
  /-- `record_finding` has read the status. -/
  | detecting (d : Detection) (existing : Option FindingStatus)
  /-- `update_status` has read the status and passed its checks. -/
  | triaging (c : Triage) (currentStatus : FindingStatus)
  /-- The row and the event are written. -/
  | closing (record : FindingRecord) (event : Option FindingEventRecord)

/-- The tables, and the transactions under way. -/
structure FindingDesk (T : Type) where
  db : Database String FindingRecord T
  /-- The committed events, in the order of their commits. -/
  events : List FindingEventRecord
  session : T → FindingSession

inductive FindingInput (T : Type) where
  /-- `record_finding`, to the end of its `SELECT`. -/
  | record (t : T) (d : Detection)
  /-- `update_status`, to the end of its checks. -/
  | update (t : T) (c : Triage)
  /-- The statements that write, or the commit. -/
  | turn (t : T)
  /-- The transaction fails, or loses its connection. -/
  | abort (t : T)

namespace FindingDesk

variable {T : Type} [DecidableEq T]

def empty : FindingDesk T where
  db := Database.empty
  events := []
  session := fun _ => .idle

def enter (s : FindingDesk T) (t : T) (session : FindingSession) : FindingDesk T :=
  { s with session := fun t' => if t' = t then session else s.session t' }

def rollback (s : FindingDesk T) (t : T) : FindingDesk T :=
  { s with db := s.db.abort t }.enter t .idle

/-- `SELECT status FROM findings WHERE organization_id = … AND fingerprint = …`. -/
def existing (s : FindingDesk T) (t : T) (d : Detection) : Option FindingStatus :=
  s.db.keys.findSome? fun k => ((s.db.view t k).filter d.names).map FindingRecord.status

/-- The row that an insertion of the finding conflicts with, committed or not. -/
def conflict (s : FindingDesk T) (d : Detection) : Option String :=
  s.db.keys.find? fun k => (s.db.newest k).any d.names

/-- `INSERT … ON CONFLICT (organization_id, fingerprint) DO UPDATE …`, and the event. -/
def upsert (s : FindingDesk T) (t : T) (d : Detection) (existing : Option FindingStatus) :
    FindingDesk T :=
  match s.conflict d with
  | some k =>
    match s.db.available t k, s.db.view t k with
    | true, some row =>
      { s with db := s.db.write t k (d.again row) }.enter t
        (.closing (d.again row) (d.event existing (d.again row)))
    -- It waits for whoever has locked the row.
    | _, _ => s
  | none =>
    match s.db.available t d.findingId, s.db.view t d.findingId with
    | true, none =>
      { s with db := s.db.stage t d.findingId d.first }.enter t
        (.closing d.first (d.event existing d.first))
    -- The identifier is in use: the statement violates the primary key.
    | true, some _ => s.rollback t
    | false, _ => s

/-- `UPDATE findings SET status = … WHERE finding_id = … AND organization_id = …`, and the event. -/
def setStatus (s : FindingDesk T) (t : T) (c : Triage) (currentStatus : FindingStatus) :
    FindingDesk T :=
  let seen := (s.db.view t c.findingId).filter (·.organizationId = c.organizationId)
  match s.db.available t c.findingId, seen with
  | true, some row =>
    { s with db := s.db.write t c.findingId { row with status := c.newStatus } }.enter t
      (.closing { row with status := c.newStatus } (some (c.event currentStatus)))
  -- No row is returned, and `_record_from_row(None)` raises.
  | true, none => s.rollback t
  | false, _ => s

/-- The checks of `update_status`: nothing is left to do where the finding has the status. -/
def openUpdate (s : FindingDesk T) (t : T) (c : Triage) :
    Except FindingStoreError FindingSession := do
  match (s.db.view t c.findingId).filter (·.organizationId = c.organizationId) with
  | none => .error ⟨"finding_not_found", "Finding was not found."⟩
  | some row =>
    if c.newStatus = row.status then return .idle
    assertValidTransition row.status c.newStatus
    return .triaging c row.status

/-- One statement that writes, or the commit. -/
def turn (s : FindingDesk T) (t : T) : FindingDesk T :=
  match s.session t with
  | .idle => s
  | .detecting d existing => s.upsert t d existing
  | .triaging c currentStatus => s.setStatus t c currentStatus
  | .closing _ event =>
    { s with db := s.db.commit t, events := s.events ++ event.toList }.enter t .idle

def step (s : FindingDesk T) : FindingInput T → FindingDesk T
  | .record t d =>
    match s.session t with
    | .idle => s.enter t (.detecting d (s.existing t d))
    | _ => s
  | .update t c =>
    match s.session t, s.openUpdate t c with
    | .idle, .ok session => s.enter t session
    | _, _ => s
  | .turn t => s.turn t
  | .abort t => s.rollback t

/-- The desk after a list of inputs. -/
abbrev run (s : FindingDesk T) (inputs : List (FindingInput T)) : FindingDesk T :=
  Runs.run step s inputs

/-- `list_events_scoped`, by a transaction of its own. -/
def listEventsScoped (s : FindingDesk T) (findingId organizationId : String) :
    Except FindingStoreError (List FindingEventRecord) :=
  match (s.db.committed findingId).filter (·.organizationId = organizationId) with
  | none => .error ⟨"finding_not_found", "Finding was not found."⟩
  | some _ =>
    .ok ((s.events.filter (·.findingId = findingId)).insertionSort fun a b =>
      a.createdAt ≤ b.createdAt)

end FindingDesk

end WebGuard
