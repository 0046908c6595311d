import WebGuard.Lib.Mvcc
import WebGuard.Lib.Run
import WebGuard.Store.Terminal

/-!
# The PostgreSQL job functions

`claim_next_job`, `renew_lease`, `recover_expired_leases` and `terminal_transition` of
`tenant_isolation_control_functions.sql` with the methods of `PostgresJobRepository` that call
them, and `request_cancellation`. They write the same columns as the SQLite store, so the `SET`
clauses are those of `WebGuard.Store`.

What differs is the isolation. Every function runs at READ COMMITTED, statement by statement, and
other transactions run between its statements. A session is therefore a small machine, which
stands between two statements (`Session`), and the cluster runs the sessions in any order. A
claim is finer still: `FOR UPDATE SKIP LOCKED` tries the rows of its snapshot one after another,
and each try is a step.

The tables that the functions only read are one value each, replaced by whoever administers
them. Of the tables written, `scan_jobs` is modelled; a permit binding is part of its job, since
the two are inserted by one transaction and the binding is never changed.
-/

namespace WebGuard

open Mvcc

/-! ## Rows and snapshots -/

/-- A row of `scan_jobs` with its tenant and its row of `job_permits`. -/
structure PgJob where
  row : JobRow
  organizationId : Option String := none
  /-- `permit_id` and `permit_sha256`. -/
  binding : Option (String × String) := none
  deriving DecidableEq

def PgJob.permitId (job : PgJob) : Option String := job.binding.map Prod.fst

/-- What a statement reads: the committed tables, under the session's own versions. -/
structure Snapshot where
  keys : List String
  jobs : String → Option PgJob
  permits : List PermitRow
  assignments : List (String × String)

namespace Snapshot

/-- The subquery of `NOT EXISTS`: a running job bound to the permit. -/
def permitRunning (q : Snapshot) (permitId : String) : Bool :=
  q.keys.any fun k =>
    (q.jobs k).any fun job => job.row.state == .running && job.permitId == some permitId

/-- The `WHERE` clause of the claim, on a version of the row and the rest of the snapshot. -/
def claimable (q : Snapshot) (now : Nat) (job : PgJob) : Bool :=
  job.row.state == .queued && !job.row.cancellationRequested
    && job.organizationId.all (fun organization =>
      q.assignments.contains (organization, job.row.authorizationId))
    && job.binding.all (fun binding =>
      (q.permits.any fun p =>
        p.permitId == binding.1 && p.permitSha256 == binding.2 && p.revokedAt.isNone
          && p.notBefore ≤ now && now < p.expiresAt)
        && !q.permitRunning binding.1)

/-- The rows of the snapshot that a condition holds of, in the order of a column and the key. -/
def select (q : Snapshot) (condition : PgJob → Bool) (column : JobRow → Nat) : List String :=
  (q.keys.filter fun k => (q.jobs k).any condition).insertionSort fun a b =>
    toLex ((q.jobs a).elim 0 (fun job => column job.row), a)
      ≤ toLex ((q.jobs b).elim 0 (fun job => column job.row), b)

end Snapshot

/-! ## Sessions -/

structure ClaimArguments where
  now : Nat
  workerId : String
  leaseSeconds : Nat
  leaseToken : String

/-- A terminal transition; its callers ask for terminal states only. -/
structure PgTerminalWrite extends TerminalWrite where
  terminal : toTerminalWrite.state.isTerminal = true

/-- An `UPDATE` of one row that starts no job. -/
structure RowUpdate where
  key : String
  guard : JobRow → Bool
  set : JobRow → JobRow
  startsNone : ∀ row, (set row).state = .running → row.state = .running

/-- The statement on the table; tenant and binding stay. -/
def RowUpdate.statement (u : RowUpdate) : Update String PgJob where
  key := u.key
  guard := fun job => u.guard job.row
  set := fun job => { job with row := u.set job.row }

/-- Where a session stands. -/
inductive Session where
  | idle
  /-- Inside the claim's `SELECT`, with the rows it has yet to try. -/
  | selecting (claim : ClaimArguments) (snapshot : Snapshot) (rest : List String)
  /-- The row is locked; the claim's `UPDATE` comes next. -/
  | locked (claim : ClaimArguments) (jobId : String) (revision submittedAt : Nat)
  | claimed (jobId : String)
  /-- The row was read and the checks have passed; the `UPDATE` comes next. -/
  | updating (statement : RowUpdate)
  /-- Inside the loop of a recovery, with the rows it has yet to try. -/
  | recovering (now limit : Nat) (rest : List String)
  | finished

structure Cluster (T : Type) where
  db : Database String PgJob T
  permits : List PermitRow
  assignments : List (String × String)
  session : T → Session

namespace Cluster

variable {T : Type} [DecidableEq T]

def empty : Cluster T where
  db := Database.empty
  permits := []
  assignments := []
  session := fun _ => .idle

def enter (s : Cluster T) (t : T) (next : Session) : Cluster T :=
  { s with session := fun t' => if t' = t then next else s.session t' }

@[simp] theorem session_enter_self (s : Cluster T) (t : T) (next : Session) :
    (s.enter t next).session t = next := by
  simp [enter]

theorem session_enter_other {s : Cluster T} {t t' : T} (h : t' ≠ t) (next : Session) :
    (s.enter t next).session t' = s.session t' := by
  simp [enter, h]

def snapshot (s : Cluster T) (t : T) : Snapshot where
  keys := s.db.keys
  jobs := s.db.view t
  permits := s.permits
  assignments := s.assignments

/-! ## Statements -/

/--
One row of `FOR UPDATE OF jobs SKIP LOCKED`.

A row that another session holds is skipped. One that changed since the snapshot is looked at
again: the row itself as it is now, everything else as the snapshot has it.
-/
def tryLock (s : Cluster T) (t : T) (claim : ClaimArguments) (q : Snapshot) (jobId : String)
    (rest : List String) : Cluster T :=
  if s.db.available t jobId then
    match s.db.view t jobId with
    | some job =>
      if q.claimable claim.now job then
        { s with db := s.db.acquire t jobId }.enter t
          (.locked claim jobId job.row.revision job.row.submittedAt)
      else s.enter t (.selecting claim q rest)
    | none => s.enter t (.selecting claim q rest)
  else s.enter t (.selecting claim q rest)

/-- The `UPDATE` of `claim_next_job`. -/
def claimStatement (claim : ClaimArguments) (jobId : String) (revision submittedAt : Nat) :
    Update String PgJob :=
  let moment := noEarlierThan claim.now submittedAt
  { key := jobId
    guard := fun job => job.row.state == .queued && job.row.revision == revision
    set := fun job => { job with
      row := job.row.claimLeased moment (revision + 1) claim.workerId claim.leaseToken
        (moment + claim.leaseSeconds) } }

/-- The `UPDATE` of the recovery loop, on a row that its `SELECT` has locked. -/
def recoverStatement (now limit : Nat) (jobId : String) : RowUpdate where
  key := jobId
  guard := fun row => row.leaseExpired now && row.leaseToken.isSome
  set := fun row => row.recovered now limit
  startsNone := by
    intro row h
    unfold JobRow.recovered at h
    split at h
    · split at h
      · cases h
      · split at h <;> cases h
    · exact h

def renewStatement (jobId : String) (row : JobRow) (workerId leaseToken : String)
    (now leaseSeconds : Nat) : RowUpdate where
  key := jobId
  guard := fun r => r.state == .running && r.revision == row.revision
    && r.workerId == some workerId && r.leaseToken == some leaseToken
  set := fun r =>
    let moment := noEarlierThan now row.submittedAt
    r.renew moment (moment + leaseSeconds) (row.revision + 1)
  startsNone := fun _ h => h

def terminalStatement (jobId : String) (row : JobRow) (w : PgTerminalWrite)
    (workerId : Option String) (now : Nat) : RowUpdate where
  key := jobId
  guard := fun r => r.state == .running && r.revision == row.revision
    && (workerId.isNone || (r.workerId == workerId && r.leaseToken == w.leaseToken))
  set := fun r =>
    r.terminate w.toTerminalWrite (noEarlierThan now (row.startedAt.getD row.submittedAt))
      (row.revision + 1)
  startsNone := by
    intro r h
    have hstate : w.toTerminalWrite.state = .running := h
    have hterminal := w.terminal
    rw [hstate] at hterminal
    cases hterminal

/-- `request_cancellation` guards its two updates by the revision alone, and floors nothing. -/
def cancelStatement (jobId : String) (row : JobRow) (now : Nat) : RowUpdate :=
  if row.state = .queued then
    { key := jobId
      guard := fun r => r.revision == row.revision
      set := fun r => r.cancelQueued now (r.revision + 1)
      startsNone := fun _ h => by cases h }
  else
    { key := jobId
      guard := fun r => r.revision == row.revision
      set := fun r => r.flagCancellation now (r.revision + 1)
      startsNone := fun _ h => h }

/-- The arguments of a terminal transition, checked by the method and again by the function. -/
def terminalArguments (w : TerminalWrite) : Answer (Option String) := do
  ensure (w.safetyReceiptRef.isSome == w.safetyReceiptSha256.isSome)
    (.jobStore "trustscan_safety_receipt_metadata_invalid"
      "Safety receipt reference and digest must be supplied together.")
  ensure (w.workerId.isSome == w.leaseToken.isSome)
    (.jobStore "job_lease_credentials_invalid"
      "worker_id and lease_token must be supplied together.")
  let workerId ← w.workerId.mapM checkWorkerId
  ensure (w.safetyReceiptRef.all fun ref => !ref.toList.isEmpty && ref.toList.head? != some '/'
      && (ref.toList.splitOn '/').all (· != ['.', '.']))
    (.jobStore "trustscan_safety_receipt_reference_invalid"
      "Safety receipt reference must be a safe relative path.")
  ensure (w.safetyReceiptSha256.all isSha256)
    (.jobStore "trustscan_safety_receipt_digest_invalid"
      "Safety receipt digest must be a lower-case SHA-256 value.")
  return workerId

/-- What a session does after its first `SELECT` of a row: its `UPDATE`, or nothing more. -/
def afterRead (s : Cluster T) (t : T) (jobId : String) (plan : JobRow → Answer (Option RowUpdate)) :
    Cluster T :=
  match s.db.view t jobId with
  | none => s.enter t .finished
  | some job =>
    match plan job.row with
    | .ok (some statement) => s.enter t (.updating statement)
    | _ => s.enter t .finished

/-- The loop of a recovery at one row: locked unless another holds it, looked at again, updated. -/
def recoverNext (s : Cluster T) (t : T) (now limit : Nat) (jobId : String) (rest : List String) :
    Cluster T :=
  if s.db.available t jobId
      && (s.db.view t jobId).any (fun job => job.row.leaseExpired now) then
    { s with
      db := ((s.db.acquire t jobId).update t (recoverStatement now limit jobId).statement).1 }.enter
        t (.recovering now limit rest)
  else s.enter t (.recovering now limit rest)

/-- The next statement of a session, or the next row of the statement it is in. -/
def advance (s : Cluster T) (t : T) : Cluster T :=
  match s.session t with
  | .selecting _ _ [] => s.enter t .finished
  | .selecting claim q (jobId :: rest) => s.tryLock t claim q jobId rest
  | .locked claim jobId revision submittedAt =>
    let updated := s.db.update t (claimStatement claim jobId revision submittedAt)
    { s with db := updated.1 }.enter t (if updated.2 then .claimed jobId else .finished)
  | .updating statement =>
    -- An `UPDATE` waits for the lock.
    if s.db.available t statement.key then
      { s with db := (s.db.update t statement.statement).1 }.enter t .finished
    else s
  | .recovering _ _ [] => s.enter t .finished
  | .recovering now limit (jobId :: rest) => s.recoverNext t now limit jobId rest
  | _ => s

end Cluster

/-! ## The cluster -/

/-- `DEFAULT_LEASE_SECONDS`, in microseconds. -/
def defaultLeaseSeconds : Nat := 30 * second

def defaultMaximumAttempts : Nat := 3

section

variable [Primitives]

/-- One step of one session, or of somebody outside. -/
inductive PgInput (T : Type) where
  /-- A submission or an enqueue is committed. -/
  | insert (job : PgJob)
  /-- Permits and assignments are changed by their own services. -/
  | administer (permits : List PermitRow) (assignments : List (String × String))
  | claimNextLeased (t : T) (now : Nat) (workerId : String) (leaseSeconds : Nat)
      (leaseToken : String)
  | renewLease (t : T) (jobId workerId leaseToken : String) (now leaseSeconds : Nat)
  | recoverExpiredLeases (t : T) (now maximumAttempts : Nat)
  | terminalUpdate (t : T) (jobId : String) (write : PgTerminalWrite) (now : Nat)
  | requestCancellation (t : T) (jobId : String) (now : Nat)
  | advance (t : T)
  | commit (t : T)
  | abort (t : T)

namespace Cluster

variable {T : Type} [DecidableEq T]

/-- A session that is idle begins with its first statement; an argument error begins nothing. -/
def begin (s : Cluster T) : PgInput T → Cluster T
  | .claimNextLeased t now workerId leaseSeconds leaseToken =>
    match checkWorkerId workerId with
    | .error _ => s
    | .ok worker =>
      let q := s.snapshot t
      s.enter t (.selecting
        { now, workerId := worker, leaseToken
          leaseSeconds := if leaseSeconds = 0 then defaultLeaseSeconds else leaseSeconds }
        q (q.select (q.claimable now) JobRow.submittedAt))
  | .renewLease t jobId workerId leaseToken now leaseSeconds =>
    match checkWorkerId workerId with
    | .error _ => s
    | .ok worker =>
      s.afterRead t jobId fun row => do
        requireActiveLease row worker leaseToken now
        return some (renewStatement jobId row worker leaseToken now
          (if leaseSeconds = 0 then defaultLeaseSeconds else leaseSeconds))
  | .recoverExpiredLeases t now maximumAttempts =>
    let q := s.snapshot t
    s.enter t (.recovering now
      (if maximumAttempts = 0 then defaultMaximumAttempts else maximumAttempts)
      (q.select (fun job => job.row.leaseExpired now) (fun row => row.leaseExpiresAt.getD 0)))
  | .terminalUpdate t jobId write now =>
    match terminalArguments write.toTerminalWrite with
    | .error _ => s
    | .ok workerId =>
      s.afterRead t jobId fun row => do
        ensure (row.state == .running)
          (.jobStore "job_state_transition_invalid"
            "Only running jobs can enter a terminal worker state.")
        requireTerminalLease row workerId write.leaseToken now
        return some (terminalStatement jobId row write workerId now)
  | .requestCancellation t jobId now =>
    s.afterRead t jobId fun row => do
      let record ← recordFromRow row
      return if record.state.isTerminal then none else some (cancelStatement jobId row now)
  | _ => s

/-- The session that an input belongs to. -/
def owner : PgInput T → Option T
  | .claimNextLeased t _ _ _ _ => some t
  | .renewLease t _ _ _ _ _ => some t
  | .recoverExpiredLeases t _ _ => some t
  | .terminalUpdate t _ _ _ => some t
  | .requestCancellation t _ _ => some t
  | _ => none

def step (s : Cluster T) : PgInput T → Cluster T
  | .insert job =>
    if job.row.state = .queued then { s with db := s.db.insert job.row.jobId job } else s
  | .administer permits assignments => { s with permits := permits, assignments := assignments }
  | .advance t => s.advance t
  | .commit t =>
    match s.session t with
    | .claimed _ => { s with db := s.db.commit t }.enter t .idle
    | .finished => { s with db := s.db.commit t }.enter t .idle
    | _ => s
  | .abort t => { s with db := s.db.abort t }.enter t .idle
  | input =>
    match (owner input).map s.session with
    | some .idle => s.begin input
    | _ => s

theorem step_of_owner {s : Cluster T} {t : T} {input : PgInput T} (howner : owner input = some t) :
    s.step input = s ∨ (s.session t = .idle ∧ s.step input = s.begin input) := by
  have hstep : s.step input =
      match (owner input).map s.session with
      | some .idle => s.begin input
      | _ => s := by
    cases input <;> first | rfl | cases howner
  rw [hstep, howner, Option.map_some]
  cases hsession : s.session t with
  | idle => exact Or.inr ⟨rfl, rfl⟩
  | _ => exact Or.inl rfl

/-- The cluster after a list of inputs. -/
abbrev run (s : Cluster T) (inputs : List (PgInput T)) : Cluster T := Runs.run step s inputs

end Cluster

end

end WebGuard
