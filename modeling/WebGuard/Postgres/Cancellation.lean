import WebGuard.Postgres.Jobs

/-!
# Requests for a cancellation, from call to return

`request_cancellation` of `PostgresJobRepository` as its caller sees it. The statements are those
of `WebGuard.Postgres.Jobs`: a `SELECT`, a compare-and-set `UPDATE` on the revision, a second
`SELECT`. What is added here is which session serves which request, the row that the method will
decode, and whether it has returned.

The row count of the `UPDATE` is not looked at, so the method goes on to its second `SELECT`
whether or not it wrote. The row of that `SELECT` is decoded after the commit; a row that is
already terminal is decoded and returned at once.
-/

namespace WebGuard

open Mvcc

/-- A request that a session is serving. -/
structure CancellationRequest where
  jobId : String
  /-- The row to be decoded, once the method has it. -/
  answer : Option JobRow := none

/-- The cluster, with the cancellation requests under way. -/
structure CancellationDesk (T : Type) where
  cluster : Cluster T
  request : T → Option CancellationRequest
  /-- The jobs whose cancellation was requested by a call that returned without an error. -/
  returned : List String

/-- A statement of the cluster, or the second `SELECT` of a request. -/
inductive CancellationInput (T : Type) where
  | statement (input : PgInput T)
  | reread (t : T)

namespace CancellationDesk

variable {T : Type} [DecidableEq T]

def empty : CancellationDesk T where
  cluster := Cluster.empty
  request := fun _ => none
  returned := []

def serve (s : CancellationDesk T) (t : T) (request : Option CancellationRequest) :
    CancellationDesk T :=
  { s with request := fun t' => if t' = t then request else s.request t' }

/-- The second `SELECT`, after the `UPDATE`. -/
def reread (s : CancellationDesk T) (t : T) : CancellationDesk T :=
  match s.request t, s.cluster.session t with
  | some ⟨jobId, none⟩, .finished =>
    s.serve t (some ⟨jobId, (s.cluster.db.view t jobId).map PgJob.row⟩)
  | _, _ => s

section

variable [Primitives]

/--
The request that a first `SELECT` leaves: none, where the row is missing or does not decode; one
that has its answer, where the job is terminal; else one whose `UPDATE` comes next.
-/
def opened (s : CancellationDesk T) (t : T) (jobId : String) : Option CancellationRequest :=
  match s.cluster.db.view t jobId with
  | none => none
  | some job =>
    match recordFromRow job.row with
    | .error _ => none
    | .ok record =>
      some { jobId, answer := if record.state.isTerminal then some job.row else none }

/-- The end of the `with` block; the method returns if the row it holds decodes. -/
def commit (s : CancellationDesk T) (t : T) : CancellationDesk T :=
  match s.request t with
  | none => { s with cluster := s.cluster.step (.commit t) }
  | some ⟨_, none⟩ => s
  | some ⟨jobId, some row⟩ =>
    { cluster := s.cluster.step (.commit t)
      request := (s.serve t none).request
      returned := if (recordFromRow row).isOk then jobId :: s.returned else s.returned }

def step (s : CancellationDesk T) : CancellationInput T → CancellationDesk T
  | .reread t => s.reread t
  | .statement (.commit t) => s.commit t
  | .statement (.abort t) => { s with cluster := s.cluster.step (.abort t) }.serve t none
  | .statement (.requestCancellation t jobId now) =>
    match s.cluster.session t with
    | .idle =>
      { s with cluster := s.cluster.step (.requestCancellation t jobId now) }.serve t
        (s.opened t jobId)
    | _ => s
  | .statement input => { s with cluster := s.cluster.step input }

/-- The desk after a list of inputs. -/
abbrev run (s : CancellationDesk T) (inputs : List (CancellationInput T)) : CancellationDesk T :=
  Runs.run step s inputs

end

end CancellationDesk

end WebGuard
