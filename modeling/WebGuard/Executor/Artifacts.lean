import WebGuard.Lib.Interrupt
import WebGuard.Postgres.ScanRecords
import Mathlib.Data.List.Infix

/-!
# The artifacts of a job

What `ScanJobExecutor.execute` writes: the files below the artifact directory, the report in
object storage where that is configured, and the rows of the scan, finding and coverage
repositories. Every operation is a program of single writes, so that a worker can die after each
of them.

A path is its list of names below the artifact directory, which is `[]` itself. The names are
what the executor uses, not what the kernel resolves them to: a link is known by whether it leads
below the artifact directory and whether it leads to a directory. Permission bits, `fsync` and the
failures of a disk are not modelled.
-/

namespace WebGuard

open Interrupt Program

/-! ## The disk -/

abbrev ArtifactPath := List String

/-- What `lstat` sees. -/
inductive Node where
  | directory
  | file (document : String)
  | link (inside leadsToDirectory : Bool)
  deriving DecidableEq

/-- `Path.is_dir`, which follows a link. -/
def Node.isDirectory : Node → Bool
  | .directory => true
  | .file _ => false
  | .link _ leadsToDirectory => leadsToDirectory

abbrev Disk := List (ArtifactPath × Node)

namespace Disk

def node (d : Disk) (path : ArtifactPath) : Option Node := d.lookup path

def put (d : Disk) (path : ArtifactPath) (n : Node) : Disk := (path, n) :: d

def unlink (d : Disk) (path : ArtifactPath) : Disk := d.filter (fun e => e.1 ≠ path)

/-- The names in a directory. -/
def names (d : Disk) (directory : ArtifactPath) : List String :=
  d.filterMap fun e => if e.1.dropLast = directory then e.1.getLast? else none

variable (d : Disk) (path other : ArtifactPath)

@[simp] theorem node_put (n : Node) :
    (d.put path n).node other = if other = path then some n else d.node other := by
  unfold node put
  rw [List.lookup_cons]
  by_cases h : other = path
  · simp [h]
  · rw [beq_false_of_ne h, if_neg h]

@[simp] theorem node_unlink :
    (d.unlink path).node other = if other = path then none else d.node other := by
  unfold node unlink
  induction d with
  | nil => simp
  | cons e d ih =>
    by_cases he : e.1 = path
    · rw [List.filter_cons_of_neg (by simpa using he), ih, List.lookup_cons]
      by_cases h : other = path
      · simp [h]
      · have hne : (other == e.1) = false := beq_false_of_ne (by rw [he]; exact h)
        simp only [h, if_false, hne]
    · rw [List.filter_cons_of_pos (by simpa using he), List.lookup_cons, List.lookup_cons, ih]
      by_cases h : other = path
      · subst h
        have hne : (other == e.1) = false := beq_false_of_ne (Ne.symm he)
        simp only [hne, if_true]
      · simp only [h, if_false]

end Disk

/-! ## The world the executor writes to -/

/-- A finding as the report has it; of the descriptive columns, those an update replaces. -/
structure Finding where
  fingerprint : String
  severity : String
  confidence : String
  evidence : Option String
  deriving DecidableEq

inductive FindingStatus where
  | open
  | confirmed
  | falsePositive
  | acceptedRisk
  | resolved
  | reopened
  deriving DecidableEq

/-- A row of `findings`, unique by organization and fingerprint. -/
structure FindingRow where
  organizationId : String
  finding : Finding
  scanId : String
  status : FindingStatus
  firstSeenAt : Nat
  lastSeenAt : Nat
  deriving DecidableEq

inductive CoverageStatus where
  | completed
  | blocked
  | unreachable
  deriving DecidableEq

/-- The columns that a coverage record is unique by, the constant ones left out. -/
structure CoverageKey where
  organizationId : String
  asset : String
  path : String
  checkId : String
  deriving DecidableEq

structure CoverageRow where
  key : CoverageKey
  status : CoverageStatus
  lastScanId : String
  firstObservedAt : Nat
  lastObservedAt : Nat
  deriving DecidableEq

structure World where
  disk : Disk
  /-- The objects of `ObjectStorageArtifactStore`, by key. -/
  objects : List (String × String) := []
  scans : List ScanRecordRow := []
  findings : List FindingRow := []
  coverage : List CoverageRow := []

/-- How `execute` fails. -/
inductive ExecutionError where
  /-- `JobExecutionError`. -/
  | job (code message : String) (receipt : ReceiptReference)
  /-- An `OSError` that nobody translates. -/
  | os
  /-- The primary key of `scan_records`. -/
  | uniqueViolation
  /-- `ScanStoreError`. -/
  | scanStore (code message : String)
  /-- Any other exception of the scanner or the signer. -/
  | raised (exception : String)
  deriving DecidableEq

/-- `JobExecutionError(code, message)`. -/
def jobError (code message : String) : ExecutionError := .job code message {}

abbrev Job := Program World ExecutionError

namespace World

def onDisk (f : Disk → Disk) (w : World) : World := { w with disk := f w.disk }

@[simp] theorem onDisk_disk (f : Disk → Disk) (w : World) : (w.onDisk f).disk = f w.disk := rfl

end World

/-! ## Directories -/

/--
`Path.mkdir(parents=True, exist_ok=True)`.

What is missing of the path is made from the top, one directory after another; what is there has
to be a directory.
-/
def mkdirFrom (failure : ExecutionError) : List ArtifactPath → Job Unit
  | [] => pure ()
  | path :: rest => do
    let w ← get
    match w.disk.node path with
    | none =>
      modify (World.onDisk (·.put path .directory))
      mkdirFrom failure rest
    | some n => if n.isDirectory then mkdirFrom failure rest else raise failure

theorem mkdirFrom_cons (failure : ExecutionError) (path : ArtifactPath)
    (rest : List ArtifactPath) :
    mkdirFrom failure (path :: rest) = .read fun w =>
      match w.disk.node path with
      | none => .write (World.onDisk (·.put path .directory)) (mkdirFrom failure rest)
      | some n => if n.isDirectory then mkdirFrom failure rest else raise failure := rfl

def mkdir (path : ArtifactPath) (failure : ExecutionError) : Job Unit :=
  mkdirFrom failure path.inits

def asPosix (path : ArtifactPath) : String := "/".intercalate path

/-- The executor, as far as its constructor decides where things are written. -/
structure ArtifactSettings where
  /-- `str(artifact_directory)`. -/
  artifactDirectory : String
  /-- The artifact store is an `ObjectStorageArtifactStore`, not a `LocalArtifactStore`. -/
  objectStorage : Bool
  /-- The random part of the name that `tempfile.mkstemp` finds, given the names in use. -/
  mkstemp : String → String → List String → String
  mkstemp_fresh : ∀ start finish taken, start ++ mkstemp start finish taken ++ finish ∉ taken

namespace ArtifactSettings

variable (e : ArtifactSettings)

def text (path : ArtifactPath) : String :=
  if path = [] then e.artifactDirectory else e.artifactDirectory ++ "/" ++ asPosix path

def preparePrivateDirectory (path : ArtifactPath) : Job Unit := do
  mkdir path (jobError "artifact_directory_create_failed"
    ("Unable to create private artifact directory " ++ e.text path ++ "."))
  let w ← get
  match w.disk.node path with
  | some .directory => pure ()
  | some _ =>
    raise (jobError "artifact_directory_invalid"
      "Artifact directories must be real directories, not links.")
  | none =>
    raise (jobError "artifact_directory_inspection_failed"
      ("Unable to inspect artifact directory " ++ e.text path ++ "."))

/-! ## Documents -/

def ownedTargetFileExists : ExecutionError :=
  jobError "owned_target_file_exists" "Owned-target destination already exists."

/-- A temporary file gets the document, is linked to the destination, and loses its own name. -/
def linkDocument (temporary path : ArtifactPath) (document : String) : Job Unit := do
  modify (World.onDisk (·.put temporary (.file "")))
  modify (World.onDisk (·.put temporary (.file (document ++ "\n"))))
  let w ← get
  match w.disk.node path with
  | some _ =>
    -- `FileExistsError`, after which the temporary file is removed all the same.
    modify (World.onDisk (·.unlink temporary))
    raise ownedTargetFileExists
  | none =>
    modify (World.onDisk (·.put path (.file (document ++ "\n"))))
    modify (World.onDisk (·.unlink temporary))

theorem linkDocument_eq (temporary path : ArtifactPath) (document : String) :
    linkDocument temporary path document =
      .write (World.onDisk (·.put temporary (.file "")))
        (.write (World.onDisk (·.put temporary (.file (document ++ "\n")))) (.read fun w =>
          match w.disk.node path with
          | some _ =>
            .write (World.onDisk (·.unlink temporary)) (raise ownedTargetFileExists)
          | none =>
            .write (World.onDisk (·.put path (.file (document ++ "\n"))))
              (.write (World.onDisk (·.unlink temporary)) (.ret ())))) := rfl

/-- The name that `tempfile.mkstemp` finds beside a document. -/
def temporaryName (d : Disk) (directory : ArtifactPath) (name : String) : String :=
  let start := "." ++ name ++ "."
  start ++ e.mkstemp start ".tmp" (d.names directory) ++ ".tmp"

/--
`_write_owned_target_document` with `overwrite=False`, in the words of the `JobExecutionError` that
`execute` makes of its errors.
-/
def writeOwnedTargetDocument (directory : ArtifactPath) (name document : String) : Job Unit := do
  let w ← get
  match w.disk.node (directory ++ [name]) with
  | some (.link _ _) =>
    raise (jobError "owned_target_symlink_not_allowed"
      "Owned-target destination cannot be a symbolic link.")
  | some .directory =>
    raise (jobError "owned_target_not_regular_file"
      "Owned-target destination must be a regular file.")
  | some (.file _) => raise ownedTargetFileExists
  | none =>
    mkdir directory (jobError "owned_target_directory_create_failed"
      "Unable to create owned-target destination directory.")
    let w ← get
    linkDocument (directory ++ [e.temporaryName w.disk directory name]) (directory ++ [name])
      document

/-- A signed safety receipt, as far as it is stored. -/
structure SignedReceipt where
  /-- `to_json()`. -/
  document : String
  fingerprint : String

/-- `_write_signed_safety_receipt`: created exclusively, then written. -/
def writeSignedSafetyReceipt (receipt : SignedReceipt) (path : ArtifactPath) : Job String := do
  let w ← get
  match w.disk.node path with
  | some _ =>
    raise (jobError "artifact_path_exists" "A service job artifact path already exists.")
  | none =>
    modify (World.onDisk (·.put path (.file "")))
    modify (World.onDisk (·.put path (.file (receipt.document ++ "\n"))))
    return receipt.fingerprint

def artifactReferenceInvalid (message : String) : ExecutionError :=
  jobError "artifact_reference_invalid" message

/-- The reference, once its links are followed, is outside the artifact directory. -/
def escapes (d : Disk) (path : ArtifactPath) : Bool :=
  path.inits.tail.any fun p => d.node p matches some (.link false _)

/--
`LocalArtifactStore.put`: what is there is truncated and written again.

A link below the artifact directory is followed; the file it leads to has another name, so the
table of names stays as it is.
-/
def putLocal (path : ArtifactPath) (document : String) : Job Unit := do
  let w ← get
  if escapes w.disk path then
    raise (artifactReferenceInvalid "Artifact reference escapes the artifact root.")
  else
    mkdir path.dropLast .os
    let w ← get
    match w.disk.node path with
    | some .directory => raise .os
    | some (.link _ true) => raise .os
    | some (.link _ false) => pure ()
    | _ =>
      modify (World.onDisk (·.put path (.file "")))
      modify (World.onDisk (·.put path (.file document)))

/-- `ObjectStorageArtifactStore.put`. -/
def putObject (path : ArtifactPath) (document : String) : Job Unit :=
  modify fun w => { w with objects := (asPosix path, document) :: w.objects }

/-- `artifact_store.put`, after `_reject_unsafe_reference`. -/
def putArtifact (path : ArtifactPath) (document : String) : Job Unit :=
  if path.contains ".." then
    raise (artifactReferenceInvalid "Artifact reference must be a safe, relative path.")
  else if e.objectStorage then putObject path document
  else putLocal path document

end ArtifactSettings

/-! ## Records -/

def createScan (row : ScanRecordRow) : Job Unit := do
  let w ← get
  if w.scans.any (·.scanId == row.scanId) then raise .uniqueViolation
  else modify fun w => { w with scans := row :: w.scans }

def completeScan (c : CompleteScan) : Job Unit := do
  let w ← get
  let mine := fun r : ScanRecordRow => r.scanId == c.scanId && r.organizationId == c.organizationId
  if w.scans.any mine then
    modify fun w => { w with scans := w.scans.map fun r => if mine r then r.complete c else r }
  else raise (.scanStore "scan_not_found" "Scan record was not found.")

/-- `record_finding` on a row that is there: resolved findings are reopened. -/
def FindingRow.seenAgain (r : FindingRow) (f : Finding) (scanId : String) (now : Nat) :
    FindingRow :=
  { r with
    finding := f, scanId := scanId, lastSeenAt := now
    status := if r.status = .resolved then .reopened else r.status }

def recordFinding (organizationId scanId : String) (f : Finding) (now : Nat) : Job Unit :=
  modify fun w =>
    let same := fun r : FindingRow =>
      r.organizationId == organizationId && r.finding.fingerprint == f.fingerprint
    { w with
      findings :=
        if w.findings.any same then
          w.findings.map fun r => if same r then r.seenAgain f scanId now else r
        else
          { organizationId, finding := f, scanId, status := .open,
            firstSeenAt := now, lastSeenAt := now } :: w.findings }

def recordCoverage (key : CoverageKey) (status : CoverageStatus) (scanId : String) (now : Nat) :
    Job Unit :=
  modify fun w =>
    { w with
      coverage :=
        if w.coverage.any (·.key == key) then
          w.coverage.map fun r =>
            if r.key == key then { r with status, lastScanId := scanId, lastObservedAt := now }
            else r
        else
          { key, status, lastScanId := scanId, firstObservedAt := now, lastObservedAt := now } ::
            w.coverage }

end WebGuard
