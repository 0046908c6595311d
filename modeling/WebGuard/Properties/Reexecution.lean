import WebGuard.Executor.Leftovers
import WebGuard.Store.Operations
import Mathlib.Algebra.Order.BigOperators.Group.List
import Mathlib.Algebra.Order.Group.Nat

/-!
# Executing a job again

A worker may die at any point of `execute`; recovery puts the job back in the queue, and another
attempt executes it. The attempts before it have left the world after some number of their writes.

Up to the audit document an attempt makes directories, a temporary file and a scan record of its
own, none of which the next attempt minds. The document itself is never overwritten. (The report,
which is stored later, is.)
-/

namespace WebGuard

open Interrupt Program ArtifactSettings ExecutionContext List

/-! ## Worlds with an audit document -/

/-- The directories of a job, as `_prepare_private_directory` leaves them. -/
structure Prepared (D : ArtifactPath) (w : World) : Prop where
  way : ∀ path, path <+: D → ∃ n, w.disk.node path = some n ∧ n.isDirectory = true
  root : w.disk.node [] = some .directory
  directory : w.disk.node D = some .directory

/-- The audit document lies there, and no record has the identifier. -/
structure Taken (D : ArtifactPath) (id : String) (w : World) : Prop extends Prepared D w where
  audit : ∃ document, w.disk.node (D ++ [auditName]) = some (.file document)
  scans : ∀ r ∈ w.scans, r.scanId ≠ id

variable {path : ArtifactPath} {paths : List ArtifactPath}

section

variable {D : ArtifactPath} {id : String}

theorem Prepared.congr {w w' : World} (h : Prepared D w)
    (hsame : ∀ path, path <+: D → w'.disk.node path = w.disk.node path) : Prepared D w' where
  way := by
    intro path hpath
    rw [hsame path hpath]
    exact h.way path hpath
  root := (hsame [] nil_prefix).trans h.root
  directory := (hsame D (prefix_refl D)).trans h.directory

theorem node_put_document (hpath : path <+: D) (d : Disk) (name : String) (n : Node) :
    (d.put (D ++ [name]) n).node path = d.node path := by
  have hne : path ≠ D ++ [name] := by
    rintro rfl
    exact not_append_prefix D name hpath
  rw [Disk.node_put, if_neg hne]

namespace Taken

variable {w : World}

theorem put (h : Taken D id w) {name : String} (hname : name ≠ auditName) (n : Node) :
    Taken D id (w.onDisk (·.put (D ++ [name]) n)) where
  toPrepared := h.congr fun _ hpath => node_put_document hpath _ _ _
  audit := by
    have hne : D ++ [auditName] ≠ D ++ [name] := by simpa using hname.symm
    simpa [hne] using h.audit
  scans := h.scans

theorem make (h : Taken D id w) (hpath : path <+: D) :
    Taken D id (w.onDisk (·.put path .directory)) where
  way := by
    intro other hother
    simp only [World.onDisk_disk, Disk.node_put]
    split
    · exact ⟨.directory, rfl, rfl⟩
    · exact h.way other hother
  root := by
    simp only [World.onDisk_disk, Disk.node_put]
    split
    · rfl
    · exact h.root
  directory := by
    simp only [World.onDisk_disk, Disk.node_put]
    split
    · rfl
    · exact h.directory
  audit := by simpa only [World.onDisk_disk, node_make_document hpath] using h.audit
  scans := h.scans

end Taken

end

/-! ## After the audit document -/

/-- What `execute` raises after its audit document is not that the document exists. -/
def NotFileExists (error : ExecutionError) : Prop := error ≠ ownedTargetFileExists

theorem notFileExists_jobError {code message : String} (h : code ≠ "owned_target_file_exists") :
    NotFileExists (jobError code message) := by
  intro heq
  have hcode : code = "owned_target_file_exists" := by
    unfold ownedTargetFileExists jobError at heq
    injection heq
  exact h hcode

section

variable {D : ArtifactPath} {id : String} {G : (World → World) → Prop}

theorem each_mkdirFrom {E : ExecutionError → Prop} {failure : ExecutionError}
    (hG : ∀ path ∈ paths, G (World.onDisk (·.put path .directory))) (hE : E failure) :
    Each G E (mkdirFrom failure paths) := by
  induction paths with
  | nil => trivial
  | cons path rest ih =>
    have hrest := ih fun p hp => hG p (by simp [hp])
    rw [mkdirFrom_cons]
    intro w
    dsimp only
    cases w.disk.node path with
    | none => exact ⟨hG path (by simp), hrest⟩
    | some n =>
      by_cases hn : n.isDirectory
      · simpa only [hn, if_true] using hrest
      · simp only [hn, Bool.false_eq_true, if_false]
        exact hE

/-- A write that leaves the audit document where it is. -/
abbrev KeepsTaken (D : ArtifactPath) (id : String) (f : World → World) : Prop :=
  ∀ w, Taken D id w → Taken D id (f w)

mutual

theorem each_putArtifact (e : ArtifactSettings) (document : String) :
    Each (KeepsTaken D id) NotFileExists (e.putArtifact (D ++ [reportName]) document) := by
  have hinvalid : ∀ message, NotFileExists (artifactReferenceInvalid message) :=
    fun message => notFileExists_jobError (by decide)
  unfold putArtifact
  split
  · exact hinvalid _
  split
  · exact ⟨fun w h => { h with }, trivial⟩
  · intro w
    show Each _ _ (if ArtifactSettings.escapes w.disk _ = true then _ else _)
    split
    · exact hinvalid _
    · rw [dropLast_concat]
      refine each_bind (each_mkdirFrom ?_ (by unfold NotFileExists; decide)) fun _ w' => ?_
      · intro path hpath w' h
        exact h.make ((mem_inits path D).mp hpath)
      · show Each _ _ (match w'.disk.node (D ++ [reportName]) with
          | some .directory => _
          | some (.link _ true) => _
          | some (.link _ false) => _
          | _ => _)
        have hos : NotFileExists .os := by unfold NotFileExists; decide
        have hput : KeepsTaken D id (World.onDisk (·.put (D ++ [reportName]) (.file ""))) ∧
            KeepsTaken D id (World.onDisk (·.put (D ++ [reportName]) (.file document))) ∧ True :=
          ⟨fun w h => h.put (by decide) _, fun w h => h.put (by decide) _, trivial⟩
        rcases w'.disk.node (D ++ [reportName]) with _ | (_ | _ | ⟨_, _ | _⟩)
        all_goals first | exact hos | exact hput | trivial

theorem each_writeSignedSafetyReceipt (receipt : SignedReceipt) :
    Each (KeepsTaken D id) NotFileExists
      (writeSignedSafetyReceipt receipt (D ++ [safetyReceiptName])) := by
  intro w
  show Each _ _ (match w.disk.node (D ++ [safetyReceiptName]) with
    | some _ => _
    | none => _)
  cases w.disk.node (D ++ [safetyReceiptName]) with
  | some _ => exact notFileExists_jobError (by decide)
  | none =>
    exact ⟨fun w h => h.put (by decide) _, fun w h => h.put (by decide) _, trivial⟩

end

theorem each_completeScan (call : CompleteScan) :
    Each (KeepsTaken D id) NotFileExists (completeScan call) := by
  intro w
  show Each _ _ (if w.scans.any _ = true then _ else _)
  split
  · refine ⟨?_, trivial⟩
    intro w h
    refine { h with scans := ?_ }
    intro r hr
    obtain ⟨r', hr', rfl⟩ := mem_map.mp hr
    have hid := h.scans r' hr'
    split
    · exact hid
    · exact hid
  · show NotFileExists _
    unfold NotFileExists
    decide

section

variable [Primitives] (c : ExecutionContext)

variable (scope : String)

theorem each_recordFindings (reading : Nat) (findings : List Finding) :
    Each (KeepsTaken D id) NotFileExists (c.recordFindings scope reading findings) := by
  induction findings generalizing reading with
  | nil => trivial
  | cons f rest ih => exact ⟨fun w h => { h with }, ih (reading + 1)⟩

theorem each_recordChecks (o : ReportOperation) (checks : List String) :
    Each (KeepsTaken D id) NotFileExists (c.recordChecks scope o checks) := by
  induction checks with
  | nil => trivial
  | cons checkId rest ih => exact ⟨fun w h => { h with }, ih⟩

theorem each_recordCoverageForReport (operations : List ReportOperation) :
    Each (KeepsTaken D id) NotFileExists (c.recordCoverageForReport scope operations) := by
  induction operations with
  | nil => trivial
  | cons o rest ih => exact each_bind (each_recordChecks c scope o _) fun _ => ih

theorem each_recordReport (report : Report) :
    Each (KeepsTaken D id) NotFileExists (c.recordReport scope report) := by
  unfold recordReport
  split
  · trivial
  · refine each_bind (each_recordFindings c scope 3 _) fun _ => ?_
    refine each_bind (each_recordCoverageForReport c scope _) fun _ => ?_
    exact each_completeScan _

theorem each_storeReceipt (reason : TerminationReason) {between : Job Unit}
    (hbetween : Each (KeepsTaken c.directory id) NotFileExists between) :
    Each (KeepsTaken c.directory id) NotFileExists (storeReceipt c reason between) := by
  refine each_bind (each_ofExcept ?_) fun receipt => ?_
  · intro error herror
    cases hsigned : c.signedReceipt reason with
    | ok _ => simp [hsigned, Atomic.mapError_ok] at herror
    | error exception =>
      obtain rfl : ExecutionError.raised exception = error := by
        simpa [hsigned, Atomic.mapError_ok, Atomic.mapError_error] using herror
      simp [NotFileExists, ownedTargetFileExists, jobError]
  · exact each_bind hbetween fun _ => each_writeSignedSafetyReceipt receipt

variable (id) in
/-- After the audit document, no step removes it. -/
theorem each_concludeExecution (e : ArtifactSettings) (scope : String) :
    Each (KeepsTaken c.directory id) NotFileExists (e.concludeExecution c scope) := by
  unfold concludeExecution
  split
  · simp [Each, NotFileExists, ownedTargetFileExists, jobError]
  · refine each_bind (each_storeReceipt c _ trivial) fun digest => ?_
    -- A receipt goes with this error, and none with the other.
    simp [Each, NotFileExists, ownedTargetFileExists, jobError]
  · next report _ =>
    refine each_bind (each_storeReceipt c _ (each_putArtifact e _)) fun digest => ?_
    exact each_bind (each_recordReport c scope report) fun _ => trivial

end

end

/-! ## Up to the audit document -/

section

variable {D : ArtifactPath}

theorem triple_preparePrivateDirectory (e : ArtifactSettings) (path : ArtifactPath) (w : World) :
    Triple (fun _ => True) (e.preparePrivateDirectory path) w fun r w' =>
      (r = .ok () → w'.disk.node path = some .directory ∧
        ∀ p, p <+: path → ∃ n, w'.disk.node p = some n ∧ n.isDirectory = true) ∧
      ∀ p n, w.disk.node p = some n → w'.disk.node p = some n := by
  refine triple_bind ((triple_mkdirFrom _ path.inits w).mono ?_)
  rintro r w' ⟨hmade, hkept⟩
  cases r with
  | error error => exact ⟨fun h => absurd h (by simp), hkept⟩
  | ok _ =>
    dsimp only [Program.get, bind, Program.bind, Triple]
    rcases hnode : w'.disk.node path with _ | (_ | _ | _)
    · exact ⟨fun h => absurd h (by simp), hkept⟩
    · refine ⟨fun _ => ⟨hnode, ?_⟩, hkept⟩
      intro p hp
      exact hmade rfl p ((mem_inits p path).mpr hp)
    · exact ⟨fun h => absurd h (by simp), hkept⟩
    · exact ⟨fun h => absurd h (by simp), hkept⟩

theorem triple_prepareDirectories (e : ArtifactSettings) (w : World) :
    Triple (fun _ => True) (e.prepareDirectories D) w fun r w' => r = .ok () → Prepared D w' := by
  refine triple_bind ((triple_preparePrivateDirectory e [] w).mono ?_)
  rintro r w' ⟨hroot, -⟩
  cases r with
  | error error => exact fun h => absurd h (by simp)
  | ok _ =>
    refine (triple_preparePrivateDirectory e D w').mono ?_
    rintro r w'' ⟨hdirectory, hkept⟩ hr
    exact {
      way := (hdirectory hr).2
      root := hkept [] _ (hroot rfl).1
      directory := (hdirectory hr).1 }

end

section

variable {D : ArtifactPath} {id : String} {w₀ w : World} {I : World → Prop}

variable {Q : Except ExecutionError Unit → World → Prop}

theorem triple_mkdirFrom_of_present {failure : ExecutionError}
    (h : ∀ path ∈ paths, ∃ n, w.disk.node path = some n ∧ n.isDirectory = true)
    (hQ : Q (.ok ()) w) : Triple I (mkdirFrom failure paths) w Q := by
  induction paths with
  | nil => exact hQ
  | cons path rest ih =>
    obtain ⟨n, hnode, hn⟩ := h path (by simp)
    rw [mkdirFrom_cons]
    dsimp only [Triple]
    rw [hnode]
    simp only [hn, if_true]
    exact ih fun p hp => h p (by simp [hp])

theorem Prepared.triple_mkdir (h : Prepared D w) (hpath : path <+: D) (failure : ExecutionError)
    (hQ : Q (.ok ()) w) :
    Triple I (mkdir path failure) w Q := by
  refine triple_mkdirFrom_of_present ?_ hQ
  intro p hp
  exact h.way p (((mem_inits p path).mp hp).trans hpath)

/-- What the attempts before have left: little, or the audit document. -/
def Leftover (D : ArtifactPath) (id : String) (w₀ w : World) : Prop :=
  Trails D id w w₀ ∨ Taken D id w

theorem preserves_createScan {row : ScanRecordRow} (hrow : row.scanId ≠ id) :
    Preserves (Leftover D id w₀) (createScan row) := by
  refine preserves_read ?_
  intro w h
  split
  · exact h
  · have hcreated : Leftover D id w₀ { w with scans := row :: w.scans } := by
      rcases h with h | h
      · refine .inl { h with scans := ?_ }
        intro r hr
        have hne : r ≠ row := fun heq => hrow (heq ▸ hr)
        show r ∈ row :: w.scans ↔ _
        rw [mem_cons, or_iff_right hne, h.scans r hr]
      · refine .inr { h with scans := ?_ }
        intro r hr
        rcases mem_cons.mp hr with rfl | hr
        · exact hrow
        · exact h.scans r hr
    exact ⟨hcreated, hcreated⟩

theorem preserves_mkdirFrom (failure : ExecutionError) (hpaths : ∀ path ∈ paths, path <+: D) :
    Preserves (Leftover D id w₀) (mkdirFrom failure paths) := by
  induction paths with
  | nil => exact preserves_pure ()
  | cons path rest ih =>
    have hrest := ih fun p hp => hpaths p (by simp [hp])
    have hpath := hpaths path (by simp)
    refine preserves_read ?_
    intro w h
    cases hnode : w.disk.node path with
    | none =>
      have hmade : Leftover D id w₀ (w.onDisk (·.put path .directory)) :=
        h.imp (·.goAhead hpath hnode) (·.make hpath)
      exact ⟨hmade, hrest _ hmade⟩
    | some n =>
      by_cases hn : n.isDirectory
      · simpa only [hn, if_true] using hrest w h
      · simp only [hn, Bool.false_eq_true, if_false]
        exact h

variable (e : ArtifactSettings)

theorem preserves_preparePrivateDirectory (hpath : path <+: D) :
    Preserves (Leftover D id w₀) (e.preparePrivateDirectory path) := by
  refine preserves_bind (preserves_mkdirFrom _ ?_) fun _ => preserves_read ?_
  · intro p hp
    exact ((mem_inits p path).mp hp).trans hpath
  · intro w h
    rcases w.disk.node path with _ | (_ | _ | _)
    all_goals exact h

/-- Directories may be made again. -/
theorem preserves_prepareDirectories :
    Preserves (Leftover D id w₀) (e.prepareDirectories D) :=
  preserves_bind (preserves_preparePrivateDirectory e nil_prefix) fun _ =>
    preserves_preparePrivateDirectory e (prefix_refl D)

variable {temporary : ArtifactPath}

theorem Prepared.drafted (h : Prepared D w) (hunseen : ∀ p, Seen D p → p ≠ temporary)
    (document : String) : Prepared D (w.drafted temporary document) := by
  refine h.congr ?_
  intro path hpath
  have hne : path ≠ temporary := hunseen path (.inl hpath)
  simp [World.drafted, hne]

/-- Once it is linked, the audit document is there. -/
theorem Prepared.linked (h : Prepared D w) (hscans : ∀ r ∈ w.scans, r.scanId ≠ id)
    (document : String) :
    Taken D id (w.onDisk (·.put (D ++ [auditName]) (.file document))) where
  toPrepared := h.congr fun _ hpath => node_put_document hpath _ _ _
  audit := ⟨document, by simp⟩
  scans := hscans

theorem Taken.unlink (h : Taken D id w) (hunseen : ∀ p, Seen D p → p ≠ temporary) :
    Taken D id (w.onDisk (·.unlink temporary)) where
  toPrepared := by
    refine h.congr ?_
    intro path hpath
    rw [World.onDisk_disk, Disk.node_unlink, if_neg (hunseen path (.inl hpath))]
  audit := by
    have hne : D ++ [auditName] ≠ temporary := hunseen _ (.inr ⟨auditName, by decide, rfl⟩)
    rw [World.onDisk_disk, Disk.node_unlink, if_neg hne]
    exact h.audit
  scans := h.scans

theorem Trails.hidePutLeft (h : Trails D id w w₀) (hunseen : ∀ p, Seen D p → p ≠ temporary)
    (n : Node) : Trails D id (w.onDisk (·.put temporary n)) w₀ := by
  refine h.hide (g := fun d => d) ?_ fun _ _ => rfl
  intro p hp
  rw [Disk.node_put, if_neg (hunseen p hp)]

/-- A vacant name is linked, and is taken then. -/
theorem triple_linkDocument (hunseen : ∀ p, Seen D p → p ≠ temporary) (document : String)
    (h : Trails D id w w₀) (hprepared : Prepared D w) (hscans : ∀ r ∈ w.scans, r.scanId ≠ id)
    (hvacant : w.disk.node (D ++ [auditName]) = none) :
    Triple (Leftover D id w₀) (linkDocument temporary (D ++ [auditName]) document) w
      fun r w' => r = .ok () ∧ Taken D id w' := by
  have hempty := h.hidePutLeft hunseen (.file "")
  have hfull := hempty.hidePutLeft hunseen (.file (document ++ "\n"))
  have hdrafted : (w.drafted temporary document).disk.node (D ++ [auditName]) = none := by
    have hne : D ++ [auditName] ≠ temporary := hunseen _ (.inr ⟨auditName, by decide, rfl⟩)
    simp [World.drafted, hne, hvacant]
  rw [linkDocument_eq]
  refine ⟨.inl hempty, .inl hfull, ?_⟩
  unfold World.drafted at hdrafted
  dsimp only [Triple]
  rw [hdrafted]
  have hlinked := (hprepared.drafted hunseen document).linked hscans (document ++ "\n")
  have hdone := hlinked.unlink hunseen
  exact ⟨.inr hlinked, .inr hdone, rfl, hdone⟩

/-- The audit document is written if its name is vacant. -/
theorem triple_writeAudit (document : String)
    (h : Leftover D id w₀ w) (hprepared : Prepared D w)
    (hscans : ∀ r ∈ w.scans, r.scanId ≠ id) :
    Triple (Leftover D id w₀) (e.writeOwnedTargetDocument D auditName document) w
      fun r w' => (r = .ok () → Taken D id w') ∧
        (w.disk.node (D ++ [auditName]) = none → r = .ok ()) := by
  unfold writeOwnedTargetDocument
  dsimp only [Program.get, bind, Program.bind, Triple]
  rcases hnode : w.disk.node (D ++ [auditName]) with _ | (_ | _ | _)
  · have htrails : Trails D id w w₀ := by
      rcases h with h | h
      · exact h
      · obtain ⟨document, haudit⟩ := h.audit
        exact absurd (hnode.symm.trans haudit) (by simp)
    refine triple_bind (hprepared.triple_mkdir (prefix_refl D) _ ?_)
    refine (triple_linkDocument ?_ document htrails hprepared hscans hnode).mono ?_
    · exact fun p hp => hp.ne_temporary e _ _
    · rintro r w' ⟨hok, htaken⟩
      exact ⟨fun _ => htaken, fun _ => hok⟩
  all_goals exact ⟨fun h => absurd h (by simp), fun h => absurd h (by simp)⟩

end

/-! ## Attempts -/

section

variable [Primitives]

/-- An attempt of a job that stopped after some of its writes. -/
structure Attempt where
  context : ExecutionContext
  writes : Nat

/-- The world that the attempts leave, one after another. -/
def leftBy (e : ArtifactSettings) (w : World) (attempts : List Attempt) : World :=
  Runs.run (fun w a => (e.execute a.context).stop a.writes w) w attempts

/-- The attempt is one of the job that `c` executes, and drew another scan identifier. -/
structure Attempt.Of (a : Attempt) (c : ExecutionContext) : Prop where
  jobId : a.context.record.jobId = c.record.jobId
  organization : a.context.organization = c.organization
  scanId : a.context.scanId ≠ c.scanId

/-- The two executions end alike and leave the same documents of the job. -/
def SameOutcome (c : ExecutionContext)
    (x y : Except ExecutionError JobExecutionOutcome × World) : Prop :=
  x.1 = y.1 ∧ x.2.objects = y.2.objects ∧
    ∀ name ∈ artifactNames,
      x.2.disk.node (c.directory ++ [name]) = y.2.disk.node (c.directory ++ [name])

variable {e : ArtifactSettings} {id : String} {w₀ : World}

omit [Primitives] in
theorem Leftover.scans {D : ArtifactPath} {w : World} (h : Leftover D id w₀ w)
    (hw₀ : ∀ r ∈ w₀.scans, r.scanId ≠ id) : ∀ r ∈ w.scans, r.scanId ≠ id := by
  rcases h with h | h
  · intro r hr hid
    exact hw₀ r ((h.scans r hid).mp hr) hid
  · exact h.scans

theorem preserves_execute (c : ExecutionContext) (hid : c.scanId ≠ id)
    (hw₀ : ∀ r ∈ w₀.scans, r.scanId ≠ id) :
    Preserves (Leftover c.directory id w₀) (e.execute c) := by
  refine preserves_bind (preserves_ofExcept _) fun admission => ?_
  refine preserves_bind ?_ fun _ => ?_
  · unfold registerScan
    split
    · exact preserves_pure ()
    · exact preserves_createScan hid
  intro w h
  refine triple_bind ((preserves_prepareDirectories e w h).and_run.mono ?_)
  rintro r w₁ ⟨hleft, hrun⟩
  cases r with
  | error error => exact hleft
  | ok _ =>
    have hprepared : Prepared c.directory w₁ := by
      have hpost := triple_run (triple_prepareDirectories (D := c.directory) e w)
      rw [hrun] at hpost
      exact hpost rfl
    refine triple_bind (((triple_writeAudit e admission.auditDocument hleft hprepared
      (hleft.scans hw₀)).and_inv hleft).mono ?_)
    rintro r w₂ ⟨⟨htaken, -⟩, hleft₂⟩
    cases r with
    | error error => exact hleft₂
    | ok _ =>
      refine ((triple_of_each (each_concludeExecution id c e admission.scope)
        (htaken rfl)).weaken fun _ => .inr).mono ?_
      rintro r w₃ ⟨h₃, -⟩
      exact .inr h₃

theorem leftover_leftBy {c : ExecutionContext} (hw₀ : ∀ r ∈ w₀.scans, r.scanId ≠ c.scanId)
    {attempts : List Attempt} (hattempts : ∀ a ∈ attempts, a.Of c) :
    Leftover c.directory c.scanId w₀ (leftBy e w₀ attempts) := by
  refine Runs.along_induction ?_ (.inl (Trails.refl w₀)) (Runs.along_of_forall hattempts)
  intro w a h ha
  have hdirectory : a.context.directory = c.directory := by
    unfold ExecutionContext.directory
    rw [ha.jobId, ha.organization]
  rw [← hdirectory] at h ⊢
  exact triple_stop h (preserves_execute a.context ha.scanId hw₀ w h) a.writes

/-! ## The next execution -/

section

omit [Primitives]

variable {D : ArtifactPath} {w : World}

theorem Prepared.run_mkdir (h : Prepared D w) (hpath : path <+: D)
    (failure : ExecutionError) : (mkdir path failure).run w = (.ok (), w) := by
  have hrun := triple_run (h.triple_mkdir (I := fun _ => True)
    (Q := fun r w' => r = .ok () ∧ w' = w) hpath failure ⟨rfl, rfl⟩)
  exact Prod.ext hrun.1 hrun.2

theorem Prepared.run_preparePrivateDirectory (h : Prepared D w)
    (hpath : path <+: D) (hdirectory : w.disk.node path = some .directory) :
    (e.preparePrivateDirectory path).run w = (.ok (), w) := by
  unfold preparePrivateDirectory
  rw [run_bind_of_ok (h.run_mkdir hpath _), run_bind_of_ok (run_get w), hdirectory]
  rfl

theorem Prepared.run_prepareDirectories (h : Prepared D w) :
    (e.prepareDirectories D).run w = (.ok (), w) := by
  unfold prepareDirectories
  rw [run_bind_of_ok (h.run_preparePrivateDirectory nil_prefix h.root)]
  exact h.run_preparePrivateDirectory (prefix_refl D) h.directory

end

variable {c : ExecutionContext} {w : World}

theorem run_registerScan (h : ∀ r ∈ w.scans, r.scanId ≠ c.scanId) (scope : String) :
    ∃ w', (registerScan c scope).run w = (.ok (), w') ∧ w'.disk = w.disk := by
  unfold registerScan
  split
  · exact ⟨w, rfl, rfl⟩
  · have hnew : (w.scans.any fun r => r.scanId == c.scanId) = false := by simpa using h
    unfold createScan
    rw [run_bind_of_ok (run_get w), if_neg (by simp [ScanRecordRow.created, hnew])]
    exact ⟨_, rfl, rfl⟩

theorem run_execute_of_taken (h : Taken c.directory c.scanId w)
    {admission : Admission} (hadmitted : c.admitted = .ok admission) :
    ((e.execute c).run w).1 = .error ownedTargetFileExists := by
  unfold execute
  rw [hadmitted, run_bind_of_ok (run_ofExcept _ w)]
  obtain ⟨w', hregistered, hdisk⟩ := run_registerScan h.scans admission.scope
  have hprepared : Prepared c.directory w' := h.congr fun path _ => by rw [hdisk]
  rw [run_bind_of_ok hregistered, run_bind_of_ok hprepared.run_prepareDirectories]
  obtain ⟨document, haudit⟩ := h.audit
  have hrefused :
      (e.writeOwnedTargetDocument c.directory auditName admission.auditDocument).run w' =
        (.error ownedTargetFileExists, w') := by
    unfold writeOwnedTargetDocument
    rw [run_bind_of_ok (run_get w'), hdisk, haudit]
    rfl
  rw [run_bind_of_error hrefused]

/-- A write that puts nothing at the path of the audit document. -/
abbrev KeepsVacant (D : ArtifactPath) (f : World → World) : Prop :=
  ∀ w, w.disk.node (D ++ [auditName]) = none → (f w).disk.node (D ++ [auditName]) = none

theorem each_registerScan {D : ArtifactPath} (c : ExecutionContext) (scope : String) :
    Each (KeepsVacant D) NotFileExists (registerScan c scope) := by
  unfold registerScan
  split
  · trivial
  · intro w
    show Each _ _ (if w.scans.any _ = true then _ else _)
    split
    · show NotFileExists _
      unfold NotFileExists
      decide
    · exact ⟨fun w h => h, trivial⟩

section

omit [Primitives]

theorem each_preparePrivateDirectory {D : ArtifactPath} (hpath : path <+: D) :
    Each (KeepsVacant D) NotFileExists (e.preparePrivateDirectory path) := by
  refine each_bind (each_mkdirFrom ?_ (notFileExists_jobError (by decide))) fun _ w => ?_
  · intro p hp w h
    rw [World.onDisk_disk,
      node_make_document (((mem_inits p path).mp hp).trans hpath)]
    exact h
  · dsimp only [Program.bind]
    rcases w.disk.node path with _ | (_ | _ | _)
    · exact notFileExists_jobError (by decide)
    · trivial
    · exact notFileExists_jobError (by decide)
    · exact notFileExists_jobError (by decide)

theorem each_prepareDirectories (D : ArtifactPath) :
    Each (KeepsVacant D) NotFileExists (e.prepareDirectories D) :=
  each_bind (each_preparePrivateDirectory nil_prefix) fun _ =>
    each_preparePrivateDirectory (prefix_refl D)

theorem Prepared.run_writeAudit {D : ArtifactPath} {w : World} (h : Prepared D w)
    (hvacant : w.disk.node (D ++ [auditName]) = none) (document : String) :
    ((e.writeOwnedTargetDocument D auditName document).run w).1 = .ok () := by
  unfold writeOwnedTargetDocument
  rw [run_bind_of_ok (run_get w), hvacant]
  show (Program.run (_ >>= _) w).1 = _
  rw [run_bind_of_ok (h.run_mkdir (prefix_refl D) _), run_bind_of_ok (run_get w),
    run_linkDocument]
  have hne : D ++ [auditName] ≠ D ++ [e.temporaryName w.disk D auditName] :=
    Seen.ne_temporary (.inr ⟨auditName, by decide, rfl⟩) e _ _
  have hdrafted : (w.drafted (D ++ [e.temporaryName w.disk D auditName]) document).disk.node
      (D ++ [auditName]) = none := by
    simp [World.drafted, hne, hvacant]
  rw [hdrafted]

end

theorem run_execute_of_vacant (h : w.disk.node c.auditPath = none) {admission : Admission}
    (hadmitted : c.admitted = .ok admission) :
    ((e.execute c).run w).1 ≠ .error ownedTargetFileExists := by
  unfold execute
  rw [hadmitted, run_bind_of_ok (run_ofExcept _ w)]
  have hother : ∀ {error : ExecutionError} {α : Type}, NotFileExists error →
      (Except.error error : Except ExecutionError α) ≠ .error ownedTargetFileExists :=
    fun h heq => h (Except.error.inj heq)
  refine triple_run (I := fun _ => True) (Q := fun r _ => r ≠ .error ownedTargetFileExists) ?_
  refine triple_bind (((triple_of_each (each_registerScan c _) h).weaken
    fun _ _ => trivial).mono ?_)
  rintro r w₁ ⟨h₁, herror₁⟩
  cases r with
  | error error => exact hother (herror₁ error rfl)
  | ok _ =>
    refine triple_bind (((triple_of_each (each_prepareDirectories c.directory) h₁).and_run.weaken
      fun _ _ => trivial).mono ?_)
    rintro r w₂ ⟨⟨h₂, herror₂⟩, hrun⟩
    cases r with
    | error error => exact hother (herror₂ error rfl)
    | ok _ =>
      have hprepared : Prepared c.directory w₂ := by
        have hpost := triple_run (triple_prepareDirectories (D := c.directory) e w₁)
        rw [hrun] at hpost
        exact hpost rfl
      refine triple_bind (triple_of_run ?_)
      rw [hprepared.run_writeAudit h₂]
      refine triple_of_run ?_
      intro heq
      exact error_of_each (each_concludeExecution c.scanId c e admission.scope) heq rfl

/--
**A requeued job is executed like a new one exactly when no audit document is in the way.**

The attempts before may have stopped after any number of their writes, each with its own answers
from everybody it asked.
-/
theorem reexecution_outcome (e : ArtifactSettings) (c : ExecutionContext) (w₀ : World)
    (attempts : List Attempt) (hadmitted : ∃ admission, c.admitted = .ok admission)
    (hunused : ∀ path, c.directory <+: path → w₀.disk.node path = none)
    (hscans : ∀ r ∈ w₀.scans, r.scanId ≠ c.scanId) (hattempts : ∀ a ∈ attempts, a.Of c) :
    SameOutcome c ((e.execute c).run (leftBy e w₀ attempts)) ((e.execute c).run w₀) ↔
      (leftBy e w₀ attempts).disk.node c.auditPath = none := by
  obtain ⟨admission, hadmitted⟩ := hadmitted
  have hvacant : w₀.disk.node c.auditPath = none := hunused _ (prefix_append _ _)
  rcases leftover_leftBy (e := e) hscans hattempts with htrails | htaken
  · have haudit : (leftBy e w₀ attempts).disk.node c.auditPath = none :=
      (htrails.documents auditName (by decide)).trans hvacant
    obtain ⟨hanswer, hend⟩ := respects_execute e c _ _ htrails
    exact iff_of_true ⟨hanswer, hend.objects, hend.documents⟩ haudit
  · refine iff_of_false ?_ ?_
    · rintro ⟨hanswer, -⟩
      rw [run_execute_of_taken htaken hadmitted] at hanswer
      exact run_execute_of_vacant hvacant hadmitted hanswer.symm
    · obtain ⟨document, haudit⟩ := htaken.audit
      intro hnone
      exact absurd (hnone.symm.trans haudit) (by simp)

end

/-! ## An attempt that died before, and one that died after -/

def sampleSettings : ArtifactSettings where
  artifactDirectory := "/var/lib/webguard/artifacts"
  objectStorage := false
  mkstemp := fun start finish taken =>
    if start ++ "k3x9qp1z" ++ finish ∈ taken then
      String.ofList (replicate ((taken.map String.length).sum + 1) 'k')
    else "k3x9qp1z"
  mkstemp_fresh := by
    intro start finish taken
    split
    · intro hmem
      have hle := le_sum_of_mem (mem_map_of_mem (f := String.length) hmem)
      simp only [String.length_append, String.length_ofList, length_replicate] at hle
      omega
    · assumption

def sampleReport : Report where
  status := .completed
  findings := []
  operations := []
  document := "{}"

def sampleContext (scanId : String) : @ExecutionContext samplePrimitives :=
  let _ := samplePrimitives
  { record :=
      { jobId := sampleJobId, request := sampleRequest, state := .running, updatedAt := 20,
        startedAt := some 20 }
    authorization := .ok ⟨sampleRequest.authorizationSha256, sampleRequest.target⟩
    scope := some sampleOrganizationId
    assignment := some (.ok true)
    binding := some ("permit", "fingerprint")
    permit := .ok "fingerprint"
    permitUse := .ok ()
    target := .ok ()
    scanId := scanId
    preflight := .ok "{}"
    organization := some sampleOrganizationId
    scanner := .report sampleReport
    signedReceipt := fun _ => .ok ⟨"{}", "digest"⟩
    clock := fun reading => 20 + reading }

/-- An attempt that died before it linked its audit document does not matter. -/
theorem reexecution_before_audit :
    letI := samplePrimitives
    SameOutcome (sampleContext "second")
      ((sampleSettings.execute (sampleContext "second")).run
        (leftBy sampleSettings { disk := [] } [⟨sampleContext "first", 8⟩]))
      ((sampleSettings.execute (sampleContext "second")).run { disk := [] }) := by
  let _ := samplePrimitives
  refine (reexecution_outcome sampleSettings (sampleContext "second") { disk := [] }
    [⟨sampleContext "first", 8⟩] ⟨_, rfl⟩ (fun _ _ => rfl) (by simp) ?_).mpr ?_
  · intro a ha
    obtain rfl : a = ⟨sampleContext "first", 8⟩ := by simpa using ha
    exact ⟨rfl, rfl, by decide⟩
  · decide

/-- An attempt that died while it was scanning has left its audit document. -/
theorem reexecution_after_audit :
    letI := samplePrimitives
    ((sampleSettings.execute (sampleContext "second")).run
        (leftBy sampleSettings { disk := [] } [⟨sampleContext "first", 10⟩])).1 =
      .error ownedTargetFileExists ∧
    ((sampleSettings.execute (sampleContext "second")).run { disk := [] }).1.isOk = true ∧
    ¬ SameOutcome (sampleContext "second")
      ((sampleSettings.execute (sampleContext "second")).run
        (leftBy sampleSettings { disk := [] } [⟨sampleContext "first", 10⟩]))
      ((sampleSettings.execute (sampleContext "second")).run { disk := [] }) := by
  let _ := samplePrimitives
  have hagain : ((sampleSettings.execute (sampleContext "second")).run
      (leftBy sampleSettings { disk := [] } [⟨sampleContext "first", 10⟩])).1 =
      .error ownedTargetFileExists := by decide
  have hfirst : ((sampleSettings.execute (sampleContext "second")).run { disk := [] }).1.isOk =
      true := by decide
  refine ⟨hagain, hfirst, ?_⟩
  rintro ⟨hanswer, -⟩
  rw [← hanswer, hagain] at hfirst
  exact absurd hfirst (by simp [Except.isOk, Except.toBool])

end WebGuard
