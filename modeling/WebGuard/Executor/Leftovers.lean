import WebGuard.Executor.Execute

/-!
# What an attempt leaves behind, and what the next one sees of it

`Trails D id s t`: the world `s` is `t` with some directories on the way to `D` already made, with
temporary files, and with scan records other than `id`. Every part of an execution answers alike
in both (`Respects`), so an attempt that left no more than that does not change the outcome of the
next one.

`Taken D w`: the audit document of the job lies below `D`, in directories that are all there.
-/

namespace WebGuard

open Interrupt Program ArtifactSettings ExecutionContext List World

/-- The documents of a job. -/
def artifactNames : List String := [auditName, reportName, safetyReceiptName]

/-- `s` is `t` with some of the way to `D` made; the two differ in nothing that counts. -/
structure Trails (D : ArtifactPath) (id : String) (s t : World) : Prop where
  along : ∀ path, path <+: D → s.disk.node path = t.disk.node path ∨
    (t.disk.node path = none ∧ s.disk.node path = some .directory)
  documents : ∀ name ∈ artifactNames, s.disk.node (D ++ [name]) = t.disk.node (D ++ [name])
  objects : s.objects = t.objects
  scans : ∀ r : ScanRecordRow, r.scanId = id → (r ∈ s.scans ↔ r ∈ t.scans)

/-- On the way to `D`, or a document in it. -/
def Seen (D path : ArtifactPath) : Prop :=
  path <+: D ∨ ∃ name ∈ artifactNames, path = D ++ [name]

theorem not_append_prefix (D : ArtifactPath) (name : String) : ¬ D ++ [name] <+: D := by
  intro h
  have hlength := h.length_le
  simp at hlength

variable {path : ArtifactPath}

theorem node_make_document {D : ArtifactPath} (hpath : path <+: D) (d : Disk) (n : Node)
    (name : String) : (d.put path n).node (D ++ [name]) = d.node (D ++ [name]) := by
  have hne : D ++ [name] ≠ path := by
    rintro rfl
    exact not_append_prefix D name hpath
  rw [Disk.node_put, if_neg hne]

theorem temporaryName_not_mem (e : ArtifactSettings) (d : Disk) (D : ArtifactPath) (name : String) :
    e.temporaryName d D name ∉ artifactNames := by
  intro h
  have hdot : (e.temporaryName d D name).toList.head? = some '.' := by
    unfold temporaryName
    simp
  have hno : ∀ n ∈ artifactNames, n.toList.head? ≠ some '.' := by decide
  exact hno _ h hdot

namespace Trails

variable {D : ArtifactPath} {id : String} {s t : World}

theorem refl (w : World) : Trails D id w w where
  along := fun _ _ => .inl rfl
  documents := fun _ _ => rfl
  objects := rfl
  scans := fun _ _ => .rfl

theorem hide (h : Trails D id s t) {f g : Disk → Disk}
    (hf : ∀ path, Seen D path → (f s.disk).node path = s.disk.node path)
    (hg : ∀ path, Seen D path → (g t.disk).node path = t.disk.node path) :
    Trails D id (s.onDisk f) (t.onDisk g) where
  along := by
    intro path hpath
    rw [onDisk_disk, onDisk_disk, hf path (.inl hpath), hg path (.inl hpath)]
    exact h.along path hpath
  documents := by
    intro name hname
    rw [onDisk_disk, onDisk_disk, hf _ (.inr ⟨name, hname, rfl⟩),
      hg _ (.inr ⟨name, hname, rfl⟩)]
    exact h.documents name hname
  objects := h.objects
  scans := h.scans

theorem put (h : Trails D id s t) (name : String) (n : Node) :
    Trails D id (s.onDisk (·.put (D ++ [name]) n)) (t.onDisk (·.put (D ++ [name]) n)) where
  along := by
    intro path hpath
    have hne : path ≠ D ++ [name] := by
      rintro rfl
      exact not_append_prefix D name hpath
    simpa [hne] using h.along path hpath
  documents := by
    intro other hother
    simp only [onDisk_disk, Disk.node_put]
    split
    · rfl
    · exact h.documents other hother
  objects := h.objects
  scans := h.scans

theorem make (h : Trails D id s t) (hpath : path <+: D) :
    Trails D id (s.onDisk (·.put path .directory)) (t.onDisk (·.put path .directory)) where
  along := by
    intro other hother
    simp only [onDisk_disk, Disk.node_put]
    split
    · exact .inl rfl
    · exact h.along other hother
  documents := by
    intro name hname
    simpa only [onDisk_disk, node_make_document hpath] using h.documents name hname
  objects := h.objects
  scans := h.scans

theorem catchUp (h : Trails D id s t) (hpath : path <+: D)
    (hdir : s.disk.node path = some .directory) :
    Trails D id s (t.onDisk (·.put path .directory)) where
  along := by
    intro other hother
    simp only [onDisk_disk, Disk.node_put]
    split
    · next heq => exact .inl (heq ▸ hdir)
    · exact h.along other hother
  documents := by
    intro name hname
    simpa only [onDisk_disk, node_make_document hpath] using h.documents name hname
  objects := h.objects
  scans := h.scans

theorem goAhead (h : Trails D id s t) (hpath : path <+: D) (hnone : s.disk.node path = none) :
    Trails D id (s.onDisk (·.put path .directory)) t where
  along := by
    intro other hother
    simp only [onDisk_disk, Disk.node_put]
    split
    · next heq =>
      refine .inr ⟨?_, rfl⟩
      rcases h.along path hpath with hsame | ⟨_, hdir⟩
      · rw [heq, ← hsame, hnone]
      · exact absurd (hnone.symm.trans hdir) (by simp)
    · exact h.along other hother
  documents := by
    intro name hname
    simpa only [onDisk_disk, node_make_document hpath] using h.documents name hname
  objects := h.objects
  scans := h.scans

end Trails

theorem Seen.ne_temporary {D : ArtifactPath} (h : Seen D path) (e : ArtifactSettings) (d : Disk)
    (name : String) : path ≠ D ++ [e.temporaryName d D name] := by
  rintro rfl
  rcases h with h | ⟨other, hother, heq⟩
  · exact not_append_prefix D _ h
  · have hname : e.temporaryName d D name = other := by simpa using heq
    exact temporaryName_not_mem e d D name (hname ▸ hother)

/-! ## Directories -/

section

variable {D : ArtifactPath} {id : String}

variable (failure : ExecutionError)

/-- Directories that are there already make no difference. -/
theorem respects_mkdirFrom {paths : List ArtifactPath}
    (hpaths : ∀ path ∈ paths, path <+: D) : Respects (Trails D id) (mkdirFrom failure paths) := by
  induction paths with
  | nil => exact respects_pure ()
  | cons path rest ih =>
    have hrest := ih fun p hp => hpaths p (by simp [hp])
    have hpath := hpaths path (by simp)
    refine respects_read ?_
    intro s t h
    rcases h.along path hpath with heq | ⟨hnone, hdir⟩
    · rw [heq]
      cases t.disk.node path with
      | none =>
        refine respects_bind (respects_modify ?_) (fun _ => hrest) s t h
        intro s' t' h'
        exact h'.make hpath
      | some n =>
        by_cases hn : n.isDirectory
        · simpa only [hn, if_true] using hrest s t h
        · simpa only [hn, Bool.false_eq_true, if_false] using respects_raise failure s t h
    · rw [hnone, hdir]
      exact hrest s _ (h.catchUp hpath hdir)

theorem respects_mkdir (hpath : path <+: D) :
    Respects (Trails D id) (mkdir path failure) := by
  refine respects_mkdirFrom failure ?_
  intro p hp
  exact ((mem_inits p path).mp hp).trans hpath

theorem triple_mkdirFrom (paths : List ArtifactPath) (w : World) :
    Triple (fun _ => True) (mkdirFrom failure paths) w fun r w' =>
      (r = .ok () → ∀ path ∈ paths, ∃ n, w'.disk.node path = some n ∧ n.isDirectory = true) ∧
        ∀ path n, w.disk.node path = some n → w'.disk.node path = some n := by
  induction paths generalizing w with
  | nil => exact ⟨fun _ _ h => absurd h (by simp), fun _ _ h => h⟩
  | cons path rest ih =>
    rw [mkdirFrom_cons]
    dsimp only [Triple]
    cases hnode : w.disk.node path with
    | none =>
      refine ⟨trivial, (ih (w.onDisk (·.put path .directory))).mono ?_⟩
      rintro r w' ⟨hmade, hkept⟩
      refine ⟨?_, ?_⟩
      · intro hr p hp
        rcases mem_cons.mp hp with rfl | hp
        · exact ⟨.directory, hkept p _ (by simp), rfl⟩
        · exact hmade hr p hp
      · intro p n hp
        refine hkept p n ?_
        have hne : p ≠ path := by
          rintro rfl
          simp [hnode] at hp
        simpa [hne] using hp
    | some n =>
      by_cases hn : n.isDirectory
      · simp only [hn, if_true]
        refine (ih w).mono ?_
        rintro r w' ⟨hmade, hkept⟩
        refine ⟨?_, hkept⟩
        intro hr p hp
        rcases mem_cons.mp hp with rfl | hp
        · exact ⟨n, hkept p n hnode, hn⟩
        · exact hmade hr p hp
      · simp only [hn, Bool.false_eq_true, if_false]
        exact ⟨fun h => absurd h (by simp), fun _ _ h => h⟩

theorem present_of_mkdir {failure : ExecutionError} {w w' : World}
    (h : (mkdir path failure).run w = (.ok (), w')) {p : ArtifactPath} (hp : p <+: path) :
    ∃ n, w'.disk.node p = some n ∧ n.isDirectory = true := by
  have hrun := triple_run (triple_mkdirFrom failure path.inits w)
  rw [show (mkdirFrom failure path.inits).run w = _ from h] at hrun
  exact hrun.1 rfl p ((mem_inits p path).mpr hp)

variable (e : ArtifactSettings)

theorem respects_preparePrivateDirectory (hpath : path <+: D) :
    Respects (Trails D id) (e.preparePrivateDirectory path) := by
  intro s t h
  unfold preparePrivateDirectory
  generalize jobError "artifact_directory_create_failed" _ = failure
  obtain ⟨hanswer, htrails⟩ := respects_mkdir failure hpath s t h
  rcases hs : (mkdir path failure).run s with ⟨r, s'⟩
  rcases ht : (mkdir path failure).run t with ⟨r', t'⟩
  rw [hs, ht] at hanswer htrails
  obtain rfl : r = r' := hanswer
  cases r with
  | error err =>
    rw [run_bind_of_error hs, run_bind_of_error ht]
    exact ⟨rfl, htrails⟩
  | ok _ =>
    rw [run_bind_of_ok hs, run_bind_of_ok ht]
    -- The directory is there in both, so `lstat` sees the same.
    obtain ⟨n, hn, -⟩ := present_of_mkdir ht (prefix_refl path)
    have hsame : s'.disk.node path = some n := by
      rcases htrails.along path hpath with heq | ⟨hnone, _⟩
      · exact heq.trans hn
      · exact absurd (hnone.symm.trans hn) (by simp)
    rw [run_bind_of_ok (run_get s'), run_bind_of_ok (run_get t'), hsame, hn]
    cases n <;> exact ⟨rfl, htrails⟩

/-! ## Documents -/

variable {s t : World}

/-- A file that is not looked at may differ. -/
theorem Trails.hidePut (h : Trails D id s t) {path' : ArtifactPath}
    (hpath : ∀ p, Seen D p → p ≠ path) (hpath' : ∀ p, Seen D p → p ≠ path') (n n' : Node) :
    Trails D id (s.onDisk (·.put path n)) (t.onDisk (·.put path' n')) := by
  refine h.hide ?_ ?_
  · intro p hp
    rw [Disk.node_put, if_neg (hpath p hp)]
  · intro p hp
    rw [Disk.node_put, if_neg (hpath' p hp)]

theorem Trails.hideUnlink (h : Trails D id s t) {path' : ArtifactPath}
    (hpath : ∀ p, Seen D p → p ≠ path) (hpath' : ∀ p, Seen D p → p ≠ path') :
    Trails D id (s.onDisk (·.unlink path)) (t.onDisk (·.unlink path')) := by
  refine h.hide ?_ ?_
  · intro p hp
    rw [Disk.node_unlink, if_neg (hpath p hp)]
  · intro p hp
    rw [Disk.node_unlink, if_neg (hpath' p hp)]

/-- The world while the temporary file holds the document. -/
def World.drafted (w : World) (temporary : ArtifactPath) (document : String) : World :=
  (w.onDisk (·.put temporary (.file ""))).onDisk (·.put temporary (.file (document ++ "\n")))

theorem run_linkDocument (temporary path : ArtifactPath) (document : String) (w : World) :
    (linkDocument temporary path document).run w =
      match (w.drafted temporary document).disk.node path with
      | some _ =>
        (.error ownedTargetFileExists, (w.drafted temporary document).onDisk (·.unlink temporary))
      | none =>
        (.ok (), ((w.drafted temporary document).onDisk
          (·.put path (.file (document ++ "\n")))).onDisk (·.unlink temporary)) := by
  show Program.run (match (w.drafted temporary document).disk.node path with
    | some _ => _
    | none => _) _ = _
  cases (w.drafted temporary document).disk.node path <;> rfl

variable {name : String}

/-- Nor do the names of temporary files. -/
theorem linkDocument_alike (hname : name ∈ artifactNames) (document : String)
    {temporary temporary' : ArtifactPath} (hunseen : ∀ p, Seen D p → p ≠ temporary)
    (hunseen' : ∀ p, Seen D p → p ≠ temporary') (h : Trails D id s t) :
    ((linkDocument temporary (D ++ [name]) document).run s).1 =
        ((linkDocument temporary' (D ++ [name]) document).run t).1 ∧
      Trails D id ((linkDocument temporary (D ++ [name]) document).run s).2
        ((linkDocument temporary' (D ++ [name]) document).run t).2 := by
  have hdrafted : Trails D id (s.drafted temporary document) (t.drafted temporary' document) :=
    (h.hidePut hunseen hunseen' _ _).hidePut hunseen hunseen' _ _
  rw [run_linkDocument, run_linkDocument, hdrafted.documents name hname]
  cases (t.drafted temporary' document).disk.node (D ++ [name]) with
  | some _ => exact ⟨rfl, hdrafted.hideUnlink hunseen hunseen'⟩
  | none => exact ⟨rfl, (hdrafted.put name _).hideUnlink hunseen hunseen'⟩

theorem respects_writeOwnedTargetDocument (hname : name ∈ artifactNames)
    (document : String) : Respects (Trails D id) (e.writeOwnedTargetDocument D name document) := by
  refine respects_read ?_
  intro s t h
  rw [h.documents name hname]
  rcases t.disk.node (D ++ [name]) with _ | (_ | _ | _)
  · refine respects_bind (respects_mkdir _ (prefix_refl D)) (fun _ => respects_read ?_) s t h
    intro s' t' h'
    refine linkDocument_alike hname document ?_ ?_ h'
    · exact fun p hp => hp.ne_temporary e _ _
    · exact fun p hp => hp.ne_temporary e _ _
  all_goals exact ⟨rfl, h⟩

theorem respects_writeSignedSafetyReceipt (receipt : SignedReceipt) :
    Respects (Trails D id) (writeSignedSafetyReceipt receipt (D ++ [safetyReceiptName])) := by
  refine respects_read ?_
  intro s t h
  rw [h.documents safetyReceiptName (by decide)]
  cases t.disk.node (D ++ [safetyReceiptName]) with
  | some _ => exact ⟨rfl, h⟩
  | none => exact ⟨rfl, (h.put _ _).put _ _⟩

/-- The node is a link that leads out. -/
def isOutward (n : Option Node) : Bool := n matches some (.link false _)

theorem Trails.escapes (h : Trails D id s t) (hname : name ∈ artifactNames) :
    ArtifactSettings.escapes s.disk (D ++ [name]) =
      ArtifactSettings.escapes t.disk (D ++ [name]) := by
  have hlink : ∀ path ∈ (D ++ [name]).inits.tail,
      isOutward (s.disk.node path) = isOutward (t.disk.node path) := by
    intro path hpath
    have hinit := (mem_inits path (D ++ [name])).mp (mem_of_mem_tail hpath)
    rcases prefix_concat_iff.mp hinit with rfl | hway
    · rw [h.documents name hname]
    · rcases h.along path hway with heq | ⟨hnone, hdir⟩
      · rw [heq]
      · rw [hnone, hdir]
        rfl
  unfold ArtifactSettings.escapes
  rw [Bool.eq_iff_iff, any_eq_true, any_eq_true]
  constructor
  · rintro ⟨path, hpath, hout⟩
    exact ⟨path, hpath, (hlink path hpath).symm.trans hout⟩
  · rintro ⟨path, hpath, hout⟩
    exact ⟨path, hpath, (hlink path hpath).trans hout⟩

theorem respects_putLocal (hname : name ∈ artifactNames) (document : String) :
    Respects (Trails D id) (putLocal (D ++ [name]) document) := by
  refine respects_read ?_
  intro s t h
  rw [h.escapes hname]
  cases ArtifactSettings.escapes t.disk (D ++ [name]) with
  | true => exact ⟨rfl, h⟩
  | false =>
    rw [dropLast_concat]
    refine respects_bind (respects_mkdir _ (prefix_refl D)) (fun _ => respects_read ?_) s t h
    intro s' t' h'
    rw [h'.documents name hname]
    rcases t'.disk.node (D ++ [name]) with _ | (_ | _ | ⟨_, _ | _⟩)
    all_goals first | exact ⟨rfl, h'⟩ | exact ⟨rfl, (h'.put _ _).put _ _⟩

theorem respects_putArtifact (hname : name ∈ artifactNames)
    (document : String) : Respects (Trails D id) (e.putArtifact (D ++ [name]) document) := by
  unfold putArtifact
  split
  · exact respects_raise _
  · split
    · refine respects_modify ?_
      intro s t h
      exact { h with objects := by simp only [h.objects] }
    · exact respects_putLocal hname document

/-! ## Records -/

theorem Trails.any_scans (h : Trails D id s t) {q : ScanRecordRow → Bool}
    (hq : ∀ r, q r = true → r.scanId = id) : s.scans.any q = t.scans.any q := by
  rw [Bool.eq_iff_iff, any_eq_true, any_eq_true]
  constructor
  · rintro ⟨r, hr, hmine⟩
    exact ⟨r, (h.scans r (hq r hmine)).mp hr, hmine⟩
  · rintro ⟨r, hr, hmine⟩
    exact ⟨r, (h.scans r (hq r hmine)).mpr hr, hmine⟩

theorem respects_createScan {row : ScanRecordRow} (hrow : row.scanId = id) :
    Respects (Trails D id) (createScan row) := by
  refine respects_read ?_
  intro s t h
  rw [h.any_scans fun r hr => (by simpa using hr : r.scanId = row.scanId).trans hrow]
  cases t.scans.any fun r => r.scanId == row.scanId with
  | true => exact ⟨rfl, h⟩
  | false =>
    refine ⟨rfl, { h with scans := ?_ }⟩
    intro r hr
    show r ∈ row :: s.scans ↔ r ∈ row :: t.scans
    rw [mem_cons, mem_cons, h.scans r hr]

theorem respects_completeScan {call : CompleteScan} (hcall : call.scanId = id) :
    Respects (Trails D id) (completeScan call) := by
  refine respects_read ?_
  intro s t h
  have hmine : ∀ r : ScanRecordRow,
      (r.scanId == call.scanId && r.organizationId == call.organizationId) = true →
        r.scanId = id := by
    intro r hr
    rw [Bool.and_eq_true, beq_iff_eq] at hr
    exact hr.1.trans hcall
  simp only [h.any_scans hmine]
  split
  · refine ⟨rfl, { h with scans := ?_ }⟩
    intro r hr
    -- The update keeps identifiers, so a row of this scan comes from a row of this scan.
    show r ∈ s.scans.map _ ↔ r ∈ t.scans.map _
    rw [mem_map, mem_map]
    constructor
    all_goals
      rintro ⟨r', hr', heq⟩
      have hid : r'.scanId = id := by
        rw [← hr, ← heq]
        split <;> rfl
      exact ⟨r', by simpa only [h.scans r' hid] using hr', heq⟩
  · exact ⟨rfl, h⟩

theorem respects_recordFinding (organizationId scanId : String) (f : Finding) (now : Nat) :
    Respects (Trails D id) (recordFinding organizationId scanId f now) :=
  respects_modify fun _ _ h => { h with }

theorem respects_recordCoverage (key : CoverageKey) (status : CoverageStatus) (scanId : String)
    (now : Nat) : Respects (Trails D id) (recordCoverage key status scanId now) :=
  respects_modify fun _ _ h => { h with }

section

variable [Primitives] (c : ExecutionContext)

variable (scope : String)

theorem respects_recordFindings (reading : Nat) (findings : List Finding) :
    Respects (Trails D id) (c.recordFindings scope reading findings) := by
  induction findings generalizing reading with
  | nil => exact respects_pure ()
  | cons f rest ih =>
    exact respects_bind (respects_recordFinding scope c.scanId f _) fun _ => ih (reading + 1)

theorem respects_recordChecks (o : ReportOperation) (checks : List String) :
    Respects (Trails D id) (c.recordChecks scope o checks) := by
  induction checks with
  | nil => exact respects_pure ()
  | cons checkId rest ih => exact respects_bind (respects_recordCoverage _ _ _ _) fun _ => ih

theorem respects_recordCoverageForReport (operations : List ReportOperation) :
    Respects (Trails D id) (c.recordCoverageForReport scope operations) := by
  induction operations with
  | nil => exact respects_pure ()
  | cons o rest ih => exact respects_bind (respects_recordChecks c scope o _) fun _ => ih

theorem respects_recordReport (report : Report) :
    Respects (Trails D c.scanId) (c.recordReport scope report) := by
  unfold recordReport
  split
  · exact respects_pure ()
  · refine respects_bind (respects_recordFindings c scope 3 _) fun _ => ?_
    refine respects_bind (respects_recordCoverageForReport c scope _) fun _ => ?_
    exact respects_completeScan rfl

end

end

/-! ## The execution -/

section

variable [Primitives] (e : ArtifactSettings) (c : ExecutionContext)

theorem respects_registerScan (scope : String) :
    Respects (Trails c.directory c.scanId) (registerScan c scope) := by
  unfold registerScan
  split
  · exact respects_pure ()
  · exact respects_createScan rfl

omit [Primitives] in
theorem respects_prepareDirectories (D : ArtifactPath) (id : String) :
    Respects (Trails D id) (e.prepareDirectories D) :=
  respects_bind (respects_preparePrivateDirectory e nil_prefix) fun _ =>
    respects_preparePrivateDirectory e (prefix_refl D)

theorem respects_storeReceipt (reason : TerminationReason) {between : Job Unit}
    (hbetween : Respects (Trails c.directory c.scanId) between) :
    Respects (Trails c.directory c.scanId) (storeReceipt c reason between) := by
  refine respects_bind (respects_ofExcept _) fun receipt => ?_
  exact respects_bind hbetween fun _ => respects_writeSignedSafetyReceipt receipt

theorem respects_concludeExecution (scope : String) :
    Respects (Trails c.directory c.scanId) (e.concludeExecution c scope) := by
  unfold concludeExecution
  split
  · exact respects_raise _
  · refine respects_bind (respects_storeReceipt c _ (respects_pure ())) fun digest => ?_
    exact respects_raise _
  · next report _ =>
    refine respects_bind (respects_storeReceipt c _ ?_) fun digest => ?_
    · exact respects_putArtifact e (by decide) _
    · exact respects_bind (respects_recordReport c scope report) fun _ => respects_pure _

/-- A whole execution answers the same from what an interrupted one left. -/
theorem respects_execute : Respects (Trails c.directory c.scanId) (e.execute c) := by
  refine respects_bind (respects_ofExcept _) fun admission => ?_
  refine respects_bind (respects_registerScan c _) fun _ => ?_
  refine respects_bind (respects_prepareDirectories e _ _) fun _ => ?_
  refine respects_bind (respects_writeOwnedTargetDocument e (by decide) _) fun _ => ?_
  exact respects_concludeExecution e c _

end

end WebGuard
