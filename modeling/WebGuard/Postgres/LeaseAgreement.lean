import WebGuard.Postgres.Correspondence

/-!
# Leases on both stores

The claims, renewals, recoveries and terminal transitions of the two stores, each evaluated on
corresponding databases branch by branch: the same answer or the same error, and corresponding
databases again (`Agree`).
-/

namespace WebGuard

open Relational Atomic List Store

section

variable [Primitives]

/-! ## Agreement -/

/-- The same outcome, and corresponding databases again. -/
structure Agree {α : Type} (x : Answer α × Store) (y : PgAnswer α × PgStore) : Prop where
  answer : y.1 = raising x.1
  corresponds : Corresponds x.2 y.2
  regular : x.2.Regular

variable {α : Type} {row : JobRow}

theorem Agree.error {s : Store} {p : PgStore} (h : Corresponds s p) (hs : s.Regular)
    (failure : Failure) :
    Agree ((.error failure, s) : Answer α × Store) (.error (.raised failure), p) :=
  ⟨rfl, h, hs⟩

theorem Agree.transaction {β γ : Type} {s s' : Store} {p p' : PgStore}
    {body : Store → Answer (β × Store)} {finish : β → Store → Answer α}
    {pgBody : PgStore → PgAnswer (γ × PgStore)} {pgFinish : γ → PgStore → PgAnswer α} (b : β)
    (c : γ) (hbody : body s = .ok (b, s')) (hpgBody : pgBody p = .ok (c, p'))
    (hanswer : pgFinish c p' = raising (finish b s')) (hcorresponds : Corresponds s' p')
    (hregular : s'.Regular) :
    Agree (Atomic.transaction body finish s) (Atomic.transaction pgBody pgFinish p) := by
  rw [transaction_of_ok _ _ hbody, transaction_of_ok _ _ hpgBody]
  exact ⟨hanswer, hcorresponds, hregular⟩

theorem Agree.refused {β γ : Type} {s : Store} {p : PgStore} {body : Store → Answer (β × Store)}
    {finish : β → Store → Answer α} {pgBody : PgStore → PgAnswer (γ × PgStore)}
    {pgFinish : γ → PgStore → PgAnswer α} {failure : Failure} (c : γ)
    (hbody : body s = .error failure) (hpgBody : pgBody p = .ok (c, p))
    (hanswer : pgFinish c p = .error (.raised failure)) (hcorresponds : Corresponds s p)
    (hregular : s.Regular) :
    Agree (Atomic.transaction body finish s) (Atomic.transaction pgBody pgFinish p) := by
  rw [transaction_of_error _ _ hbody, transaction_of_ok _ _ hpgBody, hanswer]
  exact ⟨rfl, hcorresponds, hregular⟩

/-! ## Rows read back -/

theorem pgRecordFromRow_of_sound (h : row.Sound) : pgRecordFromRow row = recordFromRow row := by
  obtain ⟨record, hrecord⟩ := JobRow.readable_iff.mpr h
  unfold pgRecordFromRow
  rw [hrecord]

theorem pgLeaseFromRow_of_sound (h : row.Sound) {workerId leaseToken : String} {expiresAt : Nat}
    (hworker : row.workerId = some workerId) (htoken : row.leaseToken = some leaseToken)
    (hexpires : row.leaseExpiresAt = some expiresAt) : pgLeaseFromRow row = leaseFromRow row := by
  unfold pgLeaseFromRow leaseFromRow
  rw [hworker, htoken, hexpires, pgRecordFromRow_of_sound h]

/-! ## Arguments -/

section

omit [Primitives]

theorem workerName_of_check {workerId worker : String} (h : checkWorkerId workerId = .ok worker) :
    btrim worker = worker ∧ isWorkerName worker = true := by
  unfold checkWorkerId at h
  simp only [] at h
  split at h
  · cases h
  · next hshape =>
    cases h
    simp only [Bool.or_eq_true, decide_eq_true_eq, any_eq_true, not_or, not_exists, not_and,
      Nat.not_lt] at hshape
    obtain ⟨⟨hempty, hlength⟩, hvisible⟩ := hshape
    refine ⟨?_, ?_⟩
    · unfold btrim
      rw [trim_eq_self, String.ofList_toList]
      intro c hc
      have hlow := (hvisible c hc).1
      rw [beq_eq_false_iff_ne]
      rintro rfl
      exact absurd hlow (by decide)
    · unfold isWorkerName
      simp only [Bool.and_eq_true, Bool.not_eq_true', decide_eq_true_eq, all_eq_true]
      refine ⟨⟨by simpa using hempty, hlength⟩, ?_⟩
      intro c hc
      exact hvisible c hc

variable {duration : Nat}

theorem checkLeaseSeconds_eq_ok {checked : Nat} (h : checkLeaseSeconds duration = .ok checked) :
    checked = duration ∧ 0 < duration := by
  unfold checkLeaseSeconds at h
  split at h
  · next hrange =>
    cases h
    rw [Bool.and_eq_true, decide_eq_true_eq] at hrange
    exact ⟨rfl, by omega⟩
  · cases h

theorem leaseDuration_natCast (h : 0 < duration) : leaseDuration (duration : Int) = duration := by
  unfold leaseDuration
  rw [if_neg (by omega)]

theorem addInterval_natCast {moment : Nat} (h : moment + duration < datetimeEnd) :
    addInterval moment duration = .ok (moment + duration) ∧
      addMicroseconds moment duration = .ok (moment + duration) := by
  unfold addInterval addMicroseconds
  refine ⟨?_, if_pos h⟩
  rw [if_pos (by omega)]
  rfl

end

/-! ## What a call is promised -/

/-- No job or schedule was stored after `now`. -/
structure Store.StoredBy (s : Store) (now : Nat) : Prop where
  submitted : ∀ row ∈ s.scanJobs.rows, row.submittedAt ≤ now
  started : ∀ row ∈ s.scanJobs.rows, row.startedAt.all (· ≤ now) = true
  created : ∀ row ∈ s.scanSchedules.rows, row.createdAt ≤ now

/-- The next value of every counter is within the range of `integer`. -/
structure Store.Room (s : Store) : Prop where
  revisions : ∀ row ∈ s.scanJobs.rows, isInteger (row.revision + 1) = true
  attempts : ∀ row ∈ s.scanJobs.rows, isInteger (row.attemptCount + 1) = true
  schedules : ∀ row ∈ s.scanSchedules.rows, isInteger (row.revision + 1) = true

omit [Primitives] in
theorem isInteger_of_succ {n : Nat} (h : isInteger (n + 1) = true) : isInteger n = true := by
  unfold isInteger at h ⊢
  rw [decide_eq_true_eq] at h ⊢
  omega

/-! ## Claims -/

section

variable {s : Store} {p : PgStore} {now leaseSeconds : Nat} {workerId worker leaseToken : String}

theorem agree_claimNextLeased (h : Corresponds s p) (hs : s.Regular) (hroom : s.Room)
    (hpast : s.StoredBy now) (hworker : checkWorkerId workerId = .ok worker)
    (hlease : checkLeaseSeconds leaseSeconds = .ok leaseSeconds)
    (hend : now + leaseSeconds < datetimeEnd) :
    Agree (claimNextLeased now workerId leaseSeconds leaseToken s)
      (p.claimNextLeased now workerId leaseSeconds leaseToken) := by
  obtain ⟨htrim, hname⟩ := workerName_of_check hworker
  have hduration := leaseDuration_natCast (checkLeaseSeconds_eq_ok hlease).2
  obtain ⟨hinterval, hsum⟩ := addInterval_natCast hend
  have hselect := h.selectClaimable_eq now
  unfold claimNextLeased PgStore.claimNextLeased
  cases hrow : s.selectClaimableRow now with
  | none =>
    rw [hrow, Option.map_none] at hselect
    refine Agree.transaction none none ?_ ?_ rfl h hs
    · unfold claimNextLeasedBody
      rw [hworker, hlease]
      simp only [bind, Except.bind, hrow]
      rfl
    · refine bind_ok_iff.mpr ⟨worker, by rw [hworker]; rfl, ?_⟩
      unfold Control.claimNextJob
      simp only [htrim, hname, hselect]
      rfl
  | some row =>
    rw [hrow, Option.map_some] at hselect
    obtain ⟨hjob, hclaim⟩ := selectClaimableRow_spec hrow
    obtain ⟨hqueued, -⟩ := claimable_iff.mp hclaim
    have hmem := (job_eq_some_iff.mp hjob).1
    have hfloor : noEarlierThan now row.submittedAt = now := if_pos (hpast.submitted row hmem)
    have hmax : max now (s.pgRow row).submittedAt = now :=
      Nat.max_eq_left (hpast.submitted row hmem)
    have hguard : (row.state == .queued && row.revision == row.revision) = true := by
      simp [hqueued]
    have hclaimed : (row.claim (noEarlierThan now row.submittedAt) (row.revision + 1)).Sound :=
      (hs.jobs _ row hjob).claim hqueued (row.revision + 1)
    rw [hfloor] at hclaimed
    have hsound : (row.claimLeased now (row.revision + 1) worker leaseToken
        (now + leaseSeconds)).Sound := hclaimed.of_lease _ _ _ _ _ rfl
    have hintegers : (row.claimLeased now (row.revision + 1) worker leaseToken
        (now + leaseSeconds)).integers = true :=
      Bool.and_eq_true_iff.mpr ⟨hroom.revisions row hmem, hroom.attempts row hmem⟩
    obtain ⟨p', hupdate, hpgRead, -, hcount, hread, hcorresponds⟩ := h.updateJob
      (fun r => r.state == .queued && r.revision == row.revision)
      (fun r => r.claimLeased now (row.revision + 1) worker leaseToken (now + leaseSeconds))
      (fun _ => ⟨rfl, rfl⟩) hjob hguard hintegers
    refine Agree.transaction
      (some (row.claimLeased now (row.revision + 1) worker leaseToken (now + leaseSeconds)))
      (some { s.pgRow row with
        toJobRow := row.claimLeased now (row.revision + 1) worker leaseToken (now + leaseSeconds) })
      ?_ ?_ ?_ hcorresponds (hs.updateJob hjob hguard hsound (by rw [hqueued]; rfl))
    · unfold claimNextLeasedBody
      rw [hworker, hlease]
      simp only [bind, Except.bind, hrow, hfloor, hsum, hcount, hread]
      rfl
    · refine bind_ok_iff.mpr ⟨worker, by rw [hworker]; rfl, ?_⟩
      unfold Control.claimNextJob
      simp only [hduration, htrim, hname, hselect, hmax, Bool.not_true, Bool.false_eq_true,
        if_false]
      refine bind_ok_iff.mpr ⟨_, hinterval, ?_⟩
      refine bind_ok_iff.mpr ⟨_, hupdate, ?_⟩
      show Except.ok (p'.job row.jobId, p') = _
      rw [hpgRead]
    · simp only [Option.elim_some]
      rw [pgLeaseFromRow_of_sound hsound rfl rfl rfl]
      cases leaseFromRow _ <;> rfl

/-! ## Renewals -/

omit [Primitives] in
theorem all_le_eq_not_any_lt (expiresAt : Option Nat) (now : Nat) :
    expiresAt.all (· ≤ now) = !expiresAt.any (now < ·) := by
  cases expiresAt with
  | none => rfl
  | some e =>
    rw [Option.all_some, Option.any_some, Bool.eq_iff_iff]
    simp

omit [Primitives] in
theorem not_held_eq (row : JobRow) (workerId leaseToken : Option String) :
    (row.state != .running || row.workerId != workerId || row.leaseToken != leaseToken)
      = !(row.state == .running && row.workerId == workerId && row.leaseToken == leaseToken) := by
  simp only [bne, Bool.not_and]

variable {jobId : String} {w : TerminalWrite}

theorem agree_renewLease (h : Corresponds s p) (hs : s.Regular) (hroom : s.Room)
    (hpast : s.StoredBy now) (hworker : checkWorkerId workerId = .ok worker)
    (hlease : checkLeaseSeconds leaseSeconds = .ok leaseSeconds)
    (hend : now + leaseSeconds < datetimeEnd) :
    Agree (renewLease jobId workerId leaseToken now leaseSeconds s)
      (p.renewLease jobId workerId leaseToken now leaseSeconds) := by
  obtain ⟨htrim, hname⟩ := workerName_of_check hworker
  have hduration := leaseDuration_natCast (checkLeaseSeconds_eq_ok hlease).2
  obtain ⟨hinterval, hsum⟩ := addInterval_natCast hend
  unfold renewLease PgStore.renewLease
  cases hjob : s.job jobId with
  | none =>
    refine Agree.refused .notFound ?_ ?_ rfl h hs
    · unfold renewLeaseBody
      rw [hworker, hlease]
      simp only [bind, Except.bind, hjob]
      rfl
    · refine bind_ok_iff.mpr ⟨worker, by rw [hworker]; rfl, ?_⟩
      have hpg : p.job jobId = none := by rw [h.jobs, hjob, Option.map_none]
      unfold Control.renewLease
      simp only [htrim, hname, hpg, Bool.not_true, Bool.false_eq_true, if_false]
  | some row =>
    have hpg := h.job_eq_some hjob
    have hmem := (job_eq_some_iff.mp hjob).1
    have hlost : ((s.pgRow row).state != .running || (s.pgRow row).workerId != some worker
        || (s.pgRow row).leaseToken != some leaseToken)
        = !(row.state == .running && row.workerId == some worker
          && row.leaseToken == some leaseToken) := not_held_eq row (some worker) (some leaseToken)
    have hunexpired : (s.pgRow row).leaseExpiresAt.all (· ≤ now)
        = !row.leaseExpiresAt.any (now < ·) := all_le_eq_not_any_lt row.leaseExpiresAt now
    by_cases hheld : (row.state == .running && row.workerId == some worker
      && row.leaseToken == some leaseToken) = true
    · by_cases hlive : row.leaseExpiresAt.any (now < ·) = true
      · -- The lease is in force: both extend it.
        have hfloor : noEarlierThan now row.submittedAt = now := if_pos (hpast.submitted row hmem)
        have hmax : max now (s.pgRow row).submittedAt = now :=
          Nat.max_eq_left (hpast.submitted row hmem)
        obtain ⟨⟨hrunning, hholder⟩, htoken⟩ : (row.state = .running ∧
            row.workerId = some worker) ∧ row.leaseToken = some leaseToken := by
          simpa using hheld
        have hguard : (row.state == .running && row.revision == row.revision
            && row.workerId == some worker && row.leaseToken == some leaseToken) = true := by
          simp [hrunning, hholder, htoken]
        have hsound : (row.renew now (now + leaseSeconds) (row.revision + 1)).Sound :=
          ((hs.jobs _ row hjob).touch (hpast.submitted row hmem) row.cancellationRequested
            _).of_lease _ _ _ _ _ rfl
        have hintegers : (row.renew now (now + leaseSeconds) (row.revision + 1)).integers = true :=
          Bool.and_eq_true_iff.mpr
            ⟨hroom.revisions row hmem, isInteger_of_succ (hroom.attempts row hmem)⟩
        obtain ⟨p', hupdate, hpgRead, -, hcount, hread, hcorresponds⟩ := h.updateJob
          (fun r => r.state == .running && r.revision == row.revision
            && r.workerId == some worker && r.leaseToken == some leaseToken)
          (fun r => r.renew now (now + leaseSeconds) (row.revision + 1)) (fun _ => ⟨rfl, rfl⟩)
          hjob hguard hintegers
        refine Agree.transaction (row.renew now (now + leaseSeconds) (row.revision + 1))
          (.ok { s.pgRow row with
            toJobRow := row.renew now (now + leaseSeconds) (row.revision + 1) })
          ?_ ?_ ?_ hcorresponds (hs.updateJob hjob hguard hsound (by rw [hrunning]; rfl))
        · unfold renewLeaseBody requireActiveLease
          rw [hworker, hlease]
          simp only [bind, Except.bind, hjob, found, ensure, hheld, hlive, hfloor, hsum, hcount,
            hread]
          rfl
        · refine bind_ok_iff.mpr ⟨worker, by rw [hworker]; rfl, ?_⟩
          unfold Control.renewLease
          simp only [hduration, htrim, hname, hpg, hlost, hheld, hunexpired, hlive, hmax,
            Bool.not_true, Bool.false_eq_true, if_false]
          refine bind_ok_iff.mpr ⟨_, hinterval, ?_⟩
          refine bind_ok_iff.mpr ⟨_, hupdate, ?_⟩
          simp only [hpgRead]
          rfl
        · show raising (pgLeaseFromRow _) = raising (leaseFromRow _)
          rw [pgLeaseFromRow_of_sound hsound hholder htoken rfl]
      · refine Agree.refused .leaseExpired ?_ ?_ rfl h hs
        · unfold renewLeaseBody requireActiveLease
          rw [hworker, hlease]
          simp only [bind, Except.bind, hjob, found, ensure, hheld, hlive]
          rfl
        · refine bind_ok_iff.mpr ⟨worker, by rw [hworker]; rfl, ?_⟩
          unfold Control.renewLease
          simp only [htrim, hname, hpg, hlost, hunexpired, Bool.not_true, Bool.false_eq_true,
            if_false]
          simp [hheld, hlive]
    · refine Agree.refused .leaseLost ?_ ?_ rfl h hs
      · unfold renewLeaseBody requireActiveLease
        rw [hworker, hlease]
        simp only [bind, Except.bind, hjob, found, ensure, hheld]
        rfl
      · refine bind_ok_iff.mpr ⟨worker, by rw [hworker]; rfl, ?_⟩
        unfold Control.renewLease
        simp only [htrim, hname, hpg, hlost, Bool.not_true, Bool.false_eq_true, if_false]
        simp [hheld]

/-! ## Terminal transitions -/

/-- Reference and digest come together, and both are well formed. -/
structure TerminalWrite.ReceiptAccepted (w : TerminalWrite) : Prop where
  together : w.safetyReceiptRef.isSome = w.safetyReceiptSha256.isSome
  reference : w.safetyReceiptRef.all isSafeReference = true
  digest : w.safetyReceiptSha256.all isSha256 = true

theorem leaseRefusal_alike (hrunning : row.state = .running) (worker leaseToken : String)
    (now : Nat) :
    (Control.leaseRefusal row (some worker) (some leaseToken) now = none ∧
      requireTerminalLease row (some worker) (some leaseToken) now = .ok ()) ∨
    ∃ outcome failure,
      Control.leaseRefusal row (some worker) (some leaseToken) now = some outcome ∧
      requireTerminalLease row (some worker) (some leaseToken) now = .error failure ∧
      terminalAnswer outcome = .error failure := by
  have hlost := not_held_eq row (some worker) (some leaseToken)
  have hunexpired := all_le_eq_not_any_lt row.leaseExpiresAt now
  unfold Control.leaseRefusal requireTerminalLease requireActiveLease
  simp only [hrunning, bne_self_eq_false, Bool.false_or, BEq.rfl, Bool.true_and] at hlost ⊢
  cases htoken : row.leaseToken with
  | none => exact Or.inr ⟨.leaseLost, leaseLost, rfl, rfl, rfl⟩
  | some token =>
    rw [htoken] at hlost
    simp only [Option.isSome_some, Option.isNone_some, Bool.or_self, hlost, hunexpired, if_true]
    cases row.workerId == some worker && some token == some leaseToken with
    | false => exact Or.inr ⟨.leaseLost, leaseLost, rfl, rfl, rfl⟩
    | true =>
      cases row.leaseExpiresAt.any (now < ·) with
      | false => exact Or.inr ⟨.leaseExpired, leaseExpired, rfl, rfl, rfl⟩
      | true => exact Or.inl ⟨rfl, rfl⟩

theorem insertReceipt_alike (moment : Nat) (h : Corresponds s p) (hs : s.Regular)
    (hreceipt : w.ReceiptAccepted) (hrow : s.job jobId = some row)
    (hterminal : row.state.isTerminal = true)
    (hfresh : s.jobSafetyReceipts.get? SafetyReceiptRow.jobId jobId = none) :
    ∃ s' p', insertReceipt s jobId w.safetyReceiptRef w.safetyReceiptSha256 moment = .ok s' ∧
      p.insertReceipt jobId w moment = .ok p' ∧ s'.job jobId = s.job jobId ∧
      p'.job jobId = p.job jobId ∧ Corresponds s' p' ∧ s'.Regular := by
  obtain ⟨htogether, hreference, hdigest⟩ := hreceipt
  unfold insertReceipt PgStore.insertReceipt
  cases href : w.safetyReceiptRef with
  | none => exact ⟨s, p, rfl, rfl, rfl, rfl, h, hs⟩
  | some reference =>
    rw [href, Option.isSome_some] at htogether
    obtain ⟨sha, hsha⟩ := Option.isSome_iff_exists.mp htogether.symm
    rw [href, Option.all_some] at hreference
    rw [hsha, Option.all_some] at hdigest
    obtain ⟨t, ht⟩ : ∃ t, s.jobSafetyReceipts.insert
        { jobId, receiptRef := reference, receiptSha256 := sha, createdAt := moment } = some t :=
      Table.exists_insert_of_get? hfresh
    obtain ⟨u, hu⟩ : ∃ u, p.jobSafetyReceipts.insert
        { jobId, receiptRef := reference, receiptSha256 := sha, createdAt := moment } = some u :=
      Table.exists_insert_of_get? ((h.receipts jobId).trans hfresh)
    refine ⟨{ s with jobSafetyReceipts := t }, { p with jobSafetyReceipts := u }, ?_, ?_, rfl, rfl,
      ?_, ?_⟩
    · unfold isSafeReference at hreference
      unfold insertSafetyReceipt
      simp only [hsha, ensure, hreference, hdigest, hrow, ht, if_true, bind, Except.bind]
      rfl
    · simp only [hsha, hu]
    · refine h.of_jobs rfl rfl h.jobs ?_
      intro j
      show u.get? SafetyReceiptRow.jobId j = t.get? SafetyReceiptRow.jobId j
      rw [Table.get?_insert ht (by simp), Table.get?_insert hu (by simp), h.receipts j]
    · refine ⟨hs.jobs, hs.schedules, hs.scopes, hs.bindings, ?_⟩
      intro j receipt hreceipt
      rw [show ({ s with jobSafetyReceipts := t } : Store).jobSafetyReceipts.get? _ j = _ from
        Table.get?_insert ht (by simp)] at hreceipt
      split at hreceipt
      · next hj =>
        rw [hj]
        exact ⟨row, hrow, hterminal⟩
      · exact hs.receipts j receipt hreceipt

omit [Primitives] in
theorem terminalRefusal_eq_none (hreceipt : w.ReceiptAccepted)
    (htoken : w.leaseToken = some leaseToken) (hworker : checkWorkerId workerId = .ok worker) :
    Control.terminalRefusal { w with workerId := some worker } = none := by
  obtain ⟨htrim, hname⟩ := workerName_of_check hworker
  have hnone : w.safetyReceiptRef.isNone = w.safetyReceiptSha256.isNone := by
    rw [← Option.not_isSome, ← Option.not_isSome, hreceipt.together]
  unfold Control.terminalRefusal
  simp [hnone, hreceipt.reference, hreceipt.digest, htoken, htrim, hname]

/-- The arguments of a leased write, which pass the checks in front of the transaction. -/
structure TerminalArguments (w : TerminalWrite) (worker leaseToken : String) : Prop where
  together : (w.safetyReceiptRef.isSome == w.safetyReceiptSha256.isSome) = true
  named : (w.workerId.isSome == w.leaseToken.isSome) = true
  checked : w.workerId.mapM checkWorkerId = .ok (some worker)
  token : w.leaseToken = some leaseToken

omit [Primitives] in
theorem terminalArguments (hreceipt : w.ReceiptAccepted) (hworkerId : w.workerId = some workerId)
    (htoken : w.leaseToken = some leaseToken) (hworker : checkWorkerId workerId = .ok worker) :
    TerminalArguments w worker leaseToken where
  together := by rw [hreceipt.together, BEq.rfl]
  named := by
    rw [hworkerId, htoken]
    rfl
  checked := by
    rw [hworkerId, Option.mapM_some, hworker]
    rfl
  token := htoken

omit [Primitives] in
theorem TerminalArguments.terminalWorker_eq (h : TerminalArguments w worker leaseToken) :
    terminalWorker w = .ok (some worker) := by
  unfold terminalWorker
  simp only [ensure, h.together, h.named, h.checked, if_true, bind, Except.bind]

theorem Store.Regular.unreceipted (hs : s.Regular) (hjob : s.job jobId = some row)
    (hrunning : row.state = .running) :
    s.jobSafetyReceipts.get? SafetyReceiptRow.jobId jobId = none := by
  cases hlookup : s.jobSafetyReceipts.get? SafetyReceiptRow.jobId jobId with
  | none => rfl
  | some receipt =>
    obtain ⟨r, hr, hterminal⟩ := hs.receipts jobId receipt hlookup
    rw [hjob] at hr
    cases hr
    rw [hrunning] at hterminal
    cases hterminal

theorem terminalUpdate_closes {op : Op} (h : Corresponds s p) (hs : s.Regular) (hroom : s.Room)
    (hop : op.terminalWrite = some (jobId, w, now)) (haccepted : w.Accepted)
    (hreceipt : w.ReceiptAccepted) (harguments : TerminalArguments w worker leaseToken)
    (hworker : checkWorkerId workerId = .ok worker) (hjob : s.job jobId = some row)
    (hrunning : row.state = .running)
    (hpgLease : Control.leaseRefusal row (some worker) w.leaseToken now = none)
    (hlease : requireTerminalLease row (some worker) w.leaseToken now = .ok ()) :
    ∃ closed s' p', closed.Sound ∧ terminalUpdateBody jobId w now s = .ok (closed, s') ∧
      Control.terminalTransition jobId { w with workerId := some worker } now p
        = .ok (.ok { s.pgRow row with toJobRow := closed }, p') ∧
      Corresponds s' p' ∧ s'.Regular := by
  obtain ⟨htrim, -⟩ := workerName_of_check hworker
  have hrefusal := terminalRefusal_eq_none hreceipt harguments.token hworker
  have hpg := h.job_eq_some hjob
  have hmem := (job_eq_some_iff.mp hjob).1
  have hsound := hs.jobs jobId row hjob
  obtain ⟨record, hrecord⟩ := JobRow.readable_iff.mpr hsound
  obtain ⟨-, hstate, hrevision, hstarted, hsubmitted⟩ := recordFromRow_keeps hrecord
  obtain ⟨-, hholder, hheld, -⟩ : row.state = .running ∧ row.workerId = some worker ∧
      row.leaseToken = some leaseToken ∧ ∃ e, row.leaseExpiresAt = some e ∧ now < e := by
    have hactive := hlease
    rw [harguments.token] at hactive
    unfold requireTerminalLease at hactive
    split at hactive
    · exact requireActiveLease_eq_ok.mp hactive
    · cases hactive
  have hguard : (row.state == .running && row.revision == row.revision
      && ((some worker).isNone || (row.workerId == some worker
        && row.leaseToken == w.leaseToken))) = true := by
    simp [hrunning, hholder, hheld, harguments.token]
  have hclosed : (row.terminate w (max now (row.startedAt.getD row.submittedAt))
      (row.revision + 1)).Sound := by
    rw [← noEarlierThan_eq_max]
    exact hsound.terminate hop haccepted hrunning _
  have hintegers : (row.terminate w (max now (row.startedAt.getD row.submittedAt))
      (row.revision + 1)).integers = true :=
    Bool.and_eq_true_iff.mpr
      ⟨hroom.revisions row hmem, isInteger_of_succ (hroom.attempts row hmem)⟩
  obtain ⟨p₁, hupdate, hpgRead, -, hcount, hread, hcorresponds⟩ := h.updateJob
    (fun r => r.state == .running && r.revision == row.revision
      && ((some worker).isNone || (r.workerId == some worker
        && r.leaseToken == w.leaseToken)))
    (fun r => r.terminate w (max now (row.startedAt.getD row.submittedAt)) (row.revision + 1))
    (fun _ => ⟨rfl, rfl⟩) hjob hguard hintegers
  obtain ⟨s₂, p₂, hreceipt₂, hpgReceipt₂, hread₂, hpgRead₂, hcorresponds₂, hregular₂⟩ :=
    insertReceipt_alike (max now (row.startedAt.getD row.submittedAt)) hcorresponds
      (hs.updateJob hjob hguard hclosed (by rw [hrunning]; rfl)) hreceipt hread
      (Op.isTerminal_of_terminalWrite hop) (hs.unreceipted hjob hrunning)
  refine ⟨_, s₂, p₂, hclosed, ?_, ?_, hcorresponds₂, hregular₂⟩
  · unfold terminalUpdateBody
    simp only [ensure, harguments.together, harguments.named, harguments.checked, hjob, found,
      hrecord, hstate, hrunning, BEq.rfl, hlease, hrevision, hstarted, hsubmitted,
      noEarlierThan_eq_max, hcount, hreceipt₂, hread₂, hread, if_true, bind, Except.bind]
    rfl
  · unfold Control.terminalTransition
    simp only [hrefusal, hpg, Option.map_some, htrim]
    rw [show Control.leaseRefusal (s.pgRow row).toJobRow _ _ now = none from hpgLease]
    refine bind_ok_iff.mpr ⟨_, hupdate, ?_⟩
    refine bind_ok_iff.mpr ⟨_, hpgReceipt₂, ?_⟩
    simp only [hpgRead₂, hpgRead]
    rfl

theorem agree_terminalUpdate {op : Op} (h : Corresponds s p) (hs : s.Regular) (hroom : s.Room)
    (hop : op.terminalWrite = some (jobId, w, now)) (haccepted : w.Accepted)
    (hreceipt : w.ReceiptAccepted) (hworkerId : w.workerId = some workerId)
    (htoken : w.leaseToken = some leaseToken) (hworker : checkWorkerId workerId = .ok worker) :
    Agree (terminalUpdate jobId w now s) (p.terminalUpdate jobId w now) := by
  obtain ⟨htrim, -⟩ := workerName_of_check hworker
  have hrefusal := terminalRefusal_eq_none hreceipt htoken hworker
  have harguments := terminalArguments hreceipt hworkerId htoken hworker
  unfold terminalUpdate PgStore.terminalUpdate
  simp only [harguments.terminalWorker_eq]
  cases hjob : s.job jobId with
  | none =>
    have hpg : p.job jobId = none := by rw [h.jobs, hjob, Option.map_none]
    refine Agree.refused .notFound ?_ ?_ rfl h hs
    · unfold terminalUpdateBody
      simp only [ensure, harguments.together, harguments.named, harguments.checked, hjob, if_true,
        bind, Except.bind]
      rfl
    · show Control.terminalTransition jobId { w with workerId := some worker } now p = _
      unfold Control.terminalTransition
      simp only [hrefusal, hpg]
  | some row =>
    have hpg := h.job_eq_some hjob
    obtain ⟨record, hrecord⟩ := JobRow.readable_iff.mpr (hs.jobs jobId row hjob)
    obtain ⟨-, hstate, -⟩ := recordFromRow_keeps hrecord
    by_cases hrunning : row.state = .running
    · have halike := leaseRefusal_alike hrunning worker leaseToken now
      rw [← htoken] at halike
      rcases halike with ⟨hpgLease, hlease⟩ | ⟨outcome, failure, hpgLease, hlease, hanswer⟩
      · obtain ⟨closed, s', p', hclosed, hbody, hpgBody, hcorresponds, hregular⟩ :=
          terminalUpdate_closes h hs hroom hop haccepted hreceipt harguments hworker hjob hrunning
            hpgLease hlease
        refine Agree.transaction closed (.ok { s.pgRow row with toJobRow := closed }) hbody hpgBody
          ?_ hcorresponds hregular
        simp only [terminalAnswer]
        rw [pgRecordFromRow_of_sound hclosed]
      · refine Agree.refused outcome ?_ ?_ (by rw [hanswer]; rfl) h hs
        · unfold terminalUpdateBody
          simp only [ensure, harguments.together, harguments.named, harguments.checked, hjob, found,
            hrecord, hstate, hrunning, BEq.rfl, hlease, if_true, bind, Except.bind]
        · show Control.terminalTransition jobId { w with workerId := some worker } now p = _
          unfold Control.terminalTransition
          simp only [hrefusal, hpg, Option.map_some, htrim]
          rw [show Control.leaseRefusal (s.pgRow row).toJobRow _ _ now = some outcome from hpgLease]
    · refine Agree.refused .invalidState ?_ ?_ rfl h hs
      · unfold terminalUpdateBody
        simp [ensure, harguments.together, harguments.named, harguments.checked, hjob, found,
          hrecord, hstate, hrunning, bind, Except.bind]
      · have hpgLease : Control.leaseRefusal (s.pgRow row).toJobRow (some worker) w.leaseToken now
            = some .invalidState := by
          unfold Control.leaseRefusal
          rw [if_pos]
          exact bne_iff_ne.mpr hrunning
        show Control.terminalTransition jobId { w with workerId := some worker } now p = _
        unfold Control.terminalTransition
        simp only [hrefusal, hpg, Option.map_some, htrim, hpgLease]

/-! ## Recovery -/

omit [Primitives] in
theorem recoverRow_alike (now limit : Nat) (h : Corresponds s p)
    (hjob : s.job row.jobId = some row) (hrevision : isInteger (row.revision + 1) = true)
    (hattempts : isInteger row.attemptCount = true) (summary : LeaseRecoverySummary) :
    ∃ p', Control.recoverRow now limit (p, summary) (s.pgRow row)
        = .ok (p', (recoverRow now limit (s, summary) row).2) ∧
      Corresponds (recoverRow now limit (s, summary) row).1 p' := by
  have hmoment : noEarlierThan now row.submittedAt = max now row.submittedAt :=
    noEarlierThan_eq_max _ _
  have hlimit : (limit : Int) ≤ (row.attemptCount : Int) ↔ limit ≤ row.attemptCount :=
    Int.ofNat_le
  -- Whatever a turn sets, it sets it where the revision is the one that was selected.
  have hupdate : ∀ (f : Nat → JobRow → JobRow)
      (hf : ∀ n r, (f n r).jobId = r.jobId ∧ (f n r).idempotencyKey = r.idempotencyKey),
      (f (row.revision + 1) row).integers = true →
      ∃ p', p.updateJob row.jobId
          (fun r => r.state == .running && r.revision == row.revision
            && row.leaseToken.isSome && r.leaseToken == row.leaseToken)
          (fun r => f (r.revision + 1) r) (fun r => hf (r.revision + 1) r)
          = .ok (p', (s.updateJob row.jobId
            (fun r => r.state == .running && r.revision == row.revision
              && row.leaseToken.isSome && r.leaseToken == row.leaseToken)
            (f (row.revision + 1)) (hf (row.revision + 1))).2) ∧
        Corresponds (s.updateJob row.jobId
          (fun r => r.state == .running && r.revision == row.revision
            && row.leaseToken.isSome && r.leaseToken == row.leaseToken)
          (f (row.revision + 1)) (hf (row.revision + 1))).1 p' := by
    intro f hf hintegers
    exact h.updateJob_alike _ _ _ _ _ hjob (fun _ => rfl) fun _ => hintegers
  have hintegers := Bool.and_eq_true_iff.mpr ⟨hrevision, hattempts⟩
  unfold Control.recoverRow recoverRow
  by_cases hflag : row.cancellationRequested = true
  · obtain ⟨p', hpg, hcorresponds⟩ := hupdate
      (fun revision r => r.recoverCancelled (max now row.submittedAt) revision)
      (fun _ _ => ⟨rfl, rfl⟩) hintegers
    simp only [hmoment, hflag, if_true]
    exact ⟨p', (if_pos hflag).trans (bind_ok_iff.mpr ⟨_, hpg, rfl⟩), hcorresponds⟩
  · simp only [hmoment, hflag, Bool.false_eq_true, if_false]
    by_cases hexhausted : limit ≤ row.attemptCount
    · obtain ⟨p', hpg, hcorresponds⟩ := hupdate
        (fun revision r => r.recoverFailed (max now row.submittedAt) revision)
        (fun _ _ => ⟨rfl, rfl⟩) hintegers
      simp only [hexhausted, if_true]
      refine ⟨p', (if_neg hflag).trans ((if_pos (hlimit.mpr hexhausted)).trans ?_), hcorresponds⟩
      exact bind_ok_iff.mpr ⟨_, hpg, rfl⟩
    · obtain ⟨p', hpg, hcorresponds⟩ := hupdate
        (fun revision r => r.requeue (max now row.submittedAt) revision)
        (fun _ _ => ⟨rfl, rfl⟩) hintegers
      simp only [hexhausted, if_false]
      refine ⟨p', (if_neg hflag).trans ((if_neg (fun hle => hexhausted (hlimit.mp hle))).trans ?_),
        hcorresponds⟩
      exact bind_ok_iff.mpr ⟨_, hpg, rfl⟩

omit [Primitives] in
theorem foldl_recoverRow_alike (now limit : Nat) (rows : List JobRow) (h : Corresponds s p)
    (hnodup : (rows.map JobRow.jobId).Nodup)
    (hrows : ∀ row ∈ rows, s.job row.jobId = some row ∧ row.state = .running ∧
      isInteger (row.revision + 1) = true ∧ isInteger row.attemptCount = true)
    (summary : LeaseRecoverySummary) :
    ∃ p', (rows.map s.pgRow).foldlM (Control.recoverRow now limit) (p, summary)
        = .ok (p', (rows.foldl (recoverRow now limit) (s, summary)).2) ∧
      Corresponds (rows.foldl (recoverRow now limit) (s, summary)).1 p' := by
  induction rows generalizing s p summary with
  | nil => exact ⟨p, rfl, h⟩
  | cons row rest ih =>
    rw [map_cons, nodup_cons] at hnodup
    obtain ⟨hnot, hrest⟩ := hnodup
    obtain ⟨hjob, hrunning, hrevision, hattempts⟩ := hrows row (by simp)
    obtain ⟨p₁, hturn, hcorresponds⟩ := recoverRow_alike now limit h hjob hrevision hattempts
      summary
    have hframe := recoverRow_frame now limit (s, summary) row
    have hpgRow : (recoverRow now limit (s, summary) row).1.pgRow = s.pgRow := by
      rw [hframe]
      rfl
    have hlater : ∀ r ∈ rest, (recoverRow now limit (s, summary) row).1.job r.jobId = some r ∧
        r.state = .running ∧ isInteger (r.revision + 1) = true ∧
        isInteger r.attemptCount = true := by
      intro r hr
      have hne : r.jobId ≠ row.jobId := by
        intro he
        exact hnot (he ▸ mem_map_of_mem hr)
      have hother : (recoverRow now limit (s, summary) row).1.job r.jobId = s.job r.jobId :=
        (job_recoverRow hjob hrunning r.jobId).trans (if_neg hne)
      rw [hother]
      exact hrows r (by simp [hr])
    obtain ⟨p₂, hloop, hend⟩ := ih hcorresponds hrest hlater
      (recoverRow now limit (s, summary) row).2
    refine ⟨p₂, ?_, hend⟩
    rw [map_cons, foldlM_cons, foldl_cons]
    rw [hpgRow] at hloop
    exact bind_ok_iff.mpr ⟨_, hturn, hloop⟩

theorem Store.Regular.recovered {s' : Store} {limit : Nat} (h : s.Regular)
    (hframe : s' = { s with scanJobs := s'.scanJobs })
    (hjob : ∀ j, s'.job j = (s.job j).map
      (fun r => if r.leaseExpired now = true then r.recovered now limit else r))
    (hpast : s.StoredBy now) : s'.Regular := by
  have hsome : ∀ j, (s.job j).isSome = true → (s'.job j).isSome = true := by
    intro j hj
    rw [hjob, Option.isSome_map]
    exact hj
  refine ⟨?_, ?_, ?_, ?_, ?_⟩
  · intro j r hr
    rw [hjob] at hr
    obtain ⟨row, hrow, rfl⟩ := Option.map_eq_some_iff.mp hr
    split
    · next hexpired =>
      refine (h.jobs j row hrow).recovered (JobRow.leaseExpired_iff.mp hexpired).1 ?_
      intro start _ hstart
      have hstarted := hpast.started row (job_eq_some_iff.mp hrow).1
      rw [hstart, Option.all_some, decide_eq_true_eq] at hstarted
      exact Nat.le_trans hstarted (Nat.le_max_left _ _)
    · exact h.jobs j row hrow
  · rw [hframe]
    exact h.schedules
  · intro j scope hscope
    rw [hframe] at hscope
    exact hsome j (h.scopes j scope hscope)
  · intro j binding hbinding
    rw [hframe] at hbinding
    exact hsome j (h.bindings j binding hbinding)
  · intro j receipt hreceipt
    rw [hframe] at hreceipt
    obtain ⟨row, hrow, hterminal⟩ := h.receipts j receipt hreceipt
    -- A finished job is not running, so the recovery passed it by.
    have hlive : ¬ row.leaseExpired now = true := by
      intro hexpired
      rw [(JobRow.leaseExpired_iff.mp hexpired).1] at hterminal
      cases hterminal
    exact ⟨row, by rw [hjob, hrow, Option.map_some, if_neg hlive], hterminal⟩

theorem agree_recoverExpiredLeases {maximumAttempts : Nat} (h : Corresponds s p) (hs : s.Regular)
    (hroom : s.Room) (hpast : s.StoredBy now)
    (hlimit : checkMaximumAttempts maximumAttempts = .ok maximumAttempts) :
    Agree (recoverExpiredLeases now maximumAttempts s)
      (p.recoverExpiredLeases now maximumAttempts) := by
  have hrange := (checkMaximumAttempts_eq_ok.mp hlimit).2.1
  have hattempts : attemptLimit (maximumAttempts : Int) = maximumAttempts := by
    unfold attemptLimit
    rw [if_neg (by omega)]
  have hrows : ∀ row ∈ s.expiredRows now, s.job row.jobId = some row ∧ row.state = .running ∧
      isInteger (row.revision + 1) = true ∧ isInteger row.attemptCount = true := by
    intro row hrow
    obtain ⟨hmem, hexpired⟩ := mem_expiredRows.mp hrow
    exact ⟨job_eq_some_iff.mpr ⟨hmem, rfl⟩, (JobRow.leaseExpired_iff.mp hexpired).1,
      hroom.revisions row hmem, isInteger_of_succ (hroom.attempts row hmem)⟩
  obtain ⟨p', hloop, hcorresponds⟩ := foldl_recoverRow_alike now maximumAttempts
    (s.expiredRows now) h (s.expiredRows_nodup now) hrows {}
  have hbody : recoverExpiredLeasesBody now maximumAttempts s
      = .ok (((s.expiredRows now).foldl (recoverRow now maximumAttempts) (s, {})).2,
        ((s.expiredRows now).foldl (recoverRow now maximumAttempts) (s, {})).1) := by
    unfold recoverExpiredLeasesBody
    rw [hlimit]
    rfl
  unfold recoverExpiredLeases PgStore.recoverExpiredLeases
  refine Agree.transaction _ _ hbody ?_ rfl hcorresponds ?_
  · unfold Control.recoverExpiredLeases
    rw [hattempts, h.expiredRows_eq]
    exact bind_ok_iff.mpr ⟨_, hloop, rfl⟩
  · obtain ⟨-, hframe, hjob⟩ := job_recover hbody
    exact hs.recovered hframe hjob hpast

end

end

end WebGuard
