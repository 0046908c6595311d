import WebGuard.Store.Refinement

/-!
# Fencing and finality

Any number of workers call the store in any order, with clocks that need not agree. Whoever has
lost the lease of a job changes nothing, and a job that is terminal stays as it is.

A token is a `uuid4`. That no two claims draw the same one is the hypothesis `Nodup` on the
tokens of a history.
-/

namespace WebGuard

open FencedLease Atomic Store

section

variable [Primitives]

/-! ## Finality -/

variable {s : Store} {op : Op} {row : JobRow} {j token : String}

theorem RowStep.not_terminal {row' : JobRow} (h : RowStep s op row row') :
    row.state.isTerminal = false := by
  cases h with
  | claim hclaim => rw [(claimable_iff.mp hclaim).1]; rfl
  | claimLeased hclaim hworker => rw [(claimable_iff.mp hclaim).1]; rfl
  | renew hid hworker hactive => rw [(requireActiveLease_eq_ok.mp hactive).1]; rfl
  | recover hlimit hexpired htoken =>
    rw [(JobRow.leaseExpired_iff.mp hexpired).1]
    rfl
  | cancelQueued hid hread hstate => rw [hstate]; rfl
  | flagCancellation hid hread hstate => rw [hstate]; rfl
  | terminate hop hid hread hstate hworker hlease => rw [hstate]; rfl

theorem terminal_apply (h : s.job j = some row) (hterminal : row.state.isTerminal = true)
    (op : Op) : (s.apply op).job j = some row := by
  obtain ⟨row', hrow', rfl | hstep⟩ := job_apply_isSome h op
  · exact hrow'
  · rw [hstep.not_terminal] at hterminal
    simp at hterminal

theorem terminal_run (h : s.job j = some row) (hterminal : row.state.isTerminal = true)
    (ops : List Op) : (s.run ops).job j = some row := by
  refine Runs.run_induction (P := fun t : Store => t.job j = some row) ?_ h ops
  intro t op ht
  exact terminal_apply ht hterminal op

/-- The job is in a terminal state. -/
def Store.terminal (s : Store) (j : String) : Bool :=
  (s.job j).any (fun row => row.state.isTerminal)

/-- The call moves the job into a terminal state. -/
def becomesTerminal (j : String) (s : Store) (op : Op) : Bool :=
  !s.terminal j && (s.apply op).terminal j

theorem terminal_flag_apply (h : s.terminal j = true) (op : Op) :
    (s.apply op).terminal j = true := by
  unfold terminal at h ⊢
  obtain ⟨row, hrow, hterminal⟩ := (Option.any_eq_true _ _).mp h
  rw [terminal_apply hrow hterminal op]
  exact hterminal

theorem becomesTerminal_at_most_once (j : String) (s : Store) (ops : List Op) :
    Runs.occurrences apply (becomesTerminal j) s ops ≤ 1 := by
  refine Runs.occurrences_le_one (D := fun t => t.terminal j = true) ?_ ?_ ?_ s ops
  · intro t op h
    unfold becomesTerminal at h
    rw [Bool.and_eq_true] at h
    exact h.2
  · intro t op h
    exact terminal_flag_apply h op
  · intro t op h
    unfold becomesTerminal
    rw [h]
    rfl

/-! ## Fencing -/

variable {jobId : String} {w : TerminalWrite} {now : Nat}

theorem apply_of_terminalWrite (h : op.terminalWrite = some (jobId, w, now)) :
    s.apply op = (terminalUpdate jobId w now s).2 := by
  cases op with
  | finishResult j credential outcome receipt n =>
    obtain ⟨state, hstate, h⟩ := Option.map_eq_some_iff.mp h
    cases h
    show (finishResult _ _ _ _ _ s).2 = _
    unfold finishResult
    rw [hstate]
  | complete j state outcome n =>
    unfold Op.terminalWrite at h
    simp only at h
    split at h
    · next hstate =>
      cases h
      show (complete _ _ _ _ s).2 = _
      unfold complete finishResult
      rcases hstate.2 with rfl | rfl <;> simp [hstate.1]
    · simp at h
  | fail j credential code message receipt n => cases h; rfl
  | cancelRunning j credential n => cases h; rfl
  | _ => simp [Op.terminalWrite] at h

theorem terminal_write_fenced (hop : op.terminalWrite = some (jobId, w, now))
    (htoken : w.leaseToken = some token)
    (heffect : s.apply op ≠ s) :
    ∃ row workerId worker expires, s.job jobId = some row ∧ row.state = .running ∧
      w.workerId = some workerId ∧ checkWorkerId workerId = .ok worker ∧
      row.workerId = some worker ∧ row.leaseToken = some token ∧
      row.leaseExpiresAt = some expires ∧ now < expires := by
  rw [apply_of_terminalWrite hop] at heffect
  unfold terminalUpdate at heffect
  rcases transaction_state (terminalUpdateBody jobId w now)
    (fun written _ => recordFromRow written) s with h | ⟨written, h⟩
  · exact absurd h heffect
  · obtain ⟨row, record, holder, hid, -, hstate, hworker, hlease, -, hreplaced⟩ :=
      terminalUpdateBody_ok h
    have hrow := hreplaced.old
    rw [hid] at hrow
    -- A write that names a token has gone through the check of the active lease.
    rcases hlease with ⟨worker, token', rfl, htoken', hactive⟩ | ⟨-, hnone, -⟩
    · rw [htoken] at htoken'
      cases htoken'
      obtain ⟨-, hholder, hheld, expires, hexpires, hlt⟩ := requireActiveLease_eq_ok.mp hactive
      obtain ⟨workerId, hworkerId⟩ : ∃ v, w.workerId = some v := by
        rw [← Option.isSome_iff_exists, ← (isSome_of_mapM_checkWorkerId hworker).1]
        rfl
      obtain ⟨worker', hworker', hchecked⟩ :=
        (isSome_of_mapM_checkWorkerId hworker).2 workerId hworkerId
      cases hworker'
      exact ⟨row, workerId, worker, expires, hrow, hstate, hworkerId, hchecked, hholder, hheld,
        hexpires, hlt⟩
    · rw [htoken] at hnone
      simp at hnone

/-! ## Tokens that were lost -/

/-- The token a leased claim draws. -/
def Op.claimToken : Op → Option String
  | .claimNextLeased _ _ _ leaseToken => some leaseToken
  | _ => none

/-- The tokens drawn along a history. -/
def claimTokens (ops : List Op) : List String := ops.filterMap Op.claimToken

/-- The job carries the token. -/
def Store.Holds (s : Store) (j token : String) : Prop :=
  ∃ row, s.job j = some row ∧ row.leaseToken = some token

omit [Primitives] in
theorem Store.holds_iff :
    s.Holds j token ↔ (s.job j).any (fun row => row.leaseToken == some token) = true := by
  rw [Option.any_eq_true]
  simp [Store.Holds]

instance (s : Store) (j token : String) : Decidable (s.Holds j token) :=
  decidable_of_iff _ holds_iff.symm

/-- A renewal or a terminal write of the job under the token. -/
def Op.Presents (op : Op) (j token : String) : Prop :=
  (∃ workerId now leaseSeconds, op = .renewLease j workerId token now leaseSeconds) ∨
  ∃ w now, op.terminalWrite = some (j, w, now) ∧ w.leaseToken = some token

theorem not_holds_apply (hcolumns : s.AllJobs JobRow.LeaseColumns) (h : ¬ s.Holds j token)
    (hfresh : op.claimToken ≠ some token) : ¬ (s.apply op).Holds j token := by
  rintro ⟨row', hrow', htoken⟩
  rcases job_apply s op j with hsame | ⟨-, -, request, hnew, -⟩ | ⟨row, r', hrow, hr', hstep⟩
  · exact h ⟨row', by rw [← hsame, hrow'], htoken⟩
  · rw [hnew] at hrow'
    cases hrow'
    simp [newJobRow] at htoken
  · rw [hr'] at hrow'
    cases hrow'
    have hc := hcolumns j row hrow
    -- In the lease machine the token is spent, and only an acquire draws a token.
    have hspent : Spent token row.lease := by
      rw [hc.spent_iff]
      intro ht
      exact h ⟨row, hrow, ht⟩
    obtain ⟨a, hperforms, ha⟩ := hstep.refines hc
    have hspent' : Spent token row'.lease := by
      refine hspent.step ha ?_
      rintro holder rfl
      cases hperforms
      exact hfresh rfl
    exact (hstep.leaseColumns hc).spent_iff.mp hspent' htoken

theorem not_holds_run {ops : List Op} (hcolumns : s.AllJobs JobRow.LeaseColumns)
    (h : ¬ s.Holds j token) (hfresh : token ∉ claimTokens ops) : ¬ (s.run ops).Holds j token := by
  have halong : Runs.Along apply (fun _ op => op.claimToken ≠ some token) s ops := by
    refine Runs.along_of_forall ?_
    intro op hop htoken
    exact hfresh (List.mem_filterMap.mpr ⟨op, hop, htoken⟩)
  refine (Runs.along_induction
    (P := fun t : Store => t.AllJobs JobRow.LeaseColumns ∧ ¬ t.Holds j token) ?_
    ⟨hcolumns, h⟩ halong).2
  intro t op ht hop
  exact ⟨leaseColumns_apply ht.1 op, not_holds_apply ht.1 ht.2 hop⟩

theorem mem_claimTokens_of_holds {ops : List Op} (h : (empty.run ops).Holds j token) :
    token ∈ claimTokens ops := by
  by_contra hnot
  refine not_holds_run (allJobs_empty _) ?_ hnot h
  rintro ⟨row, hrow, -⟩
  cases hrow

theorem apply_of_not_holds (h : ¬ s.Holds j token) (hop : op.Presents j token) :
    s.apply op = s := by
  rcases hop with ⟨workerId, now, leaseSeconds, rfl⟩ | ⟨w, now, hop, htoken⟩
  · show (renewLease j workerId token now leaseSeconds s).2 = s
    unfold renewLease
    rcases transaction_state (renewLeaseBody j workerId token now leaseSeconds)
      (fun renewed _ => leaseFromRow renewed) s with hsame | ⟨renewed, hbody⟩
    · exact hsame
    · obtain ⟨row, worker, expiresAt, hid, -, hactive, -, hreplaced⟩ := renewLeaseBody_ok hbody
      have hrow := hreplaced.old
      rw [hid] at hrow
      exact absurd ⟨row, hrow, (requireActiveLease_eq_ok.mp hactive).2.2.1⟩ h
  · by_contra heffect
    obtain ⟨row, -, -, -, hrow, -, -, -, -, hheld, -⟩ := terminal_write_fenced hop htoken heffect
    exact h ⟨row, hrow, hheld⟩

theorem stale_lease_powerless {before between after : List Op}
    (hfresh : (claimTokens (before ++ between ++ after)).Nodup)
    (hheld : (empty.run before).Holds j token)
    (hlost : ¬ (empty.run (before ++ between)).Holds j token) (hop : op.Presents j token) :
    (empty.run (before ++ between ++ after)).apply op
      = empty.run (before ++ between ++ after) := by
  have hdrawn := mem_claimTokens_of_holds hheld
  -- The token was drawn before it was lost, so no later claim draws it again.
  have hnot : token ∉ claimTokens after := by
    intro hlater
    unfold claimTokens at hfresh hlater hdrawn
    rw [List.filterMap_append, List.filterMap_append, List.nodup_append] at hfresh
    exact hfresh.2.2 token (List.mem_append_left _ hdrawn) token hlater rfl
  refine apply_of_not_holds ?_ hop
  have hrun : empty.run (before ++ between ++ after)
      = (empty.run (before ++ between)).run after := Runs.run_append _ _ _ _
  rw [hrun]
  exact not_holds_run (leaseColumns_run _) hlost hnot

/-- **Lease fencing and terminal finality.**

For every history of calls from the empty store, at every point of it:
a leased terminal write takes effect only under its own unexpired lease; the holder of a token
the job has lost changes nothing; the job becomes terminal at most once; a terminal row stays as
it is; and a row that changes goes up by one revision. -/
theorem lease_fencing (ops : List Op) (hfresh : (claimTokens ops).Nodup) (j : String) :
    (∀ before op after w now token, ops = before ++ op :: after →
      op.terminalWrite = some (j, w, now) → w.leaseToken = some token →
      (empty.run before).apply op ≠ empty.run before →
      ∃ row workerId worker expires, (empty.run before).job j = some row ∧
        row.state = .running ∧ w.workerId = some workerId ∧
        checkWorkerId workerId = .ok worker ∧ row.workerId = some worker ∧
        row.leaseToken = some token ∧ row.leaseExpiresAt = some expires ∧ now < expires) ∧
    (∀ before between later op after token, ops = before ++ between ++ later ++ op :: after →
      (empty.run before).Holds j token →
      ¬ (empty.run (before ++ between)).Holds j token → op.Presents j token →
      (empty.run (before ++ between ++ later)).apply op
        = empty.run (before ++ between ++ later)) ∧
    Runs.occurrences apply (becomesTerminal j) empty ops ≤ 1 ∧
    (∀ before after row, ops = before ++ after → (empty.run before).job j = some row →
      row.state.isTerminal = true → (empty.run ops).job j = some row) ∧
    (∀ before op after row, ops = before ++ op :: after →
      (empty.run before).job j = some row →
      ∃ row', (empty.run (before ++ [op])).job j = some row' ∧
        (row' = row ∨ row'.revision = row.revision + 1)) := by
  refine ⟨?_, ?_, becomesTerminal_at_most_once j _ ops, ?_, ?_⟩
  · intro before op after w now token _ hop htoken heffect
    exact terminal_write_fenced hop htoken heffect
  · intro before between later op after token hops hheld hlost hop
    refine stale_lease_powerless ?_ hheld hlost hop
    rw [hops] at hfresh
    unfold claimTokens at hfresh ⊢
    rw [List.filterMap_append] at hfresh
    exact (List.nodup_append.mp hfresh).1
  · intro before after row hops hrow hterminal
    rw [hops]
    unfold run
    rw [Runs.run_append]
    exact terminal_run hrow hterminal after
  · intro before op after row _ hrow
    unfold run
    rw [Runs.run_append]
    obtain ⟨row', hrow', rfl | hstep⟩ := job_apply_isSome hrow op
    · exact ⟨row', hrow', Or.inl rfl⟩
    · obtain ⟨a, -, ha⟩ := hstep.refines (leaseColumns_run before j row hrow)
      exact ⟨row', hrow', Or.inr ha.version_succ⟩

end

def lostLeaseHistory : List (@Op samplePrimitives) :=
  letI := samplePrimitives
  [.submit sampleRequest sampleJobId none none none none,
    .claimNextLeased 200 "worker-a" 1000000 "token-a",
    .recoverExpiredLeases 2000000 3,
    .claimNextLeased 2000000 "worker-b" 1000000 "token-b",
    .fail sampleJobId (some ⟨"worker-a", "token-a"⟩) "scan_failed" "Late." {} 2000001]

/-- At the end of that history the late report has changed nothing. -/
theorem lease_fencing_lostLease :
    letI := samplePrimitives
    (claimTokens lostLeaseHistory).Nodup ∧
      (empty.run (lostLeaseHistory.take 2)).Holds sampleJobId "token-a" ∧
      ¬ (empty.run (lostLeaseHistory.take 4)).Holds sampleJobId "token-a" ∧
      empty.run lostLeaseHistory = empty.run (lostLeaseHistory.take 4) := by
  let _ := samplePrimitives
  have hfresh : (claimTokens lostLeaseHistory).Nodup := by decide
  have hheld : (empty.run (lostLeaseHistory.take 2)).Holds sampleJobId "token-a" := by
    decide
  have hlost : ¬ (empty.run (lostLeaseHistory.take 4)).Holds sampleJobId "token-a" := by
    decide
  refine ⟨hfresh, hheld, hlost, ?_⟩
  exact (lease_fencing lostLeaseHistory hfresh sampleJobId).2.1 (lostLeaseHistory.take 2)
    ((lostLeaseHistory.drop 2).take 2) [] _ [] "token-a" rfl hheld hlost
    (Or.inr ⟨_, _, rfl, rfl⟩)

end WebGuard
