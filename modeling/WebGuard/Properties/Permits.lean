import WebGuard.Store.Operations

/-!
# One running job for a permit

The exclusion lives in the `NOT EXISTS` clause of the claim. It is an invariant of the whole
store because nothing else starts a job and no call rebinds one: a job that runs after a call
ran before it, or was claimed by it under a permit that no running job was bound to
(`runsUnder_apply`), and one claim starts one job (`changed_unique`).
-/

namespace WebGuard

open Store

variable [Primitives]

/-- The job runs and is bound to the permit. -/
def Store.RunsUnder (s : Store) (j permitId : String) : Prop :=
  ∃ row binding, s.job j = some row ∧ row.state = .running ∧ s.binding j = some binding ∧
    binding.permitId = permitId

variable {s : Store} {j : String} {row : JobRow} {op : Op}

omit [Primitives] in
theorem permitRunning_of_runsUnder {permitId : String} (h : s.RunsUnder j permitId) :
    s.permitRunning permitId = true := by
  obtain ⟨row, binding, hrow, hstate, hbinding, hpermit⟩ := h
  obtain ⟨hmem, hid⟩ := job_eq_some_iff.mp hrow
  unfold permitRunning
  rw [List.any_eq_true]
  refine ⟨row, hmem, ?_⟩
  simp [hstate, hid, hbinding, hpermit]

omit [Primitives] in
theorem permitRunning_of_claimable {now : Nat} {binding : JobPermitRow}
    (h : s.claimable now row = true) (hbinding : s.binding row.jobId = some binding) :
    s.permitRunning binding.permitId = false := by
  obtain ⟨-, -, -, hpermit⟩ := claimable_iff.mp h
  unfold permitClaimable at hpermit
  simp only [hbinding, Bool.and_eq_true, Bool.not_eq_true'] at hpermit
  exact hpermit.2

theorem RowStep.running {row' : JobRow} (h : RowStep s op row row')
    (hrunning : row'.state = .running) :
    row.state = .running ∨
      (∃ now, s.claimable now row = true) ∧ ∀ now limit, op ≠ .recoverExpiredLeases now limit := by
  cases h with
  | claim hclaim => exact Or.inr ⟨⟨_, hclaim⟩, by simp⟩
  | claimLeased hclaim hworker => exact Or.inr ⟨⟨_, hclaim⟩, by simp⟩
  | renew hid hworker hactive => exact Or.inl hrunning
  | recover hlimit hexpired htoken =>
    exact Or.inl (JobRow.leaseExpired_iff.mp hexpired).1
  | cancelQueued hid hread hstate => simp [JobRow.cancelQueued] at hrunning
  | flagCancellation hid hread hstate => exact Or.inl hstate
  | terminate hop hid hread hstate hworker hlease => exact Or.inl hstate

theorem runsUnder_apply {permitId : String} (h : (s.apply op).RunsUnder j permitId) :
    s.RunsUnder j permitId ∨
      s.permitRunning permitId = false ∧ (s.apply op).job j ≠ s.job j ∧
        ∀ now limit, op ≠ .recoverExpiredLeases now limit := by
  obtain ⟨row', binding, hrow', hstate, hbinding, hpermit⟩ := h
  rcases job_apply s op j with hsame | ⟨-, -, request, hnew, -⟩ | ⟨row, r', hrow, hr', hstep⟩
  · rw [hsame] at hrow'
    rw [binding_apply hrow'] at hbinding
    exact Or.inl ⟨row', binding, hrow', hstate, hbinding, hpermit⟩
  · rw [hnew] at hrow'
    cases hrow'
    simp [newJobRow] at hstate
  · rw [hr'] at hrow'
    cases hrow'
    rw [binding_apply hrow] at hbinding
    -- Only a claim starts a job, and its filter has found the permit free.
    rcases hstep.running hstate with hran | ⟨⟨now, hclaim⟩, hop⟩
    · exact Or.inl ⟨row, binding, hrow, hran, hbinding, hpermit⟩
    · refine Or.inr ⟨?_, ?_, hop⟩
      · rw [← hpermit]
        refine permitRunning_of_claimable hclaim ?_
        rw [jobId_of_job hrow]
        exact hbinding
      · intro hsame
        rw [hr', hrow] at hsame
        have hqueued := (claimable_iff.mp hclaim).1
        rw [← Option.some.inj hsame, hstate] at hqueued
        simp at hqueued

omit [Primitives] in
theorem eq_of_changed {s' : Store} {id : String}
    (h : ∀ k, s'.job k = if k = id then some row else s.job k) {k : String}
    (hk : s'.job k ≠ s.job k) : k = id := by
  by_contra hne
  have hother := h k
  rw [if_neg hne] at hother
  exact hk hother

theorem changed_unique (hop : ∀ now limit, op ≠ .recoverExpiredLeases now limit) {j' : String}
    (hj : (s.apply op).job j ≠ s.job j) (hj' : (s.apply op).job j' ≠ s.job j') : j = j' := by
  cases effect s op with
  | same hjobs hbindings =>
    refine absurd ?_ hj
    unfold job
    rw [hjobs]
  | @inserted jobId request hid hinserts h =>
    exact (eq_of_changed h.job hj).trans (eq_of_changed h.job hj').symm
  | @replaced row row' h hstep =>
    exact (eq_of_changed h.job hj).trans (eq_of_changed h.job hj').symm
  | recovered hrecover hlimit hframe hjob => exact absurd hrecover (hop _ _)

/-- No two running jobs are bound to one permit. -/
def Store.PermitExclusive (s : Store) : Prop :=
  ∀ permitId j j', s.RunsUnder j permitId → s.RunsUnder j' permitId → j = j'

theorem permitExclusive_apply (hs : s.PermitExclusive) (op : Op) :
    (s.apply op).PermitExclusive := by
  intro permitId j j' hj hj'
  rcases runsUnder_apply hj with h | ⟨hfree, hchanged, hop⟩
  · rcases runsUnder_apply hj' with h' | ⟨hfree, -, -⟩
    · exact hs permitId j j' h h'
    · rw [permitRunning_of_runsUnder h] at hfree
      simp at hfree
  · rcases runsUnder_apply hj' with h' | ⟨-, hchanged', -⟩
    · rw [permitRunning_of_runsUnder h'] at hfree
      simp at hfree
    · exact changed_unique hop hchanged hchanged'

/-- **At most one running job per permit, in every store that calls can reach.** -/
theorem permit_exclusion (ops : List Op) : (empty.run ops).PermitExclusive := by
  refine Runs.run_induction (P := Store.PermitExclusive) ?_ ?_ ops
  · intro s op hs
    exact permitExclusive_apply hs op
  · rintro permitId j j' ⟨row, binding, hrow, -⟩
    cases hrow

end WebGuard
