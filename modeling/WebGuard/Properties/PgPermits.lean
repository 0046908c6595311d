import WebGuard.Store.Operations
import WebGuard.Postgres.Jobs

/-!
# One running job per permit, on PostgreSQL

The claim's `NOT EXISTS` is evaluated on the snapshot of its `SELECT`, and `FOR UPDATE` locks the
claimed row alone. So two claims that overlap can each find the permit free, take different jobs
of it, and commit both: `overlapping_claims` is that history.

`ClaimsAlone` is the condition that rules it out: when a claim locks a job bound to a permit, no
other open claim holds a job of that permit, and none was started since the snapshot. Under it
the committed state never has two running jobs of one permit (`pg_permit_exclusion`), whatever
the renewals, recoveries, cancellations and terminal transitions do in between.
-/

namespace WebGuard

open Mvcc Database

/-- The job that a claim has locked, until its transaction ends. -/
def Session.holding : Session → Option String
  | .locked _ jobId _ _ => some jobId
  | .claimed jobId => some jobId
  | _ => none

def Session.untried : Session → List String
  | .selecting _ _ rest => rest
  | _ => []

namespace Cluster

variable {T : Type} {s : Cluster T} {t : T}

/-! ## Vocabulary -/

/-- The job is committed as bound to the permit. -/
def Bound (s : Cluster T) (k permitId : String) : Prop :=
  ∃ job, s.db.committed k = some job ∧ job.permitId = some permitId

/-- The job is committed as running under the permit. -/
def RunsUnder (s : Cluster T) (k permitId : String) : Prop :=
  ∃ job, s.db.committed k = some job ∧ job.row.state = .running ∧ job.permitId = some permitId

instance (s : Cluster T) (k permitId : String) : Decidable (s.RunsUnder k permitId) :=
  match hk : s.db.committed k with
  | none => isFalse fun ⟨_, hjob, _⟩ => by
    rw [hk] at hjob
    cases hjob
  | some job =>
    decidable_of_iff (job.row.state = .running ∧ job.permitId = some permitId)
      ⟨fun hruns => ⟨job, hk, hruns⟩, fun ⟨_, hjob, hruns⟩ =>
        Option.some.inj (hk.symm.trans hjob) ▸ hruns⟩

/-- No two running jobs of the committed state are bound to one permit. -/
def PermitExclusive (s : Cluster T) : Prop :=
  ∀ permitId k k', s.RunsUnder k permitId → s.RunsUnder k' permitId → k = k'

/-- The session is a claim that has locked the job, and has not ended. -/
def Claims (s : Cluster T) (t : T) (k : String) : Prop := (s.session t).holding = some k

/-- No job of the permit is running, and none is held by a claim that is under way. -/
def PermitFree (s : Cluster T) (permitId : String) : Prop :=
  (∀ k, ¬ s.RunsUnder k permitId) ∧ ∀ t k, s.Claims t k → ¬ s.Bound k permitId

/-! ## The invariant -/

/--
A version that `t` has written is of a committed row and keeps its binding. It starts the job
only where `t` is the claim of that job.
-/
def Successor (s : Cluster T) (t : T) (k : String) (version : PgJob) : Prop :=
  ∃ job, s.db.committed k = some job ∧ version.binding = job.binding ∧
    (version.row.state = .running → job.row.state = .running ∨ s.session t = .claimed k)

variable {k : String} {job : PgJob} {next : Session}

theorem Successor.of_committed {s' : Cluster T} {version : PgJob} (h : s.Successor t k version)
    (hcommitted : s'.db.committed k = s.db.committed k)
    (hsession : s.session t = .claimed k → s'.session t = .claimed k) :
    s'.Successor t k version := by
  obtain ⟨job, hjob, hbinding, hrunning⟩ := h
  exact ⟨job, hcommitted.trans hjob, hbinding, fun hstate => (hrunning hstate).imp id hsession⟩

variable [DecidableEq T]

/-- The exclusion, with what the open transactions may still commit. -/
structure Exclusive (s : Cluster T) : Prop where
  running : s.PermitExclusive
  versions : ∀ t k version, s.db.Wrote t k version → s.Successor t k version
  held : ∀ t k, s.Claims t k → ∃ job, s.db.committed k = some job
  idle : ∀ t k permitId, s.Claims t k → s.Bound k permitId → ∀ k', ¬ s.RunsUnder k' permitId
  alone : ∀ t k t' k' permitId, s.Claims t k → s.Bound k permitId → s.Claims t' k' →
    s.Bound k' permitId → t' = t ∧ k' = k

theorem exclusive_empty : (empty : Cluster T).Exclusive where
  running := by
    rintro permitId k k' ⟨job, hjob, -⟩
    cases hjob
  versions := by
    intro t k version h
    obtain ⟨l, hl, -⟩ := wrote_iff.mp h
    cases hl
  held := by
    intro t k h
    cases h
  idle := by
    intro t k permitId h
    cases h
  alone := by
    intro t k t' k' permitId h
    cases h

theorem Exclusive.view (h : s.Exclusive) (hview : s.db.view t k = some job) :
    s.Successor t k job := by
  rcases view_eq_some hview with hwrote | hcommitted
  · exact h.versions t k job hwrote
  · exact ⟨job, hcommitted, rfl, Or.inl⟩

/-! ## One step -/

/-- A claim that is about to lock a job bound to a permit finds the permit free. -/
def ClaimsAlone (s : Cluster T) : PgInput T → Prop
  | .advance t =>
    ∀ claim q k rest job permitId, s.session t = .selecting claim q (k :: rest) →
      s.db.available t k = true → s.db.view t k = some job → q.claimable claim.now job = true →
      job.permitId = some permitId → s.PermitFree permitId
  | _ => True

theorem claimsAlone_of_untried (h : (s.session t).untried = []) : s.ClaimsAlone (.advance t) := by
  intro claim q k rest job permitId hsession
  rw [hsession] at h
  cases h

theorem claims_enter (hnext : next.holding = none) {t' : T} (h : (s.enter t next).Claims t' k) :
    t' ≠ t ∧ s.Claims t' k := by
  unfold Claims at h
  by_cases heq : t' = t
  · rw [heq, session_enter_self, hnext] at h
    cases h
  · rw [session_enter_other heq] at h
    exact ⟨heq, h⟩

theorem Exclusive.keep {s' : Cluster T} (h : s.Exclusive)
    (hcommitted : s'.db.committed = s.db.committed)
    (hclaims : ∀ t k, s'.Claims t k → s.Claims t k)
    (hversions : ∀ t k version, s'.db.Wrote t k version → s'.Successor t k version) :
    s'.Exclusive := by
  have hruns : ∀ k permitId, s'.RunsUnder k permitId → s.RunsUnder k permitId := by
    intro k permitId hk
    unfold RunsUnder at hk
    rwa [hcommitted] at hk
  have hbound : ∀ k permitId, s'.Bound k permitId → s.Bound k permitId := by
    intro k permitId hk
    unfold Bound at hk
    rwa [hcommitted] at hk
  refine ⟨?_, hversions, ?_, ?_, ?_⟩
  · intro permitId k k' hk hk'
    exact h.running permitId k k' (hruns k permitId hk) (hruns k' permitId hk')
  · intro t k hk
    rw [hcommitted]
    exact h.held t k (hclaims t k hk)
  · intro t k permitId hk hb k' hk'
    exact h.idle t k permitId (hclaims t k hk) (hbound k permitId hb) k' (hruns k' permitId hk')
  · intro t k t' k' permitId hk hb hk' hb'
    exact h.alone t k t' k' permitId (hclaims t k hk) (hbound k permitId hb) (hclaims t' k' hk')
      (hbound k' permitId hb')

variable {db : Database String PgJob T}

theorem Exclusive.enter (h : s.Exclusive)
    (hsession : ∀ k, s.session t ≠ .claimed k) (hnext : next.holding = none)
    (hcommitted : db.committed = s.db.committed)
    (hwrote : ∀ t' k version, db.Wrote t' k version → s.db.Wrote t' k version ∨
      ∃ job, s.db.committed k = some job ∧ version.binding = job.binding ∧
        (version.row.state = .running → job.row.state = .running)) :
    (Cluster.enter { s with db := db } t next).Exclusive := by
  refine h.keep hcommitted (fun t' k hk => (claims_enter hnext hk).2) ?_
  intro t' k version hversion
  rcases hwrote t' k version hversion with hold | ⟨job, hjob, hbinding, hrunning⟩
  · refine (h.versions t' k version hold).of_committed (congrFun hcommitted k) ?_
    intro hclaimed
    have hne : t' ≠ t := by
      rintro rfl
      exact hsession k hclaimed
    rw [session_enter_other hne]
    exact hclaimed
  · refine ⟨job, (congrFun hcommitted k).trans hjob, hbinding, ?_⟩
    intro hstate
    exact Or.inl (hrunning hstate)

theorem Exclusive.enter_same (h : s.Exclusive) (hsession : ∀ k, s.session t ≠ .claimed k)
    (hnext : next.holding = none) : (s.enter t next).Exclusive :=
  h.enter hsession hnext rfl fun _ _ _ hwrote => Or.inl hwrote

theorem Exclusive.wrote_statement (h : s.Exclusive) (hsession : ∀ k, s.session t ≠ .claimed k)
    {u : RowUpdate} (hview : db.view t u.key = s.db.view t u.key)
    (hdb : ∀ t' k version, db.Wrote t' k version → s.db.Wrote t' k version) {t' : T}
    {version : PgJob} (hwrote : (db.update t u.statement).1.Wrote t' k version) :
    s.db.Wrote t' k version ∨
      ∃ job, s.db.committed k = some job ∧ version.binding = job.binding ∧
        (version.row.state = .running → job.row.state = .running) := by
  rcases wrote_update hwrote with hold | ⟨-, hkey, old, hold, -, hset⟩
  · exact Or.inl (hdb t' k version hold)
  · have hkey' : k = u.key := hkey
    have hold' : s.db.view t u.key = some old := hview.symm.trans hold
    obtain ⟨job, hjob, hbinding, hrunning⟩ := h.view hold'
    subst hkey'
    refine Or.inr ⟨job, hjob, ?_, ?_⟩
    · rw [hset]
      exact hbinding
    · intro hstate
      rw [hset] at hstate
      exact (hrunning (u.startsNone old.row hstate)).resolve_right (hsession u.key)

theorem Exclusive.acquire (h : s.Exclusive) {claim : ClaimArguments} {q : Snapshot}
    {rest : List String} (hsession : s.session t = .selecting claim q (k :: rest))
    (hview : s.db.view t k = some job)
    (hfree : ∀ permitId, job.permitId = some permitId → s.PermitFree permitId) :
    (Cluster.enter { s with db := s.db.acquire t k } t
      (.locked claim k job.row.revision job.row.submittedAt)).Exclusive := by
  obtain ⟨committed, hcommitted, hbinding, -⟩ := h.view hview
  -- The binding in view is the committed one, so the permit that was found free is the job's.
  have hpermit : ∀ permitId, s.Bound k permitId → s.PermitFree permitId := by
    rintro permitId ⟨job', hjob', hpermitId⟩
    rw [hcommitted] at hjob'
    cases hjob'
    refine hfree permitId ?_
    rw [← hpermitId, PgJob.permitId, hbinding]
    rfl
  have hclaims : ∀ t' k', (Cluster.enter { s with db := s.db.acquire t k } t
      (.locked claim k job.row.revision job.row.submittedAt)).Claims t' k' →
      (t' = t ∧ k' = k) ∨ s.Claims t' k' := by
    intro t' k' hk'
    unfold Claims at hk'
    by_cases heq : t' = t
    · rw [heq, session_enter_self] at hk'
      exact Or.inl ⟨heq, (Option.some.inj hk').symm⟩
    · rw [session_enter_other heq] at hk'
      exact Or.inr hk'
  refine ⟨h.running, ?_, ?_, ?_, ?_⟩
  · intro t' k' version hversion
    refine (h.versions t' k' version (wrote_acquire hversion)).of_committed rfl ?_
    intro hclaimed
    have hne : t' ≠ t := by
      rintro rfl
      rw [hsession] at hclaimed
      cases hclaimed
    rw [session_enter_other hne]
    exact hclaimed
  · intro t' k' hk'
    rcases hclaims t' k' hk' with ⟨-, rfl⟩ | hold
    · exact ⟨committed, hcommitted⟩
    · exact h.held t' k' hold
  · intro t' k' permitId hk' hb
    rcases hclaims t' k' hk' with ⟨-, rfl⟩ | hold
    · exact (hpermit permitId hb).1
    · exact h.idle t' k' permitId hold hb
  · intro t₁ k₁ t₂ k₂ permitId hk₁ hb₁ hk₂ hb₂
    rcases hclaims t₁ k₁ hk₁ with ⟨rfl, rfl⟩ | hold₁
    · rcases hclaims t₂ k₂ hk₂ with hself | hold₂
      · exact hself
      · exact absurd hb₂ ((hpermit permitId hb₁).2 t₂ k₂ hold₂)
    · rcases hclaims t₂ k₂ hk₂ with ⟨rfl, rfl⟩ | hold₂
      · exact absurd hb₁ ((hpermit permitId hb₂).2 t₁ k₁ hold₁)
      · exact h.alone t₁ k₁ t₂ k₂ permitId hold₁ hb₁ hold₂ hb₂

theorem Exclusive.claim (h : s.Exclusive) {claim : ClaimArguments} {k : String}
    {revision submittedAt : Nat} (hsession : s.session t = .locked claim k revision submittedAt) :
    (s.advance t).Exclusive := by
  unfold advance
  rw [hsession]
  dsimp only
  refine h.keep (committed_update _) ?_ ?_
  · intro t' k' hk'
    unfold Claims at hk' ⊢
    by_cases heq : t' = t
    · rw [heq, session_enter_self] at hk'
      rw [heq, hsession]
      split at hk'
      · exact hk'
      · cases hk'
    · rw [session_enter_other heq] at hk'
      exact hk'
  · intro t' k' version hversion
    rcases wrote_update hversion with hold | ⟨ht, hkey, old, hold, hguard, hset⟩
    · refine (h.versions t' k' version hold).of_committed
        (congrFun (committed_update _) k') ?_
      intro hclaimed
      have hne : t' ≠ t := by
        rintro rfl
        rw [hsession] at hclaimed
        cases hclaimed
      rw [session_enter_other hne]
      exact hclaimed
    · obtain ⟨job, hjob, hbinding, -⟩ := h.view hold
      -- A version was written, so the statement met its guard and the session goes on as claimed.
      have hupdated : (s.db.update t (claimStatement claim k revision submittedAt)).2 = true := by
        unfold update
        rw [hold]
        dsimp only
        rw [if_pos hguard]
      rw [ht, hkey]
      refine ⟨job, (congrFun (committed_update _) _).trans hjob, ?_, ?_⟩
      · rw [hset]
        exact hbinding
      · intro _
        rw [session_enter_self, if_pos hupdated]
        exact Or.inr rfl

theorem Exclusive.commit (h : s.Exclusive) :
    (Cluster.enter { s with db := s.db.commit t } t .idle).Exclusive := by
  -- A version keeps the binding of its row, so the commit binds no job anew.
  have hbound : ∀ k permitId, (Cluster.enter { s with db := s.db.commit t } t .idle).Bound k
      permitId → s.Bound k permitId := by
    rintro k permitId ⟨version, hversion, hpermit⟩
    obtain ⟨job, hjob, hbinding, -⟩ := h.view hversion
    refine ⟨job, hjob, ?_⟩
    rw [← hpermit, PgJob.permitId, PgJob.permitId, hbinding]
  -- What runs after the commit ran before, or is the job that this session has claimed.
  have hruns : ∀ k permitId, (Cluster.enter { s with db := s.db.commit t } t .idle).RunsUnder k
      permitId → s.RunsUnder k permitId ∨ (s.session t = .claimed k ∧ s.Bound k permitId) := by
    rintro k permitId ⟨version, hversion, hstate, hpermit⟩
    obtain ⟨job, hjob, hbinding, hrunning⟩ := h.view hversion
    have hpermit' : job.permitId = some permitId := by
      rw [← hpermit, PgJob.permitId, PgJob.permitId, hbinding]
    rcases hrunning hstate with hold | hclaimed
    · exact Or.inl ⟨job, hjob, hold, hpermit'⟩
    · exact Or.inr ⟨hclaimed, job, hjob, hpermit'⟩
  have hclaims : ∀ t' k, (Cluster.enter { s with db := s.db.commit t } t .idle).Claims t' k →
      t' ≠ t ∧ s.Claims t' k := fun t' k hk => claims_enter rfl hk
  have hclaimed : ∀ k, s.session t = .claimed k → s.Claims t k := by
    intro k hk
    unfold Claims
    rw [hk]
    rfl
  refine ⟨?_, ?_, ?_, ?_, ?_⟩
  · intro permitId k k' hk hk'
    rcases hruns k permitId hk with hold | ⟨hnew, hb⟩
    · rcases hruns k' permitId hk' with hold' | ⟨hnew', hb'⟩
      · exact h.running permitId k k' hold hold'
      · exact absurd hold (h.idle t k' permitId (hclaimed k' hnew') hb' k)
    · rcases hruns k' permitId hk' with hold' | ⟨hnew', hb'⟩
      · exact absurd hold' (h.idle t k permitId (hclaimed k hnew) hb k')
      · rw [hnew] at hnew'
        exact Session.claimed.inj hnew'
  · intro t' k version hversion
    obtain ⟨hne, hold⟩ := wrote_of_released rfl hversion
    refine (h.versions t' k version hold).of_committed (view_of_wrote hold hne) ?_
    intro hk
    rw [session_enter_other hne]
    exact hk
  · intro t' k hk
    obtain ⟨job, hjob⟩ := h.held t' k (hclaims t' k hk).2
    exact view_isSome hjob
  · intro t' k permitId hk hb k' hk'
    obtain ⟨hne, hold⟩ := hclaims t' k hk
    rcases hruns k' permitId hk' with hrunning | ⟨hnew, hb'⟩
    · exact h.idle t' k permitId hold (hbound k permitId hb) k' hrunning
    · exact hne (h.alone t k' t' k permitId (hclaimed k' hnew) hb' hold (hbound k permitId hb)).1
  · intro t₁ k₁ t₂ k₂ permitId hk₁ hb₁ hk₂ hb₂
    exact h.alone t₁ k₁ t₂ k₂ permitId (hclaims t₁ k₁ hk₁).2 (hbound k₁ permitId hb₁)
      (hclaims t₂ k₂ hk₂).2 (hbound k₂ permitId hb₂)

theorem Exclusive.abort (h : s.Exclusive) :
    (Cluster.enter { s with db := s.db.abort t } t .idle).Exclusive := by
  refine h.keep rfl (fun t' k hk => (claims_enter rfl hk).2) ?_
  intro t' k version hversion
  obtain ⟨hne, hold⟩ := wrote_of_released rfl hversion
  refine (h.versions t' k version hold).of_committed rfl ?_
  intro hk
  rw [session_enter_other hne]
  exact hk

theorem Exclusive.insert (h : s.Exclusive) (hqueued : job.row.state = .queued) :
    Exclusive { s with db := s.db.insert k job } := by
  have hruns : ∀ k' permitId, RunsUnder { s with db := s.db.insert k job } k' permitId →
      s.RunsUnder k' permitId := by
    rintro k' permitId ⟨job', hjob', hstate, hpermit⟩
    rcases committed_insert hjob' with hold | ⟨-, rfl⟩
    · exact ⟨job', hold, hstate, hpermit⟩
    · rw [hqueued] at hstate
      cases hstate
  have hbound : ∀ t k' permitId, s.Claims t k' →
      Bound { s with db := s.db.insert k job } k' permitId → s.Bound k' permitId := by
    rintro t k' permitId hk' ⟨job', hjob', hpermit⟩
    rcases committed_insert hjob' with hold | ⟨hnone, -⟩
    · exact ⟨job', hold, hpermit⟩
    · obtain ⟨job₀, hjob₀⟩ := h.held t k' hk'
      -- A job that is held was committed before, so it is not the new one.
      rw [hnone] at hjob₀
      cases hjob₀
  refine ⟨?_, ?_, ?_, ?_, ?_⟩
  · intro permitId k₁ k₂ hk₁ hk₂
    exact h.running permitId k₁ k₂ (hruns k₁ permitId hk₁) (hruns k₂ permitId hk₂)
  · intro t k' version hversion
    have hold : s.db.Wrote t k' version := by
      rw [wrote_iff] at hversion ⊢
      rwa [lock_insert] at hversion
    obtain ⟨job', hjob', hrest⟩ := h.versions t k' version hold
    exact ⟨job', committed_insert_of_some hjob', hrest⟩
  · intro t k' hk'
    obtain ⟨job', hjob'⟩ := h.held t k' hk'
    exact ⟨job', committed_insert_of_some hjob'⟩
  · intro t k' permitId hk' hb k'' hk''
    exact h.idle t k' permitId hk' (hbound t k' permitId hk' hb) k'' (hruns k'' permitId hk'')
  · intro t₁ k₁ t₂ k₂ permitId hk₁ hb₁ hk₂ hb₂
    exact h.alone t₁ k₁ t₂ k₂ permitId hk₁ (hbound t₁ k₁ permitId hk₁ hb₁) hk₂
      (hbound t₂ k₂ permitId hk₂ hb₂)

theorem Exclusive.tryLock (h : s.Exclusive) {claim : ClaimArguments} {q : Snapshot}
    {rest : List String} (hsession : s.session t = .selecting claim q (k :: rest))
    (halone : s.ClaimsAlone (.advance t)) : (s.tryLock t claim q k rest).Exclusive := by
  have hskip : (s.enter t (.selecting claim q rest)).Exclusive := by
    refine h.enter_same ?_ rfl
    intro k' hk'
    rw [hsession] at hk'
    cases hk'
  unfold Cluster.tryLock
  split
  · next havailable =>
    split
    · next job hview =>
      split
      · next hclaimable =>
        refine h.acquire hsession hview ?_
        intro permitId hpermit
        exact halone claim q k rest job permitId hsession havailable hview hclaimable hpermit
      · exact hskip
    · exact hskip
  · exact hskip

theorem Exclusive.recoverNext (h : s.Exclusive) (hsession : ∀ k, s.session t ≠ .claimed k)
    (now limit : Nat) (k : String) (rest : List String) :
    (s.recoverNext t now limit k rest).Exclusive := by
  unfold Cluster.recoverNext
  split
  · refine h.enter hsession rfl (committed_update _) ?_
    intro t' k' version hversion
    exact h.wrote_statement hsession (view_acquire k k)
      (fun _ _ _ => wrote_acquire) hversion
  · exact h.enter_same hsession rfl

theorem Exclusive.advance (h : s.Exclusive) (halone : s.ClaimsAlone (.advance t)) :
    (s.advance t).Exclusive := by
  cases hsession : s.session t with
  | locked claim k revision submittedAt => exact h.claim hsession
  | selecting claim q rest =>
    cases rest with
    | nil =>
      simp only [Cluster.advance, hsession]
      exact h.enter_same (by simp [hsession]) rfl
    | cons k rest =>
      simp only [Cluster.advance, hsession]
      exact h.tryLock hsession halone
  | updating statement =>
    simp only [Cluster.advance, hsession]
    split
    · refine h.enter (by simp [hsession]) rfl (committed_update _) ?_
      intro t' k version hversion
      exact h.wrote_statement (by simp [hsession]) rfl (fun _ _ _ => id) hversion
    · exact h
  | recovering now limit rest =>
    cases rest with
    | nil =>
      simp only [Cluster.advance, hsession]
      exact h.enter_same (by simp [hsession]) rfl
    | cons k rest =>
      simp only [Cluster.advance, hsession]
      exact h.recoverNext (by simp [hsession]) now limit k rest
  | idle =>
    simp only [Cluster.advance, hsession]
    exact h
  | claimed k =>
    simp only [Cluster.advance, hsession]
    exact h
  | finished =>
    simp only [Cluster.advance, hsession]
    exact h

theorem Exclusive.afterRead (h : s.Exclusive) (hsession : s.session t = .idle) (k : String)
    (plan : JobRow → Answer (Option RowUpdate)) : (s.afterRead t k plan).Exclusive := by
  have henter : ∀ next : Session, next.holding = none → (s.enter t next).Exclusive :=
    fun next hnext => h.enter_same (by simp [hsession]) hnext
  unfold Cluster.afterRead
  split
  · exact henter _ rfl
  · split
    · exact henter _ rfl
    · exact henter _ rfl

section

variable [Primitives]

theorem Exclusive.begin (h : s.Exclusive) {input : PgInput T} (howner : owner input = some t)
    (hsession : s.session t = .idle) : (s.begin input).Exclusive := by
  have henter : ∀ next : Session, next.holding = none → (s.enter t next).Exclusive :=
    fun next hnext => h.enter_same (by simp [hsession]) hnext
  cases input with
  | claimNextLeased t' now workerId leaseSeconds leaseToken =>
    cases howner
    simp only [Cluster.begin]
    split
    · exact h
    · exact henter _ rfl
  | renewLease t' jobId workerId leaseToken now leaseSeconds =>
    cases howner
    simp only [Cluster.begin]
    split
    · exact h
    · exact h.afterRead hsession _ _
  | recoverExpiredLeases t' now maximumAttempts =>
    cases howner
    exact henter _ rfl
  | terminalUpdate t' jobId write now =>
    cases howner
    simp only [Cluster.begin]
    split
    · exact h
    · exact h.afterRead hsession _ _
  | requestCancellation t' jobId now =>
    cases howner
    simp only [Cluster.begin]
    exact h.afterRead hsession _ _
  | _ => cases howner

theorem exclusive_step (h : s.Exclusive) (input : PgInput T) (halone : s.ClaimsAlone input) :
    (s.step input).Exclusive := by
  cases howner : owner input with
  | some t =>
    rcases step_of_owner howner (s := s) with hsame | ⟨hidle, hbegin⟩
    · rw [hsame]
      exact h
    · rw [hbegin]
      exact h.begin howner hidle
  | none =>
    cases input with
    | insert job =>
      simp only [step]
      split
      · next hqueued => exact h.insert hqueued
      · exact h
    | administer permits assignments => exact h.keep rfl (fun _ _ => id) h.versions
    | advance t => exact h.advance halone
    | commit t =>
      simp only [step]
      split
      · exact h.commit
      · exact h.commit
      · exact h
    | abort t => exact h.abort
    | _ => cases howner

/--
**One running job per permit in the committed state**, after every run in which a claim locks a
job bound to a permit only while the permit is free.
-/
theorem pg_permit_exclusion {inputs : List (PgInput T)}
    (halone : Runs.Along step ClaimsAlone empty inputs) :
    (empty.run inputs).PermitExclusive := by
  have h : (empty.run inputs).Exclusive :=
    Runs.along_induction (P := Exclusive) (fun s input hs hG => exclusive_step hs input hG)
      exclusive_empty halone
  exact h.running

end

end Cluster

/-! ## Two claims of one permit -/

def sampleBoundJob (jobId : String) : PgJob :=
  letI := samplePrimitives
  { row := { newJobRow jobId sampleRequest 100 with idempotencyKey := jobId }
    organizationId := some sampleOrganizationId
    binding := some (samplePermit.permitId, samplePermit.permitSha256) }

def sampleBoundJobs : List (PgInput Bool) :=
  [.insert (sampleBoundJob sampleJobId), .insert (sampleBoundJob otherJobId),
    .administer [samplePermit] [(sampleOrganizationId, samplePermit.authorizationId)]]

def serialClaims : List (PgInput Bool) :=
  sampleBoundJobs ++
    [.claimNextLeased true 200 "worker-a" (30 * second) "lease-a", .advance true, .advance true,
      .commit true, .claimNextLeased false 200 "worker-b" (30 * second) "lease-b",
      .advance false, .commit false]

def overlappingClaims : List (PgInput Bool) :=
  sampleBoundJobs ++
    [.claimNextLeased true 200 "worker-a" (30 * second) "lease-a",
      .claimNextLeased false 200 "worker-b" (30 * second) "lease-b", .advance true,
      .advance false, .advance false, .advance true, .advance false, .commit true, .commit false]

theorem pg_permit_exclusion_serial :
    letI := samplePrimitives
    (Cluster.empty.run serialClaims).PermitExclusive ∧
      (Cluster.empty.run serialClaims).RunsUnder sampleJobId samplePermit.permitId ∧
      ¬ (Cluster.empty.run serialClaims).RunsUnder otherJobId samplePermit.permitId := by
  let _ := samplePrimitives
  have hfirst : Cluster.ClaimsAlone (Cluster.empty.run (serialClaims.take 4)) (.advance true) := by
    intro claim q k rest job permitId _ _ _ _ _
    constructor
    · rintro k' ⟨job', hjob', hstate, -⟩
      have hinserted : ((empty.insert sampleJobId (sampleBoundJob sampleJobId)).insert
          otherJobId (sampleBoundJob otherJobId) : Database String PgJob Bool).committed k' =
            some job' := hjob'
      rcases committed_insert hinserted with hold | ⟨-, rfl⟩
      · rcases committed_insert hold with hnone | ⟨-, rfl⟩
        · cases hnone
        · cases hstate
      · cases hstate
    · intro t k' hk'
      cases t <;> cases hk'
  have hsecond : Cluster.ClaimsAlone (Cluster.empty.run (serialClaims.take 5)) (.advance true) :=
    Cluster.claimsAlone_of_untried (by decide)
  have hthird : Cluster.ClaimsAlone (Cluster.empty.run (serialClaims.take 8)) (.advance false) :=
    Cluster.claimsAlone_of_untried (by decide)
  refine ⟨?_, by decide, by decide⟩
  exact Cluster.pg_permit_exclusion ⟨trivial, trivial, trivial, trivial, hfirst, hsecond, trivial,
    trivial, hthird, trivial, trivial⟩

/--
**Two claims that overlap start two jobs of one permit.** Neither sees the other's job as running,
and they have locked different rows.
-/
theorem overlapping_claims :
    letI := samplePrimitives
    ¬ ∀ inputs : List (PgInput Bool), (Cluster.empty.run inputs).PermitExclusive := by
  let _ := samplePrimitives
  intro h
  have hfirst : (Cluster.empty.run overlappingClaims).RunsUnder sampleJobId
      samplePermit.permitId := by decide
  have hsecond : (Cluster.empty.run overlappingClaims).RunsUnder otherJobId
      samplePermit.permitId := by decide
  have hsame : sampleJobId = otherJobId :=
    h overlappingClaims samplePermit.permitId _ _ hfirst hsecond
  exact absurd hsame (by decide)

end WebGuard
