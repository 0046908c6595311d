import Mathlib.Logic.Relation
import WebGuard.Postgres.Jobs

/-!
# What the statements do to a row

Every `UPDATE` of the cluster is a move of its row (`RowMove`), whichever session makes it and
whatever the others have done since the row was read: the guards of the statements are evaluated
on the row as it is when the lock is free.
-/

namespace WebGuard

open Mvcc Relation Atomic Bool

/-- One `UPDATE` of a row, with what its guard has established. -/
inductive RowMove : JobRow → JobRow → Prop where
  | claim {row : JobRow} {moment expiresAt : Nat} {workerId leaseToken : String}
      (hstate : row.state = .queued) :
      RowMove row (row.claimLeased moment (row.revision + 1) workerId leaseToken expiresAt)
  | renew {row : JobRow} {moment expiresAt : Nat} (hstate : row.state = .running) :
      RowMove row (row.renew moment expiresAt (row.revision + 1))
  | recover {row : JobRow} {now limit : Nat} (hexpired : row.leaseExpired now = true)
      (htoken : row.leaseToken.isSome = true) : RowMove row (row.recovered now limit)
  | terminate {row : JobRow} {w : TerminalWrite} {moment : Nat}
      (hterminal : w.state.isTerminal = true) (hstate : row.state = .running) :
      RowMove row (row.terminate w moment (row.revision + 1))
  | cancelQueued {row : JobRow} {moment : Nat} :
      RowMove row (row.cancelQueued moment (row.revision + 1))
  | flagCancellation {row : JobRow} {moment : Nat} :
      RowMove row (row.flagCancellation moment (row.revision + 1))

/-- The job as it may become: tenant and binding stay, the row moves. -/
structure Descends (old new : PgJob) : Prop where
  organizationId : new.organizationId = old.organizationId
  binding : new.binding = old.binding
  row : ReflTransGen RowMove old.row new.row

theorem Descends.refl (job : PgJob) : Descends job job := ⟨rfl, rfl, ReflTransGen.refl⟩

theorem Descends.trans (a b c : PgJob) (hab : Descends a b) (hbc : Descends b c) :
    Descends a c :=
  ⟨hbc.organizationId.trans hab.organizationId, hbc.binding.trans hab.binding,
    hab.row.trans hbc.row⟩

theorem Descends.keeps {P : JobRow → Prop} (hmove : ∀ row row', RowMove row row' → P row → P row')
    {old new : PgJob} (h : Descends old new) (hold : P old.row) : P new.row := by
  obtain ⟨-, -, hrow⟩ := h
  generalize new.row = row at hrow
  induction hrow with
  | refl => exact hold
  | tail _ hlast ih => exact hmove _ _ hlast ih

/-! ## The statements are moves -/

/-- The statement makes a move of every row that meets its guard. -/
def RowUpdate.Moves (u : RowUpdate) : Prop :=
  ∀ row, u.guard row = true → RowMove row (u.set row)

theorem RowUpdate.Moves.descends {u : RowUpdate} (h : u.Moves) (job : PgJob)
    (hguard : u.statement.guard job = true) : Descends job (u.statement.set job) :=
  ⟨rfl, rfl, ReflTransGen.single (h job.row hguard)⟩

namespace Cluster

theorem recoverStatement_moves (now limit : Nat) (jobId : String) :
    (recoverStatement now limit jobId).Moves := by
  intro row hguard
  rw [recoverStatement, and_eq_true] at hguard
  exact RowMove.recover hguard.1 hguard.2

variable (jobId : String) (read : JobRow)

theorem renewStatement_moves (workerId leaseToken : String)
    (now leaseSeconds : Nat) :
    (renewStatement jobId read workerId leaseToken now leaseSeconds).Moves := by
  intro row hguard
  simp only [renewStatement, and_eq_true, beq_iff_eq] at hguard
  simp only [renewStatement, ← hguard.1.1.2]
  exact RowMove.renew hguard.1.1.1

theorem terminalStatement_moves (w : PgTerminalWrite)
    (workerId : Option String) (now : Nat) :
    (terminalStatement jobId read w workerId now).Moves := by
  intro row hguard
  simp only [terminalStatement, and_eq_true, beq_iff_eq] at hguard
  simp only [terminalStatement, ← hguard.1.2]
  exact RowMove.terminate w.terminal hguard.1.1

theorem cancelStatement_moves (now : Nat) :
    (cancelStatement jobId read now).Moves := by
  intro row _
  unfold cancelStatement
  split
  · exact RowMove.cancelQueued
  · exact RowMove.flagCancellation

theorem claimStatement_descends (claim : ClaimArguments) (jobId : String)
    (revision submittedAt : Nat) (job : PgJob)
    (hguard : (claimStatement claim jobId revision submittedAt).guard job = true) :
    Descends job ((claimStatement claim jobId revision submittedAt).set job) := by
  simp only [claimStatement, and_eq_true, beq_iff_eq] at hguard
  refine ⟨rfl, rfl, ReflTransGen.single ?_⟩
  simp only [claimStatement, ← hguard.2]
  exact RowMove.claim hguard.1

/-! ## The invariant -/

variable {T : Type} {s : Cluster T} {t : T}

/-- The session is a claim that has locked the row, and whose `UPDATE` comes next. -/
def Locked (s : Cluster T) (t : T) (k : String) : Prop :=
  ∃ claim revision submittedAt, s.session t = .locked claim k revision submittedAt

variable [DecidableEq T]

structure Steady (s : Cluster T) : Prop where
  versions : s.db.Follows Descends
  statements : ∀ t u, s.session t = .updating u → u.Moves
  locks : ∀ t k, s.Locked t k → ∃ l, s.db.lock k = some l ∧ l.holder = t

theorem steady_empty : (empty : Cluster T).Steady where
  versions := Database.follows_empty
  statements := by
    intro t u h
    cases h
  locks := by
    rintro t k ⟨claim, revision, submittedAt, h⟩
    cases h

variable {k : String}

theorem Steady.available (h : s.Steady) (hlocked : s.Locked t k) : s.db.available t k = true := by
  obtain ⟨l, hl, hholder⟩ := h.locks t k hlocked
  unfold Database.available
  rw [hl, Option.all_some, hholder]
  simp

variable {db : Database String PgJob T}

theorem Steady.enter {next : Session} (h : s.Steady)
    (hwrites : s.db.Writes Descends t db) (hupdating : ∀ u, next = .updating u → u.Moves)
    (hlocked : ∀ claim k revision submittedAt, next = .locked claim k revision submittedAt →
      ∃ l, db.lock k = some l ∧ l.holder = t) :
    (Cluster.enter { s with db := db } t next).Steady := by
  refine ⟨hwrites.follows Descends.refl Descends.trans h.versions, ?_, ?_⟩
  · intro t' u hu
    by_cases ht : t' = t
    · subst ht
      rw [session_enter_self] at hu
      exact hupdating u hu
    · rw [session_enter_other ht] at hu
      exact h.statements t' u hu
  · rintro t' k ⟨claim, revision, submittedAt, hk⟩
    by_cases ht : t' = t
    · subst ht
      rw [session_enter_self] at hk
      exact hlocked claim k revision submittedAt hk
    · rw [session_enter_other ht] at hk
      obtain ⟨l, hl, hholder⟩ := h.locks t' k ⟨claim, revision, submittedAt, hk⟩
      exact ⟨l, hwrites.lock_other hl (by rw [hholder]; exact ht), hholder⟩

theorem Steady.advance_writes (h : s.Steady) : s.db.Writes Descends t (s.advance t).db := by
  unfold Cluster.advance
  split
  · exact .refl
  · next claim q k rest hsession =>
    unfold Cluster.tryLock
    split
    · next havailable =>
      split
      · split
        · exact .acquire .refl havailable
        · exact .refl
      · exact .refl
    · exact .refl
  · next claim k revision submittedAt hsession =>
    exact .update .refl (h.available ⟨claim, revision, submittedAt, hsession⟩)
      (claimStatement_descends claim k revision submittedAt)
  · next u hsession =>
    split
    · next havailable => exact .update .refl havailable (h.statements t u hsession).descends
    · exact .refl
  · exact .refl
  · next now limit k rest hsession =>
    unfold Cluster.recoverNext
    split
    · next hready =>
      rw [and_eq_true] at hready
      exact .update (.acquire .refl hready.1) (Database.available_acquire k)
        (recoverStatement_moves now limit k).descends
    · exact .refl
  · exact .refl

theorem Steady.advance (h : s.Steady) : (s.advance t).Steady := by
  have hwrites := h.advance_writes (t := t)
  unfold Cluster.advance at hwrites ⊢
  split
  · exact h.enter .refl (by simp) (by simp)
  · next claim q k rest hsession =>
    simp only [hsession] at hwrites
    unfold Cluster.tryLock at hwrites ⊢
    split
    · next havailable =>
      split
      · split
        · refine h.enter (.acquire .refl havailable) (by simp) ?_
          rintro claim' k' revision submittedAt ⟨⟩
          exact ⟨⟨t, s.db.written t k⟩, by simp [Database.acquire], rfl⟩
        · exact h.enter .refl (by simp) (by simp)
      · exact h.enter .refl (by simp) (by simp)
    · exact h.enter .refl (by simp) (by simp)
  · next claim k revision submittedAt hsession =>
    simp only [hsession] at hwrites
    refine h.enter hwrites ?_ ?_
    · intro u hu
      split at hu <;> cases hu
    · intro claim' k' revision' submittedAt' hk
      split at hk <;> cases hk
  · next u hsession =>
    simp only [hsession] at hwrites
    split
    · next havailable =>
      rw [if_pos havailable] at hwrites
      exact h.enter hwrites (by simp) (by simp)
    · exact h
  · exact h.enter .refl (by simp) (by simp)
  · next now limit k rest hsession =>
    simp only [hsession] at hwrites
    unfold Cluster.recoverNext at hwrites ⊢
    split
    · next hready =>
      rw [if_pos hready] at hwrites
      exact h.enter hwrites (by simp) (by simp)
    · exact h.enter .refl (by simp) (by simp)
  · exact h

theorem Steady.release (h : s.Steady)
    (hversions : db.Follows Descends) (hlock : db.lock = s.db.released t) :
    (Cluster.enter { s with db := db } t .idle).Steady := by
  refine ⟨hversions, ?_, ?_⟩
  · intro t' u hu
    by_cases ht : t' = t
    · subst ht
      rw [session_enter_self] at hu
      cases hu
    · rw [session_enter_other ht] at hu
      exact h.statements t' u hu
  · rintro t' k ⟨claim, revision, submittedAt, hk⟩
    by_cases ht : t' = t
    · subst ht
      rw [session_enter_self] at hk
      cases hk
    · rw [session_enter_other ht] at hk
      obtain ⟨l, hl, hholder⟩ := h.locks t' k ⟨claim, revision, submittedAt, hk⟩
      refine ⟨l, ?_, hholder⟩
      show db.lock k = some l
      rw [hlock]
      exact Database.lock_released_other hl (by rw [hholder]; exact ht)

theorem Steady.afterRead (h : s.Steady) (k : String) {plan : JobRow → Answer (Option RowUpdate)}
    (hplan : ∀ row u, plan row = .ok (some u) → u.Moves) : (s.afterRead t k plan).Steady := by
  unfold Cluster.afterRead
  split
  · exact h.enter .refl (by simp) (by simp)
  · next job hview =>
    split
    · next u hu =>
      refine h.enter .refl ?_ (by simp)
      rintro u' ⟨⟩
      exact hplan job.row u hu
    · exact h.enter .refl (by simp) (by simp)

theorem db_afterRead (k : String) (plan : JobRow → Answer (Option RowUpdate)) :
    (s.afterRead t k plan).db = s.db := by
  unfold Cluster.afterRead
  split
  · rfl
  · split <;> rfl

section

variable [Primitives]

theorem db_begin (input : PgInput T) : (s.begin input).db = s.db := by
  cases input with
  | claimNextLeased t now workerId leaseSeconds leaseToken =>
    simp only [Cluster.begin]
    split <;> rfl
  | renewLease t jobId workerId leaseToken now leaseSeconds =>
    simp only [Cluster.begin]
    split
    · rfl
    · exact db_afterRead _ _
  | recoverExpiredLeases t now maximumAttempts => rfl
  | terminalUpdate t jobId write now =>
    simp only [Cluster.begin]
    split
    · rfl
    · exact db_afterRead _ _
  | requestCancellation t jobId now =>
    simp only [Cluster.begin]
    exact db_afterRead _ _
  | _ => rfl

variable {input : PgInput T} {t' : T}

theorem Steady.begin (h : s.Steady) (howner : owner input = some t) : (s.begin input).Steady := by
  cases input with
  | claimNextLeased t' now workerId leaseSeconds leaseToken =>
    simp only [Cluster.begin]
    split
    · exact h
    · exact h.enter .refl (by simp) (by simp)
  | renewLease t' jobId workerId leaseToken now leaseSeconds =>
    simp only [Cluster.begin]
    split
    · exact h
    · refine h.afterRead _ ?_
      intro row u hu
      obtain ⟨_, -, hu⟩ := bind_ok hu
      cases hu
      exact renewStatement_moves _ _ _ _ _ _
  | recoverExpiredLeases t' now maximumAttempts => exact h.enter .refl (by simp) (by simp)
  | terminalUpdate t' jobId write now =>
    simp only [Cluster.begin]
    split
    · exact h
    · refine h.afterRead _ ?_
      intro row u hu
      obtain ⟨_, -, hu⟩ := bind_ok hu
      obtain ⟨_, -, hu⟩ := bind_ok hu
      cases hu
      exact terminalStatement_moves _ _ _ _ _
  | requestCancellation t' jobId now =>
    simp only [Cluster.begin]
    refine h.afterRead _ ?_
    intro row u hu
    obtain ⟨record, -, hu⟩ := bind_ok hu
    split at hu
    · cases hu
    · cases hu
      exact cancelStatement_moves _ _ _
  | _ => cases howner

/-- In every run the versions in flight descend from the committed rows. -/
theorem Steady.step (h : s.Steady) (input : PgInput T) : (s.step input).Steady := by
  cases howner : owner input with
  | some t =>
    rcases step_of_owner howner (s := s) with hsame | ⟨-, hbegin⟩
    · rw [hsame]
      exact h
    · rw [hbegin]
      exact h.begin howner
  | none =>
    cases input with
    | insert job =>
      simp only [Cluster.step]
      split
      · refine ⟨h.versions.insert _ _, h.statements, ?_⟩
        intro t k hk
        obtain ⟨l, hl, hholder⟩ := h.locks t k hk
        exact ⟨l, by rw [Database.lock_insert]; exact hl, hholder⟩
      · exact h
    | administer permits assignments => exact ⟨h.versions, h.statements, h.locks⟩
    | advance t => exact h.advance
    | commit t =>
      simp only [Cluster.step]
      split
      · exact h.release h.versions.commit rfl
      · exact h.release h.versions.commit rfl
      · exact h
    | abort t => exact h.release h.versions.abort rfl
    | _ => cases howner

/-- A step moves a committed row along the moves, and deletes none. -/
theorem Steady.committed_step (h : s.Steady) (input : PgInput T) {job : PgJob}
    (hjob : s.db.committed k = some job) :
    ∃ job', (s.step input).db.committed k = some job' ∧ Descends job job' := by
  have hsame : ∀ s' : Cluster T, s'.db.committed = s.db.committed →
      ∃ job', s'.db.committed k = some job' ∧ Descends job job' := by
    intro s' hs'
    exact ⟨job, by rw [hs', hjob], Descends.refl job⟩
  cases howner : owner input with
  | some t =>
    rcases step_of_owner howner (s := s) with hstep | ⟨-, hbegin⟩
    · exact hsame _ (by rw [hstep])
    · exact hsame _ (by rw [hbegin, db_begin])
  | none =>
    cases input with
    | insert new =>
      simp only [Cluster.step]
      split
      · exact ⟨job, Database.committed_insert_of_some hjob, Descends.refl job⟩
      · exact hsame s rfl
    | administer permits assignments => exact hsame _ rfl
    | advance t => exact hsame _ h.advance_writes.committed
    | commit t =>
      simp only [Cluster.step]
      split
      · exact h.versions.committed_commit Descends.refl hjob
      · exact h.versions.committed_commit Descends.refl hjob
      · exact hsame s rfl
    | abort t => exact hsame _ rfl
    | _ => cases howner

/-- The inputs that are statements, or the end, of a session. -/
def acts : PgInput T → Option T
  | .advance t => some t
  | .commit t => some t
  | .abort t => some t
  | _ => none

/-- Nobody touches the row that another session has locked. -/
theorem Steady.lock_step (h : s.Steady) {l : RowLock PgJob T} (hl : s.db.lock k = some l)
    (hacts : acts input ≠ some l.holder) : (s.step input).db.lock k = some l := by
  cases howner : owner input with
  | some t =>
    rcases step_of_owner howner (s := s) with hstep | ⟨-, hbegin⟩
    · rw [hstep]
      exact hl
    · rw [hbegin, db_begin]
      exact hl
  | none =>
    cases input with
    | insert new =>
      simp only [Cluster.step]
      split
      · rw [Database.lock_insert]
        exact hl
      · exact hl
    | administer permits assignments => exact hl
    | advance t => exact h.advance_writes.lock_other hl fun heq => hacts (by rw [heq]; rfl)
    | commit t =>
      have hne : l.holder ≠ t := fun heq => hacts (by rw [heq]; rfl)
      simp only [Cluster.step]
      split
      · exact Database.lock_released_other hl hne
      · exact Database.lock_released_other hl hne
      · exact hl
    | abort t => exact Database.lock_released_other hl fun heq => hacts (by rw [heq]; rfl)
    | _ => cases howner

/-! ## Whose step it is -/

omit [Primitives] in
theorem session_afterRead_other (hne : t' ≠ t) (k : String)
    (plan : JobRow → Answer (Option RowUpdate)) :
    (s.afterRead t k plan).session t' = s.session t' := by
  unfold Cluster.afterRead
  split
  · exact session_enter_other hne _
  · split
    · exact session_enter_other hne _
    · exact session_enter_other hne _

theorem session_begin_other (howner : owner input = some t) (hne : t' ≠ t) :
    (s.begin input).session t' = s.session t' := by
  cases input with
  | claimNextLeased =>
    cases howner
    simp only [Cluster.begin]
    split
    · rfl
    · exact session_enter_other hne _
  | renewLease =>
    cases howner
    simp only [Cluster.begin]
    split
    · rfl
    · exact session_afterRead_other hne _ _
  | recoverExpiredLeases =>
    cases howner
    exact session_enter_other hne _
  | terminalUpdate =>
    cases howner
    simp only [Cluster.begin]
    split
    · rfl
    · exact session_afterRead_other hne _ _
  | requestCancellation =>
    cases howner
    simp only [Cluster.begin]
    exact session_afterRead_other hne _ _
  | _ => cases howner

omit [Primitives] in
theorem session_advance_other (hne : t' ≠ t) : (s.advance t).session t' = s.session t' := by
  unfold Cluster.advance
  split
  · exact session_enter_other hne _
  · unfold Cluster.tryLock
    split
    · split
      · split
        · exact session_enter_other hne _
        · exact session_enter_other hne _
      · exact session_enter_other hne _
    · exact session_enter_other hne _
  · exact session_enter_other hne _
  · split
    · exact session_enter_other hne _
    · rfl
  · exact session_enter_other hne _
  · unfold Cluster.recoverNext
    split
    · exact session_enter_other hne _
    · exact session_enter_other hne _
  · rfl

omit [Primitives] in
theorem updating_advance {u : RowUpdate} (h : (s.advance t).session t' = .updating u) :
    s.session t' = .updating u := by
  have henter : ∀ (s' : Cluster T) (next : Session), s'.session = s.session →
      (∀ u, next ≠ .updating u) → (s'.enter t next).session t' = .updating u →
      s.session t' = .updating u := by
    intro s' next hsame hnext hsession
    by_cases ht : t' = t
    · subst ht
      rw [session_enter_self] at hsession
      exact absurd hsession (hnext u)
    · rw [session_enter_other ht, hsame] at hsession
      exact hsession
  unfold Cluster.advance at h
  split at h
  · exact henter s _ rfl (by simp) h
  · unfold Cluster.tryLock at h
    split at h
    · split at h
      · split at h
        · exact henter _ _ rfl (by simp) h
        · exact henter s _ rfl (by simp) h
      · exact henter s _ rfl (by simp) h
    · exact henter s _ rfl (by simp) h
  · refine henter _ _ rfl ?_ h
    intro u' hu'
    split at hu' <;> cases hu'
  · split at h
    · exact henter _ _ rfl (by simp) h
    · exact h
  · exact henter s _ rfl (by simp) h
  · unfold Cluster.recoverNext at h
    split at h
    · exact henter _ _ rfl (by simp) h
    · exact henter s _ rfl (by simp) h
  · exact h

theorem session_step_other (hacts : acts input ≠ some t) (hbusy : s.session t ≠ .idle) :
    (s.step input).session t = s.session t := by
  cases howner : owner input with
  | some t' =>
    rcases step_of_owner howner (s := s) with hsame | ⟨hidle, hbegin⟩
    · rw [hsame]
    · have hne : t ≠ t' := by
        rintro rfl
        exact hbusy hidle
      rw [hbegin]
      exact session_begin_other howner hne
  | none =>
    cases input with
    | insert new =>
      simp only [Cluster.step]
      split <;> rfl
    | administer permits assignments => rfl
    | advance t' => exact session_advance_other fun heq => hacts (by rw [heq]; rfl)
    | commit t' =>
      have hne : t ≠ t' := fun heq => hacts (by rw [heq]; rfl)
      simp only [Cluster.step]
      split
      · exact session_enter_other hne _
      · exact session_enter_other hne _
      · rfl
    | abort t' => exact session_enter_other (fun heq => hacts (by rw [heq]; rfl)) _
    | _ => cases howner

end

end Cluster

end WebGuard
