import WebGuard.Findings.Store

/-!
# The history of a finding

`update_status` checks a transition on the status that it has read, and writes without looking
again; `record_finding` compares the row that it wrote with the status that it has read. A status
that was changed meanwhile makes the one take an edge that the graph does not have
(`resolved_finding_confirmed`), and both of them log a change that did not happen. The log is listed
by the times of the requests, which need not be the order of the commits.

`ReadsStand` is the condition that rules it out: a statement that writes meets the status that was
read, and its event is later than those of the finding. Under it every change of a status is an edge
and the log leads from `open` to the status that is stored (`finding_history`).
-/

namespace WebGuard

open Mvcc List

/-- Each event starts from the status at which the one before it ended. -/
def Chained : FindingStatus → List FindingEventRecord → FindingStatus → Prop
  | start, [], last => start = last
  | start, e :: rest, last => e.previousStatus = start ∧ Chained e.newStatus rest last

instance : (start : FindingStatus) → (events : List FindingEventRecord) → (last : FindingStatus) →
    Decidable (Chained start events last)
  | start, [], last => inferInstanceAs (Decidable (start = last))
  | start, e :: rest, last =>
    @instDecidableAnd (e.previousStatus = start) (Chained e.newStatus rest last) _
      (instDecidableChained e.newStatus rest last)

theorem Chained.append {start last : FindingStatus} {events : List FindingEventRecord}
    (h : Chained start events last) {e : FindingEventRecord} (he : e.previousStatus = last) :
    Chained start (events ++ [e]) e.newStatus := by
  induction events generalizing start with
  | nil =>
    obtain rfl : start = last := h
    exact ⟨he, rfl⟩
  | cons e' rest ih => exact ⟨h.1, ih h.2⟩

namespace FindingDesk

variable {T : Type} [DecidableEq T] {s : FindingDesk T} {t : T} {k : String}

/-- The finding has no event at that time or later. -/
def After (s : FindingDesk T) (k : String) (now : Nat) : Prop :=
  ∀ e ∈ s.events, e.findingId = k → e.createdAt < now

instance (s : FindingDesk T) (k : String) (now : Nat) : Decidable (s.After k now) :=
  inferInstanceAs (Decidable (∀ e ∈ s.events, e.findingId = k → e.createdAt < now))

/-- What was read still stands when the statement writes. -/
def Stands (s : FindingDesk T) (t : T) : FindingSession → Prop
  | .detecting d existing =>
    match s.conflict d with
    | none => existing = none
    | some k => ∀ row ∈ s.db.view t k,
        (existing = some row.status ∨ existing = none ∧ row.status ≠ .resolved) ∧
          (row.status = .resolved → s.After k d.now)
  | .triaging c currentStatus => ∀ row ∈ s.db.view t c.findingId,
      row.status = currentStatus ∧ s.After c.findingId c.now
  | _ => True

def ReadsStand (s : FindingDesk T) : FindingInput T → Prop
  | .turn t => s.Stands t (s.session t)
  | _ => True

instance (s : FindingDesk T) (t : T) : (session : FindingSession) → Decidable (s.Stands t session)
  | .detecting d existing =>
    match h : s.conflict d with
    | none => decidable_of_iff (existing = none) (by simp only [Stands, h])
    | some k => decidable_of_iff (∀ row ∈ s.db.view t k,
        (existing = some row.status ∨ existing = none ∧ row.status ≠ .resolved) ∧
          (row.status = .resolved → s.After k d.now)) (by simp only [Stands, h])
  | .triaging c currentStatus => inferInstanceAs (Decidable (∀ row ∈ s.db.view t c.findingId,
      row.status = currentStatus ∧ s.After c.findingId c.now))
  | .idle => isTrue trivial
  | .closing _ _ => isTrue trivial

instance (s : FindingDesk T) : (input : FindingInput T) → Decidable (s.ReadsStand input)
  | .turn t => inferInstanceAs (Decidable (s.Stands t (s.session t)))
  | .record .. => isTrue trivial
  | .update .. => isTrue trivial
  | .abort _ => isTrue trivial

/-- The step takes no status anywhere but along an edge. -/
def KeepsToGraph (s : FindingDesk T) (input : FindingInput T) : Prop :=
  ∀ k row row', s.db.committed k = some row → (s.step input).db.committed k = some row' →
    row'.status = row.status ∨ row'.status ∈ row.status.allowedTransitions

/-- What a version that is about to be committed makes of its row, and the event that says so. -/
inductive Explained (s : FindingDesk T) (k : String) (v : FindingRecord) :
    Option FindingEventRecord → Prop where
  | created (hrow : s.db.committed k = none) (hopen : v.status = .open) : Explained s k v none
  | kept {row : FindingRecord} (hrow : s.db.committed k = some row)
      (hstatus : v.status = row.status) : Explained s k v none
  | moved {row : FindingRecord} {e : FindingEventRecord} (hrow : s.db.committed k = some row)
      (hid : e.findingId = k) (hprevious : e.previousStatus = row.status)
      (hnew : e.newStatus = v.status) (hedge : v.status ∈ row.status.allowedTransitions)
      (hafter : s.After k e.createdAt) : Explained s k v (some e)

/-- The events of a finding, in the order of their commits. -/
def log (s : FindingDesk T) (k : String) : List FindingEventRecord :=
  s.events.filter (·.findingId = k)

/-- What holds of the desk in every run whose reads stand. -/
structure History (s : FindingDesk T) : Prop where
  identified : ∀ k row, s.db.committed k = some row → row.findingId = k
  versions : ∀ t k v, s.db.Wrote t k v → v.findingId = k ∧
    ∃ event, s.session t = .closing v event ∧ s.Explained k v event
  closers : ∀ t record event, s.session t = .closing record event →
    s.db.Wrote t record.findingId record
  checked : ∀ t c currentStatus, s.session t = .triaging c currentStatus →
    c.newStatus ∈ currentStatus.allowedTransitions
  missing : ∀ k, s.db.committed k = none → s.log k = []
  chained : ∀ k row, s.db.committed k = some row → Chained .open (s.log k) row.status
  ordered : ∀ k, (s.log k).Pairwise fun a b => a.createdAt < b.createdAt

variable {event : Option FindingEventRecord} {v record : FindingRecord} {session : FindingSession}

omit [DecidableEq T] in
theorem Explained.keep {s' : FindingDesk T} (h : s.Explained k v event)
    (hcommitted : s'.db.committed k = s.db.committed k)
    (hafter : ∀ now, s.After k now → s'.After k now) : s'.Explained k v event := by
  cases h with
  | created hrow hstatus => exact .created (hcommitted.trans hrow) hstatus
  | kept hrow hstatus => exact .kept (hcommitted.trans hrow) hstatus
  | moved hrow hid hprevious hnew hedge hlater =>
    exact .moved (hcommitted.trans hrow) hid hprevious hnew hedge (hafter _ hlater)

theorem session_enter (s : FindingDesk T) (t t' : T) (session : FindingSession) :
    (s.enter t session).session t' = if t' = t then session else s.session t' := rfl

theorem history_empty : (empty : FindingDesk T).History where
  identified := by
    intro k row h
    cases h
  versions := by
    intro t k v h
    obtain ⟨l, hl, -⟩ := Database.wrote_iff.mp h
    cases hl
  closers := by
    intro t record event h
    cases h
  checked := by
    intro t c currentStatus h
    cases h
  missing := fun k _ => rfl
  chained := by
    intro k row h
    cases h
  ordered := fun k => List.Pairwise.nil

theorem History.not_wrote (h : s.History) (hsession : ∀ v event, s.session t ≠ .closing v event)
    (k : String) (v : FindingRecord) : ¬ s.db.Wrote t k v := by
  intro hwrote
  obtain ⟨-, event, hclosing, -⟩ := h.versions t k v hwrote
  exact hsession v event hclosing

theorem History.view (h : s.History) (hsession : ∀ v event, s.session t ≠ .closing v event)
    (k : String) : s.db.view t k = s.db.committed k :=
  Database.view_of_not_wrote (h.not_wrote hsession k)

theorem History.checked_other (h : s.History)
    (hsession : ∀ c currentStatus, session = .triaging c currentStatus →
      c.newStatus ∈ currentStatus.allowedTransitions) (t' : T) (c : Triage)
    (currentStatus : FindingStatus)
    (htriaging : (s.enter t session).session t' = .triaging c currentStatus) :
    c.newStatus ∈ currentStatus.allowedTransitions := by
  rw [session_enter] at htriaging
  split at htriaging
  · exact hsession c currentStatus htriaging
  · exact h.checked t' c currentStatus htriaging

theorem History.start (h : s.History) (hsession : ∀ v event, s.session t ≠ .closing v event)
    (hopen : ∀ v event, session ≠ .closing v event)
    (hchecked : ∀ c currentStatus, session = .triaging c currentStatus →
      c.newStatus ∈ currentStatus.allowedTransitions) :
    (s.enter t session).History where
  identified := h.identified
  versions := by
    intro t' k v hwrote
    obtain ⟨hid, event, hclosing, hexplained⟩ := h.versions t' k v hwrote
    have ht : t' ≠ t := by
      rintro rfl
      exact hsession v event hclosing
    refine ⟨hid, event, ?_, ?_⟩
    · rw [session_enter, if_neg ht]
      exact hclosing
    · exact hexplained.keep rfl fun _ hafter => hafter
  closers := by
    intro t' record event hclosing
    rw [session_enter] at hclosing
    split at hclosing
    · exact absurd hclosing (hopen record event)
    · exact h.closers t' record event hclosing
  checked := h.checked_other hchecked
  missing := h.missing
  chained := h.chained
  ordered := h.ordered

theorem History.write (h : s.History) (hsession : ∀ v event, s.session t ≠ .closing v event)
    (hid : v.findingId = k) (havailable : s.db.available t k = true)
    (hexplained : s.Explained k v event) {db : Database String FindingRecord T}
    (hcommitted : db.committed = s.db.committed) (hlock : db.lock = (s.db.write t k v).lock) :
    ({ s with db := db }.enter t (.closing v event)).History := by
  have hwritten : ∀ t' j w, db.Wrote t' j w ↔ (s.db.write t k v).Wrote t' j w := by
    intro t' j w
    rw [Database.wrote_iff, Database.wrote_iff, hlock]
  have hkeep : ∀ {j w e}, s.Explained j w e →
      ({ s with db := db }.enter t (.closing v event)).Explained j w e :=
    fun he => he.keep (congrFun hcommitted _) fun _ hafter => hafter
  refine ⟨?_, ?_, ?_, ?_, ?_, ?_, h.ordered⟩
  · intro j row hrow
    exact h.identified j row (by rw [← hrow]; exact (congrFun hcommitted j).symm)
  · intro t' j w hwrote
    rcases Database.wrote_write ((hwritten t' j w).mp hwrote) with ⟨rfl, rfl, rfl⟩ | ⟨-, hold⟩
    · exact ⟨hid, event, by rw [session_enter, if_pos rfl], hkeep hexplained⟩
    · have ht : t' ≠ t := by
        rintro rfl
        exact h.not_wrote hsession j w hold
      obtain ⟨hjd, e, hclosing, he⟩ := h.versions t' j w hold
      exact ⟨hjd, e, by rw [session_enter, if_neg ht]; exact hclosing, hkeep he⟩
  · intro t' record e hclosing
    rw [session_enter] at hclosing
    split at hclosing
    · next ht =>
      cases hclosing
      rw [ht]
      subst hid
      exact (hwritten _ _ _).mpr (Database.wrote_write_self _ _)
    · next ht =>
      have hold := h.closers t' record e hclosing
      exact (hwritten _ _ _).mpr
        (Database.wrote_write_other (Database.ne_of_wrote havailable hold ht) hold)
  · exact h.checked_other (by rintro c currentStatus ⟨⟩)
  · intro j hnone
    exact h.missing j (by rw [← hnone]; exact (congrFun hcommitted j).symm)
  · intro j row hrow
    exact h.chained j row (by rw [← hrow]; exact (congrFun hcommitted j).symm)

theorem History.rollback (h : s.History) : (s.rollback t).History where
  identified := h.identified
  versions := by
    intro t' k v hwrote
    obtain ⟨ht, hold⟩ := Database.wrote_of_released rfl hwrote
    obtain ⟨hid, event, hclosing, hexplained⟩ := h.versions t' k v hold
    refine ⟨hid, event, ?_, ?_⟩
    · rw [FindingDesk.rollback, session_enter, if_neg ht]
      exact hclosing
    · exact hexplained.keep rfl fun _ hafter => hafter
  closers := by
    intro t' record event hclosing
    rw [FindingDesk.rollback, session_enter] at hclosing
    split at hclosing
    · cases hclosing
    · next ht => exact Database.wrote_released_other rfl (h.closers t' record event hclosing) ht
  checked := h.checked_other (by rintro c currentStatus ⟨⟩)
  missing := h.missing
  chained := h.chained
  ordered := h.ordered

/-! ## The commit -/

omit [DecidableEq T] in
theorem Explained.findingId_of_mem (h : s.Explained k v event) :
    ∀ e ∈ event.toList, e.findingId = k := by
  cases h with
  | created => simp
  | kept => simp
  | moved hrow hid => simpa using hid

theorem History.committed_commit (h : s.History) (hclosing : s.session t = .closing record event)
    (j : String) :
    s.db.view t j = if j = record.findingId then some record else s.db.committed j := by
  split
  · next hj =>
    rw [hj]
    exact Database.view_of_wrote_self (h.closers t record event hclosing)
  · next hj =>
    refine Database.view_of_not_wrote fun v hwrote => hj ?_
    obtain ⟨hid, e, hclosing', -⟩ := h.versions t j v hwrote
    rw [hclosing] at hclosing'
    cases hclosing'
    exact hid.symm

theorem History.explained (h : s.History) (hclosing : s.session t = .closing record event) :
    s.Explained record.findingId record event := by
  obtain ⟨-, e, hclosing', hexplained⟩ := h.versions t _ _ (h.closers t record event hclosing)
  rw [hclosing] at hclosing'
  cases hclosing'
  exact hexplained

theorem log_commit (s : FindingDesk T) (t : T) (event : Option FindingEventRecord)
    (hevent : ∀ e ∈ event.toList, e.findingId = k) (j : String) :
    ({ s with db := s.db.commit t, events := s.events ++ event.toList }.enter t .idle).log j
      = if j = k then s.log j ++ event.toList else s.log j := by
  have hlog : ({ s with db := s.db.commit t, events := s.events ++ event.toList }.enter t .idle).log j
      = s.log j ++ event.toList.filter (·.findingId = j) := filter_append ..
  rw [hlog]
  split
  · next hj =>
    rw [filter_eq_self.mpr]
    intro e he
    rw [decide_eq_true_eq, hj]
    exact hevent e he
  · next hj =>
    rw [filter_eq_nil_iff.mpr, append_nil]
    intro e he
    rw [decide_eq_true_eq, hevent e he]
    exact fun hk => hj hk.symm

theorem History.commit (h : s.History) (hclosing : s.session t = .closing record event) :
    ({ s with db := s.db.commit t, events := s.events ++ event.toList }.enter t .idle).History := by
  have hexplained := h.explained hclosing
  have hevent := hexplained.findingId_of_mem
  have hcommitted := h.committed_commit hclosing
  have hlog := log_commit s t event hevent
  refine ⟨?_, ?_, ?_, ?_, ?_, ?_, ?_⟩
  · intro j row hrow
    have hrow := (hcommitted j).symm.trans hrow
    split at hrow
    · next hj =>
      cases hrow
      exact hj.symm
    · exact h.identified j row hrow
  · intro t' j v hwrote
    obtain ⟨ht, hold⟩ := Database.wrote_of_released rfl hwrote
    obtain ⟨hid, e, hclosing', he⟩ := h.versions t' j v hold
    refine ⟨hid, e, ?_, he.keep (Database.view_of_wrote hold ht) ?_⟩
    · rw [session_enter, if_neg ht]
      exact hclosing'
    · intro now hafter e' he' hj
      rcases mem_append.mp he' with hmem | hmem
      · exact hafter e' hmem hj
      · -- The row is locked by somebody else, so the event is not one of it.
        exfalso
        have hlocked := h.closers t record event hclosing
        rw [← hevent e' hmem, hj] at hlocked
        obtain ⟨l, hl, hholder, -⟩ := Database.wrote_iff.mp hlocked
        obtain ⟨l', hl', hholder', -⟩ := Database.wrote_iff.mp hold
        rw [hl] at hl'
        cases hl'
        exact ht (hholder'.symm.trans hholder)
  · intro t' record' event' hclosing'
    rw [session_enter] at hclosing'
    split at hclosing'
    · cases hclosing'
    · next ht => exact Database.wrote_released_other rfl (h.closers t' record' event' hclosing') ht
  · exact h.checked_other (by rintro c currentStatus ⟨⟩)
  · intro j hnone
    have hnone := (hcommitted j).symm.trans hnone
    split at hnone
    · cases hnone
    · next hj =>
      rw [hlog, if_neg hj]
      exact h.missing j hnone
  · intro j row hrow
    have hrow := (hcommitted j).symm.trans hrow
    split at hrow
    · next hj =>
      cases hrow
      rw [hlog, if_pos hj, hj]
      cases hexplained with
      | created hnone hopen =>
        rw [h.missing _ hnone, hopen]
        exact rfl
      | kept hold hstatus =>
        rw [Option.toList_none, append_nil, hstatus]
        exact h.chained _ _ hold
      | moved hold hid hprevious hnew hedge hafter =>
        rw [← hnew]
        exact (h.chained _ _ hold).append hprevious
    · next hj =>
      rw [hlog, if_neg hj]
      exact h.chained j row hrow
  · intro j
    rw [hlog]
    split
    · next hj =>
      refine pairwise_append.mpr ⟨h.ordered j, ?_, ?_⟩
      · cases event with
        | none => exact List.Pairwise.nil
        | some e => exact pairwise_singleton _ _
      · intro a ha e he
        rw [hj] at ha
        obtain ⟨hmem, hid⟩ := mem_filter.mp ha
        cases hexplained with
        | created => simp at he
        | kept => simp at he
        | moved _ _ _ _ _ hafter =>
          obtain rfl : e = _ := by simpa using he
          exact hafter a hmem (of_decide_eq_true hid)
    · exact h.ordered j

/-! ## The statements -/

variable {existing : Option FindingStatus}

omit [DecidableEq T] in
theorem Explained.again {d : Detection} {row : FindingRecord}
    (hrow : s.db.committed k = some row) (hid : row.findingId = k)
    (hread : existing = some row.status ∨ existing = none ∧ row.status ≠ .resolved)
    (hafter : row.status = .resolved → s.After k d.now) :
    s.Explained k (d.again row) (d.event existing (d.again row)) := by
  by_cases hresolved : row.status = .resolved
  · obtain rfl : existing = some row.status := hread.resolve_right fun hne => hne.2 hresolved
    have hreopened : (d.again row).status = .reopened := by
      rw [Detection.again, hresolved]
      rfl
    have hevent : (d.again row).status ≠ row.status := by
      rw [hreopened, hresolved]
      decide
    rw [Detection.event, if_neg hevent]
    refine .moved hrow hid rfl rfl ?_ (hafter hresolved)
    rw [hreopened, hresolved]
    decide
  · have hsame : (d.again row).status = row.status := by
      rw [Detection.again]
      cases hstatus : row.status with
      | resolved => exact absurd hstatus hresolved
      | _ => rfl
    have hevent : d.event existing (d.again row) = none := by
      rcases hread with rfl | ⟨rfl, -⟩
      · rw [Detection.event, if_pos hsame]
      · rfl
    rw [hevent]
    exact .kept hrow hsame

theorem History.upsert (h : s.History) {d : Detection}
    (hsession : s.session t = .detecting d existing) (hstands : s.Stands t (.detecting d existing)) :
    (s.upsert t d existing).History := by
  have hopen : ∀ v event, s.session t ≠ .closing v event := by
    rw [hsession]
    rintro v event ⟨⟩
  unfold FindingDesk.upsert
  split
  · next k hconflict =>
    simp only [Stands, hconflict] at hstands
    split
    · next row havailable hview =>
      obtain ⟨hread, hafter⟩ := hstands row hview
      rw [h.view hopen] at hview
      have hid := h.identified k row hview
      exact h.write (v := d.again row) hopen hid havailable (.again hview hid hread hafter) rfl rfl
    · exact h
  · next hconflict =>
    simp only [Stands, hconflict] at hstands
    subst hstands
    split
    · next havailable hview =>
      rw [h.view hopen] at hview
      exact h.write hopen rfl havailable (.created hview rfl) rfl rfl
    · exact h.rollback
    · exact h

theorem History.setStatus (h : s.History) {c : Triage} {currentStatus : FindingStatus}
    (hsession : s.session t = .triaging c currentStatus)
    (hstands : s.Stands t (.triaging c currentStatus)) :
    (s.setStatus t c currentStatus).History := by
  have hopen : ∀ v event, s.session t ≠ .closing v event := by
    rw [hsession]
    rintro v event ⟨⟩
  unfold FindingDesk.setStatus
  dsimp only
  split
  · next row havailable hseen =>
    obtain ⟨hview, -⟩ := Option.filter_eq_some_iff.mp hseen
    obtain ⟨rfl, hafter⟩ := hstands row hview
    rw [h.view hopen] at hview
    exact h.write (v := { row with status := c.newStatus }) hopen (h.identified _ row hview)
      havailable (.moved hview rfl rfl rfl (h.checked t c _ hsession) hafter) rfl rfl
  · exact h.rollback
  · exact h

theorem checked_of_openUpdate {c : Triage} (hopen : s.openUpdate t c = .ok session) :
    session = .idle ∨ ∃ currentStatus, session = .triaging c currentStatus ∧
      c.newStatus ∈ currentStatus.allowedTransitions := by
  unfold openUpdate at hopen
  split at hopen
  · cases hopen
  · next row hrow =>
    split at hopen
    · cases hopen
      exact .inl rfl
    · unfold assertValidTransition at hopen
      split at hopen
      · next hedge =>
        cases hopen
        exact .inr ⟨row.status, rfl, hedge⟩
      · cases hopen

theorem History.step (h : s.History) {input : FindingInput T} (hstands : s.ReadsStand input) :
    (s.step input).History := by
  cases input with
  | record t d =>
    simp only [FindingDesk.step]
    split
    · next hidle =>
      exact h.start (by rw [hidle]; rintro v event ⟨⟩) (by rintro v event ⟨⟩)
        (by rintro c currentStatus ⟨⟩)
    · exact h
  | update t c =>
    simp only [FindingDesk.step]
    split
    · next session hidle hopen =>
      refine h.start (by rw [hidle]; rintro v event ⟨⟩) ?_ ?_
      · rcases checked_of_openUpdate hopen with rfl | ⟨currentStatus, rfl, -⟩
        · rintro v event ⟨⟩
        · rintro v event ⟨⟩
      · rcases checked_of_openUpdate hopen with rfl | ⟨currentStatus, rfl, hedge⟩
        · rintro c' currentStatus' ⟨⟩
        · rintro c' currentStatus' ⟨⟩
          exact hedge
    · exact h
  | turn t =>
    have hstands : s.Stands t (s.session t) := hstands
    simp only [FindingDesk.step, FindingDesk.turn]
    split
    · exact h
    · next hsession =>
      rw [hsession] at hstands
      exact h.upsert hsession hstands
    · next hsession =>
      rw [hsession] at hstands
      exact h.setStatus hsession hstands
    · next hsession => exact h.commit hsession
  | abort t => exact h.rollback

theorem committed_step (s : FindingDesk T) (input : FindingInput T) :
    (s.step input).db.committed = s.db.committed ∨
      ∃ t record event, input = .turn t ∧ s.session t = .closing record event ∧
        (s.step input).db.committed = s.db.view t := by
  cases input with
  | record t d =>
    left
    simp only [step]
    split <;> rfl
  | update t c =>
    left
    simp only [step]
    split <;> rfl
  | abort t => exact .inl rfl
  | turn t =>
    simp only [step, FindingDesk.turn]
    split
    · exact .inl rfl
    · left
      unfold upsert
      split
      · split <;> rfl
      · split <;> rfl
    · left
      unfold setStatus
      dsimp only
      split <;> rfl
    · next record event hclosing => exact .inr ⟨t, record, event, rfl, hclosing, rfl⟩

theorem History.keepsToGraph (h : s.History) (input : FindingInput T) : s.KeepsToGraph input := by
  intro k row row' hrow hrow'
  rcases committed_step s input with hsame | ⟨t, record, event, rfl, hclosing, hcommit⟩
  · rw [hsame, hrow] at hrow'
    cases hrow'
    exact .inl rfl
  · rw [hcommit, h.committed_commit hclosing] at hrow'
    split at hrow'
    · next hk =>
      cases hrow'
      rw [hk] at hrow
      cases h.explained hclosing with
      | created hnone =>
        rw [hnone] at hrow
        cases hrow
      | kept hold hstatus =>
        rw [hold] at hrow
        cases hrow
        exact .inl hstatus
      | moved hold _ _ _ hedge =>
        rw [hold] at hrow
        cases hrow
        exact .inr hedge
    · rw [hrow] at hrow'
      cases hrow'
      exact .inl rfl

theorem History.listed (h : s.History) {row : FindingRecord} (hrow : s.db.committed k = some row) :
    s.listEventsScoped k row.organizationId = .ok (s.log k) := by
  have hsorted : (s.log k).insertionSort (fun a b => a.createdAt ≤ b.createdAt) = s.log k :=
    List.Pairwise.insertionSort_eq ((h.ordered k).imp fun hlt => Nat.le_of_lt hlt)
  have hscoped : (s.db.committed k).filter (·.organizationId = row.organizationId) = some row := by
    rw [hrow, Option.filter_some, if_pos (decide_eq_true rfl)]
  unfold listEventsScoped
  rw [hscoped]
  exact congrArg Except.ok hsorted

/--
**The history of every finding is consistent** in every run whose reads stand: whatever is committed
keeps to the graph, and the events that are listed lead from `open` to the status that is stored.
-/
theorem finding_history {inputs : List (FindingInput T)}
    (hstand : Runs.Along step ReadsStand empty inputs) :
    Runs.Along step KeepsToGraph empty inputs ∧
      ∀ k row, (empty.run inputs).db.committed k = some row →
        ∃ events, (empty.run inputs).listEventsScoped k row.organizationId = .ok events ∧
          Chained .open events row.status := by
  have hstep : ∀ (s : FindingDesk T) input, s.History → s.ReadsStand input →
      (s.step input).History := fun s input h hG => h.step hG
  refine ⟨Runs.along_of_invariant hstep (fun s input h _ => h.keepsToGraph input) history_empty
    hstand, ?_⟩
  intro k row hrow
  have h : (empty.run inputs).History := Runs.along_induction hstep history_empty hstand
  exact ⟨_, h.listed hrow, h.chained k row hrow⟩

end FindingDesk

/-! ## A scan and two members of the organization -/

def sampleDetection : Detection where
  findingId := "5f0c9a52-6c1b-4a57-9e0c-0d1f4b8e7b01"
  eventId := "5f0c9a52-6c1b-4a57-9e0c-0d1f4b8e7b02"
  organizationId := "7b8f1c1e-3c55-4f0e-9d8a-52a1f0a6c001"
  scanId := "5f0c9a52-6c1b-4a57-9e0c-0d1f4b8e7b03"
  fingerprint := "f00d"
  checkId := "headers.hsts"
  scannerVersion := "1.0.0"
  title := "Missing Strict-Transport-Security"
  severity := "low"
  confidence := "high"
  asset := "https://example.com"
  endpoint := "/"
  httpMethod := "GET"
  now := 100
  parameter := none
  checkVersion := none
  cweId := none
  owaspCategory := none
  evidence := none
  remediation := none
  references := []

def sampleTriage (newStatus : FindingStatus) (now : Nat) : Triage where
  findingId := sampleDetection.findingId
  eventId := "5f0c9a52-6c1b-4a57-9e0c-0d1f4b8e7b04"
  organizationId := sampleDetection.organizationId
  newStatus := newStatus
  now := now
  reason := none
  changedBy := some "7b8f1c1e-3c55-4f0e-9d8a-52a1f0a6c002"

def reopenedFinding : List (FindingInput Bool) :=
  [.record true sampleDetection, .turn true, .turn true,
    .update true (sampleTriage .resolved 200), .turn true, .turn true,
    .record true { sampleDetection with now := 300 }, .turn true, .turn true]

def resolvedMeanwhile : List (FindingInput Bool) :=
  [.record true sampleDetection, .turn true, .turn true,
    .update true (sampleTriage .confirmed 200), .update false (sampleTriage .resolved 210),
    .turn false, .turn false, .turn true, .turn true]

theorem finding_history_reopened :
    Runs.Along FindingDesk.step FindingDesk.KeepsToGraph FindingDesk.empty reopenedFinding ∧
      ∀ k row, (FindingDesk.empty.run reopenedFinding).db.committed k = some row →
        ∃ events,
          (FindingDesk.empty.run reopenedFinding).listEventsScoped k row.organizationId = .ok events ∧
            Chained .open events row.status :=
  FindingDesk.finding_history (by decide)

/-- **A resolved finding becomes confirmed**, and its log says that it was open. -/
theorem resolved_finding_confirmed :
    ¬ ∀ inputs : List (FindingInput Bool),
      Runs.Along FindingDesk.step FindingDesk.KeepsToGraph FindingDesk.empty inputs ∧
        ∀ k row, (FindingDesk.empty.run inputs).db.committed k = some row →
          ∃ events, (FindingDesk.empty.run inputs).listEventsScoped k row.organizationId
            = .ok events ∧
            Chained .open events row.status := by
  intro h
  obtain ⟨-, hchained⟩ := h resolvedMeanwhile
  have hbroken : ((FindingDesk.empty.run resolvedMeanwhile).db.committed
      sampleDetection.findingId).any (fun row =>
        ((FindingDesk.empty.run resolvedMeanwhile).listEventsScoped sampleDetection.findingId
          row.organizationId).toOption.all fun events =>
            !decide (Chained .open events row.status)) = true := by
    decide
  obtain ⟨row, hrow, hall⟩ := (Option.any_eq_true _ _).mp hbroken
  obtain ⟨events, hlisted, hevents⟩ := hchained _ row hrow
  rw [hlisted] at hall
  simp [Except.toOption, hevents] at hall

end WebGuard
