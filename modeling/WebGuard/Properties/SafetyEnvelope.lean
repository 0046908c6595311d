import Mathlib.Data.List.Chain
import Mathlib.Tactic.Linarith
import WebGuard.Safety.Engine

/-!
# The runtime safety envelope

What holds of the engine after every list of calls (`Envelope`), whatever the requests, the
answers of the target, the revalidation callback and the clock:

* the budget of the permit and its concurrency bound the permitted requests;
* two consecutive permitted requests start `1 / rate` apart, up to one part in `2 ^ 52`, which is
  what the doubles of the throttle may lose;
* every permitted request is of the permit's origin and of an allowed method, and the last thing
  before it, after any sleep, was a revalidation that succeeded;
* after the circuit breaker opened nothing is permitted;
* the constructor of the receipt accepts the counters.

A call that refuses leaves everything the envelope speaks of alone (`Quiet`).
-/

namespace WebGuard

open List Binary64 SafetyEngine

/-! ## What the journal says -/

/-- The starts of the permitted requests, latest first. -/
def starts (journal : List Entry) : List ℚ :=
  journal.filterMap fun entry =>
    match entry with
    | .permitted _ _ start => some start
    | _ => none

/-- How many requests came back. -/
def finishes (journal : List Entry) : Nat := journal.count .finished

/-- An entry that neither permits nor ends a request. -/
def Entry.isQuiet : Entry → Bool
  | .revalidated _ => true
  | .slept _ => true
  | _ => false

theorem starts_quiet {quiet journal : List Entry} (h : ∀ x ∈ quiet, x.isQuiet = true) :
    starts (quiet ++ journal) = starts journal := by
  unfold starts
  rw [filterMap_append, filterMap_eq_nil_iff.mpr, nil_append]
  intro x hx
  have hquiet := h x hx
  cases x <;> simp_all [Entry.isQuiet]

theorem finishes_quiet {quiet journal : List Entry} (h : ∀ x ∈ quiet, x.isQuiet = true) :
    finishes (quiet ++ journal) = finishes journal := by
  unfold finishes
  rw [count_append, count_eq_zero.mpr, Nat.zero_add]
  intro hmem
  have hquiet := h _ hmem
  simp [Entry.isQuiet] at hquiet

/-! ## The throttle -/

section

variable [TextLibrary]

variable (e : SafetyEngine)

theorem minimumInterval_bounds :
    e.minimumInterval ≤ 5 ∧
      (1 - 1 / 2 ^ 53) * (1 / e.permit.maximumRequestsPerSecond) ≤ e.minimumInterval :=
  reciprocal_rate e.permit.rate.1 e.permit.rate.2

theorem delay_le {now last : ℚ} (h : last ≤ now) : e.delay now last ≤ 5 := by
  have hpassed := nearest_nonneg (sub_nonneg.mpr h)
  have hupper := (minimumInterval_bounds e).1
  unfold delay
  generalize hwait : e.minimumInterval - nearest (now - last) = wait
  rcases le_or_gt wait 0 with hnone | hpos
  · exact (nearest_nonpos hnone).trans (by norm_num)
  · have hfive : wait ≤ 5 := by linarith
    have hlog : Int.log 2 |wait| < 3 :=
      log_lt_of_lt_two_pow hpos (lt_of_le_of_lt hfive (by norm_num))
    exact_mod_cast nearest_le_intCast (n := 5) (by omega) (by exact_mod_cast hfive)

/-- The delay, if there is one, brings a request up to the interval of the rate. Each of the three
roundings loses one part in `2 ^ 53`, and the last two share it out between them. -/
theorem spaced_delay {now last : ℚ} (h : last ≤ now) :
    last + (1 - 1 / 2 ^ 52) / e.permit.maximumRequestsPerSecond
      ≤ now + max 0 (e.delay now last) := by
  have hhalf : 1 / 2 ≤ 1 / e.permit.maximumRequestsPerSecond :=
    one_div_le_one_div_of_le e.permit.rate_pos e.permit.rate.2
  have hinterval := mul_le_mul_of_nonneg_left (minimumInterval_bounds e).2
    (by norm_num : (0 : ℚ) ≤ 1 - 1 / 2 ^ 53)
  have hpassed := nearest_sub_le (sub_nonneg.mpr h)
  have htiny := tiny_le
  have hnonneg := le_max_left 0 (e.delay now last)
  rw [div_eq_mul_one_div]
  rcases le_or_gt (e.minimumInterval - nearest (now - last)) 0 with hnone | hpos
  · -- enough has passed by itself
    linarith
  · have hdelay : _ ≤ e.delay now last := sub_le_nearest hpos
    have hmax := le_max_right 0 (e.delay now last)
    linarith

end

/-! ## Refusals -/

/-- The clock is not behind the last permission, and what was slept is a finite number. -/
structure Timed (s : SafetyState) : Prop where
  past : ∀ last, s.lastPermittedAt = some last → last ≤ s.clock
  throttled : 0 ≤ s.throttleSeconds
  finite : s.throttleSeconds ≤ 2 ^ 56

/-- From `s` to `s'` nothing was permitted and nothing came back; time may have passed. -/
structure Quiet (s s' : SafetyState) : Prop where
  attempted : s'.requestsAttempted = s.requestsAttempted
  permitted : s'.requestsPermitted = s.requestsPermitted
  inFlight : s'.inFlight = s.inFlight
  peak : s'.peakConcurrency = s.peakConcurrency
  lastPermittedAt : s'.lastPermittedAt = s.lastPermittedAt
  circuitOpen : s'.circuitOpen = s.circuitOpen
  timed : Timed s → Timed s'
  journal : ∃ quiet, s'.journal = quiet ++ s.journal ∧ ∀ x ∈ quiet, x.isQuiet = true

theorem Quiet.refl (s : SafetyState) : Quiet s s :=
  ⟨rfl, rfl, rfl, rfl, rfl, rfl, id, [], rfl, by simp⟩

variable {s : SafetyState}

theorem Quiet.trans {t u : SafetyState} (h : Quiet s t) (h' : Quiet t u) : Quiet s u := by
  obtain ⟨quiet, hjournal, hquiet⟩ := h.journal
  obtain ⟨quiet', hjournal', hquiet'⟩ := h'.journal
  refine ⟨h'.attempted.trans h.attempted, h'.permitted.trans h.permitted,
    h'.inFlight.trans h.inFlight, h'.peak.trans h.peak,
    h'.lastPermittedAt.trans h.lastPermittedAt, h'.circuitOpen.trans h.circuitOpen,
    h'.timed ∘ h.timed, quiet' ++ quiet, ?_, ?_⟩
  · rw [hjournal', hjournal, append_assoc]
  · intro x hx
    rcases mem_append.mp hx with hx | hx
    · exact hquiet' x hx
    · exact hquiet x hx

theorem quiet_block (s : SafetyState) (code message : String) (scopeViolation : Bool) :
    Quiet s (s.block code message scopeViolation).2 :=
  ⟨rfl, rfl, rfl, rfl, rfl, rfl, fun h => ⟨h.past, h.throttled, h.finite⟩, [], rfl, by simp⟩

theorem quiet_revalidate (s : SafetyState) (answer : Revalidation) :
    Quiet s (s.revalidate answer).2 := by
  have hentry : Quiet s { s with
      permitRevalidations := s.permitRevalidations + 1
      journal := .revalidated answer :: s.journal } :=
    ⟨rfl, rfl, rfl, rfl, rfl, rfl, fun h => ⟨h.past, h.throttled, h.finite⟩,
      [.revalidated answer], rfl, by simp [Entry.isQuiet]⟩
  cases answer with
  | granted => exact hentry
  | denied code message => exact hentry.trans (quiet_block _ _ _ _)
  | raised => exact hentry

theorem revalidate_ok {answer : Revalidation} (h : (s.revalidate answer).1 = .ok ()) :
    (s.revalidate answer).2.journal.head? = some (.revalidated .granted) ∧
      (s.revalidate answer).2.lastPermittedAt = s.lastPermittedAt ∧
      (s.revalidate answer).2.clock = s.clock := by
  cases answer with
  | granted => exact ⟨rfl, rfl, rfl⟩
  | denied code message => cases h
  | raised => cases h

section

variable [TextLibrary] {e : SafetyEngine}

omit [TextLibrary] in
theorem Timed.read (h : Timed s) (around : Surroundings) :
    Timed { s with clock := s.clock + around.elapsed } :=
  ⟨fun last hlast => (h.past last hlast).trans (le_add_of_nonneg_right around.elapsed.2),
    h.throttled, h.finite⟩

variable {around : Surroundings}

theorem Timed.slept (h : Timed s) {last : ℚ}
    (hlast : s.lastPermittedAt = some last)
    (hdelay : 0 < e.delay (s.clock + around.elapsed) last) :
    Timed { s with
      clock := s.clock + around.elapsed + e.delay (s.clock + around.elapsed) last
        + around.oversleep
      throttles := s.throttles + 1
      throttleSeconds := nearest
        (s.throttleSeconds + e.delay (s.clock + around.elapsed) last)
      journal := .slept (e.delay (s.clock + around.elapsed) last) :: s.journal } := by
  have hread := (h.read around).past
  have hfive := delay_le e (hread last hlast)
  have hsum := add_pos_of_nonneg_of_pos h.throttled hdelay
  refine ⟨?_, nearest_nonneg hsum.le, ?_⟩
  · intro last' hlast'
    have hoversleep : (0 : ℚ) ≤ around.oversleep := around.oversleep.2
    have hbefore : last' ≤ s.clock + around.elapsed := hread last' hlast'
    show last' ≤ s.clock + around.elapsed + _ + around.oversleep
    linarith
  · -- five seconds are less than half of the last place above the bound
    have hfinite := h.finite
    exact nearest_le_two_pow (e := 4) (by norm_num) hsum (by norm_num; linarith)

theorem quiet_throttle (s : SafetyState) (around : Surroundings) :
    Quiet s (e.throttle s around).2 := by
  have hread : Quiet s { s with clock := s.clock + around.elapsed } :=
    ⟨rfl, rfl, rfl, rfl, rfl, rfl, fun h => h.read around, [], rfl, by simp⟩
  unfold throttle
  simp only
  split
  · exact hread
  · next last hlast =>
    split
    · next hdelay =>
      refine Quiet.trans ?_ (quiet_revalidate _ _)
      exact ⟨rfl, rfl, rfl, rfl, rfl, rfl, fun h => h.slept hlast hdelay, [.slept _], rfl, by
        simp [Entry.isQuiet]⟩
    · exact hread

/-- What the throttle lets pass has been revalidated last, after the sleep if there was one. -/
theorem throttle_head (hgranted : s.journal.head? = some (.revalidated .granted))
    (h : (e.throttle s around).1 = .ok ()) :
    (e.throttle s around).2.journal.head? = some (.revalidated .granted) := by
  unfold throttle at h ⊢
  simp only at h ⊢
  split at h
  · exact hgranted
  · split at h
    · next hdelay =>
      rw [if_pos hdelay]
      exact (revalidate_ok h).1
    · next hdelay =>
      rw [if_neg hdelay]
      exact hgranted

theorem throttle_spaced (htimed : Timed s)
    (h : (e.throttle s around).1 = .ok ()) (last : ℚ) (hlast : s.lastPermittedAt = some last) :
    last + (1 - 1 / 2 ^ 52) / e.permit.maximumRequestsPerSecond
      ≤ (e.throttle s around).2.clock := by
  have hspaced := spaced_delay e ((htimed.read around).past last hlast)
  unfold throttle at h ⊢
  simp only [hlast] at h ⊢
  split at h
  · next hdelay =>
    rw [if_pos hdelay, (revalidate_ok h).2.2]
    rw [max_eq_right hdelay.le] at hspaced
    exact le_add_of_le_of_nonneg hspaced around.oversleep.2
  · next hdelay =>
    rw [if_neg hdelay]
    rw [max_eq_left (not_lt.mp hdelay), add_zero] at hspaced
    exact hspaced

/-! ## Permissions -/

/-- `before_request` from `s`, where it permits: everything it has checked, and what it leaves. -/
structure Permits (e : SafetyEngine) (s : SafetyState) (url method : String) (t : SafetyState) :
    Prop where
  closed : s.circuitOpen = false
  origin : WebGuard.origin url = .ok e.rootOrigin
  method : TextLibrary.upper method ∈ e.permit.allowedHttpMethods
  budget : s.requestsPermitted < e.permit.maximumRequestAttempts
  concurrency : s.inFlight < e.permit.maximumConcurrency
  quiet : Quiet s t
  granted : t.journal.head? = some (.revalidated .granted)
  spaced : Timed s → ∀ last, s.lastPermittedAt = some last →
    last + (1 - 1 / 2 ^ 52) / e.permit.maximumRequestsPerSecond ≤ t.clock

theorem judge_cases (e : SafetyEngine) (s : SafetyState) (url method : String)
    (around : Surroundings) :
    Quiet s (e.judge s url method around).2 ∨
      ∃ t, Permits e s url method t ∧ (e.judge s url method around).2 = t.permit url method := by
  unfold judge
  split
  · exact Or.inl (quiet_block _ _ _ _)
  · next hopen =>
    split
    · exact Or.inl (Quiet.refl s)
    · next found horigin =>
      -- The five checks that come before any contact with the outside.
      split
      · exact Or.inl (quiet_block _ _ _ _)
      · next hsame =>
        split
        · exact Or.inl (quiet_block _ _ _ _)
        · next hmethod =>
          split
          · exact Or.inl (quiet_block _ _ _ _)
          · next hbudget =>
            split
            · exact Or.inl (quiet_block _ _ _ _)
            · next hconcurrency =>
              have hquiet := quiet_revalidate s around.first
              split
              · next heq =>
                rw [heq] at hquiet
                exact Or.inl hquiet
              · next s₁ heq =>
                have hanswer : (s.revalidate around.first).1 = .ok () := by rw [heq]
                have hgranted := revalidate_ok hanswer
                rw [heq] at hquiet hgranted
                have hthrottle := hquiet.trans (quiet_throttle (e := e) s₁ around)
                split
                · next hfailed =>
                  rw [hfailed] at hthrottle
                  exact Or.inl hthrottle
                · next s₂ hpassed =>
                  have hlate : (e.throttle s₁ around).1 = .ok () := by rw [hpassed]
                  have hhead := throttle_head hgranted.1 hlate
                  have hspaced := fun h => throttle_spaced (e := e) (hquiet.timed h) hlate
                  rw [hpassed] at hthrottle hhead hspaced
                  rw [not_ne_iff] at hsame
                  refine Or.inr ⟨s₂, ⟨by simpa using hopen, by rw [horigin, hsame],
                    not_not.mp hmethod, Nat.lt_of_not_le hbudget, Nat.lt_of_not_le hconcurrency,
                    hthrottle, hhead, ?_⟩, rfl⟩
                  intro htimed last hlast
                  refine hspaced htimed last ?_
                  rw [hgranted.2.1]
                  exact hlast

/-! ## The invariant -/

/-- What holds of the engine after every list of calls. -/
structure Envelope (e : SafetyEngine) (s : SafetyState) : Prop where
  budget : s.requestsPermitted ≤ e.permit.maximumRequestAttempts
  concurrency : s.inFlight ≤ e.permit.maximumConcurrency
  peak : s.peakConcurrency ≤ e.permit.maximumConcurrency
  attempted : s.requestsPermitted ≤ s.requestsAttempted
  timed : Timed s
  /-- The counters agree with the journal. -/
  counted : (starts s.journal).length = s.requestsPermitted
  pending : s.requestsPermitted ≤ finishes s.journal + s.inFlight
  latest : (starts s.journal).head? = s.lastPermittedAt
  spaced : (starts s.journal).IsChain fun later earlier =>
    earlier + (1 - 1 / 2 ^ 52) / e.permit.maximumRequestsPerSecond ≤ later
  allowed : ∀ url method start, .permitted url method start ∈ s.journal →
    origin url = .ok e.rootOrigin ∧ TextLibrary.upper method ∈ e.permit.allowedHttpMethods
  /-- Right before a permitted request its authority was granted. -/
  authorised : ∀ later url method start earlier,
    s.journal = later ++ .permitted url method start :: earlier →
    earlier.head? = some (.revalidated .granted)

theorem envelope_start : Envelope e {} := by
  refine ⟨Nat.zero_le _, Nat.zero_le _, Nat.zero_le _, Nat.le_refl _, ⟨?_, le_rfl, ?_⟩, rfl,
    Nat.le_refl _, rfl, isChain_nil, ?_, ?_⟩
  · intro last hlast
    cases hlast
  · norm_num
  · intro url method start hmem
    cases hmem
  · intro later url method start earlier hsplit
    simp at hsplit

omit [TextLibrary] in
theorem split_old {new old later earlier : List Entry} {x : Entry} (hnew : x ∉ new)
    (h : new ++ old = later ++ x :: earlier) : ∃ later', old = later' ++ x :: earlier := by
  rcases append_eq_append_iff.mp h with ⟨middle, -, hold⟩ | ⟨middle, rfl, hsplit⟩
  · exact ⟨middle, hold⟩
  · cases middle with
    | nil => exact ⟨[], hsplit.symm⟩
    | cons y rest =>
      obtain ⟨rfl, -⟩ := cons.inj hsplit
      exact absurd (by simp) hnew

theorem Envelope.quiet {s s' : SafetyState} (h : Envelope e s) (hq : Quiet s s') :
    Envelope e s' := by
  obtain ⟨quiet, hjournal, hquiet⟩ := hq.journal
  have hstarts : starts s'.journal = starts s.journal := by rw [hjournal, starts_quiet hquiet]
  have hfinishes : finishes s'.journal = finishes s.journal := by
    rw [hjournal, finishes_quiet hquiet]
  have hloud : ∀ url method start, Entry.permitted url method start ∉ quiet := by
    intro url method start hmem
    cases hquiet _ hmem
  refine ⟨hq.permitted ▸ h.budget, hq.inFlight ▸ h.concurrency, hq.peak ▸ h.peak, ?_,
    hq.timed h.timed, ?_, ?_, ?_, ?_, ?_, ?_⟩
  · rw [hq.permitted, hq.attempted]
    exact h.attempted
  · rw [hstarts, hq.permitted]
    exact h.counted
  · rw [hfinishes, hq.permitted, hq.inFlight]
    exact h.pending
  · rw [hstarts, hq.lastPermittedAt]
    exact h.latest
  · rw [hstarts]
    exact h.spaced
  · intro url method start hmem
    rw [hjournal] at hmem
    rcases mem_append.mp hmem with hmem | hmem
    · exact absurd hmem (hloud url method start)
    · exact h.allowed url method start hmem
  · intro later url method start earlier hsplit
    rw [hjournal] at hsplit
    obtain ⟨later', hsplit'⟩ := split_old (hloud url method start) hsplit
    exact h.authorised later' url method start earlier hsplit'

theorem Envelope.permit {t : SafetyState} {url method : String} (h : Envelope e s)
    (hp : Permits e s url method t) (hattempted : t.requestsPermitted < t.requestsAttempted) :
    Envelope e (t.permit url method) := by
  have ht := h.quiet hp.quiet
  have hpermitted := hp.quiet.permitted
  have hinFlight := hp.quiet.inFlight
  have hbudget := hp.budget
  have hconcurrency := hp.concurrency
  have hstarts : starts (t.permit url method).journal = t.clock :: starts t.journal := rfl
  refine ⟨?_, ?_, ?_, hattempted, ⟨?_, ht.timed.throttled, ht.timed.finite⟩, ?_, ?_, rfl, ?_, ?_,
    ?_⟩
  · show t.requestsPermitted + 1 ≤ e.permit.maximumRequestAttempts
    omega
  · show t.inFlight + 1 ≤ e.permit.maximumConcurrency
    omega
  · show max t.peakConcurrency (t.inFlight + 1) ≤ e.permit.maximumConcurrency
    have hpeak := ht.peak
    omega
  · rintro last hlast
    exact (Option.some.inj hlast).ge
  · rw [hstarts, length_cons, ht.counted]
    rfl
  · show t.requestsPermitted + 1
      ≤ finishes (.permitted url method t.clock :: t.journal) + (t.inFlight + 1)
    have hpending := ht.pending
    have hsame : finishes (.permitted url method t.clock :: t.journal) = finishes t.journal := by
      simp [finishes]
    omega
  · rw [hstarts, isChain_cons]
    -- The new start is the only pair to look at: the throttle spaced it from the last one.
    refine ⟨?_, ht.spaced⟩
    intro last hlast
    rw [ht.latest, hp.quiet.lastPermittedAt] at hlast
    exact hp.spaced h.timed last hlast
  · intro url' method' start hmem
    rcases mem_cons.mp hmem with heq | hmem
    · cases heq
      exact ⟨hp.origin, hp.method⟩
    · exact ht.allowed url' method' start hmem
  · intro later url' method' start earlier hsplit
    cases later with
    | nil =>
      obtain ⟨-, rfl⟩ := cons.inj hsplit
      exact hp.granted
    | cons x rest => exact ht.authorised rest url' method' start earlier (cons.inj hsplit).2

/-! ## Answers -/

/-- What `after_request` changes of the fields that the envelope speaks of. -/
structure Answered (s s' : SafetyState) : Prop where
  attempted : s'.requestsAttempted = s.requestsAttempted
  permitted : s'.requestsPermitted = s.requestsPermitted
  inFlight : s'.inFlight = s.inFlight - 1
  peak : s'.peakConcurrency = s.peakConcurrency
  lastPermittedAt : s'.lastPermittedAt = s.lastPermittedAt
  timed : Timed s → Timed s'
  journal : s'.journal = .finished :: s.journal
  circuitOpen : s.circuitOpen = true → s'.circuitOpen = true

omit [TextLibrary] in
theorem answered_afterRequest (s : SafetyState) (status : Option Int)
    (errorCode : Option String) : Answered s (afterRequest s status errorCode) := by
  have hobserve : ∀ t : SafetyState, ∃ errors r429 r5xx, (t.observe status errorCode).1 = { t with
      requestErrors := errors, responses429 := r429, responses5xx := r5xx } := by
    intro t
    unfold SafetyState.observe
    split
    · exact ⟨_, _, _, rfl⟩
    · exact ⟨_, _, _, rfl⟩
    · exact ⟨_, _, _, rfl⟩
  unfold afterRequest
  generalize hanswered :
    { s with inFlight := s.inFlight - 1, journal := .finished :: s.journal } = answered
  obtain ⟨errors, r429, r5xx, hobserved⟩ := hobserve answered
  simp only [hobserved]
  -- How many events the answer makes is of no matter here.
  generalize (if (answered.observe status errorCode).2 = true then
    s.consecutiveProtectiveEvents + 1 else 0) = events
  rw [← hanswered]
  split
  · exact ⟨rfl, rfl, rfl, rfl, rfl, fun h => ⟨h.past, h.throttled, h.finite⟩, rfl, fun _ => rfl⟩
  · exact ⟨rfl, rfl, rfl, rfl, rfl, fun h => ⟨h.past, h.throttled, h.finite⟩, rfl, id⟩

theorem Envelope.answer {s' : SafetyState} (h : Envelope e s) (ha : Answered s s') :
    Envelope e s' := by
  have hstarts : starts s'.journal = starts s.journal := by
    rw [ha.journal]
    rfl
  have hfinishes : finishes s'.journal = finishes s.journal + 1 := by
    rw [ha.journal]
    simp [finishes]
  refine ⟨ha.permitted ▸ h.budget, ?_, ha.peak ▸ h.peak, ?_, ha.timed h.timed, ?_,
    ?_, ?_, ?_, ?_, ?_⟩
  · rw [ha.inFlight]
    exact Nat.le_trans (Nat.sub_le _ _) h.concurrency
  · rw [ha.permitted, ha.attempted]
    exact h.attempted
  · rw [hstarts, ha.permitted]
    exact h.counted
  · have hpending := h.pending
    rw [hfinishes, ha.permitted, ha.inFlight]
    omega
  · rw [hstarts, ha.lastPermittedAt]
    exact h.latest
  · rw [hstarts]
    exact h.spaced
  · intro url method start hmem
    rw [ha.journal, mem_cons] at hmem
    exact h.allowed url method start (hmem.resolve_left (by simp))
  · intro later url method start earlier hsplit
    have hparts : [.finished] ++ s.journal = later ++ .permitted url method start :: earlier := by
      rw [← hsplit, ha.journal]
      rfl
    obtain ⟨later', hsplit'⟩ := split_old (by simp) hparts
    exact h.authorised later' url method start earlier hsplit'

/-! ## Whole runs -/

theorem envelope_step (h : Envelope e s) (call : EngineCall) : Envelope e (e.step s call) := by
  cases call with
  | afterRequest status errorCode => exact h.answer (answered_afterRequest s status errorCode)
  | beforeRequest url method around =>
    -- The attempt is counted first, on every path.
    have hcounted : Envelope e { s with requestsAttempted := s.requestsAttempted + 1 } :=
      ⟨h.budget, h.concurrency, h.peak, Nat.le_succ_of_le h.attempted,
        ⟨h.timed.past, h.timed.throttled, h.timed.finite⟩, h.counted, h.pending, h.latest, h.spaced,
        h.allowed, h.authorised⟩
    show Envelope e (e.judge _ url method around).2
    rcases judge_cases e { s with requestsAttempted := s.requestsAttempted + 1 } url method around
      with hquiet | ⟨t, hpermits, heq⟩
    · exact hcounted.quiet hquiet
    · rw [heq]
      refine hcounted.permit hpermits ?_
      rw [hpermits.quiet.permitted, hpermits.quiet.attempted]
      exact Nat.lt_succ_of_le h.attempted

theorem open_step (h : s.circuitOpen = true) (call : EngineCall) :
    (e.step s call).circuitOpen = true ∧
      (e.step s call).requestsPermitted = s.requestsPermitted := by
  cases call with
  | beforeRequest url method around =>
    simp [step, beforeRequest, judge, SafetyState.block, h]
  | afterRequest status errorCode =>
    have ha := answered_afterRequest s status errorCode
    exact ⟨ha.circuitOpen h, ha.permitted⟩

theorem open_run (h : s.circuitOpen = true) (calls : List EngineCall) :
    (Runs.run e.step s calls).requestsPermitted = s.requestsPermitted := by
  induction calls generalizing s with
  | nil => rfl
  | cons call calls ih =>
    obtain ⟨hopen, hsame⟩ := open_step (e := e) h call
    rw [Runs.run_cons, ih hopen, hsame]

theorem envelope_run (e : SafetyEngine) (calls : List EngineCall) : Envelope e (e.run calls) :=
  Runs.run_induction (P := Envelope e) (fun _ call h => envelope_step h call) envelope_start calls

omit [TextLibrary] in
theorem TerminationReason.isIdentifier_text (reason : TerminationReason) :
    isIdentifier reason.text = true := by
  cases reason with
  | finished status => cases status <;> decide
  | safetyBlocked => decide

theorem Envelope.receipt (h : Envelope e s) {receiptId : String}
    (hid : isCanonicalUuid receiptId = true) {completedAt : Nat}
    (hclock : e.startedAt ≤ completedAt) (reason : TerminationReason) :
    (e.receiptFields s receiptId completedAt reason).Wellformed := by
  have hcanonical := e.permit.canonical
  rw [e.sameOrganization] at hcanonical
  refine ⟨?_, e.digest, e.httpTarget, hclock, ?_, ⟨?_, ?_⟩, ⟨e.permit.rate_pos, h.timed.throttled⟩, ?_,
    ?_, reason.isIdentifier_text⟩
  · intro field hfield
    simp only [SafetyReceiptFields.identifiers, receiptFields, mem_cons,
      not_mem_nil, or_false] at hfield
    rcases hfield with rfl | rfl | rfl | rfl | rfl
    · exact hid
    · exact hcanonical.1
    · exact hcanonical.2
    · exact e.canonical.1
    · exact e.canonical.2
  · intro field hfield
    simp only [SafetyReceiptFields.counts, receiptFields, mem_cons,
      not_mem_nil, or_false] at hfield
    rcases hfield with rfl | rfl | rfl | rfl | rfl | rfl | rfl | rfl | rfl | rfl | rfl | rfl | rfl
    all_goals exact Int.natCast_nonneg _
  · exact Int.ofNat_le.mpr e.permit.attempts.1
  · exact Int.ofNat_le.mpr e.permit.concurrency.1
  · exact Int.ofNat_le.mpr h.attempted
  · exact Int.ofNat_le.mpr h.peak

/--
**The runtime safety envelope.**

After every list of calls: the budget; the requests in flight, by the engine's counter and by
the calls; the spacing of the starts, as far as doubles keep it; origin, method and authority of
every permitted request; nothing permitted after the circuit opened; a sum of the delays that is
finite; and a receipt that its constructor accepts, at every clock reading that is not behind the
start.
-/
theorem safety_envelope (e : SafetyEngine) (calls : List EngineCall) :
    (starts (e.run calls).journal).length = (e.run calls).requestsPermitted ∧
    (e.run calls).requestsPermitted ≤ e.permit.maximumRequestAttempts ∧
    (e.run calls).inFlight ≤ e.permit.maximumConcurrency ∧
    (e.run calls).requestsPermitted
      ≤ finishes (e.run calls).journal + e.permit.maximumConcurrency ∧
    (starts (e.run calls).journal).IsChain (fun later earlier =>
      earlier + (1 - 1 / 2 ^ 52) / e.permit.maximumRequestsPerSecond ≤ later) ∧
    (∀ later url method start earlier,
      (e.run calls).journal = later ++ .permitted url method start :: earlier →
      origin url = origin e.permit.target ∧
        TextLibrary.upper method ∈ e.permit.allowedHttpMethods ∧
        earlier.head? = some (.revalidated .granted)) ∧
    (∀ continuation, (e.run calls).circuitOpen = true →
      (e.run (calls ++ continuation)).requestsPermitted = (e.run calls).requestsPermitted) ∧
    (e.run calls).throttleSeconds ≤ 2 ^ 56 ∧
    ∀ receiptId completedAt reason, isCanonicalUuid receiptId = true →
      e.startedAt ≤ completedAt →
      ∃ receipt, (e.receiptFields (e.run calls) receiptId completedAt reason).postInit
        = .ok receipt := by
  have h := envelope_run e calls
  refine ⟨h.counted, h.budget, h.concurrency, ?_, h.spaced, ?_, ?_, h.timed.finite, ?_⟩
  · exact Nat.le_trans h.pending (Nat.add_le_add_left h.concurrency _)
  · intro later url method start earlier hsplit
    obtain ⟨horigin, hmethod⟩ := h.allowed url method start (by rw [hsplit]; simp)
    refine ⟨?_, hmethod, h.authorised later url method start earlier hsplit⟩
    rw [e.sameTarget, e.built, horigin]
  · intro continuation hopen
    unfold run
    rw [Runs.run_append]
    exact open_run hopen continuation
  · intro receiptId completedAt reason hid hclock
    exact ⟨_, SafetyReceiptFields.postInit_eq_ok.mpr ⟨rfl, h.receipt hid hclock reason⟩⟩

end

/-! ## A sample run -/

@[reducible] def sampleTextLibrary : TextLibrary where
  urlsplit := fun url =>
    if url = "https://example.com/" then some ⟨"https", some "example.com", some none⟩
    else if url = "https://example.org/" then some ⟨"https", some "example.org", some none⟩
    else none
  upper := fun text => String.ofList (text.toList.map Char.toUpper)
  lower := fun text => String.ofList (text.toList.map Char.toLower)

def samplePermitClaims : PermitClaims where
  permitId := "00000000-0000-4000-8000-00000000000c"
  organizationId := "00000000-0000-4000-8000-00000000000a"
  target := "https://example.com/"
  allowedHttpMethods := ["GET"]
  maximumRequestAttempts := 3
  maximumRequestsPerSecond := 2
  maximumConcurrency := 1
  canonical := by decide
  attempts := by decide
  rate := by decide +kernel
  concurrency := by decide

def sampleEngine : @SafetyEngine sampleTextLibrary :=
  letI := sampleTextLibrary
  { permit := samplePermitClaims
    permitSha256 := "fedcba9876543210fedcba9876543210fedcba9876543210fedcba9876543210"
    organizationId := "00000000-0000-4000-8000-00000000000a"
    jobId := "00000000-0000-4000-8000-000000000001"
    scanId := "00000000-0000-4000-8000-00000000000d"
    target := "https://example.com/"
    startedAt := 100
    rootOrigin := ("https", "example.com", 443)
    built := by decide
    sameTarget := rfl
    sameOrganization := rfl
    canonical := by decide
    digest := by decide
    httpTarget := by decide }

/-- A second request right after the first sleeps; one to another host is refused. -/
example :
    letI := sampleTextLibrary
    starts (sampleEngine.run
      [.beforeRequest "https://example.com/" "get" ⟨1, 0, .granted, .granted⟩,
        .afterRequest (some 200) none,
        .beforeRequest "https://example.com/" "get" ⟨1 / 4, 0, .granted, .granted⟩,
        .afterRequest none (some "timeout"),
        .beforeRequest "https://example.org/" "get" ⟨1, 0, .granted, .granted⟩]).journal
      = [3 / 2, 1] := by
  decide +kernel

theorem one_is_rate : (1 / 5 : ℚ) ≤ 1 ∧ (1 : ℚ) ≤ 2 := by norm_num

/-- The engine of a permit for one request in a second. -/
def slowEngine : @SafetyEngine sampleTextLibrary :=
  letI := sampleTextLibrary
  { sampleEngine with
    permit := { samplePermitClaims with maximumRequestsPerSecond := 1, rate := one_is_rate } }

/-- The second request comes `2 ^ (-60)` too early, and the difference of the readings is rounded to
a whole second. -/
theorem early_start_permitted :
    letI := sampleTextLibrary
    let calls : List EngineCall :=
      [.beforeRequest "https://example.com/" "GET" ⟨1 / 2 ^ 60, 0, .granted, .granted⟩,
        .afterRequest (some 200) none,
        .beforeRequest "https://example.com/" "GET" ⟨1 - 1 / 2 ^ 60, 0, .granted, .granted⟩]
    starts (slowEngine.run calls).journal = [1, 1 / 2 ^ 60] ∧
      ¬ (starts (slowEngine.run calls).journal).IsChain fun later earlier =>
        earlier + 1 / slowEngine.permit.maximumRequestsPerSecond ≤ later := by
  let _ := sampleTextLibrary
  intro calls
  have hstarts : starts (slowEngine.run calls).journal = [1, 1 / 2 ^ 60] := by decide +kernel
  have hrate : slowEngine.permit.maximumRequestsPerSecond = 1 := rfl
  refine ⟨hstarts, ?_⟩
  rw [hstarts, hrate, isChain_pair]
  norm_num

end WebGuard
