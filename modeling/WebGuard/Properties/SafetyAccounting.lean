import WebGuard.Properties.SafetyEnvelope

/-!
# What the safety engine counts

Every refusal that `before_request` decides on goes through `_block`, which counts it. A refusal
that an exception makes is not counted: one out of `_origin`, and one out of the revalidation
callback unless it is a `TrustScanPermitError`.
-/

namespace WebGuard

open SafetyEngine

section

variable [TextLibrary]

/-- The checks in front of the revalidation are passed. -/
structure Reaches (e : SafetyEngine) (s : SafetyState) (url method : String) : Prop where
  closed : s.circuitOpen = false
  origin : WebGuard.origin url = .ok e.rootOrigin
  method : TextLibrary.upper method ∈ e.permit.allowedHttpMethods
  budget : s.requestsPermitted < e.permit.maximumRequestAttempts
  concurrency : s.inFlight < e.permit.maximumConcurrency

/-- The request comes too early and has to wait. -/
def Throttled (e : SafetyEngine) (s : SafetyState) (around : Surroundings) : Prop :=
  ∃ last, s.lastPermittedAt = some last ∧ 0 < e.delay (s.clock + around.elapsed) last

/-- A refusal that is not counted: the target has no origin, or the callback raises something else
than its own error, before the request waits or after. -/
inductive Uncounted (e : SafetyEngine) (s : SafetyState) (url method : String)
    (around : Surroundings) : Prop where
  | target {refusal : Refusal} (hclosed : s.circuitOpen = false)
      (horigin : origin url = .error refusal)
  | callback (hreaches : Reaches e s url method) (hfirst : around.first = .raised)
  | waited (hreaches : Reaches e s url method) (hfirst : around.first = .granted)
      (hthrottled : Throttled e s around) (hsecond : around.second = .raised)

/-- What a call did to the counters. -/
inductive Counts (s s' : SafetyState) : Except Refusal Unit → Prop → Prop where
  | permitted {uncounted : Prop} (hpermitted : s'.requestsPermitted = s.requestsPermitted + 1)
      (hblocked : s'.requestsBlocked = s.requestsBlocked) (hcounted : ¬ uncounted) :
      Counts s s' (.ok ()) uncounted
  | blocked {refusal : Refusal} {uncounted : Prop}
      (hpermitted : s'.requestsPermitted = s.requestsPermitted)
      (hblocked : s'.requestsBlocked = s.requestsBlocked + 1) (hcounted : ¬ uncounted) :
      Counts s s' (.error refusal) uncounted
  | missed {refusal : Refusal} {uncounted : Prop}
      (hpermitted : s'.requestsPermitted = s.requestsPermitted)
      (hblocked : s'.requestsBlocked = s.requestsBlocked) (hmissed : uncounted) :
      Counts s s' (.error refusal) uncounted

variable {e : SafetyEngine} {s : SafetyState} {url method : String} {around : Surroundings}

omit [TextLibrary] in
theorem Counts.congr {t s' : SafetyState} {answer : Except Refusal Unit} {p q : Prop}
    (h : Counts t s' answer p) (hpermitted : t.requestsPermitted = s.requestsPermitted)
    (hblocked : t.requestsBlocked = s.requestsBlocked) (hiff : p ↔ q) : Counts s s' answer q := by
  cases h with
  | permitted hp hb hcounted =>
    exact .permitted (by rw [hp, hpermitted]) (by rw [hb, hblocked]) (hiff.not.mp hcounted)
  | blocked hp hb hcounted =>
    exact .blocked (by rw [hp, hpermitted]) (by rw [hb, hblocked]) (hiff.not.mp hcounted)
  | missed hp hb hmissed =>
    exact .missed (by rw [hp, hpermitted]) (by rw [hb, hblocked]) (hiff.mp hmissed)

variable {found : String × String × Nat}

theorem Reaches.of_passed (hopen : ¬ s.circuitOpen = true)
    (horigin : WebGuard.origin url = .ok found) (hsame : ¬ found ≠ e.rootOrigin)
    (hmethod : ¬ TextLibrary.upper method ∉ e.permit.allowedHttpMethods)
    (hbudget : ¬ e.permit.maximumRequestAttempts ≤ s.requestsPermitted)
    (hconcurrency : ¬ e.permit.maximumConcurrency ≤ s.inFlight) : Reaches e s url method :=
  ⟨by simpa using hopen, by rw [horigin, not_ne_iff.mp hsame], not_not.mp hmethod,
    Nat.lt_of_not_le hbudget, Nat.lt_of_not_le hconcurrency⟩

omit [TextLibrary] in
theorem counts_revalidate (s : SafetyState) (answer : Revalidation) :
    (answer = .granted ∧ (s.revalidate answer).1 = .ok () ∧
      (s.revalidate answer).2.requestsPermitted = s.requestsPermitted ∧
      (s.revalidate answer).2.requestsBlocked = s.requestsBlocked) ∨
    ∃ refusal, (s.revalidate answer).1 = .error refusal ∧
      Counts s (s.revalidate answer).2 (.error refusal) (answer = .raised) := by
  cases answer with
  | granted => exact Or.inl ⟨rfl, rfl, rfl, rfl⟩
  | denied code message => exact Or.inr ⟨_, rfl, .blocked rfl rfl nofun⟩
  | raised => exact Or.inr ⟨_, rfl, .missed rfl rfl rfl⟩

theorem counts_throttle (e : SafetyEngine) (s : SafetyState) (around : Surroundings) :
    ((e.throttle s around).1 = .ok () ∧
      (e.throttle s around).2.requestsPermitted = s.requestsPermitted ∧
      (e.throttle s around).2.requestsBlocked = s.requestsBlocked ∧
      ¬ (Throttled e s around ∧ around.second = .raised)) ∨
    ∃ refusal, (e.throttle s around).1 = .error refusal ∧
      Counts s (e.throttle s around).2 (.error refusal)
        (Throttled e s around ∧ around.second = .raised) := by
  unfold throttle
  split
  · next hnone =>
    refine Or.inl ⟨rfl, rfl, rfl, ?_⟩
    rintro ⟨⟨last, hlast, -⟩, -⟩
    rw [hnone] at hlast
    cases hlast
  · next last hlast =>
    dsimp only
    split
    · next hdelay =>
      have hthrottled : Throttled e s around := ⟨last, hlast, hdelay⟩
      rcases counts_revalidate _ around.second with
        ⟨hgranted, hok, hpermitted, hblocked⟩ | ⟨refusal, herror, hcounts⟩
      · refine Or.inl ⟨hok, hpermitted, hblocked, ?_⟩
        rintro ⟨-, hraised⟩
        rw [hgranted] at hraised
        cases hraised
      · refine Or.inr ⟨refusal, herror, ?_⟩
        cases hcounts with
        | blocked hpermitted hblocked hcounted =>
          exact .blocked hpermitted hblocked fun h => hcounted h.2
        | missed hpermitted hblocked hmissed =>
          exact .missed hpermitted hblocked ⟨hthrottled, hmissed⟩
    · next hdelay =>
      refine Or.inl ⟨rfl, rfl, rfl, ?_⟩
      rintro ⟨⟨last', hlast', hdelay'⟩, -⟩
      rw [hlast] at hlast'
      cases hlast'
      exact hdelay hdelay'

theorem not_uncounted_of_open (h : s.circuitOpen = true) : ¬ Uncounted e s url method around := by
  intro hmissed
  cases hmissed with
  | target hclosed _ => simp [h] at hclosed
  | callback hreaches _ => exact absurd hreaches.closed (by simp [h])
  | waited hreaches _ _ _ => exact absurd hreaches.closed (by simp [h])

theorem not_uncounted (horigin : origin url = .ok found)
    (h : ¬ Reaches e s url method) : ¬ Uncounted e s url method around := by
  intro hmissed
  cases hmissed with
  | target _ herror =>
    rw [horigin] at herror
    cases herror
  | callback hreaches _ => exact h hreaches
  | waited hreaches _ _ _ => exact h hreaches

theorem Reaches.uncounted_iff (h : Reaches e s url method) :
    Uncounted e s url method around ↔ around.first = .raised ∨
      around.first = .granted ∧ Throttled e s around ∧ around.second = .raised := by
  constructor
  · intro hmissed
    cases hmissed with
    | target _ herror =>
      rw [h.origin] at herror
      cases herror
    | callback _ hfirst => exact Or.inl hfirst
    | waited _ hfirst hthrottled hsecond => exact Or.inr ⟨hfirst, hthrottled, hsecond⟩
  · rintro (hfirst | ⟨hfirst, hthrottled, hsecond⟩)
    · exact .callback h hfirst
    · exact .waited h hfirst hthrottled hsecond

theorem counts_granted :
    Counts s
      (match e.throttle (s.revalidate .granted).2 around with
        | (.error refusal, s₂) => ((.error refusal : Except Refusal Unit), s₂)
        | (.ok (), s₂) => (.ok (), s₂.permit url method)).2
      (match e.throttle (s.revalidate .granted).2 around with
        | (.error refusal, s₂) => ((.error refusal : Except Refusal Unit), s₂)
        | (.ok (), s₂) => (.ok (), s₂.permit url method)).1
      (Throttled e s around ∧ around.second = .raised) := by
  have h := counts_throttle e (s.revalidate .granted).2 around
  split
  · next refusal s₂ hwaited =>
    rw [hwaited] at h
    rcases h with ⟨hok, -⟩ | ⟨refusal', herror, hcounts⟩
    · cases hok
    · cases herror
      exact hcounts.congr rfl rfl Iff.rfl
  · next s₂ hwaited =>
    rw [hwaited] at h
    rcases h with ⟨-, hpermitted, hblocked, hcounted⟩ | ⟨refusal', herror, -⟩
    · exact .permitted (congrArg (· + 1) hpermitted) hblocked hcounted
    · cases herror

theorem judge_counts (e : SafetyEngine) (s : SafetyState) (url method : String)
    (around : Surroundings) :
    Counts s (e.judge s url method around).2 (e.judge s url method around).1
      (Uncounted e s url method around) := by
  unfold judge
  split
  · next hopen => exact .blocked rfl rfl (not_uncounted_of_open hopen)
  · next hopen =>
    split
    · next refusal horigin => exact .missed rfl rfl (.target (by simpa using hopen) horigin)
    · next found horigin =>
      -- The four checks of an engine that is still open.
      split
      · next hother =>
        refine .blocked rfl rfl (not_uncounted horigin fun h => hother ?_)
        rw [h.origin] at horigin
        exact (Except.ok.inj horigin).symm
      · next hsame =>
        split
        · next hmethod => exact .blocked rfl rfl (not_uncounted horigin fun h => hmethod h.method)
        · next hmethod =>
          split
          · next hbudget =>
            exact .blocked rfl rfl (not_uncounted horigin fun h => by
              have := h.budget
              omega)
          · next hbudget =>
            split
            · next hconcurrency =>
              exact .blocked rfl rfl (not_uncounted horigin fun h => by
                have := h.concurrency
                omega)
            · next hconcurrency =>
              have hreaches : Reaches e s url method :=
                .of_passed hopen horigin hsame hmethod hbudget hconcurrency
              rw [hreaches.uncounted_iff]
              cases hfirst : around.first with
              | denied code message => exact .blocked rfl rfl (by simp)
              | raised => exact .missed rfl rfl (Or.inl rfl)
              | granted =>
                simp only [reduceCtorEq, false_or, true_and]
                exact counts_granted

theorem uncounted_attempted : Uncounted e { s with requestsAttempted := s.requestsAttempted + 1 }
    url method around ↔ Uncounted e s url method around := by
  constructor
  · intro h
    cases h with
    | target hclosed horigin => exact .target hclosed horigin
    | callback h hfirst => exact .callback ⟨h.1, h.2, h.3, h.4, h.5⟩ hfirst
    | waited h hfirst hthrottled hsecond =>
      exact .waited ⟨h.1, h.2, h.3, h.4, h.5⟩ hfirst hthrottled hsecond
  · intro h
    cases h with
    | target hclosed horigin => exact .target hclosed horigin
    | callback h hfirst => exact .callback ⟨h.1, h.2, h.3, h.4, h.5⟩ hfirst
    | waited h hfirst hthrottled hsecond =>
      exact .waited ⟨h.1, h.2, h.3, h.4, h.5⟩ hfirst hthrottled hsecond

theorem beforeRequest_counts (e : SafetyEngine) (s : SafetyState) (url method : String)
    (around : Surroundings) :
    Counts s (e.beforeRequest s url method around).2 (e.beforeRequest s url method around).1
      (Uncounted e s url method around) :=
  (judge_counts e { s with requestsAttempted := s.requestsAttempted + 1 } url method around).congr
    rfl rfl uncounted_attempted

theorem attempted_beforeRequest (e : SafetyEngine) (s : SafetyState) (url method : String)
    (around : Surroundings) :
    (e.beforeRequest s url method around).2.requestsAttempted = s.requestsAttempted + 1 := by
  unfold beforeRequest
  rcases judge_cases e { s with requestsAttempted := s.requestsAttempted + 1 } url method around with
    hquiet | ⟨t, ht, heq⟩
  · exact hquiet.attempted
  · rw [heq]
    exact ht.quiet.attempted

section

omit [TextLibrary]

theorem blocked_observe (s : SafetyState) (status : Option Int) (errorCode : Option String) :
    (s.observe status errorCode).1.requestsBlocked = s.requestsBlocked := by
  unfold SafetyState.observe
  split <;> rfl

theorem blocked_afterRequest (s : SafetyState) (status : Option Int) (errorCode : Option String) :
    (afterRequest s status errorCode).requestsBlocked = s.requestsBlocked := by
  unfold afterRequest
  dsimp only
  split <;> split <;> exact blocked_observe _ _ _

theorem Counts.total {s' : SafetyState} {answer : Except Refusal Unit} {uncounted : Prop}
    (h : Counts s s' answer uncounted) (hcounted : ¬ uncounted) :
    s'.requestsPermitted + s'.requestsBlocked = s.requestsPermitted + s.requestsBlocked + 1 := by
  cases h with
  | permitted hpermitted hblocked _ => omega
  | blocked hpermitted hblocked _ => omega
  | missed _ _ hmissed => exact absurd hmissed hcounted

end

/-! ## Runs -/

/-- Every attempt so far was permitted or blocked. -/
def Closes (s : SafetyState) : Prop :=
  s.requestsAttempted = s.requestsPermitted + s.requestsBlocked

/-- No call was refused by something that is not counted. -/
def AllCounted (e : SafetyEngine) (calls : List EngineCall) : Prop :=
  ∀ earlier url method around later, calls = earlier ++ .beforeRequest url method around :: later →
    ¬ Uncounted e (e.run earlier) url method around

theorem closes_step (h : Closes s) (call : EngineCall)
    (hcounted : ∀ url method around, call = .beforeRequest url method around →
      ¬ Uncounted e s url method around) : Closes (e.step s call) := by
  unfold Closes at *
  cases call with
  | beforeRequest url method around =>
    have htotal := (beforeRequest_counts e s url method around).total
      (hcounted url method around rfl)
    have hattempted := attempted_beforeRequest e s url method around
    simp only [step]
    omega
  | afterRequest status errorCode =>
    have hanswered := answered_afterRequest s status errorCode
    have hblocked := blocked_afterRequest s status errorCode
    have hattempted := hanswered.attempted
    have hpermitted := hanswered.permitted
    simp only [step]
    omega

theorem closes_run (e : SafetyEngine) {calls : List EngineCall} (h : AllCounted e calls) :
    Closes (e.run calls) := by
  induction calls using List.reverseRecOn with
  | nil => rfl
  | append_singleton earlier call ih =>
    have hrun : e.run (earlier ++ [call]) = e.step (e.run earlier) call := Runs.run_append ..
    rw [hrun]
    refine closes_step (ih ?_) call ?_
    · intro before url method around between heq
      refine h before url method around (between ++ [call]) ?_
      rw [heq, List.append_assoc, List.cons_append]
    · rintro url method around rfl
      exact h earlier url method around [] rfl

/--
**The accounts of the engine.** After every call of `before_request` the attempts are those permitted
and those blocked, and a call that refused has added one to the blocked, exactly if no call met a
target without an origin and the callback raised nothing but its own error.
-/
theorem safety_accounting (e : SafetyEngine) (calls : List EngineCall) :
    (∀ earlier url method around later,
      calls = earlier ++ .beforeRequest url method around :: later →
        Closes (e.run (earlier ++ [.beforeRequest url method around])) ∧
        ∀ refusal, (e.beforeRequest (e.run earlier) url method around).1 = .error refusal →
          (e.run (earlier ++ [.beforeRequest url method around])).requestsBlocked
            = (e.run earlier).requestsBlocked + 1)
      ↔ AllCounted e calls := by
  have hrun : ∀ earlier url method around,
      e.run (earlier ++ [.beforeRequest url method around])
        = (e.beforeRequest (e.run earlier) url method around).2 :=
    fun _ _ _ _ => Runs.run_append ..
  constructor
  · intro h earlier url method around later heq hmissed
    have hblocked := (h earlier url method around later heq).2
    have hcounts := beforeRequest_counts e (e.run earlier) url method around
    rw [hrun] at hblocked
    generalize e.beforeRequest (e.run earlier) url method around = result at hblocked hcounts
    obtain ⟨answer, s'⟩ := result
    cases hcounts with
    | permitted _ _ hcounted => exact hcounted hmissed
    | blocked _ _ hcounted => exact hcounted hmissed
    | @missed refusal _ _ hsame _ =>
      have hadded := hblocked refusal rfl
      omega
  · intro h earlier url method around later heq
    have hcounted := h earlier url method around later heq
    have hcounts := beforeRequest_counts e (e.run earlier) url method around
    refine ⟨closes_run e ?_, ?_⟩
    · intro before url' method' around' between hsplit
      refine h before url' method' around' (between ++ later) ?_
      rw [heq, ← List.singleton_append, ← List.append_assoc, hsplit, List.append_assoc,
        List.cons_append]
    · intro refusal hrefused
      rw [hrun]
      generalize e.beforeRequest (e.run earlier) url method around = result at hrefused hcounts ⊢
      obtain ⟨answer, s'⟩ := result
      cases hcounts with
      | permitted _ _ _ => cases hrefused
      | blocked _ hadded _ => exact hadded
      | missed _ _ hmissed => exact absurd hmissed hcounted

end

def raisingCalls : List EngineCall :=
  [.beforeRequest "https://example.com/" "GET" ⟨0, 0, .raised, .granted⟩]

/-- The attempt is neither permitted nor blocked; so it is for a target without an origin. -/
theorem uncounted_refusal :
    letI := sampleTextLibrary
    (sampleEngine.run raisingCalls).requestsAttempted = 1 ∧
      (sampleEngine.run raisingCalls).requestsPermitted = 0 ∧
      (sampleEngine.run raisingCalls).requestsBlocked = 0 ∧
      ¬ Closes (sampleEngine.run
        [.beforeRequest "https://[example.com/" "GET" ⟨0, 0, .granted, .granted⟩]) := by
  let _ := sampleTextLibrary
  refine ⟨by decide, by decide, by decide, ?_⟩
  unfold Closes
  decide

end WebGuard
