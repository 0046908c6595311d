import WebGuard.Api.RateLimit

/-!
# The windows of the rate limiter over runs of calls

A ledger has the counters of the limiter and, beside them, how many checks have succeeded for each
key and window and how many of these reservations were released. The calls come in any order, with
any times.
-/

namespace WebGuard

/-- The counters of a limiter, and what has become of its reservations. -/
structure RateLedger where
  windows : RateWindows
  succeeded : String → Int → Nat
  released : String → Int → Nat

inductive RateCall where
  | check (key : String) (nowEpoch : Rat)
  | release (key : String) (nowEpoch : Rat)

namespace RateLedger

/-- A new limiter. -/
def start : RateLedger := ⟨fun _ => none, fun _ _ => 0, fun _ _ => 0⟩

/-- The reservations of a window that are still held. -/
def held (ledger : RateLedger) (key : String) (window : Int) : Int :=
  ledger.succeeded key window - ledger.released key window

variable (limiter : FixedWindowRateLimiter)

/-- One more for a key and a window. -/
def bump (counts : String → Int → Nat) (key : String) (window : Int) : String → Int → Nat :=
  fun other at' => counts other at' + if other = key ∧ at' = window then 1 else 0

/-- One call. -/
def step (ledger : RateLedger) : RateCall → RateLedger
  | .check key nowEpoch =>
    match limiter.check ledger.windows key nowEpoch with
    | (.ok _, windows) =>
      { ledger with
        windows
        succeeded := bump ledger.succeeded key (limiter.window nowEpoch) }
    | (.error _, windows) => { ledger with windows }
  | .release key nowEpoch =>
    { ledger with
      windows := limiter.release ledger.windows key nowEpoch
      released := bump ledger.released key (limiter.window nowEpoch) }

/-- The calls one after the other. -/
def run (ledger : RateLedger) (calls : List RateCall) : RateLedger :=
  calls.foldl (step limiter) ledger

/-- A release is of a reservation that is held. -/
def Owned (ledger : RateLedger) : RateCall → Prop
  | .check _ _ => True
  | .release key nowEpoch => 0 < ledger.held key (limiter.window nowEpoch)

/-- A check is for the window that its key has a counter for, or for one without reservations. -/
def Timely (ledger : RateLedger) : RateCall → Prop
  | .check key nowEpoch =>
    (∃ count, ledger.windows key = some (limiter.window nowEpoch, count))
      ∨ ledger.held key (limiter.window nowEpoch) = 0
  | .release _ _ => True

/-- Something is so of every call, and of the ledger that it comes upon. -/
def Along (holds : RateLedger → RateCall → Prop) : RateLedger → List RateCall → Prop
  | _, [] => True
  | ledger, call :: rest => holds ledger call ∧ Along holds (step limiter ledger call) rest

/-! ## The invariant -/

/-- Every window has reservations from none to the limit, and the counters are of those held. -/
structure Booked (ledger : RateLedger) : Prop where
  nonneg : ∀ key window, 0 ≤ ledger.held key window
  bounded : ∀ key window, ledger.held key window ≤ limiter.requests
  counted : ∀ key window count, ledger.windows key = some (window, count) →
    ledger.held key window = count

theorem booked_start : Booked limiter start where
  nonneg key window := by simp [held, start]
  bounded key window := by simp [held, start]
  counted key window count h := by simp [start] at h

variable {limiter}

@[simp] theorem bump_self (counts : String → Int → Nat) (key : String) (window : Int) :
    bump counts key window key window = counts key window + 1 := by simp [bump]

variable {ledger : RateLedger} {nowEpoch : Rat} {key : String}

theorem Booked.countFor_eq (h : Booked limiter ledger)
    (htimely : Timely limiter ledger (.check key nowEpoch)) :
    (FixedWindowRateLimiter.countFor ledger.windows key (limiter.window nowEpoch) : Int)
      = ledger.held key (limiter.window nowEpoch) := by
  unfold FixedWindowRateLimiter.countFor
  cases hentry : ledger.windows key with
  | none =>
    obtain ⟨count, hstored⟩ | hzero := htimely
    · rw [hentry] at hstored
      cases hstored
    · exact hzero.symm
  | some entry =>
    obtain ⟨current, count⟩ := entry
    by_cases hcurrent : current = limiter.window nowEpoch
    · subst hcurrent
      have hcount := h.counted key _ count hentry
      simp [hcount]
    · obtain ⟨other, hstored⟩ | hzero := htimely
      · rw [hentry] at hstored
        cases hstored
        exact absurd rfl hcurrent
      · simp [hcurrent, hzero]

theorem Booked.check {ledger : RateLedger} (h : Booked limiter ledger)
    (htimely : Timely limiter ledger (.check key nowEpoch)) :
    Booked limiter (step limiter ledger (.check key nowEpoch)) := by
  have hcount := h.countFor_eq htimely
  unfold step FixedWindowRateLimiter.check
  dsimp only
  by_cases hfull : limiter.requests ≤
      FixedWindowRateLimiter.countFor ledger.windows key (limiter.window nowEpoch)
  · rw [if_pos hfull]
    exact h
  · rw [if_neg hfull]
    dsimp only
    generalize FixedWindowRateLimiter.countFor ledger.windows key (limiter.window nowEpoch) = count
      at hcount hfull
    -- Only the window of the check has one more.
    have hheld : ∀ other window, held ⟨Function.update ledger.windows key
          (some (limiter.window nowEpoch, count + 1)),
        bump ledger.succeeded key (limiter.window nowEpoch), ledger.released⟩ other window
        = ledger.held other window
          + if other = key ∧ window = limiter.window nowEpoch then 1 else 0 := by
      intro other window
      simp only [held, bump]
      push_cast
      split <;> omega
    refine ⟨fun other window => ?_, fun other window => ?_, fun other window stored hentry => ?_⟩
    · rw [hheld]
      have hnonneg := h.nonneg other window
      split <;> omega
    · rw [hheld]
      split
      · next hsame =>
        obtain ⟨rfl, rfl⟩ := hsame
        omega
      · have hbounded := h.bounded other window
        omega
    · rw [hheld]
      by_cases hkey : other = key
      · subst hkey
        simp only [Function.update_self, Option.some.injEq, Prod.mk.injEq] at hentry
        obtain ⟨rfl, rfl⟩ := hentry
        rw [if_pos ⟨rfl, rfl⟩]
        omega
      · rw [if_neg fun hsame => hkey hsame.1, Int.add_zero]
        have hkept : ledger.windows other = some (window, stored) := by
          simpa [Function.update_of_ne hkey] using hentry
        exact h.counted other window stored hkept

theorem Booked.release {ledger : RateLedger} (h : Booked limiter ledger)
    (howned : Owned limiter ledger (.release key nowEpoch)) :
    Booked limiter (step limiter ledger (.release key nowEpoch)) := by
  -- Only the window of the release has one less.
  have hheld : ∀ other window, (step limiter ledger (.release key nowEpoch)).held other window
      = ledger.held other window
        - if other = key ∧ window = limiter.window nowEpoch then 1 else 0 := by
    intro other window
    simp only [step, held, bump]
    push_cast
    split <;> omega
  refine ⟨fun other window => ?_, fun other window => ?_, fun other window count hentry => ?_⟩
  · rw [hheld]
    split
    · next hsame =>
      obtain ⟨rfl, rfl⟩ := hsame
      have hpos : 0 < ledger.held other (limiter.window nowEpoch) := howned
      omega
    · have hnonneg := h.nonneg other window
      omega
  · rw [hheld]
    have hbounded := h.bounded other window
    split <;> omega
  · have hbefore := h.counted other window _ (limiter.entry_of_release hentry)
    rw [hheld, hbefore]
    push_cast
    split <;> omega

theorem Booked.step (h : Booked limiter ledger) {call : RateCall}
    (howned : Owned limiter ledger call) (htimely : Timely limiter ledger call) :
    Booked limiter (step limiter ledger call) := by
  cases call with
  | check key nowEpoch => exact h.check htimely
  | release key nowEpoch => exact h.release howned

theorem Booked.run {calls : List RateCall} (h : Booked limiter ledger)
    (howned : Along limiter (Owned limiter) ledger calls)
    (htimely : Along limiter (Timely limiter) ledger calls) :
    Booked limiter (run limiter ledger calls) := by
  induction calls generalizing ledger with
  | nil => exact h
  | cons call rest ih => exact ih (h.step howned.1 htimely.1) howned.2 htimely.2

/-! ## Runs -/

/--
**While no check of a key comes late, no window has more reservations than requests.**

And no release makes room in another window than its own.
-/
theorem reservations_le_requests (limiter : FixedWindowRateLimiter) (calls : List RateCall)
    (howned : Along limiter (Owned limiter) start calls)
    (htimely : Along limiter (Timely limiter) start calls) :
    (∀ key window, (run limiter start calls).held key window ≤ limiter.requests)
      ∧ ∀ key other nowEpoch window, ¬(other = key ∧ window = limiter.window nowEpoch) →
        limiter.room (step limiter (run limiter start calls) (.release key nowEpoch)).windows
            other window
          = limiter.room (run limiter start calls).windows other window :=
  ⟨(booked_start limiter).run howned htimely |>.bounded,
    fun _ _ _ _ h => limiter.room_release h⟩

def onePerMinute : FixedWindowRateLimiter := ⟨1, 60, by decide, by decide⟩

def orderedCalls : List RateCall :=
  [.check "token" 59, .release "token" 59, .check "token" 60]

theorem reservations_le_requests_ordered :
    (∀ key window, (run onePerMinute start orderedCalls).held key window ≤ onePerMinute.requests)
      ∧ ∀ key other nowEpoch window, ¬(other = key ∧ window = onePerMinute.window nowEpoch) →
        onePerMinute.room
            (step onePerMinute (run onePerMinute start orderedCalls) (.release key nowEpoch)).windows
            other window
          = onePerMinute.room (run onePerMinute start orderedCalls).windows other window := by
  have hfirst : onePerMinute.window 59 = 0 := by decide +kernel
  have hsecond : onePerMinute.window 60 = 1 := by decide +kernel
  refine reservations_le_requests onePerMinute orderedCalls ⟨trivial, ?_, trivial, trivial⟩
    ⟨.inr rfl, trivial, .inr ?_, trivial⟩
  · simp [Owned, step, FixedWindowRateLimiter.check, FixedWindowRateLimiter.countFor, start, held,
      onePerMinute]
  · simp [held, step, FixedWindowRateLimiter.check, FixedWindowRateLimiter.countFor, start, bump,
      hfirst, hsecond]
    decide

def lateCalls : List RateCall := [.check "token" 59, .check "token" 60, .check "token" 59]

/-- **A late check forgets the reservations of its window.** -/
theorem late_check_overbooks :
    Along onePerMinute (Owned onePerMinute) start lateCalls
      ∧ (run onePerMinute start lateCalls).held "token" 0 = 2 ∧ onePerMinute.requests = 1 := by
  have hfirst : onePerMinute.window 59 = 0 := by decide +kernel
  have hsecond : onePerMinute.window 60 = 1 := by decide +kernel
  refine ⟨⟨trivial, trivial, trivial, trivial⟩, ?_, rfl⟩
  decide +kernel

end RateLedger

end WebGuard
