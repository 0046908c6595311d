import Mathlib.Data.Rat.Floor
import Mathlib.Logic.Function.Basic
import Mathlib.Tactic.Cases

/-!
# The rate limiter of the API

`FixedWindowRateLimiter`: one counter for each key, of the window that was named last. A call holds
the lock from its beginning to its end, so calls come one after the other; the time that a call names
was read before, by a thread of its own.
-/

namespace WebGuard

open Function

/-- `RateLimitError`, with the seconds until the window ends. -/
structure RateLimitError where
  code : String
  message : String
  retryAfterSeconds : Int
  deriving DecidableEq

structure RateLimitDecision where
  limit : Nat
  remaining : Nat
  resetAfterSeconds : Int
  deriving DecidableEq

/-- What the constructor has checked. -/
structure FixedWindowRateLimiter where
  requests : Nat
  windowSeconds : Nat
  requests_pos : 1 ≤ requests
  windowSeconds_pos : 1 ≤ windowSeconds

/-- `_windows`: the window that a key has its counter for, and the counter. -/
abbrev RateWindows := String → Option (Int × Nat)

namespace FixedWindowRateLimiter

variable (limiter : FixedWindowRateLimiter)

/-- `int(now_epoch // self.window_seconds)`. -/
def window (nowEpoch : Rat) : Int := ⌊nowEpoch / limiter.windowSeconds⌋

/-- `max(1, int((window + 1) * self.window_seconds - now_epoch))`. -/
def secondsLeft (nowEpoch : Rat) : Int :=
  max 1 ⌊(limiter.window nowEpoch + 1) * limiter.windowSeconds - nowEpoch⌋

def release (windows : RateWindows) (key : String) (nowEpoch : Rat) : RateWindows :=
  match windows key with
  | none => windows
  | some (currentWindow, count) =>
    if currentWindow ≠ limiter.window nowEpoch then windows
    else if count ≤ 1 then update windows key none
    else update windows key (some (currentWindow, count - 1))

/-- The counter that a check goes on with: another window starts from zero. -/
def countFor (windows : RateWindows) (key : String) (window : Int) : Nat :=
  match windows key with
  | none => 0
  | some (currentWindow, count) => if currentWindow = window then count else 0

def check (windows : RateWindows) (key : String) (nowEpoch : Rat) :
    Except RateLimitError RateLimitDecision × RateWindows :=
  let window := limiter.window nowEpoch
  let count := countFor windows key window
  if limiter.requests ≤ count then
    (.error {
      code := "rate_limit_exceeded"
      message := "The API token exceeded the local request limit."
      retryAfterSeconds := limiter.secondsLeft nowEpoch }, windows)
  else
    (.ok {
      limit := limiter.requests
      remaining := limiter.requests - (count + 1)
      resetAfterSeconds := limiter.secondsLeft nowEpoch },
      update windows key (some (window, count + 1)))

/-- How many checks of a key would succeed in a window. -/
def room (windows : RateWindows) (key : String) (window : Int) : Nat :=
  limiter.requests - countFor windows key window

/-! ## What the calls do to the counters -/

variable (windows : RateWindows)

theorem countFor_update_self (key : String) (window other : Int)
    (count : Nat) :
    countFor (update windows key (some (window, count))) key other
      = if window = other then count else 0 := by
  simp [countFor]

theorem countFor_update_none (key : String) (window : Int) :
    countFor (update windows key none) key window = 0 := by
  simp [countFor]

variable {windows : RateWindows} {key other : String}

theorem countFor_update_of_ne (h : other ≠ key) (entry : Option (Int × Nat)) (window : Int) :
    countFor (update windows key entry) other window = countFor windows other window := by
  simp [countFor, update_of_ne h]

theorem countFor_release (key other : String) (nowEpoch : Rat)
    (window : Int) :
    countFor (limiter.release windows key nowEpoch) other window =
      countFor windows other window
        - if other = key ∧ window = limiter.window nowEpoch then 1 else 0 := by
  unfold release
  cases h : windows key with
  | none =>
    have hzero : countFor windows key window = 0 := by simp [countFor, h]
    by_cases hkey : other = key
    · rw [hkey, hzero, Nat.zero_sub]
    · simp [hkey]
  | some entry =>
    obtain ⟨current, count⟩ := entry
    have hstored : countFor windows key window = if current = window then count else 0 := by
      simp [countFor, h]
    dsimp only
    by_cases hkey : other = key
    · rw [hkey]
      split
      · -- The counter is of another window; that of the release has none.
        next hother =>
        rw [hstored]
        by_cases hwindow : window = limiter.window nowEpoch
        · have hne : current ≠ window := by rw [hwindow]; exact hother
          simp [hne]
        · simp [hwindow]
      · next hsame =>
        rw [not_not] at hsame
        split
        · rw [countFor_update_none, hstored, ← hsame]
          by_cases hwindow : current = window
          · simp [hwindow]
            omega
          · simp [hwindow]
        · rw [countFor_update_self, hstored, ← hsame]
          by_cases hwindow : current = window
          · simp [hwindow]
          · simp [hwindow]
    · have hleft : ¬(other = key ∧ window = limiter.window nowEpoch) := fun h => hkey h.1
      rw [if_neg hleft, Nat.sub_zero]
      split
      · rfl
      · split
        · exact countFor_update_of_ne hkey _ _
        · exact countFor_update_of_ne hkey _ _

theorem entry_of_release {nowEpoch : Rat} {window : Int} {count : Nat}
    (h : limiter.release windows key nowEpoch other = some (window, count)) :
    windows other = some (window,
      count + if other = key ∧ window = limiter.window nowEpoch then 1 else 0) := by
  unfold release at h
  cases hentry : windows key with
  | none =>
    rw [hentry] at h
    dsimp only at h
    have hkey : other ≠ key := by
      rintro rfl
      rw [hentry] at h
      cases h
    simpa [hkey] using h
  | some entry =>
    obtain ⟨current, stored⟩ := entry
    rw [hentry] at h
    dsimp only at h
    by_cases hkey : other = key
    · subst hkey
      split at h
      · next hother =>
        rw [hentry] at h
        cases h
        simp [hentry, hother]
      · next hsame =>
        rw [not_not] at hsame
        split at h
        · simp at h
        · simp only [update_self, Option.some.injEq, Prod.mk.injEq] at h
          obtain ⟨rfl, rfl⟩ := h
          rw [hentry, if_pos ⟨rfl, hsame⟩, Nat.sub_add_cancel (by omega)]
    · rw [if_neg fun h => hkey h.1, Nat.add_zero]
      split at h
      · exact h
      · split at h
        · rwa [update_of_ne hkey] at h
        · rwa [update_of_ne hkey] at h

theorem room_release {nowEpoch : Rat} {window : Int}
    (h : ¬(other = key ∧ window = limiter.window nowEpoch)) :
    limiter.room (limiter.release windows key nowEpoch) other window
      = limiter.room windows other window := by
  unfold room
  rw [countFor_release, if_neg h, Nat.sub_zero]

end FixedWindowRateLimiter

end WebGuard
