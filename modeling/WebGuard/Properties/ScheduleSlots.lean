import WebGuard.Postgres.ScheduleRepository

/-!
# The next run of a schedule on both stores

Both stores advance a due schedule to an occurrence after the present time. SQLite's
`_next_schedule_time` divides with `//`; the function of PostgreSQL casts a quotient to `integer`,
which rounds it, and so skips an occurrence when more than half of an interval has passed since the
last one.
-/

namespace WebGuard

open Relational Atomic PgStore Control

/-! ## Occurrences -/

/-- `t` is the first occurrence after `now`. -/
def LeastSlot (scheduledFor interval now t : Nat) : Prop :=
  now < t ∧ (∃ k, 1 ≤ k ∧ t = scheduledFor + k * interval) ∧
    ∀ k, 1 ≤ k → now < scheduledFor + k * interval → t ≤ scheduledFor + k * interval

variable {scheduledFor now interval t intervalSeconds : Nat}

theorem LeastSlot.unique {t' : Nat} (h : LeastSlot scheduledFor interval now t)
    (h' : LeastSlot scheduledFor interval now t') : t = t' := by
  obtain ⟨hlt, ⟨k, hk, rfl⟩, hleast⟩ := h
  obtain ⟨hlt', ⟨k', hk', rfl⟩, hleast'⟩ := h'
  exact Nat.le_antisymm (hleast k' hk' hlt') (hleast' k hk hlt)

theorem leastSlot_succ_div (hpos : 0 < interval) (hdue : scheduledFor ≤ now) :
    LeastSlot scheduledFor interval now
      (scheduledFor + interval * ((now - scheduledFor) / interval + 1)) := by
  have hlow := Nat.div_mul_le_self (now - scheduledFor) interval
  have hhigh := Nat.lt_mul_div_succ (now - scheduledFor) hpos
  refine ⟨by omega, ⟨(now - scheduledFor) / interval + 1, Nat.succ_pos _, by rw [Nat.mul_comm]⟩, ?_⟩
  intro k _ hlt
  rw [Nat.mul_comm interval]
  have hk : (now - scheduledFor) / interval < k := by
    by_contra hle
    have := Nat.mul_le_mul_right interval (not_lt.mp hle)
    omega
  exact Nat.add_le_add_left (Nat.mul_le_mul_right interval hk) scheduledFor

theorem leastSlot_iff (hpos : 0 < interval) (hdue : scheduledFor ≤ now) :
    LeastSlot scheduledFor interval now t
      ↔ t = scheduledFor + interval * ((now - scheduledFor) / interval + 1) := by
  constructor
  · intro h
    exact h.unique (leastSlot_succ_div hpos hdue)
  · rintro rfl
    exact leastSlot_succ_div hpos hdue

theorem leastSlot_of_nextScheduleTime (hinterval : 0 < intervalSeconds)
    (hdue : scheduledFor ≤ now) (h : nextScheduleTime scheduledFor intervalSeconds now = .ok t) :
    LeastSlot scheduledFor (intervalMicroseconds intervalSeconds) now t :=
  nextScheduleTime_spec hinterval hdue h

/-! ## The rounding -/

/--
The next run is the first occurrence, or less than half of an interval has passed since the last
one, by so much that the decimals of the quotient show it.
-/
def RoundsDown (scheduledFor intervalSeconds now : Nat) : Prop :=
  let interval := intervalMicroseconds intervalSeconds
  let scale := intervalsScale (now - scheduledFor) intervalSeconds
  now < scheduledFor + interval
    ∨ 2 * ((now - scheduledFor) % interval) * 10 ^ scale + interval < interval * 10 ^ scale

instance (scheduledFor intervalSeconds now : Nat) :
    Decidable (RoundsDown scheduledFor intervalSeconds now) :=
  inferInstanceAs (Decidable (_ ∨ _))

theorem intervalsScale_pos (elapsed intervalSeconds : Nat) :
    0 < intervalsScale elapsed intervalSeconds :=
  lt_of_lt_of_le (by decide) (Nat.le_max_left 6 _)

theorem interval_bounds (h : scheduleInterval intervalSeconds = .ok intervalSeconds) :
    3600 ≤ intervalSeconds ∧ intervalSeconds ≤ 31536000 := by
  unfold scheduleInterval at h
  obtain ⟨_, hrequired, -⟩ := bind_ok h
  simpa using require_eq_ok.mp hrequired

theorem roundsDown_iff_lt_half
    (hinterval : scheduleInterval intervalSeconds = .ok intervalSeconds)
    (hnow : now < scheduledFor + 10000 * intervalMicroseconds intervalSeconds) :
    RoundsDown scheduledFor intervalSeconds now
      ↔ now < scheduledFor + intervalMicroseconds intervalSeconds
        ∨ 2 * ((now - scheduledFor) % intervalMicroseconds intervalSeconds)
            < intervalMicroseconds intervalSeconds := by
  obtain ⟨hlow, hhigh⟩ := interval_bounds hinterval
  have hinterval : intervalMicroseconds intervalSeconds = 1000000 * intervalSeconds := rfl
  have hscale : 16 ≤ intervalsScale (now - scheduledFor) intervalSeconds := by
    refine PgNumeric.sixteen_le_divisionScale 6 ?_
    refine Nat.div_lt_of_lt_mul ?_
    change now - scheduledFor < 1000000 * (10000 * intervalSeconds)
    omega
  have hpow := Nat.pow_le_pow_right (show 0 < 10 by decide) hscale
  unfold RoundsDown
  refine or_congr_right ?_
  have hpos : 0 < intervalMicroseconds intervalSeconds := by omega
  rw [← PgNumeric.toInteger_eq_div hpos (intervalsScale_pos _ _)]
  exact PgNumeric.toInteger_eq_div_of_le hpos (intervalsScale_pos _ _) (by omega)

theorem nextRunAt_eq_iff (hpos : 0 < intervalSeconds) (hdue : scheduledFor ≤ now) :
    nextRunAt scheduledFor intervalSeconds now
        = scheduledFor + intervalMicroseconds intervalSeconds
          * ((now - scheduledFor) / intervalMicroseconds intervalSeconds + 1)
      ↔ RoundsDown scheduledFor intervalSeconds now := by
  have hinterval : 0 < intervalMicroseconds intervalSeconds := Nat.mul_pos (by decide) hpos
  unfold nextRunAt RoundsDown
  dsimp only
  split
  · next hle =>
    rw [or_iff_right (not_lt.mpr hle), ← PgNumeric.toInteger_eq_div hinterval
      (intervalsScale_pos _ _), Nat.add_left_cancel_iff, Nat.mul_right_inj hinterval.ne',
      Nat.add_right_cancel_iff]
  · next hlt =>
    -- No whole interval has passed.
    have hzero : (now - scheduledFor) / intervalMicroseconds intervalSeconds = 0 :=
      Nat.div_eq_of_lt (by omega)
    rw [hzero]
    simp only [Nat.zero_add, Nat.mul_one, true_iff]
    exact Or.inl (not_le.mp hlt)

/-- **PostgreSQL advances a schedule to the first occurrence after `now`, and as SQLite does, exactly
if the number of intervals is rounded down.** -/
theorem nextRunAt_least_iff {scheduledFor intervalSeconds now : Nat}
    (hinterval : scheduleInterval intervalSeconds = .ok intervalSeconds)
    (hdue : scheduledFor ≤ now) :
    (LeastSlot scheduledFor (intervalMicroseconds intervalSeconds) now
        (nextRunAt scheduledFor intervalSeconds now)
      ↔ RoundsDown scheduledFor intervalSeconds now)
    ∧ ∀ t, nextScheduleTime scheduledFor intervalSeconds now = .ok t →
      (nextRunAt scheduledFor intervalSeconds now = t
        ↔ RoundsDown scheduledFor intervalSeconds now) := by
  obtain ⟨hlow, -⟩ := interval_bounds hinterval
  have hpos : 0 < intervalSeconds := by omega
  have hmicro : 0 < intervalMicroseconds intervalSeconds := Nat.mul_pos (by decide) hpos
  constructor
  · rw [leastSlot_iff hmicro hdue, nextRunAt_eq_iff hpos hdue]
  · intro t ht
    have hslot := leastSlot_of_nextScheduleTime hpos hdue ht
    rw [(leastSlot_iff hmicro hdue).mp hslot, nextRunAt_eq_iff hpos hdue]

/-- An hour and a quarter after the occurrence, at an hourly schedule. -/
theorem nextRunAt_least_quarter :
    let hour := intervalMicroseconds 3600
    LeastSlot 0 hour (hour + hour / 4) (nextRunAt 0 3600 (hour + hour / 4)) := by
  refine (nextRunAt_least_iff (by decide) (Nat.zero_le _)).1.mpr ?_
  refine (roundsDown_iff_lt_half (by decide) (by decide)).mpr (Or.inr (by decide))

/-- An hour and a half after it, an occurrence is skipped. -/
theorem half_hour_skips :
    let hour := intervalMicroseconds 3600
    ¬ LeastSlot 0 hour (hour + hour / 2) (nextRunAt 0 3600 (hour + hour / 2))
      ∧ nextScheduleTime 0 3600 (hour + hour / 2) = .ok (2 * hour)
      ∧ nextRunAt 0 3600 (hour + hour / 2) = 3 * hour := by
  have hskip : nextRunAt 0 3600 5400000000 = 10800000000 := by decide
  refine ⟨?_, by decide, hskip⟩
  intro h
  have hleast := h.2.2 2 (by decide) (by decide)
  exact absurd (hskip ▸ hleast : 10800000000 ≤ 0 + 2 * intervalMicroseconds 3600) (by decide)

end WebGuard
