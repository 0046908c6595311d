import Mathlib.Data.Int.Log
import Mathlib.Data.Rat.Floor
import Mathlib.Tactic.Cases
import Mathlib.Tactic.FieldSimp
import Mathlib.Tactic.Linarith
import Mathlib.Tactic.NormNum
import Mathlib.Tactic.Positivity
import Mathlib.Tactic.Ring

/-!
# Rounding to doubles

The double that is nearest to a rational number: 53 significant bits, none of them below
`2 ^ -1074`, and of two doubles that are as near the one with the even significand. Numbers that
are too large for a double are not told apart from the others.
-/

namespace Binary64

/-- The nearest whole number, and of two the even one. -/
def roundEven (x : ℚ) : ℤ :=
  if x - ⌊x⌋ < 1 / 2 then ⌊x⌋
  else if 1 / 2 < x - ⌊x⌋ then ⌊x⌋ + 1
  else if ⌊x⌋ % 2 = 0 then ⌊x⌋
  else ⌊x⌋ + 1

/-- The exponent of the last significant bit. -/
def unitExponent (x : ℚ) : ℤ := max (Int.log 2 |x| - 52) (-1074)

/-- The double that is nearest to a number. -/
def nearest (x : ℚ) : ℚ := roundEven (x / 2 ^ unitExponent x) * 2 ^ unitExponent x

/-- Half of the smallest double. -/
def tiny : ℚ := 2 ^ (-1075 : ℤ)

theorem sub_half_le_roundEven (x : ℚ) : x - 1 / 2 ≤ roundEven x := by
  have hfloor := Int.floor_le x
  have hnext := Int.lt_floor_add_one x
  unfold roundEven
  split_ifs
  all_goals
    push_cast
    linarith

theorem roundEven_le_add_half (x : ℚ) : roundEven x ≤ x + 1 / 2 := by
  have hfloor := Int.floor_le x
  have hnext := Int.lt_floor_add_one x
  unfold roundEven
  split_ifs
  all_goals
    push_cast
    linarith

variable {x : ℚ}

variable {n : ℤ}

theorem roundEven_le (h : x < n + 1 / 2) : roundEven x ≤ n := by
  have hfloor : ⌊x⌋ ≤ n := by
    have hbelow : (⌊x⌋ : ℚ) < n + 1 := by linarith [Int.floor_le x]
    exact Int.lt_add_one_iff.mp (by exact_mod_cast hbelow)
  by_cases hsame : ⌊x⌋ = n
  · -- then there is less than a half behind the point
    unfold roundEven
    rw [hsame, if_pos (by linarith)]
  · unfold roundEven
    split_ifs
    all_goals omega

theorem le_roundEven (h : n ≤ x) : n ≤ roundEven x := by
  have hfloor : n ≤ ⌊x⌋ := Int.le_floor.mpr h
  unfold roundEven
  split_ifs
  all_goals omega

theorem two_zpow_pos (e : ℤ) : (0 : ℚ) < 2 ^ e := zpow_pos (by norm_num) e

theorem nearest_nonneg (h : 0 ≤ x) : 0 ≤ nearest x := by
  have hround : 0 ≤ roundEven (x / 2 ^ unitExponent x) :=
    le_roundEven (by simpa using div_nonneg h (two_zpow_pos _).le)
  exact mul_nonneg (Int.cast_nonneg hround) (two_zpow_pos _).le

theorem nearest_nonpos (h : x ≤ 0) : nearest x ≤ 0 := by
  have hround : roundEven (x / 2 ^ unitExponent x) ≤ 0 := by
    refine roundEven_le ?_
    have hquotient := div_nonpos_of_nonpos_of_nonneg h (two_zpow_pos (unitExponent x)).le
    push_cast
    linarith
  exact mul_nonpos_of_nonpos_of_nonneg (Int.cast_nonpos.mpr hround) (two_zpow_pos _).le

/-- A number with its last place at `e` bounds the rounding of a finer one. -/
theorem nearest_le_grid {n e : ℤ} (hx : unitExponent x ≤ e) (h : x ≤ n * 2 ^ e) :
    nearest x ≤ n * 2 ^ e := by
  obtain ⟨k, hk⟩ := Int.eq_ofNat_of_zero_le (sub_nonneg.mpr hx)
  have hpos := two_zpow_pos (unitExponent x)
  -- in units of the last bit, the bound is whole
  have hunits : (n : ℚ) * 2 ^ e = ((n * 2 ^ k : ℤ) : ℚ) * 2 ^ unitExponent x := by
    have he : e = k + unitExponent x := by omega
    rw [he, zpow_add₀ (by norm_num), zpow_natCast]
    push_cast
    ring
  have hround : roundEven (x / 2 ^ unitExponent x) ≤ n * 2 ^ k := by
    refine roundEven_le ?_
    have hquotient : x / 2 ^ unitExponent x ≤ ((n * 2 ^ k : ℤ) : ℚ) := by
      rw [div_le_iff₀ hpos, ← hunits]
      exact h
    linarith
  rw [hunits]
  exact mul_le_mul_of_nonneg_right (Int.cast_le.mpr hround) hpos.le

theorem nearest_le_intCast (hx : Int.log 2 |x| ≤ 52) (h : x ≤ n) :
    nearest x ≤ n := by
  have hexponent : unitExponent x ≤ 0 := max_le (by omega) (by decide)
  simpa using nearest_le_grid hexponent (by simpa using h)

theorem two_pow_log_le (hx : 0 < x) (h : (2 : ℚ) ^ n ≤ x) :
    n ≤ Int.log 2 |x| := by
  rw [abs_of_pos hx]
  exact (Int.zpow_le_iff_le_log (by decide) hx).mp (by exact_mod_cast h)

theorem log_lt_of_lt_two_pow (hx : 0 < x) (h : x < (2 : ℚ) ^ n) :
    Int.log 2 |x| < n := by
  rw [abs_of_pos hx]
  exact (Int.lt_zpow_iff_log_lt (by decide) hx).mp (by exact_mod_cast h)

/-- What is less than half a place above a power of two is not rounded above it. -/
theorem nearest_le_two_pow {e : ℤ} (he : -1074 ≤ e) (hx : 0 < x)
    (h : x < 2 ^ (e + 52) + 2 ^ e / 2) : nearest x ≤ 2 ^ (e + 52) := by
  have hpos := two_zpow_pos e
  have hpower : (2 : ℚ) ^ (e + 52) = ((2 ^ 52 : ℤ) : ℚ) * 2 ^ e := by
    rw [add_comm, zpow_add₀ (by norm_num)]
    norm_num
  have hlog : Int.log 2 |x| < e + 53 := by
    refine log_lt_of_lt_two_pow hx (h.trans ?_)
    rw [show e + 53 = e + 52 + 1 by ring, zpow_add_one₀ (by norm_num), hpower]
    push_cast
    linarith
  rw [hpower]
  rcases le_or_gt x (2 ^ (e + 52)) with hle | hlt
  · exact nearest_le_grid (max_le (by omega) he) (by rwa [← hpower])
  · -- the last place of the number is the one at `e`
    have hexponent : unitExponent x = e := by
      have hlog' := two_pow_log_le hx hlt.le
      unfold unitExponent
      omega
    unfold nearest
    rw [hexponent]
    refine mul_le_mul_of_nonneg_right (Int.cast_le.mpr (roundEven_le ?_)) hpos.le
    rw [div_lt_iff₀ hpos, add_mul, ← hpower]
    linarith

/-! ## What rounding loses -/

/-- The last place of a normal number is at most one part in `2 ^ 52`. -/
theorem unit_mul_le (hx : 0 < x) (hlog : -1022 ≤ Int.log 2 |x|) :
    2 ^ unitExponent x * 2 ^ 52 ≤ x := by
  have hexponent : unitExponent x = Int.log 2 |x| - 52 := max_eq_left (by omega)
  have hlower : (2 : ℚ) ^ Int.log 2 |x| ≤ |x| := by
    exact_mod_cast Int.zpow_log_le_self (by decide) (abs_pos.mpr hx.ne')
  have hsplit : (2 : ℚ) ^ Int.log 2 |x| = 2 ^ unitExponent x * 2 ^ 52 := by
    rw [hexponent, ← zpow_natCast, ← zpow_add₀ (by norm_num)]
    congr 1
    norm_num
  rw [← hsplit]
  exact hlower.trans_eq (abs_of_pos hx)

theorem unit_mul_le_nearest (hx : 0 < x) (hlog : -1022 ≤ Int.log 2 |x|) :
    2 ^ unitExponent x * 2 ^ 52 ≤ nearest x := by
  have hpos := two_zpow_pos (unitExponent x)
  have hround : 2 ^ 52 ≤ roundEven (x / 2 ^ unitExponent x) := by
    refine le_roundEven ?_
    rw [le_div_iff₀ hpos, mul_comm]
    exact_mod_cast unit_mul_le hx hlog
  rw [mul_comm]
  exact mul_le_mul_of_nonneg_right (by exact_mod_cast hround) hpos.le

theorem sub_half_unit_le_nearest (x : ℚ) : x - 2 ^ unitExponent x / 2 ≤ nearest x := by
  have hpos := two_zpow_pos (unitExponent x)
  calc x - 2 ^ unitExponent x / 2 = (x / 2 ^ unitExponent x - 1 / 2) * 2 ^ unitExponent x := by
        field_simp
    _ ≤ nearest x := mul_le_mul_of_nonneg_right (sub_half_le_roundEven _) hpos.le

theorem nearest_sub_half_unit_le (x : ℚ) : nearest x - 2 ^ unitExponent x / 2 ≤ x := by
  have hpos := two_zpow_pos (unitExponent x)
  have hround := mul_le_mul_of_nonneg_right
    (roundEven_le_add_half (x / 2 ^ unitExponent x)) hpos.le
  calc nearest x - 2 ^ unitExponent x / 2
      ≤ (x / 2 ^ unitExponent x + 1 / 2) * 2 ^ unitExponent x - 2 ^ unitExponent x / 2 :=
        sub_le_sub_right hround _
    _ = x := by field_simp; ring

/-- What is lost is at most one part in `2 ^ 53`. -/
theorem mul_le_nearest (hx : 0 < x) (hlog : -1022 ≤ Int.log 2 |x|) :
    (1 - 1 / 2 ^ 53) * x ≤ nearest x := by
  have hunit := unit_mul_le hx hlog
  have hround := sub_half_unit_le_nearest x
  linarith

theorem tiny_pos : 0 < tiny := two_zpow_pos _

theorem tiny_le : tiny ≤ 1 / 2 ^ 110 :=
  calc tiny ≤ 2 ^ (-110 : ℤ) := zpow_le_zpow_right₀ (by norm_num) (by norm_num)
    _ = 1 / 2 ^ 110 := by norm_num

/-- Half of the last place is a part of the number, or half of the smallest double. -/
theorem half_unit_le (hx : 0 < x) :
    2 ^ unitExponent x / 2 ≤ x / 2 ^ 53 + tiny ∧
      2 ^ unitExponent x / 2 ≤ nearest x / 2 ^ 53 + tiny := by
  have htiny := tiny_pos
  rcases le_or_gt (-1022) (Int.log 2 |x|) with hlog | hlog
  · have hunit := unit_mul_le hx hlog
    have hround := unit_mul_le_nearest hx hlog
    constructor
    all_goals linarith
  · have hexponent : unitExponent x = -1074 := max_eq_right (by omega)
    have hhalf : (2 : ℚ) ^ unitExponent x / 2 = tiny := by
      rw [hexponent, tiny, div_eq_mul_inv, ← zpow_sub_one₀ (by norm_num)]
      rfl
    have hnearest := nearest_nonneg hx.le
    rw [hhalf]
    constructor
    all_goals
      refine le_add_of_nonneg_left (div_nonneg ?_ (by positivity))
      first | exact hx.le | exact hnearest

/-- The same of the smallest numbers, with half a unit besides. -/
theorem sub_le_nearest (hx : 0 < x) : x - x / 2 ^ 53 - tiny ≤ nearest x := by
  have hround := sub_half_unit_le_nearest x
  have hhalf := (half_unit_le hx).1
  linarith

theorem nearest_sub_le (hx : 0 ≤ x) :
    nearest x - nearest x / 2 ^ 53 - tiny ≤ x := by
  rcases hx.eq_or_lt with rfl | hx
  · have hzero := nearest_nonpos le_rfl
    have htiny := tiny_pos
    linarith
  · have hround := nearest_sub_half_unit_le x
    have hhalf := (half_unit_le hx).2
    linarith

/-- The reciprocal of a rate between a fifth and two. -/
theorem reciprocal_rate {rate : ℚ} (hmin : 1 / 5 ≤ rate) (hmax : rate ≤ 2) :
    nearest (1 / rate) ≤ 5 ∧ (1 - 1 / 2 ^ 53) * (1 / rate) ≤ nearest (1 / rate) := by
  have hpos : 0 < rate := by linarith
  have hreciprocal : 0 < 1 / rate := one_div_pos.mpr hpos
  have hupper : 1 / rate ≤ 5 := by
    rw [div_le_iff₀ hpos]
    linarith
  have hlower : (2 : ℚ) ^ (-1 : ℤ) ≤ 1 / rate := by
    rw [zpow_neg_one, inv_eq_one_div, div_le_div_iff₀ (by norm_num) hpos]
    linarith
  have hlog := two_pow_log_le hreciprocal hlower
  have hlog' : Int.log 2 |1 / rate| < 3 :=
    log_lt_of_lt_two_pow hreciprocal (lt_of_le_of_lt hupper (by norm_num))
  constructor
  · exact_mod_cast nearest_le_intCast (n := 5) (by omega) (by exact_mod_cast hupper)
  · exact mul_le_nearest hreciprocal (by omega)

end Binary64
