import Mathlib.Data.Nat.Log
import Mathlib.Tactic.Ring

/-!
# Quotients of PostgreSQL's `numeric`

A quotient of two `numeric` values is rounded to a number of decimals that depends on their sizes,
and a `numeric` that is cast to `integer` is rounded once more. Both roundings take a half away from
zero. Values are not negative here; a quotient is that of two naturals.
-/

namespace PgNumeric

/-- `n / d`, rounded, a half upwards. -/
def roundDiv (n d : Nat) : Nat := (2 * n + d) / (2 * d)

/-- The place of the first digit to base 10000, and the digit. -/
def weight (n : Nat) : Nat := Nat.log 10000 n

def firstDigit (n : Nat) : Nat := n / 10000 ^ weight n

/-- `select_div_scale`: the decimals of `a / b`, with at least 16 significant digits and the decimals
of the operands. -/
def divisionScale (a b decimals : Nat) : Nat :=
  max decimals (16 + 4 * (weight b + if firstDigit a ≤ firstDigit b then 1 else 0) - 4 * weight a)

/-- `(n / d)::integer`, where the quotient has a number of decimals. -/
def toInteger (n d decimals : Nat) : Nat := roundDiv (roundDiv (n * 10 ^ decimals) d) (10 ^ decimals)

theorem roundDiv_add_mul {d : Nat} (hd : 0 < d) (k x : Nat) :
    roundDiv (d * k + x) d = k + roundDiv x d := by
  unfold roundDiv
  have hsum : 2 * (d * k + x) + d = 2 * x + d + 2 * d * k := by ring
  rw [hsum, Nat.add_mul_div_left _ _ (by omega), Nat.add_comm]

theorem roundDiv_eq_zero {d x : Nat} (hd : 0 < d) : roundDiv x d = 0 ↔ 2 * x < d := by
  unfold roundDiv
  rw [Nat.div_eq_zero_iff_lt (by omega)]
  omega

theorem roundDiv_lt {d x h : Nat} (hd : 0 < d) : roundDiv x d < h ↔ 2 * x + d < 2 * d * h := by
  unfold roundDiv
  rw [Nat.div_lt_iff_lt_mul (by omega), Nat.mul_comm h]

/-- When the two roundings give the integer part. -/
theorem toInteger_eq_div {n d decimals : Nat} (hd : 0 < d) (hdecimals : 0 < decimals) :
    toInteger n d decimals = n / d ↔ 2 * (n % d) * 10 ^ decimals + d < d * 10 ^ decimals := by
  obtain ⟨k, rfl⟩ : ∃ k, decimals = k + 1 := ⟨decimals - 1, by omega⟩
  have hscale : 10 ^ (k + 1) = 2 * (5 * 10 ^ k) := by rw [Nat.pow_succ]; omega
  have hpos : 0 < 10 ^ (k + 1) := Nat.pow_pos (by decide)
  have hsplit : n * 10 ^ (k + 1)
      = d * (10 ^ (k + 1) * (n / d)) + n % d * 10 ^ (k + 1) := by
    conv_lhs => rw [← Nat.div_add_mod n d]
    ring
  unfold toInteger
  rw [hsplit, roundDiv_add_mul hd, roundDiv_add_mul hpos, Nat.add_eq_left, roundDiv_eq_zero hpos]
  -- What is left is an integer below an even number, so below its half.
  have hhalf : 2 * roundDiv (n % d * 10 ^ (k + 1)) d < 10 ^ (k + 1)
      ↔ roundDiv (n % d * 10 ^ (k + 1)) d < 5 * 10 ^ k := by omega
  have hdouble : 2 * d * (5 * 10 ^ k) = d * 10 ^ (k + 1) := by rw [hscale]; ring
  rw [hhalf, roundDiv_lt hd, hdouble, Nat.mul_assoc]

theorem toInteger_eq_div_of_le {n d decimals : Nat} (hd : 0 < d) (hdecimals : 0 < decimals)
    (hsmall : d < 10 ^ decimals) : toInteger n d decimals = n / d ↔ 2 * (n % d) < d := by
  rw [toInteger_eq_div hd hdecimals]
  constructor
  · intro h
    by_contra hle
    have hmul := Nat.mul_le_mul_right (10 ^ decimals) (not_lt.mp hle)
    omega
  · intro h
    have hmul := Nat.mul_le_mul_right (10 ^ decimals) (Nat.succ_le_of_lt h)
    rw [Nat.succ_mul] at hmul
    omega

theorem sixteen_le_divisionScale {a b : Nat} (decimals : Nat) (h : a < 10000 * b) :
    16 ≤ divisionScale a b decimals := by
  have hweight : weight a ≤ weight b + if firstDigit a ≤ firstDigit b then 1 else 0 := by
    have hupper : b < 10000 ^ (weight b + 1) := Nat.lt_pow_succ_log_self (by decide) b
    have hle : weight a ≤ weight b + 1 := by
      refine Nat.le_of_lt_succ (Nat.log_lt_of_lt_pow' (by omega) ?_)
      rw [Nat.pow_succ]
      omega
    split
    · exact hle
    · next hdigit =>
      by_contra hlt
      have heq : weight a = weight b + 1 := by omega
      refine hdigit ?_
      unfold firstDigit
      rw [heq, Nat.pow_succ, Nat.mul_comm, ← Nat.div_div_eq_div_mul]
      exact Nat.div_le_div_right (by omega)
  unfold divisionScale
  omega

end PgNumeric
