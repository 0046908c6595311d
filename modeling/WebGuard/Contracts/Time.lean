import Mathlib.Logic.Basic

/-!
# Instants and their canonical text

A timezone-aware `datetime` is used only through its UTC instant, so it is modelled by that
instant: a `Nat`, the microseconds since 0001-01-01T00:00:00Z. The columns of the stores hold the
canonical text of an instant; it has a fixed width, so the rows below keep the instant itself
and compare instants where SQLite compares texts.

The text is needed in one place only, the idempotency key of a scheduled run, and is computed
as `datetime.isoformat` computes it.
-/

namespace WebGuard

/-- One microsecond after `datetime.max`. -/
def datetimeEnd : Nat := 3652059 * 86400000000

/-- Microseconds in a second, the unit of the durations the service is configured with. -/
def second : Nat := 1000000

/-- `_no_earlier_than(candidate, floor)`. -/
def noEarlierThan (candidate floor : Nat) : Nat :=
  if floor ≤ candidate then candidate else floor

theorem noEarlierThan_eq_max (candidate floor : Nat) :
    noEarlierThan candidate floor = max candidate floor := by
  unfold noEarlierThan
  split <;> omega

theorem floor_le_noEarlierThan (candidate floor : Nat) :
    floor ≤ noEarlierThan candidate floor := by
  rw [noEarlierThan_eq_max]
  exact Nat.le_max_right _ _

/-! ## `isoformat(timespec="microseconds")` -/

/-- The days before a month of a common year; months are counted from one. -/
def daysBeforeMonth : Nat → Nat
  | 1 => 0 | 2 => 31 | 3 => 59 | 4 => 90 | 5 => 120 | 6 => 151 | 7 => 181 | 8 => 212
  | 9 => 243 | 10 => 273 | 11 => 304 | 12 => 334 | _ => 0

def daysInMonth : Nat → Nat
  | 2 => 28 | 4 => 30 | 6 => 30 | 9 => 30 | 11 => 30 | _ => 31

/-- Year, month and day of a day number, the first day of year 1 being number zero. -/
def ord2ymd (day : Nat) : Nat × Nat × Nat :=
  let n400 := day / 146097
  let n := day % 146097
  let n100 := n / 36524
  let n := n % 36524
  let n4 := n / 1461
  let n := n % 1461
  let n1 := n / 365
  let n := n % 365
  let year := n400 * 400 + 1 + n100 * 100 + n4 * 4 + n1
  -- The last day of a leap year or of a 400-year cycle overflows its year by one.
  if n1 == 4 || n100 == 4 then (year - 1, 12, 31)
  else
    let leap := n1 == 3 && (n4 != 24 || n100 == 3)
    let month := (n + 50) / 32
    let preceding := daysBeforeMonth month + (if 2 < month && leap then 1 else 0)
    if n < preceding then
      let month := month - 1
      let preceding := preceding - (daysInMonth month + (if month == 2 && leap then 1 else 0))
      (year, month, n - preceding + 1)
    else (year, month, n - preceding + 1)

/-- The last `width` decimal digits. -/
def digits : Nat → Nat → List Char
  | 0, _ => []
  | width + 1, n => digits width (n / 10) ++ [Char.ofNat (48 + n % 10)]

theorem length_digits (width n : Nat) : (digits width n).length = width := by
  induction width generalizing n with
  | zero => rfl
  | succ width ih => rw [digits, List.length_append, ih, List.length_singleton]

/-- `_timestamp`: canonical UTC text with microseconds and a final `Z`. -/
def timestamp (t : Nat) : String :=
  let (year, month, day) := ord2ymd (t / 86400000000)
  let micros := t % 86400000000
  let seconds := micros / 1000000
  String.ofList (digits 4 year ++ ['-'] ++ digits 2 month ++ ['-'] ++ digits 2 day ++ ['T']
    ++ digits 2 (seconds / 3600) ++ [':'] ++ digits 2 (seconds / 60 % 60) ++ [':']
    ++ digits 2 (seconds % 60) ++ ['.'] ++ digits 6 (micros % 1000000) ++ ['Z'])

-- 2024-02-29, the leap day, at half past one; day number 738944 from the first day of year 1.
example : timestamp (738944 * 86400000000 + 5400000000 + 7) = "2024-02-29T01:30:00.000007Z" := by
  decide

end WebGuard
