import Mathlib.Data.List.Lex
import Mathlib.Data.String.Basic
import Mathlib.Tactic.IntervalCases
import WebGuard.Contracts.Time

/-!
# The order of timestamps

SQLite compares the timestamp columns as texts. The text of an instant is a row of decimal fields
of fixed width, the widest unit first, so the order of the texts is the order of the instants:
`timestamp_lt_iff`.

The calendar is taken apart and put together again for it: the day number is found again from
year, month and day (`ymd2ord_ord2ymd`), and grows with them (`ymd2ord_lt`).
-/

namespace WebGuard

open List

/-! ## Fields of fixed width -/

variable {x y : List Char} {n m year later b c t u : Nat}

theorem append_lt_append (h : x < y) (hlength : x.length = y.length) (u v : List Char) :
    x ++ u < y ++ v := by
  induction x generalizing y with
  | nil =>
    cases y with
    | nil => exact absurd h (lt_irrefl _)
    | cons b y => simp at hlength
  | cons a x ih =>
    cases y with
    | nil => simp at hlength
    | cons b y =>
      rw [cons_append, cons_append, cons_lt_cons_iff]
      rcases cons_lt_cons_iff.mp h with hfirst | ⟨rfl, hrest⟩
      · exact Or.inl hfirst
      · exact Or.inr ⟨rfl, ih hrest (by simpa using hlength)⟩

theorem length_digits_eq (width m n : Nat) : (digits width m).length = (digits width n).length := by
  induction width generalizing m n with
  | zero => rfl
  | succ width ih => simp [digits, ih (m / 10) (n / 10)]

/-- Digits of one width are ordered as their numbers. -/
theorem digits_lt {width : Nat} (h : m < n) (hn : n < 10 ^ width) :
    digits width m < digits width n := by
  induction width generalizing m n with
  | zero =>
    rw [Nat.pow_zero] at hn
    omega
  | succ width ih =>
    rw [Nat.pow_succ] at hn
    rw [digits, digits]
    by_cases hhigh : m / 10 < n / 10
    · exact append_lt_append (ih hhigh (by omega)) (length_digits_eq width _ _) _ _
    · -- The leading digits are equal, and the last one decides.
      have hsame : m / 10 = n / 10 := by omega
      have hlast : ∀ a < 10, ∀ b < 10, a < b → Char.ofNat (48 + a) < Char.ofNat (48 + b) := by
        decide
      rw [hsame]
      apply append_left_lt
      rw [cons_lt_cons_iff]
      exact Or.inl (hlast _ (by omega) _ (by omega) (by omega))

theorem field_lt {width : Nat} {u v : List Char} (mark : Char) (hn : n < 10 ^ width)
    (h : m < n ∨ m = n ∧ u < v) : digits width m ++ mark :: u < digits width n ++ mark :: v := by
  rcases h with h | ⟨rfl, h⟩
  · exact append_lt_append (digits_lt h hn) (length_digits_eq width m n) _ _
  · apply append_left_lt
    rw [cons_lt_cons_iff]
    exact Or.inr ⟨rfl, h⟩

/-! ## The calendar -/

def isLeap (year : Nat) : Bool := year % 4 == 0 && (year % 100 != 0 || year % 400 == 0)

/-- The days before a year. -/
def daysBeforeYear (year : Nat) : Nat :=
  (year - 1) * 365 + (year - 1) / 4 - (year - 1) / 100 + (year - 1) / 400

/-- `_ymd2ord`, counted from zero. -/
def ymd2ord (date : Nat × Nat × Nat) : Nat :=
  daysBeforeYear date.1 + daysBeforeMonth date.2.1
    + (if 2 < date.2.1 && isLeap date.1 then 1 else 0) + date.2.2 - 1

/-- The days of a month. -/
def monthLength (year month : Nat) : Nat :=
  daysInMonth month + (if month == 2 && isLeap year then 1 else 0)

/-- A date of the calendar. -/
structure CalendarDate (date : Nat × Nat × Nat) : Prop where
  year : 1 ≤ date.1
  month : 1 ≤ date.2.1 ∧ date.2.1 ≤ 12
  day : 1 ≤ date.2.2 ∧ date.2.2 ≤ monthLength date.1 date.2.1

theorem daysBeforeYear_succ (h : 1 ≤ year) :
    daysBeforeYear (year + 1) = daysBeforeYear year + 365 + if isLeap year then 1 else 0 := by
  obtain ⟨n, rfl⟩ : ∃ n, year = n + 1 := ⟨year - 1, by omega⟩
  -- Which of the three quotients grow when a year is added.
  have hstep : ∀ d, 0 < d → (n + 1) / d = n / d + if (n + 1) % d = 0 then 1 else 0 := by
    intro d _
    simp only [Nat.succ_div, Nat.dvd_iff_mod_eq_zero]
  have hcentury : n / 100 ≤ n / 4 := by omega
  have hleap : isLeap (n + 1) =
      decide ((n + 1) % 4 = 0 ∧ ((n + 1) % 100 ≠ 0 ∨ (n + 1) % 400 = 0)) := by
    simp [isLeap, Bool.decide_and, Bool.decide_or]
    rfl
  have hdiv : (n + 1) % 400 = 0 → (n + 1) % 100 = 0 := by omega
  have hdiv' : (n + 1) % 100 = 0 → (n + 1) % 4 = 0 := by omega
  simp only [daysBeforeYear, Nat.add_sub_cancel, hleap, decide_eq_true_eq, hstep 4 (by omega),
    hstep 100 (by omega), hstep 400 (by omega)]
  generalize (n + 1) % 4 = a at *
  generalize (n + 1) % 100 = b at *
  generalize (n + 1) % 400 = c at *
  by_cases ha : a = 0 <;> by_cases hb : b = 0 <;> by_cases hc : c = 0 <;> simp_all <;> omega

theorem daysBeforeYear_mono (hyear : 1 ≤ year) (h : year ≤ later) :
    daysBeforeYear year ≤ daysBeforeYear later := by
  induction later, h using Nat.le_induction with
  | base => exact le_refl _
  | succ later hle ih =>
    rw [daysBeforeYear_succ (by omega)]
    omega

theorem dayOfYear_le {month day : Nat} (h : CalendarDate (year, month, day)) :
    daysBeforeMonth month + (if 2 < month && isLeap year then 1 else 0) + day ≤
      365 + if isLeap year then 1 else 0 := by
  obtain ⟨-, ⟨hlow, hhigh⟩, -, hday⟩ := h
  simp only [monthLength] at hlow hhigh hday
  have hall : ∀ leap : Bool, ∀ month ∈ range' 1 12,
      daysBeforeMonth month + (if 2 < month && leap then 1 else 0)
          + (daysInMonth month + (if month == 2 && leap then 1 else 0)) ≤
        365 + if leap then 1 else 0 := by decide
  have hmonth := hall (isLeap year) month (by simp; omega)
  omega

theorem monthEnd_le (leap : Bool) {month : Nat} (hlow : 1 ≤ month) (h : month < later)
    (hhigh : later ≤ 12) :
    daysBeforeMonth month + (if 2 < month && leap then 1 else 0)
        + (daysInMonth month + (if month == 2 && leap then 1 else 0)) ≤
      daysBeforeMonth later + (if 2 < later && leap then 1 else 0) := by
  have hall : ∀ leap : Bool, ∀ later ∈ range' 1 12, ∀ month ∈ range' 1 (later - 1),
      daysBeforeMonth month + (if 2 < month && leap then 1 else 0)
          + (daysInMonth month + (if month == 2 && leap then 1 else 0)) ≤
        daysBeforeMonth later + (if 2 < later && leap then 1 else 0) := by decide
  exact hall leap later (by simp; omega) month (by simp; omega)

/-- A later date has a higher ordinal. -/
theorem ymd2ord_lt {date later : Nat × Nat × Nat} (hdate : CalendarDate date)
    (hlater : CalendarDate later)
    (h : date.1 < later.1 ∨ date.1 = later.1 ∧ (date.2.1 < later.2.1 ∨
      date.2.1 = later.2.1 ∧ date.2.2 < later.2.2)) : ymd2ord date < ymd2ord later := by
  obtain ⟨year, month, day⟩ := date
  obtain ⟨year', month', day'⟩ := later
  have hend := dayOfYear_le hdate
  have hday' := hlater.day.1
  have hday := hdate.day
  simp only [ymd2ord] at *
  rcases h with h | ⟨rfl, h | ⟨rfl, h⟩⟩
  · have hnext := daysBeforeYear_mono (Nat.succ_le_succ (Nat.zero_le year)) h
    rw [Nat.succ_eq_add_one, daysBeforeYear_succ hdate.year] at hnext
    simp only at hnext
    omega
  · have hmonth := monthEnd_le (isLeap year) hdate.month.1 h hlater.month.2
    simp only [monthLength] at hday hmonth
    omega
  · omega

/-- Month and day of a day of the year that is not the last of a leap year. -/
def monthOf (leap : Bool) (n : Nat) : Nat × Nat :=
  let month := (n + 50) / 32
  let preceding := daysBeforeMonth month + (if 2 < month && leap then 1 else 0)
  if n < preceding then
    (month - 1, n - (preceding - (daysInMonth (month - 1)
      + (if month - 1 == 2 && leap then 1 else 0))) + 1)
  else (month, n - preceding + 1)

/-- The month and the day of a day of the year. -/
theorem monthOf_spec (leap : Bool) (h : n < 365) :
    (1 ≤ (monthOf leap n).1 ∧ (monthOf leap n).1 ≤ 12) ∧
      (1 ≤ (monthOf leap n).2 ∧ (monthOf leap n).2 ≤ daysInMonth (monthOf leap n).1
        + (if (monthOf leap n).1 == 2 && leap then 1 else 0)) ∧
      daysBeforeMonth (monthOf leap n).1 + (if 2 < (monthOf leap n).1 && leap then 1 else 0)
        + (monthOf leap n).2 = n + 1 := by
  have hall : ∀ leap : Bool, ∀ n < 365,
      (1 ≤ (monthOf leap n).1 ∧ (monthOf leap n).1 ≤ 12) ∧
        (1 ≤ (monthOf leap n).2 ∧ (monthOf leap n).2 ≤ daysInMonth (monthOf leap n).1
          + (if (monthOf leap n).1 == 2 && leap then 1 else 0)) ∧
        daysBeforeMonth (monthOf leap n).1 + (if 2 < (monthOf leap n).1 && leap then 1 else 0)
          + (monthOf leap n).2 = n + 1 := by decide +kernel
  exact hall leap n h

/-- A day number, by its cycles of 400, 100, 4 and 1 years. -/
structure Cycles (n a b c d r : Nat) : Prop where
  eq : n = 146097 * a + 36524 * b + 1461 * c + 365 * d + r
  century : b ≤ 4
  four : c ≤ 24
  one : d ≤ 4
  rest : r < 365
  lastCentury : b = 4 → c = 0 ∧ d = 0 ∧ r = 0
  lastOne : d = 4 → r = 0 ∧ c ≤ 23

/-- A number of days in cycles of 400, 100 and 4 years. -/
theorem cycles (n : Nat) :
    Cycles n (n / 146097) (n % 146097 / 36524) (n % 146097 % 36524 / 1461)
      (n % 146097 % 36524 % 1461 / 365) (n % 146097 % 36524 % 1461 % 365) where
  eq := by omega
  century := by omega
  four := by omega
  one := by omega
  rest := by omega
  lastCentury := by omega
  lastOne := by omega

theorem daysBeforeYear_cycles {a d : Nat} (hb : b ≤ 3) (hc : c ≤ 24) (hd : d ≤ 3) :
    daysBeforeYear (a * 400 + 1 + b * 100 + c * 4 + d) =
      146097 * a + 36524 * b + 1461 * c + 365 * d := by
  unfold daysBeforeYear
  omega

theorem isLeap_cycles {a d : Nat} (hb : b ≤ 3) (hc : c ≤ 24) (hd : d ≤ 3) :
    isLeap (a * 400 + 1 + b * 100 + c * 4 + d) = (d == 3 && (c != 24 || b == 3)) := by
  have h4 : (a * 400 + 1 + b * 100 + c * 4 + d) % 4 = 0 ↔ d = 3 := by omega
  have h100 : (a * 400 + 1 + b * 100 + c * 4 + d) % 100 = 0 ↔ d = 3 ∧ c = 24 := by omega
  have h400 : (a * 400 + 1 + b * 100 + c * 4 + d) % 400 = 0 ↔ d = 3 ∧ c = 24 ∧ b = 3 := by omega
  unfold isLeap
  rw [Bool.eq_iff_iff]
  simp only [Bool.and_eq_true, Bool.or_eq_true, beq_iff_eq, bne_iff_ne, ne_eq, h4, h100, h400]
  tauto

theorem lastDay_spec (hyear : 1 ≤ year) (hleap : isLeap year = true)
    (hn : n = daysBeforeYear year + 365) :
    CalendarDate (year, 12, 31) ∧ ymd2ord (year, 12, 31) = n := by
  refine ⟨⟨hyear, by simp, by simp, ?_⟩, ?_⟩
  · simp [monthLength, daysInMonth]
  · simp [ymd2ord, daysBeforeMonth, hleap, hn]

theorem lastOfCycle_spec (a : Nat) :
    CalendarDate (a * 400 + 400, 12, 31) ∧
      ymd2ord (a * 400 + 400, 12, 31) = 146097 * a + 36524 * 4 := by
  have hyear : a * 400 + 400 = a * 400 + 1 + 3 * 100 + 24 * 4 + 3 := by omega
  rw [hyear]
  refine lastDay_spec (by omega) ?_ ?_
  · rw [isLeap_cycles (by omega) (by omega) (by omega)]
    simp
  · have hdays : daysBeforeYear (a * 400 + 1 + 3 * 100 + 24 * 4 + 3) = _ :=
      daysBeforeYear_cycles (by omega) (by omega) (by omega)
    omega

theorem lastOfFour_spec (a : Nat) (hb : b ≤ 3) (hc : c ≤ 23) :
    CalendarDate (a * 400 + b * 100 + c * 4 + 4, 12, 31) ∧
      ymd2ord (a * 400 + b * 100 + c * 4 + 4, 12, 31) =
        146097 * a + 36524 * b + 1461 * c + 365 * 4 := by
  have hyear : a * 400 + b * 100 + c * 4 + 4 = a * 400 + 1 + b * 100 + c * 4 + 3 := by omega
  have hnot : c ≠ 24 := by omega
  rw [hyear]
  refine lastDay_spec (by omega) ?_ ?_
  · rw [isLeap_cycles hb (by omega) (by omega)]
    simp [hnot]
  · have hdays : daysBeforeYear (a * 400 + 1 + b * 100 + c * 4 + 3) = _ :=
      daysBeforeYear_cycles hb (by omega) (by omega)
    omega

theorem monthOf_ymd2ord {r : Nat} (hyear : 1 ≤ year) (hr : r < 365)
    (hn : n = daysBeforeYear year + r) :
    CalendarDate (year, monthOf (isLeap year) r) ∧
      ymd2ord (year, monthOf (isLeap year) r) = n := by
  obtain ⟨hmonth, hday, hord⟩ := monthOf_spec (isLeap year) hr
  refine ⟨⟨hyear, hmonth, hday⟩, ?_⟩
  simp only [ymd2ord]
  omega

/-- The date of an ordinal is a date, with this ordinal. -/
theorem ord2ymd_spec (n : Nat) : CalendarDate (ord2ymd n) ∧ ymd2ord (ord2ymd n) = n := by
  have hcycles := cycles n
  unfold ord2ymd
  simp only
  generalize n / 146097 = a at *
  generalize n % 146097 / 36524 = b at *
  generalize n % 146097 % 36524 / 1461 = c at *
  generalize n % 146097 % 36524 % 1461 / 365 = d at *
  generalize n % 146097 % 36524 % 1461 % 365 = r at *
  obtain ⟨heq, hb, hc, hd, hr, hcentury, hone⟩ := hcycles
  split
  · next hlast =>
    simp only [Bool.or_eq_true, beq_iff_eq] at hlast
    by_cases hfour : b = 4
    · obtain ⟨hczero, hdzero, hrzero⟩ := hcentury hfour
      have hyear : a * 400 + 1 + b * 100 + c * 4 + d - 1 = a * 400 + 400 := by omega
      have hn : n = 146097 * a + 36524 * 4 := by omega
      rw [hyear, hn]
      exact lastOfCycle_spec a
    · have hdfour : d = 4 := by omega
      obtain ⟨hrzero, hc⟩ := hone hdfour
      have hyear : a * 400 + 1 + b * 100 + c * 4 + d - 1 = a * 400 + b * 100 + c * 4 + 4 := by
        omega
      have hn : n = 146097 * a + 36524 * b + 1461 * c + 365 * 4 := by omega
      rw [hyear, hn]
      exact lastOfFour_spec a (by omega) hc
  · next hlast =>
    simp only [Bool.or_eq_true, beq_iff_eq, not_or] at hlast
    have hb : b ≤ 3 := by omega
    have hd : d ≤ 3 := by omega
    have hdays := daysBeforeYear_cycles (a := a) hb hc hd
    rw [← isLeap_cycles (a := a) hb hc hd, ← apply_ite (Prod.mk _)]
    exact monthOf_ymd2ord (by omega) hr (by omega)

/-- So a higher ordinal is a later date. -/
theorem ord2ymd_lt (h : n < later) :
    (ord2ymd n).1 < (ord2ymd later).1 ∨ (ord2ymd n).1 = (ord2ymd later).1 ∧
      ((ord2ymd n).2.1 < (ord2ymd later).2.1 ∨ (ord2ymd n).2.1 = (ord2ymd later).2.1 ∧
        (ord2ymd n).2.2 < (ord2ymd later).2.2) := by
  obtain ⟨hdate, hn⟩ := ord2ymd_spec n
  obtain ⟨hdate', hlater⟩ := ord2ymd_spec later
  by_contra hnot
  have hle : ymd2ord (ord2ymd later) ≤ ymd2ord (ord2ymd n) := by
    by_cases hsame : ord2ymd later = ord2ymd n
    · rw [hsame]
    · refine le_of_lt (ymd2ord_lt hdate' hdate ?_)
      rw [Prod.ext_iff, Prod.ext_iff] at hsame
      omega
  omega

theorem ord2ymd_bounds (h : n < 3652059) :
    (ord2ymd n).1 < 10 ^ 4 ∧ (ord2ymd n).2.1 < 10 ^ 2 ∧ (ord2ymd n).2.2 < 10 ^ 2 := by
  obtain ⟨hdate, hn⟩ := ord2ymd_spec n
  have hmonth := hdate.month.2
  have hday := hdate.day
  refine ⟨?_, by omega, ?_⟩
  · by_contra hyear
    have hmono : daysBeforeYear 10000 ≤ daysBeforeYear (ord2ymd n).1 :=
      daysBeforeYear_mono (by omega) (Nat.le_of_not_lt hyear)
    have hend : daysBeforeYear 10000 = 3652059 := by decide
    simp only [ymd2ord] at hn
    omega
  · have hall : ∀ month ∈ range 13, daysInMonth month ≤ 31 := by decide
    have hlength := hall (ord2ymd n).2.1 (by simp; omega)
    simp only [monthLength] at hday
    split at hday <;> omega

/-! ## The texts -/

/-- Timestamps are ordered as text. -/
theorem timestamp_lt (h : t < u) (hu : u < datetimeEnd) : timestamp t < timestamp u := by
  unfold datetimeEnd at hu
  obtain ⟨hyear, hmonth, hday⟩ := ord2ymd_bounds (n := u / 86400000000) (by omega)
  have hdate : t / 86400000000 < u / 86400000000 → _ := ord2ymd_lt
  rw [String.lt_iff_toList_lt]
  unfold timestamp
  simp only [String.toList_ofList, append_assoc, singleton_append]
  by_cases hearlier : t / 86400000000 < u / 86400000000
  · rcases hdate hearlier with h | ⟨heq, h | ⟨heq', h⟩⟩
    · exact field_lt '-' hyear (Or.inl h)
    · exact field_lt '-' hyear (Or.inr ⟨heq, field_lt '-' hmonth (Or.inl h)⟩)
    · exact field_lt '-' hyear (Or.inr ⟨heq, field_lt '-' hmonth
        (Or.inr ⟨heq', field_lt 'T' hday (Or.inl h)⟩)⟩)
  · have hsame : t / 86400000000 = u / 86400000000 := by omega
    rw [hsame]
    refine field_lt '-' hyear (Or.inr ⟨rfl, field_lt '-' hmonth
        (Or.inr ⟨rfl, field_lt 'T' hday (Or.inr ⟨rfl, ?_⟩)⟩)⟩)
    have htime : t % 86400000000 < u % 86400000000 := by omega
    have hbound : u % 86400000000 < 86400000000 := by omega
    generalize t % 86400000000 = a at *
    generalize u % 86400000000 = b at *
    -- Hours, minutes, seconds and microseconds, the first difference decides.
    by_cases hhour : a / 1000000 / 3600 < b / 1000000 / 3600
    · exact field_lt ':' (by omega) (Or.inl hhour)
    refine field_lt ':' (by omega) (Or.inr ⟨by omega, ?_⟩)
    by_cases hminute : a / 1000000 / 60 % 60 < b / 1000000 / 60 % 60
    · exact field_lt ':' (by omega) (Or.inl hminute)
    refine field_lt ':' (by omega) (Or.inr ⟨by omega, ?_⟩)
    by_cases hsecond : a / 1000000 % 60 < b / 1000000 % 60
    · exact field_lt '.' (by omega) (Or.inl hsecond)
    refine field_lt '.' (by omega) (Or.inr ⟨by omega, ?_⟩)
    exact field_lt 'Z' (by omega) (Or.inl (by omega))

theorem timestamp_lt_iff (ht : t < datetimeEnd) (hu : u < datetimeEnd) :
    timestamp t < timestamp u ↔ t < u := by
  constructor
  · intro h
    by_contra hnot
    rcases Nat.lt_or_eq_of_le (Nat.le_of_not_lt hnot) with hlt | rfl
    · exact absurd (timestamp_lt hlt ht) (lt_asymm h)
    · exact absurd h (lt_irrefl _)
  · intro h
    exact timestamp_lt h hu

theorem timestamp_le_iff (ht : t < datetimeEnd) (hu : u < datetimeEnd) :
    timestamp t ≤ timestamp u ↔ t ≤ u := by
  rw [← not_lt, timestamp_lt_iff hu ht, not_lt]

theorem timestamp_injective (ht : t < datetimeEnd) (hu : u < datetimeEnd)
    (h : timestamp t = timestamp u) : t = u := by
  have hle := (timestamp_le_iff ht hu).mp (le_of_eq h)
  have hge := (timestamp_le_iff hu ht).mp (le_of_eq h.symm)
  omega

/-! ## The default spelling -/

/-- Date and time to the second, from the number of seconds. -/
def secondsText (n : Nat) : List Char :=
  let (year, month, day) := ord2ymd (n / 86400)
  digits 4 year ++ ['-'] ++ digits 2 month ++ ['-'] ++ digits 2 day ++ ['T']
    ++ digits 2 (n % 86400 / 3600) ++ [':'] ++ digits 2 (n % 86400 / 60 % 60) ++ [':']
    ++ digits 2 (n % 86400 % 60)

/-- `datetime.isoformat()` of a UTC time: no fraction where there is none, and an offset of zero. -/
def isoformat (t : Nat) : String :=
  String.ofList (secondsText (t / 1000000)
    ++ (if t % 1000000 = 0 then [] else '.' :: digits 6 (t % 1000000)) ++ "+00:00".toList)

theorem timestamp_eq_secondsText (t : Nat) :
    timestamp t
      = String.ofList (secondsText (t / 1000000) ++ '.' :: (digits 6 (t % 1000000) ++ ['Z'])) := by
  have hday : t / 1000000 / 86400 = t / 86400000000 := by omega
  have hseconds : t / 1000000 % 86400 = t % 86400000000 / 1000000 := by omega
  have hmicros : t % 1000000 = t % 86400000000 % 1000000 := by omega
  rw [secondsText, hday, hseconds, hmicros]
  simp [timestamp]

theorem length_secondsText (m n : Nat) : (secondsText m).length = (secondsText n).length := by
  simp [secondsText, length_digits]

theorem lt_of_append_lt_append {w : List Char} (hlength : x.length = y.length)
    (h : x ++ w < y ++ w) : x < y := by
  rcases lt_trichotomy x y with hlt | rfl | hgt
  · exact hlt
  · exact absurd h (lt_irrefl _)
  · exact absurd h (lt_asymm (append_lt_append hgt hlength.symm w w))

theorem append_lt_append_iff {w : List Char} : w ++ x < w ++ y ↔ x < y := by
  constructor
  · intro h
    rcases lt_trichotomy x y with hlt | rfl | hgt
    · exact hlt
    · exact absurd h (lt_irrefl _)
    · exact absurd h (lt_asymm (append_left_lt hgt))
  · exact append_left_lt

theorem secondsText_lt (h : m < n) (hn : n * 1000000 < datetimeEnd) :
    secondsText m < secondsText n := by
  have hpos : 0 < 1000000 := by decide
  have hlt := timestamp_lt (Nat.mul_lt_mul_of_pos_right h hpos) hn
  rw [String.lt_iff_toList_lt, timestamp_eq_secondsText, timestamp_eq_secondsText,
    String.toList_ofList, String.toList_ofList, Nat.mul_div_cancel m hpos,
    Nat.mul_div_cancel n hpos, Nat.mul_mod_left, Nat.mul_mod_left] at hlt
  exact lt_of_append_lt_append (length_secondsText m n) hlt

/-- A text without fractions stands before the one with them. -/
theorem isoformat_lt_timestamp_iff (ht : t < datetimeEnd) (hu : u < datetimeEnd) :
    isoformat t < timestamp u ↔ t ≤ u := by
  simp only [String.lt_iff_toList_lt, isoformat, timestamp_eq_secondsText, String.toList_ofList,
    append_assoc]
  have htext : t / 1000000 * 1000000 < datetimeEnd :=
    Nat.lt_of_le_of_lt (Nat.div_mul_le_self t 1000000) ht
  have hutext : u / 1000000 * 1000000 < datetimeEnd :=
    Nat.lt_of_le_of_lt (Nat.div_mul_le_self u 1000000) hu
  clear ht hu
  rcases lt_trichotomy (t / 1000000) (u / 1000000) with hlt | heq | hgt
  · have hseconds := secondsText_lt hlt hutext
    clear htext hutext
    refine ⟨fun _ => by omega, fun _ => ?_⟩
    exact append_lt_append hseconds (length_secondsText _ _) _ _
  · clear htext hutext
    rw [heq, append_lt_append_iff]
    by_cases hwhole : t % 1000000 = 0
    · rw [if_pos hwhole]
      refine ⟨fun _ => by omega, fun _ => ?_⟩
      exact cons_lt_cons_iff.mpr (Or.inl (by decide))
    · rw [if_neg hwhole]
      constructor
      · intro h
        by_contra hnot
        have hdigits : digits 6 (u % 1000000) < digits 6 (t % 1000000) :=
          digits_lt (by omega) (by omega)
        refine absurd h (lt_asymm (cons_lt_cons_iff.mpr (Or.inr ⟨rfl, ?_⟩)))
        exact append_lt_append hdigits (length_digits_eq 6 _ _) _ _
      · intro h
        refine cons_lt_cons_iff.mpr (Or.inr ⟨rfl, ?_⟩)
        by_cases hsame : t % 1000000 = u % 1000000
        · rw [hsame]
          exact append_left_lt (cons_lt_cons_iff.mpr (Or.inl (by decide)))
        · exact append_lt_append (digits_lt (by omega) (by omega)) (length_digits_eq 6 _ _) _ _
  · have hseconds := secondsText_lt hgt htext
    clear htext hutext
    refine ⟨fun h => ?_, fun h => by omega⟩
    exact absurd h (lt_asymm (append_lt_append hseconds (length_secondsText _ _) _ _))

end WebGuard
