import WebGuard.Contracts.IsoFormat

/-!
# The texts of aware times

`_timestamp` of the job store takes a `datetime` with any offset: it is brought to UTC, written with
microseconds, and its offset of zero becomes a `Z`. Bringing it to UTC is what can fail, as the year
can leave the range of `datetime`.
-/

namespace WebGuard

namespace AwareTimes

open PyJson List

/-! ## `str.replace` -/

/-- `str.replace` behind the characters of `old` that are still to be passed over. -/
def replaceFrom (old new : List Char) : Nat → List Char → List Char
  | _, [] => []
  | 0, c :: rest =>
    if old.isPrefixOf (c :: rest) then new ++ replaceFrom old new (old.length - 1) rest
    else c :: replaceFrom old new 0 rest
  | skip + 1, _ :: rest => replaceFrom old new skip rest

/-- `text.replace(old, new)`, for an `old` that is not empty. -/
def replace (text old new : List Char) : List Char := replaceFrom old new 0 text

theorem replaceFrom_skip {old new passed rest : List Char} :
    replaceFrom old new passed.length (passed ++ rest) = replaceFrom old new 0 rest := by
  induction passed with
  | nil => rfl
  | cons c passed ih => exact ih

theorem replace_append {first : Char} {tail before : List Char} (new : List Char)
    (h : first ∉ before) :
    replace (before ++ first :: tail) (first :: tail) new = before ++ new := by
  unfold replace
  induction before with
  | nil =>
    have hfound : (first :: tail).isPrefixOf (first :: tail) = true :=
      isPrefixOf_iff_prefix.mpr (prefix_refl _)
    have hrest : replaceFrom (first :: tail) new tail.length (tail ++ []) = [] := replaceFrom_skip
    rw [append_nil] at hrest
    rw [nil_append, replaceFrom, if_pos hfound, length_cons, Nat.add_sub_cancel, hrest,
      append_nil, nil_append]
  | cons c before ih =>
    rw [mem_cons, not_or] at h
    have hnot : ¬(first :: tail).isPrefixOf (c :: (before ++ first :: tail)) = true := by
      intro hpart
      rw [ isPrefixOf_iff_prefix, cons_prefix_cons] at hpart
      exact h.1 hpart.1
    rw [cons_append, replaceFrom, if_neg hnot, ih h.2, cons_append]

/-! ## Aware times -/

/-- A `datetime` with a time zone: what its clock shows, in microseconds from the start of year 1,
and its offset from UTC, which is less than a day. -/
structure AwareDatetime where
  clock : Nat
  utcoffset : Int
  clock_lt : clock < datetimeEnd
  utcoffset_bounds : -86400000000 < utcoffset ∧ utcoffset < 86400000000

/-- The instant: the clock of UTC, in and out of the range of `datetime`. -/
def AwareDatetime.instant (value : AwareDatetime) : Int := value.clock - value.utcoffset

/-- `value.astimezone(timezone.utc)`, as the clock of UTC; `none` is an `OverflowError`. -/
def AwareDatetime.astimezoneUtc (value : AwareDatetime) : Option Nat :=
  if 0 ≤ value.instant ∧ value.instant < datetimeEnd then some value.instant.toNat else none

/-- `isoformat(timespec="microseconds")` in UTC. -/
def isoformatMicroseconds (t : Nat) : List Char := timestampBody t ++ "+00:00".toList

/-- `_timestamp`; `none` is an `OverflowError`. -/
def storeTimestamp (value : AwareDatetime) : Option String :=
  value.astimezoneUtc.map fun t =>
    String.ofList (replace (isoformatMicroseconds t) "+00:00".toList "Z".toList)

structure JobStoreError where
  code : String
  message : String
  deriving DecidableEq

def persistedStateInvalid : JobStoreError :=
  ⟨"job_store_persisted_state_invalid", "Persisted job-store state is invalid."⟩

/-- `_parse_timestamp`, with the clock of UTC for a `datetime`. -/
def parseTimestamp [IsoReader] : Option PyText → Except JobStoreError (Option Nat)
  | none => .ok none
  | some value =>
    if value.getLast? ≠ some 90 then .error persistedStateInvalid
    else
      match IsoReader.fromIsoFormat (withOffset value) with
      | none => .error persistedStateInvalid
      | some parsed => .ok (some parsed)

/-! ## Order and round trip -/

theorem plus_not_mem_timestampBody (t : Nat) : '+' ∉ timestampBody t := by
  have hdigits : ∀ width n, '+' ∉ digits width n := by
    intro width
    induction width with
    | zero => intro n hmem; cases hmem
    | succ width ih =>
      intro n hmem
      rw [digits, mem_append, mem_singleton] at hmem
      rcases hmem with hmem | hmem
      · exact ih _ hmem
      · have hall : ∀ d < 10, '+' ≠ Char.ofNat (48 + d) := by decide
        exact hall (n % 10) (Nat.mod_lt n (by decide)) hmem
  unfold timestampBody
  simp [hdigits]

theorem replace_isoformatMicroseconds (t : Nat) :
    String.ofList (replace (isoformatMicroseconds t) "+00:00".toList "Z".toList) = timestamp t := by
  have hreplaced : replace (timestampBody t ++ '+' :: "00:00".toList) ('+' :: "00:00".toList)
      "Z".toList = timestampBody t ++ "Z".toList :=
    replace_append _ (plus_not_mem_timestampBody t)
  exact congrArg String.ofList hreplaced

theorem astimezoneUtc_eq_some {value : AwareDatetime} {t : Nat} :
    value.astimezoneUtc = some t ↔ (t : Int) = value.instant ∧ t < datetimeEnd := by
  unfold AwareDatetime.astimezoneUtc
  generalize value.instant = instant
  generalize datetimeEnd = bound
  by_cases hrange : 0 ≤ instant ∧ instant < bound
  · rw [if_pos hrange, Option.some.injEq]
    omega
  · rw [if_neg hrange]
    constructor
    · intro h
      cases h
    · omega

theorem storeTimestamp_eq_some {value : AwareDatetime} {text : String} :
    storeTimestamp value = some text ↔
      ∃ t : Nat, (t : Int) = value.instant ∧ t < datetimeEnd ∧ text = timestamp t := by
  unfold storeTimestamp
  rw [Option.map_eq_some_iff]
  constructor
  · rintro ⟨t, ht, rfl⟩
    obtain ⟨hinstant, hlt⟩ := astimezoneUtc_eq_some.mp ht
    exact ⟨t, hinstant, hlt, replace_isoformatMicroseconds t⟩
  · rintro ⟨t, hinstant, hlt, rfl⟩
    exact ⟨t, astimezoneUtc_eq_some.mpr ⟨hinstant, hlt⟩, replace_isoformatMicroseconds t⟩

theorem parseTimestamp_timestamp [IsoReader] (laws : IsoLaws) {t : Nat} (h : t < datetimeEnd) :
    parseTimestamp (some (ofString (timestamp t))) = .ok (some t) := by
  have hzone : (ofString (timestamp t)).getLast? = some 90 := getLast_timestampText t
  have hread : IsoReader.fromIsoFormat (withOffset (ofString (timestamp t))) = some t :=
    laws.fromIsoFormat_isoFormat t h
  unfold parseTimestamp
  dsimp only
  rw [if_neg (not_not.mpr hzone), hread]

/--
**The order of the texts is the order of the instants, and a text is read as its instant.**

A time has a text exactly if UTC has a date for it.
-/
theorem timestamp_order [IsoReader] (laws : IsoLaws) (a b : AwareDatetime) :
    ((∃ text, storeTimestamp a = some text) ↔ 0 ≤ a.instant ∧ a.instant < datetimeEnd) ∧
    ∀ text other, storeTimestamp a = some text → storeTimestamp b = some other →
      (text < other ↔ a.instant < b.instant) ∧
      ∃ parsed : Nat, parseTimestamp (some (ofString text)) = .ok (some parsed) ∧
        a.astimezoneUtc = some parsed ∧ (parsed : Int) = a.instant := by
  constructor
  · constructor
    · rintro ⟨text, htext⟩
      obtain ⟨t, hinstant, hlt, -⟩ := storeTimestamp_eq_some.mp htext
      rw [← hinstant]
      exact ⟨Int.natCast_nonneg t, Int.ofNat_lt.mpr hlt⟩
    · rintro ⟨hlow, hhigh⟩
      have hinstant : (a.instant.toNat : Int) = a.instant := Int.toNat_of_nonneg hlow
      rw [← hinstant] at hhigh
      exact ⟨_, storeTimestamp_eq_some.mpr
        ⟨a.instant.toNat, hinstant, Int.ofNat_lt.mp hhigh, rfl⟩⟩
  · intro text other htext hother
    obtain ⟨t, ht, htlt, rfl⟩ := storeTimestamp_eq_some.mp htext
    obtain ⟨u, hu, hult, rfl⟩ := storeTimestamp_eq_some.mp hother
    refine ⟨?_, t, parseTimestamp_timestamp laws htlt, astimezoneUtc_eq_some.mpr ⟨ht, htlt⟩, ht⟩
    rw [timestamp_lt_iff htlt hult, ← ht, ← hu, Int.ofNat_lt]

/-! ## Times at both ends of the calendar -/

def leapMorning : AwareDatetime where
  clock := 738944 * 86400000000 + 5400000000 + 7
  utcoffset := 9000000000
  clock_lt := by decide
  utcoffset_bounds := by decide

def leapMidnight : AwareDatetime where
  clock := 738944 * 86400000000
  utcoffset := 0
  clock_lt := by decide
  utcoffset_bounds := by decide

def firstMidnight : AwareDatetime where
  clock := 0
  utcoffset := 3600000000
  clock_lt := by decide
  utcoffset_bounds := by decide

theorem timestamp_order_leap :
    letI := isoReader
    "2024-02-28T23:00:00.000007Z" < "2024-02-29T00:00:00.000000Z" ∧
      parseTimestamp (some (ofString "2024-02-28T23:00:00.000007Z")) =
        .ok (some (738943 * 86400000000 + 82800000007)) := by
  let _ := isoReader
  obtain ⟨-, htexts⟩ := timestamp_order isoReader_laws leapMorning leapMidnight
  obtain ⟨horder, parsed, hparsed, -, hinstant⟩ := htexts "2024-02-28T23:00:00.000007Z"
    "2024-02-29T00:00:00.000000Z" (by decide) (by decide)
  refine ⟨horder.mpr (by decide), ?_⟩
  have hnumber : parsed = 738943 * 86400000000 + 82800000007 := by
    have hleap : leapMorning.instant = 738943 * 86400000000 + 82800000007 := by decide
    omega
  rw [hparsed, hnumber]

/-- A time whose UTC date would be in year zero has no text, so its order cannot be read off texts. -/
theorem firstMidnight_without_text :
    storeTimestamp firstMidnight = none ∧ firstMidnight.instant < leapMidnight.instant ∧
      ¬∃ text other, storeTimestamp firstMidnight = some text ∧
        storeTimestamp leapMidnight = some other ∧ text < other := by
  have hnone : storeTimestamp firstMidnight = none := by decide
  refine ⟨hnone, by decide, ?_⟩
  rintro ⟨text, other, htext, -⟩
  rw [hnone] at htext
  cases htext

end AwareTimes

end WebGuard
