import WebGuard.Contracts.TimestampOrder
import WebGuard.Lib.Json

/-!
# Reading canonical timestamps

The loaders read a timestamp in three steps: its text ends with `Z`, `datetime.fromisoformat` reads
it with that letter replaced by an offset of zero, and the instant has the text as its canonical
text. `datetime.fromisoformat` takes many spellings, more of them with every release, and is a
parameter; the third step leaves only one of them.
-/

namespace WebGuard

open PyJson List Char

/-- The canonical text of an instant, as code points. -/
def timestampText (t : Nat) : PyText := ofString (timestamp t)

/-- A text with its final `Z` replaced: `value[:-1] + "+00:00"`. -/
def withOffset (value : PyText) : PyText := value.dropLast ++ ofString "+00:00"

/-- `datetime.fromisoformat` of a text with an offset: the instant, or nothing for a `ValueError`. -/
class IsoReader where
  fromIsoFormat : PyText → Option Nat

/-- What is documented of it: it reads what `isoformat` writes, and a `datetime` is in range. -/
structure IsoLaws [IsoReader] : Prop where
  fromIsoFormat_isoFormat : ∀ t, t < datetimeEnd →
    IsoReader.fromIsoFormat (withOffset (timestampText t)) = some t
  lt_datetimeEnd : ∀ text t, IsoReader.fromIsoFormat text = some t → t < datetimeEnd

/-- Why a timestamp is refused. -/
inductive TimestampFault where
  | zone
  | unreadable
  | nonCanonical
  deriving DecidableEq

/-- The three steps. -/
def readTimestamp [IsoReader] (value : PyText) : Except TimestampFault Nat :=
  if value.getLast? ≠ some 90 then .error .zone
  else
    match IsoReader.fromIsoFormat (withOffset value) with
    | none => .error .unreadable
    | some t => if timestampText t ≠ value then .error .nonCanonical else .ok t

/-- The characters of a canonical timestamp in front of the `Z`. -/
def timestampBody (t : Nat) : List Char :=
  digits 4 (ord2ymd (t / 86400000000)).1 ++ ['-'] ++ digits 2 (ord2ymd (t / 86400000000)).2.1
    ++ ['-'] ++ digits 2 (ord2ymd (t / 86400000000)).2.2 ++ ['T']
    ++ digits 2 (t % 86400000000 / 1000000 / 3600) ++ [':']
    ++ digits 2 (t % 86400000000 / 1000000 / 60 % 60) ++ [':']
    ++ digits 2 (t % 86400000000 / 1000000 % 60) ++ ['.'] ++ digits 6 (t % 86400000000 % 1000000)

theorem timestampText_eq (t : Nat) :
    timestampText t = (timestampBody t).map toNat ++ [90] := by
  have htimestamp : timestamp t = String.ofList (timestampBody t ++ ['Z']) := rfl
  rw [timestampText, htimestamp, ofString, String.toList_ofList, map_append]
  rfl

theorem getLast_timestampText (t : Nat) : (timestampText t).getLast? = some 90 := by
  rw [timestampText_eq, getLast?_concat]

theorem withOffset_timestampText (t : Nat) :
    withOffset (timestampText t) = (timestampBody t).map toNat ++ ofString "+00:00" := by
  rw [withOffset, timestampText_eq, dropLast_concat]

section

variable [IsoReader]

theorem readTimestamp_timestamp (laws : IsoLaws) {t : Nat} (h : t < datetimeEnd) :
    readTimestamp (timestampText t) = .ok t := by
  unfold readTimestamp
  rw [if_neg (by simp [getLast_timestampText]), laws.fromIsoFormat_isoFormat t h]
  simp

end

/-! ## A reader -/

/-- The number of some decimal digits. -/
def numberOf (text : PyText) : Nat := text.foldl (fun n c => 10 * n + (c - 48)) 0

/-- The number `width` characters wide at a place of a text. -/
def field (text : PyText) (start width : Nat) : Nat := numberOf ((text.drop start).take width)

/-- The instant of a text with the layout of a timestamp. -/
def instantOf (text : PyText) : Nat :=
  ymd2ord (field text 0 4, field text 5 2, field text 8 2) * 86400000000
    + (field text 11 2 * 3600 + field text 14 2 * 60 + field text 17 2) * 1000000 + field text 20 6

/-- A reader of the extended form with microseconds and an offset of zero. -/
@[reducible] def isoReader : IsoReader where
  fromIsoFormat text :=
    if text.length = 32 ∧ instantOf text < datetimeEnd then some (instantOf text) else none

theorem numberOf_digits {width n : Nat} (h : n < 10 ^ width) :
    numberOf ((digits width n).map toNat) = n := by
  induction width generalizing n with
  | zero => simp_all [digits, numberOf]
  | succ width ih =>
    have hlast : ∀ d : Nat, d < 10 → (ofNat (48 + d)).toNat = 48 + d := by decide
    have hrest := ih (n := n / 10) (by rw [Nat.pow_succ] at h; omega)
    unfold numberOf at hrest ⊢
    rw [digits, map_append, foldl_append, hrest]
    simp only [map_cons, map_nil, foldl_cons, foldl_nil]
    rw [hlast _ (by omega)]
    omega

theorem field_append {before after text : PyText} {width n : Nat} (h : n < 10 ^ width)
    (htext : text = before ++ ((digits width n).map toNat ++ after)) :
    field text before.length width = n := by
  have hlength : ((digits width n).map toNat).length = width := by
    rw [length_map, length_digits]
  rw [field, htext, drop_left, take_left' hlength, numberOf_digits h]

/-- The code points of a number of fixed width. -/
def fixed (width n : Nat) : PyText := (digits width n).map toNat

@[simp] theorem length_fixed (width n : Nat) : (fixed width n).length = width := by
  rw [fixed, length_map, length_digits]

theorem withOffset_timestampText_eq (t : Nat) :
    withOffset (timestampText t) =
      fixed 4 (ord2ymd (t / 86400000000)).1 ++ [45]
        ++ fixed 2 (ord2ymd (t / 86400000000)).2.1 ++ [45]
        ++ fixed 2 (ord2ymd (t / 86400000000)).2.2 ++ [84]
        ++ fixed 2 (t % 86400000000 / 1000000 / 3600) ++ [58]
        ++ fixed 2 (t % 86400000000 / 1000000 / 60 % 60) ++ [58]
        ++ fixed 2 (t % 86400000000 / 1000000 % 60) ++ [46]
        ++ fixed 6 (t % 86400000000 % 1000000) ++ ofString "+00:00" := by
  rw [withOffset_timestampText, timestampBody]
  simp only [map_append]
  rfl

theorem fields_of_layout {text tail : PyText} {year month day hour minute second fraction : Nat}
    (htext : text = fixed 4 year ++ [45] ++ fixed 2 month ++ [45] ++ fixed 2 day ++ [84]
      ++ fixed 2 hour ++ [58] ++ fixed 2 minute ++ [58] ++ fixed 2 second ++ [46]
      ++ fixed 6 fraction ++ tail)
    (hyear : year < 10000) (hmonth : month < 100) (hday : day < 100) (hhour : hour < 100)
    (hminute : minute < 100) (hsecond : second < 100) (hfraction : fraction < 1000000) :
    field text 0 4 = year ∧ field text 5 2 = month ∧ field text 8 2 = day
      ∧ field text 11 2 = hour ∧ field text 14 2 = minute ∧ field text 17 2 = second
      ∧ field text 20 6 = fraction := by
  have hfield : ∀ (before : PyText) (width n start : Nat), n < 10 ^ width →
      before.length = start → before ++ fixed width n <+: text → field text start width = n := by
    intro before width n start hn hstart hbefore
    obtain ⟨after, hafter⟩ := hbefore
    rw [← hstart]
    exact field_append hn (by rw [← hafter, append_assoc]; rfl)
  refine ⟨hfield [] 4 year 0 hyear rfl ?_,
    hfield (fixed 4 year ++ [45]) 2 month 5 hmonth (by simp) ?_,
    hfield (fixed 4 year ++ [45] ++ fixed 2 month ++ [45]) 2 day 8 hday (by simp) ?_,
    hfield (fixed 4 year ++ [45] ++ fixed 2 month ++ [45] ++ fixed 2 day ++ [84]) 2 hour 11 hhour
      (by simp) ?_,
    hfield (fixed 4 year ++ [45] ++ fixed 2 month ++ [45] ++ fixed 2 day ++ [84] ++ fixed 2 hour
      ++ [58]) 2 minute 14 hminute (by simp) ?_,
    hfield (fixed 4 year ++ [45] ++ fixed 2 month ++ [45] ++ fixed 2 day ++ [84] ++ fixed 2 hour
      ++ [58] ++ fixed 2 minute ++ [58]) 2 second 17 hsecond (by simp) ?_,
    hfield (fixed 4 year ++ [45] ++ fixed 2 month ++ [45] ++ fixed 2 day ++ [84] ++ fixed 2 hour
      ++ [58] ++ fixed 2 minute ++ [58] ++ fixed 2 second ++ [46]) 6 fraction 20 hfraction
      (by simp) ?_⟩
  all_goals
    rw [htext]
    simp only [append_assoc, nil_append, prefix_append_right_inj,
      prefix_append]

theorem isoReader_laws : @IsoLaws isoReader := by
  let _ := isoReader
  refine ⟨?_, ?_⟩
  · intro t ht
    have hday : t / 86400000000 < 3652059 := by
      unfold datetimeEnd at ht
      omega
    obtain ⟨hyear, hmonth, hdate⟩ := ord2ymd_bounds hday
    have hord := (ord2ymd_spec (t / 86400000000)).2
    have htext := withOffset_timestampText_eq t
    obtain ⟨h0, h5, h8, h11, h14, h17, h20⟩ := fields_of_layout htext hyear hmonth hdate (by omega)
      (by omega) (by omega) (by omega)
    have hlength : (withOffset (timestampText t)).length = 32 := by
      rw [htext]
      simp [ofString]
    have hinstant : instantOf (withOffset (timestampText t)) = t := by
      rw [instantOf, h0, h5, h8, h11, h14, h17, h20, hord]
      omega
    show (if _ ∧ instantOf _ < datetimeEnd then some (instantOf _) else none) = some t
    rw [hinstant, if_pos ⟨hlength, ht⟩]
  · intro text t h
    have hread : (if text.length = 32 ∧ instantOf text < datetimeEnd then some (instantOf text)
      else none) = some t := h
    split at hread
    · rename_i hlt
      cases hread
      exact hlt.2
    · cases hread

end WebGuard
