import WebGuard.Contracts.FindingReload

/-!
# Fingerprints of findings

The payload is ASCII, so of a text it keeps the code units: a character outside the basic plane and
the two surrogates that spell it are written alike.
-/

namespace WebGuard.FindingContract

open PyJson UrlParse StandardLibrary List FindingIdentity

/-- The code units of a text, as UTF-16 has them. -/
def units (text : PyText) : List Nat := text.flatMap Mode.ascii.units

/-- Identities whose texts have the same code units. -/
structure SameUnits (i j : FindingIdentity) : Prop where
  ruleId : units i.ruleId = units j.ruleId
  asset : units i.asset = units j.asset
  path : units i.path = units j.path
  method : units i.method = units j.method
  parameter : i.parameter.map units = j.parameter.map units

/-- An identity that was made by the constructor; a text has the code points that there are. -/
structure StoredIdentity [LowerTable] [StandardLibrary] [UnicodeTables] (identity : FindingIdentity) :
    Prop where
  made : ∃ raw : FindingIdentity, raw.postInit = .ok identity
  codePoints : ∀ text ∈ identity.texts, text.all (· < 0x110000) = true

/-- The members of the payload, in the order of their keys. -/
def FindingIdentity.sortedPayload (identity : FindingIdentity) : List (PyText × PyText) :=
  [(ofString "asset", identity.asset), (ofString "fingerprint_version", ofString "1"),
    (ofString "method", identity.method), (ofString "parameter", identity.parameter.getD []),
    (ofString "path", identity.path), (ofString "rule_id", identity.ruleId)]

def payloadKeys : List PyText :=
  [ofString "asset", ofString "fingerprint_version", ofString "method", ofString "parameter",
    ofString "path", ofString "rule_id"]

theorem payloadKeys_sorted : payloadKeys.Pairwise (· ≤ ·) := by decide

theorem payloadKeys_nodup : payloadKeys.Nodup := by decide

section

variable {φ : Type}

theorem sortKeys_payloadDict (identity : FindingIdentity) :
    sortKeys (.obj (identity.payloadDict (φ := φ))) = .obj (textMembers identity.sortedPayload) := by
  have hkeys : (textMembers (φ := φ) identity.sortedPayload).map Prod.fst = payloadKeys := rfl
  have hdict : sortMembers (identity.payloadDict (φ := φ)) = identity.payloadDict := rfl
  have hdictKeys : ((identity.payloadDict (φ := φ)).map Prod.fst).Nodup := by
    have h : (identity.payloadDict (φ := φ)).map Prod.fst
        = [ofString "fingerprint_version", ofString "rule_id", ofString "asset", ofString "path",
          ofString "method", ofString "parameter"] := rfl
    rw [h]
    decide
  have hperm : (identity.payloadDict (φ := φ)).Perm (textMembers identity.sortedPayload) := by
    refine (perm_ext_iff_of_nodup hdictKeys.of_map (hkeys ▸ payloadKeys_nodup).of_map).mpr ?_
    intro member
    simp only [payloadDict, sortedPayload, textMembers,
      map_cons, map_nil, mem_cons, not_mem_nil, or_false]
    tauto
  have hsorted : (textMembers (φ := φ) identity.sortedPayload).Pairwise fun a b => a.1 ≤ b.1 := by
    have h := payloadKeys_sorted
    rw [← hkeys, pairwise_map] at h
    exact h
  rw [sortKeys, hdict, byKey_eq_of_perm hdictKeys hperm, byKey_of_pairwise hsorted]

end

section

variable {φ : Type} [PyFloat φ] [LowerTable] [StandardLibrary] [UnicodeTables]

variable {identity : FindingIdentity}

omit [PyFloat φ] in
theorem StoredIdentity.parameter_ne (h : StoredIdentity identity) :
    identity.parameter ≠ some [] := by
  intro hparameter
  obtain ⟨raw, hraw⟩ := h.made
  obtain ⟨-, -, -, -, hfield⟩ := identity_postInit_eq_ok.mp hraw
  rw [hparameter] at hfield
  cases hvalue : raw.parameter with
  | none =>
    rw [hvalue] at hfield
    cases hfield
  | some value =>
    rw [hvalue] at hfield
    cases hbounded : boundedText value "parameter" 512 with
    | error e => simp [optionalBounded, hbounded, Except.map] at hfield
    | ok stored =>
      simp only [optionalBounded, hbounded, Except.map, Except.ok.injEq, Option.some.injEq]
        at hfield
      exact (boundedText_eq_ok.mp hbounded).2.1.nonempty hfield

omit [PyFloat φ] in
theorem StoredIdentity.texts_sortedPayload (h : StoredIdentity identity) :
    ∀ member ∈ identity.sortedPayload, member.2.all (· < 0x110000) = true := by
  have htext : ∀ text ∈ identity.texts, text.all (· < 0x110000) = true := h.codePoints
  simp only [texts, forall_mem_append, forall_mem_cons] at htext
  obtain ⟨⟨hrule, hasset, hpath, hmethod, -⟩, hparameter⟩ := htext
  simp only [sortedPayload, forall_mem_cons]
  refine ⟨hasset, by decide, hmethod, ?_, hpath, hrule, by simp⟩
  cases hvalue : identity.parameter with
  | none => rfl
  | some value => exact hparameter value (by simp [hvalue])

omit [PyFloat φ] [LowerTable] [StandardLibrary] [UnicodeTables] in
theorem units_eq_nil {text : PyText} : units text = [] ↔ text = [] := by
  cases text with
  | nil => simp [units]
  | cons n rest =>
    have hne : Mode.ascii.units n ≠ [] := by
      rw [Mode.units]
      split <;> simp
    simp [units, hne]

omit [PyFloat φ] [LowerTable] [StandardLibrary] [UnicodeTables] in
theorem units_getD {a b : Option PyText} (ha : a ≠ some []) (hb : b ≠ some []) :
    units (a.getD []) = units (b.getD []) ↔ a.map units = b.map units := by
  have hnil : units [] = [] := rfl
  cases a with
  | none =>
    cases b with
    | none => simp
    | some b => simpa [hnil, eq_comm (a := []), units_eq_nil] using hb
  | some a =>
    cases b with
    | none => simpa [hnil, units_eq_nil] using ha
    | some b => simp

theorem payload_eq_iff {i j : FindingIdentity} (hi : StoredIdentity i) (hj : StoredIdentity j) :
    i.payload φ = j.payload φ ↔ SameUnits i j := by
  have hkeys : i.sortedPayload.map Prod.fst = j.sortedPayload.map Prod.fst := rfl
  have hrender := render_texts (φ := φ) hkeys hi.texts_sortedPayload hj.texts_sortedPayload
  unfold payload
  rw [sortKeys_payloadDict, sortKeys_payloadDict, hrender]
  have hparameter := units_getD hi.parameter_ne hj.parameter_ne
  simp only [memberUnits, sortedPayload, map_cons, map_nil,
    cons.injEq, and_true, true_and]
  constructor
  · rintro ⟨hasset, hmethod, hvalue, hpath, hrule⟩
    exact ⟨hrule, hasset, hpath, hmethod, hparameter.mp hvalue⟩
  · rintro ⟨hrule, hasset, hpath, hmethod, hvalue⟩
    exact ⟨hasset, hmethod, hparameter.mpr hvalue, hpath, hrule⟩

end

end WebGuard.FindingContract
