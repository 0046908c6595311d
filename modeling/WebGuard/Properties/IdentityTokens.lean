import Mathlib.Data.List.Nodup
import WebGuard.Identity.Tokens

/-!
# An identity token is used once

`consume_identity_token` looks at `used_at` when it reads the row, and not when it writes it: the
`UPDATE` names the row by its identifier. Two consumptions that have both read the row unused both
succeed (`identity_token_used_twice`), on SQLite as on PostgreSQL.

`UpdatesUnused` is the condition that rules it out: at its `UPDATE` a consumption meets the row
unused. Under it a token is consumed at most once (`identity_tokens_single_use`), whatever else is
created, invalidated or given up meanwhile.
-/

namespace WebGuard

open Mvcc List

/-- A row that was used stays used. -/
def StaysUsed (row row' : IdentityTokenRow) : Prop :=
  row.usedAt.isSome = true → row'.usedAt.isSome = true

theorem staysUsed_use (now : Nat) (row : IdentityTokenRow) : StaysUsed row (row.use now) :=
  fun _ => rfl

/-- The row that a token names. -/
def tokenKey (token : String) : Option String :=
  (parsePrefixedSecret token identityTokenPrefix "identity_token_invalid").toOption.map Prod.fst

namespace TokenDesk

variable {T : Type} [DecidableEq T]

/-- At its `UPDATE` a consumption meets the row unused. -/
def UpdatesUnused (s : TokenDesk T) : TokenInput T → Prop
  | .turn t => ∀ k ∈ (s.session t).pendingUse, ∀ row ∈ s.db.view t k, row.usedAt = none
  | _ => True

instance (s : TokenDesk T) : (input : TokenInput T) → Decidable (s.UpdatesUnused input)
  | .turn t => inferInstanceAs
    (Decidable (∀ k ∈ (s.session t).pendingUse, ∀ row ∈ s.db.view t k, row.usedAt = none))
  | .create .. => isTrue trivial
  | .consume .. => isTrue trivial
  | .invalidate .. => isTrue trivial
  | .abort _ => isTrue trivial

/-- How far a consumption has come: its statements, with what they are about to find or have left. -/
inductive Consuming (s : TokenDesk T) (t : T) (use : TokenUse) :
    List (Update String IdentityTokenRow) → Prop where
  | checked {k : String} {now : Nat} {row : IdentityTokenRow} (hkey : tokenKey use.token = some k)
      (hrow : s.db.committed k = some row) : Consuming s t use [consumeStatement k now]
  | written {k : String} {row new : IdentityTokenRow} (hkey : tokenKey use.token = some k)
      (hrow : s.db.committed k = some row) (hunused : row.usedAt = none)
      (hwrote : s.db.Wrote t k new) (hused : new.usedAt.isSome = true) : Consuming s t use []

/-- What holds of the desk in every run whose consumptions meet their rows unused. -/
structure SingleUse (s : TokenDesk T) : Prop where
  versions : s.db.Follows StaysUsed
  /-- Every statement under way marks its row as used. -/
  marks : ∀ t statements use, s.session t = .writing statements use →
    ∀ u ∈ statements, ∃ now, u.set = IdentityTokenRow.use now
  calls : ∀ t statements use, s.session t = .writing statements (some use) →
    Consuming s t use statements
  used : ∀ use ∈ s.consumed, ∃ k row, tokenKey use.token = some k ∧
    s.db.committed k = some row ∧ row.usedAt.isSome = true
  once : (s.consumed.map fun use => tokenKey use.token).Nodup

variable {s : TokenDesk T} {t : T}

theorem session_enter_self (s : TokenDesk T) (t : T) (session : TokenSession) :
    (s.enter t session).session t = session := if_pos rfl

theorem session_enter_other {t' : T} (session : TokenSession) (ht : t' ≠ t) :
    (s.enter t session).session t' = s.session t' := if_neg ht

theorem singleUse_empty : (empty : TokenDesk T).SingleUse where
  versions := Database.follows_empty
  marks := by
    intro t statements use h
    cases h
  calls := by
    intro t statements use h
    cases h
  used := by
    intro use h
    cases h
  once := nodup_nil

theorem Consuming.keep {s' : TokenDesk T} {use : TokenUse}
    {statements : List (Update String IdentityTokenRow)} (h : s.Consuming t use statements)
    (hcommitted : ∀ k row, s.db.committed k = some row → ∃ row', s'.db.committed k = some row')
    (hwrote : ∀ k row new, s.db.Wrote t k new → s.db.committed k = some row →
      s'.db.Wrote t k new ∧ s'.db.committed k = some row) :
    s'.Consuming t use statements := by
  cases h with
  | checked hkey hrow =>
    obtain ⟨row', hrow'⟩ := hcommitted _ _ hrow
    exact .checked hkey hrow'
  | written hkey hrow hunused hnew hused =>
    obtain ⟨hnew', hrow'⟩ := hwrote _ _ _ hnew hrow
    exact .written hkey hrow' hunused hnew' hused

variable {session : TokenSession}

theorem SingleUse.keep (h : s.SingleUse) {db : Database String IdentityTokenRow T}
    (hversions : db.Follows StaysUsed)
    (hcommitted : ∀ k row, s.db.committed k = some row →
      ∃ row', db.committed k = some row' ∧ StaysUsed row row')
    (hothers : ∀ t' k row new, t' ≠ t → s.db.Wrote t' k new → s.db.committed k = some row →
      db.Wrote t' k new ∧ db.committed k = some row)
    (hmarks : ∀ statements use, session = .writing statements use →
      ∀ u ∈ statements, ∃ now, u.set = IdentityTokenRow.use now)
    (hcall : ∀ statements use, session = .writing statements (some use) →
      ({ s with db := db }.enter t session).Consuming t use statements) :
    ({ s with db := db }.enter t session).SingleUse where
  versions := hversions
  marks := by
    intro t' statements use hsession
    by_cases ht : t' = t
    · subst ht
      rw [session_enter_self] at hsession
      exact hmarks statements use hsession
    · rw [session_enter_other _ ht] at hsession
      exact h.marks t' statements use hsession
  calls := by
    intro t' statements use hsession
    by_cases ht : t' = t
    · subst ht
      rw [session_enter_self] at hsession
      exact hcall statements use hsession
    · rw [session_enter_other _ ht] at hsession
      refine (h.calls t' statements use hsession).keep ?_ ?_
      · intro k row hrow
        obtain ⟨row', hrow', -⟩ := hcommitted k row hrow
        exact ⟨row', hrow'⟩
      · intro k row new hnew hrow
        exact hothers t' k row new ht hnew hrow
  used := by
    intro use hmem
    obtain ⟨k, row, hkey, hrow, hused⟩ := h.used use hmem
    obtain ⟨row', hrow', hstays⟩ := hcommitted k row hrow
    exact ⟨k, row', hkey, hrow', hstays hused⟩
  once := h.once

theorem SingleUse.statement (h : s.SingleUse) {u : Update String IdentityTokenRow}
    {rest : List (Update String IdentityTokenRow)} {use : Option TokenUse}
    (hsession : s.session t = .writing (u :: rest) use)
    (havailable : s.db.available t u.key = true) (hcurrent : s.UpdatesUnused (.turn t)) :
    ({ s with db := (s.db.update t u).1 }.enter t (.writing rest use)).SingleUse := by
  have hrefl : ∀ v, StaysUsed v v := fun v hv => hv
  have htrans : ∀ a b c, StaysUsed a b → StaysUsed b c → StaysUsed a c :=
    fun a b c hab hbc ha => hbc (hab ha)
  have hset : ∀ v, u.guard v = true → StaysUsed v (u.set v) := by
    intro v _
    obtain ⟨now, hnow⟩ := h.marks t _ _ hsession u (by simp)
    rw [hnow]
    exact staysUsed_use now v
  refine h.keep (h.versions.update hrefl htrans hset) ?_ ?_ ?_ ?_
  · intro k row hrow
    exact ⟨row, by rwa [Database.committed_update], hrefl row⟩
  · intro t' k row new ht hnew hrow
    exact ⟨Database.wrote_update_other havailable hnew ht, by rwa [Database.committed_update]⟩
  · rintro statements use' ⟨rfl, rfl⟩ v hv
    exact h.marks t _ _ hsession v (mem_cons_of_mem u hv)
  · rintro statements use' ⟨rfl, rfl⟩
    cases h.calls t _ _ hsession with
    | @checked k now row hkey hrow =>
      obtain ⟨seen, hseen⟩ := Database.view_isSome hrow (t := t)
      have hunused : seen.usedAt = none := hcurrent k (by rw [hsession]; rfl) seen hseen
      obtain ⟨row', hrow', hstays⟩ := h.versions.view hrefl hseen
      have hrowUnused : row'.usedAt = none := by
        rw [← Option.not_isSome_iff_eq_none]
        intro hused
        have hboth := hstays hused
        rw [hunused] at hboth
        cases hboth
      have hcommitted : (s.db.update t (consumeStatement k now)).1.committed k = some row' := by
        rwa [Database.committed_update]
      have hwrote : (s.db.update t (consumeStatement k now)).1.Wrote t k (seen.use now) :=
        Database.wrote_update_self (u := consumeStatement k now) hseen rfl
      exact .written hkey hcommitted hrowUnused hwrote rfl

theorem SingleUse.commit (h : s.SingleUse) {use : Option TokenUse}
    (hsession : s.session t = .writing [] use) :
    SingleUse ({ s with db := s.db.commit t, consumed := use.toList ++ s.consumed }.enter t .idle)
    := by
  have hrefl : ∀ v, StaysUsed v v := fun v hv => hv
  have hkept : ({ s with db := s.db.commit t }.enter t .idle).SingleUse := by
    refine h.keep h.versions.commit ?_ ?_ ?_ ?_
    · intro k row hrow
      exact h.versions.committed_commit hrefl hrow
    · intro t' k row new ht hnew hrow
      exact ⟨Database.wrote_released_other rfl hnew ht, (Database.view_of_wrote hnew ht).trans hrow⟩
    · rintro statements use' ⟨⟩
    · rintro statements use' ⟨⟩
  cases use with
  | none => exact hkept
  | some use =>
    cases h.calls t _ _ hsession with
    | @written k row new hkey hrow hunused hwrote hused =>
      refine ⟨hkept.versions, hkept.marks, ?_, ?_, ?_⟩
      · intro t' statements use' hsession'
        exact (hkept.calls t' statements use' hsession').keep (fun _ row hrow => ⟨row, hrow⟩)
          (fun _ _ _ hnew hrow => ⟨hnew, hrow⟩)
      · intro use' hmem
        rcases mem_cons.mp hmem with rfl | hold
        · exact ⟨k, new, hkey, Database.view_of_wrote_self hwrote, hused⟩
        · exact hkept.used use' hold
      · refine nodup_cons.mpr ⟨?_, h.once⟩
        intro hmem
        obtain ⟨use', hmem', hsame⟩ := mem_map.mp hmem
        obtain ⟨k', row', hkey', hrow', hused'⟩ := h.used use' hmem'
        have hk : k' = k := Option.some.inj (hkey'.symm.trans (hsame.trans hkey))
        rw [hk, hrow] at hrow'
        cases hrow'
        rw [hunused] at hused'
        cases hused'

theorem SingleUse.advance (h : s.SingleUse) (hcurrent : s.UpdatesUnused (.turn t)) :
    (s.advance t).SingleUse := by
  unfold TokenDesk.advance
  split
  · exact h
  · next u rest use hsession =>
    split
    · next havailable => exact h.statement hsession havailable hcurrent
    · exact h
  · next use hsession => exact h.commit hsession

theorem UpdatesUnused.advance (h : s.SingleUse) (hcurrent : s.UpdatesUnused (.turn t)) :
    (s.advance t).UpdatesUnused (.turn t) := by
  unfold TokenDesk.advance
  split
  · exact hcurrent
  · next u rest use hsession =>
    split
    · intro k hk
      rw [session_enter_self] at hk
      cases use with
      | none => cases rest <;> cases hk
      | some use =>
        cases h.calls t _ _ hsession
        cases hk
    · exact hcurrent
  · intro k hk
    rw [session_enter_self] at hk
    cases hk

theorem SingleUse.turn (backend : IdentityBackend) (h : s.SingleUse)
    (hcurrent : s.UpdatesUnused (.turn t)) : (s.turn backend t).SingleUse := by
  have hiterate : ∀ n : Nat, ((fun s : TokenDesk T => s.advance t)^[n] s).SingleUse ∧
      ((fun s : TokenDesk T => s.advance t)^[n] s).UpdatesUnused (.turn t) := by
    intro n
    induction n with
    | zero => exact ⟨h, hcurrent⟩
    | succ n ih =>
      rw [Function.iterate_succ_apply']
      exact ⟨ih.1.advance ih.2, ih.2.advance ih.1⟩
  unfold TokenDesk.turn
  split
  · exact (hiterate _).1
  · exact h.advance hcurrent

theorem SingleUse.abort (h : s.SingleUse) : SingleUse ({ s with db := s.db.abort t }.enter t .idle)
    := by
  refine h.keep h.versions.abort ?_ ?_ ?_ ?_
  · intro k row hrow
    exact ⟨row, hrow, fun hused => hused⟩
  · intro t' k row new ht hnew hrow
    exact ⟨Database.wrote_released_other rfl hnew ht, hrow⟩
  · rintro statements use ⟨⟩
  · rintro statements use ⟨⟩

theorem SingleUse.start (h : s.SingleUse)
    (hmarks : ∀ statements use, session = .writing statements use →
      ∀ u ∈ statements, ∃ now, u.set = IdentityTokenRow.use now)
    (hcall : ∀ statements use, session = .writing statements (some use) →
      (s.enter t session).Consuming t use statements) :
    (s.enter t session).SingleUse :=
  h.keep h.versions (fun _ row hrow => ⟨row, hrow, fun hused => hused⟩)
    (fun _ _ _ _ _ hnew hrow => ⟨hnew, hrow⟩) hmarks hcall

theorem SingleUse.create (h : s.SingleUse) (k : String) (row : IdentityTokenRow) :
    SingleUse { s with db := s.db.insert k row } where
  versions := h.versions.insert k row
  marks := h.marks
  calls := by
    intro t statements use hsession
    refine (h.calls t statements use hsession).keep ?_ ?_
    · intro j old hold
      exact ⟨old, Database.committed_insert_of_some hold⟩
    · intro j old new hnew hold
      refine ⟨?_, Database.committed_insert_of_some hold⟩
      rw [Database.wrote_iff] at hnew ⊢
      rwa [Database.lock_insert]
  used := by
    intro use hmem
    obtain ⟨j, old, hkey, hold, hused⟩ := h.used use hmem
    exact ⟨j, old, hkey, Database.committed_insert_of_some hold, hused⟩
  once := h.once

section

variable [SecretHashing] {purpose : IdentityTokenPurpose}

theorem mem_of_checkIdentityToken {row : Option IdentityTokenRow} {secret : String} {now : Nat}
    {checked : IdentityTokenRow}
    (h : checkIdentityToken row secret purpose now = .ok checked) : row = some checked := by
  unfold checkIdentityToken at h
  split at h
  · cases h
  · repeat' split at h
    all_goals cases h
    rfl

theorem SingleUse.consume (h : s.SingleUse) {token : String} {now : Nat}
    (hopen : s.openConsume t token purpose now = .ok session) :
    (s.enter t session).SingleUse := by
  unfold openConsume at hopen
  obtain ⟨⟨tokenId, secret⟩, hparse, hopen⟩ := Atomic.bind_ok hopen
  obtain ⟨row, hcheck, hopen⟩ := Atomic.bind_ok hopen
  cases hopen
  obtain ⟨committed, hcommitted, -⟩ :=
    h.versions.view (fun v hv => hv) (mem_of_checkIdentityToken hcheck)
  refine h.start ?_ ?_
  · rintro statements use ⟨rfl, rfl⟩ u hu
    rw [mem_singleton.mp hu]
    exact ⟨now, rfl⟩
  · rintro statements use ⟨rfl, rfl⟩
    exact .checked (by rw [tokenKey, hparse]; rfl) hcommitted

theorem SingleUse.step (backend : IdentityBackend) (h : s.SingleUse) (input : TokenInput T)
    (hcurrent : s.UpdatesUnused input) : (s.step backend input).SingleUse := by
  cases input with
  | create tokenId secret salt principalId organizationId purpose ttl now => exact h.create _ _
  | consume t token purpose now =>
    simp only [TokenDesk.step]
    split
    · next hopen => exact h.consume hopen
    · exact h
  | invalidate t principalId purpose now =>
    simp only [TokenDesk.step]
    split
    · refine h.start ?_ (by rintro statements use ⟨⟩)
      rintro statements use ⟨rfl, rfl⟩ u hu
      obtain ⟨k, -, rfl⟩ := mem_map.mp hu
      exact ⟨now, rfl⟩
    · exact h
  | turn t => exact h.turn backend hcurrent
  | abort t => exact h.abort

/--
**A token is consumed at most once** in every run whose consumptions meet their rows unused, for
any number of callers, on SQLite and on PostgreSQL.
-/
theorem identity_tokens_single_use (backend : IdentityBackend) {inputs : List (TokenInput T)}
    (hcurrent : Runs.Along (step backend) UpdatesUnused empty inputs) (token : String) :
    ((empty.run backend inputs).consumed.map TokenUse.token).count token ≤ 1 := by
  have h : (empty.run backend inputs).SingleUse :=
    Runs.along_induction (P := SingleUse) (fun s input hs hG => hs.step backend input hG)
      singleUse_empty hcurrent
  refine nodup_iff_count_le_one.mp ?_ token
  refine List.Nodup.of_map tokenKey ?_
  rw [map_map]
  exact h.once

end

end TokenDesk

/-! ## Two consumptions of one token -/

def sampleSecret : String := "Zm9yLXRlc3Rpbmctb25seS1ub3QtYS1zZWNyZXQtMDE"

/-- `scrypt` on one secret and one salt, with what it computes for them. -/
@[reducible] def sampleHashing : SecretHashing where
  hashSecret := fun _ _ =>
    "scrypt$16384$8$1$AAECAwQFBgcICQoLDA0ODw$3gHKZeg074Rh_t_sS3PdY21oIp2mebDzIBzy1PNap9I"
  verifySecret := fun secret encoded => secret = sampleSecret ∧ encoded =
    "scrypt$16384$8$1$AAECAwQFBgcICQoLDA0ODw$3gHKZeg074Rh_t_sS3PdY21oIp2mebDzIBzy1PNap9I"

def sampleTokenId : String := "5f0c9a52-6c1b-4a57-9e0c-0d1f4b8e7a21"

def sampleToken : String := "wgi_" ++ sampleTokenId ++ "_" ++ sampleSecret

def sampleIssue : TokenInput Bool :=
  .create sampleTokenId sampleSecret "AAECAwQFBgcICQoLDA0ODw" "principal" "organization"
    .passwordReset 3600 100

def samplePresent (t : Bool) : TokenInput Bool := .consume t sampleToken .passwordReset 200

def consumedInTurn : List (TokenInput Bool) :=
  [sampleIssue, samplePresent true, .turn true, .turn true, samplePresent false, .turn false]

def consumedSideBySide : List (TokenInput Bool) :=
  [sampleIssue, samplePresent true, samplePresent false, .turn true, .turn true, .turn false,
    .turn false]

/-- One after the other, the second consumption finds the token used. -/
theorem identity_tokens_single_use_in_turn :
    letI := sampleHashing
    ((TokenDesk.empty.run .postgres consumedInTurn).consumed.map TokenUse.token).count sampleToken
      ≤ 1 := by
  let _ := sampleHashing
  exact TokenDesk.identity_tokens_single_use .postgres (by decide) sampleToken

/-- **Two consumptions that overlap both succeed**, on either store. -/
theorem identity_token_used_twice :
    letI := sampleHashing
    ¬ ∃ backend : IdentityBackend, ∀ (inputs : List (TokenInput Bool)) (token : String),
      ((TokenDesk.empty.run backend inputs).consumed.map TokenUse.token).count token ≤ 1 := by
  let _ := sampleHashing
  rintro ⟨backend, h⟩
  have htwice := h consumedSideBySide sampleToken
  revert htwice
  cases backend with
  | sqlite => decide
  | postgres => decide

end WebGuard
