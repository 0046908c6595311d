import WebGuard.Lib.JsonCanonical

/-!
# A document is one line

`json.dumps` with `ensure_ascii` and no indentation writes printable ASCII only: what a text holds
beside it, line breaks included, is an escape.
-/

namespace PyJson

open List Bool

/-- Every character is from the space to the tilde. -/
def Printable (text : List Char) : Prop := ∀ c ∈ text, 32 ≤ c.toNat ∧ c.toNat ≤ 126

variable {text : List Char}

theorem printable_cons {c : Char} :
    Printable (c :: text) ↔ (32 ≤ c.toNat ∧ c.toNat ≤ 126) ∧ Printable text :=
  forall_mem_cons

theorem printable_append {behind : List Char} :
    Printable (text ++ behind) ↔ Printable text ∧ Printable behind := forall_mem_append

theorem printable_of_all (h : (text.all fun c => 32 ≤ c.toNat && c.toNat ≤ 126) = true) :
    Printable text := by
  simpa [Printable] using h

/-! ## Texts -/

theorem unicodeEscape_printable (n : Nat) : Printable (unicodeEscape n) := by
  have hhex : ∀ d < 16, 32 ≤ (hexDigit d).toNat ∧ (hexDigit d).toNat ≤ 126 := by decide
  have hdigit : ∀ m, 32 ≤ (hexDigit (m % 16)).toNat ∧ (hexDigit (m % 16)).toNat ≤ 126 :=
    fun m => hhex _ (Nat.mod_lt m (by decide))
  unfold unicodeEscape
  simp only [printable_cons, hdigit]
  exact ⟨by decide, by decide, ⟨trivial, trivial⟩, ⟨trivial, trivial⟩, ⟨trivial, trivial⟩,
    ⟨trivial, trivial⟩, by simp [Printable]⟩

theorem escapeUnit_printable (n : Nat) : Printable (escapeUnit .ascii n) := by
  have hshort : ∀ c : Char, 32 ≤ c.toNat → c.toNat ≤ 126 → Printable ['\\', c] :=
    fun c hlow hhigh => printable_cons.mpr
      ⟨by decide, printable_cons.mpr ⟨⟨hlow, hhigh⟩, by simp [Printable]⟩⟩
  unfold escapeUnit
  split_ifs with hverbatim
  · simp only [Mode.verbatim, and_eq_true, decide_eq_true_eq] at hverbatim
    have hchar : ∀ m ≤ 126, 32 ≤ m → 32 ≤ (Char.ofNat m).toNat ∧ (Char.ofNat m).toNat ≤ 126 := by
      decide
    exact printable_cons.mpr
      ⟨hchar n hverbatim.1.1.2 hverbatim.1.1.1, by simp [Printable]⟩
  all_goals first
    | exact hshort _ (by decide) (by decide)
    | exact unicodeEscape_printable n

theorem renderText_printable (text : PyText) : Printable (renderText .ascii text) := by
  rw [renderText, cons_append, printable_cons, printable_append]
  refine ⟨by decide, fun c hc => ?_, printable_of_all (by decide)⟩
  obtain ⟨n, -, hn⟩ := mem_flatMap.mp hc
  exact escapeUnit_printable n c hn

/-! ## Numbers -/

theorem printable_digits {digits : List Char} (h : ∀ c ∈ digits, isDigit c = true) :
    Printable digits := by
  intro c hc
  have hdigit := h c hc
  simp only [isDigit, and_eq_true, decide_eq_true_eq, Char.le_def,
    UInt32.le_iff_toNat_le] at hdigit
  have hlow : 48 ≤ c.toNat := hdigit.1
  have hhigh : c.toNat ≤ 57 := hdigit.2
  omega

theorem IsInteger.printable (h : IsInteger text) : Printable text := by
  obtain ⟨sign, c, cs, rfl, hsign, hc, -, hcs⟩ := h
  have hdigits := printable_digits (forall_mem_cons.mpr ⟨hc, hcs⟩)
  obtain rfl | rfl := hsign
  · exact hdigits
  · exact printable_cons.mpr ⟨by decide, hdigits⟩

theorem IsFraction.printable (h : IsFraction text) : Printable text := by
  obtain rfl | ⟨c, cs, rfl, hc, hcs⟩ := h
  · simp [Printable]
  · exact printable_cons.mpr
      ⟨by decide, printable_digits (forall_mem_cons.mpr ⟨hc, hcs⟩)⟩

theorem IsExponent.printable (h : IsExponent text) : Printable text := by
  obtain rfl | ⟨sign, c, cs, rfl, hsign, hc, hcs⟩ := h
  · simp [Printable]
  · have hdigits := printable_digits (forall_mem_cons.mpr ⟨hc, hcs⟩)
    refine printable_cons.mpr ⟨by decide, printable_append.mpr ⟨?_, hdigits⟩⟩
    obtain rfl | rfl | rfl := hsign
    · simp [Printable]
    · exact printable_of_all (by decide)
    · exact printable_of_all (by decide)

/-! ## Documents -/

section

variable {φ : Type} [PyFloat φ]

theorem repr_printable (laws : FloatLaws φ) {x : φ} (h : PyFloat.isFinite x = true) :
    Printable (PyFloat.repr x) := by
  obtain ⟨integer, fraction, exponent, hrepr, hinteger, hfraction, hexponent, -⟩ :=
    laws.repr_text x h
  rw [hrepr]
  exact printable_append.mpr
    ⟨hinteger.printable, printable_append.mpr ⟨hfraction.printable, hexponent.printable⟩⟩

mutual

/-- The characters of a document. -/
theorem render_printable (laws : FloatLaws φ) : ∀ value : Json PyText φ,
    value.all (fun _ => true) PyFloat.isFinite = true → Printable (render .ascii value)
  | .null, _ => by
    rw [render]
    exact printable_of_all (by decide)
  | .bool true, _ => by
    rw [render]
    exact printable_of_all (by decide)
  | .bool false, _ => by
    rw [render]
    exact printable_of_all (by decide)
  | .int n, _ => (isInteger_renderInt n).printable
  | .float _, h => repr_printable laws h
  | .str s, _ => renderText_printable s
  | .arr [], _ => by
    rw [render, renderItems]
    exact printable_of_all (by decide)
  | .arr (item :: rest), h => by
    rw [Json.all, allItems, and_eq_true] at h
    rw [render, renderItems, printable_cons, printable_append]
    exact ⟨by decide, render_printable laws item h.1, renderMoreItems_printable laws rest h.2⟩
  | .obj [], _ => by
    rw [render, renderMembers]
    exact printable_of_all (by decide)
  | .obj ((key, value) :: rest), h => by
    rw [Json.all, allMembers, and_eq_true, and_eq_true] at h
    rw [render, renderMembers]
    simp only [append_assoc, cons_append, printable_cons, printable_append]
    exact ⟨by decide, renderText_printable key, by decide, render_printable laws value h.1.2,
      renderMoreMembers_printable laws rest h.2⟩

theorem renderMoreItems_printable (laws : FloatLaws φ) : ∀ items : List (Json PyText φ),
    allItems (fun _ => true) PyFloat.isFinite items = true →
      Printable (renderMoreItems .ascii items)
  | [], _ => by
    rw [renderMoreItems]
    exact printable_of_all (by decide)
  | item :: rest, h => by
    rw [allItems, and_eq_true] at h
    rw [renderMoreItems, cons_append, printable_cons, printable_append]
    exact ⟨by decide, render_printable laws item h.1, renderMoreItems_printable laws rest h.2⟩

theorem renderMoreMembers_printable (laws : FloatLaws φ) :
    ∀ members : List (PyText × Json PyText φ),
    allMembers (fun _ => true) PyFloat.isFinite members = true →
      Printable (renderMoreMembers .ascii members)
  | [], _ => by
    rw [renderMoreMembers]
    exact printable_of_all (by decide)
  | (key, value) :: rest, h => by
    rw [allMembers, and_eq_true, and_eq_true] at h
    rw [renderMoreMembers]
    simp only [append_assoc, cons_append, printable_cons, printable_append]
    exact ⟨by decide, renderText_printable key, by decide, render_printable laws value h.1.2,
      renderMoreMembers_printable laws rest h.2⟩

end

end

end PyJson
