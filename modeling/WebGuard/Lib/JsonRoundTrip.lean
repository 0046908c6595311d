import WebGuard.Lib.JsonText

/-!
# Reading back documents

* `loads_render` — a document that `render` wrote is read back as the value it was written from.

A value can only be read back if its containers are not nested deeper than the interpreter recurses,
its integers are not longer than the interpreter converts, and each of its texts comes back
(`Fits`).
-/

namespace PyJson

open List

variable {ε φ : Type}

variable [PyFloat φ] {hooks : Hooks ε φ}

/-! ## What fits -/

mutual

/-- A value that can be read back with `depth` containers still to open. -/
def Fits (mode : Mode) (hooks : Hooks ε φ) (depth : Nat) : Json PyText φ → Prop
  | .null => True
  | .bool _ => True
  | .int n => decimalLength n ≤ hooks.maximumDigits
  | .float x => PyFloat.isFinite x = true
  | .str s => readsBack mode s = true
  | .arr items => depth ≠ 0 ∧ FitsItems mode hooks (depth - 1) items
  | .obj members =>
    depth ≠ 0 ∧ (members.map Prod.fst).Nodup ∧ FitsMembers mode hooks (depth - 1) members

def FitsItems (mode : Mode) (hooks : Hooks ε φ) (depth : Nat) : List (Json PyText φ) → Prop
  | [] => True
  | item :: rest => Fits mode hooks depth item ∧ FitsItems mode hooks depth rest

def FitsMembers (mode : Mode) (hooks : Hooks ε φ) (depth : Nat) :
    List (PyText × Json PyText φ) → Prop
  | [] => True
  | (key, value) :: rest =>
    readsBack mode key = true ∧ Fits mode hooks depth value ∧ FitsMembers mode hooks depth rest

end

/-- What stands behind a value in a document. -/
def Closes (rest : List Char) : Prop := ∀ c ∈ rest.head?, c = ',' ∨ c = ']' ∨ c = '\x7d'

theorem Closes.endsNumber {rest : List Char} (h : Closes rest) : EndsNumber rest := by
  intro c hc
  rcases h c hc with rfl | rfl | rfl <;> decide

/-- How a written value begins. -/
def Begins (text : List Char) : Prop :=
  ∃ c cs, text = c :: cs ∧ isWhitespace c = false ∧ c ≠ ']' ∧ c ≠ Char.ofNat 0xFEFF

variable {text : List Char}

theorem Begins.skipWhitespace (h : Begins text) (rest : List Char) :
    skipWhitespace (text ++ rest) = text ++ rest := by
  obtain ⟨c, cs, rfl, hc, -, -⟩ := h
  rw [cons_append, PyJson.skipWhitespace, dropWhile_cons_of_neg (by simp [hc])]

theorem Begins.after_bracket (h : Begins text) (rest : List Char) :
    after [']'] (text ++ rest) = none := by
  obtain ⟨c, cs, rfl, -, hc, -⟩ := h
  simp [after, Ne.symm hc]

theorem IsInteger.begins (h : IsInteger text) (rest : List Char) :
    Begins (text ++ rest) := by
  obtain ⟨sign, c, cs, rfl, hsign, hc, -, -⟩ := h
  rcases hsign with rfl | rfl
  · refine ⟨c, cs ++ rest, rfl, ?_, ne_of_isDigit hc rfl, ne_of_isDigit hc rfl⟩
    have hspace : c ≠ ' ' := ne_of_isDigit hc rfl
    have htab : c ≠ '\t' := ne_of_isDigit hc rfl
    have hline : c ≠ '\n' := ne_of_isDigit hc rfl
    have hreturn : c ≠ '\r' := ne_of_isDigit hc rfl
    simp [isWhitespace, hspace, htab, hline, hreturn]
  · exact ⟨'-', c :: cs ++ rest, rfl, rfl, by decide, by decide⟩

/-! ## Values -/

-- The equations of the three scanners, by name.
alias scanOnce_eq := scanOnce.eq_def
alias scanItems_eq := scanItems.eq_def
alias scanMembers_eq := scanMembers.eq_def

theorem scanOnce_number {text rest : List Char} (h : IsInteger text) (fuel depth : Nat) :
    scanOnce hooks (fuel + 1) depth (text ++ rest) = scanNumber hooks (text ++ rest) := by
  obtain ⟨sign, c, cs, rfl, hsign, hc, -, -⟩ := h
  have hne : ∀ d, isDigit d = false → c ≠ d := fun d hd => ne_of_isDigit hc hd
  have hquote := hne '"' rfl
  have hbrace := hne '\x7b' rfl
  have hbracket := hne '[' rfl
  have hn := hne 'n' rfl
  have ht := hne 't' rfl
  have hf := hne 'f' rfl
  have hN := hne 'N' rfl
  have hI := hne 'I' rfl
  have hminus := hne '-' rfl
  rw [scanOnce_eq]
  rcases hsign with rfl | rfl
  · simp [after, hquote, hbrace, hbracket, Ne.symm hn, Ne.symm ht, Ne.symm hf, Ne.symm hN,
      Ne.symm hI, Ne.symm hminus]
  · simp [after, Ne.symm hI]

/-- The hook builds the dictionary, when no key is there twice. -/
def KeepsPairs (hooks : Hooks ε φ) : Prop :=
  ∀ members, (members.map Prod.fst).Nodup → hooks.pairs members = .ok (.obj members)

theorem after_singleton (c : Char) (rest : List Char) : after [c] (c :: rest) = some rest := by
  simp [after]

theorem scanOnce_bracket {body : List Char} {depth : Nat} (hdepth : depth ≠ 0)
    (hskip : skipWhitespace body = body) (hopen : after [']'] body = none) (fuel : Nat) :
    scanOnce hooks (fuel + 1) depth ('[' :: body) = scanItems hooks fuel (depth - 1) [] body := by
  rw [scanOnce_eq]
  simp [hdepth, hskip, hopen]

theorem scanOnce_brace {body : List Char} {depth : Nat} (hdepth : depth ≠ 0) (fuel : Nat) :
    scanOnce hooks (fuel + 1) depth ('\x7b' :: '"' :: body)
      = scanMembers hooks fuel (depth - 1) [] ('"' :: body) := by
  rw [scanOnce_eq]
  simp [hdepth, skipWhitespace, isWhitespace, after]

theorem scanItems_last {fuel depth : Nat} {done : List (Json PyText φ)} {input rest : List Char}
    {item : Json PyText φ} (h : scanOnce hooks fuel depth input = .ok (item, ']' :: rest)) :
    scanItems hooks (fuel + 1) depth done input = .ok (.arr (done ++ [item]), rest) := by
  have hskip : skipWhitespace (']' :: rest) = ']' :: rest := rfl
  rw [scanItems_eq]
  simp [h, hskip]

theorem scanItems_more {fuel depth : Nat} (done : List (Json PyText φ))
    {input behind rest : List Char} {item : Json PyText φ}
    (h : scanOnce hooks fuel depth input = .ok (item, ',' :: behind))
    (hrest : skipWhitespace behind = rest) :
    scanItems hooks (fuel + 1) depth done input
      = scanItems hooks fuel depth (done ++ [item]) rest := by
  have hskip : skipWhitespace (',' :: behind) = ',' :: behind := rfl
  rw [scanItems_eq]
  simp [h, hskip, hrest]

section Member

variable {fuel depth : Nat} (done : List (PyText × Json PyText φ)) {mode : Mode} {key : PyText}
  {front input behind rest : List Char} {value : Json PyText φ}

theorem scanMembers_last (hkey : readsBack mode key = true) (hinput : skipWhitespace front = input)
    (h : scanOnce hooks fuel depth input = .ok (value, '\x7d' :: rest)) :
    scanMembers hooks (fuel + 1) depth done (renderText mode key ++ ':' :: front)
      = hooked (hooks.pairs (done ++ [(key, value)])) rest := by
  obtain ⟨body, hbody, hscan⟩ := scanText_render hkey (':' :: front)
  have hcolon : skipWhitespace (':' :: front) = ':' :: front := rfl
  have hskip : skipWhitespace ('\x7d' :: rest) = '\x7d' :: rest := rfl
  rw [hbody, scanMembers_eq]
  simp [after_singleton, hscan, hcolon, hinput, h, hskip]

theorem scanMembers_more (hkey : readsBack mode key = true) (hinput : skipWhitespace front = input)
    (h : scanOnce hooks fuel depth input = .ok (value, ',' :: behind))
    (hrest : skipWhitespace behind = rest) :
    scanMembers hooks (fuel + 1) depth done (renderText mode key ++ ':' :: front)
      = scanMembers hooks fuel depth (done ++ [(key, value)]) rest := by
  obtain ⟨body, hbody, hscan⟩ := scanText_render hkey (':' :: front)
  have hcolon : skipWhitespace (':' :: front) = ':' :: front := rfl
  have hskip : skipWhitespace (',' :: behind) = ',' :: behind := rfl
  rw [hbody, scanMembers_eq]
  simp [after_singleton, hscan, hcolon, hinput, h, hskip, hrest]

end Member

theorem skipWhitespace_append {gap : List Char} (h : ∀ c ∈ gap, isWhitespace c = true)
    (rest : List Char) : skipWhitespace (gap ++ rest) = skipWhitespace rest := by
  rw [PyJson.skipWhitespace, List.dropWhile_append_of_pos h]
  rfl

mutual

/-- A text of a value. Keys are written in `mode`, and `gap` is behind the commas and colons. -/
inductive Spells (hooks : Hooks ε φ) (mode : Mode) (gap : List Char) :
    Nat → Json PyText φ → List Char → Prop
  | leaf {depth value text} : Begins text →
      (∀ fuel rest, Closes rest →
        scanOnce hooks (fuel + 1) depth (text ++ rest) = .ok (value, rest)) →
      Spells hooks mode gap depth value text
  | arr {depth items text} : depth ≠ 0 → SpellsItems hooks mode gap (depth - 1) items text →
      Spells hooks mode gap depth (.arr items) ('[' :: text)
  | obj {depth members text} : depth ≠ 0 → (members.map Prod.fst).Nodup →
      SpellsMembers hooks mode gap (depth - 1) members text →
      Spells hooks mode gap depth (.obj members) ('\x7b' :: text)

inductive SpellsItems (hooks : Hooks ε φ) (mode : Mode) (gap : List Char) :
    Nat → List (Json PyText φ) → List Char → Prop
  | last {depth item} (text) : Spells hooks mode gap depth item text →
      SpellsItems hooks mode gap depth [item] (text ++ [']'])
  | more {depth} (item items text behind) : Spells hooks mode gap depth item text →
      SpellsItems hooks mode gap depth items behind →
      SpellsItems hooks mode gap depth (item :: items) (text ++ ',' :: (gap ++ behind))

inductive SpellsMembers (hooks : Hooks ε φ) (mode : Mode) (gap : List Char) :
    Nat → List (PyText × Json PyText φ) → List Char → Prop
  | last {depth} (key value text) : readsBack mode key = true →
      Spells hooks mode gap depth value text →
      SpellsMembers hooks mode gap depth [(key, value)]
        (renderText mode key ++ ':' :: (gap ++ (text ++ ['\x7d'])))
  | more {depth} (key value members text behind) : readsBack mode key = true →
      Spells hooks mode gap depth value text → SpellsMembers hooks mode gap depth members behind →
      SpellsMembers hooks mode gap depth ((key, value) :: members)
        (renderText mode key ++ ':' :: (gap ++ (text ++ ',' :: (gap ++ behind))))

end

section Spelled

variable {mode : Mode} {gap : List Char} {text : List Char} {depth : Nat}

theorem Spells.begins {value : Json PyText φ}
    (h : Spells hooks mode gap depth value text) : Begins text := by
  cases h with
  | leaf hbegins => exact hbegins
  | arr => exact ⟨'[', _, rfl, rfl, by decide, by decide⟩
  | obj => exact ⟨'\x7b', _, rfl, rfl, by decide, by decide⟩

theorem SpellsItems.begins {items : List (Json PyText φ)}
    (h : SpellsItems hooks mode gap depth items text) : Begins text := by
  cases h with
  | last text hitem =>
    obtain ⟨c, cs, rfl, hc⟩ := hitem.begins
    exact ⟨c, _, rfl, hc⟩
  | more item items text behind hitem =>
    obtain ⟨c, cs, rfl, hc⟩ := hitem.begins
    exact ⟨c, _, rfl, hc⟩

theorem SpellsMembers.quoted {members : List (PyText × Json PyText φ)}
    (h : SpellsMembers hooks mode gap depth members text) :
    ∃ body, text = '"' :: body := by
  cases h with
  | last => exact ⟨_, rfl⟩
  | more => exact ⟨_, rfl⟩

theorem closes_cons {c : Char} (h : c = ',' ∨ c = ']' ∨ c = '\x7d') (rest : List Char) :
    Closes (c :: rest) := by
  rintro _ ⟨⟩
  exact h

mutual

/-- The induction: what spells a value is scanned as this value. -/
theorem Spells.scanOnce (hgap : ∀ c ∈ gap, isWhitespace c = true) (hpairs : KeepsPairs hooks)
    {depth : Nat} {value : Json PyText φ} {text : List Char}
    (h : Spells hooks mode gap depth value text) {fuel : Nat} {rest : List Char}
    (hrest : Closes rest) (hfuel : text.length ≤ fuel) :
    scanOnce hooks fuel depth (text ++ rest) = .ok (value, rest) := by
  obtain ⟨fuel, rfl⟩ : ∃ n, fuel = n + 1 := by
    obtain ⟨c, cs, rfl, -⟩ := h.begins
    exact ⟨fuel - 1, by rw [length_cons] at hfuel; omega⟩
  match h with
  | .leaf _ hscan => exact hscan fuel rest hrest
  | .arr hdepth hitems =>
    have hscan := SpellsItems.scanItems hgap hpairs hitems [] rest (Nat.le_of_succ_le_succ hfuel)
    rw [cons_append, scanOnce_bracket hdepth (hitems.begins.skipWhitespace rest)
      (hitems.begins.after_bracket rest), hscan, nil_append]
  | .obj hdepth hnodup hmembers =>
    have hscan := SpellsMembers.scanMembers hgap hpairs hmembers [] hnodup rest
      (Nat.le_of_succ_le_succ hfuel)
    obtain ⟨body, rfl⟩ := hmembers.quoted
    rw [cons_append, cons_append, scanOnce_brace hdepth, ← cons_append, hscan]
    rfl

theorem SpellsItems.scanItems (hgap : ∀ c ∈ gap, isWhitespace c = true)
    (hpairs : KeepsPairs hooks) {depth : Nat} {items : List (Json PyText φ)} {text : List Char}
    (h : SpellsItems hooks mode gap depth items text) (done : List (Json PyText φ))
    (rest : List Char) {fuel : Nat} (hfuel : text.length ≤ fuel) :
    scanItems hooks fuel depth done (text ++ rest) = .ok (.arr (done ++ items), rest) := by
  obtain ⟨fuel, rfl⟩ : ∃ n, fuel = n + 1 := by
    obtain ⟨c, cs, rfl, -⟩ := h.begins
    exact ⟨fuel - 1, by rw [length_cons] at hfuel; omega⟩
  match h with
  | .last text hitem =>
    have hlength : text.length ≤ fuel := by simpa using hfuel
    have hscan := Spells.scanOnce hgap hpairs hitem (closes_cons (.inr (.inl rfl)) rest) hlength
    rw [append_assoc]
    exact scanItems_last hscan
  | .more item items text behind hitem hmore =>
    simp only [length_append, length_cons] at hfuel
    have hscan := Spells.scanOnce hgap hpairs hitem (closes_cons (.inl rfl) (gap ++ (behind ++ rest)))
      (show text.length ≤ fuel by omega)
    have hbehind := SpellsItems.scanItems hgap hpairs hmore (done ++ [item]) rest
      (show behind.length ≤ fuel by omega)
    have hskip : skipWhitespace (gap ++ (behind ++ rest)) = behind ++ rest := by
      rw [skipWhitespace_append hgap, hmore.begins.skipWhitespace]
    have hfirst := scanItems_more done hscan hskip
    rw [hbehind] at hfirst
    simpa using hfirst

theorem SpellsMembers.scanMembers (hgap : ∀ c ∈ gap, isWhitespace c = true)
    (hpairs : KeepsPairs hooks) {depth : Nat} {members : List (PyText × Json PyText φ)}
    {text : List Char} (h : SpellsMembers hooks mode gap depth members text)
    (done : List (PyText × Json PyText φ)) (hnodup : ((done ++ members).map Prod.fst).Nodup)
    (rest : List Char) {fuel : Nat} (hfuel : text.length ≤ fuel) :
    scanMembers hooks fuel depth done (text ++ rest) = .ok (.obj (done ++ members), rest) := by
  obtain ⟨fuel, rfl⟩ : ∃ n, fuel = n + 1 := by
    obtain ⟨body, rfl⟩ := h.quoted
    exact ⟨fuel - 1, by rw [length_cons] at hfuel; omega⟩
  match h with
  | .last key value text hkey hvalue =>
    simp only [length_append, length_cons] at hfuel
    have hscan := Spells.scanOnce hgap hpairs hvalue (closes_cons (.inr (.inr rfl)) rest)
      (show text.length ≤ fuel by omega)
    have hskip : skipWhitespace (gap ++ (text ++ '\x7d' :: rest)) = text ++ '\x7d' :: rest := by
      rw [skipWhitespace_append hgap, hvalue.begins.skipWhitespace]
    have hlast := scanMembers_last done hkey hskip hscan
    rw [hpairs _ hnodup] at hlast
    simpa [hooked] using hlast
  | .more key value members text behind hkey hvalue hmore =>
    simp only [length_append, length_cons] at hfuel
    have hscan := Spells.scanOnce hgap hpairs hvalue (closes_cons (.inl rfl) (gap ++ (behind ++ rest)))
      (show text.length ≤ fuel by omega)
    have hbehind := SpellsMembers.scanMembers hgap hpairs hmore (done ++ [(key, value)])
      (by simpa using hnodup) rest (show behind.length ≤ fuel by omega)
    have hskip : skipWhitespace (gap ++ (text ++ ',' :: (gap ++ (behind ++ rest))))
        = text ++ ',' :: (gap ++ (behind ++ rest)) := by
      rw [skipWhitespace_append hgap, hvalue.begins.skipWhitespace]
    have hnext : skipWhitespace (gap ++ (behind ++ rest)) = behind ++ rest := by
      obtain ⟨body, rfl⟩ := hmore.quoted
      rw [skipWhitespace_append hgap]
      rfl
    have hfirst := scanMembers_more done hkey hskip hscan hnext
    rw [hbehind] at hfirst
    simpa using hfirst

end

/-- So a whole document is read as the value it spells. -/
theorem Spells.loads {value : Json PyText φ}
    (h : Spells hooks mode gap hooks.recursionLimit value text)
    (hgap : ∀ c ∈ gap, isWhitespace c = true) (hpairs : KeepsPairs hooks) :
    loads hooks text = .ok value := by
  obtain ⟨c, cs, htext, -, -, hmark⟩ := h.begins
  have hscan : PyJson.scanOnce hooks (2 * text.length + 1) hooks.recursionLimit (text ++ [])
      = .ok (value, []) :=
    h.scanOnce hgap hpairs (by simp [Closes]) (by omega)
  have hskip := h.begins.skipWhitespace []
  rw [append_nil] at hscan hskip
  unfold PyJson.loads
  rw [if_neg, hskip, hscan]
  · rfl
  · rw [htext, head?_cons]
    exact fun h => hmark (Option.some.inj h)

/-! ## Written values -/

variable {depth : Nat}

theorem spells_null : Spells hooks mode gap depth (.null : Json PyText φ) "null".toList :=
  .leaf ⟨_, _, rfl, rfl, by decide, by decide⟩ fun fuel rest _ => by
    rw [scanOnce_eq]
    simp [after]

theorem spells_true : Spells hooks mode gap depth (.bool true : Json PyText φ) "true".toList :=
  .leaf ⟨_, _, rfl, rfl, by decide, by decide⟩ fun fuel rest _ => by
    rw [scanOnce_eq]
    simp [after]

theorem spells_false : Spells hooks mode gap depth (.bool false : Json PyText φ) "false".toList :=
  .leaf ⟨_, _, rfl, rfl, by decide, by decide⟩ fun fuel rest _ => by
    rw [scanOnce_eq]
    simp [after]

theorem spells_int {n : Int} (h : decimalLength n ≤ hooks.maximumDigits) :
    Spells hooks mode gap depth (.int n : Json PyText φ) (renderInt n) := by
  refine .leaf ?_ fun fuel rest hrest => ?_
  · rw [← append_nil (renderInt n)]
    exact (isInteger_renderInt n).begins []
  · rw [scanOnce_number (isInteger_renderInt n), scanNumber_renderInt h hrest.endsNumber]

theorem spells_float (laws : FloatLaws φ) {x : φ} (h : PyFloat.isFinite x = true) :
    Spells hooks mode gap depth (.float x) (PyFloat.repr x) := by
  obtain ⟨integer, fraction, exponent, hrepr, hinteger, -⟩ := laws.repr_text x h
  refine .leaf (hrepr ▸ hinteger.begins _) fun fuel rest hrest => ?_
  have hscan : scanNumber hooks (PyFloat.repr x ++ rest) = .ok (.float x, rest) :=
    scanNumber_repr laws h hrest.endsNumber
  rw [hrepr, append_assoc] at hscan ⊢
  rw [scanOnce_number hinteger, hscan]

theorem spells_text {s : PyText} (h : readsBack mode s = true) :
    Spells hooks mode gap depth (.str s : Json PyText φ) (renderText mode s) := by
  refine .leaf ⟨'"', _, rfl, rfl, by decide, by decide⟩ fun fuel rest _ => ?_
  obtain ⟨body, hbody, hscan⟩ := scanText_render h rest
  rw [hbody]
  rw [scanOnce_eq]
  simp [hscan]

theorem spells_brackets (h : depth ≠ 0) :
    Spells hooks mode gap depth (.arr [] : Json PyText φ) ['[', ']'] := by
  refine .leaf ⟨'[', _, rfl, rfl, by decide, by decide⟩ fun fuel rest _ => ?_
  rw [scanOnce_eq]
  simp [h, skipWhitespace, isWhitespace, after]

theorem spells_braces (hpairs : KeepsPairs hooks) (h : depth ≠ 0) :
    Spells hooks mode gap depth (.obj [] : Json PyText φ) ['\x7b', '\x7d'] := by
  refine .leaf ⟨'\x7b', _, rfl, rfl, by decide, by decide⟩ fun fuel rest _ => ?_
  rw [scanOnce_eq]
  simp [h, skipWhitespace, isWhitespace, after, hooked, hpairs [] nodup_nil]

end Spelled

mutual

variable {mode : Mode}

/-- A rendered value spells itself. -/
theorem spells_render (laws : FloatLaws φ) (hpairs : KeepsPairs hooks) :
    ∀ (value : Json PyText φ) {depth : Nat}, Fits mode hooks depth value →
      Spells hooks mode [] depth value (render mode value)
  | .null, _, _ => spells_null
  | .bool true, _, _ => spells_true
  | .bool false, _, _ => spells_false
  | .int _, _, h => spells_int h
  | .float _, _, h => spells_float laws h
  | .str _, _, h => spells_text h
  | .arr [], _, h => spells_brackets h.1
  | .arr (item :: items), _, h =>
    .arr h.1 (spellsItems_render laws hpairs (item :: items) (by simp) h.2)
  | .obj [], _, h => spells_braces hpairs h.1
  | .obj (member :: members), _, h =>
    .obj h.1 h.2.1 (spellsMembers_render laws hpairs (member :: members) (by simp) h.2.2)

theorem spellsItems_render (laws : FloatLaws φ) (hpairs : KeepsPairs hooks) :
    ∀ (items : List (Json PyText φ)) {depth : Nat}, items ≠ [] → FitsItems mode hooks depth items →
      SpellsItems hooks mode [] depth items (renderItems mode items)
  | [], _, hne, _ => absurd rfl hne
  | [item], _, _, h => .last _ (spells_render laws hpairs item h.1)
  | item :: next :: items, _, _, h =>
    .more item _ _ _ (spells_render laws hpairs item h.1)
      (spellsItems_render laws hpairs (next :: items) (by simp) h.2)

theorem spellsMembers_render (laws : FloatLaws φ) (hpairs : KeepsPairs hooks) :
    ∀ (members : List (PyText × Json PyText φ)) {depth : Nat}, members ≠ [] →
      FitsMembers mode hooks depth members →
      SpellsMembers hooks mode [] depth members (renderMembers mode members)
  | [], _, hne, _ => absurd rfl hne
  | [(key, value)], _, _, h => by
    have hlast := SpellsMembers.last key value _ h.1 (spells_render laws hpairs value h.2.1)
    simpa [renderMembers, renderMoreMembers] using hlast
  | (key, value) :: (nextKey, next) :: members, _, _, h => by
    have hmore := SpellsMembers.more key value _ _ _ h.1 (spells_render laws hpairs value h.2.1)
      (spellsMembers_render laws hpairs ((nextKey, next) :: members) (by simp) h.2.2)
    simpa [renderMembers, renderMoreMembers] using hmore

end

/-- What was rendered is read back. -/
theorem loads_render (laws : FloatLaws φ) (hpairs : KeepsPairs hooks) {mode : Mode}
    {value : Json PyText φ} (h : Fits mode hooks hooks.recursionLimit value) :
    loads hooks (render mode value) = .ok value :=
  (spells_render laws hpairs value h).loads (by simp) hpairs

end PyJson
