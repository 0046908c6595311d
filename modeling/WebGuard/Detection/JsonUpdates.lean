import WebGuard.Detection.RequestTemplates

/-!
# Values set in a document

`_set_json_value` as an update of the child of a node (`replaceAt`), and what such an update keeps:
every other place of the document, and the limits of what was read.
-/

namespace WebGuard.RequestTemplates

open PyJson

variable {segments : List JsonSegment}

section

variable {φ : Type}

/-! ## Children -/

/-- `node[segment]`, of a dictionary by its keys and of a list by its indices. -/
def childAt : JsonSegment → Json PyText φ → Option (Json PyText φ)
  | .name text, .obj members => lookup text members
  | .index n, .arr items => items[n]?
  | _, _ => none

/-- `node[segment] = child`. -/
def putChild (child : Json PyText φ) : JsonSegment → Json PyText φ → Json PyText φ
  | .name text, .obj members => .obj (insertMember text child members)
  | .index n, .arr items => .arr (items.set n child)
  | _, node => node

theorem lookup_insertMember (key : PyText) (value : Json PyText φ)
    (members : List (PyText × Json PyText φ)) :
    lookup key (insertMember key value members) = some value := by
  induction members with
  | nil => simp [insertMember, lookup]
  | cons member rest ih =>
    obtain ⟨k, v⟩ := member
    rw [insertMember]
    split
    · next hk => rw [lookup, if_pos hk]
    · next hk => rw [lookup, if_neg hk, ih]

theorem lookup_insertMember_of_ne {key other : PyText} (h : other ≠ key) (value : Json PyText φ)
    (members : List (PyText × Json PyText φ)) :
    lookup other (insertMember key value members) = lookup other members := by
  induction members with
  | nil => simp [insertMember, lookup, Ne.symm h]
  | cons member rest ih =>
    obtain ⟨k, v⟩ := member
    rw [insertMember]
    split
    · next hk =>
      have hne : k ≠ other := fun hother => h (hother.symm.trans hk)
      rw [lookup, lookup, if_neg hne, if_neg hne]
    · rw [lookup, lookup, ih]

variable {members : List (PyText × Json PyText φ)}

theorem insertMember_lookup {key : PyText} {value : Json PyText φ}
    (h : lookup key members = some value) :
    insertMember key value members = members := by
  induction members with
  | nil => cases h
  | cons member rest ih =>
    obtain ⟨k, v⟩ := member
    rw [lookup] at h
    rw [insertMember]
    split at h
    · next hk =>
      cases h
      rw [if_pos hk]
    · next hk => rw [if_neg hk, ih h]

variable {segment : JsonSegment} {node child : Json PyText φ}

theorem childAt_putChild (h : (childAt segment node).isSome) (changed : Json PyText φ) :
    childAt segment (putChild changed segment node) = some changed := by
  cases segment with
  | name text =>
    cases node with
    | obj members => exact lookup_insertMember text changed members
    | null | bool b | int n | float x | str s | arr items => cases h
  | index n =>
    cases node with
    | arr items =>
      have hlt : n < items.length := by simpa [childAt] using h
      exact List.getElem?_set_self hlt
    | null | bool b | int n | float x | str s | obj members => cases h

theorem childAt_putChild_of_ne {other : JsonSegment} (h : other ≠ segment)
    (changed : Json PyText φ) :
    childAt other (putChild changed segment node) = childAt other node := by
  cases segment with
  | name text =>
    cases node with
    | obj members =>
      cases other with
      | name key => exact lookup_insertMember_of_ne (fun hkey => h (by rw [hkey])) changed members
      | index m => rfl
    | null | bool b | int n | float x | str s | arr items => rfl
  | index n =>
    cases node with
    | arr items =>
      cases other with
      | name key => rfl
      | index m => exact List.getElem?_set_ne (fun hindex => h (by rw [hindex]))
    | null | bool b | int n | float x | str s | obj members => rfl

theorem putChild_childAt (h : childAt segment node = some child) :
    putChild child segment node = node := by
  cases segment with
  | name text =>
    cases node with
    | obj members => exact congrArg Json.obj (insertMember_lookup h)
    | null | bool b | int n | float x | str s | arr items => cases h
  | index n =>
    cases node with
    | arr items =>
      obtain ⟨hlt, rfl⟩ := List.getElem?_eq_some_iff.mp h
      exact congrArg Json.arr (List.set_getElem_self hlt)
    | null | bool b | int n | float x | str s | obj members => cases h

/-! ## Places -/

/-- The document with another value at a place. -/
def replaceAt (value : Json PyText φ) : List JsonSegment → Json PyText φ → Option (Json PyText φ)
  | [], _ => some value
  | segment :: rest, node => do
    let child ← childAt segment node
    let changed ← replaceAt value rest child
    return putChild changed segment node

theorem replaceAt_cons {value changed : Json PyText φ} {rest : List JsonSegment} :
    replaceAt value (segment :: rest) node = some changed ↔
      ∃ child childChanged, childAt segment node = some child ∧
        replaceAt value rest child = some childChanged ∧
        changed = putChild childChanged segment node := by
  constructor
  · intro h
    obtain ⟨child, hchild, h⟩ := Option.bind_eq_some_iff.mp h
    obtain ⟨childChanged, hchanged, h⟩ := Option.bind_eq_some_iff.mp h
    exact ⟨child, childChanged, hchild, hchanged, (Option.some.inj h).symm⟩
  · rintro ⟨child, childChanged, hchild, hchanged, rfl⟩
    simp [replaceAt, hchild, hchanged]

section

variable [UnicodeTables]

/-- The error of a lookup that finds nothing. -/
def lookupFailure : JsonSegment → TemplateFailure
  | .name text => .requestTemplate "json_path_not_found"
      ("JSON path segment " ++ UnicodeTables.quoted text ++ " was not found in the document.")
  | .index n => .requestTemplate "json_path_not_found"
      ("JSON array index " ++ toString n ++ " is out of range.")

theorem getJsonValue_cons (segment : JsonSegment) (rest : List JsonSegment)
    (node : Json PyText φ) :
    getJsonValue node (segment :: rest) =
      match childAt segment node with
      | some child => getJsonValue child rest
      | none => .error (lookupFailure segment) := by
  cases segment with
  | name text =>
    cases node with
    | obj members =>
      rw [getJsonValue]
      simp only [childAt]
      cases lookup text members with
      | none => rfl
      | some child => rfl
    | null | bool b | int n | float x | str s | arr items => rfl
  | index n =>
    cases node with
    | arr items =>
      rw [getJsonValue]
      simp only [childAt]
      cases items[n]? with
      | none => rfl
      | some child => rfl
    | null | bool b | int n | float x | str s | obj members => rfl

theorem getJsonValue_cons_eq_ok {rest : List JsonSegment} {value : Json PyText φ} :
    getJsonValue node (segment :: rest) = .ok value ↔
      ∃ child, childAt segment node = some child ∧ getJsonValue child rest = .ok value := by
  rw [getJsonValue_cons]
  cases childAt segment node with
  | none => simp
  | some child => simp

variable {value changed : Json PyText φ}

theorem getJsonValue_replaceAt (h : replaceAt value segments node = some changed) :
    getJsonValue changed segments = .ok value := by
  induction segments generalizing node changed with
  | nil =>
    cases h
    rfl
  | cons segment rest ih =>
    obtain ⟨child, childChanged, hchild, hchanged, rfl⟩ := replaceAt_cons.mp h
    have hput := childAt_putChild (by rw [hchild]; rfl) childChanged
    exact getJsonValue_cons_eq_ok.mpr ⟨childChanged, hput, ih hchanged⟩

theorem getJsonValue_replaceAt_of_ne {other : List JsonSegment}
    (h : replaceAt value segments node = some changed) (hbelow : ¬ segments <+: other)
    (habove : ¬ other <+: segments) : getJsonValue changed other = getJsonValue node other := by
  induction segments generalizing node changed other with
  | nil => exact absurd List.nil_prefix hbelow
  | cons segment rest ih =>
    obtain ⟨child, childChanged, hchild, hchanged, rfl⟩ := replaceAt_cons.mp h
    cases other with
    | nil => exact absurd List.nil_prefix habove
    | cons first more =>
      rw [getJsonValue_cons, getJsonValue_cons]
      by_cases hsegment : first = segment
      · subst hsegment
        rw [childAt_putChild (by rw [hchild]; rfl), hchild]
        dsimp only
        exact ih hchanged (fun hp => hbelow (List.cons_prefix_cons.mpr ⟨rfl, hp⟩))
          (fun hp => habove (List.cons_prefix_cons.mpr ⟨rfl, hp⟩))
      · rw [childAt_putChild_of_ne hsegment]

theorem replaceAt_self (h : getJsonValue node segments = .ok value) :
    replaceAt value segments node = some node := by
  induction segments generalizing node with
  | nil =>
    cases h
    rfl
  | cons segment rest ih =>
    obtain ⟨child, hchild, hget⟩ := getJsonValue_cons_eq_ok.mp h
    exact replaceAt_cons.mpr ⟨child, child, hchild, ih hget, (putChild_childAt hchild).symm⟩

/-! ## `_set_json_value` -/

theorem setSegment_eq_ok :
    setSegment value segment node = .ok changed ↔
      (childAt segment node).isSome ∧ changed = putChild value segment node := by
  cases segment with
  | name text =>
    cases node with
    | obj members =>
      simp only [setSegment, childAt, putChild]
      split
      · next hmem => simp [hmem, eq_comm]
      · next hmem => simp [hmem, segmentMissing, refuseTemplate]
    | null | bool b | int n | float x | str s | arr items =>
      simp [setSegment, childAt, segmentMissing, refuseTemplate]
  | index n =>
    cases node with
    | arr items =>
      simp only [setSegment, childAt, putChild]
      split
      · next hlt => simp [hlt, eq_comm]
      · next hlt => simp [hlt, segmentMissing, refuseTemplate]
    | null | bool b | int n | float x | str s | obj members =>
      simp [setSegment, childAt, segmentMissing, refuseTemplate]

theorem setJsonValue_str (segments : List JsonSegment) (text : PyText) :
    setJsonValue value segments (.str text) ≠ .ok changed := by
  induction segments generalizing text with
  | nil => simp [setJsonValue]
  | cons segment rest ih =>
    cases rest with
    | nil =>
      rw [setJsonValue, Ne, setSegment_eq_ok]
      cases segment with
      | name key => simp [childAt]
      | index n => simp [childAt]
    | cons next more =>
      cases segment with
      | name key => simp [setJsonValue]
      | index n =>
        rw [setJsonValue]
        cases text[n]? with
        | none => simp
        | some character => exact ih [character]

theorem setJsonValue_eq_ok (hne : segments ≠ []) :
    setJsonValue value segments node = .ok changed ↔
      replaceAt value segments node = some changed := by
  induction segments generalizing node changed with
  | nil => exact absurd rfl hne
  | cons segment rest ih =>
    rw [replaceAt_cons]
    cases rest with
    | nil =>
      rw [setJsonValue, setSegment_eq_ok]
      simp only [replaceAt]
      constructor
      · rintro ⟨hchild, rfl⟩
        obtain ⟨child, hchild⟩ := Option.isSome_iff_exists.mp hchild
        exact ⟨child, value, hchild, rfl, rfl⟩
      · rintro ⟨child, childChanged, hchild, hchanged, rfl⟩
        cases hchanged
        exact ⟨by rw [hchild]; rfl, rfl⟩
    | cons next more =>
      have hstep : ∀ {child : Json PyText φ}, childAt segment node = some child →
          (setJsonValue value (segment :: next :: more) node = .ok changed ↔
            ∃ childChanged, setJsonValue value (next :: more) child = .ok childChanged ∧
              changed = putChild childChanged segment node) := by
        intro child hchild
        cases segment with
        | name text =>
          cases node with
          | obj members =>
            have hlookup : lookup text members = some child := hchild
            rw [setJsonValue]
            simp only [hlookup]
            rw [Atomic.bind_ok_iff]
            exact exists_congr fun c => and_congr_right fun _ => by
              simp [pure, Except.pure, putChild, eq_comm]
          | null | bool b | int n | float x | str s | arr items => cases hchild
        | index n =>
          cases node with
          | arr items =>
            have hitem : items[n]? = some child := hchild
            rw [setJsonValue]
            simp only [hitem]
            rw [Atomic.bind_ok_iff]
            exact exists_congr fun c => and_congr_right fun _ => by
              simp [pure, Except.pure, putChild, eq_comm]
          | null | bool b | int n | float x | str s | obj members => cases hchild
      constructor
      · intro h
        cases hchild : childAt segment node with
        | some child =>
          obtain ⟨childChanged, hset, rfl⟩ := (hstep hchild).mp h
          exact ⟨child, childChanged, rfl, (ih (by simp)).mp hset, rfl⟩
        | none =>
          -- A step into something that has no children ends in an error.
          exfalso
          cases segment with
          | name text =>
            cases node with
            | obj members =>
              have hlookup : lookup text members = none := hchild
              simp [setJsonValue, hlookup] at h
            | null | bool b | int n | float x | str s | arr items => simp [setJsonValue] at h
          | index n =>
            cases node with
            | arr items =>
              have hitem : items[n]? = none := hchild
              simp [setJsonValue, hitem] at h
            | str text => exact setJsonValue_str _ _ h
            | null | bool b | int n | float x | obj members => simp [setJsonValue] at h
      · rintro ⟨child, childChanged, hchild, hchanged, rfl⟩
        exact (hstep hchild).mpr ⟨childChanged, (ih (by simp)).mpr hchanged, rfl⟩

end

/-! ## Limits -/

variable {maximumDigits depth : Nat}

theorem scannedItems_iff {items : List (Json PyText φ)} :
    ScannedItems maximumDigits depth items ↔ ∀ item ∈ items, Scanned maximumDigits depth item := by
  induction items with
  | nil => simp [ScannedItems]
  | cons item rest ih => rw [ScannedItems, ih, List.forall_mem_cons]

theorem scannedMembers_iff :
    ScannedMembers maximumDigits depth members ↔
      ∀ member ∈ members,
        readsBack .ascii member.1 = true ∧ Scanned maximumDigits depth member.2 := by
  induction members with
  | nil => simp [ScannedMembers]
  | cons member rest ih => rw [ScannedMembers, ih, List.forall_mem_cons, and_assoc]

theorem scanned_child (h : Scanned maximumDigits depth node)
    (hchild : childAt segment node = some child) :
    Scanned maximumDigits (depth - 1) child ∧
      ∀ changed, Scanned maximumDigits (depth - 1) changed →
        Scanned maximumDigits depth (putChild changed segment node) := by
  cases segment with
  | name text =>
    cases node with
    | obj members =>
      have hmem := mem_of_lookup hchild
      have hmember := scannedMembers_iff.mp h.2.2 _ hmem
      refine ⟨hmember.2, fun changed hchanged => ⟨h.1, ?_, ?_⟩⟩
      · exact nodup_insertMember h.2.1
      · exact scannedMembers_insertMember h.2.2 hmember.1 hchanged
    | null | bool b | int n | float x | str s | arr items => cases hchild
  | index n =>
    cases node with
    | arr items =>
      have hitem := List.mem_of_getElem? hchild
      refine ⟨scannedItems_iff.mp h.2 child hitem, fun changed hchanged => ⟨h.1, ?_⟩⟩
      rw [scannedItems_iff]
      intro item hmem
      obtain hold | rfl := List.mem_or_eq_of_mem_set hmem
      · exact scannedItems_iff.mp h.2 item hold
      · exact hchanged
    | null | bool b | int n | float x | str s | obj members => cases hchild

theorem scanned_getJsonValue [UnicodeTables] {value : Json PyText φ}
    (h : Scanned maximumDigits depth node) (hget : getJsonValue node segments = .ok value) :
    ∃ deeper, Scanned maximumDigits deeper value := by
  induction segments generalizing node depth with
  | nil =>
    cases hget
    exact ⟨depth, h⟩
  | cons segment rest ih =>
    obtain ⟨child, hchild, hget⟩ := getJsonValue_cons_eq_ok.mp hget
    exact ih (scanned_child h hchild).1 hget

theorem scanned_replaceAt {text : PyText} {changed : Json PyText φ}
    (htext : readsBack .ascii text = true) (h : Scanned maximumDigits depth node)
    (hchanged : replaceAt (.str text) segments node = some changed) :
    Scanned maximumDigits depth changed := by
  induction segments generalizing node changed depth with
  | nil =>
    cases hchanged
    exact htext
  | cons segment rest ih =>
    obtain ⟨child, childChanged, hchild, hrest, rfl⟩ := replaceAt_cons.mp hchanged
    obtain ⟨hscanned, hput⟩ := scanned_child h hchild
    exact hput childChanged (ih hscanned hrest)

end

/-! ## What is written -/

section

variable {φ : Type} [PyFloat φ] [NamedFloats φ] {first second : Json PyText φ}

theorem spacedMembers_insertMember (h : spaced first = spaced second) (key : PyText)
    (members : List (PyText × Json PyText φ)) :
    spacedMembers (insertMember key first members) = spacedMembers (insertMember key second members)
      ∧ spacedMoreMembers (insertMember key first members)
        = spacedMoreMembers (insertMember key second members) := by
  induction members with
  | nil => simp [insertMember, spacedMembers, spacedMoreMembers, h]
  | cons member rest ih =>
    obtain ⟨k, v⟩ := member
    rw [insertMember, insertMember]
    split
    · simp [spacedMembers, spacedMoreMembers, h]
    · simp [spacedMembers, spacedMoreMembers, ih.2]

theorem spacedItems_set (h : spaced first = spaced second) (items : List (Json PyText φ))
    (n : Nat) :
    spacedItems (items.set n first) = spacedItems (items.set n second)
      ∧ spacedMoreItems (items.set n first) = spacedMoreItems (items.set n second) := by
  induction items generalizing n with
  | nil => simp
  | cons item rest ih =>
    cases n with
    | zero => simp [spacedItems, spacedMoreItems, h]
    | succ n => simp [spacedItems, spacedMoreItems, (ih n).2]

theorem spaced_putChild (h : spaced first = spaced second) (segment : JsonSegment)
    (node : Json PyText φ) :
    spaced (putChild first segment node) = spaced (putChild second segment node) := by
  cases segment with
  | name text =>
    cases node with
    | obj members => simp [putChild, spaced, (spacedMembers_insertMember h text members).1]
    | null | bool b | int n | float x | str s | arr items => rfl
  | index n =>
    cases node with
    | arr items => simp [putChild, spaced, (spacedItems_set h items n).1]
    | null | bool b | int n | float x | str s | obj members => rfl

theorem spaced_replaceAt (h : spaced first = spaced second) {node changed : Json PyText φ}
    (hfirst : replaceAt first segments node = some changed) :
    ∃ other, replaceAt second segments node = some other ∧ spaced changed = spaced other := by
  induction segments generalizing node changed with
  | nil =>
    cases hfirst
    exact ⟨second, rfl, h⟩
  | cons segment rest ih =>
    obtain ⟨child, childChanged, hchild, hchanged, rfl⟩ := replaceAt_cons.mp hfirst
    obtain ⟨childOther, hother, hspaced⟩ := ih hchanged
    exact ⟨_, replaceAt_cons.mpr ⟨child, childOther, hchild, hother, rfl⟩,
      spaced_putChild hspaced segment node⟩

end

end WebGuard.RequestTemplates
