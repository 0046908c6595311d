import WebGuard.Contracts.Findings
import WebGuard.Contracts.IsoFormat
import WebGuard.Lib.JsonCanonical

/-!
# The structured log

`log_event` puts the fields of a call that are on the allow list into a payload and hands it to the
logger as a record; the formatter checks the payload again and writes it as one line of JSON. Other
code can hand the logger a record of its own, which meets the formatter only.

Patterns are matched with `re.match` between `^` and `$`, and `$` also matches in front of a line
feed that ends the text.
-/

namespace WebGuard.StructuredLogging

open PyJson List
open FindingContract (LowerTable)

/-- What the logging code can raise. -/
inductive LogError where
  | invalidLevel
  | invalidEvent
  | unknownService
  /-- Raised by `__hash__` or `__eq__` of a value that is looked for in a set. -/
  | membership
  /-- `json.dumps` of a value it has no encoding for. -/
  | notSerializable
  /-- `datetime.fromtimestamp` of a number out of range. -/
  | timestamp
  deriving DecidableEq

/-! ## Values -/

/-- A value of a field: one of a type the checks know, or anything else. A subclass of one of these
types with methods of its own is not represented. -/
inductive FieldValue (φ : Type) where
  | bool (b : Bool)
  | int (n : Int)
  | float (x : φ)
  | str (text : PyText)
  /-- `isIn names` is what `value in names` does for a set of names: a list or a dictionary has no
  hash and raises, `None` and most other objects are in no such set. -/
  | object (isIn : List PyText → Except LogError Bool)

variable {φ : Type}

/-- `value in names`. -/
def FieldValue.isIn (names : List PyText) : FieldValue φ → Except LogError Bool
  | .str text => .ok (names.contains text)
  | .object isIn => isIn names
  | _ => .ok false

/-- What `json.dumps` makes of a value; it refuses objects. -/
def FieldValue.toJson : FieldValue φ → Option (Json PyText φ)
  | .bool b => some (.bool b)
  | .int n => some (.int n)
  | .float x => some (.float x)
  | .str text => some (.str text)
  | .object _ => none

/-- A dictionary: its items in the order they were added in, each key once. -/
structure Mapping (κ ν : Type) where
  items : List (κ × ν)
  distinct : (items.map Prod.fst).Nodup

section Mapping

variable {κ ν : Type} [DecidableEq κ]

/-- `mapping.get(key)`. -/
def Mapping.get (mapping : Mapping κ ν) (key : κ) : Option ν :=
  (mapping.items.find? fun item => item.1 = key).map Prod.snd

/-- The items after an assignment: a key that is there keeps its place. -/
def assign (key : κ) (value : ν) : List (κ × ν) → List (κ × ν)
  | [] => [(key, value)]
  | item :: rest => if item.1 = key then (key, value) :: rest else item :: assign key value rest

theorem keys_assign (key : κ) (value : ν) (items : List (κ × ν)) :
    (assign key value items).map Prod.fst
      = if key ∈ items.map Prod.fst then items.map Prod.fst else items.map Prod.fst ++ [key] := by
  induction items with
  | nil => rfl
  | cons item rest ih =>
    by_cases hkey : item.1 = key
    · simp [assign, hkey]
    · rw [assign, if_neg hkey, map_cons, ih, map_cons]
      by_cases hmem : key ∈ rest.map Prod.fst
      · rw [if_pos hmem, if_pos (mem_cons_of_mem _ hmem)]
      · rw [if_neg hmem, if_neg (by simpa [Ne.symm hkey] using hmem), cons_append]

theorem assign_of_not_mem {key : κ} {items : List (κ × ν)} (value : ν)
    (h : key ∉ items.map Prod.fst) : assign key value items = items ++ [(key, value)] := by
  induction items with
  | nil => rfl
  | cons item rest ih =>
    rw [map_cons, mem_cons, not_or] at h
    rw [assign, if_neg (fun hkey => h.1 hkey.symm), ih h.2, cons_append]

/-- `mapping[key] = value`. -/
def Mapping.assign (mapping : Mapping κ ν) (key : κ) (value : ν) : Mapping κ ν where
  items := StructuredLogging.assign key value mapping.items
  distinct := by
    rw [keys_assign]
    split
    · exact mapping.distinct
    · rename_i hkey
      exact nodup_append.mpr ⟨mapping.distinct, nodup_singleton key,
        fun a ha b hb => by
          rw [mem_singleton.mp hb]
          exact fun heq => hkey (heq ▸ ha)⟩

theorem Mapping.get_eq_some_iff {mapping : Mapping κ ν} {key : κ} {value : ν} :
    mapping.get key = some value ↔ (key, value) ∈ mapping.items := by
  obtain ⟨items, distinct⟩ := mapping
  unfold Mapping.get
  dsimp only
  induction items with
  | nil => simp
  | cons item rest ih =>
    obtain ⟨k, v⟩ := item
    rw [map_cons, nodup_cons] at distinct
    by_cases hkey : k = key
    · subst hkey
      have hrest : (k, value) ∉ rest :=
        fun h => distinct.1 (mem_map.mpr ⟨(k, value), h, rfl⟩)
      rw [find?_cons_of_pos (by simp)]
      simp [hrest, eq_comm]
    · rw [find?_cons_of_neg (by simpa using hkey), ih distinct.2, mem_cons]
      simp [Ne.symm hkey]

end Mapping

/-! ## The allow list -/

def services : List PyText :=
  [ofString "api", ofString "worker", ofString "scheduler", ofString "callback-service",
    ofString "signing-service"]

def levels : List PyText := [ofString "info", ofString "warning", ofString "error"]

def httpMethods : List PyText :=
  [ofString "GET", ofString "POST", ofString "PUT", ofString "PATCH", ofString "DELETE",
    ofString "HEAD", ofString "OPTIONS"]

def stringFields : List PyText :=
  [ofString "request_id", ofString "organization_id", ofString "principal_id", ofString "scan_id",
    ofString "job_id", ofString "schedule_id", ofString "finding_id", ofString "worker_id",
    ofString "key_id", ofString "route_name", ofString "reason_code", ofString "error_code"]

def identifierFields : List PyText := [ofString "exception_type", ofString "source_module"]

/-- `_INT_FIELDS`, with the bounds. -/
def intFields : List (PyText × Int × Int) :=
  [(ofString "status_code", 100, 599), (ofString "attempt", 1, 50),
    (ofString "source_line", 1, 10000000)]

/-- `_NUMERIC_FIELDS`, with the bounds. -/
def numericFields : List (PyText × Int × Int) := [(ofString "duration_ms", 0, 86400000)]

/-- The fields that the formatter takes from the record, or checks by itself. -/
def reservedFields : List PyText :=
  [ofString "timestamp", ofString "level", ofString "service", ofString "event"]

/-! ## Patterns -/

/-- `re.match` of a pattern between `^` and `$`, by what matches the pattern in full. -/
def matchLine (body : PyText → Bool) (value : PyText) : Bool :=
  body value || (value.getLast? == some 10 && body value.dropLast)

def isLowerLetter (n : Nat) : Bool := 97 ≤ n && n ≤ 122

/-- `[A-Za-z_]`. -/
def isNameStart (n : Nat) : Bool := isLowerLetter n || (65 ≤ n && n ≤ 90) || n == 95

/-- `[A-Za-z0-9_]`. -/
def isNameCharacter (n : Nat) : Bool := isNameStart n || (48 ≤ n && n ≤ 57)

/-- `[A-Za-z0-9_:./{}\-]`. -/
def isTokenCharacter (n : Nat) : Bool :=
  isNameCharacter n || n == 58 || n == 46 || n == 47 || n == 123 || n == 125 || n == 45

/-- One to 200 characters of the alphabet. -/
def isToken (value : PyText) : Bool :=
  1 ≤ value.length && value.length ≤ 200 && value.all isTokenCharacter

/-- The rest of a dotted name; `start` is whether a name has to begin here. -/
def dottedFrom (start : Bool) : PyText → Bool
  | [] => !start
  | c :: rest =>
    if start then isNameStart c && dottedFrom false rest
    else if c == 46 then dottedFrom true rest
    else isNameCharacter c && dottedFrom false rest

/-- `[A-Za-z_][A-Za-z0-9_]*`. -/
def isName : PyText → Bool
  | [] => false
  | c :: rest => isNameStart c && rest.all isNameCharacter

/-- `<[a-z]+>`, the name of a frame that belongs to no function. -/
def isFrameName : PyText → Bool
  | [] => false
  | c :: rest =>
    c == 60 && 2 ≤ rest.length && rest.getLast? == some 62 && rest.dropLast.all isLowerLetter

def safeToken : PyText → Bool := matchLine isToken

def dottedIdentifier : PyText → Bool := matchLine (dottedFrom true)

def functionName : PyText → Bool := matchLine fun value => isFrameName value || isName value

/-! ## Checks of fields -/

def validateString : FieldValue φ → Option (FieldValue φ)
  | .str text => if safeToken text then some (.str text) else none
  | _ => none

def validateIdentifier : FieldValue φ → Option (FieldValue φ)
  | .str text => if dottedIdentifier text && text.length ≤ 200 then some (.str text) else none
  | _ => none

/-- The check of `source_function`. -/
def validateFunction : FieldValue φ → Option (FieldValue φ)
  | .str text => if functionName text && text.length ≤ 200 then some (.str text) else none
  | _ => none

def validateBoundedInt (bounds : Int × Int) : FieldValue φ → Option (FieldValue φ)
  | .int n => if bounds.1 ≤ n ∧ n ≤ bounds.2 then some (.int n) else none
  | _ => none

/-- `_validate_bounded_number`; no comparison with a float that is not finite holds on both
sides. -/
def validateBoundedNumber [PyFloat φ] (bounds : Int × Int) : FieldValue φ → Option (FieldValue φ)
  | .int n => if bounds.1 ≤ n ∧ n ≤ bounds.2 then some (.int n) else none
  | .float x =>
    if PyFloat.isFinite x = true ∧ (bounds.1 : ℚ) ≤ PyFloat.value x
        ∧ PyFloat.value x ≤ (bounds.2 : ℚ) then some (.float x)
    else none
  | _ => none

/-- `_validate_field`: the value, nothing when the field is dropped. -/
def validateField [PyFloat φ] (key : PyText) (value : FieldValue φ) :
    Except LogError (Option (FieldValue φ)) :=
  if key ∈ stringFields then .ok (validateString value)
  else if key ∈ identifierFields then .ok (validateIdentifier value)
  else if key = ofString "source_function" then .ok (validateFunction value)
  else if key = ofString "http_method" then
    match value.isIn httpMethods with
    | .error e => .error e
    | .ok known => .ok (if known then some value else none)
  else
    match intFields.lookup key with
    | some bounds => .ok (validateBoundedInt bounds value)
    | none =>
      match numericFields.lookup key with
      | some bounds => .ok (validateBoundedNumber bounds value)
      | none => .ok none

/-! ## Payloads -/

/-- What is written of a call or of a record. -/
abbrev Payload (φ : Type) := Mapping PyText (FieldValue φ)

/-- A key of a dictionary: one that is no string is on no list of field names. -/
inductive Key where
  | text (name : PyText)
  | object (id : Nat)
  deriving DecidableEq

theorem Key.text_injective : Function.Injective Key.text := fun _ _ h => Key.text.inj h

/-- A payload as a dictionary that the logger is handed. -/
def Mapping.toMessage {ν : Type} (mapping : Mapping PyText ν) : Mapping Key ν where
  items := mapping.items.map fun item => (.text item.1, item.2)
  distinct := by
    rw [map_map, show Prod.fst ∘ (fun item : PyText × ν => (Key.text item.1, item.2))
      = Key.text ∘ Prod.fst from rfl, ← map_map]
    exact mapping.distinct.map Key.text_injective

/-- The loop over the fields; the formatter skips the reserved ones. -/
def addFields [PyFloat φ] (skipped : List PyText) (payload : Payload φ) :
    List (Key × FieldValue φ) → Except LogError (Payload φ)
  | [] => .ok payload
  | (.object _, _) :: rest => addFields skipped payload rest
  | (.text key, value) :: rest =>
    if key ∈ skipped then addFields skipped payload rest
    else
      match validateField key value with
      | .error e => .error e
      | .ok none => addFields skipped payload rest
      | .ok (some validated) => addFields skipped (payload.assign key validated) rest

/-- The payload before the fields. -/
def basePayload (timestamp level : PyText) (service : FieldValue φ) (event : PyText) :
    Payload φ where
  items := [(ofString "timestamp", .str timestamp), (ofString "level", .str level),
    (ofString "service", service), (ofString "event", .str event)]
  distinct := by
    show reservedFields.Nodup
    decide

/-- `json.dumps(payload, separators=(",", ":"), ensure_ascii=True, sort_keys=True)`. -/
def dumpsPayload [PyFloat φ] (payload : Payload φ) : Except LogError (List Char) :=
  match payload.items.mapM fun item => item.2.toJson.map fun value => (item.1, value) with
  | none => .error .notSerializable
  | some members => .ok (render .ascii (sortKeys (.obj members)))

/-! ## The formatter -/

/-- `record.msg`. -/
inductive Message (φ : Type) where
  | mapping (raw : Mapping Key (FieldValue φ))
  | object

/-- The parts of a `logging.LogRecord` that the formatter reads. -/
structure LogRecord (φ : Type) where
  levelname : PyText
  /-- The instant of `record.created`; nothing where `datetime.fromtimestamp` raises. -/
  created : Option Nat
  msg : Message φ

variable [PyFloat φ] [LowerTable]

/-- `_JsonLineFormatter.format`, past the check of the level. -/
def formatFields (created : Option Nat) (level : PyText) (raw : Mapping Key (FieldValue φ)) :
    Except LogError (Option (List Char)) :=
  match raw.get (.text (ofString "service")) with
  | none => .ok none
  | some service =>
    match service.isIn services with
    | .error e => .error e
    | .ok false => .ok none
    | .ok true =>
      match raw.get (.text (ofString "event")) with
      | some (.str event) =>
        if safeToken event then
          match created with
          | none => .error .timestamp
          | some t => do
            let payload ← addFields reservedFields
              (basePayload (timestampText t) level service event) raw.items
            return some (← dumpsPayload payload)
        else .ok none
      | _ => .ok none

/-- `_JsonLineFormatter.format`. -/
def formatRecord (record : LogRecord φ) : Except LogError (Option (List Char)) :=
  match record.msg with
  | .object => .ok none
  | .mapping raw =>
    let level := LowerTable.lower record.levelname
    if level ∈ levels then formatFields record.created level raw else .ok none

/-- `_StructuredStreamHandler.emit`: the lines that are written. -/
def emit (record : LogRecord φ) : List (List Char) :=
  match formatRecord record with
  | .ok (some line) => [line ++ ['\n']]
  | _ => []

/-! ## Calls -/

/-- A process that has called `configure_structured_logging`. -/
structure Configuration where
  service : PyText
  known : service ∈ services

def configureStructuredLogging (service : PyText) : Except LogError Configuration :=
  if h : service ∈ services then .ok ⟨service, h⟩ else .error .unknownService

/-- The name that the logging module has for `_LEVEL_MAP[level]`. -/
def levelName (level : PyText) : PyText :=
  if level = ofString "info" then ofString "INFO"
  else if level = ofString "warning" then ofString "WARNING"
  else ofString "ERROR"

/-- `log_event` at the instant `now`, in a process that may not have been configured: the lines it
writes, or what it raises. -/
def logEvent (configured : Option Configuration) (now : Nat) (event level : PyText)
    (service : Option PyText) (fields : Mapping PyText (FieldValue φ)) :
    Except LogError (List (List Char)) :=
  match configured with
  | none => .ok []
  | some configuration => do
    if level ∉ levels then throw .invalidLevel
    if ¬ safeToken event then throw .invalidEvent
    let resolved := service.getD configuration.service
    if resolved ∉ services then throw .unknownService
    let payload ← addFields [] (basePayload (timestampText now) level (.str resolved) event)
      fields.toMessage.items
    return emit { levelname := levelName level, created := some now,
                  msg := .mapping payload.toMessage }

end WebGuard.StructuredLogging
