import WebGuard.Contracts.IsoFormat
import WebGuard.Contracts.Text
import WebGuard.Lib.Base64
import WebGuard.Lib.JsonScan

/-!
# Signed cursors

`SignedCursorCodec` of `pagination.py`. A cursor is two base64url texts with a dot between them: the
canonical JSON of a payload, and the HMAC of those bytes. The payload carries the organization, the
resource and the filters the cursor was made for, the position, and the time it expires at.

The times of the codec are timezone-aware, so a time is its instant. The HMAC, the floats a decoder
can meet, `datetime.fromisoformat` and the limits of the interpreter are parameters.
-/

namespace WebGuard.Pagination

open PyJson Base64

def maximumCursorLength : Nat := 4096

/-- What a call of the codec raises. -/
inductive Failure where
  /-- `PaginationError(code, message)`. -/
  | controlled (error : ContractError)
  /-- `OverflowError` of `now + timedelta(...)`. -/
  | overflow
  /-- An error of `json.loads` that is not a `JSONDecodeError`. -/
  | undecoded (error : ScanError Unit)
  deriving DecidableEq

abbrev Answer (α : Type) := Except Failure α

/-- `raise PaginationError(code, message)`. -/
def refuse {α : Type} (code message : String) : Answer α := .error (.controlled ⟨code, message⟩)

/-- `if not condition: raise PaginationError(code, message)`. -/
def demand (condition : Bool) (code message : String) : Answer Unit :=
  if condition then .ok () else refuse code message

/-- The limits that `json.loads` runs into, with room for the documents of this code. -/
structure Interpreter where
  recursionLimit : Nat
  maximumDigits : Nat
  room : 16 ≤ recursionLimit ∧ 640 ≤ maximumDigits

/-- The limits that CPython starts with. -/
theorem cpython_room : 16 ≤ 1000 ∧ 640 ≤ 4300 := by decide

/-- A `Mapping[str, str]`: its items in some order, each key once. -/
structure Filters where
  items : List (PyText × PyText)
  distinct : (items.map Prod.fst).Nodup

theorem distinct_nil : (([] : List (PyText × PyText)).map Prod.fst).Nodup := List.nodup_nil

structure CursorPosition where
  orderedAt : PyText
  resourceId : PyText
  deriving DecidableEq

/-- `SignedCursorCodec`, with what its constructor checks. -/
structure SignedCursorCodec where
  key : Bytes
  validitySeconds : Nat
  key_length : 32 ≤ key.length
  validity : 300 ≤ validitySeconds ∧ validitySeconds ≤ 7 * 24 * 60 * 60

/-- `^[a-z][a-z0-9._-]{0,63}$`, matched whole. -/
def isResource (resource : PyText) : Bool :=
  match resource with
  | [] => false
  | c :: rest =>
    (97 ≤ c && c ≤ 122) && rest.length ≤ 63
      && rest.all fun c => (97 ≤ c && c ≤ 122) || (48 ≤ c && c ≤ 57) || c = 46 || c = 95 || c = 45

/-- `text.encode("ascii")`. -/
def encodeAscii (text : List Char) : Option Bytes :=
  if text.all (fun c => c.toNat < 128) then some (text.map fun c => UInt8.ofNat c.toNat) else none

/-- `raw.decode("ascii")`. -/
def decodeAscii (raw : Bytes) : Option (List Char) :=
  if raw.all (fun b => b.toNat < 128) then some (raw.map fun b => Char.ofNat b.toNat) else none

section

variable {φ : Type} [PyFloat φ]

def canonicalJson (value : Json PyText φ) : Option Bytes := (dumps .ascii value).bind encodeAscii

/-- `dict(sorted(filters.items()))`, as a value. -/
def Filters.sorted (filters : Filters) : Json PyText φ :=
  .obj (byKey (filters.items.map fun item => (item.1, .str item.2)))

/-- The payload of a cursor. -/
def payloadOf (organizationId resource : PyText) (filters : Filters) (position : CursorPosition)
    (expiresAt : Nat) : List (PyText × Json PyText φ) :=
  [(ofString "v", .int 1), (ofString "organization_id", .str organizationId),
    (ofString "resource", .str resource), (ofString "filters", filters.sorted),
    (ofString "ordered_at", .str position.orderedAt),
    (ofString "resource_id", .str position.resourceId),
    (ofString "expires_at", .str (timestampText expiresAt))]

/-- The token of some payload bytes: both parts, with the dot between them. -/
def tokenOf (hmac : Bytes → Bytes → Bytes) (codec : SignedCursorCodec) (raw : Bytes) : List Char :=
  Base64.encode raw ++ '.' :: Base64.encode (hmac codec.key raw)

def SignedCursorCodec.encode (φ : Type) [PyFloat φ] (hmac : Bytes → Bytes → Bytes)
    (codec : SignedCursorCodec) (organizationId resource : PyText) (filters : Filters)
    (position : CursorPosition) (now : Nat) : Answer (List Char) :=
  if !isResource resource then
    refuse "page_cursor_resource_invalid" "Cursor resource is invalid."
  else if datetimeEnd ≤ now + codec.validitySeconds * second then .error .overflow
  else
    match canonicalJson (φ := φ) (.obj (payloadOf organizationId resource filters position
        (now + codec.validitySeconds * second))) with
    | none => refuse "page_cursor_invalid" "cursor data cannot be encoded canonically."
    | some raw =>
      if maximumCursorLength < (tokenOf hmac codec raw).length then
        refuse "page_cursor_too_long" "Generated cursor exceeds the API limit."
      else .ok (tokenOf hmac codec raw)

/-- `_b64_decode`. -/
def decodeCanonical (text : List Char) : Answer Bytes :=
  if text.isEmpty then refuse "page_cursor_invalid" "cursor is not valid base64url data."
  else
    match Base64.decode text with
    | none => refuse "page_cursor_invalid" "cursor is not valid base64url data."
    | some decoded =>
      if Base64.encode decoded ≠ text then
        refuse "page_cursor_non_canonical" "cursor base64url data is not canonical."
      else .ok decoded

/-- `json.loads` without hooks: a key that is there twice has its last value. -/
def plainHooks (interpreter : Interpreter) : Hooks Unit φ where
  pairs members := .ok (.obj (dictOf members))
  constant c := .ok (.float (PyFloat.ofConstant c))
  recursionLimit := interpreter.recursionLimit
  maximumDigits := interpreter.maximumDigits

/-- The keys of a payload; no key of a dictionary is there twice. -/
def requiredKeys : List PyText :=
  [ofString "v", ofString "organization_id", ofString "resource", ofString "filters",
    ofString "ordered_at", ofString "resource_id", ofString "expires_at"]

/-- `cursor.partition(".")`, after the length of the cursor was checked. -/
def splitCursor (cursor : List Char) : Answer (List Char × List Char) :=
  if cursor.isEmpty || maximumCursorLength < cursor.length then
    refuse "page_cursor_invalid" "cursor is missing or exceeds the API limit."
  else
    match cursor.takeWhile (· ≠ '.'), cursor.dropWhile (· ≠ '.') with
    | encodedPayload, _ :: encodedSignature =>
      if encodedPayload.isEmpty || encodedSignature.isEmpty then
        refuse "page_cursor_invalid" "cursor format is invalid."
      else .ok (encodedPayload, encodedSignature)
    | _, [] => refuse "page_cursor_invalid" "cursor format is invalid."

/-- The payload bytes of a cursor, when they are signed. -/
def verify (hmac : Bytes → Bytes → Bytes) (codec : SignedCursorCodec) (cursor : List Char) :
    Answer Bytes := do
  let (encodedPayload, encodedSignature) ← splitCursor cursor
  let raw ← decodeCanonical encodedPayload
  let supplied ← decodeCanonical encodedSignature
  if hmac codec.key raw ≠ supplied then
    refuse "page_cursor_signature_invalid" "cursor signature is invalid."
  else .ok raw

/-- `json.loads(raw.decode("ascii"))`. -/
def parsePayload (interpreter : Interpreter) (raw : Bytes) : Answer (Json PyText φ) :=
  match decodeAscii raw with
  | none => refuse "page_cursor_invalid" "cursor payload is invalid."
  | some document =>
    match loads (plainHooks interpreter) document with
    | .error .decode => refuse "page_cursor_invalid" "cursor payload is invalid."
    | .error e => .error (.undecoded e)
    | .ok payload => .ok payload

/-- The members of a payload that has the required fields and is written canonically. -/
def canonicalMembers (raw : Bytes) (payload : Json PyText φ) :
    Answer (List (PyText × Json PyText φ)) :=
  match payload with
  | .obj members =>
    if !requiredKeys.isPerm (members.map Prod.fst) then
      refuse "page_cursor_invalid" "cursor payload fields are invalid."
    else
      match canonicalJson payload with
      | none => refuse "page_cursor_invalid" "cursor data cannot be encoded canonically."
      | some canonical =>
        if canonical ≠ raw then
          refuse "page_cursor_non_canonical" "cursor payload is not canonical."
        else .ok members
  | _ => refuse "page_cursor_invalid" "cursor payload fields are invalid."

/-- The first half of `decode`: the payload a cursor carries. -/
def openCursor (hmac : Bytes → Bytes → Bytes) (interpreter : Interpreter) (codec : SignedCursorCodec)
    (cursor : List Char) : Answer (List (PyText × Json PyText φ)) := do
  let raw ← verify hmac codec cursor
  let payload ← parsePayload interpreter raw
  canonicalMembers raw payload

/-- `value == 1`, which `1.0` and `True` are too. -/
def equalsOne : Json PyText φ → Bool
  | .int n => n = 1
  | .bool b => b
  | .float x => PyFloat.isFinite x && PyFloat.value x = 1
  | _ => false

/-- `value == text`. -/
def equalsText (text : PyText) : Json PyText φ → Bool
  | .str s => s = text
  | _ => false

/-- `value == dict(sorted(filters.items()))`: the same members, in any order. -/
def equalsFilters (filters : Filters) : Json PyText φ → Bool
  | .obj members =>
    members.length = filters.items.length
      && filters.items.all fun item =>
        match lookup item.1 members with
        | some value => equalsText item.2 value
        | none => false
  | _ => false

/-- A non-empty text. -/
def nonEmptyText : Json PyText φ → Option PyText
  | .str s => if s.isEmpty then none else some s
  | _ => none

/-- `payload[name]`. -/
def member (name : String) (members : List (PyText × Json PyText φ)) : Json PyText φ :=
  (lookup (ofString name) members).getD .null

/-- The expiry of a payload. -/
def expiryOf [IsoReader] : Json PyText φ → Answer Nat
  | .str text =>
    match readTimestamp text with
    | .ok t => .ok t
    | .error .nonCanonical => refuse "page_cursor_non_canonical" "cursor expiry is not canonical."
    | .error _ => refuse "page_cursor_invalid" "cursor expiry is invalid."
  | _ => refuse "page_cursor_invalid" "cursor expiry is invalid."

/-- The position of a payload. -/
def positionOf (members : List (PyText × Json PyText φ)) : Answer CursorPosition :=
  match nonEmptyText (member "ordered_at" members) with
  | none => refuse "page_cursor_invalid" "cursor ordering time is invalid."
  | some orderedAt =>
    match nonEmptyText (member "resource_id" members) with
    | none => refuse "page_cursor_invalid" "cursor resource identifier is invalid."
    | some resourceId => .ok ⟨orderedAt, resourceId⟩

/-- The second half of `decode`. -/
def checkPayload [IsoReader] (organizationId resource : PyText) (filters : Filters) (now : Nat)
    (members : List (PyText × Json PyText φ)) : Answer CursorPosition := do
  demand (equalsOne (member "v" members))
    "page_cursor_version_unsupported" "cursor version is unsupported."
  demand (equalsText organizationId (member "organization_id" members))
    "page_cursor_scope_mismatch" "cursor does not belong to this organization."
  demand (equalsText resource (member "resource" members))
    "page_cursor_resource_mismatch" "cursor cannot be used for this resource."
  demand (equalsFilters filters (member "filters" members))
    "page_cursor_filter_mismatch" "cursor filters do not match the request."
  let expiry ← expiryOf (member "expires_at" members)
  demand (now < expiry) "page_cursor_expired" "cursor has expired."
  positionOf members

end

def SignedCursorCodec.decode (φ : Type) [PyFloat φ] [IsoReader] (hmac : Bytes → Bytes → Bytes)
    (interpreter : Interpreter) (codec : SignedCursorCodec) (cursor : List Char)
    (organizationId resource : PyText) (filters : Filters) (now : Nat) :
    Answer CursorPosition := do
  let members ← openCursor (φ := φ) hmac interpreter codec cursor
  checkPayload organizationId resource filters now members

end WebGuard.Pagination
