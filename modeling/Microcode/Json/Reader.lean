import Microcode.Json.Value
import Microcode.Text.HexDigit
import Microcode.Text.IntegerLiteral

/-!
# Reading JSON

The reader accepts JSON with three additions: the names `NaN`, `Infinity` and
`-Infinity` are numbers. A control character inside a string is refused, as is an
integer of more than 4300 digits. Of members with one name the last value counts.
Nesting is limited; a text that goes deeper is told apart from one that is
malformed.

Recursion is bounded by a count that starts from the length of the text. Every
call consumes a character or opens an array or object, so the count does not run
out before the text does.
-/

namespace Microcode.Json

/-- What encloses other values. -/
inductive Container where
  | array
  | object
  deriving DecidableEq

/-- Why a text is not read. -/
inductive ReadError where
  /-- The text is no JSON. -/
  | malformed
  /-- A value of the given kind is nested too deeply. -/
  | tooDeep (container : Container)
  deriving DecidableEq

/-- The wording of nesting that is too deep. -/
def ReadError.message : ReadError → String
  | .malformed => "malformed JSON"
  | .tooDeep .array =>
    "maximum recursion depth exceeded while decoding a JSON array from a unicode string"
  | .tooDeep .object =>
    "maximum recursion depth exceeded while decoding a JSON object from a unicode string"

namespace Reader

/-- How deep arrays and objects may be nested. -/
def depthLimit : Nat := 975

/-- What was read together with the text behind it, or the reason why not. -/
abbrev Outcome := Except ReadError

/-- Whether a code point may stand between tokens. -/
def isSpace (point : CodePoint) : Bool :=
  point = .char ' ' || point = .char '\t' || point = .char '\n' || point = .char '\r'

/-- The text behind spaces. -/
def skipSpace (text : Text) : Text := text.dropWhile isSpace

/-- The value of four hexadecimal digits in front of a text. -/
def readUnit? : Text → Option (Nat × Text)
  | .char first :: .char second :: .char third :: .char fourth :: rest => do
    let digits ← [first, second, third, fourth].mapM Text.hexDigit?
    return (Text.ofDigits 16 digits, rest)
  | _ => none

/-- The character of a single-letter escape. -/
def simpleEscape? (letter : Char) : Option Char :=
  if letter = '"' ∨ letter = '\\' ∨ letter = '/' then some letter
  else if letter = 'b' then some (Char.ofNat 0x08)
  else if letter = 'f' then some (Char.ofNat 0x0C)
  else if letter = 'n' then some '\n'
  else if letter = 'r' then some '\r'
  else if letter = 't' then some '\t'
  else none

/-- The character that two UTF-16 units form, if they are a pair. -/
def pair? (first second : Nat) : Option CodePoint :=
  if 0xD800 ≤ first ∧ first < 0xDC00 ∧ 0xDC00 ≤ second ∧ second < 0xE000 then
    some (.ofCode (0x10000 + (first - 0xD800) * 0x400 + (second - 0xDC00)))
  else none

/-- Reads the UTF-16 unit or the pair of units of a numbered escape. Half of a pair may
stand by itself. -/
def readNumbered? (text : Text) : Option (CodePoint × Text) := do
  let (first, rest) ← readUnit? text
  let paired : Option (CodePoint × Text) :=
    match rest with
    | .char '\\' :: .char 'u' :: behind => do
      let (second, behind) ← readUnit? behind
      let point ← pair? first second
      return (point, behind)
    | _ => none
  return paired.getD (.ofCode first, rest)

/-- Reads an escape behind its backslash. -/
def readEscape? : Text → Option (CodePoint × Text)
  | .char 'u' :: behind => readNumbered? behind
  | .char letter :: behind => (simpleEscape? letter).map (.char ·, behind)
  | _ => none

/-- Reads a string behind its opening quote, after code points that were read before
and are given in reverse. -/
def readString : Nat → Text → Text → Outcome (Text × Text)
  | fuel + 1, before, point :: rest =>
    if point = .char '"' then .ok (before.reverse, rest)
    else if point.code < 0x20 then .error .malformed
    else if point = .char '\\' then
      match readEscape? rest with
      | none => .error .malformed
      | some (decoded, behind) => readString fuel (decoded :: before) behind
    else readString fuel (point :: before) rest
  | _, _, _ => .error .malformed

/-- The value of a decimal digit. -/
def digit? (point : CodePoint) : Option Nat := do Text.digitIn? 10 (← point.char?)

/-- The values of the decimal digits in front of a text, and what is behind them. -/
def takeDigits (text : Text) : List Nat × Text :=
  let (digits, behind) := text.span fun point => (digit? point).isSome
  (digits.filterMap digit?, behind)

/-- Reads a point and the digits behind it, if both are there. -/
def readFraction (text : Text) : List Nat × Text :=
  match text with
  | .char '.' :: rest =>
    let (digits, behind) := takeDigits rest
    if digits.isEmpty then ([], text) else (digits, behind)
  | _ => ([], text)

/-- Reads an exponent, if there is one. -/
def readExponent (text : Text) : Option Int × Text :=
  match text with
  | letter :: rest =>
    if letter = .char 'e' ∨ letter = .char 'E' then
      let (negative, rest) : Bool × Text :=
        match rest with
        | .char '+' :: behind => (false, behind)
        | .char '-' :: behind => (true, behind)
        | behind => (false, behind)
      let (digits, behind) := takeDigits rest
      let magnitude : Int := Text.ofDigits 10 digits
      if digits.isEmpty then (none, text)
      else (some (if negative then -magnitude else magnitude), behind)
    else (none, text)
  | [] => (none, text)

/-- Reads the digits in front of a point: a zero by itself, or digits that do not
begin with a zero. -/
def readWhole (text : Text) : List Nat × Text :=
  match text with
  | .char '0' :: rest => ([0], rest)
  | _ => takeDigits text

/-- Reads a number behind its sign. -/
def readNumber (negative : Bool) (text : Text) : Outcome (Value × Text) :=
  let (whole, rest) := readWhole text
  let (fraction, rest) := readFraction rest
  let (exponent, rest) := readExponent rest
  let digits := Text.ofDigits 10 (whole ++ fraction)
  if whole.isEmpty then .error .malformed
  else if fraction.isEmpty ∧ exponent.isNone then
    if Text.IntegerLiteral.digitLimit < whole.length then .error .malformed
    else .ok (.integer (if negative then -digits else digits), rest)
  else .ok (.real (.ofDecimal negative digits (exponent.getD 0 - fraction.length)), rest)

/-- The names that stand for values. -/
def names : List (Text × Value) := [
  (.ofString "null", .null), (.ofString "true", .bool true), (.ofString "false", .bool false),
  (.ofString "NaN", .real .nan), (.ofString "Infinity", .real (.infinite false)),
  (.ofString "-Infinity", .real (.infinite true))]

/-- Reads a name or a number. -/
def readScalar (text : Text) : Outcome (Value × Text) :=
  match names.find? fun (name, _) => name.isPrefixOf text with
  | some (name, value) => .ok (value, text.drop name.length)
  | none =>
    match text with
    | .char '-' :: rest => readNumber true rest
    | _ => readNumber false text

mutual

/-- Reads a value that begins at the front of a text. -/
def readValue : Nat → Nat → Text → Outcome (Value × Text)
  | 0, _, _ => .error .malformed
  | fuel + 1, _, .char '"' :: rest => do
    let (text, behind) ← readString fuel [] rest
    return (.string text, behind)
  | _ + 1, 0, .char '[' :: _ => .error (.tooDeep .array)
  | _ + 1, 0, .char '\x7b' :: _ => .error (.tooDeep .object)
  | fuel + 1, depth + 1, .char '[' :: rest =>
    match skipSpace rest with
    | .char ']' :: behind => .ok (.array [], behind)
    | behind => do
      let (items, behind) ← readItems fuel depth behind
      return (.array items, behind)
  | fuel + 1, depth + 1, .char '\x7b' :: rest =>
    match skipSpace rest with
    | .char '\x7d' :: behind => .ok (.object [], behind)
    | behind => do
      let (members, behind) ← readMembers fuel depth [] behind
      return (.object members, behind)
  | _ + 1, _, text => readScalar text

/-- Reads the items of an array up to its closing bracket. -/
def readItems : Nat → Nat → Text → Outcome (List Value × Text)
  | 0, _, _ => .error .malformed
  | fuel + 1, depth, text => do
    let (item, behind) ← readValue fuel depth text
    match skipSpace behind with
    | .char ']' :: behind => return ([item], behind)
    | .char ',' :: behind =>
      let (items, behind) ← readItems fuel depth (skipSpace behind)
      return (item :: items, behind)
    | _ => .error .malformed

/-- Reads the members of an object up to its closing brace, after those that were
read before. -/
def readMembers : Nat → Nat → List (Text × Value) → Text →
    Outcome (List (Text × Value) × Text)
  | fuel + 1, depth, before, .char '"' :: rest => do
    let (name, behind) ← readString fuel [] rest
    match skipSpace behind with
    | .char ':' :: behind =>
      let (value, behind) ← readValue fuel depth (skipSpace behind)
      let members := Value.insertMember name value before
      match skipSpace behind with
      | .char '\x7d' :: behind => return (members, behind)
      | .char ',' :: behind => readMembers fuel depth members (skipSpace behind)
      | _ => .error .malformed
    | _ => .error .malformed
  | _, _, _, _ => .error .malformed

end

end Reader

/-- The value of a JSON text. -/
def read (text : Text) : Except ReadError Value := do
  let (value, behind) ←
    Reader.readValue (2 * text.length + 2) Reader.depthLimit (Reader.skipSpace text)
  if (Reader.skipSpace behind).isEmpty then return value else .error .malformed

end Microcode.Json
