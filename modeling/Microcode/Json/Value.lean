import Microcode.Number.Binary64
import Microcode.Text.Quoted

/-!
# JSON values

A JSON value as a request carries it. Integers and numbers with a fraction or an
exponent are kept apart. The members of an object have distinct names and stand in
the order in which the names first appeared.

Names and strings are texts and may hold halves of surrogate pairs.

Two notations of a value are defined here. `Value.literal` is the notation in which
messages show values, and `Value.compact` is JSON without blanks.
-/

namespace Microcode.Json

/-- A JSON value. -/
inductive Value where
  | null
  | bool (value : Bool)
  | integer (value : Int)
  | real (value : Binary64)
  | string (value : Text)
  | array (items : List Value)
  | object (members : List (Text × Value))

namespace Value

/-- A string value. -/
def ofString (text : String) : Value := .string (.ofString text)

/-- An object whose members have names that are strings. -/
def record (members : List (String × Value)) : Value :=
  .object (members.map fun (name, value) => (.ofString name, value))

/-- The member of a given name. -/
def member? (name : String) (members : List (Text × Value)) : Option Value :=
  members.lookup (.ofString name)

/-- Members with one more. A name that is already present keeps its place and gets
the new value. -/
def insertMember (name : Text) (value : Value) : List (Text × Value) → List (Text × Value)
  | [] => [(name, value)]
  | (other, kept) :: rest =>
    if other = name then (name, value) :: rest
    else (other, kept) :: insertMember name value rest

/-- Whether a value counts as true: everything but null, false, zeros and what is
empty. -/
def isTruthy : Value → Bool
  | .null => false
  | .bool value => value
  | .integer value => value ≠ 0
  | .real value => !value.isZero
  | .string value => !value.isEmpty
  | .array items => !items.isEmpty
  | .object members => !members.isEmpty

mutual

/-- A value as messages show it: strings are quoted, and lists and objects are
written out. -/
def literal : Value → String
  | .null => "None"
  | .bool value => if value then "True" else "False"
  | .integer value => Text.Numeral.decimal value
  | .real value => value.text
  | .string value => Text.quoted value
  | .array items => "[" ++ ", ".intercalate (literals items) ++ "]"
  | .object members => "\x7b" ++ ", ".intercalate (memberLiterals members) ++ "\x7d"

/-- The texts of a list of values. -/
def literals : List Value → List String
  | [] => []
  | item :: rest => literal item :: literals rest

/-- The texts of an object's members. -/
def memberLiterals : List (Text × Value) → List String
  | [] => []
  | (name, value) :: rest =>
    (Text.quoted name ++ ": " ++ literal value) :: memberLiterals rest

end

/-- The text that a value is converted to. A string is its own text. -/
def text : Value → Text
  | .string value => value
  | other => .ofString other.literal

/-- A UTF-16 unit in a numbered escape. -/
def unitEscape (unit : Nat) : List Char :=
  ['\\', 'u'] ++ (Text.Numeral.paddedLowerHex 4 unit).toList

/-- A code point inside a JSON string. Everything beyond ASCII is escaped, and a
character beyond the first plane as two units. -/
def escapedPoint (point : CodePoint) : List Char :=
  let code := point.code
  if point = .char '"' || point = .char '\\' then ['\\', point.shown]
  else if 0x20 ≤ code ∧ code < 0x7F then [point.shown]
  else if code < 0x10000 then unitEscape code
  else unitEscape (0xD800 + (code - 0x10000) / 0x400)
    ++ unitEscape (0xDC00 + (code - 0x10000) % 0x400)

/-- A JSON string. -/
def stringLiteral (text : Text) : String :=
  String.ofList ('"' :: text.flatMap escapedPoint ++ ['"'])

mutual

/-- JSON without blanks. -/
def compact : Value → String
  | .null => "null"
  | .bool value => if value then "true" else "false"
  | .integer value => Text.Numeral.decimal value
  | .real .nan => "NaN"
  | .real (.infinite negative) => if negative then "-Infinity" else "Infinity"
  | .real value => value.text
  | .string value => stringLiteral value
  | .array items => "[" ++ ",".intercalate (compactItems items) ++ "]"
  | .object members => "\x7b" ++ ",".intercalate (compactMembers members) ++ "\x7d"

/-- The JSON of a list of values. -/
def compactItems : List Value → List String
  | [] => []
  | item :: rest => compact item :: compactItems rest

/-- The JSON of an object's members. -/
def compactMembers : List (Text × Value) → List String
  | [] => []
  | (name, value) :: rest =>
    (stringLiteral name ++ ":" ++ compact value) :: compactMembers rest

end

end Value

end Microcode.Json
