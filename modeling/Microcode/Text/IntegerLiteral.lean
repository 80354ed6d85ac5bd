import Microcode.Text.Blank
import Microcode.Text.DecimalDigit
import Microcode.Text.HexDigit
import Microcode.Text.Numeral
import Microcode.Text.Quoted

/-!
# Integer literals

An integer is written with an optional sign, an optional marker `0x`, `0o` or `0b`
in either case, and digits. Single underscores may part the digits and may follow
the marker. Without a marker the number is decimal and begins with a zero only if
it is zero. White space around it is ignored.

White space and decimal digits of any script count as the ASCII ones. A decimal number
may have at most 4300 digits; that is found out before anything that follows the digits
is looked at.
-/

namespace Microcode.Text.IntegerLiteral

/-- Why a text is no integer literal. -/
inductive LiteralError where
  /-- The text does not have the form of a literal. -/
  | malformed (text : Text)
  /-- The number has too many decimal digits. -/
  | tooLong (digits : Nat)
  deriving DecidableEq

/-- The greatest number of decimal digits. -/
def digitLimit : Nat := 4300

/-- The wording of a refused literal. A malformed text is quoted, and the quotation
is cut after 200 characters. -/
def LiteralError.message : LiteralError → String
  | .malformed text =>
    "invalid literal for int() with base 0: "
      ++ String.ofList ((quoted text).toList.take 200)
  | .tooLong digits =>
    "Exceeds the limit (" ++ Numeral.decimal digitLimit
      ++ " digits) for integer string conversion: value has " ++ Numeral.decimal digits
      ++ " digits; use sys.set_int_max_str_digits() to increase the limit"

/-- The ASCII character that a code point counts as. -/
def asciiForm? (point : CodePoint) : Option Char :=
  if point.code < 127 then some point.shown
  else if isBlank point then some ' '
  else (decimalDigit? point).map fun digit => Char.ofNat ('0'.toNat + digit)

/-- A text in ASCII. A code point that counts as no ASCII character becomes a question
mark, which no literal contains. -/
def normalize (text : Text) : List Char := text.map fun point => (asciiForm? point).getD '?'

/-- The parts of a literal in front of its digits. -/
structure Opening where
  negative : Bool
  base : Nat
  /-- Only zero may be written with these digits. -/
  onlyZero : Bool
  rest : List Char

/-- A marker and the base it announces. -/
def markedBase? (letter : Char) : Option Nat :=
  if letter = 'x' || letter = 'X' then some 16
  else if letter = 'o' || letter = 'O' then some 8
  else if letter = 'b' || letter = 'B' then some 2
  else none

/-- Reads a marker and the underscore that may follow it. -/
def readBase (negative : Bool) : List Char → Opening
  | '0' :: letter :: rest =>
    match markedBase? letter with
    | some base => ⟨negative, base, false, if rest.head? = some '_' then rest.tail else rest⟩
    | none => ⟨negative, 10, true, '0' :: letter :: rest⟩
  | '0' :: rest => ⟨negative, 10, true, '0' :: rest⟩
  | rest => ⟨negative, 10, false, rest⟩

/-- Reads a sign and a marker. -/
def readOpening : List Char → Opening
  | '+' :: rest => readBase false rest
  | '-' :: rest => readBase true rest
  | rest => readBase false rest

/-- Whether underscores only part digits: none at either end, no two together. -/
def underscoresPart : List Char → Bool
  | [] => true
  | '_' :: _ => false
  | _ :: [] => true
  | _ :: '_' :: rest => !rest.isEmpty && underscoresPart rest
  | _ :: rest => underscoresPart rest

/-- The integer that a text denotes. -/
def parse (text : Text) : Except LiteralError Int :=
  let opening := readOpening ((normalize text).dropWhile isAsciiBlank)
  let inNumber (character : Char) : Bool :=
    character == '_' || (digitIn? opening.base character).isSome
  let written := opening.rest.takeWhile inNumber
  let behind := (opening.rest.dropWhile inNumber).dropWhile isAsciiBlank
  let digits := written.filterMap (digitIn? opening.base)
  let value := ofDigits opening.base digits
  if !underscoresPart written then .error (.malformed text)
  else if opening.base = 10 ∧ digitLimit < digits.length then .error (.tooLong digits.length)
  else if digits.isEmpty ∨ (opening.onlyZero ∧ value ≠ 0) ∨ !behind.isEmpty then
    .error (.malformed text)
  else .ok (if opening.negative then -value else value)

/-- An underscore may follow the marker. -/
example : parse (ofString " -0x_1F ") = .ok (-31) := by rfl

/-- Only zero begins with a zero. -/
example : parse (ofString "0_0") = .ok 0 := by rfl

/-- A literal that begins with a zero for no reason is malformed. -/
example : parse (ofString "010") = .error (.malformed (ofString "010")) := by rfl

end Microcode.Text.IntegerLiteral
