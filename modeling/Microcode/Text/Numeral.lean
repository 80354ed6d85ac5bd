/-!
# Numerals

The numerals of a listing: decimal, hexadecimal in either case, and hexadecimal
padded with zeros. All of them accept every integer. A minus sign stands in front
of the digits, and in a padded numeral it takes one place of the width, so that
`-1` in eight places is `-0000001`. Digits beyond the width are kept.
-/

namespace Microcode.Text.Numeral

/-- Digits of a natural number, most significant first. Zero has one digit. -/
def digits (base value : Nat) : List Char := Nat.toDigits base value

/-- The sign that is written in front of a number's digits. -/
def sign (value : Int) : List Char := if value < 0 then ['-'] else []

/-- Decimal numeral. -/
def decimal (value : Int) : String :=
  String.ofList (sign value ++ digits 10 value.natAbs)

/-- Hexadecimal numeral with the letters `a` to `f` and without a marker. -/
def lowerHex (value : Int) : String :=
  String.ofList (sign value ++ digits 16 value.natAbs)

/-- The hexadecimal digits of a number with the letters `A` to `F`. -/
def upperDigits (value : Nat) : List Char := (digits 16 value).map Char.toUpper

/-- Hexadecimal numeral with the letters `A` to `F` and without a marker. -/
def upperHex (value : Int) : String :=
  String.ofList (sign value ++ upperDigits value.natAbs)

/-- A sign, zeros and digits that together fill at least `width` places. -/
def padded (width : Nat) (sign digits : List Char) : String :=
  String.ofList
    (sign ++ List.replicate (width - sign.length - digits.length) '0' ++ digits)

/-- Upper-case hexadecimal numeral of at least `width` places. -/
def paddedUpperHex (width : Nat) (value : Int) : String :=
  padded width (sign value) (upperDigits value.natAbs)

/-- Lower-case hexadecimal numeral of at least `width` places. -/
def paddedLowerHex (width : Nat) (value : Int) : String :=
  padded width (sign value) (digits 16 value.natAbs)

/-- The eight-place column in which addresses and words are listed. -/
def word (value : Int) : String := paddedUpperHex 8 value

/-- Hexadecimal with the marker `0x` behind the sign, as in `-0x4`. -/
def signedHex (value : Int) : String :=
  String.ofList (sign value ++ ['0', 'x'] ++ digits 16 value.natAbs)

/-- The sign takes one of the eight places. -/
example : word (-1) = "-0000001" := by decide

/-- A number of nine digits is shown whole. -/
example : word 0x123456789 = "123456789" := by decide

/-- The marker stands behind the sign. -/
example : signedHex (-4) = "-0x4" := by decide

end Microcode.Text.Numeral
