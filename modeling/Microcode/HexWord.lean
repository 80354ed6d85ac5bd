import Microcode.Text.Blank
import Microcode.Text.HexDigit
import Microcode.Text.Lowercase

/-!
# Words written in hexadecimal

A word is written with an optional marker `0x` and at most eight hexadecimal digits
of either case. White space around it is ignored, missing digits in front count as
zeros, and no digits at all denote zero.

A refused text is shown in lower case and without its marker. Its length is looked
at before its characters.
-/

namespace Microcode.HexWord

/-- Why a text is no word. -/
inductive HexWordError where
  /-- More than eight characters behind the marker. -/
  | tooLong (body : Text)
  /-- A character that is no hexadecimal digit. -/
  | badDigit (body : Text)
  deriving DecidableEq

/-- The wording of a refused word. -/
def HexWordError.message : HexWordError → Text
  | .tooLong body =>
    Text.ofString "Invalid hex length: '" ++ body ++ Text.ofString "' (max 8 digits)"
  | .badDigit body => Text.ofString "Invalid hex character found: '" ++ body ++ Text.ofString "'"

/-- The greatest number of digits. -/
def width : Nat := 8

/-- A text without the marker in front of it. -/
def dropMarker : Text → Text
  | .char '0' :: .char 'x' :: rest => rest
  | text => text

/-- What a text says apart from white space, case and marker. -/
def body (text : Text) : Text := dropMarker (Text.lowerCase (Text.strip text))

/-- A digit as it is written in lower case. -/
def lowerDigit? (point : CodePoint) : Option Nat := do
  let character ← point.char?
  if 'A' ≤ character ∧ character ≤ 'F' then none else Text.hexDigit? character

/-- The word that a text denotes. -/
def parse (text : Text) : Except HexWordError Int :=
  let body := body text
  if width < body.length then .error (.tooLong body)
  else
    match body.mapM lowerDigit? with
    | some digits => .ok (Text.ofDigits 16 digits)
    | none => .error (.badDigit body)

/-- Case, marker and white space do not matter. -/
example : parse (.ofString " 0XC ") = .ok 12 := by rfl

/-- A ninth digit is refused even if it is a leading zero. -/
example : parse (.ofString "000000000") = .error (.tooLong (.ofString "000000000")) := by rfl

/-- Only one marker is dropped. -/
example : parse (.ofString "0x0x1") = .error (.badDigit (.ofString "0x1")) := by rfl

end Microcode.HexWord
