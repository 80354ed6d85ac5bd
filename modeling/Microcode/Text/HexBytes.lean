import Microcode.Text.Blank
import Microcode.Text.HexDigit
import Microcode.Text.Numeral

/-!
# Bytes written in hexadecimal

Each byte is two digits, and white space may stand between bytes but not inside
one. A text with a character beyond ASCII is refused at the first such character.
Any other text is refused at the first character that is not a digit where one
is needed, which may be the end of the text.
-/

namespace Microcode.Text.HexBytes

/-- A text that is no sequence of bytes, refused at a position. -/
structure HexBytesError where
  position : Nat
  deriving DecidableEq

/-- The wording of a refused text. -/
def HexBytesError.message (refusal : HexBytesError) : String :=
  "non-hexadecimal number found in fromhex() arg at position "
    ++ Numeral.decimal refusal.position

/-- Reads bytes from a text that begins at a position. -/
def parseFrom (position : Nat) : List Char → Except HexBytesError (List UInt8)
  | [] => .ok []
  | first :: rest =>
    if isAsciiBlank first then parseFrom (position + 1) rest
    else
      match hexDigit? first, rest with
      | none, _ => .error ⟨position⟩
      | some _, [] => .error ⟨position + 1⟩
      | some high, second :: rest =>
        match hexDigit? second with
        | none => .error ⟨position + 1⟩
        | some low =>
          (parseFrom (position + 2) rest).map (UInt8.ofNat (16 * high + low) :: ·)

/-- The bytes that a text denotes. -/
def parse (text : Text) : Except HexBytesError (List UInt8) :=
  match text.findIdx? fun point => 128 ≤ point.code with
  | some position => .error ⟨position⟩
  | none => parseFrom 0 (text.filterMap CodePoint.char?)

/-- White space parts bytes. -/
example : parse (ofString "0a FF") = .ok [0x0A, 0xFF] := by rfl

/-- White space inside a byte is refused where the second digit is needed. -/
example : parse (ofString "0 a") = .error ⟨1⟩ := by rfl

/-- A character beyond ASCII is found before an earlier letter that is no digit. -/
example : parse (ofString "zé") = .error ⟨1⟩ := by rfl

end Microcode.Text.HexBytes
