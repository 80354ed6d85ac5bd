import Microcode.Text.CharacterSet

/-!
# Blank characters

Two notions of white space are in use. `blank` holds every white space character
of Unicode together with the four information separators. `isAsciiBlank` accepts the
space and the five controls from tab to carriage return.
-/

namespace Microcode.Text

/-- White space of any script. -/
def blank : CharacterSet where
  ranges := [
    (0x9, 0xD), (0x1C, 0x20), (0x85, 0x85), (0xA0, 0xA0), (0x1680, 0x1680), (0x2000, 0x200A),
    (0x2028, 0x2029), (0x202F, 0x202F), (0x205F, 0x205F), (0x3000, 0x3000)]

/-- Whether a code point is white space of any script. -/
def isBlank (point : CodePoint) : Bool := blank.contains point

/-- Whether a character is white space in plain ASCII: the space, or one of the
controls from tab to carriage return. -/
def isAsciiBlank (character : Char) : Bool :=
  character == ' ' || ('\t' ≤ character && character ≤ '\r')

/-- A list without the elements of a kind at its two ends. -/
def stripWhere {α : Type} (dropped : α → Bool) (list : List α) : List α :=
  ((list.dropWhile dropped).reverse.dropWhile dropped).reverse

/-- A text without white space at its two ends. -/
def strip (text : Text) : Text := stripWhere isBlank text

end Microcode.Text
