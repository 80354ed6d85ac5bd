/-!
# Texts

A text is a sequence of code points. Nearly all of them are characters, but a text that
arrives in a request may also hold halves of surrogate pairs that stand by themselves.
A string cannot hold those. `ofString` makes a text of any string, and `shown` gives the
string that comes closest to a text.
-/

namespace Microcode

/-- A character, or half of a surrogate pair. -/
inductive CodePoint where
  | char (character : Char)
  /-- The half with the code `0xD800 + index`. -/
  | half (index : Fin 0x800)
  deriving DecidableEq

namespace CodePoint

/-- The number of a code point. -/
def code : CodePoint → Nat
  | .char character => character.toNat
  | .half index => 0xD800 + index

/-- The code point of a number below `0x110000`. -/
def ofCode (code : Nat) : CodePoint :=
  if bound : 0xD800 ≤ code ∧ code < 0xE000 then .half ⟨code - 0xD800, by omega⟩
  else .char (Char.ofNat code)

/-- The character that a code point is, if it is one. -/
def char? : CodePoint → Option Char
  | .char character => some character
  | .half _ => none

/-- A code point as a character. Half of a pair becomes the replacement character. -/
def shown : CodePoint → Char
  | .char character => character
  | .half _ => Char.ofNat 0xFFFD

end CodePoint

/-- A sequence of code points. -/
abbrev Text := List CodePoint

namespace Text

/-- A string as a text. -/
def ofString (text : String) : Text := text.toList.map .char

/-- A text as a string, in which the replacement character stands for halves of pairs. -/
def shown (text : Text) : String := String.ofList (text.map CodePoint.shown)

/-- Nothing is replaced in the text of a string. -/
theorem shown_ofString (text : String) : (ofString text).shown = text := by
  have kept : CodePoint.shown ∘ CodePoint.char = id := rfl
  rw [shown, ofString, List.map_map, kept, List.map_id, String.ofList_toList]

end Text

end Microcode
