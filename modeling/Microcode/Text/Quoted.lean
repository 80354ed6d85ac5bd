import Microcode.Text.Numeral
import Microcode.Text.Printable

/-!
# Quoted text

A text in quotation marks, in which a backslash introduces everything that could
be misread. Single quotes are used unless the text holds a single quote and no
double quote. A code point that cannot be printed is written by its number in two,
four or eight hexadecimal digits.
-/

namespace Microcode.Text

/-- The mark that a text is quoted with. -/
def quotationMark (text : Text) : Char :=
  if text.contains (.char '\'') && !text.contains (.char '"') then '"' else '\''

/-- A code point in the shortest of the three numbered escapes. -/
def numberedEscape (code : Nat) : List Char :=
  if code < 0x100 then ['\\', 'x'] ++ (Numeral.paddedLowerHex 2 code).toList
  else if code < 0x10000 then ['\\', 'u'] ++ (Numeral.paddedLowerHex 4 code).toList
  else ['\\', 'U'] ++ (Numeral.paddedLowerHex 8 code).toList

/-- A code point inside quotation marks of the given kind. -/
def quotedPoint (mark : Char) (point : CodePoint) : List Char :=
  if point = .char mark || point = .char '\\' then ['\\', point.shown]
  else if point = .char '\n' then ['\\', 'n']
  else if point = .char '\r' then ['\\', 'r']
  else if point = .char '\t' then ['\\', 't']
  else if isPrintable point then [point.shown]
  else numberedEscape point.code

/-- A text in quotation marks. -/
def quoted (text : Text) : String :=
  let mark := quotationMark text
  String.ofList (mark :: text.flatMap (quotedPoint mark) ++ [mark])

/-- A string in quotation marks. -/
def quotedString (text : String) : String := quoted (ofString text)

/-- A single quote by itself changes the quotation mark. -/
example : quotedString "it's" = "\"it's\"" := by decide +kernel

/-- Beside a double quote it is escaped. -/
example : quotedString "'\"\n" = "'\\'\"\\n'" := by decide +kernel

/-- The zero-width space cannot be printed. -/
example : quotedString "\u200b" = "'\\u200b'" := by decide +kernel

/-- Half of a pair is written by its number. -/
example : quoted [.half 0] = "'\\ud800'" := by decide +kernel

end Microcode.Text
