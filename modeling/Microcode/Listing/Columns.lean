import Microcode.Listing
import Microcode.Text.HexDigit

/-!
# Reading a listing back

The two columns of an instruction line hold its address and its word in eight
hexadecimal digits each. Reading them recovers what was listed, whatever the print
style. Other lines have no columns.
-/

namespace Microcode.Listing

/-- The lines of a text, after characters of the first line that are given in reverse.
What follows the last line end is no line. -/
def cutLinesAfter (before : List Char) : List Char → List (List Char)
  | [] => []
  | character :: rest =>
    if character = '\n' then before.reverse :: cutLinesAfter [] rest
    else cutLinesAfter (character :: before) rest

/-- The lines of a text in which every line is ended. -/
def cutLines (text : String) : List String :=
  (cutLinesAfter [] text.toList).map String.ofList

/-- The number in an eight-digit column. -/
def column? (digits : List Char) : Option Int :=
  (digits.mapM Text.hexDigit?).map fun values => (Text.ofDigits 16 values : Int)

/-- The address and the word in the columns of a line. -/
def columns? (line : String) : Option (Int × Int) :=
  match line.toList with
  | '/' :: '*' :: ' ' :: rest => do
    let address ← column? (rest.take 8)
    let word ← column? ((rest.drop 9).take 8)
    return (address, word)
  | _ => none

/-- The addresses and words that a listing shows. -/
def readBack (text : String) : List (Int × Int) := (cutLines text).filterMap columns?

end Microcode.Listing
