/-!
# Case against ASCII

`capitals` and `folded` bring a text into one case in order to compare it with a text
of ASCII. A few letters beyond ASCII have capitals, or small forms, that are all ASCII;
the tables list them. Of every other letter beyond ASCII each form holds something
beyond ASCII, so it may stay as it is without making a comparison come out differently.
-/

namespace Microcode.Text

/-- The letters beyond ASCII whose capitals are ASCII. -/
def asciiCapitals : List (Char × List Char) := [
  ('ß', ['S', 'S']), ('ı', ['I']), ('ſ', ['S']), ('ﬀ', ['F', 'F']), ('ﬁ', ['F', 'I']),
  ('ﬂ', ['F', 'L']), ('ﬃ', ['F', 'F', 'I']), ('ﬄ', ['F', 'F', 'L']), ('ﬅ', ['S', 'T']),
  ('ﬆ', ['S', 'T'])]

/-- The letters beyond ASCII that are folded to ASCII. -/
def asciiFolds : List (Char × List Char) := [
  ('ß', ['s', 's']), ('ſ', ['s']), ('ẞ', ['s', 's']), ('\u212A', ['k']), ('ﬀ', ['f', 'f']),
  ('ﬁ', ['f', 'i']), ('ﬂ', ['f', 'l']), ('ﬃ', ['f', 'f', 'i']), ('ﬄ', ['f', 'f', 'l']),
  ('ﬅ', ['s', 't']), ('ﬆ', ['s', 't'])]

/-- A text in capitals. -/
def capitals (text : List Char) : List Char :=
  text.flatMap fun character => (asciiCapitals.lookup character).getD [character.toUpper]

/-- A text without distinctions of case. -/
def folded (text : List Char) : List Char :=
  text.flatMap fun character => (asciiFolds.lookup character).getD [character.toLower]

/-- A ligature has two capitals. -/
example : capitals "poﬆ".toList = "POST".toList := by decide

end Microcode.Text
