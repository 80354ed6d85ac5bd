import Microcode.Text.CodePoint

/-!
# Sets of characters

A set of characters is given by the ranges of code points it covers, both ends
included.
-/

namespace Microcode.Text

/-- A set of characters. -/
structure CharacterSet where
  ranges : List (Nat × Nat)

/-- Whether a code point is in the set. -/
def CharacterSet.contains (set : CharacterSet) (point : CodePoint) : Bool :=
  set.ranges.any fun (first, last) => first ≤ point.code && point.code ≤ last

end Microcode.Text
