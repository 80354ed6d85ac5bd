/-!
# Hexadecimal digits

The sixteen digits, in either case, and numbers written with digits of a base.
-/

namespace Microcode.Text

/-- The value of a digit or letter in bases up to 36. -/
def digitValue? (character : Char) : Option Nat :=
  if '0' ≤ character ∧ character ≤ '9' then some (character.toNat - '0'.toNat)
  else if 'a' ≤ character ∧ character ≤ 'z' then some (character.toNat - 'a'.toNat + 10)
  else if 'A' ≤ character ∧ character ≤ 'Z' then some (character.toNat - 'A'.toNat + 10)
  else none

/-- The value of a digit of a base. -/
def digitIn? (base : Nat) (character : Char) : Option Nat :=
  (digitValue? character).filter (· < base)

/-- The value of a hexadecimal digit. -/
def hexDigit? (character : Char) : Option Nat := digitIn? 16 character

/-- The number that digits denote in a base, the most significant first. -/
def ofDigits (base : Nat) (digits : List Nat) : Nat :=
  digits.foldl (fun value digit => value * base + digit) 0

end Microcode.Text
