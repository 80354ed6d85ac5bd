import Microcode.Bits
import Microcode.Text.Numeral

/-!
# Double precision numbers

A finite number is a sign, a natural significand below `2 ^ 53` and a power of two.
Decimals are rounded to the nearest number, ties to the even significand. A number
is printed with the fewest decimal digits that are rounded back to it. All of this
is exact arithmetic on natural numbers.
-/

namespace Microcode

/-- A double precision number. -/
inductive Binary64 where
  | nan
  | infinite (negative : Bool)
  /-- The number `significand * 2 ^ exponent` with a sign. -/
  | finite (negative : Bool) (significand : Nat) (exponent : Int)
  deriving DecidableEq

namespace Binary64

open Microcode.Bits (weight)

/-- A power of ten. -/
def powerOfTen (exponent : Nat) : Nat := Nat.pow 10 exponent

/-- The significands of 53 bits lie between this bound and its double. -/
def significandBound : Nat := 0x10000000000000

/-- The exponent of the smallest numbers. -/
def minExponent : Int := -1074

/-- The exponent of the greatest numbers. -/
def maxExponent : Int := 971

/-- The quotient of two natural numbers rounded to the nearest, ties to even. -/
def roundedQuotient (numerator denominator : Nat) : Nat :=
  let quotient := numerator / denominator
  let twice := 2 * (numerator % denominator)
  if twice < denominator then quotient
  else if denominator < twice then quotient + 1
  else quotient + quotient % 2

/-- The fraction `numerator / denominator / 2 ^ exponent`. -/
def scaled (numerator denominator : Nat) (exponent : Int) : Nat × Nat :=
  if 0 ≤ exponent then (numerator, denominator * weight exponent.toNat)
  else (numerator * weight (-exponent).toNat, denominator)

/-- The exponent at which a positive fraction has a significand of 53 bits, or the
least exponent if that is greater. -/
def fittingExponent (numerator denominator : Nat) : Int :=
  let estimate : Int := numerator.log2 - denominator.log2 - 53
  let (upper, lower) := scaled numerator denominator estimate
  if upper / lower < 2 * significandBound then max minExponent estimate
  else max minExponent (estimate + 1)

/-- The number with a significand and an exponent. A significand that rounding has
carried to 54 bits is halved, and a number beyond the range is infinite. -/
def normalized (negative : Bool) (significand : Nat) (exponent : Int) : Binary64 :=
  let carried := significand = 2 * significandBound
  if maxExponent < (if carried then exponent + 1 else exponent) then .infinite negative
  else if carried then .finite negative significandBound (exponent + 1)
  else .finite negative significand exponent

/-- The number nearest to a positive fraction. -/
def ofFraction (negative : Bool) (numerator denominator : Nat) : Binary64 :=
  let exponent := fittingExponent numerator denominator
  let (upper, lower) := scaled numerator denominator exponent
  normalized negative (roundedQuotient upper lower) exponent

/-- Zero with a sign. -/
def zero (negative : Bool) : Binary64 := .finite negative 0 minExponent

/-- The number nearest to `digits * 10 ^ exponent`. Exponents far outside the range
are settled without forming the power. -/
def ofDecimal (negative : Bool) (digits : Nat) (exponent : Int) : Binary64 :=
  if digits = 0 then zero negative
  else
    let magnitude := exponent + (Text.Numeral.digits 10 digits).length
    if 310 < magnitude then .infinite negative
    else if magnitude < -330 then zero negative
    else if 0 ≤ exponent then ofFraction negative (digits * powerOfTen exponent.toNat) 1
    else ofFraction negative digits (powerOfTen (-exponent).toNat)

/-- Whether the number equals zero, of either sign. -/
def isZero : Binary64 → Bool
  | .finite _ significand _ => significand = 0
  | _ => false

/-- A positive decimal: `digits * 10 ^ exponent`. -/
structure Decimal where
  digits : Nat
  exponent : Int
  deriving DecidableEq

/-- The positive reals that are rounded to a number, over a common denominator: the
number itself, the ends of the interval, and whether the ends belong to it. -/
structure RoundingInterval where
  value : Nat
  low : Nat
  high : Nat
  denominator : Nat
  closed : Bool

/-- The interval of a positive number. The lower neighbour of a power of two is only
half as far away as the upper one. -/
def roundingInterval (significand : Nat) (exponent : Int) : RoundingInterval :=
  let below := if significand = significandBound ∧ minExponent < exponent then 1 else 2
  let unit := if 2 ≤ exponent then weight (exponent - 2).toNat else 1
  { value := 4 * significand * unit
    low := (4 * significand - below) * unit
    high := (4 * significand + 2) * unit
    denominator := if 2 ≤ exponent then 1 else weight (2 - exponent).toNat
    closed := significand % 2 = 0 }

/-- Whether `numerator / denominator`, with the denominator of the interval
multiplied by `factor`, lies in the interval. -/
def RoundingInterval.holds (interval : RoundingInterval) (factor numerator : Nat) : Bool :=
  if interval.closed then interval.low * factor ≤ numerator ∧ numerator ≤ interval.high * factor
  else interval.low * factor < numerator ∧ numerator < interval.high * factor

/-- The nearer of the two neighbours of a number on the grid of multiples of
`10 ^ exponent`, among those that lie in the interval; of two equally near ones the
even multiple. -/
def onGrid? (interval : RoundingInterval) (exponent : Int) : Option Decimal :=
  let factor := if 0 ≤ exponent then 1 else powerOfTen (-exponent).toNat
  let step := interval.denominator * (if 0 ≤ exponent then powerOfTen exponent.toNat else 1)
  let value := interval.value * factor
  let lower := value / step
  let lowerHolds := interval.holds factor (lower * step)
  let upperHolds := interval.holds factor ((lower + 1) * step)
  let twice := 2 * (value % step)
  let preferUpper := step < twice || (twice == step && lower % 2 == 1)
  if lowerHolds && !(upperHolds && preferUpper) then some ⟨lower, exponent⟩
  else if upperHolds then some ⟨lower + 1, exponent⟩
  else none

/-- The first of successively finer grids that has a point in the interval. After
`fuel` refinements the point nearest to the number is taken. -/
def shortestFrom (interval : RoundingInterval) : Nat → Int → Decimal
  | 0, exponent =>
    (onGrid? interval exponent).getD ⟨interval.value / interval.denominator, 0⟩
  | fuel + 1, exponent =>
    match onGrid? interval exponent with
    | some decimal => decimal
    | none => shortestFrom interval fuel (exponent - 1)

/-- The shortest decimal that is rounded to a positive number. The search begins at
a grid coarser than the number, and seventeen digits always suffice. -/
def shortest (significand : Nat) (exponent : Int) : Decimal :=
  let interval := roundingInterval significand exponent
  let wholeDigits := (Text.Numeral.digits 10 (interval.value / interval.denominator)).length
  let leading : Int :=
    if interval.denominator ≤ interval.value then wholeDigits
    else -((Text.Numeral.digits 10 (interval.denominator / interval.value)).length - 1 : Int)
  shortestFrom interval 20 leading

/-- Text of a positive decimal. It is positional if the point falls at most sixteen
places behind the first digit and at most four places before it, and has an exponent
of at least two digits otherwise. A positional text has a digit on either side of
the point. -/
def Decimal.text (decimal : Decimal) : String :=
  let digits := Text.Numeral.digits 10 decimal.digits
  let significant := (digits.reverse.dropWhile (· == '0')).reverse
  let point : Int := digits.length + decimal.exponent
  if point ≤ -4 ∨ 16 < point then
    let exponent := point - 1
    let fraction := significant.drop 1
    let mantissa := significant.take 1 ++ if fraction.isEmpty then [] else '.' :: fraction
    let exponentDigits := Text.Numeral.digits 10 exponent.natAbs
    String.ofList (mantissa ++ ['e', if exponent < 0 then '-' else '+']
      ++ List.replicate (2 - exponentDigits.length) '0' ++ exponentDigits)
  else if point ≤ 0 then
    String.ofList (['0', '.'] ++ List.replicate (-point).toNat '0' ++ significant)
  else
    let whole := significant.take point.toNat
    let fraction := significant.drop point.toNat
    String.ofList (whole ++ List.replicate (point.toNat - whole.length) '0' ++ ['.']
      ++ if fraction.isEmpty then ['0'] else fraction)

/-- The text of a number. -/
def text : Binary64 → String
  | .nan => "nan"
  | .infinite negative => if negative then "-inf" else "inf"
  | .finite negative significand exponent =>
    (if negative then "-" else "")
      ++ if significand = 0 then "0.0" else (shortest significand exponent).text

/-- Whole numbers keep a digit behind the point. -/
example : (ofDecimal false 1 2).text = "100.0" := by decide

/-- Great numbers have an exponent with a sign. -/
example : (ofDecimal false 1 22).text = "1e+22" := by decide

/-- Exponents have two digits at least. -/
example : (ofDecimal false 1 (-5)).text = "1e-05" := by decide

end Binary64

end Microcode
