import StrategyHost.Binary64.Basic

/-!
# Shortest decimal digits

The fewest significant digits that read back as the same number, and of those
the nearest to it. A grid of `n` digits holds such a decimal exactly when one of
the number's two neighbours on the grid does, so only these are tried.
-/

namespace StrategyHost.Binary64

/-- Which of two equally near decimals is written. -/
inductive TieRule where
  | away
  | toEven
  deriving DecidableEq, Repr

/-- Decimal digits with the position of the point: `0.d₁d₂…dₙ · 10 ^ point`. -/
structure Digits where
  digits : List Char
  point : Int
  deriving DecidableEq, Repr

/-- Twice a magnitude and the ends of the interval of reals that round to it, all
in units, over a common denominator; the ends belong to it if `closed`. -/
structure Rounding where
  below : Nat
  centre : Nat
  above : Nat
  closed : Bool
  deriving Repr

namespace Rounding

/-- The interval around a finite magnitude other than zero. The gap below a
power of two is half the gap above it. -/
def ofNumber (number : Binary64) : Rounding :=
  let step := Nat.pow 2 number.scale
  let gapBelow :=
    if number.significand = leadingBit && 1 < number.exponentField then step / 2 else step
  ⟨2 * number.units - gapBelow, 2 * number.units, 2 * number.units + step,
    number.significand % 2 = 0⟩

/-- Whether a point, over the same denominator, rounds to the magnitude. -/
def holds (interval : Rounding) (point : Nat) : Bool :=
  if interval.closed then interval.below <= point && point <= interval.above
  else interval.below < point && point < interval.above

/-- The same interval over a denominator that is `factor` times as large. -/
def rescale (interval : Rounding) (factor : Nat) : Rounding :=
  ⟨interval.below * factor, interval.centre * factor, interval.above * factor, interval.closed⟩

end Rounding

/-- The multiple of `step` that is written for the interval's centre, if one of
the centre's two neighbours among the multiples rounds to it. -/
def gridPoint? (tie : TieRule) (interval : Rounding) (step : Nat) : Option Nat :=
  let lower := interval.centre / step
  let lowerHolds := interval.holds (lower * step)
  let upperHolds := interval.holds ((lower + 1) * step)
  if lowerHolds && upperHolds then
    let toLower := interval.centre - lower * step
    let toUpper := (lower + 1) * step - interval.centre
    if toLower < toUpper then some lower
    else if toUpper < toLower then some (lower + 1)
    else match tie with
      | .away => some (lower + 1)
      | .toEven => some (lower + lower % 2)
  else if lowerHolds then some lower
  else if upperHolds then some (lower + 1)
  else none

/-- Digits and point of `value · 10 ^ exponent`, without zeros at the end. -/
def digitsOf (value : Nat) (exponent : Int) : Digits :=
  let digits := Nat.toDigits 10 value
  ⟨(digits.reverse.dropWhile (· = '0')).reverse, exponent + digits.length⟩

/-- The position of the decimal point of a quotient: the least `p` with
`numerator / denominator < 10 ^ p`. The guess from the binary lengths is at most
one too small. -/
def decimalPoint (numerator denominator : Nat) : Int :=
  let binary : Int := Int.ofNat numerator.log2 - Int.ofNat denominator.log2
  let guess : Int := (binary - 1) * 30103 / 100000
  let reaches (point : Int) : Bool :=
    if 0 <= point then denominator * Nat.pow 10 point.toNat <= numerator
    else denominator <= numerator * Nat.pow 10 (-point).toNat
  if reaches guess then
    if reaches (guess + 1) then guess + 2 else guess + 1
  else guess

/-- The decimal written on the grid of `count` digits below `point`. -/
def onGrid? (tie : TieRule) (interval : Rounding) (point : Int) (count : Nat) : Option Digits :=
  let exponent := point - count
  let found :=
    if 0 <= exponent then
      gridPoint? tie interval (2 * unitsPerOne * Nat.pow 10 exponent.toNat)
    else
      gridPoint? tie (interval.rescale (Nat.pow 10 (-exponent).toNat)) (2 * unitsPerOne)
  found.map (digitsOf · exponent)

/-- The shortest digits of a finite number other than zero, without its sign.
Seventeen digits always suffice. -/
def shortest (tie : TieRule) (number : Binary64) : Digits :=
  let interval := Rounding.ofNumber number
  let point := decimalPoint number.units unitsPerOne
  ((List.range 17).findSome? fun index => onGrid? tie interval point (index + 1)).getD ⟨[], 0⟩

end StrategyHost.Binary64
