/-!
# Binary floating point numbers of 64 bits

A price is kept as its bit pattern, so that copying it never changes it. The
finite numbers are the signed multiples of the smallest positive one; `units`
is that multiple, and rounding, addition and halving are exact arithmetic on it.
-/

namespace StrategyHost

/-- A binary floating point number of 64 bits, told apart by its bit pattern. -/
structure Binary64 where
  bits : UInt64
  deriving DecidableEq, Repr, Inhabited

namespace Binary64

/-- The bit pattern of positive infinity, which is also the greatest magnitude
of a number that is not a NaN. -/
def infinityBits : Nat := 0x7FF0000000000000

/-- The sign bit. -/
def signBit : Nat := 0x8000000000000000

/-- The leading bit of a normal number's significand, which the pattern leaves out. -/
def leadingBit : Nat := 0x10000000000000

/-- Whether the sign bit is set. -/
def isNegative (number : Binary64) : Bool :=
  signBit <= number.bits.toNat

/-- The bit pattern without its sign. -/
def magnitudeBits (number : Binary64) : Nat :=
  number.bits.toNat % signBit

/-- The number with this sign and this pattern of the other bits. -/
def ofMagnitudeBits (negative : Bool) (magnitude : Nat) : Binary64 :=
  ⟨UInt64.ofNat (if negative then signBit + magnitude else magnitude)⟩

/-- Whether the pattern stands for no number. -/
def isNaN (number : Binary64) : Bool :=
  infinityBits < number.magnitudeBits

/-- Whether the number is positive or negative infinity. -/
def isInfinite (number : Binary64) : Bool :=
  number.magnitudeBits = infinityBits

/-- Whether the pattern stands for a finite number. -/
def isFinite (number : Binary64) : Bool :=
  number.magnitudeBits < infinityBits

/-- The exponent field. -/
def exponentField (number : Binary64) : Nat :=
  number.magnitudeBits / leadingBit

/-- How many binary places the significand stands above the last one. -/
def scale (number : Binary64) : Nat :=
  number.exponentField - 1

/-- The significand, with its leading bit where the number is normal. -/
def significand (number : Binary64) : Nat :=
  if number.exponentField = 0 then number.magnitudeBits
  else leadingBit + number.magnitudeBits % leadingBit

/-- The magnitude of a finite number as a multiple of the smallest positive one. -/
def units (number : Binary64) : Nat :=
  number.significand * Nat.pow 2 number.scale

/-- How many units make one. -/
def unitsPerOne : Nat := Nat.pow 2 1074

/-- The nearest natural number to a quotient, a half going to the even neighbour. -/
def roundHalfEven (numerator denominator : Nat) : Nat :=
  let quotient := numerator / denominator
  let twice := 2 * (numerator % denominator)
  if twice < denominator then quotient
  else if denominator < twice then quotient + 1
  else quotient + quotient % 2

/-- The pattern of the magnitude nearest to a quotient of units, a half going to
the even neighbour, and infinity from half a step past the greatest number on. -/
def nearestBits (numerator denominator : Nat) : Nat :=
  let shift := (numerator / denominator).log2 - 52
  min infinityBits
    (shift * leadingBit + roundHalfEven numerator (denominator * Nat.pow 2 shift))

/-- The number nearest to a signed quotient of units. -/
def nearest (negative : Bool) (numerator denominator : Nat) : Binary64 :=
  ofMagnitudeBits negative (nearestBits numerator denominator)

/-- The number zero with the given sign. -/
def zero (negative : Bool) : Binary64 :=
  ofMagnitudeBits negative 0

/-- Infinity with the given sign. -/
def infinity (negative : Bool) : Binary64 :=
  ofMagnitudeBits negative infinityBits

/-- The pattern produced where no number is the answer. -/
def nan : Binary64 := ⟨0x7FF8000000000000⟩

/-- The number nearest to a natural number. -/
def ofNat (value : Nat) : Binary64 :=
  nearest false (value * unitsPerOne) 1

/-- The number with the opposite sign. -/
def negate (number : Binary64) : Binary64 :=
  ofMagnitudeBits (!number.isNegative) number.magnitudeBits

/-- The signed multiple of the smallest positive number. -/
def signedUnits (number : Binary64) : Int :=
  if number.isNegative then -(Int.ofNat number.units) else Int.ofNat number.units

/-- The rounded sum. An exact zero sum is positive unless both parts are negative. -/
def add (left right : Binary64) : Binary64 :=
  if left.isNaN || right.isNaN then nan
  else if left.isInfinite then
    if right.isInfinite && left.isNegative != right.isNegative then nan else left
  else if right.isInfinite then right
  else
    let sum := left.signedUnits + right.signedUnits
    if sum = 0 then zero (left.isNegative && right.isNegative)
    else nearest (sum < 0) sum.natAbs 1

/-- The rounded half. -/
def half (number : Binary64) : Binary64 :=
  if number.isFinite then nearest number.isNegative number.units 2 else number

/-- The rounded product. -/
def multiply (left right : Binary64) : Binary64 :=
  let negative := left.isNegative != right.isNegative
  if left.isNaN || right.isNaN then nan
  else if left.isInfinite || right.isInfinite then
    if left.magnitudeBits = 0 || right.magnitudeBits = 0 then nan else infinity negative
  else nearest negative (left.units * right.units) unitsPerOne

/-- The rounded quotient by a finite number other than zero. -/
def divide (number divisor : Binary64) : Binary64 :=
  let negative := number.isNegative != divisor.isNegative
  if number.isNaN then nan
  else if number.isInfinite then infinity negative
  else nearest negative (number.units * unitsPerOne) divisor.units

end Binary64

end StrategyHost
