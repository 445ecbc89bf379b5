import StrategyHost.Json.Shape

/-!
# Floating point numbers in JSON

A number with a point or an exponent is read with a significand of 64 bits: the
digits that fit are kept, and the result is scaled by powers of ten in floating
point. This is fast rather than nearest, so the last bit may differ from the
nearest number's.
-/

namespace StrategyHost.Json

namespace Numeral

/-- The digits that a significand of 64 bits holds, and the power of ten that
belongs to it. -/
structure Scaled where
  significand : Nat
  exponent : Int
  deriving DecidableEq, Repr

/-- Whether one more digit fits. -/
def Scaled.fits (scaled : Scaled) (digit : Nat) : Bool :=
  10 * scaled.significand + digit < UInt64.size

/-- Add the digits before the point. From the first that does not fit on, each
one only counts as a power of ten. -/
def Scaled.addWhole (scaled : Scaled) : List Nat -> Scaled
  | [] => scaled
  | digit :: rest =>
    if scaled.fits digit then
      addWhole { scaled with significand := 10 * scaled.significand + digit } rest
    else { scaled with exponent := scaled.exponent + (rest.length + 1) }

/-- Add the digits after the point. From the first that does not fit on, they
are dropped. -/
def Scaled.addFraction (scaled : Scaled) : List Nat -> Scaled
  | [] => scaled
  | digit :: rest =>
    if scaled.fits digit then
      addFraction ⟨10 * scaled.significand + digit, scaled.exponent - 1⟩ rest
    else scaled

/-- The significand and power of ten of a number. -/
def scaled (numeral : Numeral) : Scaled :=
  let digits := (Scaled.mk 0 0 |>.addWhole numeral.whole).addFraction numeral.fraction
  { digits with exponent := digits.exponent + numeral.exponent?.getD 0 }

/-- The number nearest to a power of ten. -/
def powerOfTen (exponent : Nat) : Binary64 :=
  Binary64.ofNat (Nat.pow 10 exponent)

/-- The significand times its power of ten: one product or at most two quotients
of floating point numbers. A product beyond the greatest number is refused. -/
def Scaled.value? (scaled : Scaled) : Option Binary64 :=
  let significand := Binary64.ofNat scaled.significand
  if 308 < scaled.exponent then
    if scaled.significand = 0 then some significand else none
  else if 0 <= scaled.exponent then
    let product := significand.multiply (powerOfTen scaled.exponent.toNat)
    if product.isInfinite then none else some product
  else if -308 <= scaled.exponent then
    some (significand.divide (powerOfTen (-scaled.exponent).toNat))
  else if -616 <= scaled.exponent then
    some ((significand.divide (powerOfTen 308)).divide (powerOfTen (-scaled.exponent - 308).toNat))
  else some (Binary64.zero false)

/-- The floating point number that is read for a number. -/
def toBinary64? (numeral : Numeral) : Option Binary64 :=
  numeral.scaled.value?.map fun magnitude =>
    if numeral.negative then magnitude.negate else magnitude

end Numeral

/-- A floating point number. -/
def Value.number64? : Value -> Option Binary64
  | number numeral => numeral.toBinary64?
  | _ => none

end StrategyHost.Json
