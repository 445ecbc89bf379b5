import StrategyHost.Binary64.Shortest

/-!
# Numbers as text

The two layouts of the shortest digits. Log messages write every number in full
and whole numbers without a point; JSON always shows that a number is not an
integer and uses an exponent for long ones.
-/

namespace StrategyHost.Binary64

/-- Digits written in full: zeros fill the places up to the point, and there is
no point where nothing follows it. -/
def Digits.plain (shown : Digits) : List Char :=
  let count : Int := shown.digits.length
  if shown.point <= 0 then
    '0' :: '.' :: List.replicate (-shown.point).toNat '0' ++ shown.digits
  else if count <= shown.point then
    shown.digits ++ List.replicate (shown.point - count).toNat '0'
  else
    shown.digits.take shown.point.toNat ++ '.' :: shown.digits.drop shown.point.toNat

/-- One digit, a point if others follow, and the power of ten with its sign. -/
def Digits.scientific (shown : Digits) : List Char :=
  let exponent := shown.point - 1
  let power := (if exponent < 0 then '-' else '+') :: Nat.toDigits 10 exponent.natAbs
  match shown.digits with
  | [] => []
  | [digit] => digit :: 'e' :: power
  | first :: rest => first :: '.' :: rest ++ 'e' :: power

/-- Digits as JSON has them: in full between `0.00001` and `10 ^ 16`, and never
like an integer. -/
def Digits.json (shown : Digits) : List Char :=
  if -5 < shown.point && shown.point <= 16 then
    if Int.ofNat shown.digits.length <= shown.point then shown.plain ++ ['.', '0'] else shown.plain
  else shown.scientific

/-- A sign in front of negative numbers. -/
def signed (number : Binary64) (characters : List Char) : String :=
  String.ofList (if number.isNegative then '-' :: characters else characters)

/-- A number in a log message. -/
def logText (number : Binary64) : String :=
  if number.isNaN then "NaN"
  else if number.isInfinite then number.signed ['i', 'n', 'f']
  else if number.magnitudeBits = 0 then number.signed ['0']
  else number.signed (number.shortest .away).plain

/-- A number in a JSON document, `null` where it is not finite. -/
def jsonText (number : Binary64) : String :=
  if !number.isFinite then "null"
  else if number.magnitudeBits = 0 then number.signed ['0', '.', '0']
  else number.signed (number.shortest .toEven).json

end StrategyHost.Binary64
