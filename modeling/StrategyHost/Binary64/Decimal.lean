import StrategyHost.Binary64.Basic
import StrategyHost.Text.Integer

/-!
# Reading decimal numbers

The nearest number to a decimal literal. The literal's value is taken exactly
and rounded once.
-/

namespace StrategyHost.Binary64

open StrategyHost.Text

/-- A decimal value: its digits as a natural number and a power of ten. -/
structure Decimal where
  digits : Nat
  exponent : Int
  deriving DecidableEq, Repr

/-- How many decimal digits a natural number has, none for zero. -/
def digitCount (value : Nat) : Nat :=
  if value = 0 then 0 else (Nat.toDigits 10 value).length

/-- The number nearest to a decimal value. Beyond 400 decimal places on either
side the answer is infinity or zero, whatever the digits are. -/
def ofDecimal (negative : Bool) (value : Decimal) : Binary64 :=
  if value.digits = 0 then zero negative
  else if 400 < value.exponent then infinity negative
  else if value.exponent + digitCount value.digits < -400 then zero negative
  else if 0 <= value.exponent then
    nearest negative (value.digits * Nat.pow 10 value.exponent.toNat * unitsPerOne) 1
  else nearest negative (value.digits * unitsPerOne) (Nat.pow 10 (-value.exponent).toNat)

/-- Why a text is not a number. -/
inductive LiteralFault where
  | empty
  | invalid
  deriving DecidableEq, Repr

namespace LiteralFault

/-- The wording of a fault. -/
def message : LiteralFault -> String
  | empty => "cannot parse float from empty string"
  | invalid => "invalid float literal"

end LiteralFault

/-- The digits at the front, as values, and the characters after them. -/
def spanDigits : List Char -> List Nat × List Char
  | [] => ([], [])
  | character :: rest =>
    match digit? character with
    | some digit =>
      let (digits, remaining) := spanDigits rest
      (digit :: digits, remaining)
    | none => ([], character :: rest)

/-- The natural number with these decimal digits, most significant first. -/
def ofDigits (digits : List Nat) : Nat :=
  digits.foldl (fun value digit => 10 * value + digit) 0

/-- The value of an exponent's digits. It stops growing at 65536, far beyond
every exponent that leads to a finite number other than zero. -/
def exponentOf (digits : List Nat) : Nat :=
  digits.foldl (fun value digit => if value < 65536 then 10 * value + digit else value) 0

/-- The exponent at the end of a literal: nothing, or `e`, a sign, and digits. -/
def readExponent : List Char -> Option Int
  | [] => some 0
  | mark :: rest =>
    if mark = 'e' || mark = 'E' then
      let (negative, rest) :=
        match rest with
        | '-' :: rest => (true, rest)
        | '+' :: rest => (false, rest)
        | _ => (false, rest)
      match spanDigits rest with
      | (first :: digits, []) =>
        let value := Int.ofNat (exponentOf (first :: digits))
        some (if negative then -value else value)
      | _ => none
    else none

/-- A decimal value without a sign: digits with at most one point, at least one
digit in all, and an optional exponent. -/
def readDecimal (characters : List Char) : Option Decimal :=
  let (whole, rest) := spanDigits characters
  let (fraction, rest) :=
    match rest with
    | '.' :: rest => spanDigits rest
    | _ => ([], rest)
  match whole ++ fraction with
  | [] => none
  | digits =>
    (readExponent rest).map fun exponent => ⟨ofDigits digits, exponent - fraction.length⟩

/-- The names of the values that have no digits, in lower case. -/
def named? (negative : Bool) (name : String) : Option Binary64 :=
  match name with
  | "nan" => some (if negative then nan.negate else nan)
  | "inf" | "infinity" => some (infinity negative)
  | _ => none

/-- Read a number: an optional sign, then a decimal value or one of the names
`nan`, `inf` and `infinity` in any case. -/
def read (characters : List Char) : Except LiteralFault Binary64 :=
  match characters with
  | [] => .error .empty
  | first :: rest =>
    let negative := first = '-'
    let body := if first = '-' || first = '+' then rest else characters
    match named? negative (String.ofList (body.map Char.toLower)) with
    | some number => .ok number
    | none =>
      match readDecimal body with
      | some value => .ok (ofDecimal negative value)
      | none => .error .invalid

end StrategyHost.Binary64
