/-!
# Integers in text

Reading a signed 64-bit integer, and writing numbers in decimal digits. A digit is
looked at before its effect on the value, so of two faults the one further left is
reported.
-/

namespace StrategyHost.Text

/-- Why a text is not a signed 64-bit integer. -/
inductive IntegerFault where
  | empty
  | invalidDigit
  | tooLarge
  | tooSmall
  deriving DecidableEq, Repr

namespace IntegerFault

/-- The wording of a fault. -/
def message : IntegerFault -> String
  | empty => "cannot parse integer from empty string"
  | invalidDigit => "invalid digit found in string"
  | tooLarge => "number too large to fit in target type"
  | tooSmall => "number too small to fit in target type"

end IntegerFault

/-- The value of an ASCII decimal digit. -/
def digit? (character : Char) : Option Nat :=
  if '0' <= character && character <= '9' then some (character.toNat - '0'.toNat) else none

/-- The value of a hexadecimal digit. -/
def hexDigit? (character : Char) : Option Nat :=
  if '0' <= character && character <= '9' then some (character.toNat - '0'.toNat)
  else if 'a' <= character && character <= 'f' then some (character.toNat - 'a'.toNat + 10)
  else if 'A' <= character && character <= 'F' then some (character.toNat - 'A'.toNat + 10)
  else none

/-- The digits of a magnitude, each one checked against `limit` as it is added. -/
def magnitude (limit : Nat) (beyond : IntegerFault) : Nat -> List Char -> Except IntegerFault Nat
  | value, [] => .ok value
  | value, character :: rest =>
    match digit? character with
    | none => .error .invalidDigit
    | some digit =>
      if 10 * value + digit <= limit then magnitude limit beyond (10 * value + digit) rest
      else .error beyond

/-- The greatest signed 64-bit integer. -/
def greatestInt64 : Nat := 0x7FFFFFFFFFFFFFFF

/-- Read a signed 64-bit integer: an optional sign and at least one digit. -/
def readInt64 : List Char -> Except IntegerFault Int
  | [] => .error .empty
  | ['+'] | ['-'] => .error .invalidDigit
  | '+' :: digits => (magnitude greatestInt64 .tooLarge 0 digits).map Int.ofNat
  | '-' :: digits => (magnitude (greatestInt64 + 1) .tooSmall 0 digits).map fun value => -(Int.ofNat value)
  | digits => (magnitude greatestInt64 .tooLarge 0 digits).map Int.ofNat

/-- Decimal digits of a natural number, without a leading zero. -/
def decimal (value : Nat) : String :=
  String.ofList (Nat.toDigits 10 value)

/-- Decimal digits of a natural number with zeros in front, so that there are as many
digits as wanted. -/
def padded (width value : Nat) : String :=
  let digits := decimal value
  String.ofList (List.replicate (width - digits.length) '0') ++ digits

/-- Decimal digits of an integer, with a minus sign below zero. -/
def signedDecimal (value : Int) : String :=
  if value < 0 then "-" ++ decimal value.natAbs else decimal value.natAbs

end StrategyHost.Text
