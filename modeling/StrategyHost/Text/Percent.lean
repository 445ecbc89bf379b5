import StrategyHost.Text.Utf8

/-!
# Percent encoding

Bytes written as a percent sign and two hexadecimal digits, as in addresses, and
with a plus for the blank in the queries of addresses.
-/

namespace StrategyHost.Text.Percent

/-- The value of the hexadecimal digit with this ASCII code. -/
def digit? (byte : UInt8) : Option UInt8 :=
  if 0x30 <= byte && byte <= 0x39 then some (byte - 0x30)
  else if 0x41 <= byte && byte <= 0x46 then some (byte - 0x37)
  else if 0x61 <= byte && byte <= 0x66 then some (byte - 0x57)
  else none

/-- Replace each percent sign that two digits follow, and leave the others. -/
def decode : List UInt8 -> List UInt8
  | [] => []
  | byte :: high :: low :: rest =>
    if byte = 0x25 then
      match digit? high, digit? low with
      | some highDigit, some lowDigit => (highDigit * 16 + lowDigit) :: decode rest
      | _, _ => byte :: decode (high :: low :: rest)
    else byte :: decode (high :: low :: rest)
  | byte :: rest => byte :: decode rest

/-- Decode a part of a query, in which a plus stands for a blank. -/
def decodeForm (bytes : List UInt8) : List UInt8 :=
  decode (bytes.map fun byte => if byte = 0x2B then 0x20 else byte)

end StrategyHost.Text.Percent
