import StrategyHost.Text.Integer

/-!
# Delays

Lengths of time in whole nanoseconds. The longest delay that can be held is a
64-bit number of seconds and the nanoseconds below the next one.
-/

namespace StrategyHost

/-- A length of time. -/
structure Delay where
  nanoseconds : Nat
  deriving DecidableEq, Repr

namespace Delay

/-- How many nanoseconds make a second. -/
def perSecond : Nat := 1000000000

/-- The longest delay that can be held. -/
def longest : Delay :=
  ⟨(UInt64.size - 1) * perSecond + (perSecond - 1)⟩

/-- A delay of whole milliseconds. -/
def ofMilliseconds (count : Nat) : Delay :=
  ⟨count * 1000000⟩

/-- Twice the delay, unless it cannot be held. -/
def double? (delay : Delay) : Option Delay :=
  if 2 * delay.nanoseconds <= longest.nanoseconds then some ⟨2 * delay.nanoseconds⟩ else none

/-- The shorter of two delays. -/
def shorter (left right : Delay) : Delay :=
  if left.nanoseconds <= right.nanoseconds then left else right

/-- The longest pause that a delay can ask for: thirty years of 365 days. -/
def longestPause : Delay := ⟨30 * 365 * 86400 * perSecond⟩

/-- The milliseconds that pass while a clock of whole milliseconds reaches the
end of the delay, or that of the longest pause. -/
def wholeMilliseconds (delay : Delay) : Nat :=
  ((delay.shorter longestPause).nanoseconds + 999999) / 1000000

/-- A quotient by `10 ^ places` in full, without zeros at the end. -/
def decimalQuotient (value places : Nat) : String :=
  let digits := Nat.toDigits 10 (value % Nat.pow 10 places)
  let fraction := List.replicate (places - digits.length) '0' ++ digits
  match (fraction.reverse.dropWhile (· = '0')).reverse with
  | [] => Text.decimal (value / Nat.pow 10 places)
  | shown => Text.decimal (value / Nat.pow 10 places) ++ "." ++ String.ofList shown

/-- A delay in the largest unit that it fills. -/
def text (delay : Delay) : String :=
  if perSecond <= delay.nanoseconds then decimalQuotient delay.nanoseconds 9 ++ "s"
  else if 1000000 <= delay.nanoseconds then decimalQuotient delay.nanoseconds 6 ++ "ms"
  else if 1000 <= delay.nanoseconds then decimalQuotient delay.nanoseconds 3 ++ "µs"
  else Text.decimal delay.nanoseconds ++ "ns"

end Delay

end StrategyHost
