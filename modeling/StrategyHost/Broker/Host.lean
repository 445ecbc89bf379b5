import StrategyHost.Text.Integer
import StrategyHost.Text.Split

/-!
# Hosts in addresses

Which texts may stand as the host of an address: an IPv6 address in brackets, or
any characters but those that delimit parts of addresses.
-/

namespace StrategyHost.Broker.Host

/-- Whether a text is a number up to 255 without a needless zero. -/
def isOctet (digits : List Char) : Bool :=
  !digits.isEmpty && digits.length <= 3 && digits.all Char.isDigit
    && (digits.length = 1 || digits.head? != some '0')
    && digits.foldl (fun value digit => 10 * value + (digit.toNat - '0'.toNat)) 0 <= 255

/-- Whether a text is an IPv4 address. -/
def isIPv4 (characters : List Char) : Bool :=
  let parts := Text.splitOn '.' characters
  parts.length = 4 && parts.all isOctet

/-- Whether a text is one group of an IPv6 address. -/
def isGroup (characters : List Char) : Bool :=
  !characters.isEmpty && characters.length <= 4
    && characters.all fun character => (Text.hexDigit? character).isSome

/-- How many groups these texts stand for, if they are groups; an IPv4 address at
the end stands for two. -/
def groupCount? : List (List Char) -> Option Nat
  | [] => some 0
  | [last] => if isGroup last then some 1 else if isIPv4 last then some 2 else none
  | group :: rest => if isGroup group then (groupCount? rest).map (· + 1) else none

/-- The texts before and after the first pair of colons. -/
def splitAtGap : List Char -> Option (List Char × List Char)
  | ':' :: ':' :: rest => some ([], rest)
  | character :: rest => (splitAtGap rest).map fun (before, after) => (character :: before, after)
  | [] => none

/-- The groups of one side of a gap. -/
def groups (characters : List Char) : List (List Char) :=
  if characters.isEmpty then [] else Text.splitOn ':' characters

/-- Whether a text is an IPv6 address: eight groups, or fewer with one gap. -/
def isIPv6 (characters : List Char) : Bool :=
  match splitAtGap characters with
  | none => groupCount? (Text.splitOn ':' characters) = some 8
  | some (before, after) =>
    (before.isEmpty || (Text.splitOn ':' before).all isGroup)
      && match groupCount? (groups after) with
        | some count => count + (groups before).length <= 7
        | none => false

/-- The characters that cannot be part of a host. -/
def delimiters : List Char :=
  ['\x00', '\t', '\n', '\r', ' ', '#', '/', ':', '<', '>', '?', '@', '[', '\\', ']', '^', '|']

/-- Whether a text may stand as a host. -/
def isValid : List Char -> Bool
  | '[' :: rest => rest.getLast? = some ']' && isIPv6 rest.dropLast
  | characters => characters.all fun character => !delimiters.contains character

end StrategyHost.Broker.Host
