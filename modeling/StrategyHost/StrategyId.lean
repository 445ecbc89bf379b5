import StrategyHost.Text.Utf8

/-!
# Strategy identifiers

A strategy is known by a text of any length, and on the wire by sixteen bytes:
the text's first sixteen, padded with zeros. Reading stops at the first zero,
and before a character that the cut has split.
-/

namespace StrategyHost

/-- The number of bytes that an identifier takes on the wire. -/
def WireId.size : Nat := 16

/-- A strategy identifier as it stands on the wire. -/
structure WireId where
  bytes : List UInt8
  length_bytes : bytes.length = WireId.size
  deriving DecidableEq, Repr

namespace WireId

/-- The first sixteen of these bytes, padded with zeros. -/
def ofBytes (bytes : List UInt8) : WireId where
  bytes := bytes.take size ++ List.replicate (size - bytes.length) 0
  length_bytes := by simp [size]; omega

/-- The identifier that a text has on the wire. -/
def ofText (text : String) : WireId :=
  ofBytes (Text.Utf8.encode text)

/-- The bytes before the first zero. -/
def content (id : WireId) : List UInt8 :=
  id.bytes.takeWhile (· != 0)

/-- The text that the identifier begins with. -/
def text (id : WireId) : String :=
  Text.Utf8.longestText id.content

end WireId

/-- The channel on which a strategy hears about its orders: its identifier as the
wire has it, and none for a strategy without an identifier. -/
def responseChannel? (strategyId : String) : Option String :=
  if strategyId.isEmpty then none else some (WireId.ofText strategyId).text

end StrategyHost
