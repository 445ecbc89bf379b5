/-!
# Bus messages

A payload on a channel.
-/

namespace StrategyHost.Bus

/-- A message on the bus. -/
structure Message where
  channel : String
  payload : List UInt8
  deriving DecidableEq, Repr

end StrategyHost.Bus
