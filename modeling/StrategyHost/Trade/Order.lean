import StrategyHost.Binary64.Basic
import StrategyHost.Trade.Terms

/-!
# Orders

What a strategy asks to be traded, before it has a place on the wire.
-/

namespace StrategyHost.Trade

/-- A new order for one contract. -/
structure Order where
  ticker : String
  direction : Direction
  offset : Offset
  orderType : OrderType
  volume : UInt32
  price : Binary64
  /-- The strategy's own number for the order, echoed in responses. -/
  userOrderId : UInt32
  deriving DecidableEq, Repr

/-- The four usual orders. A closing one closes positions of the same day. -/
inductive Shorthand where
  | buyOpen
  | buyClose
  | sellOpen
  | sellClose
  deriving DecidableEq, Repr

namespace Shorthand

/-- The direction of a usual order. -/
def direction : Shorthand -> Direction
  | buyOpen | buyClose => .buy
  | sellOpen | sellClose => .sell

/-- The offset of a usual order. -/
def offset : Shorthand -> Offset
  | buyOpen | sellOpen => .opening
  | buyClose | sellClose => .closeToday

/-- A usual order spelled out; it has no number of the strategy's own. -/
def order (shorthand : Shorthand) (ticker : String) (volume : UInt32) (price : Binary64)
    (orderType : OrderType) : Order where
  ticker := ticker
  direction := shorthand.direction
  offset := shorthand.offset
  orderType := orderType
  volume := volume
  price := price
  userOrderId := 0

end Shorthand

end StrategyHost.Trade
