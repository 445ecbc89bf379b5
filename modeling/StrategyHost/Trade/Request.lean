import StrategyHost.StrategyId
import StrategyHost.Trade.Terms
import StrategyHost.Wire.Fault
import StrategyHost.Wire.Word

/-!
# Order requests

The command that the execution service takes: a payload of exactly 56 bytes
that begins with a magic word and the command's code.
-/

namespace StrategyHost.Trade

/-- The channel on which commands are published. -/
def commandChannel : String := "trader_cmd"

/-- An order as the execution service sees it. -/
structure Request where
  strategyId : WireId
  userOrderId : UInt32
  tickerIndex : UInt32
  direction : Direction
  offset : Offset
  orderType : OrderType
  volume : UInt32
  price : Binary64
  deriving DecidableEq, Repr

namespace Request

/-- The number of bytes of a request. -/
def size : Nat := 56

/-- The word that begins every command. -/
def magic : UInt32 := 0x01709394

open Wire

/-- The payload of a request. -/
def encode (request : Request) : List UInt8 :=
  put32 magic
    ++ put32 (Vocabulary.code CommandType.newOrder)
    ++ request.strategyId.bytes
    ++ put32 request.userOrderId
    ++ put32 request.tickerIndex
    ++ put32 (Vocabulary.code request.direction)
    ++ put32 (Vocabulary.code request.offset)
    ++ put32 (Vocabulary.code request.orderType)
    ++ put32 request.volume
    ++ putNumber request.price

/-- Read a request. Its length, magic word, command and terms are checked in
this order. -/
def decode (payload : List UInt8) : Except Fault Request :=
  if payload.length != size then .error (.requestLength size payload.length)
  else if get32 payload 0 != magic then .error (.magic (get32 payload 0))
  else
    match (Vocabulary.ofCode? (get32 payload 4) : Option CommandType) with
    | none => .error (.command (get32 payload 4))
    | some .newOrder =>
      match Vocabulary.ofCode? (get32 payload 32), Vocabulary.ofCode? (get32 payload 36),
          Vocabulary.ofCode? (get32 payload 40) with
      | none, _, _ => .error (.direction (get32 payload 32))
      | some _, none, _ => .error (.offset (get32 payload 36))
      | some _, some _, none => .error (.orderType (get32 payload 40))
      | some direction, some offset, some orderType =>
        .ok {
          strategyId := WireId.ofBytes (field payload 8 WireId.size)
          userOrderId := get32 payload 24
          tickerIndex := get32 payload 28
          direction := direction
          offset := offset
          orderType := orderType
          volume := get32 payload 44
          price := getNumber payload 48 }

end Request

end StrategyHost.Trade
