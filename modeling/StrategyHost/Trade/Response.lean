import StrategyHost.Trade.Terms
import StrategyHost.Wire.Fault
import StrategyHost.Wire.Word

/-!
# Order responses

What the execution service tells a strategy about one of its orders. Bytes
after the 56 of the first version are ignored.
-/

namespace StrategyHost.Trade

/-- News about an order: an acknowledgement, a fill, or a rejection. -/
structure Response where
  userOrderId : UInt32
  orderId : UInt64
  tickerIndex : UInt32
  direction : Direction
  offset : Offset
  originalVolume : UInt32
  /-- The volume traded so far. -/
  tradedVolume : UInt32
  /-- The volume of the fill that this response reports. -/
  thisTraded : UInt32
  thisTradedPrice : Binary64
  /-- Zero where the order was not rejected. -/
  errorCode : Int32
  /-- Whether no further response follows. -/
  completed : Bool
  deriving DecidableEq

namespace Response

/-- The number of bytes of a response of the first version. -/
def size : Nat := 56

/-- The version that is written and understood. -/
def version : UInt32 := 1

/-- Whether the execution service refused the order. -/
def isRejected (response : Response) : Bool :=
  response.errorCode != 0

open Wire

/-- The payload of a response. -/
def encode (response : Response) : List UInt8 :=
  put32 version
    ++ put32 response.userOrderId
    ++ put64 response.orderId
    ++ put32 response.tickerIndex
    ++ put32 (Vocabulary.code response.direction)
    ++ put32 (Vocabulary.code response.offset)
    ++ put32 response.originalVolume
    ++ put32 response.tradedVolume
    ++ put32 response.thisTraded
    ++ put32 response.errorCode.toUInt32
    ++ put32 (if response.completed then 1 else 0)
    ++ putNumber response.thisTradedPrice

/-- Read a response. Any word but zero says that the order is completed. -/
def decode (payload : List UInt8) : Except Fault Response :=
  if payload.length < 4 then .error (.tooShort .response payload.length)
  else if get32 payload 0 != version then .error (.version .response (get32 payload 0))
  else if payload.length < size then .error (.truncated .response version size payload.length)
  else
    match Vocabulary.ofCode? (get32 payload 20), Vocabulary.ofCode? (get32 payload 24) with
    | none, _ => .error (.direction (get32 payload 20))
    | some _, none => .error (.offset (get32 payload 24))
    | some direction, some offset =>
      .ok {
        userOrderId := get32 payload 4
        orderId := get64 payload 8
        tickerIndex := get32 payload 16
        direction := direction
        offset := offset
        originalVolume := get32 payload 28
        tradedVolume := get32 payload 32
        thisTraded := get32 payload 36
        thisTradedPrice := getNumber payload 48
        errorCode := (get32 payload 40).toInt32
        completed := get32 payload 44 != 0 }

end Response

end StrategyHost.Trade
