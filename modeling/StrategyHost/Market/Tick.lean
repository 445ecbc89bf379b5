import StrategyHost.Wire.Fault
import StrategyHost.Wire.Word

/-!
# Ticks

A snapshot of the best prices of one contract. Bytes after the 80 of the first
version are ignored.
-/

namespace StrategyHost.Market

/-- A market data snapshot. -/
structure Tick where
  tickerIndex : UInt32
  /-- Microseconds since the epoch. -/
  timestamp : UInt64
  lastPrice : Binary64
  /-- The volume traded so far in the session. -/
  volume : UInt64
  bidPrice : Binary64
  bidVolume : UInt64
  askPrice : Binary64
  askVolume : UInt64
  upperLimitPrice : Binary64
  lowerLimitPrice : Binary64
  deriving DecidableEq, Repr

namespace Tick

/-- The number of bytes of a tick of the first version. -/
def size : Nat := 80

/-- The version that is written and understood. -/
def version : UInt32 := 1

/-- The price half way between bid and ask, where both sides have volume. -/
def midPrice? (tick : Tick) : Option Binary64 :=
  if 0 < tick.bidVolume && 0 < tick.askVolume then some (tick.bidPrice.add tick.askPrice).half
  else none

open Wire

/-- The payload of a tick. -/
def encode (tick : Tick) : List UInt8 :=
  put32 version
    ++ put32 tick.tickerIndex
    ++ put64 tick.timestamp
    ++ putNumber tick.lastPrice
    ++ put64 tick.volume
    ++ putNumber tick.bidPrice
    ++ put64 tick.bidVolume
    ++ putNumber tick.askPrice
    ++ put64 tick.askVolume
    ++ putNumber tick.upperLimitPrice
    ++ putNumber tick.lowerLimitPrice

/-- Read a tick. The version is looked at as soon as it is there, before the
length. -/
def decode (payload : List UInt8) : Except Fault Tick :=
  if payload.length < 4 then .error (.tooShort .tick payload.length)
  else if get32 payload 0 != version then .error (.version .tick (get32 payload 0))
  else if payload.length < size then .error (.truncated .tick version size payload.length)
  else
    .ok {
      tickerIndex := get32 payload 4
      timestamp := get64 payload 8
      lastPrice := getNumber payload 16
      volume := get64 payload 24
      bidPrice := getNumber payload 32
      bidVolume := get64 payload 40
      askPrice := getNumber payload 48
      askVolume := get64 payload 56
      upperLimitPrice := getNumber payload 64
      lowerLimitPrice := getNumber payload 72 }

end Tick

end StrategyHost.Market
