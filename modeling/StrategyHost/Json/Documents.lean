import StrategyHost.Contract.Basic
import StrategyHost.Json.Number
import StrategyHost.Json.Printer
import StrategyHost.Market.Tick
import StrategyHost.Trade.Order
import StrategyHost.Trade.Response

/-!
# Trading data as JSON

The JSON forms of terms, orders, responses, ticks and contracts.
-/

namespace StrategyHost

open Json (Layout Record Value writeBoolean writeObject writeText)

namespace Trade

/-- Read a term. -/
def Vocabulary.ofJson? {Term : Type} [Vocabulary Term] (value : Value) : Option Term :=
  value.name?.bind Vocabulary.ofJsonName?

/-- The JSON text of a term. -/
def Vocabulary.toJson {Term : Type} [Vocabulary Term] (term : Term) : String :=
  writeText (Vocabulary.jsonName term)

namespace Order

/-- The members of an order. -/
def layout : Layout :=
  ⟨["ticker", "direction", "offset", "order_type", "volume", "price", "user_order_id"], 7⟩

/-- Read an order. -/
def ofJson? (value : Value) : Option Order := do
  let record <- Record.ofValue? layout value
  return {
    ticker := ← record.required "ticker" Value.text?
    direction := ← record.required "direction" Vocabulary.ofJson?
    offset := ← record.required "offset" Vocabulary.ofJson?
    orderType := ← record.required "order_type" Vocabulary.ofJson?
    volume := ← record.required "volume" Value.uint32?
    price := ← record.required "price" Value.number64?
    userOrderId := ← record.required "user_order_id" Value.uint32? }

/-- The JSON text of an order. -/
def toJson (order : Order) : String :=
  writeObject [
    ("ticker", writeText order.ticker),
    ("direction", Vocabulary.toJson order.direction),
    ("offset", Vocabulary.toJson order.offset),
    ("order_type", Vocabulary.toJson order.orderType),
    ("volume", Text.decimal order.volume.toNat),
    ("price", order.price.jsonText),
    ("user_order_id", Text.decimal order.userOrderId.toNat)]

end Order

namespace Response

/-- The members of a response. -/
def layout : Layout :=
  ⟨["user_order_id", "order_id", "ticker_index", "direction", "offset", "original_volume",
    "traded_volume", "this_traded", "this_traded_price", "error_code", "completed"], 11⟩

/-- Read a response. -/
def ofJson? (value : Value) : Option Response := do
  let record <- Record.ofValue? layout value
  return {
    userOrderId := ← record.required "user_order_id" Value.uint32?
    orderId := ← record.required "order_id" Value.uint64?
    tickerIndex := ← record.required "ticker_index" Value.uint32?
    direction := ← record.required "direction" Vocabulary.ofJson?
    offset := ← record.required "offset" Vocabulary.ofJson?
    originalVolume := ← record.required "original_volume" Value.uint32?
    tradedVolume := ← record.required "traded_volume" Value.uint32?
    thisTraded := ← record.required "this_traded" Value.uint32?
    thisTradedPrice := ← record.required "this_traded_price" Value.number64?
    errorCode := ← record.required "error_code" Value.int32?
    completed := ← record.required "completed" Value.boolean? }

/-- The JSON text of a response. -/
def toJson (response : Response) : String :=
  writeObject [
    ("user_order_id", Text.decimal response.userOrderId.toNat),
    ("order_id", Text.decimal response.orderId.toNat),
    ("ticker_index", Text.decimal response.tickerIndex.toNat),
    ("direction", Vocabulary.toJson response.direction),
    ("offset", Vocabulary.toJson response.offset),
    ("original_volume", Text.decimal response.originalVolume.toNat),
    ("traded_volume", Text.decimal response.tradedVolume.toNat),
    ("this_traded", Text.decimal response.thisTraded.toNat),
    ("this_traded_price", response.thisTradedPrice.jsonText),
    ("error_code", Text.signedDecimal response.errorCode.toInt),
    ("completed", writeBoolean response.completed)]

end Response

end Trade

namespace Market.Tick

/-- The members of a tick. -/
def layout : Layout :=
  ⟨["ticker_index", "timestamp_us", "last_price", "volume", "bid_price", "bid_volume",
    "ask_price", "ask_volume", "upper_limit_price", "lower_limit_price"], 10⟩

/-- Read a tick. -/
def ofJson? (value : Value) : Option Tick := do
  let record <- Record.ofValue? layout value
  return {
    tickerIndex := ← record.required "ticker_index" Value.uint32?
    timestamp := ← record.required "timestamp_us" Value.uint64?
    lastPrice := ← record.required "last_price" Value.number64?
    volume := ← record.required "volume" Value.uint64?
    bidPrice := ← record.required "bid_price" Value.number64?
    bidVolume := ← record.required "bid_volume" Value.uint64?
    askPrice := ← record.required "ask_price" Value.number64?
    askVolume := ← record.required "ask_volume" Value.uint64?
    upperLimitPrice := ← record.required "upper_limit_price" Value.number64?
    lowerLimitPrice := ← record.required "lower_limit_price" Value.number64? }

/-- The JSON text of a tick. -/
def toJson (tick : Tick) : String :=
  writeObject [
    ("ticker_index", Text.decimal tick.tickerIndex.toNat),
    ("timestamp_us", Text.decimal tick.timestamp.toNat),
    ("last_price", tick.lastPrice.jsonText),
    ("volume", Text.decimal tick.volume.toNat),
    ("bid_price", tick.bidPrice.jsonText),
    ("bid_volume", Text.decimal tick.bidVolume.toNat),
    ("ask_price", tick.askPrice.jsonText),
    ("ask_volume", Text.decimal tick.askVolume.toNat),
    ("upper_limit_price", tick.upperLimitPrice.jsonText),
    ("lower_limit_price", tick.lowerLimitPrice.jsonText)]

end Market.Tick

/-- The JSON text of a contract. -/
def Contract.toJson (contract : Contract) : String :=
  writeObject [
    ("ticker_index", Text.decimal contract.tickerIndex.toNat),
    ("ticker", writeText contract.ticker),
    ("exchange", writeText contract.exchange),
    ("name", writeText contract.name),
    ("size", Text.signedDecimal contract.size),
    ("price_tick", contract.priceTick.jsonText)]

end StrategyHost
