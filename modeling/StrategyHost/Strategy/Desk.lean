import StrategyHost.Outbound.Sender

/-!
# The desk of a strategy

What a strategy has at hand: its sender, the names of market data channels, and
the channels that it has asked for and that are not subscribed to yet. What it
can do there is a closed set of requests, each with its kind of reply.
-/

namespace StrategyHost.Strategy

open StrategyHost.Journal (Entry)
open StrategyHost.Outbound (Queue Sender Sent)
open StrategyHost.Trade (Order Shorthand)

/-- A strategy's view of the host. -/
structure Desk where
  sender : Sender
  /-- What stands before a ticker in the name of its market data channel. -/
  channelPrefix : String
  /-- Channels that have been asked for and wait to be subscribed to. -/
  requested : List String
  deriving DecidableEq, Repr

/-- What a strategy can do in a callback. -/
inductive Request where
  | subscribe (tickers : List String)
  | send (order : Order)
  | sendUsual (shorthand : Shorthand) (ticker : String) (volume : UInt32) (price : Binary64)
      (orderType : Trade.OrderType)
  | cancel (orderId : UInt64)
  | strategyId
  | responseChannel
  | marketChannel (ticker : String)
  | contractOf (ticker : String)
  | contractAt (index : UInt32)
  /-- Write to the log. -/
  | note (entry : Entry)

/-- The kind of reply to a request. -/
def Request.Reply : Request -> Type
  | subscribe _ | note _ => Unit
  | send _ | sendUsual .. | cancel _ => Except Failure Unit
  | strategyId | marketChannel _ => String
  | responseChannel => Option String
  | contractOf _ => Except Failure Contract
  | contractAt _ => Option Contract

/-- What a request led to. -/
structure Performed (request : Request) where
  reply : request.Reply
  desk : Desk
  queue : Queue
  entries : List Entry

namespace Desk

/-- The market data channel of a ticker. -/
def marketChannel (desk : Desk) (ticker : String) : String :=
  desk.channelPrefix ++ ticker

/-- The channel on which the strategy hears about its orders. -/
def responseChannel? (desk : Desk) : Option String :=
  StrategyHost.responseChannel? desk.sender.strategyId

/-- Ask for the channels of tickers. -/
def ask (desk : Desk) (tickers : List String) : Desk :=
  { desk with requested := desk.requested ++ tickers.map desk.marketChannel }

/-- What remains when the requested channels have been taken. -/
def cleared (desk : Desk) : Desk :=
  { desk with requested := [] }

/-- Perform a request. -/
def perform (desk : Desk) (queue : Queue) : (request : Request) -> Performed request
  | .subscribe tickers =>
    ⟨(), desk.ask tickers, queue,
      tickers.map fun ticker => .subscriptionRequested (desk.marketChannel ticker)⟩
  | .send order =>
    let sent := desk.sender.send queue order
    ⟨sent.result, desk, sent.queue, sent.entries⟩
  | .sendUsual shorthand ticker volume price orderType =>
    let sent := desk.sender.send queue (shorthand.order ticker volume price orderType)
    ⟨sent.result, desk, sent.queue, sent.entries⟩
  | .cancel orderId =>
    let sent := Sender.cancel queue orderId
    ⟨sent.result, desk, sent.queue, sent.entries⟩
  | .strategyId => ⟨desk.sender.strategyId, desk, queue, []⟩
  | .responseChannel => ⟨desk.responseChannel?, desk, queue, []⟩
  | .marketChannel ticker => ⟨desk.marketChannel ticker, desk, queue, []⟩
  | .contractOf ticker => ⟨desk.sender.contracts.byTicker ticker, desk, queue, []⟩
  | .contractAt index => ⟨desk.sender.contracts.byIndex? index.toNat, desk, queue, []⟩
  | .note entry => ⟨(), desk, queue, [entry]⟩

end Desk

end StrategyHost.Strategy
