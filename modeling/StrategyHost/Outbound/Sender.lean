import StrategyHost.Contract.Basic
import StrategyHost.Journal.Entry
import StrategyHost.Outbound.Queue
import StrategyHost.Trade.Request

/-!
# Sending orders

An order is looked up in the contract table, written for the wire and queued.
An order that fails any of this leaves nothing behind but its log entries.
-/

namespace StrategyHost.Outbound

open StrategyHost.Journal (Entry)
open StrategyHost.Trade (Order Request)

/-- Who sends: the strategy's identifier and the contracts it may name. -/
structure Sender where
  strategyId : String
  contracts : ContractTable
  deriving DecidableEq, Repr

/-- What became of an order or a cancellation. -/
structure Sent where
  result : Except Failure Unit
  queue : Queue
  entries : List Entry

namespace Sender

/-- The request for an order of a contract. -/
def request (sender : Sender) (contract : Contract) (order : Order) : Request where
  strategyId := WireId.ofText sender.strategyId
  userOrderId := order.userOrderId
  tickerIndex := contract.tickerIndex
  direction := order.direction
  offset := order.offset
  orderType := order.orderType
  volume := order.volume
  price := order.price

/-- The payload of an order, whose ticker has to be in the table. -/
def encode (sender : Sender) (order : Order) : Except Failure (List UInt8) :=
  (sender.contracts.byTicker order.ticker).map fun contract =>
    (sender.request contract order).encode

/-- Send an order: it is queued, or refused for one reason. -/
def send (sender : Sender) (queue : Queue) (order : Order) : Sent :=
  match sender.encode order with
  | .error failure =>
    ⟨.error (.orderSkipped order.ticker failure.message), queue,
      [.sending order, .orderSkipped order.ticker failure]⟩
  | .ok payload =>
    match queue.offer ⟨order.userOrderId, order.ticker, payload⟩ with
    | .ok extended => ⟨.ok (), extended, [.sending order]⟩
    | .error .full =>
      ⟨.error Refusal.full.toFailure, queue,
        [.sending order, .queueFull order.userOrderId order.ticker]⟩
    | .error .closed => ⟨.error Refusal.closed.toFailure, queue, [.sending order]⟩

/-- Send orders in turn. -/
def sendAll (sender : Sender) (queue : Queue) :
    List Order -> List (Except Failure Unit) × Queue × List Entry
  | [] => ([], queue, [])
  | order :: rest =>
    let sent := sender.send queue order
    let (results, after, entries) := sender.sendAll sent.queue rest
    (sent.result :: results, after, sent.entries ++ entries)

/-- Ask for an order to be cancelled, for which the wire has no command. -/
def cancel (queue : Queue) (orderId : UInt64) : Sent :=
  ⟨.error (.unsupported "cancel_order"), queue, [.cancelRefused orderId]⟩

end Sender

end StrategyHost.Outbound
