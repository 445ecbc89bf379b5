import StrategyHost.Config.Basic
import StrategyHost.Outbound.Publisher
import StrategyHost.Outbound.Sender

/-!
# The command path

Everyone who takes part in getting orders from strategies to the bus: the holders
of a sender, the queue, and the publisher. The relation `Path.Step` admits their
steps in any order and with any outcome of publishing; what became of an order is
read off the events alone, never off the state.
-/

namespace StrategyHost.Outbound

open StrategyHost.Bus (Message)
open StrategyHost.Retry (Backoff Outcome Verdict)
open StrategyHost.Trade (Order Shorthand)

namespace Sender

/-- The command that an order is queued as, unless its ticker is unknown. -/
def command (sender : Sender) (order : Order) : Except Failure Command :=
  (sender.encode order).map fun payload => ⟨order.userOrderId, order.ticker, payload⟩

end Sender

/-- What a holder of a sender can call. -/
inductive SenderCall where
  | send (order : Order)
  | sendUsual (shorthand : Shorthand) (ticker : String) (volume : UInt32) (price : Binary64)
      (orderType : Trade.OrderType)
  | cancel (orderId : UInt64)

namespace SenderCall

/-- The order that a call wants to be sent. -/
def order? : SenderCall -> Option Order
  | send order => some order
  | sendUsual shorthand ticker volume price orderType =>
    some (shorthand.order ticker volume price orderType)
  | cancel _ => none

/-- Perform a call on the queue. -/
def perform (sender : Sender) (queue : Queue) : SenderCall -> Sent
  | send order => sender.send queue order
  | sendUsual shorthand ticker volume price orderType =>
    sender.send queue (shorthand.order ticker volume price orderType)
  | cancel orderId => Sender.cancel queue orderId

end SenderCall

/-- The command path between two steps of those who take part in it. -/
structure Path where
  /-- How many clones of the sender are held. -/
  holders : Nat
  queue : Queue
  publisher : Publisher
  /-- Whether the publisher has come to its end. -/
  hasReturned : Bool

namespace Path

/-- A path on which nothing has happened, with one holder of the sender. -/
def start (queue : Queue) (reconnect : Config.Reconnect) : Path where
  holders := 1
  queue := queue
  publisher := .idle reconnect.limits
  hasReturned := false

/-- The command that has been taken off the queue and is not settled, if there is one. -/
def inFlight (path : Path) : List Command :=
  (path.publisher.inFlight.map Prod.fst).toList

/-- Something that happens on the path. -/
inductive Event where
  | called (call : SenderCall) (result : Except Failure Unit)
  | cloned
  | dropped
  | taken
  /-- One attempt to publish the command in flight, by a message, and what followed
  from its outcome. -/
  | published (command : Command) (message : Message) (verdict : Verdict)
  | returned

/-- One step of a holder or of the publisher. Publishing may have any outcome, and the
publisher returns once nothing is left and nobody can send any more. -/
inductive Step (sender : Sender) : Path -> Event -> Path -> Prop where
  | call {path : Path} (call : SenderCall) (held : 0 < path.holders) :
      Step sender path (.called call (call.perform sender path.queue).result)
        { path with queue := (call.perform sender path.queue).queue }
  | clone {path : Path} (held : 0 < path.holders) :
      Step sender path .cloned { path with holders := path.holders + 1 }
  | drop {path : Path} (held : 0 < path.holders) :
      Step sender path .dropped { path with holders := path.holders - 1 }
  | take {path : Path} {publisher : Publisher} {queue : Queue}
      (running : path.hasReturned = false)
      (taken : path.publisher.take? path.queue = some (publisher, queue)) :
      Step sender path .taken { path with queue := queue, publisher := publisher }
  | publish {path : Path} {command : Command} {backoff : Backoff} (outcome : Outcome)
      (running : path.hasReturned = false)
      (flying : path.publisher.inFlight = some (command, backoff)) :
      Step sender path
        (.published command command.message
          (path.publisher.attempt command backoff outcome).verdict)
        { path with publisher := (path.publisher.attempt command backoff outcome).publisher }
  | finish {path : Path} (running : path.hasReturned = false) (abandoned : path.holders = 0)
      (idle : path.publisher.inFlight = none) (empty : path.queue.take? = none) :
      Step sender path .returned
        { path with queue := path.queue.close, hasReturned := true }

/-- Any number of steps, with their events. -/
inductive Steps (sender : Sender) (first : Path) : List Event -> Path -> Prop where
  | refl : Steps sender first [] first
  | step {events : List Event} {path next : Path} {event : Event}
      (prior : Steps sender first events path) (transition : Step sender path event next) :
      Steps sender first (events ++ [event]) next

/-- A step and the steps that follow it. -/
theorem Steps.cons {sender : Sender} {path next last : Path} {event : Event}
    {events : List Event} (transition : Step sender path event next)
    (rest : Steps sender next events last) : Steps sender path (event :: events) last := by
  induction rest with
  | refl => exact .step .refl transition
  | step _ later inductionHypothesis => exact .step inductionHypothesis later

/-- Steps that go on from where others have led. -/
theorem Steps.append {sender : Sender} {first middle last : Path} {before after : List Event}
    (prior : Steps sender first before middle) (rest : Steps sender middle after last) :
    Steps sender first (before ++ after) last := by
  induction rest with
  | refl => rwa [List.append_nil]
  | step _ later inductionHypothesis =>
    rw [← List.append_assoc]
    exact .step inductionHypothesis later

/-! ## What the events tell -/

/-- The order that an event accepts. -/
def Event.accepted? : Event -> Option Order
  | called call (.ok ()) => call.order?
  | _ => none

/-- The command that an event settles: it is published, or given up. -/
def Event.settled? : Event -> Option Command
  | published command _ .succeeded | published command _ (.failed _) => some command
  | _ => none

/-- The command that an event settles by publishing it. -/
def Event.delivered? : Event -> Option Command
  | published command _ .succeeded => some command
  | _ => none

/-- The message that an event hands to the bus. -/
def Event.publication? : Event -> Option Message
  | published _ message _ => some message
  | _ => none

/-- Whether an event is a call that was turned down. -/
def Event.isRejection : Event -> Bool
  | called _ (.error _) => true
  | _ => false

/-- The orders that were accepted, in the order in which they were. -/
def accepted (events : List Event) : List Order := events.filterMap Event.accepted?

/-- The commands that were settled, in the order in which they were. -/
def settled (events : List Event) : List Command := events.filterMap Event.settled?

/-- The commands that were published, in the order in which they were. -/
def delivered (events : List Event) : List Command := events.filterMap Event.delivered?

/-- The messages that were handed to the bus. -/
def publications (events : List Event) : List Message := events.filterMap Event.publication?

end Path

end StrategyHost.Outbound
