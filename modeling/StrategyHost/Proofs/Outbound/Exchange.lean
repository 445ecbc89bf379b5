import StrategyHost.Proofs.Outbound.Sending
import StrategyHost.Strategy.Desk

/-!
# Both ends of a queue

Orders are sent by clones of a sender, directly or at the desk of a strategy. At the other end
commands are taken until nobody takes them any more. `Exchange.Step` admits all of this in any
order; what became of an order is read off the events.
-/

namespace StrategyHost.Outbound

open StrategyHost.Strategy (Desk)
open StrategyHost.Trade (Order)

/-- Perform a call as a request at the desk of a strategy. -/
def SenderCall.performAt (desk : Desk) (queue : Queue) : SenderCall -> Sent
  | send order =>
    let performed := desk.perform queue (.send order)
    ⟨performed.reply, performed.queue, performed.entries⟩
  | sendUsual shorthand ticker volume price orderType =>
    let performed := desk.perform queue (.sendUsual shorthand ticker volume price orderType)
    ⟨performed.reply, performed.queue, performed.entries⟩
  | cancel orderId =>
    let performed := desk.perform queue (.cancel orderId)
    ⟨performed.reply, performed.queue, performed.entries⟩

/-- A desk does with a call what its sender does. -/
theorem SenderCall.performAt_eq (desk : Desk) (queue : Queue) (call : SenderCall) :
    call.performAt desk queue = call.perform desk.sender queue := by
  cases call with
  | send => rfl
  | sendUsual => rfl
  | cancel => rfl

/-- A call that wants an order to be sent sends it. -/
theorem SenderCall.perform_of_order? {call : SenderCall} {order : Order}
    (wanted : call.order? = some order) (sender : Sender) (queue : Queue) :
    call.perform sender queue = sender.send queue order := by
  cases call with
  | send =>
    rw [← Option.some.inj wanted]
    rfl
  | sendUsual =>
    rw [← Option.some.inj wanted]
    rfl
  | cancel => simp [order?] at wanted

namespace Exchange

/-- Something that happens at a queue. -/
inductive Event where
  | called (call : SenderCall) (result : Except Failure Unit)
  | received (receipt : Queue.Receipt)
  | closed

/-- One step at either end of a queue. -/
inductive Step (sender : Sender) : Queue -> Event -> Queue -> Prop where
  | call {queue : Queue} (call : SenderCall) :
      Step sender queue (.called call (call.perform sender queue).result)
        (call.perform sender queue).queue
  | callAt {queue : Queue} {desk : Desk} (own : desk.sender = sender) (call : SenderCall) :
      Step sender queue (.called call (call.performAt desk queue).result)
        (call.performAt desk queue).queue
  | receive {queue : Queue} : Step sender queue (.received queue.receive.1) queue.receive.2
  | close {queue : Queue} : Step sender queue .closed queue.close

/-- Any number of steps, with their events. -/
inductive Steps (sender : Sender) (first : Queue) : List Event -> Queue -> Prop where
  | refl : Steps sender first [] first
  | step {events : List Event} {queue next : Queue} {event : Event}
      (prior : Steps sender first events queue) (transition : Step sender queue event next) :
      Steps sender first (events ++ [event]) next

/-- The order that an event accepts. -/
def Event.accepted? : Event -> Option Order
  | called call (.ok ()) => call.order?
  | _ => none

/-- The command that is taken at an event. -/
def Event.taken? : Event -> Option Command
  | received (.command command) => some command
  | _ => none

/-- Whether nobody takes commands any more from an event on. -/
def Event.isClosed : Event -> Bool
  | closed => true
  | _ => false

/-- The orders that were accepted, in the order in which they were. -/
def accepted (events : List Event) : List Order := events.filterMap Event.accepted?

/-- The commands that were taken, in the order in which they were. -/
def taken (events : List Event) : List Command := events.filterMap Event.taken?

variable {sender : Sender} {capacity : Nat} {events : List Event} {queue next : Queue}
  {event : Event}

@[simp] theorem accepted_concat (events : List Event) (event : Event) :
    accepted (events ++ [event]) = accepted events ++ event.accepted?.toList := by
  cases found : event.accepted? <;> simp [accepted, found]

@[simp] theorem taken_concat (events : List Event) (event : Event) :
    taken (events ++ [event]) = taken events ++ event.taken?.toList := by
  cases found : event.taken? <;> simp [taken, found]

/-- What holds of a queue whatever steps have led to it. -/
structure Valid (sender : Sender) (capacity : Nat) (events : List Event) (queue : Queue) :
    Prop where
  room : queue.capacity = capacity
  bounded : queue.waiting.length <= capacity
  /-- What has been accepted and not been taken waits, or was lost when the queue was closed. -/
  orders : ∃ lost, (accepted events).map sender.command =
    (taken events ++ queue.waiting ++ lost).map .ok ∧ (queue.isOpen = true -> lost = [])
  closed : queue.isOpen = !events.any Event.isClosed

theorem valid_start (opened : Queue.ofCapacity capacity = .ok queue) :
    Valid sender capacity [] queue := by
  obtain rfl := Queue.ofCapacity_eq opened
  exact {
    room := rfl
    bounded := Nat.zero_le capacity
    orders := ⟨[], rfl, fun _ => rfl⟩
    closed := rfl }

/-- A call appends the command of its order to an open queue, or changes nothing. -/
theorem Valid.call (valid : Valid sender capacity events queue) (call : SenderCall) :
    Valid sender capacity (events ++ [.called call (call.perform sender queue).result])
      (call.perform sender queue).queue := by
  obtain ⟨lost, orders, kept⟩ := valid.orders
  have room := valid.room
  have bounded := valid.bounded
  obtain ⟨order, command, wanted, written, ok, queued, free⟩ | ⟨failure, refused, same⟩ :=
    call.perform_cases sender queue
  · have sent := SenderCall.perform_of_order? wanted sender queue
    rw [sent] at ok
    obtain ⟨_, isOpen, _⟩ := (Sender.failsClosed_send (by omega)).accepted.mp ok
    -- An open queue has lost nothing, so the new command follows what waits.
    obtain rfl := kept isOpen
    rw [← sent] at ok
    rw [ok, queued]
    exact {
      room := room
      bounded := by
        simp only [List.length_append, List.length_singleton]
        omega
      orders := ⟨[], by simp [Event.accepted?, Event.taken?, wanted, written, orders],
        fun _ => rfl⟩
      closed := by simpa [Event.isClosed] using valid.closed }
  · rw [refused, same]
    exact { valid with
      orders := ⟨lost, by simpa [Event.accepted?, Event.taken?] using orders, kept⟩
      closed := by simpa [Event.isClosed] using valid.closed }

/-- What is received is the oldest command, if there is one and the queue is open. -/
theorem Valid.receive (valid : Valid sender capacity events queue) :
    Valid sender capacity (events ++ [.received queue.receive.1]) queue.receive.2 := by
  obtain ⟨lost, orders, kept⟩ := valid.orders
  have quiet (receipt : Queue.Receipt) (nothing : (Event.received receipt).taken? = none) :
      Valid sender capacity (events ++ [.received receipt]) queue :=
    { valid with
      orders := ⟨lost, by simpa [Event.accepted?, nothing] using orders, kept⟩
      closed := by simpa [Event.isClosed] using valid.closed }
  unfold Queue.receive
  split
  · split
    · rename_i command after found
      obtain ⟨waiting, others⟩ := Queue.take?_eq_some found
      have bounded := valid.bounded
      rw [waiting, List.length_cons] at bounded
      rw [others]
      exact {
        room := valid.room
        bounded := Nat.le_of_succ_le bounded
        orders := ⟨lost, by simpa [Event.accepted?, Event.taken?, waiting] using orders, kept⟩
        closed := by simpa [Event.isClosed] using valid.closed }
    · exact quiet .empty rfl
  · exact quiet .closed rfl

/-- Closing the queue loses what waits. -/
theorem Valid.close (valid : Valid sender capacity events queue) :
    Valid sender capacity (events ++ [.closed]) queue.close := by
  obtain ⟨lost, orders, _⟩ := valid.orders
  exact {
    room := valid.room
    bounded := Nat.zero_le capacity
    orders := ⟨queue.waiting ++ lost,
      by simpa [Event.accepted?, Event.taken?, Queue.close] using orders, by simp [Queue.close]⟩
    closed := by simp [Event.isClosed, Queue.close] }

/-- Every step keeps a queue valid. -/
theorem Step.valid (transition : Step sender queue event next)
    (valid : Valid sender capacity events queue) :
    Valid sender capacity (events ++ [event]) next := by
  cases transition with
  | call call => exact valid.call call
  | callAt own call =>
    rw [call.performAt_eq, own]
    exact valid.call call
  | receive => exact valid.receive
  | close => exact valid.close

/-- Wherever steps lead from a new queue, it is valid there. -/
theorem Steps.valid {first : Queue} (opened : Queue.ofCapacity capacity = .ok first)
    (steps : Steps sender first events queue) : Valid sender capacity events queue := by
  induction steps with
  | refl => exact valid_start opened
  | step _ transition inductionHypothesis => exact transition.valid inductionHypothesis

/-- What can be relied on at both ends of a queue after any steps. -/
structure Sound (sender : Sender) (capacity : Nat) (events : List Event) (queue : Queue) :
    Prop where
  bounded : queue.capacity = capacity ∧ queue.waiting.length <= capacity
  closed : queue.isOpen = !events.any Event.isClosed
  /-- What is taken are the first of the accepted orders. -/
  taken : (taken events).map .ok <+: (accepted events).map sender.command
  /-- As long as the queue is open, all others wait. -/
  waiting : queue.isOpen = true ->
    (accepted events).map sender.command = (Exchange.taken events ++ queue.waiting).map .ok
  /-- An order that is sent next is accepted or refused for one reason, however it is sent. -/
  sends : ∀ (call : SenderCall) (order : Order), call.order? = some order ->
    sender.FailsClosed queue order (call.perform sender queue) ∧
      ∀ desk : Desk, desk.sender = sender ->
        sender.FailsClosed queue order (call.performAt desk queue)
  /-- Nothing can be cancelled. -/
  cancels : ∀ (orderId : UInt64),
    (SenderCall.cancel orderId).perform sender queue =
        ⟨.error (.unsupported "cancel_order"), queue, [.cancelRefused orderId]⟩ ∧
      ∀ desk : Desk, desk.sender = sender ->
        (SenderCall.cancel orderId).performAt desk queue =
          ⟨.error (.unsupported "cancel_order"), queue, [.cancelRefused orderId]⟩

end Exchange

end StrategyHost.Outbound
