import StrategyHost.Proofs.Outbound.Cases
import StrategyHost.Proofs.Outbound.Encoder

/-!
# Sending fails closed

An order is queued, or refused for exactly one reason and without a trace. Which it is follows
from the table of the sender and from the queue: an unknown ticker weighs most, then a queue from
which nobody takes commands, then one that is full.
-/

namespace StrategyHost.Outbound

open StrategyHost.Trade (Order Request)

namespace Queue

variable {queue : Queue} {command : Command}

theorem offer_of_closed (closed : queue.isOpen = false) :
    queue.offer command = .error .closed := by
  simp [offer, closed]

theorem offer_of_full (isOpen : queue.isOpen = true)
    (full : queue.capacity <= queue.waiting.length) : queue.offer command = .error .full := by
  simp [offer, isOpen, full]

theorem offer_of_room (isOpen : queue.isOpen = true)
    (room : queue.waiting.length < queue.capacity) :
    queue.offer command = .ok { queue with waiting := queue.waiting ++ [command] } := by
  simp [offer, isOpen, Nat.not_le_of_lt room]

end Queue

/-- A command says what an order of a sender says, and can be read back. -/
structure Command.IsFor (command : Command) (sender : Sender) (order : Order) : Prop where
  userOrderId : command.userOrderId = order.userOrderId
  ticker : command.ticker = order.ticker
  payload : ∃ request, Request.decode command.payload = .ok request ∧
    Carries request sender.strategyId order ∧
    ∃ contract ∈ sender.contracts.contracts, contract.ticker = order.ticker ∧
      request.tickerIndex = contract.tickerIndex

namespace Sender

variable {sender : Sender} {queue : Queue} {order : Order} {command : Command}

/-- The sender has a contract with a ticker. -/
def Knows (sender : Sender) (ticker : String) : Prop :=
  ∃ contract ∈ sender.contracts.contracts, contract.ticker = ticker

/-- An order becomes a command exactly if its ticker is known. -/
theorem exists_command_iff :
    (∃ command, sender.command order = .ok command) ↔ sender.Knows order.ticker := by
  unfold Sender.command
  cases encoded : sender.encode order with
  | error failure =>
    obtain ⟨_, unknown⟩ := encode_eq_error_iff.mp encoded
    simpa [Except.map, Knows] using unknown
  | ok payload =>
    obtain ⟨contract, member, named, _⟩ := exists_of_encode encoded
    simpa [Except.map] using ⟨contract, member, named⟩

theorem isFor_of_command (written : sender.command order = .ok command) :
    command.IsFor sender order := by
  unfold Sender.command at written
  cases encoded : sender.encode order with
  | error failure => simp [encoded, Except.map] at written
  | ok payload =>
    rw [encoded] at written
    obtain rfl := Except.ok.inj written
    obtain ⟨contract, member, named, rfl⟩ := exists_of_encode encoded
    exact {
      userOrderId := rfl
      ticker := rfl
      payload := ⟨_, Request.decode_encode _, carries_request sender contract order, contract,
        member, named, rfl⟩ }

theorem send_of_unknown (queue : Queue) (unknown : ¬sender.Knows order.ticker) :
    (sender.send queue order).result =
        .error (.orderSkipped order.ticker (Failure.unknownTicker order.ticker).message) ∧
      (sender.send queue order).queue = queue := by
  have failed : sender.encode order = .error (.unknownTicker order.ticker) := by
    rw [encode_eq_error_iff]
    exact ⟨rfl, fun contract member named => unknown ⟨contract, member, named⟩⟩
  unfold send
  rw [failed]
  exact ⟨rfl, rfl⟩

/-- What the queue says to the command of an order is what the sender is told. -/
theorem send_of_command (queue : Queue) (written : sender.command order = .ok command) :
    (∀ refusal, queue.offer command = .error refusal ->
      (sender.send queue order).result = .error refusal.toFailure ∧
        (sender.send queue order).queue = queue) ∧
    ∀ extended, queue.offer command = .ok extended ->
      (sender.send queue order).result = .ok () ∧
        (sender.send queue order).queue = extended := by
  unfold Sender.command at written
  unfold send
  cases encoded : sender.encode order with
  | error failure => simp [encoded, Except.map] at written
  | ok payload =>
    rw [encoded] at written
    obtain rfl := Except.ok.inj written
    constructor
    · intro refusal refused
      cases refusal <;> simp [refused]
    · intro extended queued
      simp [queued]

/-- What comes of sending an order to a queue, and under which conditions. -/
structure FailsClosed (sender : Sender) (queue : Queue) (order : Order) (sent : Sent) : Prop where
  skipped : ∀ reason, sent.result = .error (.orderSkipped order.ticker reason) ↔
    ¬sender.Knows order.ticker ∧ reason = (Failure.unknownTicker order.ticker).message
  closed : sent.result = .error .queueClosed ↔
    sender.Knows order.ticker ∧ queue.isOpen = false
  full : sent.result = .error .queueFull ↔
    sender.Knows order.ticker ∧ queue.isOpen = true ∧ queue.waiting.length = queue.capacity
  accepted : sent.result = .ok () ↔
    sender.Knows order.ticker ∧ queue.isOpen = true ∧ queue.waiting.length < queue.capacity
  /-- An order is accepted exactly if a command for it is put at the end of the queue. -/
  queued : sent.result = .ok () ↔ ∃ command : Command, command.IsFor sender order ∧
    sent.queue = { queue with waiting := queue.waiting ++ [command] }
  /-- Whatever the reason, an order that is refused leaves the queue as it is. -/
  unchanged : sent.result ≠ .ok () -> sent.queue = queue

theorem FailsClosed.of_error {sent : Sent} {failure : Failure}
    (refused : sent.result = .error failure) (same : sent.queue = queue)
    (skipped : ∀ reason, failure = .orderSkipped order.ticker reason ↔
      ¬sender.Knows order.ticker ∧ reason = (Failure.unknownTicker order.ticker).message)
    (closed : failure = .queueClosed ↔ sender.Knows order.ticker ∧ queue.isOpen = false)
    (full : failure = .queueFull ↔ sender.Knows order.ticker ∧ queue.isOpen = true ∧
      queue.waiting.length = queue.capacity)
    (noRoom : ¬(sender.Knows order.ticker ∧ queue.isOpen = true ∧
      queue.waiting.length < queue.capacity)) : FailsClosed sender queue order sent where
  skipped := by simpa [refused] using skipped
  closed := by simpa [refused] using closed
  full := by simpa [refused] using full
  accepted := by simpa [refused] using noRoom
  queued := by
    have longer (command : Command) :
        queue ≠ { queue with waiting := queue.waiting ++ [command] } := by
      intro equal
      have lengths := congrArg (fun queue => queue.waiting.length) equal
      simp at lengths
    simp [refused, same, longer]
  unchanged := fun _ => same

/-- Sending to a queue within its capacity fails closed. -/
theorem failsClosed_send (bounded : queue.waiting.length <= queue.capacity) :
    FailsClosed sender queue order (sender.send queue order) := by
  -- In the order of their weight: the ticker, then whether anybody takes commands, then the room.
  by_cases known : sender.Knows order.ticker
  · obtain ⟨command, written⟩ := exists_command_iff.mpr known
    obtain ⟨refuses, accepts⟩ := send_of_command queue written
    cases isOpen : queue.isOpen with
    | false =>
      obtain ⟨refused, same⟩ := refuses _ (Queue.offer_of_closed isOpen)
      exact .of_error refused same (by simp [known, Refusal.toFailure])
        (by simp [known, isOpen, Refusal.toFailure]) (by simp [isOpen, Refusal.toFailure])
        (by simp [isOpen])
    | true =>
      by_cases room : queue.waiting.length < queue.capacity
      · obtain ⟨accepted, extended⟩ := accepts _ (Queue.offer_of_room isOpen room)
        exact {
          skipped := by simp [accepted, known]
          closed := by simp [accepted, isOpen]
          full := by simp [accepted, Nat.ne_of_lt room]
          accepted := by simp [accepted, known, isOpen, room]
          queued := by
            simp only [accepted, true_iff]
            exact ⟨command, isFor_of_command written, extended⟩
          unchanged := fun refused => absurd accepted refused }
      · have full : queue.waiting.length = queue.capacity :=
          Nat.le_antisymm bounded (Nat.le_of_not_lt room)
        obtain ⟨refused, same⟩ := refuses _ (Queue.offer_of_full isOpen (Nat.le_of_eq full.symm))
        exact .of_error refused same (by simp [known, Refusal.toFailure])
          (by simp [isOpen, Refusal.toFailure]) (by simp [known, isOpen, full, Refusal.toFailure])
          (by simp [room])
  · obtain ⟨refused, same⟩ := send_of_unknown queue known
    exact .of_error refused same (by simp [known, eq_comm]) (by simp [known]) (by simp [known])
      (by simp [known])

end Sender

end StrategyHost.Outbound
