import StrategyHost.Proofs.Outbound.Path
import StrategyHost.Proofs.Retry.Moderate

/-!
# What the parts of the command path can do

For the queue, the sender and the publisher, all that one operation of theirs can
lead to. What follows for the path as a whole is derived from these alone.
-/

namespace StrategyHost.Outbound

open StrategyHost.Retry (Backoff Outcome)
open StrategyHost.Trade (Order)

namespace Queue

theorem take?_eq_none_iff {queue : Queue} : queue.take? = none ↔ queue.waiting = [] := by
  unfold take?
  split <;> simp_all

theorem take?_eq_some {queue rest : Queue} {command : Command}
    (taken : queue.take? = some (command, rest)) :
    queue.waiting = command :: rest.waiting ∧ rest = { queue with waiting := rest.waiting } := by
  unfold take? at taken
  split at taken
  · simp at taken
  · rename_i waiting
    simp only [Option.some.injEq, Prod.mk.injEq] at taken
    obtain ⟨rfl, rfl⟩ := taken
    exact ⟨waiting, rfl⟩

/-- A command is queued if and only if commands are still taken and there is room. -/
theorem offer_cases (queue : Queue) (command : Command) :
    (queue.offer command = .ok { queue with waiting := queue.waiting ++ [command] } ∧
      queue.isOpen = true ∧ queue.waiting.length < queue.capacity) ∨
    (∃ refusal, queue.offer command = .error refusal) := by
  unfold offer
  split
  · exact Or.inr ⟨_, rfl⟩
  · split
    · exact Or.inr ⟨_, rfl⟩
    · refine Or.inl ⟨rfl, ?_, ?_⟩ <;> simp_all

theorem ofCapacity_eq {capacity : Nat} {queue : Queue} (opened : ofCapacity capacity = .ok queue) :
    queue = ⟨capacity, [], true⟩ := by
  unfold ofCapacity at opened
  split at opened
  · simp at opened
  · split at opened
    · simp at opened
    · exact (Except.ok.inj opened).symm

end Queue

namespace Sender

/-- Sending an order appends its command to the queue, or changes nothing. -/
theorem send_cases (sender : Sender) (queue : Queue) (order : Order) :
    (∃ command, sender.command order = .ok command ∧ (sender.send queue order).result = .ok () ∧
      (sender.send queue order).queue = { queue with waiting := queue.waiting ++ [command] } ∧
      queue.waiting.length < queue.capacity) ∨
    (∃ failure, (sender.send queue order).result = .error failure ∧
      (sender.send queue order).queue = queue) := by
  unfold send command
  cases sender.encode order with
  | error failure => exact Or.inr ⟨_, rfl, rfl⟩
  | ok payload =>
    simp only
    obtain ⟨queued, _, room⟩ | ⟨refusal, refused⟩ :=
      queue.offer_cases ⟨order.userOrderId, order.ticker, payload⟩
    · refine Or.inl ⟨_, rfl, ?_⟩
      simp [queued, room]
    · refine Or.inr ⟨refusal.toFailure, ?_⟩
      cases refusal <;> simp [refused]

end Sender

/-- A call appends the command of its order to the queue, or changes nothing. -/
theorem SenderCall.perform_cases (sender : Sender) (queue : Queue) (call : SenderCall) :
    (∃ order command, call.order? = some order ∧ sender.command order = .ok command ∧
      (call.perform sender queue).result = .ok () ∧
      (call.perform sender queue).queue = { queue with waiting := queue.waiting ++ [command] } ∧
      queue.waiting.length < queue.capacity) ∨
    (∃ failure, (call.perform sender queue).result = .error failure ∧
      (call.perform sender queue).queue = queue) := by
  cases call with
  | send order =>
    obtain ⟨command, queued⟩ | refused := sender.send_cases queue order
    · exact Or.inl ⟨order, command, rfl, queued⟩
    · exact Or.inr refused
  | sendUsual shorthand ticker volume price orderType =>
    obtain ⟨command, queued⟩ | refused :=
      sender.send_cases queue (shorthand.order ticker volume price orderType)
    · exact Or.inl ⟨_, command, rfl, queued⟩
    · exact Or.inr refused
  | cancel orderId => exact Or.inr ⟨_, rfl, rfl⟩

namespace Publisher

theorem take?_eq_none_iff {publisher : Publisher} {queue : Queue}
    (idle : publisher.inFlight = none) :
    publisher.take? queue = none ↔ queue.take? = none := by
  simp [take?, idle]

/-- Taking a command moves the oldest one from the queue into flight. -/
theorem take?_eq_some {publisher taken : Publisher} {queue rest : Queue}
    (took : publisher.take? queue = some (taken, rest)) :
    publisher.inFlight = none ∧ ∃ command,
      queue.waiting = command :: rest.waiting ∧ rest = { queue with waiting := rest.waiting } ∧
      taken = { publisher with inFlight := some (command, publisher.limits.fresh) } := by
  unfold take? at took
  split at took
  · simp at took
  · rename_i idle
    obtain ⟨⟨command, remaining⟩, found, same⟩ := Option.map_eq_some_iff.mp took
    simp only [Prod.mk.injEq] at same
    obtain ⟨rfl, rfl⟩ := same
    obtain ⟨waiting, others⟩ := Queue.take?_eq_some found
    exact ⟨idle, command, waiting, others, rfl⟩

/-- An attempt with a moderate backoff settles the command in flight, or keeps it there. -/
theorem attempt_cases (publisher : Publisher) (command : Command) {backoff : Backoff}
    (moderate : backoff.Moderate) (outcome : Outcome) :
    ((publisher.attempt command backoff outcome).verdict = .succeeded ∧
      (publisher.attempt command backoff outcome).publisher =
        { publisher with inFlight := none, published := publisher.published + 1 }) ∨
    (∃ failure, (publisher.attempt command backoff outcome).verdict = .failed failure ∧
      (publisher.attempt command backoff outcome).publisher =
        { publisher with inFlight := none, failed := publisher.failed + 1 }) ∨
    (∃ delay after, (publisher.attempt command backoff outcome).verdict = .wait delay ∧
      (publisher.attempt command backoff outcome).publisher =
        { publisher with inFlight := some (command, after) } ∧ after.Moderate) := by
  have kept := moderate.judge publishing outcome
  have bounded := moderate.judge_ne_overflow publishing outcome
  unfold attempt
  generalize backoff.judge publishing outcome = judged at kept bounded ⊢
  obtain ⟨verdict, after⟩ := judged
  cases verdict with
  | succeeded => exact Or.inl ⟨rfl, rfl⟩
  | failed failure => exact Or.inr (Or.inl ⟨failure, rfl, rfl⟩)
  | wait delay => exact Or.inr (Or.inr ⟨delay, after, rfl, rfl, kept⟩)
  | overflow => exact absurd rfl bounded

end Publisher

end StrategyHost.Outbound
