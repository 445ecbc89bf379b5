import StrategyHost.Proofs.Outbound.Drain

/-!
# Accounting for commands

Wherever the steps of the command path have led, each accepted order is settled, in
flight, or waiting, in the order in which it was accepted, and what was turned down has
left no trace.
-/

namespace StrategyHost.Outbound

open StrategyHost.Trade (Order)

namespace Path

variable {sender : Sender}

/-- A call that is turned down changes nothing. -/
theorem Step.eq_of_isRejection {path next : Path} {event : Event}
    (transition : Step sender path event next) (rejected : event.isRejection) : next = path := by
  cases transition with
  | call call held =>
    obtain ⟨_, _, _, _, ok, _⟩ | ⟨_, _, same⟩ := call.perform_cases sender path.queue
    · simp [Event.isRejection, ok] at rejected
    · rw [same]
  | clone | drop | take | publish | finish => simp [Event.isRejection] at rejected

/-- The same path is reached without the calls that are turned down. -/
theorem Steps.withoutRejections {first path : Path} {events : List Event}
    (steps : Steps sender first events path) :
    Steps sender first (events.filter fun event => !event.isRejection) path := by
  induction steps with
  | refl => exact .refl
  | @step events path next event _ transition inductionHypothesis =>
    cases rejected : event.isRejection with
    | true =>
      rw [transition.eq_of_isRejection rejected]
      simpa [rejected] using inductionHypothesis
    | false => simpa [rejected] using Steps.step inductionHypothesis transition

/-- What an observer of the command path can rely on after any steps. -/
structure Accounting (sender : Sender) (capacity : Nat) (first : Path) (events : List Event)
    (path : Path) : Prop where
  /-- No order is lost, repeated, or overtaken. -/
  orders : (accepted events).map sender.command =
    (settled events ++ path.inFlight ++ path.queue.waiting).map .ok
  single : path.inFlight.length <= 1
  bounded : path.queue.waiting.length <= capacity
  publishedCount : path.publisher.published = (delivered events).length
  settledCount : path.publisher.published + path.publisher.failed = (settled events).length
  published : ∀ message ∈ publications events, message.channel = "trader_cmd" ∧
    ∃ order ∈ accepted events, sender.encode order = .ok message.payload
  /-- A call that is turned down changes nothing, whoever makes it and whenever. -/
  rejected : ∀ call failure next,
    Step sender path (.called call (.error failure)) next -> next = path
  withoutRejections : Steps sender first (events.filter fun event => !event.isRejection) path
  returned : path.hasReturned = true ->
    path.holders = 0 ∧ (accepted events).map sender.command = (settled events).map .ok ∧
      path.publisher.published + path.publisher.failed = (accepted events).length
  /-- Left alone, the publisher settles what is left, and returns. -/
  completes : path.holders = 0 -> path.hasReturned = false ->
    ∀ (State : Type) (endpoint : Endpoint State) (state : State),
      (path.publisher.drain endpoint state path.queue).overflowed = false ∧
      ∃ rest last, Steps sender path rest last ∧ last.hasReturned = true ∧
        last.publisher = (path.publisher.drain endpoint state path.queue).publisher ∧
        (path.publisher.drain endpoint state path.queue).state =
          endpoint.after state (publications rest) ∧
        (accepted events).map sender.command = (settled (events ++ rest)).map .ok

theorem Valid.published_payload {capacity : Nat} {events : List Event} {path : Path}
    (valid : Valid sender capacity events path) {message : Bus.Message}
    (handed : message ∈ publications events) :
    message.channel = "trader_cmd" ∧
      ∃ order ∈ accepted events, sender.encode order = .ok message.payload := by
  obtain ⟨order, known, command, written, rfl⟩ := valid.published message handed
  refine ⟨rfl, order, known, ?_⟩
  unfold Sender.command at written
  cases encoded : sender.encode order with
  | error failure => simp [encoded, Except.map] at written
  | ok payload =>
    simp only [encoded, Except.map, Except.ok.injEq] at written
    simp [← written, Command.message]

/-- Nothing is in flight or waits once the publisher has returned. -/
theorem Valid.orders_of_returned {capacity : Nat} {events : List Event} {path : Path}
    (valid : Valid sender capacity events path) (returned : path.hasReturned = true) :
    (accepted events).map sender.command = (settled events).map .ok := by
  obtain ⟨_, idle, empty⟩ := valid.returned returned
  simpa [Carried, idle, empty] using valid.carried

/-- For every sender, queue and settings: after any interleaving of the steps of holders
and publisher, with any outcomes of publishing, the commands are accounted for. -/
theorem accounting_of_steps (sender : Sender) {capacity : Nat} {queue : Queue}
    (opened : Queue.ofCapacity capacity = .ok queue) {reconnect : Config.Reconnect}
    (fits : reconnect.Fits) {events : List Event} {path : Path}
    (steps : Steps sender (start queue reconnect) events path) :
    Accounting sender capacity (start queue reconnect) events path := by
  have valid := steps.valid (valid_start opened fits)
  exact {
    orders := valid.carried
    single := by cases flying : path.publisher.inFlight <;> simp [inFlight, flying]
    bounded := valid.bounded
    publishedCount := valid.publishedCount
    settledCount := valid.settledCount
    published := fun _ handed => valid.published_payload handed
    rejected := fun _ _ _ transition => transition.eq_of_isRejection rfl
    withoutRejections := steps.withoutRejections
    returned := by
      intro returned
      have orders := valid.orders_of_returned returned
      have lengths := congrArg List.length orders
      simp only [List.length_map] at lengths
      exact ⟨(valid.returned returned).1, orders, valid.settledCount.trans lengths.symm⟩
    completes := by
      intro abandoned running State endpoint state
      obtain ⟨holders, queue, publisher, hasReturned⟩ := path
      simp only at abandoned running
      subst abandoned running
      obtain ⟨bounded, rest, last, further, returned, same, accepts, left⟩ :=
        valid.drain endpoint state
      have orders :=
        ((steps.append further).valid (valid_start opened fits)).orders_of_returned returned
      rw [accepted, List.filterMap_append] at orders
      rw [accepted] at accepts
      rw [accepts, List.append_nil] at orders
      exact ⟨bounded, rest, last, further, returned, same, left, orders⟩ }

/-- A sender that knows one contract. -/
def loneSender : Sender := ⟨"grid", ⟨[⟨1, "IF2309", "CFFEX", "IF Contract", 300, ⟨0⟩⟩]⟩⟩

/-- An order for the contract of that sender. -/
def loneOrder : Order := ⟨"IF2309", .buy, .opening, .fillAndKill, 1, ⟨0⟩, 7⟩

/-- A queue with one place turns the second order down; the first is published at the
second attempt, and the publisher returns when the sender is dropped. -/
theorem accounting_of_steps_retried :
    Queue.ofCapacity 1 = .ok ⟨1, [], true⟩ ∧ (⟨100, 400, 3⟩ : Config.Reconnect).Fits ∧
      ∃ events path, Steps loneSender (start ⟨1, [], true⟩ ⟨100, 400, 3⟩) events path ∧
        accepted events = [loneOrder] ∧ path.hasReturned = true ∧
        Accounting loneSender 1 (start ⟨1, [], true⟩ ⟨100, 400, 3⟩) events path := by
  have opened : Queue.ofCapacity 1 = .ok ⟨1, [], true⟩ := rfl
  have fits : (⟨100, 400, 3⟩ : Config.Reconnect).Fits :=
    ⟨by decide, by decide, by decide⟩
  have initial : Steps loneSender (start ⟨1, [], true⟩ ⟨100, 400, 3⟩) [] _ := .refl
  have queued := Steps.step initial (.call (.send loneOrder) (by decide))
  have refused := Steps.step queued
    (.call (.sendUsual .sellClose "IF2309" 2 ⟨0⟩ .limit) (by decide))
  have taken := Steps.step refused (.take rfl rfl)
  have failed := Steps.step taken (.publish (.error (.connection "broker down")) rfl rfl)
  have published := Steps.step failed (.publish (.ok ()) rfl rfl)
  have dropped := Steps.step published (.drop (by decide))
  have returned := Steps.step dropped (.finish rfl rfl rfl rfl)
  exact ⟨opened, fits, _, _, returned, rfl, rfl,
    accounting_of_steps loneSender opened fits returned⟩

end Path

end StrategyHost.Outbound
