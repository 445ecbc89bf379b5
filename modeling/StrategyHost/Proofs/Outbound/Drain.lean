import StrategyHost.Proofs.Outbound.Invariant

/-!
# The publisher's own loop

Once nobody can send any more, draining the queue is one of the ways along the command
path: with any endpoint it reaches the end, and hands over the messages of its events.
-/

namespace StrategyHost.Outbound

open StrategyHost.Bus (Message)
open StrategyHost.Journal (Entry)
open StrategyHost.Retry (Backoff Verdict)

namespace Endpoint

/-- What messages leave behind when they are published in turn. -/
def after {State : Type} (endpoint : Endpoint State) (state : State)
    (messages : List Message) : State :=
  messages.foldl
    (fun state message => (endpoint.publish state message.channel message.payload).2.1) state

end Endpoint

namespace Drained

/-- The same after other delays and log entries. -/
def preceded {State : Type} (drained : Drained State) (delays : List Delay)
    (entries : List Entry) : Drained State :=
  { drained with delays := delays ++ drained.delays, entries := entries ++ drained.entries }

end Drained

namespace Publisher

variable {State : Type} (endpoint : Endpoint State) (state : State) {publisher : Publisher}
  {queue : Queue}

/-- The delays that a verdict asks for. -/
def delaysOf : Verdict -> List Delay
  | .wait delay => [delay]
  | .succeeded | .failed _ | .overflow => []

theorem drain_of_inFlight (queue : Queue) {command : Command} {backoff : Backoff}
    (flying : publisher.inFlight = some (command, backoff)) :
    let answer := endpoint.publish state command.message.channel command.message.payload
    let attempted := publisher.attempt command backoff answer.1
    attempted.verdict ≠ .overflow ->
      publisher.drain endpoint state queue =
        (attempted.publisher.drain endpoint answer.2.1 queue).preceded
          (delaysOf attempted.verdict) (answer.2.2 ++ attempted.entries) := by
  intro answer attempted continues
  have unfolded := drain.eq_1 endpoint state publisher queue
  split at unfolded
  · rename_i found
    rw [flying] at found
    obtain ⟨rfl, rfl⟩ := found
    rw [unfolded]
    change dite (attempted.verdict = .overflow) _ _ = _
    rw [dif_neg continues]
    cases attempted.verdict <;> simp [Drained.preceded, delaysOf, answer, attempted]
  · simp_all

theorem drain_of_take {taken : Publisher} {rest : Queue} (idle : publisher.inFlight = none)
    (took : publisher.take? queue = some (taken, rest)) :
    publisher.drain endpoint state queue = taken.drain endpoint state rest := by
  have unfolded := drain.eq_1 endpoint state publisher queue
  split at unfolded
  · simp_all
  · split at unfolded <;> simp_all

theorem drain_of_empty (idle : publisher.inFlight = none)
    (empty : publisher.take? queue = none) :
    publisher.drain endpoint state queue =
      ⟨publisher, state, [], [.publisherDone publisher.published publisher.failed], false⟩ := by
  have unfolded := drain.eq_1 endpoint state publisher queue
  split at unfolded
  · simp_all
  · split at unfolded <;> simp_all

end Publisher

namespace Path

variable {sender : Sender}

/-- On a path on which nobody can send any more, the publisher's own loop is a way to the
end, and no order is accepted on it. -/
theorem Valid.drain {State : Type} {capacity : Nat} {events : List Event}
    {publisher : Publisher} {queue : Queue} (endpoint : Endpoint State) (state : State)
    (valid : Valid sender capacity events ⟨0, queue, publisher, false⟩) :
    (publisher.drain endpoint state queue).overflowed = false ∧
      ∃ rest last, Steps sender ⟨0, queue, publisher, false⟩ rest last ∧
        last.hasReturned = true ∧
        last.publisher = (publisher.drain endpoint state queue).publisher ∧
        accepted rest = [] ∧
        (publisher.drain endpoint state queue).state =
          endpoint.after state (publications rest) := by
  induction state, publisher, queue using Publisher.drain.induct endpoint generalizing events with
  | case1 state publisher queue command backoff flying outcome after heard answered attempted =>
    rename_i overflowed
    -- No delay of a valid path is too long to be doubled, so the loop never stops here.
    have moderate := valid.backoff command backoff flying
    obtain ⟨verdict, _⟩ | ⟨_, verdict, _⟩ | ⟨_, _, verdict, _⟩ :=
      publisher.attempt_cases command moderate outcome
    all_goals simp [attempted, verdict] at overflowed
  | case2 state publisher queue command backoff flying outcome after heard answered attempted
      continues =>
    rename_i inductionHypothesis
    have transition : Step sender ⟨0, queue, publisher, false⟩
        (.published command command.message attempted.verdict)
        ⟨0, queue, attempted.publisher, false⟩ := .publish outcome rfl flying
    obtain ⟨bounded, rest, last, steps, returned, same, accepts, left⟩ :=
      inductionHypothesis (transition.valid valid)
    have drained := Publisher.drain_of_inFlight endpoint state queue flying
    simp only [answered] at drained
    rw [drained continues]
    refine ⟨bounded, _, last, steps.cons transition, returned, same, accepts, left.trans ?_⟩
    simp [Endpoint.after, publications, Event.publication?, answered]
  | case3 state publisher queue idle taken rest took inductionHypothesis =>
    have transition : Step sender ⟨0, queue, publisher, false⟩ .taken ⟨0, rest, taken, false⟩ :=
      .take rfl took
    obtain ⟨bounded, events, last, steps, returned, same, accepts, left⟩ :=
      inductionHypothesis (transition.valid valid)
    rw [Publisher.drain_of_take endpoint state idle took]
    exact ⟨bounded, _, last, steps.cons transition, returned, same, accepts, left⟩
  | case4 state publisher queue idle empty =>
    have transition : Step sender ⟨0, queue, publisher, false⟩ .returned
        ⟨0, queue.close, publisher, true⟩ :=
      .finish rfl rfl idle ((Publisher.take?_eq_none_iff idle).mp empty)
    rw [Publisher.drain_of_empty endpoint state idle empty]
    exact ⟨rfl, _, _, Steps.cons transition .refl, rfl, rfl, rfl, rfl⟩

end Path

end StrategyHost.Outbound
