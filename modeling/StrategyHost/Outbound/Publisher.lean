import StrategyHost.Outbound.Endpoint
import StrategyHost.Outbound.Queue
import StrategyHost.Trade.Request

/-!
# The command publisher

Takes commands off the queue one at a time and publishes each, trying again
after transient failures with a fresh backoff per command. A command is settled
once it is published or given up.
-/

namespace StrategyHost.Outbound

open StrategyHost.Bus (Message)
open StrategyHost.Journal (Entry)
open StrategyHost.Retry (Backoff Limits Outcome Verdict)

/-- The message by which a command reaches the execution service. -/
def Command.message (command : Command) : Message := ⟨Trade.commandChannel, command.payload⟩

/-- What publishing is called in messages. -/
def publishing : String := "publish command"

/-- The publisher between two of its steps. -/
structure Publisher where
  limits : Limits
  /-- The command that is being published, with its backoff. -/
  inFlight : Option (Command × Backoff)
  published : Nat
  failed : Nat
  deriving Repr

/-- What an attempt to publish led to. -/
structure Attempted where
  publisher : Publisher
  verdict : Verdict
  entries : List Entry

namespace Publisher

/-- The publisher before its first command. -/
def idle (limits : Limits) : Publisher := ⟨limits, none, 0, 0⟩

/-- Take the oldest command, if nothing is in flight. -/
def take? (publisher : Publisher) (queue : Queue) : Option (Publisher × Queue) :=
  match publisher.inFlight with
  | some _ => none
  | none =>
    queue.take?.map fun (command, rest) =>
      ({ publisher with inFlight := some (command, publisher.limits.fresh) }, rest)

/-- Account for the outcome of publishing the command in flight. -/
def attempt (publisher : Publisher) (command : Command) (backoff : Backoff) (outcome : Outcome) :
    Attempted :=
  match backoff.judge publishing outcome with
  | (.succeeded, _) =>
    ⟨{ publisher with inFlight := none, published := publisher.published + 1 }, .succeeded,
      [.published command.userOrderId command.ticker]⟩
  | (.failed failure, _) =>
    ⟨{ publisher with inFlight := none, failed := publisher.failed + 1 }, .failed failure,
      [.notPublished command.userOrderId command.ticker failure]⟩
  | (.wait delay, after) =>
    ⟨{ publisher with inFlight := some (command, after) }, .wait delay,
      Backoff.entries publishing outcome (.wait delay)⟩
  | (.overflow, after) =>
    ⟨{ publisher with inFlight := some (command, after) }, .overflow, []⟩

/-- How many attempts the command in flight may still need, and one for taking
the next. -/
def pending (publisher : Publisher) : Nat :=
  match publisher.inFlight with
  | none => 0
  | some (_, backoff) => backoff.remaining + 1

theorem length_take? {publisher taken : Publisher} {queue rest : Queue}
    (took : publisher.take? queue = some (taken, rest)) :
    rest.waiting.length < queue.waiting.length := by
  unfold take? at took
  split at took
  · simp at took
  · simp only [Option.map_eq_some_iff, Prod.exists, Prod.mk.injEq] at took
    obtain ⟨_, _, found, _, rfl⟩ := took
    exact Queue.length_take? found

/-- Whether an attempt ends the publisher because a delay cannot be doubled. -/
def Attempted.overflowed (attempted : Attempted) : Bool :=
  attempted.verdict = .overflow

theorem pending_attempt {publisher : Publisher} {command : Command} {backoff : Backoff}
    (outcome : Outcome)
    (continues : (publisher.attempt command backoff outcome).verdict ≠ .overflow) :
    (publisher.attempt command backoff outcome).publisher.pending < backoff.remaining + 1 := by
  unfold attempt at continues ⊢
  split
  · simp [pending]
  · simp [pending]
  · rename_i judged
    simp only [pending]
    have := Backoff.remaining_of_judge judged
    omega
  · rename_i judged
    simp [judged] at continues

end Publisher

/-- What draining a queue amounted to. -/
structure Drained (State : Type) where
  publisher : Publisher
  state : State
  delays : List Delay
  entries : List Entry
  /-- Whether the publisher went down because a delay could not be doubled. -/
  overflowed : Bool

namespace Publisher

/-- Publish the command in flight and all that wait, until nothing is left. -/
def drain {State : Type} (endpoint : Endpoint State) (state : State) (publisher : Publisher)
    (queue : Queue) : Drained State :=
  match _ : publisher.inFlight with
  | some (command, backoff) =>
    let (outcome, state, heard) :=
      endpoint.publish state command.message.channel command.message.payload
    let attempted := publisher.attempt command backoff outcome
    if _ : attempted.verdict = .overflow then
      ⟨attempted.publisher, state, [], heard ++ attempted.entries, true⟩
    else
      let rest := drain endpoint state attempted.publisher queue
      let delays :=
        match attempted.verdict with
        | .wait delay => delay :: rest.delays
        | _ => rest.delays
      { rest with delays := delays, entries := heard ++ attempted.entries ++ rest.entries }
  | none =>
    match _ : publisher.take? queue with
    | some (taken, rest) => drain endpoint state taken rest
    | none =>
      ⟨publisher, state, [], [.publisherDone publisher.published publisher.failed], false⟩
termination_by (queue.waiting.length, publisher.pending)
decreasing_by
  · refine Prod.Lex.right _ ?_
    have shrinks := pending_attempt outcome ‹attempted.verdict ≠ .overflow›
    simpa [pending, ‹publisher.inFlight = some (command, backoff)›] using shrinks
  · exact Prod.Lex.left _ _ (length_take? ‹_›)

end Publisher

end StrategyHost.Outbound
