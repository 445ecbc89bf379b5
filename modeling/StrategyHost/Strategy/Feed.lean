import StrategyHost.Bus.Local
import StrategyHost.Strategy.Run

/-!
# Feeds

Where a run gets its messages from. Following a run over a feed answers its
calls until it is finished or nothing comes any more; it ends because every
message taken leaves less behind.
-/

namespace StrategyHost.Strategy

open StrategyHost.Bus (Local Message Subscriber)
open StrategyHost.Journal (Entry)
open StrategyHost.Outbound (Queue)

/-- What a feed has to give. -/
inductive Offer where
  | delivery (delivery : Delivery)
  /-- Nothing for now. -/
  | waiting
  deriving DecidableEq, Repr

/-- A source of messages that can be subscribed to. -/
structure Feed (State : Type) where
  subscribe : State -> List String -> Except Failure Unit × State × List Entry
  next : State -> Offer × State × List Entry
  /-- A bound on the messages that are left. -/
  backlog : State -> Nat
  backlog_subscribe : forall state channels,
    backlog (subscribe state channels).2.1 <= backlog state
  backlog_next : forall state, backlog (next state).2.1 <= backlog state
  backlog_message : forall state message,
    (next state).1 = .delivery (.message message) -> backlog (next state).2.1 < backlog state

/-- A feed that follows a script: the results of subscriptions, successful once
they are used up, and what is delivered. -/
structure Script where
  results : List (Except Failure Unit)
  deliveries : List Delivery
  /-- Whether the feed waits for ever after its last delivery, or closes. -/
  waitsAtEnd : Bool

namespace Script

/-- The next result of a subscription. -/
def subscribe (script : Script) : Except Failure Unit × Script :=
  match script.results with
  | [] => (.ok (), script)
  | result :: rest => (result, { script with results := rest })

/-- The next delivery. -/
def next (script : Script) : Offer × Script :=
  match script.deliveries with
  | [] => (if script.waitsAtEnd then .waiting else .delivery .closed, script)
  | delivery :: rest => (.delivery delivery, { script with deliveries := rest })

/-- The feed of scripts. -/
def feed : Feed Script where
  subscribe script _ := (script.subscribe.1, script.subscribe.2, [])
  next script := (script.next.1, script.next.2, [])
  backlog script := script.deliveries.length
  backlog_subscribe script _ := by
    unfold subscribe
    split <;> simp
  backlog_next script := by
    unfold next
    split <;> simp [*]
  backlog_message script message delivered := by
    unfold next at delivered ⊢
    split at delivered
    · split at delivered <;> simp at delivered
    · simp [*]

end Script

namespace LocalFeed

/-- What a subscriber's receipt offers to a run. -/
def offer : Bus.Receipt -> Offer
  | .message message => .delivery (.message message)
  | .closed => .delivery .closed
  | .pending => .waiting

/-- A subscriber of a local bus, as a run sees it. -/
structure Seat where
  subscriber : Subscriber
  /-- For how many unread messages there is room. -/
  room : Nat
  /-- Whether messages may still be published. -/
  isLive : Bool
  deriving DecidableEq, Repr

/-- The feed of one subscriber of a local bus. -/
def feed : Feed Seat where
  subscribe seat channels :=
    let (after, entries) := seat.subscriber.subscribe channels
    (.ok (), { seat with subscriber := after }, entries)
  next seat :=
    let (receipt, after, entries) := seat.subscriber.receive seat.room seat.isLive
    (offer receipt, { seat with subscriber := after }, entries)
  backlog seat := seat.subscriber.unread.length
  backlog_subscribe seat channels := by
    simp [Subscriber.unread_subscribe]
  backlog_next seat := Subscriber.length_receive seat.subscriber seat.room seat.isLive
  backlog_message seat message delivered := by
    simp only at delivered
    have received : (seat.subscriber.receive seat.room seat.isLive).1 = .message message := by
      revert delivered
      cases (seat.subscriber.receive seat.room seat.isLive).1 <;> simp [offer]
    exact Subscriber.length_receive_message received

/-- The seat of a subscriber that is there. -/
def seat? (bus : Local) (number : Nat) : Option Seat :=
  (bus.subscriber? number).map fun subscriber => ⟨subscriber, bus.room, bus.isLive⟩

/-- The bus with what has happened at a seat. -/
def settle (bus : Local) (number : Nat) (seat : Seat) : Local :=
  bus.setSubscriber number (some seat.subscriber)

end LocalFeed

variable {Memory : Type}

namespace Phase

/-- How far a phase is from the end, messages aside. -/
def rank : Phase -> Nat
  | subscribingResponses _ => 3
  | subscribing _ _ => 2
  | receiving => 1
  | finished _ => 0

end Phase

namespace Change

theorem phase_finish (strategy : Strategy Memory) (ending : Ending) (run : Run Memory) :
    (finish strategy ending run).1.phase = .finished ending := rfl

theorem phase_receive (isReceiving : Bool) (run : Run Memory) :
    (receive isReceiving run).1.phase = .receiving := by
  cases isReceiving <;> rfl

theorem rank_subscribeRequested (isReceiving : Bool) (run : Run Memory) :
    (subscribeRequested isReceiving run).1.phase.rank <= 2 := by
  unfold subscribeRequested
  split
  · simp [phase_receive, Phase.rank]
  · simp [Phase.rank]

end Change

namespace Run

theorem rank_subscribed {run : Run Memory} {channels : List String}
    (strategy : Strategy Memory) (answer : Except Failure Unit)
    (calls : run.call? = some (.subscribe channels)) :
    (run.subscribed strategy answer).1.phase.rank < run.phase.rank := by
  unfold call? at calls
  unfold subscribed
  cases phase : run.phase with
  | subscribingResponses channel =>
    cases answer with
    | ok =>
      exact Nat.lt_succ_of_le (Change.rank_subscribeRequested false run)
    | error failure => simp [Change.phase_finish, Phase.rank]
  | subscribing asked isReceiving =>
    cases answer with
    | ok => simp [Change.phase_receive, Phase.rank]
    | error failure => simp [Change.phase_finish, Phase.rank]
  | receiving => simp [phase] at calls
  | finished ending => simp [phase] at calls

theorem rank_received_last {run : Run Memory} (strategy : Strategy Memory) {delivery : Delivery}
    (calls : run.call? = some .receive) (last : forall message, delivery ≠ .message message) :
    (run.received strategy delivery).1.phase.rank < run.phase.rank := by
  unfold call? at calls
  unfold received
  cases phase : run.phase with
  | subscribingResponses channel => simp [phase] at calls
  | subscribing asked isReceiving => simp [phase] at calls
  | finished ending => simp [phase] at calls
  | receiving =>
    cases delivery with
    | message message => exact absurd rfl (last message)
    | closed => simp [Change.andThen, Change.phase_finish, Phase.rank]
    | failed failure => simp [Change.andThen, Change.phase_finish, Phase.rank]

end Run

namespace Run

variable {State : Type} {feed : Feed State} {state : State} {run : Run Memory}

/-- After a subscription there is less to come. -/
theorem subscribed_lex {channels : List String} (strategy : Strategy Memory)
    (calls : run.call? = some (.subscribe channels)) :
    Prod.Lex (· < ·) (· < ·)
      (feed.backlog (feed.subscribe state channels).2.1,
        (run.subscribed strategy (feed.subscribe state channels).1).1.phase.rank)
      (feed.backlog state, run.phase.rank) := by
  have shrinks := rank_subscribed strategy (feed.subscribe state channels).1 calls
  rcases Nat.lt_or_eq_of_le (feed.backlog_subscribe state channels) with less | same
  · exact Prod.Lex.left _ _ less
  · rw [same]
    exact Prod.Lex.right _ shrinks

/-- After a delivery there is less to come. -/
theorem received_lex {delivery : Delivery} (strategy : Strategy Memory)
    (calls : run.call? = some .receive) (delivered : (feed.next state).1 = .delivery delivery) :
    Prod.Lex (· < ·) (· < ·)
      (feed.backlog (feed.next state).2.1, (run.received strategy delivery).1.phase.rank)
      (feed.backlog state, run.phase.rank) := by
  cases delivery with
  | message message => exact Prod.Lex.left _ _ (feed.backlog_message state message delivered)
  | _ =>
    rcases Nat.lt_or_eq_of_le (feed.backlog_next state) with less | same
    · exact Prod.Lex.left _ _ less
    · rw [same]
      exact Prod.Lex.right _ (rank_received_last strategy calls (by simp))

end Run

/-- A run that has gone as far as its feed allows. -/
structure Followed (Memory State : Type) where
  run : Run Memory
  state : State
  occurrences : List Occurrence

namespace Followed

variable {State : Type}

/-- The same with something that happened before. -/
def after (occurrences : List Occurrence) (followed : Followed Memory State) :
    Followed Memory State :=
  { followed with occurrences := occurrences ++ followed.occurrences }

end Followed

/-- Answer the calls of a run from a feed, until the run is finished or the feed
has nothing for now. -/
def Run.follow {State : Type} (strategy : Strategy Memory) (feed : Feed State) (state : State)
    (run : Run Memory) : Followed Memory State :=
  match _ : run.call? with
  | none => ⟨run, state, []⟩
  | some (.subscribe channels) =>
    let answer := feed.subscribe state channels
    let next := run.subscribed strategy answer.1
    (next.1.follow strategy feed answer.2.1).after (answer.2.2.map .logged ++ next.2)
  | some .receive =>
    let answer := feed.next state
    match _ : answer.1 with
    | .waiting => ⟨run, answer.2.1, answer.2.2.map .logged⟩
    | .delivery delivery =>
      let next := run.received strategy delivery
      (next.1.follow strategy feed answer.2.1).after (answer.2.2.map .logged ++ next.2)
termination_by (feed.backlog state, run.phase.rank)
decreasing_by
  · exact subscribed_lex strategy ‹_›
  · exact received_lex strategy ‹_› ‹_›

/-- One run over a feed: it is started, followed, and abandoned if it still waits
when the feed has nothing. -/
def Host.run {State : Type} (strategy : Strategy Memory) (feed : Feed State) (state : State)
    (host : Host Memory) (queue : Queue) : Followed Memory State :=
  let started := host.start strategy queue
  let followed := (started.1.follow strategy feed state).after started.2
  let ended := followed.run.cancel strategy
  { followed with run := ended.1, occurrences := followed.occurrences ++ ended.2 }

/-- One run with the messages of a subscriber of a local bus. For one that has left
the bus is closed. -/
def Host.runOnBus (strategy : Strategy Memory) (bus : Local) (number : Nat)
    (host : Host Memory) (queue : Queue) : Followed Memory Local :=
  match LocalFeed.seat? bus number with
  | some seat =>
    let followed := host.run strategy LocalFeed.feed seat queue
    { followed with state := LocalFeed.settle bus number followed.state }
  | none =>
    let followed := host.run strategy Script.feed ⟨[], [], false⟩ queue
    { followed with state := bus }

end StrategyHost.Strategy
