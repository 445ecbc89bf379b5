import StrategyHost.Bus.Message
import StrategyHost.Journal.Entry

/-!
# The local bus

A bus within one process. Every message goes to all subscribers that exist when
it is published, and each of them looks at its own messages in order: it skips
those on channels that it has not subscribed to, and loses the oldest when more
are unread than the bus has room for.
-/

namespace StrategyHost.Bus

open StrategyHost.Journal (Entry)

/-- One subscriber's view of the bus. -/
structure Subscriber where
  /-- The channels it has subscribed to, each once. -/
  channels : List String
  /-- The messages it has not looked at yet, the newest first. -/
  backlog : List Message
  deriving DecidableEq, Repr

/-- What a subscriber gets when it asks for a message. -/
inductive Receipt where
  | message (message : Message)
  /-- There is nothing, but there may be something later. -/
  | pending
  /-- There is nothing, and there never will be. -/
  | closed
  deriving DecidableEq, Repr

namespace Subscriber

/-- A subscriber that has just been created. -/
def fresh : Subscriber := ⟨[], []⟩

/-- The messages that have not been looked at yet, the oldest first. -/
def unread (subscriber : Subscriber) : List Message :=
  subscriber.backlog.reverse

/-- The subscriber with other messages that have not been looked at yet. -/
def withUnread (subscriber : Subscriber) (messages : List Message) : Subscriber :=
  { subscriber with backlog := messages.reverse }

/-- Hand over a message. -/
def deliver (subscriber : Subscriber) (message : Message) : Subscriber :=
  { subscriber with backlog := message :: subscriber.backlog }

@[simp]
theorem unread_withUnread (subscriber : Subscriber) (messages : List Message) :
    (subscriber.withUnread messages).unread = messages := by
  simp [unread, withUnread]

@[simp]
theorem unread_deliver (subscriber : Subscriber) (message : Message) :
    (subscriber.deliver message).unread = subscriber.unread ++ [message] := by
  simp [unread, deliver]

/-- Whether a channel has been subscribed to. -/
def isSubscribed (subscriber : Subscriber) (channel : String) : Bool :=
  subscriber.channels.contains channel

/-- Subscribe to channels. Only those that are new are logged. -/
def subscribe (subscriber : Subscriber) : List String -> Subscriber × List Entry
  | [] => (subscriber, [])
  | channel :: rest =>
    if subscriber.isSubscribed channel then subscribe subscriber rest
    else
      let (after, entries) :=
        subscribe { subscriber with channels := subscriber.channels ++ [channel] } rest
      (after, .channelAdded channel :: entries)

/-- The number of unread messages that are lost if there is room for so many. -/
def excess (subscriber : Subscriber) (room : Nat) : Nat :=
  subscriber.unread.length - room

/-- Drop the oldest unread messages for which there is no room. -/
def catchUp (subscriber : Subscriber) (room : Nat) : Subscriber × List Entry :=
  if subscriber.excess room = 0 then (subscriber, [])
  else
    (subscriber.withUnread (subscriber.unread.drop (subscriber.excess room)),
      [.lagged (subscriber.excess room)])

/-- The unread messages from the first that is on a subscribed channel on. -/
def relevant (subscriber : Subscriber) : List Message :=
  subscriber.unread.dropWhile fun message => !subscriber.isSubscribed message.channel

/-- Take the next message on a subscribed channel. Without one, `isLive` tells
whether there may be one later. -/
def receive (subscriber : Subscriber) (room : Nat) (isLive : Bool) :
    Receipt × Subscriber × List Entry :=
  let (current, entries) := subscriber.catchUp room
  match current.relevant with
  | message :: rest => (.message message, current.withUnread rest, entries)
  | [] => (if isLive then .pending else .closed, current.withUnread [], entries)

theorem length_catchUp (subscriber : Subscriber) (room : Nat) :
    (subscriber.catchUp room).1.unread.length <= subscriber.unread.length := by
  unfold catchUp
  split
  · simp
  · simp

theorem length_relevant (subscriber : Subscriber) :
    subscriber.relevant.length <= subscriber.unread.length := by
  unfold relevant
  exact (List.dropWhile_suffix _).length_le

theorem length_receive (subscriber : Subscriber) (room : Nat) (isLive : Bool) :
    (subscriber.receive room isLive).2.1.unread.length <= subscriber.unread.length := by
  have caughtUp := length_catchUp subscriber room
  have relevant := length_relevant (subscriber.catchUp room).1
  unfold receive
  simp only
  split
  · rename_i found
    rw [found, List.length_cons] at relevant
    simp only [unread_withUnread]
    omega
  · simp

theorem length_receive_message {subscriber : Subscriber} {room : Nat} {isLive : Bool}
    {message : Message} (received : (subscriber.receive room isLive).1 = .message message) :
    (subscriber.receive room isLive).2.1.unread.length < subscriber.unread.length := by
  have caughtUp := length_catchUp subscriber room
  have relevant := length_relevant (subscriber.catchUp room).1
  unfold receive at received ⊢
  simp only at received ⊢
  split at received
  · rename_i found
    rw [found, List.length_cons] at relevant
    simp only [unread_withUnread]
    omega
  · split at received <;> simp at received

theorem unread_subscribe (subscriber : Subscriber) (channels : List String) :
    (subscriber.subscribe channels).1.unread = subscriber.unread := by
  induction channels generalizing subscriber with
  | nil => rfl
  | cons channel rest inductionHypothesis =>
    unfold subscribe
    split
    · exact inductionHypothesis subscriber
    · exact inductionHypothesis _

end Subscriber

/-- A local bus with everyone who takes part in it. -/
structure Local where
  /-- For how many unread messages each subscriber has room. -/
  room : Nat
  /-- How many hold the bus itself, through which new participants can join. -/
  holders : Nat
  /-- Publishers by number, and whether each is still there. -/
  publishers : List Bool
  /-- Subscribers by number, none for one that has left. -/
  subscribers : List (Option Subscriber)
  deriving DecidableEq, Repr

/-- Why there can be no bus of a capacity. -/
inductive CapacityFault where
  | zero
  | tooLarge
  /-- The room for messages, rounded up, cannot be addressed. -/
  | unaddressable
  deriving DecidableEq, Repr

namespace CapacityFault

/-- The wording of a fault. -/
def message : CapacityFault -> String
  | zero => "broadcast channel capacity cannot be zero"
  | tooLarge => "broadcast channel capacity exceeded \x60usize::MAX / 2\x60"
  | unaddressable => "capacity overflow"

end CapacityFault

namespace Local

/-- The capacity of a bus that is not given one. -/
def usualCapacity : Nat := 4096

/-- The least power of two that is at least a number. -/
def roomFor (capacity : Nat) : Nat :=
  if capacity <= 1 then 1 else Nat.pow 2 ((capacity - 1).log2 + 1)

/-- The number of bytes that the place of one message takes. -/
def placeSize : Nat := 72

/-- The least size that is not a signed number of 64 bits. -/
def sizeLimit : Nat := 0x8000000000000000

/-- A bus that has been created with a capacity and is held. -/
def ofCapacity (capacity : Nat) : Except CapacityFault Local :=
  if capacity = 0 then .error .zero
  else if sizeLimit <= capacity then .error .tooLarge
  else if sizeLimit <= placeSize * roomFor capacity then .error .unaddressable
  else .ok ⟨roomFor capacity, 1, [], []⟩

/-- Whether the bus itself is still held. -/
def isHeld (bus : Local) : Bool :=
  0 < bus.holders

/-- Whether messages may still be published. -/
def isLive (bus : Local) : Bool :=
  bus.isHeld || bus.publishers.contains true

/-- Whether a publisher is there. -/
def hasPublisher (bus : Local) (number : Nat) : Bool :=
  bus.publishers[number]? = some true

/-- A subscriber that is there. -/
def subscriber? (bus : Local) (number : Nat) : Option Subscriber :=
  (bus.subscribers[number]?).join

/-- Replace a subscriber. -/
def setSubscriber (bus : Local) (number : Nat) (subscriber : Option Subscriber) : Local :=
  { bus with subscribers := bus.subscribers.set number subscriber }

/-- Hand a message to every subscriber that is there. -/
def publish (bus : Local) (message : Message) : Local × List Entry :=
  if bus.subscribers.any Option.isSome then
    ({ bus with
        subscribers := bus.subscribers.map fun subscriber? =>
          subscriber?.map (·.deliver message) }, [])
  else (bus, [.noSubscribers message.channel])

end Local

/-- What can be done with a local bus. -/
inductive Action where
  | addPublisher
  | addSubscriber
  /-- Let one more hold the bus. -/
  | shareBus
  /-- Let one of the holders go. -/
  | dropBus
  /-- Add a publisher by one that is there, whether the bus is held or not. -/
  | sharePublisher (number : Nat)
  | dropPublisher (number : Nat)
  | dropSubscriber (number : Nat)
  | publish (number : Nat) (message : Message)
  | subscribe (number : Nat) (channels : List String)
  | isSubscribed (number : Nat) (channel : String)
  | receive (number : Nat)
  deriving DecidableEq, Repr

/-- What an action on a local bus results in. -/
inductive Result where
  | done
  | number (number : Nat)
  | subscribed (answer : Bool)
  | received (receipt : Receipt)
  | noBus
  | noPublisher
  | noSubscriber
  deriving DecidableEq, Repr

namespace Local

/-- The bus with one more publisher, which is known by the next number. -/
def joined (bus : Local) : Result × Local × List Entry :=
  (.number bus.publishers.length, { bus with publishers := bus.publishers ++ [true] }, [])

/-- Perform an action. -/
def perform (bus : Local) : Action -> Result × Local × List Entry
  | .addPublisher => if bus.isHeld then bus.joined else (.noBus, bus, [])
  | .addSubscriber =>
    if bus.isHeld then
      (.number bus.subscribers.length,
        { bus with subscribers := bus.subscribers ++ [some Subscriber.fresh] }, [])
    else (.noBus, bus, [])
  | .shareBus =>
    if bus.isHeld then (.done, { bus with holders := bus.holders + 1 }, []) else (.noBus, bus, [])
  | .dropBus => (.done, { bus with holders := bus.holders - 1 }, [])
  | .sharePublisher number =>
    if bus.hasPublisher number then bus.joined else (.noPublisher, bus, [])
  | .dropPublisher number =>
    (.done, { bus with publishers := bus.publishers.set number false }, [])
  | .dropSubscriber number => (.done, bus.setSubscriber number none, [])
  | .publish number message =>
    if bus.hasPublisher number then
      let (after, entries) := bus.publish message
      (.done, after, entries)
    else (.noPublisher, bus, [])
  | .subscribe number channels =>
    match bus.subscriber? number with
    | none => (.noSubscriber, bus, [])
    | some subscriber =>
      let (after, entries) := subscriber.subscribe channels
      (.done, bus.setSubscriber number (some after), entries)
  | .isSubscribed number channel =>
    match bus.subscriber? number with
    | none => (.noSubscriber, bus, [])
    | some subscriber => (.subscribed (subscriber.isSubscribed channel), bus, [])
  | .receive number =>
    match bus.subscriber? number with
    | none => (.noSubscriber, bus, [])
    | some subscriber =>
      let (receipt, after, entries) := subscriber.receive bus.room bus.isLive
      (.received receipt, bus.setSubscriber number (some after), entries)

/-- Perform actions in turn. The result is that of the last one. -/
def performAll (bus : Local) (actions : List Action) : Result × Local × List Entry :=
  let (result, after, groups) := actions.foldl
    (fun (_, bus, groups) action =>
      let (result, after, entries) := bus.perform action
      (result, after, entries :: groups))
    (Result.done, bus, [])
  (result, after, groups.reverse.flatten)

/-- The unread messages of a subscriber on channels that it has subscribed to. -/
def deliverable (bus : Local) (number : Nat) : List Message :=
  match bus.subscriber? number with
  | none => []
  | some subscriber =>
    (subscriber.catchUp bus.room).1.unread.filter fun message =>
      subscriber.isSubscribed message.channel

end Local

end StrategyHost.Bus
