import StrategyHost.Proofs.Bus.Trace

/-!
# A bus on one ring

The messages of a bus need not be kept for every subscriber. A `Ring` stores each of them once, at
the place that its number has modulo the room, as long as anyone is there to read it; whoever reads
only remembers the number of the message that comes next. A reader that is too far behind finds its
place overwritten and goes on with the oldest message that is still stored.
-/

namespace StrategyHost.Bus

open StrategyHost.Journal (Entry)

/-- One who reads from a ring. -/
structure Reader where
  /-- The channels it has subscribed to, each once. -/
  channels : List String
  /-- The number of the message that it looks at next. -/
  next : Nat

/-- What stands where a reader looks. -/
inductive Look where
  | message (message : Message)
  /-- So many messages have been overwritten before the reader looked at them. -/
  | lagged (count : Nat)
  /-- Nothing has been stored there yet. -/
  | nothing

/-- A bus with one store of messages for all who take part in it. -/
structure Ring where
  /-- As many places as there is room, each for the last message that belongs there. -/
  places : List (Option Message)
  /-- The number of messages that have been stored. -/
  stored : Nat
  holders : Nat
  publishers : List Bool
  /-- Readers by number, none for one that has left. -/
  readers : List (Option Reader)

namespace Reader

/-- A reader does not see what was stored before it came. -/
def joining (stored : Nat) : Reader := ⟨[], stored⟩

def isSubscribed (reader : Reader) (channel : String) : Bool :=
  reader.channels.contains channel

/-- Subscribe to channels, as one would who has nothing to read. -/
def subscribe (reader : Reader) (channels : List String) : Reader × List Entry :=
  let (after, entries) := Subscriber.subscribe ⟨reader.channels, []⟩ channels
  ({ reader with channels := after.channels }, entries)

end Reader

namespace Ring

/-- A ring with room for so many messages. -/
def ofRoom (room : Nat) : Ring := ⟨List.replicate room none, 0, 1, [], []⟩

/-- For how many messages there is room. -/
def room (ring : Ring) : Nat := ring.places.length

/-- The number of the oldest message that has not been overwritten. -/
def oldest (ring : Ring) : Nat := ring.stored - ring.room

/-- The message that stands where the message with a number belongs. -/
def place? (ring : Ring) (number : Nat) : Option Message :=
  (ring.places[number % ring.room]?).join

/-- Look at the message with a number. -/
def look (ring : Ring) (number : Nat) : Look :=
  if ring.stored <= number then .nothing
  else if number < ring.oldest then .lagged (ring.oldest - number)
  else
    match ring.place? number with
    | some message => .message message
    | none => .nothing

/-- Nothing is overwritten but what comes before the oldest message. -/
theorem lagged_of_look {ring : Ring} {number count : Nat}
    (found : ring.look number = .lagged count) :
    0 < count ∧ number + count = ring.oldest ∧ number < ring.stored := by
  unfold look at found
  split at found
  · cases found
  · split at found
    · cases found
      omega
    · split at found <;> cases found

/-- Only what has been stored is found. -/
theorem stored_of_look {ring : Ring} {number : Nat} {message : Message}
    (found : ring.look number = .message message) : number < ring.stored := by
  unfold look at found
  split at found
  · cases found
  · omega

/-- Whether the bus itself is still held. -/
def isHeld (ring : Ring) : Bool :=
  0 < ring.holders

/-- Whether messages may still be published. -/
def isLive (ring : Ring) : Bool :=
  ring.isHeld || ring.publishers.contains true

/-- Whether a publisher is there. -/
def hasPublisher (ring : Ring) (number : Nat) : Bool :=
  ring.publishers[number]? = some true

/-- A reader that is there. -/
def reader? (ring : Ring) (number : Nat) : Option Reader :=
  (ring.readers[number]?).join

/-- Replace a reader. -/
def setReader (ring : Ring) (number : Nat) (reader : Option Reader) : Ring :=
  { ring with readers := ring.readers.set number reader }

/-- Store a message, if anyone is there to read it. -/
def publish (ring : Ring) (message : Message) : Ring × List Entry :=
  if ring.readers.any Option.isSome then
    ({ ring with
        places := ring.places.set (ring.stored % ring.room) (some message)
        stored := ring.stored + 1 }, [])
  else (ring, [.noSubscribers message.channel])

/-- Look at one message after the other, up to the first on one of the channels. The result is
what the reader is told, and the number of the message that it looks at next. -/
def receive (ring : Ring) (channels : List String) (number : Nat) : Receipt × Nat × List Entry :=
  match found : ring.look number with
  | .nothing => (if ring.isLive then .pending else .closed, number, [])
  | .lagged count =>
    let (receipt, after, entries) := ring.receive channels (number + count)
    (receipt, after, .lagged count :: entries)
  | .message message =>
    if channels.contains message.channel then (.message message, number + 1, [])
    else ring.receive channels (number + 1)
termination_by ring.stored - number
decreasing_by
  · have behind := lagged_of_look found
    omega
  · have within := stored_of_look found
    omega

section

variable {ring : Ring} {channels : List String} {number : Nat}

theorem receive_of_nothing (found : ring.look number = .nothing) :
    ring.receive channels number = (if ring.isLive then .pending else .closed, number, []) := by
  rw [receive]
  split <;> simp_all

theorem receive_of_lagged {count : Nat} (found : ring.look number = .lagged count) :
    ring.receive channels number =
      ((ring.receive channels (number + count)).1, (ring.receive channels (number + count)).2.1,
        .lagged count :: (ring.receive channels (number + count)).2.2) := by
  rw [receive]
  split <;> simp_all

theorem receive_of_message {message : Message} (found : ring.look number = .message message) :
    ring.receive channels number =
      if channels.contains message.channel then (.message message, number + 1, [])
      else ring.receive channels (number + 1) := by
  rw [receive]
  split <;> simp_all

end

/-- The ring with one more publisher, which is known by the next number. -/
def joined (ring : Ring) : Result × Ring × List Entry :=
  (.number ring.publishers.length, { ring with publishers := ring.publishers ++ [true] }, [])

/-- Perform an action. -/
def perform (ring : Ring) : Action -> Result × Ring × List Entry
  | .addPublisher => if ring.isHeld then ring.joined else (.noBus, ring, [])
  | .addSubscriber =>
    if ring.isHeld then
      (.number ring.readers.length,
        { ring with readers := ring.readers ++ [some (.joining ring.stored)] }, [])
    else (.noBus, ring, [])
  | .shareBus =>
    if ring.isHeld then (.done, { ring with holders := ring.holders + 1 }, [])
    else (.noBus, ring, [])
  | .dropBus => (.done, { ring with holders := ring.holders - 1 }, [])
  | .sharePublisher number =>
    if ring.hasPublisher number then ring.joined else (.noPublisher, ring, [])
  | .dropPublisher number =>
    (.done, { ring with publishers := ring.publishers.set number false }, [])
  | .dropSubscriber number => (.done, ring.setReader number none, [])
  | .publish number message =>
    if ring.hasPublisher number then
      let (after, entries) := ring.publish message
      (.done, after, entries)
    else (.noPublisher, ring, [])
  | .subscribe number channels =>
    match ring.reader? number with
    | none => (.noSubscriber, ring, [])
    | some reader =>
      let (after, entries) := reader.subscribe channels
      (.done, ring.setReader number (some after), entries)
  | .isSubscribed number channel =>
    match ring.reader? number with
    | none => (.noSubscriber, ring, [])
    | some reader => (.subscribed (reader.isSubscribed channel), ring, [])
  | .receive number =>
    match ring.reader? number with
    | none => (.noSubscriber, ring, [])
    | some reader =>
      let (receipt, next, entries) := ring.receive reader.channels reader.next
      (.received receipt, ring.setReader number (some { reader with next }), entries)

/-- The event of an action. -/
def event (ring : Ring) (action : Action) : Event :=
  ⟨action, (ring.perform action).1, (ring.perform action).2.2⟩

/-- The ring after an action. -/
def after (ring : Ring) (action : Action) : Ring :=
  (ring.perform action).2.1

/-- Any number of actions, with their events. -/
inductive Steps (first : Ring) : List Event -> Ring -> Prop where
  | refl : Steps first [] first
  | step {events : List Event} {ring : Ring} (prior : Steps first events ring) (action : Action) :
      Steps first (events ++ [ring.event action]) (ring.after action)

/-- The messages that a reader can still look at, the oldest first. -/
def retained (ring : Ring) (reader : Reader) : List Message :=
  let start := max reader.next ring.oldest
  (List.range' start (ring.stored - start)).filterMap ring.place?

end Ring

end StrategyHost.Bus
