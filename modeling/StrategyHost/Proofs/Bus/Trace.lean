import Mathlib
import StrategyHost.Proofs.Bus.Reading

/-!
# Traces of the local bus

What is done with a bus, by whomever and in any order, with what it results in. What has
been published, what a subscriber has asked for and what it was told are read off the
events alone. `Local.sees_perform` is all that an action can mean to one subscriber.
-/

namespace StrategyHost.Bus

open StrategyHost.Journal (Entry)

/-- An action on a bus, with its result and what it writes to the log. -/
structure Event where
  action : Action
  result : Result
  entries : List Entry

namespace Event

/-- The message that an event publishes. -/
def publication? : Event -> Option Message
  | ⟨.publish _ message, .done, _⟩ => some message
  | _ => none

/-- The channels to which an event subscribes a subscriber. -/
def request (number : Nat) : Event -> List String
  | ⟨.subscribe subscriber channels, .done, _⟩ => if subscriber = number then channels else []
  | _ => []

/-- What a subscriber is told in an event, and what is logged about it. -/
def reply? (number : Nat) : Event -> Option (Receipt × List Entry)
  | ⟨.receive subscriber, .received receipt, entries⟩ =>
    if subscriber = number then some (receipt, entries) else none
  | _ => none

end Event

/-- The number of messages that an entry says are lost. -/
def lossOf : Entry -> Nat
  | .lagged count => count
  | _ => 0

/-- The messages that are published, in the order in which they are. -/
def published (events : List Event) : List Message :=
  events.filterMap Event.publication?

/-- The channels to which a subscriber is subscribed. -/
def requested (number : Nat) (events : List Event) : List String :=
  events.flatMap (Event.request number)

/-- What a subscriber is told, in the order in which it is. -/
def replies (number : Nat) (events : List Event) : List (Receipt × List Entry) :=
  events.filterMap (Event.reply? number)

/-- The messages that a subscriber receives. -/
def received (number : Nat) (events : List Event) : List Message :=
  (replies number events).filterMap fun reply => reply.1.message?

/-- The number of messages of which a subscriber is warned that they are lost. -/
def lost (number : Nat) (events : List Event) : Nat :=
  ((replies number events).flatMap Prod.snd |>.map lossOf).sum

theorem published_concat (events : List Event) (event : Event) :
    published (events ++ [event]) = published events ++ event.publication?.toList := by
  cases publishes : event.publication? <;> simp [published, publishes]

theorem requested_concat (number : Nat) (events : List Event) (event : Event) :
    requested number (events ++ [event]) = requested number events ++ event.request number := by
  simp [requested]

theorem replies_concat (number : Nat) (events : List Event) (event : Event) :
    replies number (events ++ [event]) =
      replies number events ++ (event.reply? number).toList := by
  cases tells : event.reply? number <;> simp [replies, tells]

namespace Local

/-- The event of an action. -/
def event (bus : Local) (action : Action) : Event :=
  ⟨action, (bus.perform action).1, (bus.perform action).2.2⟩

/-- The bus after an action. -/
def after (bus : Local) (action : Action) : Local :=
  (bus.perform action).2.1

/-- Any number of actions, with their events. -/
inductive Steps (first : Local) : List Event -> Local -> Prop where
  | refl : Steps first [] first
  | step {events : List Event} {bus : Local} (prior : Steps first events bus) (action : Action) :
      Steps first (events ++ [bus.event action]) (bus.after action)

/-- What an event means to a subscriber that has room for so many messages. -/
inductive Sees (room number : Nat) : Option Subscriber -> Event -> Option Subscriber -> Prop where
  | published {subscriber? : Option Subscriber} (publisher : Nat) (message : Message)
      (entries : List Entry) :
      Sees room number subscriber? ⟨.publish publisher message, .done, entries⟩
        (subscriber?.map (·.deliver message))
  | subscribed (subscriber : Subscriber) (channels : List String) :
      Sees room number (some subscriber)
        ⟨.subscribe number channels, .done, (subscriber.subscribe channels).2⟩
        (some (subscriber.subscribe channels).1)
  | asked (subscriber : Subscriber) (isLive : Bool) :
      Sees room number (some subscriber)
        ⟨.receive number, .received (subscriber.receive room isLive).1,
          (subscriber.receive room isLive).2.2⟩
        (some (subscriber.receive room isLive).2.1)
  | left (subscriber? : Option Subscriber) :
      Sees room number subscriber? ⟨.dropSubscriber number, .done, []⟩ none
  | unconcerned {before after : Option Subscriber} {event : Event} (same : after = before)
      (publishes : event.publication? = none) (requests : event.request number = [])
      (replies : event.reply? number = none) : Sees room number before event after

/-- A subscriber that is replaced. -/
theorem subscriber?_setSubscriber {bus : Local} {number : Nat} {subscriber? : Option Subscriber}
    (there : number < bus.subscribers.length) :
    (bus.setSubscriber number subscriber?).subscriber? number = subscriber? := by
  simp [Local.subscriber?, setSubscriber, there]

/-- Subscribers are known by numbers that have been given out. -/
theorem lt_of_subscriber? {bus : Local} {number : Nat} {subscriber : Subscriber}
    (there : bus.subscriber? number = some subscriber) : number < bus.subscribers.length := by
  by_contra beyond
  simp [Local.subscriber?, List.getElem?_eq_none (Nat.le_of_not_lt beyond)] at there

/-- A subscriber when another one is replaced. -/
theorem subscriber?_setSubscriber_of_ne {bus : Local} {number other : Nat}
    {subscriber? : Option Subscriber} (differs : other ≠ number) :
    (bus.setSubscriber other subscriber?).subscriber? number = bus.subscriber? number := by
  simp [Local.subscriber?, setSubscriber, differs]

/-- What is done with everyone who is there is done with each. -/
theorem join_getElem?_map {α β : Type} (act : α -> β) (seats : List (Option α)) (number : Nat) :
    ((seats.map (·.map act))[number]?).join = ((seats[number]?).join).map act := by
  rw [List.getElem?_map]
  cases seats[number]? with
  | none => rfl
  | some seat => cases seat <;> rfl

/-- A message is handed to everyone who is there, be it nobody. -/
theorem publish_fst (bus : Local) (message : Message) :
    (bus.publish message).1 =
      { bus with
        subscribers := bus.subscribers.map fun subscriber? =>
          subscriber?.map (·.deliver message) } := by
  unfold publish
  split
  next => rfl
  next isEmpty =>
    have unmoved : ∀ subscriber? ∈ bus.subscribers,
        subscriber?.map (·.deliver message) = subscriber? := by
      intro subscriber? member
      have isNone := mt (List.any_eq_true.mpr ⟨subscriber?, member, ·⟩) isEmpty
      cases subscriber? with
      | none => rfl
      | some => exact absurd rfl isNone
    rw [List.map_congr_left unmoved, List.map_id']

/-- A message reaches every subscriber that is there. -/
theorem subscriber?_publish (bus : Local) (message : Message) (number : Nat) :
    (bus.publish message).1.subscriber? number =
      (bus.subscriber? number).map (·.deliver message) := by
  rw [publish_fst]
  exact join_getElem?_map _ bus.subscribers number

/-- An action means to a subscriber that has been created what one of these kinds of events
does. -/
theorem sees_perform {bus : Local} {number : Nat} (there : number < bus.subscribers.length)
    (action : Action) :
    Sees bus.room number (bus.subscriber? number) (bus.event action)
      ((bus.after action).subscriber? number) := by
  -- Only four kinds of actions concern a subscriber, three of them only by its number.
  cases action with
  | addPublisher =>
    refine .unconcerned ?_ rfl rfl rfl
    simp only [after, perform]
    split <;> rfl
  | addSubscriber =>
    refine .unconcerned ?_ rfl rfl rfl
    simp only [after, perform]
    split
    · simp only [subscriber?, List.getElem?_append_left there]
    · rfl
  | shareBus =>
    refine .unconcerned ?_ rfl rfl rfl
    simp only [after, perform]
    split <;> rfl
  | dropBus => exact .unconcerned rfl rfl rfl rfl
  | sharePublisher publisher =>
    refine .unconcerned ?_ rfl rfl rfl
    simp only [after, perform]
    split <;> rfl
  | dropPublisher publisher => exact .unconcerned rfl rfl rfl rfl
  | isSubscribed other channel =>
    refine .unconcerned ?_ rfl rfl rfl
    simp only [after, perform]
    split <;> rfl
  | dropSubscriber other =>
    by_cases same : other = number
    · subst same
      have left : (bus.after (.dropSubscriber other)).subscriber? other = none :=
        subscriber?_setSubscriber there
      rw [left]
      exact .left _
    · exact .unconcerned (subscriber?_setSubscriber_of_ne same) rfl rfl rfl
  | publish publisher message =>
    simp only [after, event, perform]
    split
    · rw [subscriber?_publish]
      exact .published publisher message _
    · exact .unconcerned rfl rfl rfl rfl
  | subscribe other channels =>
    simp only [after, event, perform]
    cases found : bus.subscriber? other with
    | none => exact .unconcerned rfl rfl rfl rfl
    | some subscriber =>
      by_cases same : other = number
      · subst same
        simp only [found, subscriber?_setSubscriber there]
        exact .subscribed subscriber channels
      · exact .unconcerned (subscriber?_setSubscriber_of_ne same) rfl (if_neg same) rfl
  | receive other =>
    simp only [after, event, perform]
    cases found : bus.subscriber? other with
    | none => exact .unconcerned rfl rfl rfl rfl
    | some subscriber =>
      by_cases same : other = number
      · subst same
        simp only [found, subscriber?_setSubscriber there]
        exact .asked subscriber bus.isLive
      · exact .unconcerned (subscriber?_setSubscriber_of_ne same) rfl rfl (if_neg same)

/-- No action changes the room for messages, and no subscriber is forgotten. -/
theorem frame_after (bus : Local) (action : Action) :
    (bus.after action).room = bus.room ∧
      bus.subscribers.length <= (bus.after action).subscribers.length := by
  cases action with
  | addPublisher | addSubscriber | shareBus | sharePublisher =>
    simp only [after, perform]
    split <;> simp [joined]
  | dropBus | dropPublisher => exact ⟨rfl, Nat.le_refl _⟩
  | dropSubscriber other => simp [after, perform, setSubscriber]
  | publish publisher message =>
    simp only [after, perform]
    split
    · unfold publish
      split <;> simp
    · simp
  | subscribe other | isSubscribed other | receive other =>
    simp only [after, perform]
    split <;> simp [setSubscriber]

theorem Steps.frame {first bus : Local} {events : List Event} (steps : Steps first events bus) :
    bus.room = first.room ∧ first.subscribers.length <= bus.subscribers.length := by
  induction steps with
  | refl => exact ⟨rfl, Nat.le_refl _⟩
  | @step _ bus _ action inductionHypothesis =>
    obtain ⟨room, grows⟩ := inductionHypothesis
    obtain ⟨kept, further⟩ := bus.frame_after action
    exact ⟨kept.trans room, Nat.le_trans grows further⟩

/-- A subscriber that joins has nothing to read, and room like all the others. -/
theorem opens_of_joins {host joined : Local} {number : Nat} {entries : List Entry}
    (joins : host.perform .addSubscriber = (.number number, joined, entries)) :
    joined.room = host.room ∧ number < joined.subscribers.length ∧
      joined.subscriber? number = some .fresh := by
  simp only [perform] at joins
  split at joins
  · cases joins
    exact ⟨rfl, by simp, by simp [subscriber?]⟩
  · cases joins

end Local

end StrategyHost.Bus
