import StrategyHost.Proofs.Bus.Trace

/-!
# The ledger of a subscriber

Every question for a message is booked as a reading: what had been published and was not
taken by then, and what has become of it. Nothing but the events enters the ledger, and
each published message is taken once at most. `Local.Steps.standing` says that it can be
kept for every subscriber, whatever else is done with the bus meanwhile.
-/

namespace StrategyHost.Bus

/-- The messages that a subscriber is done with. -/
def taken (readings : List Reading) : List Message :=
  readings.flatMap Reading.taken

/-- The readings of a subscriber with room for so many messages, by the events since it was
created. -/
inductive Ledger (room number : Nat) : List Event -> List Reading -> Prop where
  | opened : Ledger room number [] []
  | asked {events : List Event} {readings : List Reading} {event : Event} {receipt : Receipt}
      {reading : Reading} (prior : Ledger room number events readings)
      (replies : event.reply? number = some (receipt, reading.warnings))
      (returns : receipt.message? = reading.returned?)
      (channels : ∀ channel, channel ∈ reading.channels ↔ channel ∈ requested number events)
      (backlog : published events = taken readings ++ reading.backlog)
      (sound : reading.Sound room) :
      Ledger room number (events ++ [event]) (readings ++ [reading])
  | other {events : List Event} {readings : List Reading} {event : Event}
      (prior : Ledger room number events readings) (silent : event.reply? number = none) :
      Ledger room number (events ++ [event]) readings

/-- The warnings of a reading tell how many messages it skips. -/
theorem Reading.sum_warnings (reading : Reading) :
    (reading.warnings.map lossOf).sum = reading.skipped.length := by
  unfold Reading.warnings
  split
  next nothing => simp [nothing]
  next => simp [lossOf]

namespace Ledger

variable {room number : Nat} {events : List Event} {readings : List Reading}

/-- Every reading is by the rules. -/
theorem sound (ledger : Ledger room number events readings) :
    ∀ reading ∈ readings, reading.Sound room := by
  induction ledger with
  | opened => simp
  | asked _ _ _ _ _ sound inductionHypothesis =>
    intro reading member
    rcases List.mem_append.mp member with before | last
    · exact inductionHypothesis reading before
    · rwa [List.mem_singleton.mp last]
  | other _ _ inductionHypothesis => exact inductionHypothesis

/-- A subscriber receives what its readings return. -/
theorem received_eq (ledger : Ledger room number events readings) :
    received number events = readings.filterMap Reading.returned? := by
  unfold received
  induction ledger with
  | opened => rfl
  | @asked _ _ _ _ reading _ replies returns _ _ _ inductionHypothesis =>
    rw [replies_concat, List.filterMap_append, inductionHypothesis, replies,
      List.filterMap_append]
    cases returned : reading.returned? <;> simp [returns, returned]
  | other _ silent inductionHypothesis =>
    rw [replies_concat, silent, Option.toList_none, List.append_nil, inductionHypothesis]

/-- The warnings tell how many messages have been skipped. -/
theorem lost_eq (ledger : Ledger room number events readings) :
    lost number events = (readings.map fun reading => reading.skipped.length).sum := by
  unfold lost
  induction ledger with
  | opened => rfl
  | @asked _ _ _ _ reading _ replies _ _ _ _ inductionHypothesis =>
    rw [replies_concat, replies]
    simp [inductionHypothesis, reading.sum_warnings]
  | other _ silent inductionHypothesis =>
    rw [replies_concat, silent, Option.toList_none, List.append_nil, inductionHypothesis]

end Ledger

namespace Subscriber

/-- The channels after a subscription. -/
theorem mem_channels_subscribe (subscriber : Subscriber) (channels : List String)
    (channel : String) : channel ∈ (subscriber.subscribe channels).1.channels ↔
      channel ∈ subscriber.channels ∨ channel ∈ channels := by
  induction channels generalizing subscriber with
  | nil => simp [subscribe]
  | cons first rest inductionHypothesis =>
    unfold subscribe
    split
    next known =>
      have member : first ∈ subscriber.channels := by simpa [isSubscribed] using known
      rw [inductionHypothesis, List.mem_cons]
      constructor
      · rintro (before | later)
        · exact .inl before
        · exact .inr (.inr later)
      · rintro (before | rfl | later)
        · exact .inl before
        · exact .inl member
        · exact .inr later
    next => simp [inductionHypothesis, or_assoc]

end Subscriber

/-- How a subscriber stands after these events and readings, or after it has left. -/
structure Standing (room number : Nat) (events : List Event) (readings : List Reading)
    (subscriber? : Option Subscriber) : Prop where
  ledger : Ledger room number events readings
  accounted : ∃ unread, published events = taken readings ++ unread ∧
    ∀ subscriber, subscriber? = some subscriber -> subscriber.unread = unread
  channels : ∀ subscriber, subscriber? = some subscriber ->
    ∀ channel, channel ∈ subscriber.channels ↔ channel ∈ requested number events

namespace Standing

variable {room number : Nat} {events : List Event} {readings : List Reading}

/-- A subscriber that has just been created has nothing to account for. -/
theorem opened : Standing room number [] [] (some .fresh) := by
  refine ⟨.opened, ⟨[], rfl, ?_⟩, ?_⟩
  · rintro _ ⟨⟩
    rfl
  · rintro _ ⟨⟩ channel
    rfl

/-- A message that is published is unread by those who are there. -/
theorem published {subscriber? : Option Subscriber} (publisher : Nat) (message : Message)
    (entries : List Journal.Entry) (standing : Standing room number events readings subscriber?) :
    Standing room number (events ++ [⟨.publish publisher message, .done, entries⟩]) readings
      (subscriber?.map (·.deliver message)) := by
  obtain ⟨ledger, ⟨unread, all, waiting⟩, channels⟩ := standing
  refine ⟨ledger.other rfl, ⟨unread ++ [message], ?_, ?_⟩, ?_⟩
  · rw [published_concat, all, List.append_assoc]
    rfl
  · intro subscriber delivered
    obtain ⟨before, there, rfl⟩ := Option.map_eq_some_iff.mp delivered
    rw [Subscriber.unread_deliver, waiting before there]
  · intro subscriber delivered
    obtain ⟨before, there, rfl⟩ := Option.map_eq_some_iff.mp delivered
    rw [requested_concat]
    simpa [Event.request, Subscriber.deliver] using channels before there

/-- Subscribing adds to the channels and reads nothing. -/
theorem subscribed {subscriber : Subscriber} (asked : List String)
    (standing : Standing room number events readings (some subscriber)) :
    Standing room number
      (events ++ [⟨.subscribe number asked, .done, (subscriber.subscribe asked).2⟩]) readings
      (some (subscriber.subscribe asked).1) := by
  obtain ⟨ledger, ⟨unread, all, waiting⟩, channels⟩ := standing
  refine ⟨ledger.other rfl, ⟨unread, ?_, ?_⟩, ?_⟩
  · rw [published_concat, all]
    exact List.append_nil _
  · rintro _ ⟨⟩
    rw [Subscriber.unread_subscribe, waiting subscriber rfl]
  · rintro _ ⟨⟩ channel
    rw [requested_concat, Subscriber.mem_channels_subscribe, channels subscriber rfl,
      List.mem_append]
    simp [Event.request]

/-- Asking for a message adds one reading. -/
theorem asked {subscriber : Subscriber} (isLive : Bool)
    (standing : Standing room number events readings (some subscriber)) :
    Standing room number
      (events ++ [⟨.receive number, .received (subscriber.receive room isLive).1,
        (subscriber.receive room isLive).2.2⟩])
      (readings ++ [subscriber.reading room])
      (some (subscriber.receive room isLive).2.1) := by
  obtain ⟨ledger, ⟨unread, all, waiting⟩, channels⟩ := standing
  obtain ⟨returns, after, warnings⟩ := subscriber.receive_eq room isLive
  have backlog : Bus.published events = taken readings ++ (subscriber.reading room).backlog := by
    rw [all, Subscriber.backlog_reading, waiting subscriber rfl]
  -- What is left of the backlog is what is unread from now on.
  refine ⟨?_, ⟨(subscriber.reading room).left, ?_, ?_⟩, ?_⟩
  · refine ledger.asked ?_ returns (channels subscriber rfl) backlog
      (subscriber.sound_reading room)
    rw [warnings]
    exact if_pos rfl
  · rw [published_concat, backlog]
    simp [Reading.backlog, taken, Event.publication?]
  · rintro _ ⟨⟩
    rw [after, Subscriber.unread_withUnread]
  · rintro _ ⟨⟩
    rw [after, requested_concat]
    simpa [Event.request, Subscriber.withUnread] using channels subscriber rfl

/-- An event that is none of these changes nothing. -/
theorem unconcerned {subscriber? : Option Subscriber} {event : Event}
    (standing : Standing room number events readings subscriber?)
    (publishes : event.publication? = none) (requests : event.request number = [])
    (replies : event.reply? number = none) :
    Standing room number (events ++ [event]) readings subscriber? := by
  obtain ⟨ledger, accounted, channels⟩ := standing
  refine ⟨ledger.other replies, ?_, ?_⟩
  · rwa [published_concat, publishes, Option.toList_none, List.append_nil]
  · rwa [requested_concat, requests, List.append_nil]

/-- A subscriber that leaves reads no more. -/
theorem left {subscriber? : Option Subscriber}
    (standing : Standing room number events readings subscriber?) :
    Standing room number events readings none := by
  obtain ⟨ledger, ⟨unread, all, _⟩, _⟩ := standing
  exact ⟨ledger, ⟨unread, all, by simp⟩, by simp⟩

/-- Every event leaves a subscriber in good standing, and adds a reading only if it asks. -/
theorem sees {before after : Option Subscriber} {event : Event}
    (standing : Standing room number events readings before)
    (sees : Local.Sees room number before event after) :
    ∃ more, Standing room number (events ++ [event]) (readings ++ more) after ∧
      ∀ reading ∈ more, event.action = .receive number ∧
        ∃ subscriber, before = some subscriber ∧ reading = subscriber.reading room := by
  cases sees with
  | published publisher message entries =>
    exact ⟨[], by simpa using standing.published publisher message entries, by simp⟩
  | subscribed subscriber channels => exact ⟨[], by simpa using standing.subscribed channels, by simp⟩
  | asked subscriber isLive => exact ⟨_, standing.asked isLive, by simp⟩
  | left => exact ⟨[], by simpa using standing.left.unconcerned rfl rfl rfl, by simp⟩
  | unconcerned same publishes requests replies =>
    rw [same]
    exact ⟨[], by simpa using standing.unconcerned publishes requests replies, by simp⟩

end Standing

namespace Local

/-- Whatever is done with a bus, a subscriber that has been created stays in good standing, and its
readings have what it had each time when it asked. -/
theorem Steps.standing_of_asked {number : Nat} {first bus : Local} {events : List Event}
    (property : Reading -> Prop) (steps : Steps first events bus)
    (there : number < first.subscribers.length) (opens : first.subscriber? number = some .fresh)
    (asked : ∀ before middle after, events = before ++ middle.event (.receive number) :: after ->
      Steps first before middle -> ∀ subscriber, middle.subscriber? number = some subscriber ->
        property (subscriber.reading first.room)) :
    ∃ readings, Standing first.room number events readings (bus.subscriber? number) ∧
      ∀ reading ∈ readings, property reading := by
  induction steps with
  | refl => exact ⟨[], opens ▸ .opened, by simp⟩
  | @step events bus prior action inductionHypothesis =>
    obtain ⟨readings, standing, having⟩ := inductionHypothesis (by
      rintro before middle after rfl
      exact asked before middle (after ++ [bus.event action]) (by simp))
    obtain ⟨room, grows⟩ := prior.frame
    have sees := sees_perform (Nat.lt_of_lt_of_le there grows) action
    rw [room] at sees
    obtain ⟨more, further, reads⟩ := standing.sees sees
    refine ⟨_, further, ?_⟩
    intro reading member
    rcases List.mem_append.mp member with before | last
    · exact having reading before
    · obtain ⟨asks, subscriber, present, rfl⟩ := reads reading last
      obtain rfl : action = .receive number := asks
      exact asked events bus [] rfl prior subscriber present

/-- Whatever is done with a bus, a subscriber that has been created stays in good standing. -/
theorem Steps.standing {number : Nat} {first bus : Local} {events : List Event}
    (steps : Steps first events bus) (there : number < first.subscribers.length)
    (opens : first.subscriber? number = some .fresh) :
    ∃ readings, Standing first.room number events readings (bus.subscriber? number) := by
  obtain ⟨readings, standing, _⟩ :=
    steps.standing_of_asked (fun _ => True) there opens fun _ _ _ _ _ _ _ => trivial
  exact ⟨readings, standing⟩

end Local

end StrategyHost.Bus
