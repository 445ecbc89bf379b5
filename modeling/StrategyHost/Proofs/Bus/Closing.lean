import StrategyHost.Proofs.Bus.Ledger

/-!
# The end of a bus

A bus on which nothing can be published any more tells each subscriber so, once it has read
what is left. One who never fell behind and was always subscribed to a channel has then
received all that was ever published there.
-/

namespace StrategyHost.Bus

/-- The messages on a channel. -/
def onChannel (channel : String) (messages : List Message) : List Message :=
  messages.filter (·.channel = channel)

/-- What is published on a channel by events after others. -/
theorem onChannel_published_append (channel : String) (events more : List Event) :
    onChannel channel (published (events ++ more)) =
      onChannel channel (published events) ++ onChannel channel (published more) := by
  rw [published, List.filterMap_append, onChannel, List.filter_append]
  rfl

/-- A subscriber is told that there is nothing more. -/
def Event.closing (number : Nat) (entries : List Journal.Entry) : Event :=
  ⟨.receive number, .received .closed, entries⟩

namespace Ledger

variable {room number : Nat} {events : List Event} {readings : List Reading}

/-- Whoever is told that there is nothing more is done with all that was published. -/
theorem published_eq_of_closing {entries : List Journal.Entry}
    (ledger : Ledger room number events readings)
    (closes : events.getLast? = some (.closing number entries)) :
    published events = taken readings := by
  cases ledger with
  | opened => simp at closes
  | @asked events readings event receipt reading _ replies returns _ backlog sound =>
    obtain rfl : event = .closing number entries := by simpa using closes
    simp only [Event.closing, Event.reply?, if_true, Option.some.injEq, Prod.mk.injEq] at replies
    obtain ⟨rfl, _⟩ := replies
    have exhausted : reading.left = [] := sound.exhausts returns.symm
    rw [published_concat, backlog]
    simp [Reading.backlog, exhausted, taken, Event.closing, Event.publication?]
  | @other events _ event _ silent =>
    obtain rfl : event = .closing number entries := by simpa using closes
    simp [Event.closing, Event.reply?] at silent

/-- What is received is on channels that have been subscribed to. -/
theorem channel_mem_requested (ledger : Ledger room number events readings) :
    ∀ message ∈ received number events, message.channel ∈ requested number events := by
  rw [ledger.received_eq]
  induction ledger with
  | opened => simp
  | @asked events _ event _ reading _ _ _ channels _ sound inductionHypothesis =>
    intro message member
    rw [requested_concat, List.mem_append]
    left
    rw [List.filterMap_append, List.mem_append] at member
    rcases member with before | last
    · exact inductionHypothesis message before
    · have returned : message ∈ reading.returned? := by simpa using last
      exact (channels _).mp (sound.returns message returned)
  | other _ _ inductionHypothesis =>
    intro message member
    rw [requested_concat, List.mem_append]
    exact .inl (inductionHypothesis message member)

/-- One whose readings are on time and on a channel, and who is told in the end that there is
nothing more, receives all that is published on the channel. -/
theorem onChannel_received {channel : String} {entries : List Journal.Entry}
    (ledger : Ledger room number events readings)
    (onTime : ∀ reading ∈ readings,
      channel ∈ reading.channels ∧ reading.backlog.length <= room)
    (closes : events.getLast? = some (.closing number entries)) :
    onChannel channel (received number events) = onChannel channel (published events) := by
  have wanted : ∀ reading ∈ readings,
      onChannel channel reading.returned?.toList = onChannel channel reading.taken := by
    intro reading member
    have sound := ledger.sound reading member
    -- Of what is published on the channel nothing is skipped and nothing discarded.
    have nothing : reading.skipped = [] := by
      rw [sound.skips, Nat.sub_eq_zero_of_le (onTime reading member).2, List.take_zero]
    have elsewhere : onChannel channel reading.discarded = [] := by
      apply List.filter_eq_nil_iff.mpr
      intro message discarded
      have unwanted := sound.discards message discarded
      intro same
      rw [of_decide_eq_true same] at unwanted
      exact unwanted (onTime reading member).1
    simp only [onChannel, Reading.taken, nothing, List.nil_append, List.filter_append] at elsewhere ⊢
    rw [elsewhere, List.nil_append]
  rw [ledger.received_eq, ledger.published_eq_of_closing closes, List.filterMap_eq_flatMap_toList]
  simp only [onChannel, taken, List.filter_flatMap] at wanted ⊢
  exact List.flatMap_congr wanted

end Ledger

namespace Local

/-- Whenever a subscriber asks for a message it has subscribed to a channel, and has no more unread
messages than there is room for. -/
def KeepsUp (first : Local) (number : Nat) (channel : String) (events : List Event) : Prop :=
  ∀ before bus after, events = before ++ bus.event (.receive number) :: after ->
    Steps first before bus -> ∀ subscriber, bus.subscriber? number = some subscriber ->
      channel ∈ subscriber.channels ∧ subscriber.unread.length <= bus.room

/-- One who begins by subscribing keeps up if no more is published than there is room for. -/
theorem keepsUp_of_few {first : Local} {number : Nat} {channel : String} {event : Event}
    {rest : List Event} (there : number < first.subscribers.length)
    (opens : first.subscriber? number = some .fresh) (asks : channel ∈ event.request number)
    (few : (published (event :: rest)).length <= first.room) :
    first.KeepsUp number channel (event :: rest) := by
  intro before middle after same prior subscriber present
  obtain ⟨readings, standing⟩ := prior.standing there opens
  obtain ⟨unread, all, waiting⟩ := standing.accounted
  constructor
  · rw [standing.channels subscriber present]
    cases before with
    | nil =>
      cases same
      simp [Local.event, Event.request] at asks
    | cons _ before =>
      cases same
      exact List.mem_append_left _ asks
  · rw [waiting subscriber present, prior.frame.1]
    rw [same, published, List.filterMap_append, List.length_append] at few
    have within := congrArg List.length all
    simp only [published, List.length_append] at within
    omega

/-- The readings of one who keeps up are on time and on the channel. -/
theorem Steps.standing_of_keepsUp {first bus : Local} {number : Nat} {channel : String}
    {events : List Event} (steps : Steps first events bus)
    (there : number < first.subscribers.length) (opens : first.subscriber? number = some .fresh)
    (keepsUp : first.KeepsUp number channel events) :
    ∃ readings, Standing first.room number events readings (bus.subscriber? number) ∧
      ∀ reading ∈ readings,
        channel ∈ reading.channels ∧ reading.backlog.length <= first.room := by
  refine steps.standing_of_asked _ there opens ?_
  intro before middle after same prior subscriber present
  have now := keepsUp before middle after same prior subscriber present
  rwa [prior.frame.1, ← subscriber.backlog_reading first.room] at now

/-- Whether there is a publisher with a number does not depend on what becomes of others. -/
theorem publishers_after {bus : Local} {publisher : Nat} {isThere : Bool} {action : Action}
    (there : bus.publishers[publisher]? = some isThere) (keeps : action ≠ .dropPublisher publisher) :
    (bus.after action).publishers[publisher]? = some isThere := by
  have within := (List.getElem?_eq_some_iff.mp there).1
  cases action with
  | addPublisher | sharePublisher =>
    simp only [after, perform]
    split
    · simpa only [joined, List.getElem?_append_left within] using there
    · exact there
  | addSubscriber | shareBus =>
    simp only [after, perform]
    split <;> exact there
  | dropBus | dropSubscriber => exact there
  | dropPublisher other =>
    have differs : other ≠ publisher := by
      rintro rfl
      exact keeps rfl
    simpa only [after, perform, List.getElem?_set_ne differs] using there
  | publish other message =>
    simp only [after, perform]
    split
    · unfold publish
      split <;> exact there
    · exact there
  | subscribe other | isSubscribed other | receive other =>
    simp only [after, perform]
    split <;> exact there

/-- A publisher that is dropped is there no more. -/
theorem publishers_after_dropPublisher {bus : Local} {publisher : Nat} {isThere : Bool}
    (there : bus.publishers[publisher]? = some isThere) :
    (bus.after (.dropPublisher publisher)).publishers[publisher]? = some false := by
  have within := (List.getElem?_eq_some_iff.mp there).1
  simp [after, perform, within]

/-- As long as a publisher is there more may come. -/
theorem isLive_of_publisher {bus : Local} {publisher : Nat}
    (there : bus.publishers[publisher]? = some true) : bus.isLive = true := by
  have member : true ∈ bus.publishers := List.mem_of_getElem? there
  simp [isLive, member]

/-- Reading does not change whether more may come. -/
theorem isLive_after_receive (bus : Local) (number : Nat) :
    (bus.after (.receive number)).isLive = bus.isLive := by
  simp only [after, perform]
  split <;> rfl

/-- Nobody is told that there is nothing more while more may come. -/
theorem Steps.isLive_of_closing {first bus : Local} {events : List Event} {number : Nat}
    {entries : List Journal.Entry} (steps : Steps first events bus)
    (closes : events.getLast? = some (.closing number entries)) : bus.isLive = false := by
  cases steps with
  | refl => simp at closes
  | @step _ bus _ action =>
    have last : bus.event action = .closing number entries := by simpa using closes
    simp only [event, Event.closing, Event.mk.injEq] at last
    obtain ⟨rfl, told, _⟩ := last
    rw [isLive_after_receive]
    simp only [perform] at told
    cases found : bus.subscriber? number with
    | none => simp [found] at told
    | some subscriber =>
      simp only [found, Result.received.injEq, Subscriber.receive] at told
      split at told
      · cases told
      · cases live : bus.isLive with
        | false => rfl
        | true => simp [live] at told

/-- Once nothing more may come, a subscriber is given one of the messages that are left, or is
told that there is nothing more. -/
theorem receive_of_not_isLive {bus : Local} {number : Nat} {subscriber : Subscriber}
    (there : bus.subscriber? number = some subscriber) (ended : bus.isLive = false) :
    (∃ entries, bus.event (.receive number) = .closing number entries) ∨
      ∃ left, (bus.after (.receive number)).subscriber? number = some left ∧
        left.unread.length < subscriber.unread.length := by
  have step : bus.perform (.receive number) =
      (.received (subscriber.receive bus.room false).1,
        bus.setSubscriber number (some (subscriber.receive bus.room false).2.1),
        (subscriber.receive bus.room false).2.2) := by
    simp only [perform, there, ended]
  cases told : (subscriber.receive bus.room false).1 with
  | closed =>
    left
    refine ⟨(subscriber.receive bus.room false).2.2, ?_⟩
    simp only [event, step, told, Event.closing]
  | pending =>
    simp only [Subscriber.receive] at told
    split at told <;> cases told
  | message message =>
    right
    refine ⟨(subscriber.receive bus.room false).2.1, ?_, Subscriber.length_receive_message told⟩
    simp only [after, step]
    exact subscriber?_setSubscriber (lt_of_subscriber? there)

end Local

end StrategyHost.Bus
