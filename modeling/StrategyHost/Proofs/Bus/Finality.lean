import StrategyHost.Proofs.Bus.Alone
import StrategyHost.Proofs.Bus.Subscription

/-!
# When a subscription ends

A subscriber is told that there is nothing more when nobody is left who could publish and none of
the messages that a ring retains for it is on its channels, and not before. It is then told so for
ever. What is retained for it comes first, whether others have been lost or not.
-/

namespace StrategyHost.Bus

/-- The messages that are on one of these channels. -/
def onChannels (channels : List String) (messages : List Message) : List Message :=
  messages.filter (·.channel ∈ channels)

theorem onChannels_append (channels : List String) (messages more : List Message) :
    onChannels channels (messages ++ more) =
      onChannels channels messages ++ onChannels channels more :=
  List.filter_append ..

theorem onChannels_eq_nil_iff {channels : List String} {messages : List Message} :
    onChannels channels messages = [] ↔ ∀ message ∈ messages, message.channel ∉ channels := by
  simp [onChannels, List.filter_eq_nil_iff]

/-- What one with these channels is told, by the messages that are kept for it, and which of them
are kept any longer. -/
inductive Answers (isLive : Bool) (channels : List String) :
    List Message -> Receipt -> List Message -> Prop where
  | message {passed rest : List Message} {message : Message}
      (unwanted : onChannels channels passed = []) (wanted : message.channel ∈ channels) :
      Answers isLive channels (passed ++ message :: rest) (.message message) rest
  | waits {passed : List Message} (unwanted : onChannels channels passed = [])
      (live : isLive = true) : Answers isLive channels passed .pending []
  | closes {passed : List Message} (unwanted : onChannels channels passed = [])
      (ended : isLive = false) : Answers isLive channels passed .closed []

namespace Answers

variable {isLive : Bool} {channels : List String} {kept left : List Message} {receipt : Receipt}

/-- Of what is wanted, the first message is given and the others are kept. -/
theorem onChannels_eq (answers : Answers isLive channels kept receipt left) :
    onChannels channels kept = receipt.message?.toList ++ onChannels channels left := by
  cases answers with
  | @message passed rest message unwanted wanted =>
    rw [onChannels_append, unwanted, onChannels, List.filter_cons_of_pos (by simpa using wanted)]
    rfl
  | waits unwanted => exact unwanted
  | closes unwanted => exact unwanted

/-- It is over when nobody is left and nothing is wanted. -/
theorem closed_iff (answers : Answers isLive channels kept receipt left) :
    receipt = .closed ↔ isLive = false ∧ onChannels channels kept = [] := by
  have wanted := answers.onChannels_eq
  cases answers with
  | message => simp [wanted, Receipt.message?]
  | waits _ live => simp [live]
  | closes unwanted ended => simp [ended, unwanted]

/-- There is something to wait for when someone is left and nothing is wanted. -/
theorem pending_iff (answers : Answers isLive channels kept receipt left) :
    receipt = .pending ↔ isLive = true ∧ onChannels channels kept = [] := by
  have wanted := answers.onChannels_eq
  cases answers with
  | message => simp [wanted, Receipt.message?]
  | waits unwanted live => simp [live, unwanted]
  | closes _ ended => simp [ended]

/-- A message is the first that is wanted. -/
theorem message_iff (answers : Answers isLive channels kept receipt left) (message : Message) :
    receipt = .message message ↔ (onChannels channels kept).head? = some message := by
  have wanted := answers.onChannels_eq
  cases answers with
  | message => simp [wanted, Receipt.message?]
  | waits unwanted => simp [unwanted]
  | closes unwanted => simp [unwanted]

/-- On fewer channels as well, what is wanted is given or kept. -/
theorem sublist (answers : Answers isLive channels kept receipt left) {fewer : List String}
    (within : fewer ⊆ channels) :
    (onChannels fewer kept).Sublist (receipt.message?.toList ++ onChannels fewer left) := by
  have elsewhere {passed : List Message} (unwanted : onChannels channels passed = []) :
      onChannels fewer passed = [] :=
    onChannels_eq_nil_iff.mpr fun message member wanted =>
      onChannels_eq_nil_iff.mp unwanted message member (within wanted)
  cases answers with
  | @message passed rest message unwanted wanted =>
    rw [onChannels_append, elsewhere unwanted, ← List.singleton_append, onChannels_append]
    exact List.filter_sublist.append_right _
  | waits unwanted => rw [elsewhere unwanted]; exact List.nil_sublist _
  | closes unwanted => rw [elsewhere unwanted]; exact List.nil_sublist _

/-- Nothing is kept beyond the end. -/
theorem left_of_closed (answers : Answers isLive channels kept .closed left) : left = [] := by
  cases answers
  rfl

/-- No more is kept than before. -/
theorem length_le (answers : Answers isLive channels kept receipt left) :
    left.length <= kept.length := by
  cases answers with
  | message => simp; omega
  | waits | closes => exact Nat.zero_le _

end Answers

/-- A receipt with a message. -/
theorem Receipt.message?_eq_some_iff {receipt : Receipt} {message : Message} :
    receipt.message? = some message ↔ receipt = .message message := by
  cases receipt <;> simp [Receipt.message?]

namespace Subscriber

variable (subscriber : Subscriber) (room : Nat)

/-- What is kept is discarded, returned or left by a reading. -/
theorem kept_eq : subscriber.kept room =
    (subscriber.reading room).discarded ++
      ((subscriber.reading room).returned?.toList ++ (subscriber.reading room).left) := by
  have backlog := subscriber.backlog_reading room
  have cut := List.take_append_drop (subscriber.excess room) subscriber.unread
  rw [← cut] at backlog
  simp only [Reading.backlog, Reading.taken, List.append_assoc] at backlog
  exact (List.append_cancel_left backlog).symm

/-- There is room for what is kept. -/
theorem length_kept : (subscriber.kept room).length = min subscriber.unread.length room := by
  simp only [kept, excess, List.length_drop]
  omega

/-- Without a message there is nothing, now or for ever. -/
theorem receive_of_none {isLive : Bool}
    (none : (subscriber.receive room isLive).1.message? = none) :
    (subscriber.receive room isLive).1 = if isLive then .pending else .closed := by
  unfold receive at none ⊢
  dsimp only at none ⊢
  split at none
  next found => cases none
  next found => rfl

/-- A subscriber is answered by what is kept for it. -/
theorem answers (isLive : Bool) :
    Answers isLive subscriber.channels (subscriber.kept room)
      (subscriber.receive room isLive).1 (subscriber.receive room isLive).2.1.unread := by
  obtain ⟨returns, after, _⟩ := subscriber.receive_eq room isLive
  have sound := subscriber.sound_reading room
  have unwanted : onChannels subscriber.channels (subscriber.reading room).discarded = [] :=
    onChannels_eq_nil_iff.mpr sound.discards
  rw [after, unread_withUnread, subscriber.kept_eq room]
  cases returned : (subscriber.reading room).returned? with
  | some message =>
    rw [Receipt.message?_eq_some_iff.mp (returns.trans returned)]
    exact .message unwanted (sound.returns message returned)
  | none =>
    rw [sound.exhausts returned, subscriber.receive_of_none room (returns.trans returned)]
    simp only [Option.toList_none, List.append_nil]
    cases isLive with
    | true => exact .waits unwanted rfl
    | false => exact .closes unwanted rfl

/-- There is room for all that is left after an answer. -/
theorem excess_receive (isLive : Bool) : (subscriber.receive room isLive).2.1.excess room = 0 := by
  have fewer := (subscriber.answers room isLive).length_le
  rw [subscriber.length_kept room] at fewer
  unfold excess
  omega

/-- All is kept that is left after an answer. -/
theorem kept_receive (isLive : Bool) :
    (subscriber.receive room isLive).2.1.kept room =
      (subscriber.receive room isLive).2.1.unread := by
  rw [kept, subscriber.excess_receive room isLive, List.drop_zero]

/-- A subscriber is warned of all messages for which there is no room. -/
theorem sum_receive (isLive : Bool) :
    ((subscriber.receive room isLive).2.2.map lossOf).sum = subscriber.excess room := by
  rw [(subscriber.receive_eq room isLive).2.2, Reading.sum_warnings, reading, List.length_take]
  exact Nat.min_eq_left (Nat.sub_le _ _)

end Subscriber

theorem received_concat (number : Nat) (events : List Event) (event : Event) :
    received number (events ++ [event]) =
      received number events ++ ((event.reply? number).bind (·.1.message?)).toList := by
  rw [received, received, replies_concat, List.filterMap_append]
  cases event.reply? number with
  | none => rfl
  | some reply => cases told : reply.1.message? <;> simp [told]

theorem lost_concat (number : Nat) (events : List Event) (event : Event) :
    lost number (events ++ [event]) = lost number events +
      (event.reply? number).elim 0 fun reply => (reply.2.map lossOf).sum := by
  rw [lost, lost, replies_concat]
  cases event.reply? number <;> simp

/-- What was kept for a subscriber has been received by it since or is still unread, unless it has
been warned of more than what there was no room for at first. -/
structure Keeps (room number : Nat) (subscriber : Subscriber) (events : List Event)
    (now : Subscriber) : Prop where
  channels : subscriber.channels ⊆ now.channels
  fewer : now.unread.length <= subscriber.unread.length + (published events).length
  losses : lost number events + now.excess room <=
    subscriber.excess room + (published events).length
  /-- What there was no room for has been lost, or has yet to be. -/
  behind : subscriber.excess room <= lost number events + now.excess room
  inOrder : lost number events <= subscriber.excess room ->
    (onChannels subscriber.channels (subscriber.kept room)).Sublist
      (received number events ++ onChannels subscriber.channels
        (now.unread.drop (subscriber.excess room - lost number events)))

namespace Keeps

variable {room number : Nat} {subscriber now : Subscriber} {events : List Event}

theorem refl : Keeps room number subscriber [] subscriber where
  channels := List.Subset.refl _
  fewer := Nat.le_refl _
  losses := by simp [lost, replies]
  behind := Nat.le_add_left _ _
  inOrder _ := List.Sublist.refl _

/-- More channels change nothing about what is unread. -/
theorem congr {other : Subscriber} (keeps : Keeps room number subscriber events now)
    (same : other.unread = now.unread) (more : now.channels ⊆ other.channels) :
    Keeps room number subscriber events other := by
  obtain ⟨channels, fewer, losses, behind, inOrder⟩ := keeps
  have excess : other.excess room = now.excess room := by
    rw [Subscriber.excess, Subscriber.excess, same]
  rw [← same] at fewer inOrder
  rw [← excess] at losses behind
  exact ⟨List.Subset.trans channels more, fewer, losses, behind, inOrder⟩

/-- An event that does not concern what is unread. -/
theorem unconcerned {event : Event} (keeps : Keeps room number subscriber events now)
    (publishes : event.publication? = none) (replies : event.reply? number = none) :
    Keeps room number subscriber (events ++ [event]) now := by
  obtain ⟨channels, fewer, losses, behind, inOrder⟩ := keeps
  have lost : lost number (events ++ [event]) = Bus.lost number events := by
    rw [lost_concat, replies]
    rfl
  have received : received number (events ++ [event]) = Bus.received number events := by
    rw [received_concat, replies]
    exact List.append_nil _
  have published : published (events ++ [event]) = Bus.published events := by
    rw [published_concat, publishes]
    exact List.append_nil _
  constructor
  · exact channels
  · rwa [published]
  · rwa [published, lost]
  · rwa [lost]
  · rwa [lost, received]

/-- A message that is published comes behind what is unread. -/
theorem published (publisher : Nat) (message : Message) (entries : List Journal.Entry)
    (keeps : Keeps room number subscriber events now) :
    Keeps room number subscriber (events ++ [⟨.publish publisher message, .done, entries⟩])
      (now.deliver message) := by
  obtain ⟨channels, fewer, losses, behind, inOrder⟩ := keeps
  have one : (Bus.published (events ++ [⟨.publish publisher message, .done, entries⟩])).length =
      (Bus.published events).length + 1 := by
    rw [published_concat, List.length_append]
    rfl
  have lost : lost number (events ++ [⟨.publish publisher message, .done, entries⟩]) =
      Bus.lost number events := lost_concat ..
  have excess : now.excess room <= (now.deliver message).excess room ∧
      (now.deliver message).excess room <= now.excess room + 1 := by
    simp only [Subscriber.excess, Subscriber.unread_deliver, List.length_append,
      List.length_singleton]
    omega
  have within : now.excess room <= now.unread.length := Nat.sub_le _ _
  constructor
  · exact channels
  · rw [one, Subscriber.unread_deliver, List.length_append, List.length_singleton]
    omega
  · rw [one, lost]
    omega
  · rw [lost]
    omega
  · intro few
    rw [lost] at few ⊢
    rw [Subscriber.unread_deliver, List.drop_append_of_le_length (by omega), onChannels_append,
      received_concat, ← List.append_assoc]
    simpa [Event.reply?] using (inOrder few).trans (List.sublist_append_left _ _)

/-- Subscribing loses nothing. -/
theorem subscribed (channels : List String) (keeps : Keeps room number subscriber events now) :
    Keeps room number subscriber
      (events ++ [⟨.subscribe number channels, .done, (now.subscribe channels).2⟩])
      (now.subscribe channels).1 :=
  (keeps.unconcerned rfl rfl).congr (now.unread_subscribe channels) fun channel member =>
    (now.mem_channels_subscribe channels channel).mpr (.inl member)

/-- An answer gives what is not kept any longer. -/
theorem asked (isLive : Bool) (keeps : Keeps room number subscriber events now) :
    Keeps room number subscriber
      (events ++ [⟨.receive number, .received (now.receive room isLive).1,
        (now.receive room isLive).2.2⟩])
      (now.receive room isLive).2.1 := by
  obtain ⟨channels, fewer, losses, behind, inOrder⟩ := keeps
  generalize last : Event.mk (.receive number) (.received (now.receive room isLive).1)
    (now.receive room isLive).2.2 = event
  have replies : event.reply? number =
      some ((now.receive room isLive).1, (now.receive room isLive).2.2) := by
    rw [← last]
    exact if_pos rfl
  have published : Bus.published (events ++ [event]) = Bus.published events := by
    rw [published_concat, ← last]
    exact List.append_nil _
  have lost : lost number (events ++ [event]) = Bus.lost number events + now.excess room := by
    rw [lost_concat, replies]
    exact congrArg _ (now.sum_receive room isLive)
  have caughtUp := now.excess_receive room isLive
  constructor
  · rwa [Local.channels_receive]
  · rw [published]
    exact Nat.le_trans (now.length_receive room isLive) fewer
  · rw [published, lost, caughtUp]
    exact losses
  · rw [lost, caughtUp]
    exact behind
  · intro few
    rw [lost] at few
    -- All that is lost by now is what there was no room for at first.
    have exact : now.excess room = subscriber.excess room - Bus.lost number events := by omega
    have none : subscriber.excess room - Bus.lost number (events ++ [event]) = 0 := by omega
    have before := inOrder (by omega)
    have given := ((now.answers room isLive).sublist channels).append_left
      (Bus.received number events)
    rw [← exact] at before
    rw [none, List.drop_zero, received_concat, replies, List.append_assoc]
    exact before.trans given

/-- Whatever an event means to a subscriber. -/
theorem sees {before after : Option Subscriber} {event : Event}
    (keeps : ∀ now, before = some now -> Keeps room number subscriber events now)
    (sees : Local.Sees room number before event after) :
    ∀ now, after = some now -> Keeps room number subscriber (events ++ [event]) now := by
  cases sees with
  | published publisher message entries =>
    intro now there
    obtain ⟨prior, present, rfl⟩ := Option.map_eq_some_iff.mp there
    exact (keeps prior present).published publisher message entries
  | subscribed prior channels =>
    rintro _ ⟨⟩
    exact (keeps prior rfl).subscribed channels
  | asked prior isLive =>
    rintro _ ⟨⟩
    exact (keeps prior rfl).asked isLive
  | left => simp
  | unconcerned same publishes _ replies =>
    intro now there
    exact (keeps now (same ▸ there)).unconcerned publishes replies

end Keeps

namespace Local

/-- Someone holds the bus, or publishes on it. -/
def IsAlive (bus : Local) : Prop :=
  0 < bus.holders ∨ ∃ publisher, bus.hasPublisher publisher = true

theorem isLive_iff (bus : Local) : bus.isLive = true ↔ bus.IsAlive := by
  simp only [isLive, isHeld, IsAlive, hasPublisher, Bool.or_eq_true, decide_eq_true_eq]
  rw [List.contains_iff_mem, List.mem_iff_getElem?]

/-- Whatever is done with a bus, what was kept for a subscriber is accounted for. -/
theorem Steps.keeps {first bus : Local} {number : Nat} {subscriber : Subscriber}
    {events : List Event} (steps : Steps first events bus)
    (there : first.subscriber? number = some subscriber) :
    ∀ now, bus.subscriber? number = some now ->
      Keeps first.room number subscriber events now := by
  induction steps with
  | refl =>
    intro now present
    obtain rfl := Option.some.inj (there.symm.trans present)
    exact .refl
  | @step events bus prior action inductionHypothesis =>
    obtain ⟨room, grows⟩ := prior.frame
    have sees := sees_perform (Nat.lt_of_lt_of_le (lt_of_subscriber? there) grows) action
    rw [room] at sees
    exact Keeps.sees inductionHypothesis sees

theorem isLive_eq_false_iff (bus : Local) : bus.isLive = false ↔
    bus.isHeld = false ∧ ∀ publisher, bus.hasPublisher publisher = false := by
  rw [← Bool.not_eq_true, isLive_iff, IsAlive, not_or, not_exists]
  simp [isHeld]

/-- Nobody comes any more when nobody is left. -/
theorem isLive_after {bus : Local} (ended : bus.isLive = false) (action : Action) :
    (bus.after action).isLive = false := by
  obtain ⟨unheld, nobody⟩ := bus.isLive_eq_false_iff.mp ended
  cases action with
  | addPublisher | addSubscriber | shareBus => simpa [after, perform, unheld] using ended
  | sharePublisher publisher => simpa [after, perform, nobody publisher] using ended
  | dropBus =>
    have none : bus.holders = 0 := by simpa [isHeld] using unheld
    refine (isLive_eq_false_iff _).mpr ⟨?_, nobody⟩
    simp [isHeld, after, perform, none]
  | dropPublisher publisher =>
    refine (isLive_eq_false_iff _).mpr ⟨unheld, fun other => ?_⟩
    have absent := nobody other
    simp only [hasPublisher, after, perform, List.getElem?_set, decide_eq_false_iff_not] at absent ⊢
    split
    · split <;> simp
    · exact absent
  | publish publisher message => simpa [after, perform, nobody publisher] using ended
  | dropSubscriber => exact ended
  | subscribe | isSubscribed | receive =>
    simp only [after, perform]
    split <;> exact ended

/-- Nothing is published when nobody is left. -/
theorem publication?_of_not_isLive {bus : Local} (ended : bus.isLive = false) (action : Action) :
    (bus.event action).publication? = none := by
  obtain ⟨_, nobody⟩ := bus.isLive_eq_false_iff.mp ended
  cases action with
  | publish publisher message => simp [event, perform, nobody publisher, Event.publication?]
  | _ => rfl

/-- A bus on which nobody is left stays so, and nothing is published on it. -/
theorem Steps.ended {first bus : Local} {events : List Event} (steps : Steps first events bus)
    (ended : first.isLive = false) : bus.isLive = false ∧ published events = [] := by
  induction steps with
  | refl => exact ⟨ended, rfl⟩
  | @step events bus _ action inductionHypothesis =>
    obtain ⟨still, nothing⟩ := inductionHypothesis
    refine ⟨isLive_after still action, ?_⟩
    rw [published_concat, nothing, publication?_of_not_isLive still action]
    rfl

/-- What a question of a subscriber that is there comes to. -/
theorem perform_receive {bus : Local} {number : Nat} {subscriber : Subscriber}
    (there : bus.subscriber? number = some subscriber) :
    bus.perform (.receive number) =
      (.received (subscriber.receive bus.room bus.isLive).1,
        bus.setSubscriber number (some (subscriber.receive bus.room bus.isLive).2.1),
        (subscriber.receive bus.room bus.isLive).2.2) := by
  simp only [perform, there]

/-- Whoever is told that there is nothing more has nothing left, and nobody is left who could
publish. -/
theorem after_of_closed {bus : Local} {number : Nat}
    (told : (bus.perform (.receive number)).1 = .received .closed) :
    bus.isLive = false ∧
      ∃ now, (bus.after (.receive number)).subscriber? number = some now ∧ now.unread = [] := by
  cases there : bus.subscriber? number with
  | none => simp [perform, there] at told
  | some subscriber =>
    have answers := subscriber.answers bus.room bus.isLive
    rw [perform_receive there, Result.received.injEq] at told
    refine ⟨(answers.closed_iff.mp told).1, (subscriber.receive bus.room bus.isLive).2.1, ?_, ?_⟩
    · rw [after, perform_receive there]
      exact subscriber?_setSubscriber (lt_of_subscriber? there)
    · rw [told] at answers
      exact answers.left_of_closed

/-- Whoever is told in the end that there is nothing more has received all that was kept on its
channels, unless it has been warned of more than what there was no room for at first. That takes a
bus on which someone was left. -/
theorem Steps.delivered {bus last : Local} {number : Nat} {subscriber : Subscriber}
    {later : List Event} {entries : List Journal.Entry} (steps : Steps bus later last)
    (there : bus.subscriber? number = some subscriber)
    (closes : later.getLast? = some (.closing number entries))
    (few : bus.isLive = true -> lost number later <= subscriber.excess bus.room) :
    (onChannels subscriber.channels (subscriber.kept bus.room)).Sublist
      (received number later) := by
  have keeps := steps.keeps there
  have ended := steps.ended
  cases steps with
  | refl => simp at closes
  | @step events middle prior action =>
    have ends : middle.event action = .closing number entries := by simpa using closes
    simp only [event, Event.closing, Event.mk.injEq] at ends
    obtain ⟨rfl, told, _⟩ := ends
    obtain ⟨_, now, present, nothing⟩ := after_of_closed told
    obtain ⟨_, _, losses, _, inOrder⟩ := keeps now present
    have fewLost : lost number (events ++ [middle.event (.receive number)]) <=
        subscriber.excess bus.room := by
      cases live : bus.isLive with
      | true => exact few live
      | false =>
        rw [(ended live).2, List.length_nil] at losses
        omega
    simpa [nothing, onChannels] using inOrder fewLost

/-- Whoever has nothing left, when nobody is left who could publish, is told so from then on. -/
theorem Steps.closed {bus last : Local} {number : Nat} {subscriber : Subscriber}
    {later : List Event} (steps : Steps bus later last) (ended : bus.isLive = false)
    (there : bus.subscriber? number = some subscriber) (nothing : subscriber.unread = [])
    (stays : ∀ event ∈ later, event.action ≠ .dropSubscriber number) :
    (last.perform (.receive number)).1 = .received .closed := by
  obtain ⟨now, present, _⟩ := steps.channels there stays
  obtain ⟨still, quiet⟩ := steps.ended ended
  have fewer := (steps.keeps there now present).fewer
  rw [nothing, quiet] at fewer
  have empty : now.unread = [] := List.eq_nil_of_length_eq_zero (Nat.le_zero.mp fewer)
  rw [perform_receive present, Result.received.injEq,
    (now.answers last.room last.isLive).closed_iff, Subscriber.kept, empty, List.drop_nil]
  exact ⟨still, rfl⟩

end Local

/-- After an answer a ring retains for the reader what the answer leaves. -/
theorem Ring.Carries.exists_reader_after {ring : Ring} {history : List Message} {bus : Local}
    {number : Nat} {reader : Reader} {subscriber : Subscriber}
    (carries : ring.Carries history bus) (there : bus.subscriber? number = some subscriber)
    (follows : Follows history reader subscriber) :
    ∃ next, (ring.after (.receive number)).reader? number = some next ∧
      next.channels = reader.channels ∧
      (ring.after (.receive number)).retained next =
        (subscriber.receive bus.room bus.isLive).2.1.unread := by
  have performs := Local.perform_receive there
  obtain ⟨_, _, further, carriesFurther⟩ := carries.perform (.receive number)
  rw [performs] at carriesFurther
  obtain ⟨next, reads, nextFollows⟩ :=
    carriesFurther.exists_reader (Local.subscriber?_setSubscriber (Local.lt_of_subscriber? there))
  refine ⟨next, reads, ?_, ?_⟩
  · rw [← nextFollows.channels, Local.channels_receive, follows.channels]
  · refine (carriesFurther.retained_eq nextFollows).trans ?_
    exact subscriber.kept_receive bus.room bus.isLive

namespace Local

/-- When a subscriber for which a ring retains messages is told what, and when it has come to its
end. -/
structure Finality (bus : Local) (number : Nat) (ring : Ring) (reader : Reader) : Prop where
  /-- It is always told something, and what it has passed over does not come back. -/
  answered : ∃ receipt next, (bus.perform (.receive number)).1 = .received receipt ∧
    (ring.after (.receive number)).reader? number = some next ∧ next.channels = reader.channels ∧
    Answers bus.isLive reader.channels (ring.retained reader) receipt
      ((ring.after (.receive number)).retained next)
  closed : (bus.perform (.receive number)).1 = .received .closed ↔
    ¬bus.IsAlive ∧ onChannels reader.channels (ring.retained reader) = []
  pending : (bus.perform (.receive number)).1 = .received .pending ↔
    bus.IsAlive ∧ onChannels reader.channels (ring.retained reader) = []
  message : ∀ message, (bus.perform (.receive number)).1 = .received (.message message) ↔
    (onChannels reader.channels (ring.retained reader)).head? = some message
  /-- What is retained on its channels comes before the end, at least if the subscriber is warned of
  no more than has been overwritten by now; and on a bus that is not alive it is warned of no
  more. -/
  delivered : ∀ later last entries, Steps bus later last ->
    later.getLast? = some (.closing number entries) ->
      (bus.IsAlive -> lost number later <= ring.oldest - reader.next) ->
        (onChannels reader.channels (ring.retained reader)).Sublist (received number later)
  /-- The end is the end, whatever is done with the bus, until the subscriber leaves. -/
  final : (bus.perform (.receive number)).1 = .received .closed ->
    ∀ later last, Steps (bus.after (.receive number)) later last ->
      (∀ event ∈ later, event.action ≠ .dropSubscriber number) ->
        ∀ event ∈ later, event.action = .receive number -> event.result = .received .closed

/-- In every state that a bus can be in, a subscriber is answered by what one ring retains for
it. -/
theorem finality_of_steps {capacity number : Nat} {first bus : Local} {events : List Event}
    {subscriber : Subscriber} (created : ofCapacity capacity = .ok first)
    (steps : Steps first events bus) (there : bus.subscriber? number = some subscriber) :
    ∃ ring reader, Ring.Steps (Ring.ofRoom first.room) events ring ∧
      ring.reader? number = some reader ∧ Finality bus number ring reader := by
  obtain ⟨ring, history, onRing, carries⟩ := (carries_of_ofCapacity created).steps steps
  obtain ⟨reader, reads, follows⟩ := carries.exists_reader there
  refine ⟨ring, reader, onRing, reads, ?_⟩
  have performs := perform_receive there
  have answers := subscriber.answers bus.room bus.isLive
  have channels := follows.channels
  have retained := carries.retained_eq follows
  rw [← retained, channels] at answers
  obtain ⟨next, nextReads, sameChannels, left⟩ := carries.exists_reader_after there follows
  constructor
  · exact ⟨_, next, congrArg Prod.fst performs, nextReads, sameChannels, left ▸ answers⟩
  · rw [performs, Result.received.injEq, answers.closed_iff, ← isLive_iff, Bool.not_eq_true]
  · rw [performs, Result.received.injEq, answers.pending_iff, ← isLive_iff]
  · intro message
    rw [performs, Result.received.injEq, answers.message_iff]
  · intro later last entries laterSteps closes few
    rw [← carries.excess_eq follows, ← isLive_iff] at few
    rw [retained, ← channels]
    exact laterSteps.delivered there closes few
  · intro told later last laterSteps stays event member asks
    obtain ⟨ended, now, present, nothing⟩ := after_of_closed told
    obtain ⟨before, rest, rfl⟩ := List.append_of_mem member
    obtain ⟨middle, action, prior, rfl⟩ := laterSteps.exists_before rfl
    obtain rfl : action = .receive number := asks
    exact prior.closed (isLive_after ended _) present nothing fun other earlier =>
      stays other (List.mem_append_left _ earlier)

/-- With room for two, a subscriber that has lost one message and passes over another is given the
third. Then it is over, also for one who subscribes to the channel of what has been passed over. -/
theorem finality_of_steps_lagging :
    let tick (mark : UInt8) : Message := ⟨"a", [mark]⟩
    ∃ first events bus ring reader, ofCapacity 2 = .ok first ∧ Steps first events bus ∧
      published events = [tick 1, ⟨"b", [2]⟩, tick 3] ∧
      Ring.Steps (Ring.ofRoom first.room) events ring ∧ ring.reader? 0 = some reader ∧
      Finality bus 0 ring reader ∧ (bus.perform (.receive 0)).1 = .received (.message (tick 3)) ∧
      ((bus.after (.receive 0)).perform (.receive 0)).1 = .received .closed ∧
      (((bus.after (.receive 0)).after (.subscribe 0 ["b"])).perform (.receive 0)).1 =
        .received .closed := by
  intro tick
  let first : Local := ⟨2, 1, [], []⟩
  have comes := (((@Steps.refl first).step .addPublisher).step .addSubscriber).step
    (.subscribe 0 ["a"])
  have published := ((comes.step (.publish 0 (tick 1))).step (.publish 0 ⟨"b", [2]⟩)).step
    (.publish 0 (tick 3))
  have left := (published.step (.dropPublisher 0)).step .dropBus
  have created : ofCapacity 2 = .ok first := by rfl
  obtain ⟨ring, reader, onRing, reads, finality⟩ :=
    @finality_of_steps 2 0 first _ _ _ created left rfl
  refine ⟨first, _, _, ring, reader, created, left, ?_, onRing, reads, finality, ?_, ?_, ?_⟩
  all_goals decide +kernel

end Local

end StrategyHost.Bus
