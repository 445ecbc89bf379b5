import StrategyHost.Proofs.Bus.Finality

/-!
# Subscribers that read in time

A subscriber that never has more unread than there is room for when it asks for a message loses
nothing, and only such a one loses nothing. What is unread on its channels and what is published on
them since is then what it receives, and what is still unread.
-/

namespace StrategyHost.Bus

theorem lost_append (number : Nat) (before after : List Event) :
    lost number (before ++ after) = lost number before + lost number after := by
  simp [lost, replies]

theorem published_append (before after : List Event) :
    published (before ++ after) = published before ++ published after :=
  List.filterMap_append

theorem received_append (number : Nat) (before after : List Event) :
    received number (before ++ after) = received number before ++ received number after := by
  simp [received, replies]

/-- Only which channels there are matters. -/
theorem onChannels_congr {channels others : List String}
    (same : ∀ channel, channel ∈ channels ↔ channel ∈ others) (messages : List Message) :
    onChannels channels messages = onChannels others messages := by
  simp [onChannels, same]

namespace Subscriber

/-- To subscribe to nothing new changes nothing. -/
theorem subscribe_of_subset {subscriber : Subscriber} {channels : List String}
    (known : channels ⊆ subscriber.channels) :
    subscriber.subscribe channels = (subscriber, []) := by
  induction channels with
  | nil => rfl
  | cons channel rest inductionHypothesis =>
    obtain ⟨first, others⟩ := List.cons_subset.mp known
    have there : subscriber.isSubscribed channel = true := by simpa [isSubscribed] using first
    rw [subscribe, if_pos there]
    exact inductionHypothesis others

end Subscriber

namespace Local

/-- A bus on which a subscriber subscribes to nothing new stays as it is. -/
theorem after_subscribe_of_subset {bus : Local} {number : Nat} {subscriber : Subscriber}
    {channels : List String} (there : bus.subscriber? number = some subscriber)
    (known : channels ⊆ subscriber.channels) : bus.after (.subscribe number channels) = bus := by
  have within := lt_of_subscriber? there
  have same : bus.subscribers[number] = some subscriber := by
    simpa [Local.subscriber?, within] using there
  simp only [after, perform, there, Subscriber.subscribe_of_subset known]
  simp [setSubscriber, ← same]

/-- Whenever a subscriber asks for a message it has no more unread than there is room for. -/
def IsInTime (first : Local) (number : Nat) (events : List Event) : Prop :=
  ∀ before bus after, events = before ++ bus.event (.receive number) :: after ->
    Steps first before bus -> ∀ subscriber, bus.subscriber? number = some subscriber ->
      subscriber.unread.length <= bus.room

variable {first bus : Local} {number : Nat} {subscriber : Subscriber} {events : List Event}

/-- What a subscriber loses by asking for a message is what there is no room for. -/
theorem lost_receive (there : bus.subscriber? number = some subscriber) :
    lost number [bus.event (.receive number)] = subscriber.excess bus.room := by
  have reply : (bus.event (.receive number)).reply? number =
      some ((subscriber.receive bus.room bus.isLive).1,
        (subscriber.receive bus.room bus.isLive).2.2) := by
    rw [event, perform_receive there]
    exact if_pos rfl
  rw [← List.nil_append [_], lost_concat, reply]
  exact (Nat.zero_add _).trans (subscriber.sum_receive bus.room bus.isLive)

/-- A subscriber is told something only when it asks for a message. -/
theorem reply?_of_ne {action : Action} (bus : Local) (asks : action ≠ .receive number) :
    (bus.event action).reply? number = none := by
  cases told : (bus.event action).reply? number with
  | none => rfl
  | some reply =>
    unfold Event.reply? at told
    split at told
    next subscriber _ _ same =>
      have given : action = .receive subscriber := congrArg Event.action same
      split at told
      next own => exact absurd (own ▸ given) asks
      next => cases told
    next => cases told

/-- A subscriber is in time exactly if it loses nothing. -/
theorem Steps.isInTime_iff (steps : Steps first events bus) :
    first.IsInTime number events ↔ lost number events = 0 := by
  constructor
  · intro inTime
    induction steps with
    | refl => rfl
    | @step events bus prior action inductionHypothesis =>
      have before : lost number events = 0 := by
        apply inductionHypothesis
        rintro before middle after rfl
        exact inTime before middle (after ++ [bus.event action]) (by simp)
      rw [lost_append, before, Nat.zero_add]
      by_cases asks : action = .receive number
      · subst asks
        cases there : bus.subscriber? number with
        | none =>
          have silent : (bus.event (.receive number)).reply? number = none := by
            simp only [event, perform, there]
            rfl
          simp [lost, replies, silent]
        | some subscriber =>
          rw [lost_receive there]
          exact Nat.sub_eq_zero_of_le (inTime events bus [] rfl prior subscriber there)
      · simp [lost, replies, reply?_of_ne bus asks]
  · rintro nothing before bus after rfl prior subscriber there
    have now : lost number [bus.event (.receive number)] = 0 := by
      rw [lost_append, ← List.singleton_append, lost_append] at nothing
      omega
    rw [lost_receive there] at now
    exact Nat.sub_eq_zero_iff_le.mp now

/-- What is unread on these channels and what is published on them is received or unread afterwards,
if nothing is lost and it is for a message on just these channels that the subscriber asks. -/
theorem onChannels_after {action : Action} {now : Subscriber} {channels : List String}
    (there : bus.subscriber? number = some subscriber)
    (present : (bus.after action).subscriber? number = some now)
    (inTime : lost number [bus.event action] = 0)
    (same : action = .receive number -> ∀ channel,
      channel ∈ subscriber.channels ↔ channel ∈ channels) :
    received number [bus.event action] ++ onChannels channels now.unread =
      onChannels channels (subscriber.unread ++ published [bus.event action]) := by
  have kept : action = .receive number -> subscriber.kept bus.room = subscriber.unread := by
    rintro rfl
    rw [Subscriber.kept, ← lost_receive there, inTime, List.drop_zero]
  have performed : (bus.event action).action = action := rfl
  have sees := sees_perform (lt_of_subscriber? there) action
  rw [there, present] at sees
  generalize bus.event action = event at sees performed ⊢
  cases sees with
  | published publisher message entries =>
    rw [Subscriber.unread_deliver]
    rfl
  | subscribed _ asked =>
    rw [Subscriber.unread_subscribe]
    exact congrArg (onChannels channels) (List.append_nil subscriber.unread).symm
  | asked _ isLive =>
    have reply : Event.reply? number ⟨.receive number,
        .received (subscriber.receive bus.room isLive).1,
        (subscriber.receive bus.room isLive).2.2⟩ = some (_, _) := if_pos rfl
    have wanted := (subscriber.answers bus.room isLive).onChannels_eq
    rw [onChannels_congr (same performed.symm), onChannels_congr (same performed.symm),
      kept performed.symm] at wanted
    rw [← List.nil_append [_], received_concat, reply, published_concat]
    simp [received, replies, published, Event.publication?, wanted]
  | unconcerned unmoved publishes requests replies =>
    obtain rfl : now = subscriber := by simpa using unmoved
    simp [received, published, Bus.replies, replies, publishes]

end Local

end StrategyHost.Bus
