import StrategyHost.Proofs.Bus.Ledger

/-!
# What a subscriber is subscribed to

A subscriber that nobody makes leave has the channels that it came with and those that it has
asked for since, whatever else is done with the bus; and it receives messages on no others.
-/

namespace StrategyHost.Bus.Local

variable {first bus : Local} {number : Nat} {subscriber : Subscriber}

/-- Reading leaves the channels as they are. -/
theorem channels_receive (subscriber : Subscriber) (room : Nat) (isLive : Bool) :
    (subscriber.receive room isLive).2.1.channels = subscriber.channels := by
  rw [(subscriber.receive_eq room isLive).2.1]
  rfl

/-- What an event that does not make a subscriber leave means to its channels. -/
theorem Sees.channels {room : Nat} {event : Event} {after : Option Subscriber}
    (sees : Sees room number (some subscriber) event after)
    (stays : event.action ≠ .dropSubscriber number) :
    ∃ now, after = some now ∧ ∀ channel, channel ∈ now.channels ↔
      channel ∈ subscriber.channels ∨ channel ∈ event.request number := by
  cases sees with
  | published => exact ⟨_, rfl, by simp [Subscriber.deliver, Event.request]⟩
  | subscribed _ channels =>
    refine ⟨_, rfl, fun channel => ?_⟩
    simp [Subscriber.mem_channels_subscribe, Event.request]
  | asked _ isLive =>
    refine ⟨_, rfl, fun channel => ?_⟩
    simp [channels_receive, Event.request]
  | left => exact absurd rfl stays
  | unconcerned same _ requests _ => exact ⟨subscriber, same, by simp [requests]⟩

/-- Whatever is done with a bus, a subscriber that nobody makes leave has the channels that it
had and those that it has asked for. -/
theorem Steps.channels {events : List Event} (steps : Steps first events bus)
    (there : first.subscriber? number = some subscriber)
    (stays : ∀ event ∈ events, event.action ≠ .dropSubscriber number) :
    ∃ now, bus.subscriber? number = some now ∧ ∀ channel, channel ∈ now.channels ↔
      channel ∈ subscriber.channels ∨ channel ∈ requested number events := by
  induction steps with
  | refl => exact ⟨subscriber, there, by simp [requested]⟩
  | @step events bus prior action inductionHypothesis =>
    obtain ⟨before, present, had⟩ := inductionHypothesis fun event member =>
      stays event (List.mem_append_left _ member)
    have sees := sees_perform (lt_of_subscriber? present) action
    rw [present] at sees
    obtain ⟨now, remains, has⟩ := sees.channels (stays _ (by simp))
    refine ⟨now, remains, fun channel => ?_⟩
    rw [has, had, requested_concat, List.mem_append, or_assoc]

/-- A message that is received is on a channel of its subscriber. -/
theorem channel_mem_of_received {message : Message}
    (there : bus.subscriber? number = some subscriber)
    (told : (bus.perform (.receive number)).1 = .received (.message message)) :
    message.channel ∈ subscriber.channels := by
  simp only [perform, there, Result.received.injEq] at told
  obtain ⟨returned, _, _⟩ := subscriber.receive_eq bus.room bus.isLive
  rw [told] at returned
  exact (subscriber.sound_reading bus.room).returns message returned.symm

end StrategyHost.Bus.Local
