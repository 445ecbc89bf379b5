import StrategyHost.Bus.Local

/-!
# Readings of a subscriber

What becomes of the messages that a subscriber has not looked at yet when it asks for one:
the oldest may be skipped for want of room, those after them are discarded up to the first
on a subscribed channel, and that one is returned. `Subscriber.receive_eq` says that asking
for a message is just that.
-/

namespace StrategyHost.Bus

open StrategyHost.Journal (Entry)

/-- The message of a receipt that has one. -/
def Receipt.message? : Receipt -> Option Message
  | .message found => some found
  | .pending | .closed => none

/-- What one question for a message has made of those that had not been looked at. -/
structure Reading where
  /-- The channels that are subscribed to when the question is asked. -/
  channels : List String
  /-- For these there was no room. -/
  skipped : List Message
  /-- These were looked at and are on other channels. -/
  discarded : List Message
  returned? : Option Message
  /-- These have not been looked at. -/
  left : List Message
  deriving DecidableEq, Repr

namespace Reading

/-- The messages that the subscriber is done with. -/
def taken (reading : Reading) : List Message :=
  reading.skipped ++ reading.discarded ++ reading.returned?.toList

/-- All the messages that had not been looked at before. -/
def backlog (reading : Reading) : List Message :=
  reading.taken ++ reading.left

/-- The warning about the messages that are skipped, if any are. -/
def warnings (reading : Reading) : List Entry :=
  if reading.skipped.length = 0 then [] else [.lagged reading.skipped.length]

/-- The rules of reading with room for so many messages. -/
structure Sound (room : Nat) (reading : Reading) : Prop where
  skips : reading.skipped = reading.backlog.take (reading.backlog.length - room)
  discards : ∀ message ∈ reading.discarded, message.channel ∉ reading.channels
  returns : ∀ message ∈ reading.returned?, message.channel ∈ reading.channels
  exhausts : reading.returned? = none -> reading.left = []

end Reading

namespace Subscriber

/-- What a subscriber with room for so many messages makes of those that it has. -/
def reading (subscriber : Subscriber) (room : Nat) : Reading :=
  let kept := subscriber.unread.drop (subscriber.excess room)
  let isOther := fun message : Message => !subscriber.isSubscribed message.channel
  { channels := subscriber.channels
    skipped := subscriber.unread.take (subscriber.excess room)
    discarded := kept.takeWhile isOther
    returned? := (kept.dropWhile isOther).head?
    left := (kept.dropWhile isOther).tail }

variable (subscriber : Subscriber) (room : Nat)

/-- No message is lost from sight by reading. -/
theorem backlog_reading : (subscriber.reading room).backlog = subscriber.unread := by
  have cut (messages : List Message) : messages.head?.toList ++ messages.tail = messages := by
    cases messages <;> rfl
  simp [Reading.backlog, Reading.taken, reading, cut, List.takeWhile_append_dropWhile]

/-- A subscriber reads by the rules. -/
theorem sound_reading : (subscriber.reading room).Sound room where
  skips := by
    rw [backlog_reading]
    rfl
  discards message member := by
    have isOther := List.all_eq_true.mp List.all_takeWhile message member
    simpa [isSubscribed, reading] using isOther
  returns message found := by
    have isNot := List.head?_dropWhile_not
      (fun message : Message => !subscriber.isSubscribed message.channel)
      (subscriber.unread.drop (subscriber.excess room))
    have first : (subscriber.reading room).returned? = some message := found
    simp only [reading] at first
    rw [first] at isNot
    simpa [isSubscribed, reading] using isNot
  exhausts none := by
    have nothing := List.head?_eq_none_iff.mp none
    simp only [reading] at nothing ⊢
    rw [nothing, List.tail_nil]

/-- A subscriber that has caught up has only messages for which there is room. -/
theorem catchUp_eq : (subscriber.catchUp room).1.unread =
      subscriber.unread.drop (subscriber.excess room) ∧
    (subscriber.catchUp room).1.channels = subscriber.channels ∧
    (subscriber.catchUp room).2 = (subscriber.reading room).warnings := by
  have lost : (subscriber.reading room).skipped.length = subscriber.excess room := by
    simp only [reading, List.length_take, excess]
    omega
  unfold catchUp Reading.warnings
  rw [lost]
  split
  next nothing => simp [nothing]
  next => exact ⟨unread_withUnread _ _, rfl, rfl⟩

/-- Asking for a message is reading. -/
theorem receive_eq (isLive : Bool) :
    (subscriber.receive room isLive).1.message? = (subscriber.reading room).returned? ∧
      (subscriber.receive room isLive).2.1 =
        subscriber.withUnread (subscriber.reading room).left ∧
      (subscriber.receive room isLive).2.2 = (subscriber.reading room).warnings := by
  obtain ⟨unread, channels, warnings⟩ := subscriber.catchUp_eq room
  have relevant : (subscriber.catchUp room).1.relevant =
      (subscriber.unread.drop (subscriber.excess room)).dropWhile
        fun message => !subscriber.isSubscribed message.channel := by
    simp only [Subscriber.relevant, isSubscribed, unread, channels]
  have after (messages : List Message) : (subscriber.catchUp room).1.withUnread messages =
      subscriber.withUnread messages := by
    simp only [withUnread, channels]
  unfold receive
  simp only [after, warnings, relevant]
  split
  next message rest found => simp [Receipt.message?, reading, found]
  next found => cases isLive <;> simp [Receipt.message?, reading, found]

end Subscriber

end StrategyHost.Bus
