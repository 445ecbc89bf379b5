import StrategyHost.Proofs.Bus.Ledger

/-!
# Deliveries of the local bus

The account of one subscriber of a bus of any capacity: in which order its messages come,
what has become of those that do not come, and that none is missed on its channels as long
as it never falls behind by more than the room for messages.
-/

namespace StrategyHost.Bus

/-- The room of a bus is its capacity rounded up to a power of two. -/
structure IsRoomFor (capacity room : Nat) : Prop where
  power : ∃ exponent, room = 2 ^ exponent
  fits : capacity <= room
  least : ∀ exponent, capacity <= 2 ^ exponent -> room <= 2 ^ exponent

namespace Local

/-- The room of every bus that there can be. -/
theorem isRoomFor_roomFor (capacity : Nat) : IsRoomFor capacity (roomFor capacity) := by
  unfold roomFor
  split
  next small =>
    constructor
    · exact ⟨0, rfl⟩
    · exact small
    · exact fun exponent _ => Nat.one_le_two_pow
  next large =>
    have positive : capacity - 1 ≠ 0 := by omega
    constructor
    · exact ⟨_, rfl⟩
    · have below : capacity - 1 < 2 ^ ((capacity - 1).log2 + 1) :=
        (Nat.log2_lt positive).mp (Nat.lt_succ_self _)
      exact Nat.le_of_pred_lt below
    · intro exponent fits
      have below : (capacity - 1).log2 < exponent := (Nat.log2_lt positive).mpr (by omega)
      exact Nat.pow_le_pow_right (by decide) below

/-- There is room for a message at least. -/
theorem roomFor_pos (capacity : Nat) : 0 < roomFor capacity := by
  obtain ⟨exponent, power⟩ := (isRoomFor_roomFor capacity).power
  rw [power]
  exact Nat.two_pow_pos exponent

/-- A bus that is created has the room for its capacity, and nobody but its holder is there. -/
theorem eq_of_ofCapacity {capacity : Nat} {first : Local}
    (created : ofCapacity capacity = .ok first) : first = ⟨roomFor capacity, 1, [], []⟩ := by
  unfold ofCapacity at created
  repeat' split at created
  all_goals cases created
  rfl

theorem room_of_ofCapacity {capacity : Nat} {first : Local}
    (created : ofCapacity capacity = .ok first) : first.room = roomFor capacity := by
  rw [eq_of_ofCapacity created]

end Local

namespace Reading

variable {room : Nat} {reading : Reading}

/-- The messages that the subscriber is done with and that are on its channels. -/
def wanted (reading : Reading) : List Message :=
  reading.taken.filter fun message => message.channel ∈ reading.channels

/-- A reading that skips nothing returns all that is wanted. -/
theorem Sound.wanted_eq (sound : reading.Sound room) (within : reading.backlog.length <= room) :
    reading.wanted = reading.returned?.toList := by
  have nothing : reading.skipped = [] := by
    rw [sound.skips, Nat.sub_eq_zero_of_le within, List.take_zero]
  have unwanted : reading.discarded.filter (fun message => message.channel ∈ reading.channels) =
      [] := by
    apply List.filter_eq_nil_iff.mpr
    intro message member
    simpa using sound.discards message member
  have kept : reading.returned?.toList.filter
      (fun message => message.channel ∈ reading.channels) = reading.returned?.toList := by
    apply List.filter_eq_self.mpr
    intro message member
    simpa using sound.returns message (Option.mem_toList.mp member)
  rw [wanted, taken, nothing, List.nil_append, List.filter_append, unwanted, kept,
    List.nil_append]

/-- What is returned is among what is taken, in the same order. -/
theorem returned_sublist (readings : List Reading) :
    (readings.filterMap returned?).Sublist (Bus.taken readings) := by
  rw [List.filterMap_eq_flatMap_toList]
  exact List.Sublist.flatMap_right readings fun _ _ => List.sublist_append_right _ _

end Reading

/-- The account of a subscriber of a bus of some capacity, by the events since it was
created. -/
structure Deliveries (capacity number : Nat) (events : List Event) (bus : Local)
    (readings : List Reading) : Prop where
  room : IsRoomFor capacity bus.room
  /-- Every question for a message is one reading, of what was published and not yet taken. -/
  ledger : Ledger bus.room number events readings
  sound : ∀ reading ∈ readings, reading.Sound bus.room
  returned : received number events = readings.filterMap Reading.returned?
  inOrder : (received number events).Sublist (published events)
  /-- What has been published is taken or has not been looked at. -/
  accounted : ∃ unread, published events = taken readings ++ unread ∧
    ∀ subscriber, bus.subscriber? number = some subscriber -> subscriber.unread = unread
  lost : lost number events = (readings.map fun reading => reading.skipped.length).sum
  /-- A subscriber that never falls behind too far gets all that it wants. -/
  lossless : (∀ reading ∈ readings, reading.backlog.length <= bus.room) ->
    Bus.lost number events = 0 ∧ received number events = readings.flatMap Reading.wanted

namespace Ledger

variable {room number : Nat} {events : List Event} {readings : List Reading}

/-- Nothing is lost, and nothing that is wanted is missed, by one who never falls behind. -/
theorem lossless (ledger : Ledger room number events readings)
    (within : ∀ reading ∈ readings, reading.backlog.length <= room) :
    lost number events = 0 ∧ received number events = readings.flatMap Reading.wanted := by
  constructor
  · rw [ledger.lost_eq, List.sum_eq_zero_iff_forall_eq_nat]
    intro count member
    obtain ⟨reading, booked, rfl⟩ := List.mem_map.mp member
    rw [(ledger.sound reading booked).skips, Nat.sub_eq_zero_of_le (within reading booked)]
    rfl
  · rw [ledger.received_eq, List.filterMap_eq_flatMap_toList]
    apply List.flatMap_congr
    intro reading member
    exact ((ledger.sound reading member).wanted_eq (within reading member)).symm

end Ledger

namespace Local

/-- Whatever is done with a bus, every subscriber's messages can be accounted for since it was
created. -/
theorem deliveries_of_steps {capacity number : Nat} {first host joined bus : Local}
    {earlier events : List Event} {entries : List Journal.Entry}
    (created : Local.ofCapacity capacity = .ok first) (prior : Steps first earlier host)
    (joins : host.perform .addSubscriber = (.number number, joined, entries))
    (steps : Steps joined events bus) :
    ∃ readings, Deliveries capacity number events bus readings := by
  obtain ⟨sameRoom, there, opens⟩ := opens_of_joins joins
  obtain ⟨readings, ledger, ⟨unread, all, waiting⟩, _⟩ := steps.standing there opens
  have room : bus.room = joined.room := steps.frame.1
  have fits : IsRoomFor capacity bus.room := by
    rw [room, sameRoom, prior.frame.1, room_of_ofCapacity created]
    exact isRoomFor_roomFor capacity
  rw [← room] at ledger
  refine ⟨readings, fits, ledger, ledger.sound, ledger.received_eq, ?_, ⟨unread, all, waiting⟩,
    ledger.lost_eq, ledger.lossless⟩
  rw [ledger.received_eq, all]
  exact (Reading.returned_sublist readings).trans (List.sublist_append_left _ _)

/-- With room for four, a subscriber that has six messages before it skips two, and then one
that is on another channel. -/
theorem deliveries_of_steps_lagging :
    let tick (mark : UInt8) : Message := ⟨"a", [mark]⟩
    let trade (mark : UInt8) : Message := ⟨"b", [mark]⟩
    ∃ events bus readings, Deliveries 3 0 events bus readings ∧
      published events = [tick 1, tick 2, trade 3, tick 4, trade 5, tick 6] ∧
      received 0 events = [tick 4, tick 6] ∧ lost 0 events = 2 := by
  intro tick trade
  let first : Local := ⟨4, 1, [], []⟩
  let joined : Local := ⟨4, 1, [true], [some .fresh]⟩
  have prior : Steps first _ ⟨4, 1, [true], []⟩ := .step .refl .addPublisher
  have asks := Steps.step (@Steps.refl joined) (.subscribe 0 ["a"])
  have publishes := (((((asks.step (.publish 0 (tick 1))).step (.publish 0 (tick 2))).step
    (.publish 0 (trade 3))).step (.publish 0 (tick 4))).step (.publish 0 (trade 5))).step
    (.publish 0 (tick 6))
  have reads := (publishes.step (.receive 0)).step (.receive 0)
  have created : ofCapacity 3 = .ok first := by rfl
  obtain ⟨readings, deliveries⟩ := @deliveries_of_steps _ _ _ _ _ _ _ _ _ created prior rfl reads
  refine ⟨_, _, readings, deliveries, ?_, ?_, ?_⟩
  · decide +kernel
  · decide +kernel
  · decide +kernel

end Local

end StrategyHost.Bus
