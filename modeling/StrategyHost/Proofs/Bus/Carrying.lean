import StrategyHost.Proofs.Bus.Ring

/-!
# What a ring carries

A ring carries a bus: every reader looks next at the message that is the first unread one of the
subscriber with its number, and what has been stored and not overwritten stands in its place. So
whatever is done with a bus has the same results and the same entries on the ring.
-/

namespace StrategyHost.Bus

open StrategyHost.Journal (Entry)

namespace Subscriber

/-- The unread messages for which there is room. -/
def kept (subscriber : Subscriber) (room : Nat) : List Message :=
  subscriber.unread.drop (subscriber.excess room)

variable {subscriber : Subscriber} {room : Nat} {isLive : Bool}

/-- Without unread messages there is nothing, now or for ever. -/
theorem receive_of_nil (nothing : subscriber.unread = []) :
    subscriber.receive room isLive =
      (if isLive then .pending else .closed, subscriber.withUnread [], []) := by
  have none : subscriber.excess room = 0 := by simp [excess, nothing]
  simp only [receive, catchUp, if_pos none, relevant, nothing, List.dropWhile_nil]

/-- The first of the unread messages is taken, or looked at and left behind. -/
theorem receive_of_cons {message : Message} {rest : List Message}
    (unread : subscriber.unread = message :: rest) (fits : subscriber.unread.length <= room) :
    subscriber.receive room isLive =
      if subscriber.isSubscribed message.channel then
        (.message message, subscriber.withUnread rest, [])
      else (subscriber.withUnread rest).receive room isLive := by
  have none : subscriber.excess room = 0 := Nat.sub_eq_zero_of_le fits
  have noneLeft : (subscriber.withUnread rest).excess room = 0 := by
    rw [unread, List.length_cons] at fits
    simp only [excess, unread_withUnread]
    omega
  by_cases wanted : subscriber.isSubscribed message.channel
  · simp [receive, catchUp, none, relevant, unread, wanted]
  · have dropped :
        (message :: rest).dropWhile (fun other => !subscriber.isSubscribed other.channel) =
          rest.dropWhile fun other => !subscriber.isSubscribed other.channel :=
      List.dropWhile_cons_of_pos (by simpa using wanted)
    simp only [receive, catchUp, if_pos none, if_pos noneLeft, relevant, unread, dropped,
      if_neg wanted, unread_withUnread]
    rfl

/-- Whoever has too many unread messages first loses the oldest. -/
theorem receive_of_excess (behind : 0 < subscriber.excess room) :
    subscriber.receive room isLive =
      let current := subscriber.withUnread (subscriber.kept room)
      ((current.receive room isLive).1, (current.receive room isLive).2.1,
        .lagged (subscriber.excess room) :: (current.receive room isLive).2.2) := by
  have caughtUp : (subscriber.withUnread (subscriber.kept room)).excess room = 0 := by
    simp only [kept, excess, unread_withUnread, List.length_drop]
    omega
  unfold kept at caughtUp ⊢
  simp only [receive, catchUp, if_neg (Nat.ne_of_gt behind), if_pos caughtUp]
  split <;> rfl

/-- Subscribing does not depend on what is unread. -/
theorem subscribe_eq (subscriber : Subscriber) (channels : List String) :
    subscriber.subscribe channels =
      let asked := Subscriber.subscribe ⟨subscriber.channels, []⟩ channels
      ({ subscriber with channels := asked.1.channels }, asked.2) := by
  induction channels generalizing subscriber with
  | nil => rfl
  | cons channel rest inductionHypothesis =>
    have same : isSubscribed ⟨subscriber.channels, []⟩ channel = subscriber.isSubscribed channel :=
      rfl
    unfold subscribe
    rw [same]
    split
    · exact inductionHypothesis subscriber
    · rw [inductionHypothesis]

end Subscriber

/-- A reader looks next at the first message that a subscriber has not looked at, if these are all
the messages that there have been. -/
structure Follows (history : List Message) (reader : Reader) (subscriber : Subscriber) : Prop where
  channels : subscriber.channels = reader.channels
  within : reader.next <= history.length
  unread : subscriber.unread = history.drop reader.next

/-- A message that is stored is unread by whoever is there. -/
theorem Follows.deliver {history : List Message} {reader : Reader} {subscriber : Subscriber}
    (follows : Follows history reader subscriber) (message : Message) :
    Follows (history ++ [message]) reader (subscriber.deliver message) where
  channels := follows.channels
  within := by
    have within := follows.within
    rw [List.length_append]
    omega
  unread := by
    rw [Subscriber.unread_deliver, follows.unread, List.drop_append_of_le_length follows.within]

/-- Messages with different numbers stand in different places as long as both are stored. -/
theorem mod_ne_of_lt {number stored room : Nat} (before : number < stored)
    (kept : stored < number + room) : number % room ≠ stored % room := by
  intro same
  have divides := Nat.sub_mod_eq_zero_of_mod_eq same.symm
  rw [Nat.mod_eq_of_lt (by omega)] at divides
  omega

/-- Whether anyone is there. -/
theorem any_isSome_iff {α : Type} (seats : List (Option α)) :
    seats.any Option.isSome = true ↔ ∃ number : Nat, ((seats[number]?).join).isSome = true := by
  rw [List.any_eq_true]
  constructor
  · rintro ⟨seat, member, taken⟩
    obtain ⟨number, found⟩ := List.getElem?_of_mem member
    exact ⟨number, by rwa [found]⟩
  · rintro ⟨number, taken⟩
    cases found : seats[number]? with
    | none => simp [found] at taken
    | some seat =>
      rw [found] at taken
      exact ⟨seat, List.mem_of_getElem? found, taken⟩

/-- A seat that is set. -/
theorem join_getElem?_set {α : Type} (seats : List (Option α)) (number other : Nat)
    (seat : Option α) :
    ((seats.set number seat)[other]?).join =
      if number = other ∧ number < seats.length then seat else (seats[other]?).join := by
  rw [List.getElem?_set]
  by_cases same : number = other
  · subst same
    by_cases there : number < seats.length
    · simp [there]
    · simp [there]
  · simp [same]

/-- The items of a list from a number on, looked up one after the other. -/
theorem filterMap_range'_eq_drop {α : Type} (items : List α) (start : Nat) (item? : Nat -> Option α)
    (found : ∀ number item, start <= number -> items[number]? = some item ->
      item? number = some item) :
    (List.range' start (items.length - start)).filterMap item? = items.drop start := by
  generalize count : items.length - start = left
  induction left generalizing start with
  | zero =>
    rw [List.drop_eq_nil_of_le (by omega)]
    rfl
  | succ left inductionHypothesis =>
    have within : start < items.length := by omega
    have first := found start items[start] (Nat.le_refl _) (List.getElem?_eq_getElem within)
    have rest := inductionHypothesis (start + 1)
      (fun number item later => found number item (by omega)) (by omega)
    rw [List.range'_succ, List.filterMap_cons_some first, rest, List.drop_eq_getElem_cons within]

namespace Ring

/-- A ring that has stored these messages stands for a bus. -/
structure Carries (ring : Ring) (history : List Message) (bus : Local) : Prop where
  room : ring.room = bus.room
  positive : 0 < bus.room
  holders : ring.holders = bus.holders
  publishers : ring.publishers = bus.publishers
  stored : ring.stored = history.length
  /-- What has not been overwritten stands in its place. -/
  places : ∀ number message, ring.oldest <= number -> history[number]? = some message ->
    ring.place? number = some message
  count : ring.readers.length = bus.subscribers.length
  readers : ∀ number, Option.Rel (Follows history) (ring.reader? number) (bus.subscriber? number)

/-- What has been done with a ring has been done with a bus. -/
structure Alike (onRing : Result × Ring × List Entry) (onBus : Result × Local × List Entry) :
    Prop where
  result : onRing.1 = onBus.1
  entries : onRing.2.2 = onBus.2.2
  carried : ∃ history, onRing.2.1.Carries history onBus.2.1

namespace Carries

variable {ring : Ring} {history : List Message} {bus : Local} {reader : Reader}
  {subscriber : Subscriber}

theorem isHeld (carries : ring.Carries history bus) : ring.isHeld = bus.isHeld := by
  rw [Ring.isHeld, Local.isHeld, carries.holders]

theorem isLive (carries : ring.Carries history bus) : ring.isLive = bus.isLive := by
  rw [Ring.isLive, Local.isLive, carries.isHeld, carries.publishers]

theorem hasPublisher (carries : ring.Carries history bus) (number : Nat) :
    ring.hasPublisher number = bus.hasPublisher number := by
  rw [Ring.hasPublisher, Local.hasPublisher, carries.publishers]

/-- Where there is a reader there is a subscriber, and the other way round. -/
theorem reader_cases (carries : ring.Carries history bus) (number : Nat) :
    (ring.reader? number = none ∧ bus.subscriber? number = none) ∨
      ∃ reader subscriber, ring.reader? number = some reader ∧
        bus.subscriber? number = some subscriber ∧ Follows history reader subscriber := by
  have follow := carries.readers number
  generalize ring.reader? number = reader?, bus.subscriber? number = subscriber? at follow ⊢
  cases follow with
  | none => exact .inl ⟨rfl, rfl⟩
  | some follows => exact .inr ⟨_, _, rfl, rfl, follows⟩

/-- For every subscriber there is a reader. -/
theorem exists_reader (carries : ring.Carries history bus) {number : Nat}
    (there : bus.subscriber? number = some subscriber) :
    ∃ reader, ring.reader? number = some reader ∧ Follows history reader subscriber := by
  obtain ⟨_, absent⟩ | ⟨reader, other, reads, present, follows⟩ := carries.reader_cases number
  · simp [absent] at there
  · obtain rfl := Option.some.inj (present.symm.trans there)
    exact ⟨reader, reads, follows⟩

/-- Whoever is up to date finds nothing. -/
theorem look_of_end (carries : ring.Carries history bus) :
    ring.look history.length = .nothing := by
  rw [look, if_pos (Nat.le_of_eq carries.stored)]

/-- Whoever is too far behind finds that the place has been overwritten. -/
theorem look_of_behind (behind : reader.next < ring.oldest) :
    ring.look reader.next = .lagged (ring.oldest - reader.next) := by
  have unstored : ¬ring.stored <= reader.next := by
    unfold oldest at behind
    omega
  rw [look, if_neg unstored, if_pos behind]

/-- Everyone else finds the next message. -/
theorem look_of_message (carries : ring.Carries history bus) {number : Nat} {message : Message}
    (kept : ring.oldest <= number) (there : history[number]? = some message) :
    ring.look number = .message message := by
  have within := (List.getElem?_eq_some_iff.mp there).1
  have unstored : ¬ring.stored <= number := by
    rw [carries.stored]
    omega
  rw [look, if_neg unstored, if_neg (by omega), carries.places number message kept there]

/-- A reader that has not fallen behind is told what the subscriber is told. -/
theorem receive_of_kept (carries : ring.Carries history bus)
    (follows : Follows history reader subscriber) (kept : ring.oldest <= reader.next) :
    ∃ next, ring.receive reader.channels reader.next =
        ((subscriber.receive bus.room bus.isLive).1, next,
          (subscriber.receive bus.room bus.isLive).2.2) ∧
      Follows history { reader with next } (subscriber.receive bus.room bus.isLive).2.1 := by
  -- The reader's loop goes through the subscriber's unread messages.
  generalize unread : subscriber.unread = messages
  have left := follows.unread
  rw [unread] at left
  induction messages generalizing reader subscriber with
  | nil =>
    have atEnd : reader.next = history.length :=
      Nat.le_antisymm follows.within (List.drop_eq_nil_iff.mp left.symm)
    rw [receive_of_nothing (atEnd ▸ carries.look_of_end), Subscriber.receive_of_nil unread,
      carries.isLive]
    exact ⟨reader.next, rfl, follows.channels, follows.within, left⟩
  | cons message rest inductionHypothesis =>
    have there : history[reader.next]? = some message := by
      rw [← List.head?_drop, ← left, List.head?_cons]
    have behind : rest = history.drop (reader.next + 1) := by
      rw [← List.tail_drop, ← left, List.tail_cons]
    have fits : subscriber.unread.length <= bus.room := by
      have stored := carries.stored
      have room := carries.room
      rw [follows.unread, List.length_drop]
      unfold oldest at kept
      omega
    have within := (List.getElem?_eq_some_iff.mp there).1
    rw [receive_of_message (carries.look_of_message kept there),
      Subscriber.receive_of_cons unread fits, Subscriber.isSubscribed, follows.channels]
    have advanced : Follows history { reader with next := reader.next + 1 }
        (subscriber.withUnread rest) :=
      ⟨follows.channels, within, (subscriber.unread_withUnread rest).trans behind⟩
    split
    · exact ⟨reader.next + 1, rfl, advanced⟩
    · exact inductionHypothesis advanced (Nat.le_succ_of_le kept)
        (subscriber.unread_withUnread rest) behind

/-- What has been overwritten is what the subscriber has no room for. -/
theorem excess_eq (carries : ring.Carries history bus)
    (follows : Follows history reader subscriber) :
    subscriber.excess bus.room = ring.oldest - reader.next := by
  have stored := carries.stored
  have room := carries.room
  rw [Subscriber.excess, follows.unread, List.length_drop]
  unfold oldest
  omega

/-- A reader is told what the subscriber is told. -/
theorem receive (carries : ring.Carries history bus)
    (follows : Follows history reader subscriber) :
    ∃ next, ring.receive reader.channels reader.next =
        ((subscriber.receive bus.room bus.isLive).1, next,
          (subscriber.receive bus.room bus.isLive).2.2) ∧
      Follows history { reader with next } (subscriber.receive bus.room bus.isLive).2.1 := by
  have excess := carries.excess_eq follows
  by_cases behind : reader.next < ring.oldest
  · have caughtUp : reader.next + (ring.oldest - reader.next) = ring.oldest := by omega
    have moved : Follows history { reader with next := ring.oldest }
        (subscriber.withUnread (subscriber.kept bus.room)) := by
      refine ⟨follows.channels, ?_, ?_⟩
      · change ring.stored - ring.room <= history.length
        rw [carries.stored]
        omega
      · rw [Subscriber.unread_withUnread, Subscriber.kept, follows.unread, List.drop_drop, excess,
          caughtUp]
    obtain ⟨next, told, further⟩ := carries.receive_of_kept moved (Nat.le_refl _)
    refine ⟨next, ?_, ?_⟩
    · rw [receive_of_lagged (look_of_behind behind), caughtUp,
        Subscriber.receive_of_excess (by omega), excess]
      dsimp only at told ⊢
      rw [told]
    · rw [Subscriber.receive_of_excess (by omega)]
      exact further
  · exact carries.receive_of_kept follows (Nat.le_of_not_lt behind)

/-- What is retained for a reader is what the subscriber has room for. -/
theorem retained_eq (carries : ring.Carries history bus)
    (follows : Follows history reader subscriber) :
    ring.retained reader = subscriber.kept bus.room := by
  have start : reader.next + subscriber.excess bus.room = max reader.next ring.oldest := by
    rw [carries.excess_eq follows]
    omega
  rw [Subscriber.kept, follows.unread, List.drop_drop, start, retained, carries.stored]
  exact filterMap_range'_eq_drop history _ _ fun number message kept =>
    carries.places number message (Nat.le_trans (Nat.le_max_right _ _) kept)

/-- Someone reads from the ring if someone has subscribed to the bus. -/
theorem any_readers (carries : ring.Carries history bus) :
    ring.readers.any Option.isSome = bus.subscribers.any Option.isSome := by
  rw [Bool.eq_iff_iff, any_isSome_iff, any_isSome_iff]
  refine exists_congr fun number => ?_
  change (ring.reader? number).isSome = true ↔ (bus.subscriber? number).isSome = true
  obtain ⟨absent, gone⟩ | ⟨_, _, reads, there, _⟩ := carries.reader_cases number
  · rw [absent, gone]
    exact Iff.rfl
  · rw [reads, there]
    exact Iff.rfl

/-- What becomes of one reader becomes of the subscriber. -/
theorem set (carries : ring.Carries history bus) (number : Nat) {reader? : Option Reader}
    {subscriber? : Option Subscriber} (follow : Option.Rel (Follows history) reader? subscriber?) :
    (ring.setReader number reader?).Carries history (bus.setSubscriber number subscriber?) where
  room := carries.room
  positive := carries.positive
  holders := carries.holders
  publishers := carries.publishers
  stored := carries.stored
  places := carries.places
  count := by simpa [setReader, Local.setSubscriber] using carries.count
  readers := by
    intro other
    simp only [Ring.reader?, setReader, Local.subscriber?, Local.setSubscriber, join_getElem?_set,
      carries.count]
    split
    · exact follow
    · exact carries.readers other

/-- One more reader has nothing to read. -/
theorem join (carries : ring.Carries history bus) :
    Ring.Carries { ring with readers := ring.readers ++ [some (.joining ring.stored)] } history
      { bus with subscribers := bus.subscribers ++ [some .fresh] } where
  room := carries.room
  positive := carries.positive
  holders := carries.holders
  publishers := carries.publishers
  stored := carries.stored
  places := carries.places
  count := by simp [carries.count]
  readers := by
    intro number
    have others := carries.readers number
    simp only [Ring.reader?, Local.subscriber?, List.getElem?_append, carries.count] at others ⊢
    split
    · exact others
    · cases number - bus.subscribers.length with
      | zero =>
        refine .some ⟨rfl, Nat.le_of_eq carries.stored, ?_⟩
        simp [Subscriber.fresh, Subscriber.unread, Reader.joining, carries.stored]
      | succ => exact .none

/-- A message that is stored takes no place but that of one which is overwritten. -/
theorem place?_store (carries : ring.Carries history bus) {number : Nat} {message other : Message}
    (kept : ring.stored + 1 - ring.room <= number)
    (there : (history ++ [message])[number]? = some other) :
    ((ring.places.set (ring.stored % ring.room) (some message))[number % ring.room]?).join =
      some other := by
  have positive : 0 < ring.room := carries.room ▸ carries.positive
  have stored := carries.stored
  by_cases isLast : number = history.length
  · have same : message = other := by simpa [isLast] using there
    have within : ring.stored % ring.room < ring.places.length := Nat.mod_lt _ positive
    rw [isLast, ← stored, List.getElem?_set_self within, same]
    rfl
  · have within := (List.getElem?_eq_some_iff.mp there).1
    rw [List.length_append, List.length_singleton] at within
    have before : number < history.length := by omega
    rw [List.getElem?_append_left before] at there
    rw [List.getElem?_set_ne (mod_ne_of_lt (by omega) (by omega)).symm]
    refine carries.places number other ?_ there
    unfold oldest
    omega

/-- A message that is stored is unread by everyone who is there. -/
theorem store (carries : ring.Carries history bus) (message : Message) :
    Ring.Carries
      { ring with
        places := ring.places.set (ring.stored % ring.room) (some message)
        stored := ring.stored + 1 }
      (history ++ [message])
      { bus with subscribers := bus.subscribers.map fun subscriber? =>
          subscriber?.map (·.deliver message) } where
  room := by simpa [Ring.room] using carries.room
  positive := carries.positive
  holders := carries.holders
  publishers := carries.publishers
  stored := by simp [carries.stored]
  places := by
    intro number other kept there
    simp only [place?, Ring.room, oldest, List.length_set] at kept ⊢
    exact carries.place?_store kept there
  count := by simpa using carries.count
  readers := by
    intro number
    have follow := carries.readers number
    change Option.Rel _ (ring.reader? number) _
    rw [Local.subscriber?, Local.join_getElem?_map]
    change Option.Rel _ _ ((bus.subscriber? number).map _)
    generalize ring.reader? number = reader?, bus.subscriber? number = subscriber? at follow
    cases follow with
    | none => exact .none
    | some follows => exact .some (follows.deliver message)

/-- One more publisher has the same number. -/
theorem joined (carries : ring.Carries history bus) : Alike ring.joined bus.joined where
  result := by rw [Ring.joined, Local.joined, carries.publishers]
  entries := rfl
  carried := ⟨history, { carries with publishers := congrArg (· ++ [true]) carries.publishers }⟩

/-- Whatever is done has the same result on the ring. -/
theorem perform (carries : ring.Carries history bus) (action : Action) :
    Alike (ring.perform action) (bus.perform action) := by
  have unchanged (result : Result) : Alike (result, ring, []) (result, bus, []) :=
    ⟨rfl, rfl, history, carries⟩
  -- Only a message that is published changes what has been stored.
  cases action with
  | addPublisher =>
    simp only [Ring.perform, Local.perform, carries.isHeld]
    split
    · exact carries.joined
    · exact unchanged _
  | addSubscriber =>
    simp only [Ring.perform, Local.perform, carries.isHeld, carries.count]
    split
    · exact ⟨rfl, rfl, history, carries.join⟩
    · exact unchanged _
  | shareBus =>
    simp only [Ring.perform, Local.perform, carries.isHeld]
    split
    · exact ⟨rfl, rfl, history, { carries with holders := congrArg (· + 1) carries.holders }⟩
    · exact unchanged _
  | dropBus =>
    exact ⟨rfl, rfl, history, { carries with holders := congrArg (· - 1) carries.holders }⟩
  | sharePublisher number =>
    simp only [Ring.perform, Local.perform, carries.hasPublisher]
    split
    · exact carries.joined
    · exact unchanged _
  | dropPublisher number =>
    exact ⟨rfl, rfl, history,
      { carries with publishers := congrArg (List.set · number false) carries.publishers }⟩
  | dropSubscriber number => exact ⟨rfl, rfl, history, carries.set number .none⟩
  | publish number message =>
    simp only [Ring.perform, Local.perform, carries.hasPublisher]
    split
    · simp only [Ring.publish, Local.publish, carries.any_readers]
      split
      · exact ⟨rfl, rfl, history ++ [message], carries.store message⟩
      · exact ⟨rfl, rfl, history, carries⟩
    · exact unchanged _
  | subscribe number channels =>
    obtain ⟨absent, gone⟩ | ⟨reader, subscriber, reads, there, follows⟩ :=
      carries.reader_cases number
    · simp only [Ring.perform, Local.perform, absent, gone]
      exact unchanged _
    · simp only [Ring.perform, Local.perform, reads, there, Reader.subscribe,
        subscriber.subscribe_eq, follows.channels]
      exact ⟨rfl, rfl, history, carries.set number (.some ⟨rfl, follows.within, follows.unread⟩)⟩
  | isSubscribed number channel =>
    obtain ⟨absent, gone⟩ | ⟨reader, subscriber, reads, there, follows⟩ :=
      carries.reader_cases number
    · simp only [Ring.perform, Local.perform, absent, gone]
      exact unchanged _
    · simp only [Ring.perform, Local.perform, reads, there, Reader.isSubscribed,
        Subscriber.isSubscribed, follows.channels]
      exact unchanged _
  | receive number =>
    obtain ⟨absent, gone⟩ | ⟨reader, subscriber, reads, there, follows⟩ :=
      carries.reader_cases number
    · simp only [Ring.perform, Local.perform, absent, gone]
      exact unchanged _
    · obtain ⟨next, told, further⟩ := carries.receive follows
      simp only [Ring.perform, Local.perform, reads, there, told]
      exact ⟨rfl, rfl, history, carries.set number (.some further)⟩

/-- An empty ring carries a bus on which nothing has been done. -/
theorem ofRoom {room : Nat} (positive : 0 < room) :
    (Ring.ofRoom room).Carries [] ⟨room, 1, [], []⟩ where
  room := List.length_replicate
  positive := positive
  holders := rfl
  publishers := rfl
  stored := rfl
  places := by simp
  count := rfl
  readers := fun _ => .none

end Carries

/-- Whatever is done with a bus can be done with a ring, and is seen there as the same events. -/
theorem Carries.steps {ring : Ring} {history : List Message} {first bus : Local}
    {events : List Event} (carries : ring.Carries history first)
    (steps : Local.Steps first events bus) :
    ∃ after carried, Steps ring events after ∧ after.Carries carried bus := by
  induction steps with
  | refl => exact ⟨ring, history, .refl, carries⟩
  | @step events bus _ action inductionHypothesis =>
    obtain ⟨before, carried, prior, stands⟩ := inductionHypothesis
    obtain ⟨result, entries, further, carriesFurther⟩ := stands.perform action
    have same : before.event action = bus.event action := by
      rw [event, result, entries]
      rfl
    exact ⟨before.after action, further, same ▸ prior.step action, carriesFurther⟩

end Ring

end StrategyHost.Bus
