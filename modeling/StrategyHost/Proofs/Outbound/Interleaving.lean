import StrategyHost.Proofs.Bus.Delivery
import StrategyHost.Proofs.Outbound.Accounting
import StrategyHost.Proofs.Outbound.Encoder
import StrategyHost.Proofs.Outbound.Floor

/-!
# Orders of many senders on one bus

What a subscriber of the trade commands receives from the tasks that share a bus: the orders
that their senders have accepted, each once, and those of each sender in the order in which
it accepted them. `Floor.Conveys` says so of what has been published so far, and is preserved
by every step; that the subscriber misses nothing is a matter of the bus alone.
-/

namespace StrategyHost.Outbound

open StrategyHost.Bus (Action Local Message)
open StrategyHost.Trade (Order Request)

section

variable {Item : Type}

/-- The items that come from one source, by its number. -/
def fromSource (number : Nat) (items : List (Nat × Item)) : List Item :=
  items.filterMap fun item => if item.1 = number then some item.2 else none

/-- Items with the numbers of their sources are an interleaving of what the sources give. -/
structure IsInterleaving (sources : List (List Item)) (items : List (Nat × Item)) : Prop where
  given : ∀ (number : Nat) (source : List Item), sources[number]? = some source ->
    fromSource number items = source
  known : ∀ item ∈ items, item.1 < sources.length

namespace IsInterleaving

variable {sources : List (List Item)} {items : List (Nat × Item)}

/-- One source more that has given nothing. -/
theorem addSource (interleaving : IsInterleaving sources items) :
    IsInterleaving (sources ++ [[]]) items where
  given number source there := by
    rcases Nat.lt_or_ge number sources.length with within | beyond
    · rw [List.getElem?_append_left within] at there
      exact interleaving.given number source there
    · rw [List.getElem?_append_right beyond, List.getElem?_singleton] at there
      split at there
      next =>
        cases there
        apply List.filterMap_eq_nil_iff.mpr
        intro item member
        have known := interleaving.known item member
        exact if_neg (by omega)
      next => cases there
  known item member := by
    have known := interleaving.known item member
    simp only [List.length_append]
    omega

/-- One item more from a source. -/
theorem addItem {number : Nat} {source : List Item} (interleaving : IsInterleaving sources items)
    (there : sources[number]? = some source) (item : Item) :
    IsInterleaving (sources.set number (source ++ [item])) (items ++ [(number, item)]) where
  given other given stands := by
    have within := (List.getElem?_eq_some_iff.mp there).1
    have before := interleaving.given other
    simp only [fromSource, List.filterMap_append] at before ⊢
    by_cases same : number = other
    · subst same
      rw [List.getElem?_set_self within] at stands
      cases stands
      rw [before source there]
      simp
    · rw [List.getElem?_set_ne same] at stands
      rw [before given stands]
      simp [same]
  known other member := by
    rw [List.length_set]
    rcases List.mem_append.mp member with before | last
    · exact interleaving.known other before
    · rw [List.mem_singleton.mp last]
      exact (List.getElem?_eq_some_iff.mp there).1

end IsInterleaving

end

/-- A message that brings an order of a sender. -/
structure Brings (sender : Sender) (order : Order) (message : Message) : Prop where
  channel : message.channel = "trader_cmd"
  payload : sender.encode order = .ok message.payload
  /-- The payload is read back as the order, under the index of its contract. -/
  decodes : ∃ request contract, Request.decode message.payload = .ok request ∧
    Carries request sender.strategyId order ∧ contract ∈ sender.contracts.contracts ∧
    contract.ticker = order.ticker ∧ request.tickerIndex = contract.tickerIndex ∧
    ∀ content, ContractTable.ofBytes content = .ok sender.contracts ->
      sender.contracts.byIndex? request.tickerIndex.toNat = some contract

/-- The command of an order brings it. -/
theorem brings_message {sender : Sender} {order : Order} {command : Command}
    (written : sender.command order = .ok command) : Brings sender order command.message := by
  unfold Sender.command at written
  cases encoded : sender.encode order with
  | error failure => simp [encoded, Except.map] at written
  | ok payload =>
    simp only [encoded, Except.map, Except.ok.injEq] at written
    subst written
    obtain ⟨contract, listed, ticker, rfl⟩ := Sender.exists_of_encode encoded
    refine ⟨rfl, encoded, sender.request contract order, contract, Request.decode_encode _,
      sender.carries_request contract order, listed, ticker, rfl, ?_⟩
    intro content read
    obtain ⟨rows, fit, lists⟩ := ContractTable.exists_lists_of_ofBytes read
    exact lists.byIndex?_tickerIndex fit.few listed

namespace Path

variable {sender : Sender} {capacity : Nat} {events : List Event} {path : Path}

/-- No more commands are settled than orders have been accepted. -/
theorem Valid.length_settled_le (valid : Valid sender capacity events path) :
    (settled events).length <= (accepted events).length := by
  have lengths := congrArg List.length valid.carried
  simp only [List.length_map, List.length_append] at lengths
  omega

/-- The command in flight is that of the first accepted order that is not settled. -/
theorem Valid.order_of_inFlight {command : Command} {backoff : Retry.Backoff}
    (valid : Valid sender capacity events path)
    (flying : path.publisher.inFlight = some (command, backoff)) :
    ∃ order, (accepted events)[(settled events).length]? = some order ∧
      sender.command order = .ok command := by
  have next := congrArg (·[(settled events).length]?) valid.carried
  simp only [inFlight, flying, Option.map_some, Option.toList_some, List.map_append,
    List.append_assoc, List.getElem?_map] at next
  rw [List.getElem?_append_right (by simp)] at next
  simp only [List.length_map, Nat.sub_self, List.map_cons, List.cons_append,
    List.getElem?_cons_zero] at next
  obtain ⟨order, there, written⟩ := Option.map_eq_some_iff.mp next
  exact ⟨order, there, written⟩

end Path

namespace Task

/-- The orders that a task has brought to the bus. -/
def sent (task : Task) : List Order :=
  (Path.accepted task.events).take (Path.settled task.events).length

/-- What does not publish brings nothing. -/
theorem sent_moved {bus : Local} {task : Task} {event : Path.Event} (path : Path)
    (sound : task.Sound bus) (silent : event.publication? = none) :
    (task.moved event path).sent = task.sent := by
  obtain ⟨capacity, valid⟩ := sound.valid
  have settles := (Path.Event.settled?_eq_none silent).1
  simp only [sent, moved, Path.accepted_concat, Path.settled_concat, settles, Option.toList_none,
    List.append_nil]
  exact List.take_append_of_le_length valid.length_settled_le

/-- A task that publishes the command of its next order brings this order. -/
theorem sent_published {task : Task} {order : Order} {command : Command} (path : Path)
    (accepted : (Path.accepted task.events)[(Path.settled task.events).length]? = some order) :
    (task.moved (.published command command.message .succeeded) path).sent =
      task.sent ++ [order] := by
  simp [sent, moved, Path.Event.accepted?, Path.Event.settled?, List.take_add_one, accepted]

/-- A task that has returned has brought all the orders that were accepted, and reports that it
has published so many. -/
theorem sent_of_returned {bus : Local} {task : Task} (sound : task.Sound bus)
    (returned : task.path.hasReturned = true) :
    task.sent = Path.accepted task.events ∧
      task.path.publisher.published = (Path.accepted task.events).length := by
  obtain ⟨⟨capacity, valid⟩, _, unfailed⟩ := sound
  have lengths := congrArg List.length (valid.orders_of_returned returned)
  have settled := valid.settledCount
  simp only [List.length_map] at lengths
  refine ⟨?_, by omega⟩
  rw [sent, ← lengths, List.take_length]

end Task

namespace Floor

/-- A message brings the order of a parcel from the task with the parcel's number. -/
def Bears (floor : Floor) (parcel : Nat × Order) (message : Message) : Prop :=
  ∃ task, floor.tasks[parcel.1]? = some task ∧ Brings task.sender parcel.2 message

/-- The commands that are published are these parcels, an interleaving of what the tasks have
brought to the bus. -/
structure Conveys (events : List Bus.Event) (parcels : List (Nat × Order)) (floor : Floor) :
    Prop where
  interleaved : IsInterleaving (floor.tasks.map Task.sent) parcels
  messages : List.Forall₂ floor.Bears parcels
    (Bus.onChannel Trade.commandChannel (Bus.published events))

variable {floor next : Floor} {events more : List Bus.Event} {parcels : List (Nat × Order)}

/-- What a message brings it brings for good. -/
theorem Step.bears (step : Step floor more next) {parcel : Nat × Order} {message : Message}
    (bears : floor.Bears parcel message) : next.Bears parcel message := by
  obtain ⟨task, there, brings⟩ := bears
  obtain ⟨now, stands, same⟩ := step.sender there
  exact ⟨now, stands, same ▸ brings⟩

/-- A step that publishes no command leaves the parcels as they are. -/
theorem Conveys.quiet (conveys : floor.Conveys events parcels) (step : Step floor more next)
    (interleaved : IsInterleaving (next.tasks.map Task.sent) parcels)
    (nothing : Bus.onChannel Trade.commandChannel (Bus.published more) = []) :
    next.Conveys (events ++ more) parcels := by
  refine ⟨interleaved, ?_⟩
  rw [Bus.onChannel_published_append, nothing, List.append_nil]
  exact conveys.messages.imp fun _ _ => step.bears

/-- A step that publishes a command adds the parcel that the command bears. -/
theorem Conveys.extend {parcel : Nat × Order} {message : Message}
    (conveys : floor.Conveys events parcels) (step : Step floor more next)
    (interleaved : IsInterleaving (next.tasks.map Task.sent) (parcels ++ [parcel]))
    (published : Bus.onChannel Trade.commandChannel (Bus.published more) = [message])
    (bears : next.Bears parcel message) : next.Conveys (events ++ more) (parcels ++ [parcel]) := by
  refine ⟨interleaved, ?_⟩
  rw [Bus.onChannel_published_append, published]
  exact List.rel_append (conveys.messages.imp fun _ _ => step.bears) (.cons bears .nil)

/-- Others publish no command. -/
theorem Allows.onChannel_published {action : Action} (allowed : floor.Allows action) :
    Bus.onChannel Trade.commandChannel (Bus.published [floor.bus.event action]) = [] := by
  cases publishes : (floor.bus.event action).publication? with
  | none => simp [Bus.published, Bus.onChannel, publishes]
  | some message =>
    have elsewhere : message.channel ≠ Trade.commandChannel := by
      unfold Local.event Bus.Event.publication? at publishes
      split at publishes
      next publisher published _ same =>
        simp only [Bus.Event.mk.injEq] at same
        cases publishes
        exact allowed.publications publisher message same.1
      next => cases publishes
    simp [Bus.published, Bus.onChannel, publishes, elsewhere]

/-- A command that is published by a publisher that is there reaches the bus. -/
theorem onChannel_published_command {bus : Local} {publisher : Nat} (command : Command)
    (there : bus.hasPublisher publisher = true) :
    Bus.onChannel Trade.commandChannel
      (Bus.published [bus.event (.publish publisher command.message)]) = [command.message] := by
  simp [Bus.onChannel, Bus.published, Local.event, Local.perform, there, Bus.Event.publication?,
    Command.message]

/-- What is brought to the bus when something else stands in a task's place. -/
theorem map_sent_replace (floor : Floor) (place : Nat) (new : Task) :
    (floor.replace place new).tasks.map Task.sent =
      (floor.tasks.map Task.sent).set place new.sent :=
  List.map_set

/-- Nothing is brought to the bus by a task that moves without publishing. -/
theorem map_sent_moved (bus : Local) (path : Path) {place : Nat} {task : Task} {event : Path.Event}
    (sound : floor.Sound) (acts : floor.tasks[place]? = some task)
    (silent : event.publication? = none) :
    (({ floor with bus := bus } : Floor).replace place (task.moved event path)).tasks.map Task.sent =
      floor.tasks.map Task.sent := by
  obtain ⟨within, found⟩ := List.getElem?_eq_some_iff.mp acts
  rw [map_sent_replace, Task.sent_moved path (sound.tasks place task acts) silent, ← found,
    ← List.map_set, List.set_getElem_self]

/-- Every step adds the parcel of the order that it publishes, if it publishes one. -/
theorem Step.conveys (step : Step floor more next) (sound : floor.Sound)
    (conveys : floor.Conveys events parcels) :
    ∃ parcels, next.Conveys (events ++ more) parcels := by
  have given := step
  cases step with
  | launch opens =>
    refine ⟨parcels, conveys.quiet given ?_ rfl⟩
    simpa [add, Task.sent, opens.settled_eq] using conveys.interleaved.addSource
  | proceed acts transition silent =>
    refine ⟨parcels, conveys.quiet given ?_ rfl⟩
    rw [map_sent_moved floor.bus _ sound acts silent]
    exact conveys.interleaved
  | finish acts =>
    refine ⟨parcels, conveys.quiet given ?_ rfl⟩
    rw [after, map_sent_moved _ _ sound acts rfl]
    exact conveys.interleaved
  | other action allowed =>
    exact ⟨parcels, conveys.quiet given conveys.interleaved allowed.onChannel_published⟩
  | @publish place task command backoff acts running flying =>
    obtain ⟨⟨capacity, valid⟩, publisher, _⟩ := sound.tasks place task acts
    obtain ⟨order, accepted, written⟩ := valid.order_of_inFlight flying
    -- The task's publisher is still there, so the command reaches the bus.
    have there : floor.bus.hasPublisher task.publisher = true := by
      simpa [Local.hasPublisher, running] using publisher
    have interleaved : IsInterleaving
        ((floor.attempt place task command backoff).tasks.map Task.sent)
        (parcels ++ [(place, order)]) := by
      rw [attempt_eq, map_sent_replace, Task.sent_published _ accepted]
      exact conveys.interleaved.addItem (by simp [acts]) order
    obtain ⟨now, stands, same⟩ := given.sender acts
    exact ⟨_, conveys.extend given interleaved (onChannel_published_command command there)
      ⟨now, stands, same ▸ brings_message written⟩⟩

/-- All the steps together convey an interleaving of what the tasks have brought to the bus. -/
theorem Steps.conveys {first : Floor} {earlier : List Bus.Event} (steps : Steps first events floor)
    (initial : first.Sound) (conveys : first.Conveys earlier parcels) :
    ∃ parcels, floor.Conveys (earlier ++ events) parcels := by
  induction steps with
  | refl => exact ⟨parcels, by rwa [List.append_nil]⟩
  | step prior transition inductionHypothesis =>
    obtain ⟨before, conveyed⟩ := inductionHypothesis
    rw [← List.append_assoc]
    exact transition.conveys (prior.sound initial) conveyed

/-- Nothing is conveyed where nobody has begun. -/
theorem conveys_empty (bus : Local) : (empty bus).Conveys [] [] :=
  ⟨⟨by simp [empty], by simp⟩, .nil⟩

/-- As long as no command has been published, none has been conveyed. -/
theorem Conveys.restart (conveys : floor.Conveys events parcels)
    (unpublished : ∀ message ∈ Bus.published events, message.channel ≠ Trade.commandChannel) :
    floor.Conveys [] [] := by
  have nothing : Bus.onChannel Trade.commandChannel (Bus.published events) = [] := by
    apply List.filter_eq_nil_iff.mpr
    simpa using unpublished
  have messages := conveys.messages
  rw [nothing, List.forall₂_nil_right_iff] at messages
  subst messages
  exact ⟨conveys.interleaved, .nil⟩

/-- Once nothing more may come, reading on leads to the end. -/
theorem exists_steps_to_closing {number : Nat} {subscriber : Bus.Subscriber}
    (there : floor.bus.subscriber? number = some subscriber) (ended : floor.bus.isLive = false) :
    ∃ more last entries, Steps floor more last ∧ last.tasks = floor.tasks ∧
      (∀ event ∈ more, event.action = .receive number) ∧
      more.getLast? = some (.closing number entries) := by
  have allowed (floor : Floor) : floor.Allows (.receive number) := ⟨by simp, by simp⟩
  generalize count : subscriber.unread.length = left
  induction left using Nat.strong_induction_on generalizing floor subscriber with
  | _ left inductionHypothesis =>
    rcases Local.receive_of_not_isLive there ended with ⟨entries, told⟩ | ⟨rest, remains, fewer⟩
    · refine ⟨[floor.bus.event (.receive number)], _, entries, .cons (allowed floor) .refl, rfl,
        by simp [Local.event], ?_⟩
      rw [told, List.getLast?_singleton]
    · subst count
      have stillEnded : (floor.after (.receive number)).bus.isLive = false :=
        (Local.isLive_after_receive _ _).trans ended
      obtain ⟨more, last, entries, steps, same, asks, closes⟩ :=
        inductionHypothesis _ fewer remains stillEnded rfl
      refine ⟨_, last, entries, .cons (allowed floor) steps, same, ?_, ?_⟩
      · simpa [Local.event] using asks
      · rw [List.getLast?_cons, closes]
        rfl

end Floor

/-- What the tasks on a floor report, and what a subscriber of the trade commands can rely on by
the events since it joined a bus of some capacity. -/
structure Brought (capacity number : Nat) (joined : Local) (events : List Bus.Event)
    (floor : Floor) : Prop where
  room : Bus.IsRoomFor capacity floor.bus.room
  unfailed : ∀ task ∈ floor.tasks, task.path.publisher.failed = 0
  published : ∀ task ∈ floor.tasks, task.path.hasReturned = true ->
    task.path.publisher.published = (Path.accepted task.events).length
  /-- Once all tasks have returned, and nobody else has the bus or a publisher, the subscriber
  need only read on to be told that there is nothing more. -/
  closes : (∀ task ∈ floor.tasks, task.path.hasReturned = true) -> floor.bus.isHeld = false ->
    (∀ publisher, floor.bus.hasPublisher publisher = true ->
      ∃ task ∈ floor.tasks, task.publisher = publisher) ->
    ∀ subscriber, floor.bus.subscriber? number = some subscriber ->
      ∃ more last entries, Floor.Steps floor more last ∧ last.tasks = floor.tasks ∧
        (∀ event ∈ more, event.action = .receive number) ∧
        more.getLast? = some (.closing number entries)
  /-- By the time it is told so, one who has kept up has received all orders. -/
  orders : ∀ entries, joined.KeepsUp number Trade.commandChannel events ->
    events.getLast? = some (.closing number entries) ->
    (∀ task ∈ floor.tasks, task.path.hasReturned = true) ∧
      ∃ parcels,
        IsInterleaving (floor.tasks.map fun task => Path.accepted task.events) parcels ∧
        List.Forall₂ floor.Bears parcels
          (Bus.onChannel Trade.commandChannel (Bus.received number events)) ∧
        ((∀ channel ∈ Bus.requested number events, channel = Trade.commandChannel) ->
          Bus.onChannel Trade.commandChannel (Bus.received number events) =
            Bus.received number events)

namespace Floor

variable {floor : Floor}

/-- Once all tasks have returned, they have brought all the orders that were accepted. -/
theorem Sound.map_sent_of_returned (sound : floor.Sound)
    (returned : ∀ task ∈ floor.tasks, task.path.hasReturned = true) :
    floor.tasks.map Task.sent = floor.tasks.map fun task => Path.accepted task.events := by
  apply List.map_congr_left
  intro task member
  exact (Task.sent_of_returned (sound.of_mem member) (returned task member)).1

/-- Whatever the tasks on a bus and all others do, a subscriber that joins before the first command
is published receives the accepted orders of all senders, if it keeps up. -/
theorem brought_of_steps {capacity number : Nat} {first joined : Local} {floor last : Floor}
    {earlier events : List Bus.Event} {entries : List Journal.Entry}
    (created : Local.ofCapacity capacity = .ok first) (prior : Steps (empty first) earlier floor)
    (unpublished : ∀ message ∈ Bus.published earlier, message.channel ≠ Trade.commandChannel)
    (joins : floor.bus.perform .addSubscriber = (.number number, joined, entries))
    (steps : Steps { floor with bus := joined } events last) :
    Brought capacity number joined events last := by
  obtain rfl : joined = floor.bus.after .addSubscriber := by rw [Local.after, joins]
  have joining : Step floor [floor.bus.event .addSubscriber] (floor.after .addSubscriber) :=
    .other .addSubscriber ⟨by simp, by simp⟩
  have opening := joining.sound (prior.sound (sound_empty first))
  have sound : last.Sound := steps.sound opening
  obtain ⟨sameRoom, there, opens⟩ := Local.opens_of_joins joins
  have room : last.bus.room = Local.roomFor capacity := by
    rw [steps.bus.frame.1, sameRoom, prior.bus.frame.1]
    exact Local.room_of_ofCapacity created
  obtain ⟨before, conveyed⟩ := prior.conveys (sound_empty first) (conveys_empty first)
  have none : (floor.after .addSubscriber).Conveys [] [] :=
    ⟨(conveyed.restart unpublished).interleaved, .nil⟩
  obtain ⟨parcels, interleaved, messages⟩ := steps.conveys opening none
  constructor
  · rw [room]
    exact Local.isRoomFor_roomFor capacity
  · exact fun task member => (sound.of_mem member).unfailed
  · exact fun task member returned => (Task.sent_of_returned (sound.of_mem member) returned).2
  · intro returned released owned subscriber present
    exact exists_steps_to_closing present (sound.isLive_of_hasReturned returned released owned)
  · intro entries keepsUp closes
    have ended := steps.bus.isLive_of_closing closes
    have returned : ∀ task ∈ last.tasks, task.path.hasReturned = true :=
      fun _ member => sound.hasReturned_of_not_isLive ended member
    obtain ⟨readings, standing, onTime⟩ := steps.bus.standing_of_keepsUp there opens keepsUp
    have ledger := standing.ledger
    refine ⟨returned, parcels, ?_, ?_, ?_⟩
    · rwa [← sound.map_sent_of_returned returned]
    · rwa [ledger.onChannel_received onTime closes]
    · intro only
      apply List.filter_eq_self.mpr
      intro message member
      exact decide_eq_true (only _ (ledger.channel_mem_requested message member))

/-- Another sender of the same contract. -/
def otherSender : Sender := ⟨"trend", Path.loneSender.contracts⟩

/-- An order of the other sender. -/
def otherOrder : Order := { Path.loneOrder with userOrderId := 8 }

/-- A bus with room for two, which two publishers and one subscriber have joined. -/
def joinedBus : Local := ⟨2, 1, [true, true], [some .fresh]⟩

/-- Two tasks on that bus accept one order each. The one that is accepted last is published first. -/
theorem exists_steps_crossing : ∃ events last, Steps ⟨joinedBus, []⟩ events last ∧
    (∃ rest, events = joinedBus.event (.subscribe 0 [Trade.commandChannel]) :: rest) ∧
    (Bus.published events).length <= 2 ∧
    events.getLast?.map (fun event => (event.action, event.result)) =
      some (.receive 0, .received .closed) ∧
    Bus.requested 0 events = [Trade.commandChannel] ∧
    last.tasks.map Task.sender = [Path.loneSender, otherSender] ∧
    (last.tasks.map fun task => Path.accepted task.events) = [[Path.loneOrder], [otherOrder]] ∧
    (Bus.received 0 events).map (fun message => .ok message.payload) =
      [otherSender.encode otherOrder, Path.loneSender.encode Path.loneOrder] := by
  have fits : (⟨100, 400, 3⟩ : Config.Reconnect).Fits := ⟨by decide, by decide, by decide⟩
  have opens (sender : Sender) (publisher : Nat) :
      Task.IsUnpublished ⟨sender, publisher, .start ⟨1, [], true⟩ ⟨100, 400, 3⟩, []⟩ :=
    ⟨⟨1, _, _, rfl, fits, .refl⟩, rfl, rfl⟩
  have reads {floor : Floor} : floor.Allows (.receive 0) := ⟨by simp, by simp⟩
  have launched := Steps.step (Steps.step (@Steps.refl ⟨joinedBus, []⟩)
    (.launch (opens Path.loneSender 0) rfl (by simp))) (.launch (opens otherSender 1) rfl (by decide))
  have subscribed := launched.step
    (.other (.subscribe 0 [Trade.commandChannel]) ⟨by simp, by simp⟩)
  have accepted := (subscribed.step (@Step.proceed _ 0 _ _ _ rfl
    (.call (.send Path.loneOrder) (by decide)) rfl (by simp))).step
      (@Step.proceed _ 1 _ _ _ rfl (.call (.send otherOrder) (by decide)) rfl (by simp))
  have overtaken := (accepted.step (@Step.proceed _ 1 _ _ _ rfl (.take rfl rfl) rfl
    (by simp))).step (@Step.publish _ 1 _ _ _ rfl rfl rfl)
  have published := (overtaken.step (@Step.proceed _ 0 _ _ _ rfl (.take rfl rfl) rfl
    (by simp))).step (@Step.publish _ 0 _ _ _ rfl rfl rfl)
  have dropped := (published.step (@Step.proceed _ 0 _ _ _ rfl (.drop (by decide)) rfl
    (by simp))).step (@Step.proceed _ 1 _ _ _ rfl (.drop (by decide)) rfl (by simp))
  have returned := (dropped.step (@Step.finish _ 0 _ _ rfl (.finish rfl rfl rfl rfl))).step
    (@Step.finish _ 1 _ _ rfl (.finish rfl rfl rfl rfl))
  have released := returned.step (.other .dropBus ⟨by simp, by simp⟩)
  have closed := ((released.step (.other _ reads)).step (.other _ reads)).step (.other _ reads)
  refine ⟨_, _, closed, ⟨_, rfl⟩, ?_, ?_, ?_, ?_, ?_, ?_⟩
  · decide +kernel
  · decide +kernel
  · decide +kernel
  · rfl
  · rfl
  · decide +kernel

/-- The subscriber receives both orders, each from its sender, before it is told that there is
nothing more. -/
theorem brought_of_steps_crossing : ∃ events last, Brought 2 0 joinedBus events last ∧
    last.tasks.map Task.sender = [Path.loneSender, otherSender] ∧
    (Bus.received 0 events).map (fun message => .ok message.payload) =
      [otherSender.encode otherOrder, Path.loneSender.encode Path.loneOrder] ∧
    ∃ parcels, IsInterleaving [[Path.loneOrder], [otherOrder]] parcels ∧
      List.Forall₂ last.Bears parcels (Bus.received 0 events) := by
  have created : Local.ofCapacity 2 = .ok ⟨2, 1, [], []⟩ := by rfl
  have adds {floor : Floor} : floor.Allows .addPublisher := ⟨by simp, by simp⟩
  have prior : Steps (empty ⟨2, 1, [], []⟩) _ ⟨⟨2, 1, [true, true], []⟩, []⟩ :=
    .step (.step .refl (.other .addPublisher adds)) (.other .addPublisher adds)
  obtain ⟨events, last, steps, ⟨rest, begins⟩, few, told, asked, senders, orders, payloads⟩ :=
    exists_steps_crossing
  have brought := brought_of_steps created prior (by decide +kernel) rfl steps
  have keepsUp : joinedBus.KeepsUp 0 Trade.commandChannel events := by
    subst begins
    exact Local.keepsUp_of_few (by decide) rfl (.head _) few
  obtain ⟨event, ends, same⟩ := Option.map_eq_some_iff.mp told
  have closes : events.getLast? = some (.closing 0 event.entries) := by
    obtain ⟨action, result, entries⟩ := event
    cases same
    exact ends
  obtain ⟨_, parcels, interleaved, messages, only⟩ := brought.orders _ keepsUp closes
  rw [only (by simp [asked])] at messages
  rw [orders] at interleaved
  exact ⟨events, last, brought, senders, payloads, parcels, interleaved, messages⟩

end Floor

end StrategyHost.Outbound
