import StrategyHost.Proofs.Strategy.Station
import StrategyHost.Strategy.Session

/-!
# Sessions on a local bus

To follow a run over the seat of its subscriber is one of the ways that a station may go, in
which nobody else does anything meanwhile; what a session publishes before a run is what others
do with the bus. So the runs of a session are runs one after the other as `Runs` has them, and
what holds of all of those holds of the sessions that are carried out.
-/

namespace StrategyHost.Strategy

open StrategyHost.Bus (Action Local Message Subscriber)
open StrategyHost.Outbound (Queue)

/-- Channels are asked for by deeds. -/
theorem requestsOf_deedsOf (channelPrefix : String) (occurrences : List Occurrence) :
    requestsOf channelPrefix (deedsOf occurrences) = requestsOf channelPrefix occurrences := by
  induction occurrences with
  | nil => rfl
  | cons occurrence rest inductionHypothesis =>
    cases occurrence with
    | logged entry => exact inductionHypothesis
    | _ => exact congrArg (_ ++ ·) inductionHypothesis

/-- Actions in turn leave the bus as one after the other does. -/
theorem foldl_after_eq_performAll (bus : Local) (actions : List Action) :
    (bus.performAll actions).2.1 = actions.foldl Local.after bus := by
  unfold Local.performAll
  generalize Bus.Result.done = result, ([] : List (List Journal.Entry)) = groups
  induction actions generalizing bus result groups with
  | nil => rfl
  | cons action rest inductionHypothesis => exact inductionHypothesis _ _ _

namespace LocalFeed

variable {bus : Local} {number : Nat} {seat : Seat}

theorem seat?_eq_some_iff : seat? bus number = some seat ↔
    bus.subscriber? number = some seat.subscriber ∧ seat.room = bus.room ∧
      seat.isLive = bus.isLive := by
  cases there : bus.subscriber? number with
  | none => simp [seat?, there]
  | some subscriber =>
    obtain ⟨_, _, _⟩ := seat
    simp only [seat?, there, Option.map_some, Option.some.injEq, Seat.mk.injEq]
    tauto

/-- A seat that something has happened at is still the seat of its subscriber. -/
theorem seat?_settle (seated : seat? bus number = some seat) (subscriber : Subscriber) :
    seat? (settle bus number { seat with subscriber := subscriber }) number =
      some { seat with subscriber := subscriber } := by
  obtain ⟨there, room, isLive⟩ := seat?_eq_some_iff.mp seated
  refine seat?_eq_some_iff.mpr ⟨?_, room, isLive⟩
  exact Local.subscriber?_setSubscriber (Local.lt_of_subscriber? there)

theorem settle_settle (first second : Seat) :
    settle (settle bus number first) number second = settle bus number second := by
  simp [settle, Local.setSubscriber]

/-- Where nothing has happened nothing changes. -/
theorem settle_eq_self (seated : seat? bus number = some seat) : settle bus number seat = bus := by
  obtain ⟨there, _, _⟩ := seat?_eq_some_iff.mp seated
  have within := Local.lt_of_subscriber? there
  have same : bus.subscribers[number] = some seat.subscriber := by
    simpa [Local.subscriber?, within] using there
  simp [settle, Local.setSubscriber, ← same]

/-- To subscribe at a seat is to subscribe on the bus. -/
theorem after_subscribe (seated : seat? bus number = some seat) (channels : List String) :
    bus.after (.subscribe number channels) =
      settle bus number (feed.subscribe seat channels).2.1 := by
  simp [Local.after, Local.perform, (seat?_eq_some_iff.mp seated).1, settle, feed]

/-- To ask for the next message at a seat is to ask for it on the bus. -/
theorem exists_receipt (seated : seat? bus number = some seat) :
    ∃ receipt, (bus.perform (.receive number)).1 = .received receipt ∧
      (feed.next seat).1 = offer receipt ∧
      bus.after (.receive number) = settle bus number (feed.next seat).2.1 := by
  obtain ⟨there, room, isLive⟩ := seat?_eq_some_iff.mp seated
  refine ⟨(seat.subscriber.receive seat.room seat.isLive).1, ?_, rfl, ?_⟩
  · simp [Local.perform, there, room, isLive]
  · simp [Local.after, Local.perform, there, room, isLive, settle, feed]

end LocalFeed

variable {Memory : Type}

/-- A station has gone by steps to where nothing is outstanding, and these are the deeds on the
way. -/
structure Station.Reaches (strategy : Strategy Memory) (number : Nat) (first : Station Memory)
    (deeds : List Occurrence) (station : Station Memory) : Prop where
  steps : ∃ heard occurrences events,
    Steps strategy number first heard occurrences events station ∧ deedsOf occurrences = deeds
  idle : station.IsIdle

namespace Station

variable {strategy : Strategy Memory} {number : Nat} {first : Station Memory}
  {heard : List Answer} {occurrences : List Occurrence} {events : List Bus.Event}

/-- To follow a run over the seat of its subscriber is to go on by steps. -/
theorem Steps.reaches_follow {run : Run Memory} {bus : Local} {seat : LocalFeed.Seat}
    (steps : Steps strategy number first heard occurrences events ⟨.begun run, bus⟩)
    (seated : LocalFeed.seat? bus number = some seat) :
    Reaches strategy number first
      (deedsOf (occurrences ++ (run.follow strategy LocalFeed.feed seat).occurrences))
      ⟨.begun (run.follow strategy LocalFeed.feed seat).run,
        LocalFeed.settle bus number (run.follow strategy LocalFeed.feed seat).state⟩ := by
  -- The bus changes with every answer, so it is left general together with what led to it.
  fun_induction Run.answers strategy LocalFeed.feed seat run
    generalizing bus heard occurrences events with
  | case1 seat run ends =>
    rw [Run.follow_of_finished ends]
    simp only [LocalFeed.settle_eq_self seated, List.append_nil]
    refine ⟨⟨_, _, _, steps, rfl⟩, ?_⟩
    rintro _ channels ⟨⟩
    simp [ends]
  | case2 seat run channels waits answer =>
    rename_i inductionHypothesis
    have next := steps.step (.subscribe waits)
    rw [LocalFeed.after_subscribe seated] at next
    have goesOn := inductionHypothesis next (LocalFeed.seat?_settle seated _)
    rw [LocalFeed.settle_settle, List.append_assoc, deedsOf_append] at goesOn
    rw [Run.follow_of_subscribe waits]
    simp only [Followed.after, deedsOf_append, deedsOf_map_logged, List.nil_append] at goesOn ⊢
    exact goesOn
  | case3 seat run waits nothing =>
    obtain ⟨receipt, told, offered, after⟩ := LocalFeed.exists_receipt seated
    have next := steps.step (.receive waits told)
    rw [after, ← offered, nothing] at next
    rw [Run.follow_of_waiting waits nothing]
    refine ⟨⟨_, _, _, next, ?_⟩, isIdle_of_receive waits⟩
    simp [Run.hear]
  | case4 seat run waits delivery delivered inductionHypothesis =>
    obtain ⟨receipt, told, offered, after⟩ := LocalFeed.exists_receipt seated
    have next := steps.step (.receive waits told)
    rw [after, ← offered, delivered] at next
    have goesOn := inductionHypothesis next (LocalFeed.seat?_settle seated _)
    rw [LocalFeed.settle_settle, List.append_assoc, deedsOf_append] at goesOn
    rw [Run.follow_of_delivery waits delivered]
    simp only [Followed.after, deedsOf_append, deedsOf_map_logged, List.nil_append] at goesOn ⊢
    exact goesOn

/-- To run a host over the seat of its subscriber, and to drop the run where that ends, is to go
some steps and to drop the run there. -/
theorem Steps.reaches_runOnBus {host : Host Memory} {queue : Queue} {bus : Local}
    {subscriber : Subscriber}
    (steps : Steps strategy number first heard occurrences events ⟨.untouched host queue, bus⟩)
    (there : bus.subscriber? number = some subscriber) :
    ∃ deeds station, Reaches strategy number first deeds station ∧
      station.bus = (host.runOnBus strategy bus number queue).state ∧
      (station.undertaking.abandon strategy).1 =
        .begun (host.runOnBus strategy bus number queue).run ∧
      deeds ++ deedsOf (station.undertaking.abandon strategy).2 =
        deedsOf (occurrences ++ (host.runOnBus strategy bus number queue).occurrences) := by
  have seated : LocalFeed.seat? bus number = some ⟨subscriber, bus.room, bus.isLive⟩ := by
    simp [LocalFeed.seat?, there]
  refine ⟨_, _, (steps.step .begin).reaches_follow seated, ?_, ?_, ?_⟩
  · simp [Host.runOnBus, seated, Host.run, Followed.after]
  · simp [Host.runOnBus, seated, Host.run, Followed.after, Undertaking.abandon]
  · simp [Host.runOnBus, seated, Host.run, Followed.after, Undertaking.abandon]

/-- Whatever others do in turn are steps. -/
theorem Steps.others_all {station : Station Memory}
    (steps : Steps strategy number first heard occurrences events station) (actions : List Action)
    (foreign : ∀ action ∈ actions, IsForeign number action) :
    ∃ events, Steps strategy number first heard occurrences events
      { station with bus := actions.foldl Local.after station.bus } := by
  induction actions generalizing station events with
  | nil => exact ⟨events, steps⟩
  | cons action rest inductionHypothesis =>
    have next := steps.step (.others action (foreign action (List.mem_cons_self ..)))
    rw [List.append_nil, List.append_nil] at next
    exact inductionHypothesis next fun other member => foreign other (List.mem_cons_of_mem _ member)

end Station

/-- What a session publishes, and that it gives up the bus, is what others do. -/
theorem isForeign_of_mem_publishing {number publisher : Nat} {deliveries : List Delivery}
    {waitsAtEnd : Bool} {action : Action}
    (member : action ∈ publishing publisher deliveries waitsAtEnd) : IsForeign number action := by
  unfold publishing at member
  rcases List.mem_append.mp member with publication | ends
  · obtain ⟨delivery, _, same⟩ := List.mem_filterMap.mp publication
    cases delivery with
    | message message =>
      obtain rfl : .publish publisher message = action := by simpa using same
      trivial
    | _ => simp at same
  · cases waitsAtEnd with
    | true => simp at ends
    | false =>
      rcases (by simpa using ends : action = .dropPublisher publisher ∨ action = .dropBus)
        with rfl | rfl
      · trivial
      · trivial

/-- A run of a session on a local bus is one run more, and what it asks for is what its
occurrences tell. -/
theorem Runs.session {number publisher : Nat} {desk : Desk} {bus between : Local}
    {requests : List String} {session : Session Memory} {subscriber : Subscriber}
    (runs : Runs number desk bus requests session.host.desk between)
    (source : session.source = .bus between number publisher)
    (there : between.subscriber? number = some subscriber) (strategy : Strategy Memory)
    (deliveries : List Delivery) (waitsAtEnd : Bool) :
    ∃ after, (session.run strategy deliveries waitsAtEnd).session.source =
        .bus after number publisher ∧
      (after.subscriber? number).isSome ∧
      Runs number desk bus
        (requests ++ requestsOf desk.channelPrefix
          (session.run strategy deliveries waitsAtEnd).occurrences)
        (session.run strategy deliveries waitsAtEnd).session.host.desk after := by
  let ready := (between.performAll (publishing publisher deliveries waitsAtEnd)).2.1
  let followed := session.host.runOnBus strategy ready number session.queue
  have ran : session.run strategy deliveries waitsAtEnd =
      followed.ran (.bus · number publisher) := by
    simp only [Session.run, source, followed, ready]
  have published : ∃ events, Station.Steps strategy number
      ⟨.untouched session.host session.queue, between⟩ [] [] events
      ⟨.untouched session.host session.queue, ready⟩ := by
    simp only [ready, foldl_after_eq_performAll]
    exact Station.Steps.refl.others_all _ fun _ => isForeign_of_mem_publishing
  obtain ⟨events, waits⟩ := published
  obtain ⟨now, present, _⟩ := waits.channels there
  obtain ⟨_, station, ⟨⟨heard, occurrences, events, steps, rfl⟩, idle⟩, sameBus, sameRun,
    sameDeeds⟩ := waits.reaches_runOnBus present
  have asked : requestsOf desk.channelPrefix
      (occurrences ++ (station.undertaking.abandon strategy).2) =
      requestsOf desk.channelPrefix followed.occurrences := by
    rw [← requestsOf_deedsOf, deedsOf_append, sameDeeds, requestsOf_deedsOf, List.nil_append]
  have more := runs.run steps idle
  rw [asked, sameRun, sameBus] at more
  obtain ⟨last, remains, _⟩ := steps.channels there
  rw [ran]
  exact ⟨followed.state, rfl, by simp [followed, ← sameBus, remains], more⟩

end StrategyHost.Strategy
