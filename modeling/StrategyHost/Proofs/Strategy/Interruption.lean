import StrategyHost.Proofs.Bus.Punctuality
import StrategyHost.Proofs.Strategy.Settings
import StrategyHost.Proofs.Strategy.Subscriptions
import StrategyHost.Proofs.Strategy.Watching

/-!
# Runs that are dropped and begun again

A strategy that asks for the same tickers at the beginning of each run is run on a local bus, and
whenever a run waits for a message it may be dropped and another one begun. What has been
dispatched in all of these runs is what one run would have dispatched that nobody had dropped: each
run only adds its first and its last callback.
-/

namespace StrategyHost.Strategy

open StrategyHost.Bus (Action Local Message Subscriber onChannels)
open StrategyHost.Outbound (Queue)

variable {Memory : Type}

/-- Whether a strategy asks for these tickers in the first callback of each run, and for none in
others. -/
structure AsksAtInit (strategy : Strategy Memory) (tickers : List String) : Prop where
  init : ∀ memory desk queue,
    tickersOf ((strategy.program memory .init).run desk queue).occurrences = tickers
  others : ∀ memory callback desk queue, callback ≠ .init ->
    tickersOf ((strategy.program memory callback).run desk queue).occurrences = []

/-- The callbacks for messages, with what these bring. -/
def dispatchedOf (occurrences : List Occurrence) : List Callback :=
  (callbacksOf occurrences).filter Callback.isForMessage

@[simp] theorem tickersOf_append (before after : List Occurrence) :
    tickersOf (before ++ after) = tickersOf before ++ tickersOf after :=
  List.flatMap_append

@[simp] theorem dispatchedOf_append (before after : List Occurrence) :
    dispatchedOf (before ++ after) = dispatchedOf before ++ dispatchedOf after := by
  simp [dispatchedOf]

/-- The tickers that are asked for in a callback. -/
def Callback.tickers (tickers : List String) : Callback -> List String
  | .init => tickers
  | _ => []

/-- What a run has dispatched is what it has heard, between its first callback and its last. -/
theorem Run.Accounts.dispatchedOf_eq {run : Run Memory} {responseChannel? : Option String}
    {heard : List Answer} {occurrences : List Occurrence}
    (accounts : run.Accounts responseChannel? heard occurrences) :
    dispatchedOf occurrences = (messagesOf heard).filterMap (Callback.ofMessage? responseChannel?) ∧
      callbacksOf occurrences = .init :: dispatchedOf occurrences ++ run.farewell := by
  have kept : ((messagesOf heard).filterMap (Callback.ofMessage? responseChannel?)).filter
      Callback.isForMessage = (messagesOf heard).filterMap (Callback.ofMessage? responseChannel?) :=
    List.filter_eq_self.mpr fun _ => Callback.isForMessage_of_mem
  have last : run.farewell.filter Callback.isForMessage = [] := by
    unfold Run.farewell
    split <;> rfl
  have dispatched : dispatchedOf occurrences =
      (messagesOf heard).filterMap (Callback.ofMessage? responseChannel?) := by
    rw [dispatchedOf, accounts.called, List.filter_append, last, List.append_nil,
      List.filter_cons_of_neg (by simp [Callback.isForMessage]), kept]
  exact ⟨dispatched, by rw [dispatched, accounts.called]⟩

theorem Undertaking.Steps.dispatchedOf_eq {strategy : Strategy Memory} {found : Host Memory}
    {queue : Queue} {heard : List Answer} {occurrences : List Occurrence}
    {undertaking : Undertaking Memory}
    (steps : Steps strategy (.untouched found queue) heard occurrences undertaking) :
    dispatchedOf occurrences =
      (messagesOf heard).filterMap (Callback.ofMessage? found.desk.responseChannel?) := by
  cases steps.accounted with
  | untouched => rfl
  | begun accounts => exact accounts.dispatchedOf_eq.1

namespace AsksAtInit

variable {strategy : Strategy Memory} {tickers : List String} (asks : AsksAtInit strategy tickers)

include asks

/-- What is asked for by steps is asked for in the callbacks. -/
theorem tickersOf_passage {first last : Run Memory} {marks : List Mark}
    {occurrences : List Occurrence} (passage : Passage strategy first marks occurrences last) :
    tickersOf occurrences = (callsOf marks).flatMap (Callback.tickers tickers) := by
  induction passage with
  | start => rfl
  | enter _ stage inductionHypothesis =>
    rw [tickersOf_append, inductionHypothesis, callsOf, callsOf, List.filterMap_append,
      List.flatMap_append]
    rfl
  | @call _ _ run _ callback inductionHypothesis =>
    have called : tickersOf (Change.call strategy callback run).2 = callback.tickers tickers := by
      cases callback with
      | init => exact asks.init _ _ _
      | _ => exact asks.others _ _ _ _ (by simp)
    rw [tickersOf_append, inductionHypothesis, called, callsOf, callsOf, List.filterMap_append,
      List.flatMap_append]
    simp
  | @pause _ _ quiet _ _ _ isQuiet _ _ inductionHypothesis =>
    have nothing : tickersOf quiet = [] := by
      apply List.flatMap_eq_nil_iff.mpr
      intro occurrence member
      have silent := isQuiet occurrence member
      cases occurrence with
      | performed request reply => simp [Occurrence.isQuiet] at silent
      | _ => rfl
    rw [tickersOf_append, nothing, List.append_nil, inductionHypothesis]

/-- A run that has begun has asked for its tickers. -/
theorem tickersOf_steps {found : Host Memory} {queue : Queue} {heard : List Answer}
    {occurrences : List Occurrence} {run : Run Memory}
    (steps : Undertaking.Steps strategy (.untouched found queue) heard occurrences (.begun run)) :
    tickersOf occurrences = tickers := by
  have none : (dispatchedOf occurrences).flatMap (Callback.tickers tickers) = [] := by
    apply List.flatMap_eq_nil_iff.mpr
    intro callback member
    cases callback with
    | init => simp [dispatchedOf, Callback.isForMessage] at member
    | _ => rfl
  have last {run : Run Memory} : run.farewell.flatMap (Callback.tickers tickers) = [] := by
    unfold Run.farewell
    split <;> rfl
  have called := steps.accounts.dispatchedOf_eq.2
  cases steps.reached with
  | begun passage stands =>
    rw [asks.tickersOf_passage passage, ← passage.callbacksOf_eq, called, List.flatMap_append,
      List.flatMap_cons, none, last]
    simp [Callback.tickers]

/-- A callback that is not the first leaves the desk as it is. -/
theorem desk_call {callback : Callback} (notInit : callback ≠ .init) (run : Run Memory) :
    (Change.call strategy callback run).1.host.desk = run.host.desk := by
  have quiet : (Change.call strategy callback run).1.host.desk = _ :=
    Change.isQuiet_call strategy callback run
  have nothing : tickersOf (Change.call strategy callback run).2 = [] :=
    asks.others _ _ _ _ notInit
  rw [quiet, requestsOf_eq_map, nothing]
  exact Desk.asking_nil _

/-- A run that is dropped while it waits for a message leaves the desk as it is, and calls only its
last callback. -/
theorem cancel_of_receive {run : Run Memory} (waits : run.call? = some .receive) :
    (run.cancel strategy).1.host.desk = run.host.desk ∧
      callbacksOf (run.cancel strategy).2 = [.exit] := by
  have ends : run.cancel strategy = Change.finish strategy .cancelled run := by
    simp [Run.cancel, Run.phase_of_receive waits]
  rw [ends]
  refine ⟨?_, Change.callbacksOf_finish strategy .cancelled run⟩
  exact (Change.finish_eq strategy .cancelled run).1.trans (asks.desk_call (by simp) run)

/-- After a message a run waits for the next one. -/
theorem call?_hear {run : Run Memory} (waits : run.call? = some .receive)
    (requested : run.host.desk.requested = []) (message : Message) :
    (run.hear strategy (.bringing message)).1.call? = some .receive := by
  have desk : (Change.dispatch strategy message run).1.host.desk = run.host.desk := by
    cases readable : Callback.ofMessage? run.host.desk.responseChannel? message with
    | none =>
      obtain ⟨entry, skipped⟩ := Change.dispatch_unreadable strategy readable
      rw [skipped]
    | some callback =>
      rw [Change.dispatch_readable readable]
      refine asks.desk_call ?_ _
      obtain ⟨tick, rfl⟩ | ⟨response, rfl⟩ := Callback.ofMessage?_cases readable
      · simp
      · simp
  have none : (Change.dispatch strategy message run).1.host.desk.requested = [] := by
    rw [desk, requested]
  simp [Run.hear, Answer.bringing, Run.received, Run.phase_of_receive waits, Change.andThen,
    Change.subscribeRequested, none, Change.receive, Change.await, Run.call?]

end AsksAtInit

/-- What is noted tells which tickers are asked for. -/
theorem tickersOf_notedOf (occurrences : List Occurrence) :
    tickersOf (notedOf occurrences) = tickersOf occurrences := by
  induction occurrences with
  | nil => rfl
  | cons occurrence rest inductionHypothesis =>
    have first : tickersOf (notedOf [occurrence]) = tickersOf [occurrence] := by
      cases occurrence with
      | performed request reply =>
        cases request with
        | note entry =>
          by_cases own : entry.component = .watch
          · simp [notedOf, own, tickersOf]
          · simp [notedOf, own, tickersOf]
        | _ => rfl
      | _ => rfl
    rw [← List.singleton_append, notedOf_append, tickersOf_append, tickersOf_append, first,
      inductionHypothesis]

/-- A watcher asks for its tickers at the beginning. -/
theorem Watch.asksAtInit (tickers : List String) : AsksAtInit (strategy tickers) tickers where
  init memory desk queue := by
    have noted := (outcome_init tickers ⟨memory, desk, queue⟩).1
    rw [Scene.outcome] at noted
    rw [← tickersOf_notedOf]
    refine (congrArg tickersOf noted).trans ?_
    simp [tickersOf]
  others memory callback desk queue notInit := by
    cases callback with
    | init => exact absurd rfl notInit
    | exit => rfl
    | tick tick => rfl
    | response response => rfl

/-- Runs in turn of one strategy on a local bus, each but the last of which is dropped while it
waits for a message: what has happened in those, what has happened in the present one, and what has
been done with the bus in the meantime. -/
inductive Sittings (strategy : Strategy Memory) (number : Nat) (found : Host Memory) (bus : Local) :
    List (List Occurrence) -> List Occurrence -> List Bus.Event -> Station Memory -> Prop where
  | first (queue : Queue) :
      Sittings strategy number found bus [] [] [] ⟨.untouched found queue, bus⟩
  | step {dropped : List (List Occurrence)} {occurrences more : List Occurrence}
      {events further : List Bus.Event} {station next : Station Memory} {answers : List Answer}
      (prior : Sittings strategy number found bus dropped occurrences events station)
      (transition : Station.Step strategy number station answers more further next) :
      Sittings strategy number found bus dropped (occurrences ++ more) (events ++ further) next
  | again {dropped : List (List Occurrence)} {occurrences : List Occurrence}
      {events : List Bus.Event} {run : Run Memory} {between : Local}
      (prior : Sittings strategy number found bus dropped occurrences events ⟨.begun run, between⟩)
      (waits : run.call? = some .receive) (queue : Queue) :
      Sittings strategy number found bus (dropped ++ [occurrences ++ (run.cancel strategy).2]) []
        events ⟨.untouched (run.cancel strategy).1.host queue, between⟩

namespace Station

variable {strategy : Strategy Memory} {number : Nat} {found : Host Memory} {queue : Queue}
  {bus : Local} {first station next : Station Memory} {heard answers : List Answer}
  {occurrences more : List Occurrence} {events further : List Bus.Event}

/-- A run that nobody drops is the first of runs in turn. -/
theorem Steps.sittings
    (steps : Steps strategy number ⟨.untouched found queue, bus⟩ heard occurrences events station) :
    Sittings strategy number found bus [] occurrences events station := by
  induction steps with
  | refl => exact .first queue
  | step _ transition inductionHypothesis => exact inductionHypothesis.step transition

/-- A step does nothing with the bus, or one thing. The subscriber does not leave, and asks for a
message only if the run waits for one. -/
theorem Step.action_cases (step : Step strategy number station answers more further next) :
    (further = [] ∧ next.bus = station.bus ∧ messagesOf answers = []) ∨
    ∃ action, further = [station.bus.event action] ∧ next.bus = station.bus.after action ∧
      messagesOf answers = Bus.received number further ∧
      (action = .receive number ->
        ∃ run, station.undertaking = .begun run ∧ run.call? = some .receive) := by
  have silent {action : Action} (asks : action ≠ .receive number) :
      Bus.received number [station.bus.event action] = [] := by
    simp [Bus.received, Bus.replies, Local.reply?_of_ne station.bus asks]
  cases step with
  | begin => exact .inl ⟨rfl, rfl, rfl⟩
  | queue => exact .inl ⟨rfl, rfl, rfl⟩
  | subscribe waits => exact .inr ⟨_, rfl, rfl, (silent (by simp)).symm, by simp⟩
  | @receive run bus receipt waits told =>
    have reply : (bus.event (.receive number)).reply? number =
        some (receipt, (bus.perform (.receive number)).2.2) := by
      rw [Local.event, told]
      exact if_pos rfl
    refine .inr ⟨_, rfl, rfl, ?_, fun _ => ⟨run, rfl, waits⟩⟩
    cases receipt <;>
      simp [messagesOf, LocalFeed.offer, Bus.received, Bus.replies, reply, Bus.Receipt.message?]
  | others action foreign =>
    have notAsked : action ≠ .receive number := by
      rintro rfl
      exact foreign rfl
    exact .inr ⟨action, rfl, rfl, (silent notAsked).symm, fun asks => absurd asks notAsked⟩

/-- What a run hears is what its subscriber receives. -/
theorem Steps.messagesOf_eq (steps : Steps strategy number first heard occurrences events station) :
    messagesOf heard = Bus.received number events := by
  induction steps with
  | refl => rfl
  | step _ transition inductionHypothesis =>
    rw [messagesOf_append, Bus.received_append, inductionHypothesis]
    obtain ⟨rfl, -, nothing⟩ | ⟨action, -, -, same, -⟩ := transition.action_cases
    · rw [nothing]
      rfl
    · rw [same]

end Station

/-- The present one of runs in turn has found this host, this bus, and its subscriber there. Either
it is the first, or the subscriber is on all of these channels already. -/
structure Turn (strategy : Strategy Memory) (number : Nat) (tickers channels : List String)
    (found : Desk) (dropped : List (List Occurrence)) (occurrences : List Occurrence)
    (events : List Bus.Event) (station : Station Memory) (host : Host Memory) (origin : Local)
    (joined : Subscriber) : Prop where
  sender : host.desk.sender = found.sender
  channelPrefix : host.desk.channelPrefix = found.channelPrefix
  there : origin.subscriber? number = some joined
  covers : ∀ channel, channel ∈ joined.channels ∨
    channel ∈ host.desk.due (tickers.map found.marketChannel) ↔ channel ∈ channels
  known : dropped ≠ [] -> channels ⊆ joined.channels
  /-- What came before the present run has been dispatched in those before it. -/
  steps : ∃ queue heard earlier later, events = earlier ++ later ∧
    dropped.flatMap dispatchedOf = (Bus.received number earlier).filterMap
      (Callback.ofMessage? found.responseChannel?) ∧
    Station.Steps strategy number ⟨.untouched host queue, origin⟩ heard occurrences later station

namespace Turn

variable {strategy : Strategy Memory} {number : Nat} {tickers channels : List String}
  {found : Desk} {dropped : List (List Occurrence)} {occurrences : List Occurrence}
  {events : List Bus.Event} {station : Station Memory} {host : Host Memory} {origin : Local}
  {joined : Subscriber}

theorem responseChannel (turn : Turn strategy number tickers channels found dropped occurrences
    events station host origin joined) : host.desk.responseChannel? = found.responseChannel? := by
  rw [Desk.responseChannel?, Desk.responseChannel?, turn.sender]

/-- What has been subscribed to and what the present run has still to subscribe to are channels for
which there is a turn, and once it waits for a message it has subscribed to all of them. -/
theorem subscribes (asks : AsksAtInit strategy tickers) {run : Run Memory} {between : Local}
    (turn : Turn strategy number tickers channels found dropped occurrences events
      ⟨.begun run, between⟩ host origin joined) :
    run.outstanding ⊆ channels ∧ ∃ now, between.subscriber? number = some now ∧
      (dropped ≠ [] -> channels ⊆ now.channels) ∧
      (run.call? = some .receive -> ∀ channel, channel ∈ now.channels ↔ channel ∈ channels) := by
  obtain ⟨sender, channelPrefix, there, same, known, queue, heard, earlier, later, -, -, steps⟩ :=
    turn
  have asked : requestsOf host.desk.channelPrefix occurrences =
      tickers.map found.marketChannel := by
    rw [requestsOf_eq_map, asks.tickersOf_steps steps.undertaking, channelPrefix]
    rfl
  have tracks := (steps.tracked there).tracks
  obtain ⟨now, present, has⟩ := steps.channels there
  have balance := tracks.balance
  rw [asked] at balance
  refine ⟨?_, now, present, ?_, ?_⟩
  · intro channel member
    apply (same channel).mp
    rw [← balance]
    simp [member]
  · intro later channel member
    exact (has channel).mpr (.inl (known later member))
  · intro waits channel
    have phase := Run.phase_of_receive waits
    have nothing := steps.requested_eq rfl (by simp [phase, Phase.hasAsked])
    rw [has, tracks.subscribed_eq waits nothing, asked]
    exact same channel

/-- A step of the present run. -/
theorem step {more : List Occurrence} {further : List Bus.Event} {next : Station Memory}
    {answers : List Answer}
    (turn : Turn strategy number tickers channels found dropped occurrences events station host
      origin joined) (transition : Station.Step strategy number station answers more further next) :
    Turn strategy number tickers channels found dropped (occurrences ++ more) (events ++ further)
      next host origin joined := by
  obtain ⟨sender, channelPrefix, there, covers, known, queue, heard, earlier, later, rfl, before,
    steps⟩ := turn
  exact ⟨sender, channelPrefix, there, covers, known, queue, _, earlier, _,
    List.append_assoc .., before, steps.step transition⟩

/-- What all the runs have dispatched is what the subscriber has received. -/
theorem dispatched (turn : Turn strategy number tickers channels found dropped occurrences events
    station host origin joined) :
    (dropped ++ [occurrences]).flatMap dispatchedOf =
      (Bus.received number events).filterMap (Callback.ofMessage? found.responseChannel?) := by
  have responseChannel := turn.responseChannel
  obtain ⟨-, -, -, -, -, queue, heard, earlier, later, rfl, before, steps⟩ := turn
  have now := steps.undertaking.dispatchedOf_eq
  rw [responseChannel, steps.messagesOf_eq] at now
  simp [before, now, Bus.received_append]

/-- Wherever the present run is dropped, or if it has ended by then, it has had its first callback
at its beginning, its last at its end, and in between only those for messages. -/
theorem callbacksOf_cancel {run : Run Memory} {between : Local}
    (turn : Turn strategy number tickers channels found dropped occurrences events
      ⟨.begun run, between⟩ host origin joined) :
    let story := occurrences ++ (run.cancel strategy).2
    callbacksOf story = .init :: dispatchedOf story ++ [.exit] := by
  obtain ⟨_, _, _, _, -, -, steps⟩ := turn.steps
  have called := steps.undertaking.accounts.dispatchedOf_eq.2
  have last : run.farewell ++ callbacksOf (run.cancel strategy).2 = [.exit] ∧
      dispatchedOf (run.cancel strategy).2 = [] := by
    cases phase : run.phase with
    | finished ending => simp [Run.farewell, Run.call?, Run.cancel, phase, dispatchedOf]
    | _ => simp [Run.farewell, Run.call?, Run.cancel, phase, dispatchedOf, Callback.isForMessage]
  simp only [callbacksOf_append, dispatchedOf_append, called, last.2, List.append_nil]
  rw [List.append_assoc, last.1]

/-- The next run finds what the present one leaves when it is dropped. -/
theorem again (asks : AsksAtInit strategy tickers) {run : Run Memory} {between : Local}
    (turn : Turn strategy number tickers channels found dropped occurrences events
      ⟨.begun run, between⟩ host origin joined) (waits : run.call? = some .receive)
    (queue : Queue) :
    ∃ now, Turn strategy number tickers channels found
      (dropped ++ [occurrences ++ (run.cancel strategy).2]) [] events
      ⟨.untouched (run.cancel strategy).1.host queue, between⟩ (run.cancel strategy).1.host between
      now := by
  obtain ⟨-, now, present, -, subscribed⟩ := turn.subscribes asks
  obtain ⟨desk, last⟩ := asks.cancel_of_receive waits
  have dispatched := turn.dispatched
  have responseChannel := turn.responseChannel
  obtain ⟨sender, channelPrefix, there, covers, -, _, heard, earlier, later, -, -, steps⟩ := turn
  have tracks := (steps.tracked there).tracks
  have nothing := steps.requested_eq rfl (by simp [Run.phase_of_receive waits, Phase.hasAsked])
  refine ⟨now, ?_, ?_, present, ?_, ?_, queue, [], events, [], (List.append_nil _).symm, ?_, .refl⟩
  · rw [desk, tracks.sender, sender]
  · rw [desk, tracks.channelPrefix, channelPrefix]
  · -- The response channel and the tickers were due before.
    have still : run.host.desk.due (tickers.map found.marketChannel) ⊆
        host.desk.due (tickers.map found.marketChannel) := by
      intro channel member
      simp only [Desk.due, nothing, Desk.responseChannel?, tracks.sender, List.append_nil,
        List.mem_append] at member ⊢
      exact member.imp_left .inl
    intro channel
    rw [desk, subscribed waits]
    exact ⟨fun member => member.elim id fun due => (covers channel).mp (.inr (still due)), .inl⟩
  · exact fun _ channel member => (subscribed waits channel).mpr member
  · have silent : dispatchedOf (run.cancel strategy).2 = [] := by
      simp [dispatchedOf, last, Callback.isForMessage]
    rw [← dispatched]
    simp [silent]

end Turn

namespace Sittings

variable {strategy : Strategy Memory} {number : Nat} {tickers : List String} {found : Host Memory}
  {bus : Local} {base : Subscriber} {dropped : List (List Occurrence)}
  {occurrences : List Occurrence} {events : List Bus.Event} {station : Station Memory}

/-- The channels that the subscriber is on after the first subscriptions. -/
abbrev channels (tickers : List String) (found : Desk) (base : Subscriber) : List String :=
  base.channels ++ found.due (tickers.map found.marketChannel)

/-- One of the runs in turn is the present one. -/
theorem turn (sittings : Sittings strategy number found bus dropped occurrences events station)
    (asks : AsksAtInit strategy tickers) (there : bus.subscriber? number = some base) :
    ∃ host origin joined, Turn strategy number tickers (channels tickers found.desk base)
      found.desk dropped occurrences events station host origin joined := by
  induction sittings with
  | first queue =>
    refine ⟨found, bus, base, rfl, rfl, there, fun _ => List.mem_append.symm, ?_, queue, [], [], [],
      rfl, rfl, .refl⟩
    simp
  | step _ transition inductionHypothesis =>
    obtain ⟨host, origin, joined, turn⟩ := inductionHypothesis
    exact ⟨host, origin, joined, turn.step transition⟩
  | again _ waits queue inductionHypothesis =>
    obtain ⟨host, origin, joined, turn⟩ := inductionHypothesis
    obtain ⟨now, next⟩ := turn.again asks waits queue
    exact ⟨_, _, now, next⟩

/-- What runs in turn do with the bus, which is never to make the subscriber leave. -/
theorem bus_steps
    (sittings : Sittings strategy number found bus dropped occurrences events station) :
    Local.Steps bus events station.bus ∧
      ∀ event ∈ events, event.action ≠ .dropSubscriber number := by
  induction sittings with
  | first queue => exact ⟨.refl, by simp⟩
  | step _ transition inductionHypothesis =>
    obtain ⟨before, stays⟩ := inductionHypothesis
    obtain ⟨after, remains⟩ := transition.bus before
    exact ⟨after, List.forall_mem_append.mpr ⟨stays, remains⟩⟩
  | again _ _ _ inductionHypothesis => exact inductionHypothesis

/-- Each run that is dropped has had its first callback at its beginning, its last at its end, and
in between only those for messages. -/
theorem callbacksOf_eq (sittings : Sittings strategy number found bus dropped occurrences events
    station) (asks : AsksAtInit strategy tickers) (there : bus.subscriber? number = some base) :
    ∀ story ∈ dropped, callbacksOf story = .init :: dispatchedOf story ++ [.exit] := by
  induction sittings with
  | first queue => simp
  | step _ _ inductionHypothesis => exact inductionHypothesis
  | again prior _ _ inductionHypothesis =>
    obtain ⟨host, origin, joined, turn⟩ := prior.turn asks there
    intro story member
    rcases List.mem_append.mp member with before | now
    · exact inductionHypothesis story before
    · rw [List.mem_singleton.mp now]
      exact turn.callbacksOf_cancel

/-- If nothing is lost, what is unread at first and what is published is received or unread. -/
theorem conserves (sittings : Sittings strategy number found bus dropped occurrences events station)
    (asks : AsksAtInit strategy tickers) (there : bus.subscriber? number = some base)
    (nothing : Bus.lost number events = 0) :
    ∃ now, station.bus.subscriber? number = some now ∧
      Bus.received number events ++ onChannels (channels tickers found.desk base) now.unread =
        onChannels (channels tickers found.desk base) (base.unread ++ Bus.published events) := by
  induction sittings with
  | first queue => exact ⟨base, there, by simp [Bus.received, Bus.replies, Bus.published]⟩
  | @step dropped occurrences more events further station next answers prior transition
      inductionHypothesis =>
    rw [Bus.lost_append] at nothing
    obtain ⟨now, present, balance⟩ := inductionHypothesis (by omega)
    obtain ⟨rfl, same, -⟩ | ⟨action, rfl, after, -, waits⟩ := transition.action_cases
    · rw [same, List.append_nil]
      exact ⟨now, present, balance⟩
    · obtain ⟨steps, stays⟩ := (prior.step transition).bus_steps
      obtain ⟨later, remains, -⟩ := steps.channels there stays
      refine ⟨later, remains, ?_⟩
      rw [after] at remains
      have same : action = .receive number -> ∀ channel,
          channel ∈ now.channels ↔ channel ∈ channels tickers found.desk base := by
        intro asked
        obtain ⟨run, begun, receives⟩ := waits asked
        obtain ⟨undertaking, between⟩ := station
        obtain rfl : undertaking = .begun run := begun
        obtain ⟨host, origin, joined, turn⟩ := prior.turn asks there
        obtain ⟨-, reader, reads, -, subscribed⟩ := turn.subscribes asks
        obtain rfl : reader = now := Option.some.inj (reads.symm.trans present)
        exact subscribed receives
      have moves := Local.onChannels_after present remains (by omega) same
      rw [Bus.received_append, List.append_assoc, moves, Bus.onChannels_append,
        ← List.append_assoc, balance, ← Bus.onChannels_append, Bus.published_append,
        List.append_assoc]
  | again _ _ _ inductionHypothesis => exact inductionHypothesis nothing

end Sittings

/-- Where a run is that nobody drops while the present one of runs in turn is where it is: they are
the same as long as none has been dropped. Later the one that nobody drops waits for a message, and
both end together. -/
inductive Meanwhile :
    List (List Occurrence) -> Undertaking Memory -> Undertaking Memory -> Prop where
  | first (undertaking : Undertaking Memory) : Meanwhile [] undertaking undertaking
  | waits {dropped : List (List Occurrence)} {present : Undertaking Memory} {run : Run Memory}
      (later : dropped ≠ []) (waits : run.call? = some .receive)
      (goesOn : ∀ now, present = .begun now -> now.call?.isSome) :
      Meanwhile dropped present (.begun run)
  | ended {dropped : List (List Occurrence)} {now run : Run Memory} (ends : now.call? = none)
      (alsoEnds : run.call? = none) : Meanwhile dropped (.begun now) (.begun run)

/-- A run that is told that there is nothing more has ended. -/
theorem Run.call?_hear_closed {run : Run Memory} (strategy : Strategy Memory)
    (waits : run.call? = some .receive) :
    (run.hear strategy (.offered (.delivery .closed))).1.call? = none := by
  obtain ⟨entries, ends⟩ := run.received_last strategy none (Run.phase_of_receive waits)
  have same : run.hear strategy (.offered (.delivery .closed)) = _ := ends
  rw [same]
  rfl

/-- With each step of the present run the one that nobody drops does the same with the bus, or both
leave the bus as it is. -/
theorem Meanwhile.step {strategy : Strategy Memory} {tickers : List String} {number : Nat}
    {dropped : List (List Occurrence)} {station next : Station Memory}
    {undertaking : Undertaking Memory} {answers : List Answer} {more : List Occurrence}
    {further : List Bus.Event} (meanwhile : Meanwhile dropped station.undertaking undertaking)
    (asks : AsksAtInit strategy tickers)
    (requested : ∀ run, undertaking = .begun run -> run.call? = some .receive ->
      run.host.desk.requested = [])
    (known : dropped ≠ [] -> ∀ run channels, station.undertaking = .begun run ->
      run.call? = some (.subscribe channels) ->
        ∃ now, station.bus.subscriber? number = some now ∧ channels ⊆ now.channels)
    (transition : Station.Step strategy number station answers more further next) :
    ∃ after, Meanwhile dropped next.undertaking after ∧
      ((after = undertaking ∧ next.bus = station.bus ∧ Bus.published further = [] ∧
          Bus.lost number further = 0) ∨
        ∃ heard whole, Station.Step strategy number ⟨undertaking, station.bus⟩ heard whole further
          ⟨after, next.bus⟩) := by
  obtain ⟨present, bus⟩ := station
  cases meanwhile with
  | first => exact ⟨_, .first _, .inr ⟨_, _, transition⟩⟩
  | @waits _ _ run later receives goesOn =>
    cases transition with
    | begin =>
      refine ⟨_, .waits later receives ?_, .inl ⟨rfl, rfl, rfl, rfl⟩⟩
      rintro _ ⟨⟩
      exact Change.isSome_call?_subscribeResponses _
    | @subscribe now _ channels subscribes =>
      obtain ⟨reader, there, has⟩ := known later now channels rfl subscribes
      refine ⟨_, .waits later receives ?_, .inl ⟨rfl, ?_, rfl, ?_⟩⟩
      · rintro _ ⟨⟩
        exact Run.isSome_call?_subscribed subscribes
      · exact Local.after_subscribe_of_subset there has
      · simp [Bus.lost, Bus.replies, Local.reply?_of_ne]
    | @receive now _ receipt receivesToo told =>
      refine ⟨_, ?_, .inr ⟨_, _, .receive receives told⟩⟩
      cases receipt with
      | message message =>
        refine .waits later (asks.call?_hear receives (requested run rfl receives) message) ?_
        rintro _ ⟨⟩
        exact Run.isSome_call?_received receivesToo
      | pending =>
        refine .waits later receives ?_
        rintro _ ⟨⟩
        exact Option.isSome_of_mem receivesToo
      | closed =>
        exact .ended (Run.call?_hear_closed strategy receivesToo)
          (Run.call?_hear_closed strategy receives)
    | queue queue =>
      refine ⟨_, .waits later receives ?_, .inl ⟨rfl, rfl, rfl, rfl⟩⟩
      cases present with
      | untouched => simp [Undertaking.withQueue]
      | begun now =>
        rintro _ ⟨⟩
        exact goesOn now rfl
    | others action foreign =>
      exact ⟨_, .waits later receives goesOn, .inr ⟨_, _, .others action foreign⟩⟩
  | @ended _ now run ends alsoEnds =>
    cases transition with
    | subscribe waits => simp [ends] at waits
    | receive waits => simp [ends] at waits
    | queue queue => exact ⟨_, .ended ends alsoEnds, .inl ⟨rfl, rfl, rfl, rfl⟩⟩
    | others action foreign =>
      exact ⟨_, .ended ends alsoEnds, .inr ⟨_, _, .others action foreign⟩⟩

namespace Sittings

variable {strategy : Strategy Memory} {number : Nat} {tickers : List String} {found : Host Memory}
  {bus : Local} {base : Subscriber} {dropped : List (List Occurrence)}
  {occurrences : List Occurrence} {events : List Bus.Event} {station : Station Memory}

/-- A run that nobody drops can have the same messages to read at the same times. -/
theorem exists_uninterrupted
    (sittings : Sittings strategy number found bus dropped occurrences events station)
    (asks : AsksAtInit strategy tickers) (there : bus.subscriber? number = some base) :
    ∃ queue heard whole wholeEvents undertaking,
      Station.Steps strategy number ⟨.untouched found queue, bus⟩ heard whole wholeEvents
        ⟨undertaking, station.bus⟩ ∧
      Bus.published wholeEvents = Bus.published events ∧
      Bus.lost number wholeEvents = Bus.lost number events ∧
      Meanwhile dropped station.undertaking undertaking := by
  induction sittings with
  | first queue => exact ⟨queue, [], [], [], _, .refl, rfl, rfl, .first _⟩
  | @step dropped occurrences more events further station next answers prior transition
      inductionHypothesis =>
    obtain ⟨queue, heard, whole, wholeEvents, undertaking, steps, published, lost, meanwhile⟩ :=
      inductionHypothesis
    have requested (run : Run Memory) (begun : undertaking = .begun run)
        (waits : run.call? = some .receive) : run.host.desk.requested = [] :=
      steps.requested_eq begun (by simp [Run.phase_of_receive waits, Phase.hasAsked])
    have known (later : dropped ≠ []) (run : Run Memory) (channels : List String)
        (begun : station.undertaking = .begun run)
        (subscribes : run.call? = some (.subscribe channels)) :
        ∃ now, station.bus.subscriber? number = some now ∧ channels ⊆ now.channels := by
      obtain ⟨present, between⟩ := station
      obtain rfl : present = .begun run := begun
      obtain ⟨host, origin, joined, turn⟩ := prior.turn asks there
      obtain ⟨within, now, reads, has, -⟩ := turn.subscribes asks
      have outstanding : run.outstanding = channels := by simp [Run.outstanding, subscribes]
      exact ⟨now, reads, List.Subset.trans (outstanding ▸ within) (has later)⟩
    obtain ⟨after, still, ⟨rfl, same, nothing, noLoss⟩ | ⟨answers, told, goesOn⟩⟩ :=
      meanwhile.step asks requested known transition
    · refine ⟨queue, heard, whole, wholeEvents, _, same ▸ steps, ?_, ?_, still⟩
      · rw [published, Bus.published_append, nothing, List.append_nil]
      · rw [lost, Bus.lost_append, noLoss, Nat.add_zero]
    · refine ⟨queue, _, _, _, after, steps.step goesOn, ?_, ?_, still⟩
      · rw [Bus.published_append, Bus.published_append, published]
      · rw [Bus.lost_append, Bus.lost_append, lost]
  | again prior waits next inductionHypothesis =>
    obtain ⟨queue, heard, whole, wholeEvents, undertaking, steps, published, lost, meanwhile⟩ :=
      inductionHypothesis
    refine ⟨queue, heard, whole, wholeEvents, undertaking, steps, published, lost, ?_⟩
    cases meanwhile with
    | first => exact .waits (by simp) waits (by simp)
    | waits _ receives _ => exact .waits (by simp) receives (by simp)
    | ended ends _ => simp [ends] at waits

/-- What has been dispatched in all runs and what is still unread is what was unread at first and
what has been published since, on the channels of the subscriber. -/
theorem dispatched_eq
    (sittings : Sittings strategy number found bus dropped occurrences events station)
    (asks : AsksAtInit strategy tickers) (there : bus.subscriber? number = some base)
    (inTime : bus.IsInTime number events) {now : Subscriber}
    (present : station.bus.subscriber? number = some now) :
    (dropped ++ [occurrences]).flatMap dispatchedOf ++
        (onChannels (channels tickers found.desk base) now.unread).filterMap
          (Callback.ofMessage? found.desk.responseChannel?) =
      (onChannels (channels tickers found.desk base)
        (base.unread ++ Bus.published events)).filterMap
          (Callback.ofMessage? found.desk.responseChannel?) := by
  obtain ⟨host, origin, joined, turn⟩ := sittings.turn asks there
  obtain ⟨reader, reads, balance⟩ :=
    sittings.conserves asks there (sittings.bus_steps.1.isInTime_iff.mp inTime)
  obtain rfl : reader = now := Option.some.inj (reads.symm.trans present)
  rw [turn.dispatched, ← List.filterMap_append, balance]

end Sittings

/-- What can be relied on about runs in turn of a strategy that asks for these tickers. The first of
them has found this host, and this subscriber on this bus. -/
structure Resumption (strategy : Strategy Memory) (number : Nat) (tickers : List String)
    (found : Host Memory) (bus : Local) (base : Subscriber) (dropped : List (List Occurrence))
    (occurrences : List Occurrence) (events : List Bus.Event) (station : Station Memory) :
    Prop where
  /-- Each run that has been dropped has had its first callback at its beginning, its last at its
  end, and in between only those for messages. -/
  before : ∀ story ∈ dropped, callbacksOf story = .init :: dispatchedOf story ++ [.exit]
  /-- So has the present one, wherever it is dropped, or if it has ended by itself. -/
  present : ∀ run, station.undertaking = .begun run ->
    let story := occurrences ++ (run.cancel strategy).2
    callbacksOf story = .init :: dispatchedOf story ++ [.exit]
  /-- Every message on a channel that is subscribed to and that is for a callback has been
  dispatched once, in the order in which they are published, or is still unread. -/
  dispatched : ∃ now, station.bus.subscriber? number = some now ∧
    (dropped ++ [occurrences]).flatMap dispatchedOf ++
        (onChannels (Sittings.channels tickers found.desk base) now.unread).filterMap
          (Callback.ofMessage? found.desk.responseChannel?) =
      (onChannels (Sittings.channels tickers found.desk base)
        (base.unread ++ Bus.published events)).filterMap
          (Callback.ofMessage? found.desk.responseChannel?)
  /-- One run could have done the same that nobody drops: with the same publications it is where the
  bus is the same, it has been in time as well, and has dispatched the same. -/
  uninterrupted : ∃ queue heard whole wholeEvents undertaking,
    Station.Steps strategy number ⟨.untouched found queue, bus⟩ heard whole wholeEvents
      ⟨undertaking, station.bus⟩ ∧
    Meanwhile dropped station.undertaking undertaking ∧
    Bus.published wholeEvents = Bus.published events ∧ bus.IsInTime number wholeEvents ∧
    dispatchedOf whole = (dropped ++ [occurrences]).flatMap dispatchedOf
  /-- Whatever else such a run does and whenever it reads, if it has been in time and the same is
  left to read on the channels, then it has dispatched the same. -/
  alike : ∀ queue heard whole wholeEvents last now reader,
    Station.Steps strategy number ⟨.untouched found queue, bus⟩ heard whole wholeEvents last ->
      bus.IsInTime number wholeEvents -> Bus.published wholeEvents = Bus.published events ->
        station.bus.subscriber? number = some now -> last.bus.subscriber? number = some reader ->
          onChannels (Sittings.channels tickers found.desk base) reader.unread =
              onChannels (Sittings.channels tickers found.desk base) now.unread ->
            dispatchedOf whole = (dropped ++ [occurrences]).flatMap dispatchedOf

/-- Nothing is lost by dropping runs that wait for a message and beginning again, as long as the
subscriber is in time. -/
theorem resumption_of_sittings {strategy : Strategy Memory} {number : Nat} {tickers : List String}
    {found : Host Memory} {bus : Local} {base : Subscriber} {dropped : List (List Occurrence)}
    {occurrences : List Occurrence} {events : List Bus.Event} {station : Station Memory}
    (asks : AsksAtInit strategy tickers) (there : bus.subscriber? number = some base)
    (sittings : Sittings strategy number found bus dropped occurrences events station)
    (inTime : bus.IsInTime number events) :
    Resumption strategy number tickers found bus base dropped occurrences events station := by
  obtain ⟨host, origin, joined, turn⟩ := sittings.turn asks there
  obtain ⟨now, present, -⟩ := sittings.bus_steps.1.channels there sittings.bus_steps.2
  have dispatched := sittings.dispatched_eq asks there inTime present
  have alike {queue : Queue} {heard : List Answer} {whole : List Occurrence}
      {wholeEvents : List Bus.Event} {last : Station Memory} {reader : Subscriber}
      (steps : Station.Steps strategy number ⟨.untouched found queue, bus⟩ heard whole wholeEvents
        last)
      (wholeInTime : bus.IsInTime number wholeEvents)
      (published : Bus.published wholeEvents = Bus.published events)
      (reads : last.bus.subscriber? number = some reader)
      (left : onChannels (Sittings.channels tickers found.desk base) reader.unread =
        onChannels (Sittings.channels tickers found.desk base) now.unread) :
      dispatchedOf whole = (dropped ++ [occurrences]).flatMap dispatchedOf := by
    have alone := steps.sittings.dispatched_eq asks there wholeInTime reads
    rw [published, left, ← dispatched] at alone
    simpa using List.append_cancel_right alone
  refine ⟨sittings.callbacksOf_eq asks there, ?_, ⟨now, present, dispatched⟩, ?_, ?_⟩
  · intro run begun
    obtain ⟨undertaking, between⟩ := station
    obtain rfl : undertaking = .begun run := begun
    exact turn.callbacksOf_cancel
  · obtain ⟨queue, heard, whole, wholeEvents, undertaking, steps, published, lost, meanwhile⟩ :=
      sittings.exists_uninterrupted asks there
    have wholeInTime : bus.IsInTime number wholeEvents := by
      rw [steps.bus.1.isInTime_iff, lost]
      exact sittings.bus_steps.1.isInTime_iff.mp inTime
    exact ⟨queue, heard, whole, wholeEvents, undertaking, steps, meanwhile, published, wholeInTime,
      alike steps wholeInTime published present rfl⟩
  · intro queue heard whole wholeEvents last other reader steps wholeInTime published reads
      alsoReads left
    obtain rfl : other = now := Option.some.inj (reads.symm.trans present)
    exact alike steps wholeInTime published alsoReads left

/-- A tick that comes after the watched one. -/
def laterTick : Market.Tick := { Host.watchedTick with volume := 8 }

/-- Two ticks are published while a watcher waits. It is dropped after the first, and the next run
has the second. -/
theorem resumption_of_sittings_watching : ∃ dropped occurrences events station,
    AsksAtInit (Watch.strategy ["IF2309"]) ["IF2309"] ∧
    Station.tickBus.subscriber? 0 = some .fresh ∧
    Sittings (Watch.strategy ["IF2309"]) 0 Host.watching Station.tickBus dropped occurrences events
      station ∧
    Station.tickBus.IsInTime 0 events ∧
    Resumption (Watch.strategy ["IF2309"]) 0 ["IF2309"] Host.watching Station.tickBus .fresh dropped
      occurrences events station ∧
    dropped.map callbacksOf = [[.init, .tick Host.watchedTick, .exit]] ∧
    callbacksOf occurrences = [.init, .tick laterTick] := by
  let strategy := Watch.strategy ["IF2309"]
  let ok : Answer := .subscribed (.ok ())
  let queue : Queue := ⟨1, [], true⟩
  let tick : Message := ⟨"md.IF2309", Host.watchedTick.encode⟩
  let other : Message := ⟨"md.IF2309", laterTick.encode⟩
  -- The first run takes one tick of two.
  let begun := (Host.watching.start strategy queue).1
  let asking := (begun.hear strategy ok).1
  let waiting := (asking.hear strategy ok).1
  let ticked := (waiting.hear strategy (.bringing tick)).1
  let joined := (Station.tickBus.after (.subscribe 0 ["grid"])).after (.subscribe 0 ["md.IF2309"])
  let ready := (joined.after (.publish 0 tick)).after (.publish 0 other)
  have responses : begun.call? = some (.subscribe ["grid"]) := by decide +kernel
  have initial : asking.call? = some (.subscribe ["md.IF2309"]) := by decide +kernel
  have receives : waiting.call? = some .receive := by decide +kernel
  have told : (ready.perform (.receive 0)).1 = .received (.message tick) := by decide +kernel
  have goesOn : ticked.call? = some .receive := by decide +kernel
  have starts : Sittings strategy 0 Host.watching Station.tickBus [] _ _
      ⟨.begun begun, Station.tickBus⟩ := .step (.first queue) .begin
  have waits := (((starts.step (.subscribe responses)).step (.subscribe initial)).step
    (.others (.publish 0 tick) trivial)).step (.others (.publish 0 other) trivial)
  have once := (waits.step (.receive receives told)).again goesOn queue
  -- The second run takes the other.
  let left := (ticked.cancel strategy).1.host
  let again := (left.start strategy queue).1
  let resuming := (again.hear strategy ok).1
  let resumed := (resuming.hear strategy ok).1
  let rest := ready.after (.receive 0)
  have responsesAgain : again.call? = some (.subscribe ["grid"]) := by decide +kernel
  have tickersAgain : resuming.call? = some (.subscribe ["md.IF2309"]) := by decide +kernel
  have receivesAgain : resumed.call? = some .receive := by decide +kernel
  have toldAgain : (rest.perform (.receive 0)).1 = .received (.message other) := by decide +kernel
  have unmoved :
      (rest.after (.subscribe 0 ["grid"])).after (.subscribe 0 ["md.IF2309"]) = rest := by
    decide +kernel
  have resumes := ((once.step .begin).step (.subscribe responsesAgain)).step
    (.subscribe tickersAgain)
  rw [unmoved] at resumes
  have twice := resumes.step (.receive receivesAgain toldAgain)
  have inTime : Station.tickBus.IsInTime 0 _ :=
    twice.bus_steps.1.isInTime_iff.mpr (by decide +kernel)
  have asks := Watch.asksAtInit ["IF2309"]
  refine ⟨_, _, _, _, asks, rfl, twice, inTime,
    resumption_of_sittings asks rfl twice inTime, ?_, ?_⟩
  · decide +kernel
  · decide +kernel

end StrategyHost.Strategy
