import StrategyHost.Proofs.Strategy.Station
import StrategyHost.Strategy.Plan

/-!
# Subscriptions of a run

Each time when a run asks its bus for a message, its subscriber is on the channels that it came
with, on the response channel, and on the channels of the tickers that the strategy has asked
for by then, and on no others. What the strategy asks for in its last callback is left for the
next run.
-/

namespace StrategyHost.Strategy

open StrategyHost.Bus (Local Message Subscriber)
open StrategyHost.Outbound (Queue)

variable {Memory : Type}

/-- The channels that a run has to subscribe to that has found this desk, in this order, once its
strategy has asked for these. -/
def Desk.due (desk : Desk) (requests : List String) : List String :=
  desk.responseChannel?.toList ++ desk.requested ++ requests

/-- How a run stands by what it has subscribed to and what has happened. -/
structure Run.Tracks (found : Desk) (subscribed : List String) (occurrences : List Occurrence)
    (run : Run Memory) : Prop where
  sender : run.host.desk.sender = found.sender
  channelPrefix : run.host.desk.channelPrefix = found.channelPrefix
  balance : subscribed ++ run.outstanding ++ run.host.desk.requested =
    found.due (requestsOf found.channelPrefix occurrences)
  parts : run.call? = none -> Parts found.channelPrefix occurrences run.host.desk.requested

/-- A run that has just begun. -/
theorem Host.tracks_start (strategy : Strategy Memory) (host : Host Memory) (queue : Queue) :
    (host.start strategy queue).1.Tracks host.desk [] (host.start strategy queue).2 := by
  obtain ⟨sender, channelPrefix, balance⟩ := host.balances_start strategy queue
  refine ⟨sender, channelPrefix, balance, fun ends => ?_⟩
  have waits : (host.start strategy queue).1.call?.isSome :=
    Change.isSome_call?_subscribeResponses _
  simp [ends] at waits

namespace Run.Tracks

variable {strategy : Strategy Memory} {run : Run Memory} {found : Desk} {subscribed : List String}
  {occurrences : List Occurrence}

/-- A change that balances is on record, with what the run had been waiting to subscribe to. -/
theorem changed {change : Change Memory} (tracks : run.Tracks found subscribed occurrences)
    (balances : change.Balances [] run)
    (ends : (change run).1.call? = none ->
      Parts run.host.desk.channelPrefix (change run).2 (change run).1.host.desk.requested) :
    (change run).1.Tracks found (subscribed ++ run.outstanding) (occurrences ++ (change run).2) := by
  obtain ⟨sender, channelPrefix, balance, _⟩ := tracks
  obtain ⟨sameSender, samePrefix, after⟩ := balances
  rw [channelPrefix] at samePrefix after ends
  refine ⟨sameSender.trans sender, samePrefix, ?_, fun none => (ends none).after _⟩
  calc subscribed ++ run.outstanding ++ (change run).1.outstanding ++
        (change run).1.host.desk.requested
      = subscribed ++ run.outstanding ++ run.host.desk.requested ++
          requestsOf found.channelPrefix (change run).2 := by
        rw [List.append_assoc, after, List.nil_append, List.append_assoc (subscribed ++ _)]
    _ = found.due (requestsOf found.channelPrefix (occurrences ++ (change run).2)) := by
        rw [balance, requestsOf_append, Desk.due, Desk.due, List.append_assoc]

/-- A run that waits for a message has subscribed to all that it had to. -/
theorem subscribed_eq (tracks : run.Tracks found subscribed occurrences)
    (waits : run.call? = some .receive) (requested : run.host.desk.requested = []) :
    subscribed = found.due (requestsOf found.channelPrefix occurrences) := by
  have balance := tracks.balance
  simpa [outstanding, waits, requested] using balance

/-- A run that is dropped where nothing is outstanding. -/
theorem cancel (tracks : run.Tracks found subscribed occurrences)
    (idle : forall channels, run.call? ≠ some (.subscribe channels))
    (requested : run.phase.hasAsked = true -> run.host.desk.requested = []) :
    (run.cancel strategy).1.Tracks found subscribed (occurrences ++ (run.cancel strategy).2) ∧
      (run.cancel strategy).1.call? = none := by
  cases phase : run.phase with
  | subscribingResponses channel => exact absurd (by simp [call?, phase]) (idle [channel])
  | subscribing channels _ => exact absurd (by simp [call?, phase]) (idle channels)
  | finished ending =>
    have stays : run.cancel strategy = (run, []) := by simp [Run.cancel, phase]
    rw [stays, List.append_nil]
    exact ⟨tracks, by simp [call?, phase]⟩
  | receiving =>
    have ends : run.cancel strategy = Change.finish strategy .cancelled run := by
      simp [Run.cancel, phase]
    have none : run.outstanding = [] := by simp [outstanding, call?, phase]
    rw [ends]
    refine ⟨?_, by simp [call?, Change.phase_finish]⟩
    have after := tracks.changed (Change.balances_finish strategy .cancelled run) fun _ =>
      Change.parts_finish strategy .cancelled (requested (by simp [phase, Phase.hasAsked]))
    rwa [none, List.append_nil] at after

/-- When a run has ended it has subscribed to what was asked for before its last callback, and has
left what was asked for in it. -/
theorem ended (tracks : run.Tracks found subscribed occurrences) (ends : run.call? = none) :
    ∃ before during, occurrences = before ++ .called .exit :: during ∧ callbacksOf during = [] ∧
      subscribed = found.due (requestsOf found.channelPrefix before) ∧
      run.host.desk.requested = requestsOf found.channelPrefix during := by
  obtain ⟨before, during, rfl, quiet, left⟩ := tracks.parts ends
  refine ⟨before, during, rfl, quiet, ?_, left⟩
  have balance := tracks.balance
  rw [left] at balance
  simpa [outstanding, ends, Desk.due, ← List.append_assoc] using balance

end Run.Tracks

/-- An undertaking and what it has subscribed to, once it has begun. -/
inductive Undertaking.Tracked (found : Host Memory) :
    List String -> List Occurrence -> Undertaking Memory -> Prop where
  | untouched (queue : Queue) : Tracked found [] [] (.untouched found queue)
  | begun {run : Run Memory} {subscribed : List String} {occurrences : List Occurrence}
      (tracks : run.Tracks found.desk subscribed occurrences) :
      Tracked found subscribed occurrences (.begun run)

/-- A run that has begun is on record. -/
theorem Undertaking.Tracked.tracks {found : Host Memory} {subscribed : List String}
    {occurrences : List Occurrence} {run : Run Memory}
    (tracked : (Undertaking.begun run).Tracked found subscribed occurrences) :
    run.Tracks found.desk subscribed occurrences := by
  cases tracked with
  | begun tracks => exact tracks

namespace Station

variable {strategy : Strategy Memory} {number : Nat} {found : Host Memory} {queue : Queue}
  {bus : Local} {base : Subscriber} {heard : List Answer} {occurrences : List Occurrence}
  {events : List Bus.Event} {station : Station Memory}

/-- A run that asks for a message has nothing left at its desk. -/
theorem Steps.requested_eq {run : Run Memory}
    (steps : Steps strategy number ⟨.untouched found queue, bus⟩ heard occurrences events station)
    (begun : station.undertaking = .begun run) (asked : run.phase.hasAsked = true) :
    run.host.desk.requested = [] := by
  have undertaking := steps.undertaking
  rw [begun] at undertaking
  exact undertaking.accounts.requested asked

/-- Every step is on record. -/
theorem Step.tracked {next : Station Memory} {answers : List Answer} {more : List Occurrence}
    {further : List Bus.Event} {subscribed : List String} {now : Subscriber}
    (step : Step strategy number station answers more further next)
    (present : station.bus.subscriber? number = some now)
    (requested : ∀ run, station.undertaking = .begun run -> run.phase.hasAsked = true ->
      run.host.desk.requested = [])
    (tracked : station.undertaking.Tracked found subscribed occurrences) :
    next.undertaking.Tracked found (subscribed ++ Bus.requested number further)
      (occurrences ++ more) := by
  obtain ⟨undertaking, bus⟩ := station
  cases step with
  | begin =>
    cases tracked with
    | untouched => exact .begun (found.tracks_start strategy _)
  | @subscribe run _ channels waits =>
    cases tracked with
    | begun tracks =>
      -- A run does not end with a subscription, so the last callback is still to come.
      have goesOn : (run.hear strategy (.subscribed (.ok ()))).1.call?.isSome :=
        Run.isSome_call?_subscribed waits
      have asked : Bus.requested number [bus.event (.subscribe number channels)] =
          run.outstanding := by
        simp [Bus.requested, Local.event, Local.perform, present, Bus.Event.request,
          Run.outstanding, waits]
      rw [asked]
      refine .begun (tracks.changed (Run.balances_hear waits trivial) fun ends => ?_)
      simp [ends] at goesOn
  | @receive run _ receipt waits told =>
    cases tracked with
    | begun tracks =>
      have phase := Run.phase_of_receive waits
      have asked : Bus.requested number [bus.event (.receive number)] = run.outstanding := by
        simp [Bus.requested, Local.event, Bus.Event.request, Run.outstanding, waits]
      rw [asked]
      refine .begun (tracks.changed (Run.balances_hear waits trivial) fun ends => ?_)
      exact Run.parts_hear waits (requested run rfl (by simp [phase, Phase.hasAsked])) ends
  | queue queue =>
    have same : Bus.requested number [] = [] := rfl
    rw [same, List.append_nil, List.append_nil]
    cases tracked with
    | untouched => exact .untouched queue
    | begun tracks => exact .begun ⟨tracks.sender, tracks.channelPrefix, tracks.balance, tracks.parts⟩
  | others action foreign =>
    have asked : Bus.requested number [bus.event action] = [] := by
      simp [Bus.requested, (request_of_isForeign bus foreign).1]
    rwa [asked, List.append_nil, List.append_nil]

/-- All the steps are on record, and the subscriber has stayed. -/
theorem Steps.tracked (there : bus.subscriber? number = some base)
    (steps : Steps strategy number ⟨.untouched found queue, bus⟩ heard occurrences events station) :
    station.undertaking.Tracked found (Bus.requested number events) occurrences := by
  induction steps with
  | refl => exact .untouched queue
  | @step _ _ _ _ events further _ _ prior transition inductionHypothesis =>
    obtain ⟨now, present, _⟩ := prior.channels there
    have asked : Bus.requested number (events ++ further) =
        Bus.requested number events ++ Bus.requested number further := List.flatMap_append
    rw [asked]
    exact transition.tracked present (fun _ => prior.requested_eq) inductionHypothesis

/-- A run that is dropped where nothing is outstanding. -/
theorem Steps.tracks_cancel {run : Run Memory} (there : bus.subscriber? number = some base)
    (steps : Steps strategy number ⟨.untouched found queue, bus⟩ heard occurrences events station)
    (begun : station.undertaking = .begun run) (idle : station.IsIdle) :
    (run.cancel strategy).1.Tracks found.desk (Bus.requested number events)
        (occurrences ++ (run.cancel strategy).2) ∧
      (run.cancel strategy).1.call? = none := by
  have tracked := steps.tracked there
  rw [begun] at tracked
  exact tracked.tracks.cancel (fun channels => idle run channels begun) (steps.requested_eq begun)

/-- What a run that is dropped leaves at the desk, and what it has subscribed to, are the response
channel and what was at the desk or has been asked for. -/
theorem Steps.left (there : bus.subscriber? number = some base)
    (steps : Steps strategy number ⟨.untouched found queue, bus⟩ heard occurrences events station)
    (idle : station.IsIdle) :
    let (dropped, more) := station.undertaking.abandon strategy
    let requests := requestsOf found.desk.channelPrefix (occurrences ++ more)
    dropped.host.desk.sender = found.desk.sender ∧
      dropped.host.desk.channelPrefix = found.desk.channelPrefix ∧
      (∀ channel ∈ dropped.host.desk.requested, channel ∈ found.desk.requested ++ requests) ∧
      ∀ channel ∈ Bus.requested number events,
        found.desk.responseChannel? = some channel ∨ channel ∈ found.desk.requested ++ requests := by
  cases undertaking : station.undertaking with
  | untouched host queue =>
    have tracked := steps.tracked there
    rw [undertaking] at tracked
    generalize Bus.requested number events = subscribed at tracked ⊢
    cases tracked with
    | untouched => simp [Undertaking.abandon, Undertaking.host]
  | begun run =>
    obtain ⟨tracks, ends⟩ := steps.tracks_cancel there undertaking idle
    obtain ⟨before, during, same, _, subscribed, left⟩ := tracks.ended ends
    simp only [Undertaking.abandon, Undertaking.host]
    refine ⟨tracks.sender, tracks.channelPrefix, ?_, ?_⟩
    · intro channel member
      rw [left] at member
      simp [same, member]
    · intro channel member
      rw [subscribed] at member
      simp only [Desk.due, List.mem_append, Option.mem_toList] at member
      rw [same]
      simp only [requestsOf_append, List.mem_append]
      rcases member with (response | kept) | asked
      · exact .inl response
      · exact .inr (.inl kept)
      · exact .inr (.inr (.inl asked))

end Station

/-- The desk and the subscriber that a run finds after others on the same runtime. -/
theorem Runs.found {number : Nat} {desk left : Desk} {bus between : Local}
    {requests : List String} {first : Subscriber} (runs : Runs number desk bus requests left between)
    (there : bus.subscriber? number = some first) :
    left.sender = desk.sender ∧ left.channelPrefix = desk.channelPrefix ∧
      (∀ channel ∈ left.requested, channel ∈ desk.requested ++ requests) ∧
      ∃ base, between.subscriber? number = some base ∧
        ∀ channel ∈ base.channels, channel ∈ first.channels ∨
          desk.responseChannel? = some channel ∨ channel ∈ desk.requested ++ requests := by
  induction runs with
  | refl => exact ⟨rfl, rfl, by simp, first, there, fun _ member => .inl member⟩
  | @run _ strategy found queue _ occurrences events requests between station prior steps idle
      inductionHypothesis =>
    obtain ⟨sender, channelPrefix, kept, base, present, channels⟩ := inductionHypothesis
    obtain ⟨sameSender, samePrefix, keeps, subscribes⟩ := steps.left present idle
    obtain ⟨now, remains, has⟩ := steps.channels present
    rw [channelPrefix] at samePrefix keeps subscribes
    have hears : found.desk.responseChannel? = desk.responseChannel? := by
      rw [Desk.responseChannel?, Desk.responseChannel?, sender]
    -- What was at the desk that the run has found had been asked for before.
    have known {channel : String} (member : channel ∈ found.desk.requested ++
        requestsOf desk.channelPrefix (occurrences ++ (station.undertaking.abandon strategy).2)) :
        channel ∈ desk.requested ++ (requests ++ requestsOf desk.channelPrefix
          (occurrences ++ (station.undertaking.abandon strategy).2)) := by
      rw [← List.append_assoc, List.mem_append]
      exact (List.mem_append.mp member).imp_left (kept channel)
    refine ⟨sameSender.trans sender, samePrefix, fun channel member => known (keeps channel member),
      now, remains, ?_⟩
    intro channel member
    rcases (has channel).mp member with before | asked
    · rcases channels channel before with came | response | requested
      · exact .inl came
      · exact .inr (.inl response)
      · refine .inr (.inr ?_)
        rw [← List.append_assoc]
        exact List.mem_append_left _ requested
    · rcases subscribes channel asked with response | requested
      · exact .inr (.inl (hears ▸ response))
      · exact .inr (.inr (known requested))

/-- What can be relied on about the subscriptions of a run on a local bus. The run has found this
host and this subscriber, and these channels were known before. -/
structure Subscriptions (strategy : Strategy Memory) (number : Nat) (found : Host Memory)
    (base : Subscriber) (known : List String) (occurrences : List Occurrence)
    (events : List Bus.Event) (station : Station Memory) : Prop where
  /-- When the run asks for a message, all that was asked for has been subscribed to, in order and
  with all repetitions, and the subscriber is on no other channels than before. -/
  receives : ∀ run, station.undertaking = .begun run -> run.call? = some .receive ->
    run.host.desk.requested = [] ∧
      Bus.requested number events =
        found.desk.due (requestsOf found.desk.channelPrefix occurrences) ∧
      ∃ subscriber, station.bus.subscriber? number = some subscriber ∧
        ∀ channel, channel ∈ subscriber.channels ↔
          channel ∈ base.channels ∨ found.desk.responseChannel? = some channel ∨
            channel ∈ found.desk.requested ∨
            channel ∈ requestsOf found.desk.channelPrefix occurrences
  /-- What the last callback asks for is not subscribed to, and stays at the desk. -/
  ends : ∀ run, station.undertaking = .begun run -> station.IsIdle ->
    ∃ before during, occurrences ++ (run.cancel strategy).2 = before ++ .called .exit :: during ∧
      callbacksOf during = [] ∧
      Bus.requested number events =
        found.desk.due (requestsOf found.desk.channelPrefix before) ∧
      (run.cancel strategy).1.host.desk.requested =
        requestsOf found.desk.channelPrefix during
  /-- A message for which a callback is called is on the response channel, or on one that was
  known or has been asked for before the message is taken off the bus. -/
  heard : ∀ answers more further next,
    Station.Step strategy number station answers more further next ->
      ∀ callback ∈ callbacksOf more, callback.isForMessage = true ->
        ∃ message, answers = [.bringing message] ∧
          Callback.ofMessage? found.desk.responseChannel? message = some callback ∧
          (message.channel ∈ known ∨ found.desk.responseChannel? = some message.channel ∨
            message.channel ∈ requestsOf found.desk.channelPrefix occurrences)

namespace Station

variable {strategy : Strategy Memory} {number : Nat} {station next : Station Memory}
  {answers : List Answer} {more : List Occurrence} {further : List Bus.Event}

/-- A callback for a message is called when the bus has handed over the message. -/
theorem Step.exists_message {callback : Callback}
    (step : Step strategy number station answers more further next)
    (requested : ∀ run, station.undertaking = .begun run -> run.phase.hasAsked = true ->
      run.host.desk.requested = [])
    (called : callback ∈ callbacksOf more) (isForMessage : callback.isForMessage = true) :
    ∃ run message, station.undertaking = .begun run ∧ run.call? = some .receive ∧
      (station.bus.perform (.receive number)).1 = .received (.message message) ∧
      answers = [.bringing message] ∧
      Callback.ofMessage? run.host.desk.responseChannel? message = some callback := by
  have notLast (run : Run Memory) : callback ∉ run.farewell := by
    intro last
    unfold Run.farewell at last
    split at last
    · simp at last
    · rw [List.mem_singleton.mp last] at isForMessage
      simp [Callback.isForMessage] at isForMessage
  cases step with
  | @begin host queue bus =>
    rw [(host.accounts_start strategy queue).called] at called
    rcases List.mem_append.mp called with first | last
    · obtain rfl : callback = .init := by simpa [messagesOf] using first
      simp [Callback.isForMessage] at isForMessage
    · exact absurd last (notLast _)
  | @subscribe run bus channels waits =>
    have adds : (Run.hear strategy (.subscribed (.ok ()))).Adds run [] :=
      Run.adds_hear waits trivial (requested run rfl)
    rw [adds.called] at called
    exact absurd (by simpa [messagesOf] using called) (notLast _)
  | @receive run bus receipt waits told =>
    have adds : (Run.hear strategy (.offered (LocalFeed.offer receipt))).Adds run
        (messagesOf [.offered (LocalFeed.offer receipt)]) :=
      Run.adds_hear waits trivial (requested run rfl)
    rw [adds.called] at called
    rcases List.mem_append.mp called with heard | last
    · obtain ⟨message, brought, readable⟩ := List.mem_filterMap.mp heard
      cases receipt with
      | message received =>
        obtain rfl : message = received := by simpa [messagesOf, LocalFeed.offer] using brought
        exact ⟨run, message, rfl, waits, told, rfl, readable⟩
      | pending => simp [messagesOf, LocalFeed.offer] at brought
      | closed => simp [messagesOf, LocalFeed.offer] at brought
    · exact absurd last (notLast _)
  | queue => simp at called
  | others => simp at called

/-- Whatever runs there have been before, and whatever others do with the bus, a run on a local bus
is subscribed to what its strategy has asked for whenever it asks for a message. -/
theorem subscriptions_of_steps {desk : Desk} {origin bus : Local} {first : Subscriber}
    {requests : List String} {found : Host Memory} {queue : Queue} {heard : List Answer}
    {occurrences : List Occurrence} {events : List Bus.Event}
    (there : origin.subscriber? number = some first)
    (runs : Runs number desk origin requests found.desk bus)
    (steps : Steps strategy number ⟨.untouched found queue, bus⟩ heard occurrences events station) :
    ∃ base, bus.subscriber? number = some base ∧
      Subscriptions strategy number found base (first.channels ++ desk.requested ++ requests)
        occurrences events station := by
  obtain ⟨sender, channelPrefix, kept, base, present, came⟩ := runs.found there
  obtain ⟨subscriber, remains, channels⟩ := steps.channels present
  have tracked := steps.tracked present
  have subscribed {run : Run Memory} (begun : station.undertaking = .begun run)
      (waits : run.call? = some .receive) : run.host.desk.requested = [] ∧
        Bus.requested number events =
          found.desk.due (requestsOf found.desk.channelPrefix occurrences) := by
    have phase := Run.phase_of_receive waits
    have nothing := steps.requested_eq begun (by simp [phase, Phase.hasAsked])
    rw [begun] at tracked
    exact ⟨nothing, tracked.tracks.subscribed_eq waits nothing⟩
  refine ⟨base, present, ?_, ?_, ?_⟩
  · intro run begun waits
    obtain ⟨nothing, all⟩ := subscribed begun waits
    refine ⟨nothing, all, subscriber, remains, fun channel => ?_⟩
    rw [channels, all]
    simp [Desk.due]
  · intro run begun idle
    obtain ⟨tracks, ends⟩ := steps.tracks_cancel present begun idle
    exact tracks.ended ends
  · intro answers more further next step callback called isForMessage
    obtain ⟨run, message, begun, waits, told, brought, readable⟩ :=
      step.exists_message (fun _ => steps.requested_eq) called isForMessage
    have hears : run.host.desk.responseChannel? = found.desk.responseChannel? := by
      rw [begun] at tracked
      rw [Desk.responseChannel?, Desk.responseChannel?, tracked.tracks.sender]
    refine ⟨message, brought, hears ▸ readable, ?_⟩
    simp only [List.append_assoc, List.mem_append]
    rcases (channels _).mp (Local.channel_mem_of_received remains told) with before | asked
    · rcases came _ before with own | response | known
      · exact .inl (.inl own)
      · refine .inr (.inl ?_)
        rwa [Desk.responseChannel?, sender]
      · exact .inl (.inr (List.mem_append.mp known))
    · rw [(subscribed begun waits).2] at asked
      simp only [Desk.due, List.mem_append, Option.mem_toList] at asked
      rcases asked with (response | left) | now
      · exact .inr (.inl response)
      · exact .inl (.inr (List.mem_append.mp (kept _ left)))
      · exact .inr (.inr now)

/-- A strategy that asks for a ticker at the beginning, for another one with its first tick, and
for a third one at the end. -/
def askingPlan : Plan where
  atInit := [.subscribe ["IF2309"]]
  atExit := [.subscribe ["au2312"]]
  atTick := [[.subscribe ["rb2310"]]]
  atEveryTick := []
  atResponse := []
  atEveryResponse := []

/-- A bus with a publisher, and a subscriber that has just been created. -/
def tickBus : Local := ⟨4, 1, [true], [some .fresh]⟩

/-- That strategy is run until it has had one tick, and then again until it asks for a message. -/
theorem exists_runs_asking : ∃ (found : Host Plan.Progress) (requests : List String) (bus : Local)
    (heard : List Answer) (occurrences : List Occurrence) (events : List Bus.Event)
    (run : Run Plan.Progress) (last : Local),
    Runs 0 Host.watching.desk tickBus requests found.desk bus ∧
      Steps askingPlan.strategy 0 ⟨.untouched found ⟨1, [], true⟩, bus⟩ heard occurrences events
        ⟨.begun run, last⟩ ∧
      requests = ["md.IF2309", "md.rb2310", "md.au2312"] ∧
      run.call? = some .receive ∧
      found.desk.due (requestsOf found.desk.channelPrefix occurrences) =
        ["grid", "md.au2312", "md.IF2309"] := by
  let strategy := askingPlan.strategy
  let ok : Answer := .subscribed (.ok ())
  let tick : Message := ⟨"md.IF2309", Host.watchedTick.encode⟩
  let queue : Queue := ⟨1, [], true⟩
  -- The first run takes one tick.
  let found : Host Plan.Progress := ⟨.init, Host.watching.desk, ⟨0, 0⟩⟩
  let begun := (found.start strategy queue).1
  let asking := (begun.hear strategy ok).1
  let waiting := (asking.hear strategy ok).1
  let ticked := (waiting.hear strategy (.bringing tick)).1
  let ready := ((tickBus.after (.subscribe 0 ["grid"])).after (.subscribe 0 ["md.IF2309"])).after
    (.publish 0 tick)
  have responses : begun.call? = some (.subscribe ["grid"]) := by decide +kernel
  have initial : asking.call? = some (.subscribe ["md.IF2309"]) := by decide +kernel
  have receives : waiting.call? = some .receive := by decide +kernel
  have told : (ready.perform (.receive 0)).1 = .received (.message tick) := by decide +kernel
  have further : ticked.call? = some (.subscribe ["md.rb2310"]) := by decide +kernel
  have starts : Steps strategy 0 ⟨.untouched found queue, tickBus⟩ _ _ _ _ := .step .refl .begin
  have waits := ((starts.step (.subscribe responses)).step (.subscribe initial)).step
    (.others (.publish 0 tick) trivial)
  have takes := (waits.step (.receive receives told)).step (.subscribe further)
  have goesOn : (ticked.hear strategy ok).1.call? = some .receive := by decide +kernel
  have once := Runs.run .refl takes (isIdle_of_receive goesOn)
  -- The second run finds what the first has left.
  let left : Host Plan.Progress := ((ticked.hear strategy ok).1.cancel strategy).1.host
  let again := (left.start strategy queue).1
  let resuming := (again.hear strategy ok).1
  have responsesAgain : again.call? = some (.subscribe ["grid"]) := by decide +kernel
  have both : resuming.call? = some (.subscribe ["md.au2312", "md.IF2309"]) := by decide +kernel
  let between := (ready.after (.receive 0)).after (.subscribe 0 ["md.rb2310"])
  have restarts : Steps strategy 0 ⟨.untouched left queue, between⟩ _ _ _ ⟨.begun again, between⟩ :=
    .step .refl .begin
  have resumes := (restarts.step (.subscribe responsesAgain)).step (.subscribe both)
  refine ⟨left, _, between, _, _, _, _, _, once, resumes, ?_, ?_, ?_⟩
  · decide +kernel
  · decide +kernel
  · decide +kernel

/-- The second run subscribes first to the response channel, then to what the first one has asked
for at its end, and then to what it asks for itself. -/
theorem subscriptions_of_steps_asking : ∃ (found : Host Plan.Progress) (base : Subscriber)
    (occurrences : List Occurrence) (events : List Bus.Event) (run : Run Plan.Progress)
    (last : Local),
    Subscriptions askingPlan.strategy 0 found base ["md.IF2309", "md.rb2310", "md.au2312"]
        occurrences events ⟨.begun run, last⟩ ∧
      run.call? = some .receive ∧ run.host.desk.requested = [] ∧
      Bus.requested 0 events = ["grid", "md.au2312", "md.IF2309"] := by
  obtain ⟨found, requests, bus, heard, occurrences, events, run, last, runs, steps, rfl, waits,
    due⟩ := exists_runs_asking
  obtain ⟨base, _, subscriptions⟩ := subscriptions_of_steps rfl runs steps
  obtain ⟨nothing, subscribed, _⟩ := subscriptions.receives run rfl waits
  exact ⟨found, base, occurrences, events, run, last, subscriptions, waits, nothing,
    subscribed.trans due⟩

end Station

end StrategyHost.Strategy
