import StrategyHost.Proofs.Strategy.Lifecycle

/-!
# What a run makes of the messages that it has heard

Whatever a run is answered, and wherever it stops, its counts and the callbacks that it has
called are those of the messages among the answers (`Undertaking.Steps.accounts`). Unlike the
fold over callbacks this needs no subscription to succeed and no feed to end.
-/

namespace StrategyHost.Strategy

open StrategyHost.Bus (Message)
open StrategyHost.Outbound (Queue)

variable {Memory : Type}

/-- The answer that brings a message. -/
def Answer.bringing (message : Message) : Answer :=
  .offered (.delivery (.message message))

/-- The messages among answers. -/
def messagesOf (answers : List Answer) : List Message :=
  answers.filterMap fun
    | .offered (.delivery (.message message)) => some message
    | _ => none

@[simp] theorem messagesOf_append (first second : List Answer) :
    messagesOf (first ++ second) = messagesOf first ++ messagesOf second :=
  List.filterMap_append

/-- What a message can be read for is a callback for messages. -/
theorem Callback.isForMessage_of_mem {responseChannel? : Option String} {messages : List Message}
    {callback : Callback} (member : callback ∈ messages.filterMap (ofMessage? responseChannel?)) :
    callback.isForMessage = true := by
  obtain ⟨message, _, readable⟩ := List.mem_filterMap.mp member
  obtain ⟨tick, rfl⟩ | ⟨response, rfl⟩ := ofMessage?_cases readable
  · rfl
  · rfl

/-- Whether a run waits for something that comes after the strategy's own subscriptions. -/
def Phase.hasAsked : Phase -> Bool
  | .subscribing _ _ | .receiving => true
  | .subscribingResponses _ | .finished _ => false

/-- The last callback of a run, once it has ended. -/
def Run.farewell (run : Run Memory) : List Callback :=
  if run.call?.isSome then [] else [.exit]

/-- What a run has counted and called by the time it has heard these answers. -/
structure Run.Accounts (responseChannel? : Option String) (heard : List Answer)
    (occurrences : List Occurrence) (run : Run Memory) : Prop where
  responseChannel : run.host.desk.responseChannel? = responseChannel?
  counts : run.counts = .ofMessages responseChannel? (messagesOf heard)
  called : callbacksOf occurrences =
    .init :: (messagesOf heard).filterMap (Callback.ofMessage? responseChannel?) ++ run.farewell
  /-- What the strategy asks for is subscribed to before a message is. -/
  requested : run.phase.hasAsked = true -> run.host.desk.requested = []
  completed : forall counts, run.ending? = some (.completed counts) -> counts = run.counts

/-- What a change of a run adds to its counts and callbacks for these messages. -/
structure Change.Adds (change : Change Memory) (run : Run Memory) (messages : List Message) :
    Prop where
  responseChannel : (change run).1.host.desk.responseChannel? = run.host.desk.responseChannel?
  counts : (change run).1.counts =
    run.counts.plus (.ofMessages run.host.desk.responseChannel? messages)
  called : callbacksOf (change run).2 =
    messages.filterMap (Callback.ofMessage? run.host.desk.responseChannel?)
      ++ (change run).1.farewell
  requested : (change run).1.phase.hasAsked = true -> (change run).1.host.desk.requested = []
  completed : forall counts, (change run).1.ending? = some (.completed counts) ->
    counts = (change run).1.counts

namespace Change

variable {strategy : Strategy Memory} {run : Run Memory}

/-- A call leaves the response channel as it is. -/
@[simp] theorem responseChannel?_call (strategy : Strategy Memory) (callback : Callback)
    (run : Run Memory) :
    (call strategy callback run).1.host.desk.responseChannel? =
      run.host.desk.responseChannel? := by
  simp [call, Desk.responseChannel?]

/-- Only what a change makes of the run matters. -/
theorem Adds.congr {change other : Change Memory} {messages : List Message}
    (same : change run = other run) (adds : other.Adds run messages) :
    change.Adds run messages := by
  obtain ⟨responseChannel, counts, called, requested, completed⟩ := adds
  rw [← same] at responseChannel counts called requested completed
  exact ⟨responseChannel, counts, called, requested, completed⟩

/-- What is written to the log beforehand adds nothing. -/
theorem Adds.logged {change other : Change Memory} {messages : List Message}
    {entries : List Journal.Entry}
    (same : change run = ((other run).1, entries.map .logged ++ (other run).2))
    (adds : other.Adds run messages) : change.Adds run messages := by
  have called : callbacksOf (change run).2 = callbacksOf (other run).2 := by
    rw [same, callbacksOf_append, callbacksOf_map_logged, List.nil_append]
  have left : (change run).1 = (other run).1 := by rw [same]
  constructor
  all_goals rw [left]
  · exact adds.responseChannel
  · exact adds.counts
  · exact called.trans adds.called
  · exact adds.requested
  · exact adds.completed

/-- A run that ends says so to its strategy. -/
theorem adds_finish {ending : Ending}
    (completed : forall counts, ending = .completed counts -> counts = run.counts) :
    (finish strategy ending).Adds run [] where
  responseChannel := responseChannel?_call strategy .exit run
  counts := (Counts.plus_zero run.counts).symm
  called := callbacksOf_finish strategy ending run
  requested := by simp [phase_finish, Phase.hasAsked]
  completed counts ended := completed counts (Option.some.inj ended)

/-- On the way to a message a run calls nothing. -/
theorem adds_receive (isReceiving : Bool) (requested : run.host.desk.requested = []) :
    (receive isReceiving).Adds run [] where
  responseChannel := by cases isReceiving <;> rfl
  counts := (counts_receive isReceiving run).trans (Counts.plus_zero run.counts).symm
  called := by
    rw [callbacksOf_receive, Run.farewell, if_pos (isSome_call?_receive isReceiving run)]
    rfl
  requested _ := by
    cases isReceiving
    · exact requested
    · exact requested
  completed := by simp [Run.ending?, phase_receive]

theorem adds_subscribeRequested (isReceiving : Bool) (run : Run Memory) :
    (subscribeRequested isReceiving).Adds run [] := by
  cases requested : run.host.desk.requested with
  | nil =>
    have changes : subscribeRequested isReceiving run = receive isReceiving run := by
      simp [subscribeRequested, requested]
    exact .congr changes (adds_receive isReceiving requested)
  | cons channel channels =>
    have changes : subscribeRequested isReceiving run =
        ({ run with
            host := { run.host with desk := run.host.desk.cleared }
            phase := .subscribing (channel :: channels) isReceiving },
          [.logged (.subscribing (channel :: channels)), .asked (channel :: channels)]) := by
      simp [subscribeRequested, requested]
    constructor
    all_goals rw [changes]
    · rfl
    · exact (Counts.plus_zero run.counts).symm
    · rfl
    · exact fun _ => rfl
    · simp [Run.ending?]

theorem adds_subscribeResponses (run : Run Memory) :
    subscribeResponses.Adds run [] := by
  cases responseChannel : run.host.desk.responseChannel? with
  | none =>
    have changes : subscribeResponses run = subscribeRequested false run := by
      simp [subscribeResponses, responseChannel]
    exact .congr changes (adds_subscribeRequested false run)
  | some channel =>
    have changes : subscribeResponses run =
        ({ run with phase := .subscribingResponses channel }, [.asked [channel]]) := by
      simp [subscribeResponses, responseChannel]
    constructor
    all_goals rw [changes]
    · exact (Counts.plus_zero run.counts).symm
    · rfl
    · simp [Phase.hasAsked]
    · simp [Run.ending?]

/-- A message is counted, and called for if it can be read. -/
theorem adds_message (strategy : Strategy Memory) (message : Message) :
    ((dispatch strategy message).andThen (subscribeRequested true)).Adds run [message] := by
  have one : Counts.ofMessages run.host.desk.responseChannel? [message] =
      .one (Callback.ofMessage? run.host.desk.responseChannel? message) := by
    rw [Counts.ofMessages_cons]
    exact Counts.plus_zero _
  have dispatched : (dispatch strategy message run).1.host.desk.responseChannel? =
        run.host.desk.responseChannel? ∧
      (dispatch strategy message run).1.counts =
        run.counts.plus (.ofMessages run.host.desk.responseChannel? [message]) ∧
      callbacksOf (dispatch strategy message run).2 =
        [message].filterMap (Callback.ofMessage? run.host.desk.responseChannel?) := by
    rw [one]
    cases readable : Callback.ofMessage? run.host.desk.responseChannel? message with
    | none =>
      obtain ⟨entry, skipped⟩ := dispatch_unreadable strategy readable
      rw [skipped, List.filterMap_cons_none readable]
      exact ⟨rfl, rfl, rfl⟩
    | some callback =>
      rw [dispatch_readable readable, List.filterMap_cons_some readable]
      exact ⟨by simp, rfl, by simp⟩
  obtain ⟨responseChannel, counts, called⟩ := dispatched
  have after := adds_subscribeRequested true (dispatch strategy message run).1
  constructor
  · exact after.responseChannel.trans responseChannel
  · exact after.counts.trans ((Counts.plus_zero _).trans counts)
  · rw [andThen, callbacksOf_append, called, after.called]
    rfl
  · exact after.requested
  · exact after.completed

end Change

namespace Run

variable {strategy : Strategy Memory} {run : Run Memory}

/-- An answer adds the message that it may bring. -/
theorem adds_hear {call : Call} {answer : Answer} (waits : run.call? = some call)
    (fits : answer.Fits call)
    (requested : run.phase.hasAsked = true -> run.host.desk.requested = []) :
    (hear strategy answer).Adds run (messagesOf [answer]) := by
  have fails (failure : Failure) : (Change.finish strategy (.failed failure)).Adds run [] :=
    Change.adds_finish (by simp)
  cases phase : run.phase with
  | subscribingResponses channel =>
    obtain rfl : .subscribe [channel] = call := by simpa [call?, phase] using waits
    obtain ⟨result, rfl⟩ := fits.subscribed
    cases result with
    | ok done =>
      refine .congr ?_ (Change.adds_subscribeRequested false run)
      simp [hear, subscribed, phase]
    | error failure =>
      refine .congr ?_ (fails failure)
      simp [hear, subscribed, phase]
  | subscribing channels isReceiving =>
    obtain rfl : .subscribe channels = call := by simpa [call?, phase] using waits
    obtain ⟨result, rfl⟩ := fits.subscribed
    cases result with
    | ok done =>
      have taken : run.host.desk.requested = [] := requested (by simp [phase, Phase.hasAsked])
      refine .congr ?_ (Change.adds_receive isReceiving taken)
      simp [hear, subscribed, phase]
    | error failure =>
      refine .congr ?_ (fails failure)
      simp [hear, subscribed, phase]
  | receiving =>
    obtain rfl : .receive = call := by simpa [call?, phase] using waits
    obtain ⟨offer, rfl⟩ := fits.offered
    cases offer with
    | waiting =>
      refine ⟨rfl, (Counts.plus_zero run.counts).symm, ?_, requested, ?_⟩
      · simp [hear, messagesOf, farewell, call?, phase]
      · simp [hear, ending?, phase]
    | delivery delivery =>
      cases delivery with
      | message message =>
        refine .congr ?_ (Change.adds_message strategy message)
        simp [hear, received, phase]
      | closed =>
        obtain ⟨entries, ends⟩ := received_last strategy none phase
        exact .logged ends (Change.adds_finish (by simp [Ending.ofLast]))
      | failed failure =>
        obtain ⟨entries, ends⟩ := received_last strategy (some failure) phase
        exact .logged ends (Change.adds_finish (by simp [Ending.ofLast]))
  | finished ending => simp [call?, phase] at waits

/-- What an answer adds is accounted for with the answer. -/
theorem Accounts.hear {responseChannel? : Option String} {heard : List Answer}
    {occurrences : List Occurrence} {call : Call} {answer : Answer}
    (accounts : run.Accounts responseChannel? heard occurrences) (waits : run.call? = some call)
    (fits : answer.Fits call) :
    (Run.hear strategy answer run).1.Accounts responseChannel? (heard ++ [answer])
      (occurrences ++ (Run.hear strategy answer run).2) := by
  have adds : (Run.hear strategy answer).Adds run (messagesOf [answer]) :=
    adds_hear waits fits accounts.requested
  -- A run that still waits has not said farewell, so more callbacks can follow.
  have waiting : run.farewell = [] := by simp [farewell, waits]
  obtain ⟨responseChannel, counts, called, _, _⟩ := accounts
  constructor
  · exact adds.responseChannel.trans responseChannel
  · rw [adds.counts, counts, responseChannel, messagesOf_append, Counts.ofMessages_append]
  · rw [callbacksOf_append, called, waiting, adds.called, responseChannel, messagesOf_append,
      List.filterMap_append]
    simp
  · exact adds.requested
  · exact adds.completed

/-- A message adds its callback, if it is for one, between those of the messages before and
after it, and to the counts of these what a message for this callback counts. -/
theorem Accounts.of_split {responseChannel? : Option String} {heard : List Answer}
    {occurrences : List Occurrence} {before after : List Message} {message : Message}
    (accounts : run.Accounts responseChannel? heard occurrences)
    (received : messagesOf heard = before ++ message :: after) :
    callbacksOf occurrences =
        .init :: before.filterMap (Callback.ofMessage? responseChannel?)
          ++ (Callback.ofMessage? responseChannel? message).toList
          ++ after.filterMap (Callback.ofMessage? responseChannel?) ++ run.farewell ∧
      run.counts = (Counts.ofMessages responseChannel? (before ++ after)).plus
        (.one (Callback.ofMessage? responseChannel? message)) := by
  constructor
  · rw [accounts.called, received, List.filterMap_append]
    cases readable : Callback.ofMessage? responseChannel? message with
    | none => simp [List.filterMap_cons_none readable]
    | some callback => simp [List.filterMap_cons_some readable]
  · rw [accounts.counts, received, Counts.ofMessages_append, Counts.ofMessages_cons,
      Counts.ofMessages_append, Counts.plus_assoc, Counts.plus_comm (.one _)]

/-- Others may use the queue. -/
theorem Accounts.withQueue {responseChannel? : Option String} {heard : List Answer}
    {occurrences : List Occurrence}
    (accounts : run.Accounts responseChannel? heard occurrences) (queue : Queue) :
    { run with queue := queue }.Accounts responseChannel? heard occurrences :=
  ⟨accounts.responseChannel, accounts.counts, accounts.called, accounts.requested,
    accounts.completed⟩

end Run

/-- A run begins with its first callback, before it has heard anything. -/
theorem Host.accounts_start (strategy : Strategy Memory) (host : Host Memory) (queue : Queue) :
    (host.start strategy queue).1.Accounts host.desk.responseChannel? []
      (host.start strategy queue).2 := by
  let entered := (Change.enter .init ⟨host, queue, ⟨0, 0, 0⟩, .receiving⟩ : Run Memory × _)
  let called := Change.call strategy .init entered.1
  have started : host.start strategy queue =
      ((Change.subscribeResponses called.1).1,
        (entered.2 ++ called.2) ++ (Change.subscribeResponses called.1).2) := by
    simp [start, Change.andThen, entered, called]
  have adds : Change.subscribeResponses.Adds called.1 [] := Change.adds_subscribeResponses called.1
  rw [started]
  constructor
  · exact adds.responseChannel.trans (Change.responseChannel?_call strategy .init entered.1)
  · exact adds.counts.trans (Counts.zero_plus _)
  · have first : callbacksOf (entered.2 ++ called.2) = [.init] := Change.callbacksOf_call ..
    rw [callbacksOf_append, first, adds.called]
    rfl
  · exact adds.requested
  · exact adds.completed

namespace Undertaking

/-- What an undertaking has heard and done is accounted for, once it has begun. -/
inductive Accounted (found : Host Memory) : List Answer -> List Occurrence ->
    Undertaking Memory -> Prop where
  | untouched (queue : Queue) : Accounted found [] [] (.untouched found queue)
  | begun {heard : List Answer} {occurrences : List Occurrence} {run : Run Memory}
      (accounts : run.Accounts found.desk.responseChannel? heard occurrences) :
      Accounted found heard occurrences (.begun run)

variable {strategy : Strategy Memory} {found : Host Memory}

/-- Every step is accounted for. -/
theorem Accounted.step {heard answers : List Answer} {occurrences more : List Occurrence}
    {undertaking next : Undertaking Memory}
    (accounted : Accounted found heard occurrences undertaking)
    (transition : Step strategy undertaking answers more next) :
    Accounted found (heard ++ answers) (occurrences ++ more) next := by
  cases transition with
  | begin =>
    cases accounted with
    | untouched => exact .begun (Host.accounts_start strategy found _)
  | hear waits fits =>
    cases accounted with
    | begun accounts => exact .begun (accounts.hear waits fits)
  | others queue =>
    rw [List.append_nil, List.append_nil]
    cases accounted with
    | untouched => exact .untouched queue
    | begun accounts => exact .begun (accounts.withQueue queue)

/-- All the steps are accounted for. -/
theorem Steps.accounted {queue : Queue} {heard : List Answer} {occurrences : List Occurrence}
    {undertaking : Undertaking Memory}
    (steps : Steps strategy (.untouched found queue) heard occurrences undertaking) :
    Accounted found heard occurrences undertaking := by
  induction steps with
  | refl => exact .untouched queue
  | step _ transition inductionHypothesis => exact inductionHypothesis.step transition

/-- Whatever a run hears, its counts and callbacks are those of the messages. -/
theorem Steps.accounts {queue : Queue} {heard : List Answer} {occurrences : List Occurrence}
    {run : Run Memory}
    (steps : Steps strategy (.untouched found queue) heard occurrences (.begun run)) :
    run.Accounts found.desk.responseChannel? heard occurrences := by
  cases steps.accounted with
  | begun accounts => exact accounts

/-- To follow a run over a feed is one of the ways that its steps may go, apart from what the feed
writes to the log. -/
theorem Steps.follow {State : Type} {first : Undertaking Memory} {heard : List Answer}
    {occurrences : List Occurrence} {run : Run Memory}
    (steps : Steps strategy first heard occurrences (.begun run)) (feed : Feed State)
    (state : State) :
    ∃ more, Steps strategy first (heard ++ run.answers strategy feed state) (occurrences ++ more)
        (.begun (run.follow strategy feed state).run) ∧
      deedsOf more = deedsOf (run.follow strategy feed state).occurrences := by
  fun_induction Run.answers strategy feed state run generalizing heard occurrences with
  | case1 state run ends =>
    rw [Run.follow_of_finished ends]
    refine ⟨[], ?_, rfl⟩
    rwa [List.append_nil, List.append_nil]
  | case2 state run channels waits answer =>
    rename_i inductionHypothesis
    obtain ⟨more, goesOn, deeds⟩ :=
      inductionHypothesis (steps.hear (.subscribed answer.1) waits trivial)
    rw [Run.follow_of_subscribe waits]
    rw [List.append_assoc, List.append_assoc] at goesOn
    exact ⟨_, goesOn, by simp [Followed.after, deeds, Run.hear, answer]⟩
  | case3 state run waits nothing =>
    rw [Run.follow_of_waiting waits nothing]
    exact ⟨[], steps.hear (.offered .waiting) waits trivial, (deedsOf_map_logged _).symm⟩
  | case4 state run waits delivery delivered =>
    rename_i inductionHypothesis
    obtain ⟨more, goesOn, deeds⟩ :=
      inductionHypothesis (steps.hear (.offered (.delivery delivery)) waits trivial)
    rw [Run.follow_of_delivery waits delivered]
    rw [List.append_assoc, List.append_assoc] at goesOn
    exact ⟨_, goesOn, by simp [Followed.after, deeds, Run.hear]⟩

/-- A host that watches a ticker waits for messages once its two subscriptions have
succeeded. -/
theorem steps_watching :
    exists occurrences run,
      Steps (Watch.strategy ["IF2309"]) (.untouched Host.watching ⟨1, [], true⟩)
          [.subscribed (.ok ()), .subscribed (.ok ())] occurrences (.begun run) ∧
        run.call? = some .receive ∧ run.counts = ⟨0, 0, 0⟩ := by
  let strategy := Watch.strategy ["IF2309"]
  let begun := (Host.watching.start strategy ⟨1, [], true⟩).1
  let asking := (begun.hear strategy (.subscribed (.ok ()))).1
  let receiving := (asking.hear strategy (.subscribed (.ok ()))).1
  have waitsForResponses : begun.call? = some (.subscribe ["grid"]) := by decide +kernel
  have waitsForTickers : asking.call? = some (.subscribe ["md.IF2309"]) := by decide +kernel
  have waitsForMessage : receiving.call? = some .receive := by decide +kernel
  have starts : Steps strategy (.untouched Host.watching ⟨1, [], true⟩) [] _ (.begun begun) :=
    .step .refl .begin
  have asks := starts.hear (.subscribed (.ok ())) waitsForResponses trivial
  have receives := asks.hear (.subscribed (.ok ())) waitsForTickers trivial
  exact ⟨_, receiving, receives, waitsForMessage, by decide +kernel⟩

end Undertaking

end StrategyHost.Strategy
