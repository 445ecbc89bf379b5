import StrategyHost.Proofs.Strategy.Dispatch
import StrategyHost.Strategy.Watch

/-!
# Runs from start to end

A run whose subscriptions succeed is the fold over the callbacks of the messages
that it hears, from initialising the strategy to telling it of the end, whether its
feed closes or fails. Messages that cannot be read leave only their number.
-/

namespace StrategyHost.Strategy

open StrategyHost.Bus (Message)
open StrategyHost.Market (Tick)
open StrategyHost.Outbound (Queue)
open StrategyHost.Trade (Response)

variable {Memory State : Type}

/-- What a feed has to offer that ends after these messages. -/
def offersUpTo (messages : List Message) (failure? : Option Failure) : List Offer :=
  (messages.map Delivery.message ++ [Delivery.last failure?]).map .delivery

theorem Run.phase_of_ending? {run : Run Memory} {ending : Ending}
    (ended : run.ending? = some ending) : run.phase = .finished ending := by
  unfold ending? at ended
  split at ended
  · simp_all
  · simp at ended

namespace Change

theorem isSome_call?_receive (isReceiving : Bool) (run : Run Memory) :
    (receive isReceiving run).1.call?.isSome := by
  cases isReceiving <;> rfl

theorem isSome_call?_subscribeRequested (isReceiving : Bool) (run : Run Memory) :
    (subscribeRequested isReceiving run).1.call?.isSome := by
  unfold subscribeRequested
  split
  · exact isSome_call?_receive isReceiving run
  · rfl

theorem isSome_call?_subscribeResponses (run : Run Memory) :
    (subscribeResponses run).1.call?.isSome := by
  unfold subscribeResponses
  split
  · exact isSome_call?_subscribeRequested false run
  · rfl

end Change

namespace Run

variable {strategy : Strategy Memory} {run : Run Memory}

theorem phase_of_receive (calls : run.call? = some .receive) : run.phase = .receiving := by
  unfold call? at calls
  split at calls <;> simp_all

/-- After a subscription that succeeds a run waits again. -/
theorem isSome_call?_subscribed {channels : List String}
    (calls : run.call? = some (.subscribe channels)) :
    (run.subscribed strategy (.ok ())).1.call?.isSome := by
  unfold call? at calls
  unfold subscribed
  cases phase : run.phase with
  | subscribingResponses channel => exact Change.isSome_call?_subscribeRequested false run
  | subscribing asked isReceiving => exact Change.isSome_call?_receive isReceiving run
  | receiving => simp [phase] at calls
  | finished ending => simp [phase] at calls

/-- After a message a run waits again. -/
theorem isSome_call?_received {message : Message} (calls : run.call? = some .receive) :
    (run.received strategy (.message message)).1.call?.isSome := by
  unfold received
  rw [phase_of_receive calls]
  exact Change.isSome_call?_subscribeRequested true _

/-- After the end of its feed a run asks for nothing. -/
theorem answers_received_last (feed : Feed State) (state : State) (failure? : Option Failure)
    (calls : run.call? = some .receive) :
    (run.received strategy (.last failure?)).1.answers strategy feed state = [] := by
  obtain ⟨entries, ends⟩ := received_last strategy failure? (phase_of_receive calls)
  have finished := Change.phase_finish strategy (.ofLast run.counts failure?) run
  rw [ends, answers_of_finished (by simp [call?, finished])]

/-- A run that waits asks until it hears of the end. -/
theorem offersOf_answers {feed : Feed State} {state : State} (messages : List Message)
    (failure? : Option Failure) (waits : run.call?.isSome)
    (succeeds : forall result, .subscribed result ∈ run.answers strategy feed state ->
      result = .ok ())
    (offers : offersOf (run.answers strategy feed state) <+: offersUpTo messages failure?) :
    offersOf (run.answers strategy feed state) = offersUpTo messages failure? := by
  fun_induction answers strategy feed state run generalizing messages with
  | case1 state run calls => simp [calls] at waits
  | case2 state run channels calls answer inductionHypothesis =>
    have ok : answer.1 = .ok () := succeeds answer.1 (by simp)
    have waitsNext : (run.subscribed strategy answer.1).1.call?.isSome := by
      rw [ok]
      exact isSome_call?_subscribed calls
    exact inductionHypothesis messages waitsNext
      (fun result later => succeeds result (by simp [later])) offers
  | case3 state run calls waiting =>
    -- A feed that still has its end to offer does not keep the run waiting.
    obtain ⟨delivery, rest, first⟩ := exists_cons_last messages failure?
    simp [offersOf, offersUpTo, first] at offers
  | case4 state run calls delivery delivered inductionHypothesis =>
    cases messages with
    | nil =>
      obtain ⟨isLast, _⟩ := List.cons_prefix_cons.mp offers
      obtain rfl : delivery = .last failure? := Offer.delivery.inj isLast
      rw [answers_received_last _ _ _ calls]
      rfl
    | cons message messages =>
      obtain ⟨isMessage, later⟩ := List.cons_prefix_cons.mp offers
      obtain rfl : delivery = .message message := Offer.delivery.inj isMessage
      have rest := inductionHypothesis messages (isSome_call?_received calls)
        (fun result member => succeeds result (by simp [member])) later
      exact congrArg (.delivery (.message message) :: ·) rest

/-- Without results that fail every subscription to a script succeeds. -/
theorem succeeds_of_script {script : Script} {result : Except Failure Unit}
    (results : script.results = [])
    (member : .subscribed result ∈ run.answers strategy Script.feed script) :
    result = .ok () := by
  fun_induction answers strategy Script.feed script run with
  | case1 => simp at member
  | case2 script run channels calls answer inductionHypothesis =>
    have same : answer = (.ok (), script, []) := by
      simp [answer, Script.feed, Script.subscribe, results]
    simp only [same] at member inductionHypothesis
    rcases List.mem_cons.mp member with first | later
    · simpa using first
    · exact inductionHypothesis results later
  | case3 => simp at member
  | case4 script run calls delivery delivered inductionHypothesis =>
    have kept : (Script.feed.next script).2.1.results = [] := by
      simp only [Script.feed, Script.next]
      split <;> simpa using results
    rcases List.mem_cons.mp member with first | later
    · simp at first
    · exact inductionHypothesis kept later

/-- A run asks a script for its messages in their order, and at most once for its end. -/
theorem offersOf_script {script : Script} (messages : List Message) (failure? : Option Failure)
    (deliveries : script.deliveries = messages.map .message ++ [.last failure?]) :
    offersOf (run.answers strategy Script.feed script) <+: offersUpTo messages failure? := by
  fun_induction answers strategy Script.feed script run generalizing messages with
  | case1 => exact List.nil_prefix
  | case2 script run channels calls answer inductionHypothesis =>
    have kept : answer.2.1.deliveries = script.deliveries := by
      simp only [answer, Script.feed, Script.subscribe]
      split <;> rfl
    exact inductionHypothesis messages (kept.trans deliveries)
  | case3 script run calls waits =>
    obtain ⟨delivery, rest, first⟩ := exists_cons_last messages failure?
    simp [Script.feed, Script.next, deliveries, first] at waits
  | case4 script run calls delivery delivered inductionHypothesis =>
    cases messages with
    | nil =>
      obtain rfl : .last failure? = delivery := by
        simpa [Script.feed, Script.next, deliveries] using delivered
      rw [answers_received_last _ _ _ calls]
      exact List.prefix_refl _
    | cons message messages =>
      obtain rfl : .message message = delivery := by
        simpa [Script.feed, Script.next, deliveries] using delivered
      have after : (Script.feed.next script).2.1.deliveries =
          messages.map .message ++ [.last failure?] := by
        simp [Script.feed, Script.next, deliveries]
      exact List.cons_prefix_cons.mpr ⟨rfl, inductionHypothesis messages after⟩

end Run

/-- The callbacks for messages, with the first and the last. -/
def Callback.forMessages (responseChannel? : Option String) (messages : List Message) :
    List Callback :=
  .init :: messages.filterMap (ofMessage? responseChannel?) ++ [.exit]

namespace Host

variable (strategy : Strategy Memory) (feed : Feed State) (state : State) (host : Host Memory)
  (queue : Queue)

/-- The answers that a run hears from its start. -/
def answers : List Answer :=
  (host.start strategy queue).1.answers strategy feed state

/-- What is to be told of a run from its start. -/
def story : Story Memory :=
  let started := host.start strategy queue
  (started.1.story strategy (host.answers strategy feed state queue)).following
    (host.scene queue) started.2

/-- In a run over a feed every subscription succeeds, and what the run is offered are these
messages, and then that the feed closes or fails, as far as it asks. -/
structure Hears (messages : List Message) (failure? : Option Failure) : Prop where
  succeeds : forall result, .subscribed result ∈ host.answers strategy feed state queue ->
    result = .ok ()
  offers : offersOf (host.answers strategy feed state queue) <+: offersUpTo messages failure?

end Host

namespace Host

variable {strategy : Strategy Memory} {feed : Feed State} {state : State} {host : Host Memory}
  {queue : Queue}

/-- A run begins with the first callback. -/
theorem story_begins {delivery : Delivery} {deliveries : List Delivery}
    (expects : (host.start strategy queue).1.Expects strategy
      (host.answers strategy feed state queue) (delivery :: deliveries)) :
    exists (arrived : Run Memory) (rest : List Answer),
      (host.story strategy feed state queue).Begins strategy (host.scene queue) .init
        arrived rest ∧
      arrived.counts = ⟨0, 0, 0⟩ ∧ arrived.Expects strategy rest (delivery :: deliveries) := by
  let entered := (Change.enter .init ⟨host, queue, ⟨0, 0, 0⟩, .receiving⟩ : Run Memory × _)
  let called := Change.call strategy .init entered.1
  have started : host.start strategy queue =
      ((Change.subscribeResponses called.1).1,
        (entered.2 ++ called.2) ++ (Change.subscribeResponses called.1).2) := by
    simp [start, Change.andThen, entered, called]
  rw [started] at expects
  obtain ⟨arrived, rest, arrives⟩ := Run.arrives_subscribeResponses expects
  refine ⟨arrived, rest, ⟨arrives.phase, arrives.scene, entered.2 ++ called.2, ?_, ?_, ?_⟩,
    arrives.counts, arrives.expects⟩
  · exact Change.callbacksOf_call ..
  · exact Change.deedsOf_call ..
  · rw [story, started,
      Story.following_append _ _ (Change.callbacksOf_subscribeResponses called.1), arrives.story]
    rfl

/-- A run is the fold over the callbacks of the messages that it hears. -/
theorem tells_of_hears {messages : List Message} {failure? : Option Failure}
    (hears : host.Hears strategy feed state queue messages failure?) :
    (host.story strategy feed state queue).Tells strategy (host.scene queue)
      (Callback.forMessages host.desk.responseChannel? messages)
      (.ofLast (.ofMessages host.desk.responseChannel? messages) failure?) := by
  have expects : (host.start strategy queue).1.Expects strategy
      (host.answers strategy feed state queue) (messages.map .message ++ [.last failure?]) :=
    ⟨Run.answered_answers strategy feed state _, hears.succeeds,
      Run.offersOf_answers messages failure? (Change.isSome_call?_subscribeResponses _)
        hears.succeeds hears.offers⟩
  obtain ⟨delivery, deliveries, first⟩ := Run.exists_cons_last messages failure?
  rw [first] at expects
  obtain ⟨arrived, rest, begins, counts, expected⟩ := story_begins expects
  have tells := Run.tells_of_receiving failure? messages begins.phase (begins.requested (by simp))
    (first ▸ expected)
  rw [begins.responseChannel?, counts, Counts.zero_plus] at tells
  exact begins.tells tells

/-- A run that has ended with its feed is what is told of it. -/
theorem run_eq_story {ending : Ending}
    (ended : (host.story strategy feed state queue).run.ending? = some ending) :
    (host.run strategy feed state queue).run = (host.story strategy feed state queue).run ∧
      deedsOf (host.run strategy feed state queue).occurrences =
        (host.story strategy feed state queue).deeds := by
  let started := host.start strategy queue
  obtain ⟨sameRun, sameDeeds⟩ := Run.follow_eq_story strategy feed state started.1
  have finished : (started.1.follow strategy feed state).run.phase = .finished ending := by
    rw [sameRun]
    exact Run.phase_of_ending? ended
  have kept : (started.1.follow strategy feed state).run.cancel strategy =
      ((started.1.follow strategy feed state).run, []) := by
    simp [Run.cancel, finished]
  constructor
  · exact (congrArg Prod.fst kept).trans sameRun
  · have occurrences : (host.run strategy feed state queue).occurrences =
        started.2 ++ (started.1.follow strategy feed state).occurrences := by
      have nothing := congrArg Prod.snd kept
      simpa [run, Followed.after, started] using nothing
    rw [occurrences, deedsOf_append, sameDeeds]
    rfl

/-- A script of messages and an end, without results that fail, is heard as it is. -/
theorem hears_script (strategy : Strategy Memory) (host : Host Memory) (queue : Queue)
    (messages : List Message) (failure? : Option Failure) (waitsAtEnd : Bool) :
    host.Hears strategy Script.feed
      ⟨[], messages.map .message ++ [.last failure?], waitsAtEnd⟩ queue messages failure? where
  succeeds _ member := Run.succeeds_of_script rfl member
  offers := Run.offersOf_script messages failure? rfl

end Host

/-- What a run over a feed has been: the fold over the callbacks of these messages. -/
structure Followed.Dispatches (followed : Followed Memory State)
    (seen : List (Callback × Scene Memory)) (strategy : Strategy Memory) (scene : Scene Memory)
    (messages : List Message) (failure? : Option Failure) : Prop where
  ending : followed.run.ending? =
    some (.ofLast (.ofMessages scene.desk.responseChannel? messages) failure?)
  called : callbacksOf followed.occurrences =
    Callback.forMessages scene.desk.responseChannel? messages
  seen : seen = scene.visits strategy (Callback.forMessages scene.desk.responseChannel? messages)
  deeds : deedsOf followed.occurrences =
    scene.deedsAll strategy (Callback.forMessages scene.desk.responseChannel? messages)
  left : followed.run.scene =
    scene.afterAll strategy (Callback.forMessages scene.desk.responseChannel? messages)

namespace Host

variable {strategy : Strategy Memory} {feed : Feed State} {state : State} {host : Host Memory}
  {queue : Queue}

/-- A run whose subscriptions succeed dispatches the messages that it hears. -/
theorem dispatches {messages : List Message} {failure? : Option Failure}
    (hears : host.Hears strategy feed state queue messages failure?) :
    (host.run strategy feed state queue).Dispatches (host.story strategy feed state queue).seen
      strategy (host.scene queue) messages failure? := by
  have tells := tells_of_hears hears
  obtain ⟨sameRun, sameDeeds⟩ := run_eq_story tells.ending
  have deeds := sameDeeds.trans tells.deeds
  have called := congrArg callbacksOf deeds
  rw [callbacksOf_deedsOf, Scene.callbacksOf_deedsAll] at called
  constructor
  · rw [sameRun]
    exact tells.ending
  · exact called
  · exact tells.seen
  · exact deeds
  · rw [sameRun]
    exact tells.left

/-- Every message that a run hears is dispatched once and counted once, and without the
messages that cannot be read nothing is different but their number. -/
theorem dispatch_of_hears {messages : List Message} {failure? : Option Failure}
    (hears : host.Hears strategy feed state queue messages failure?) :
    let followed := host.run strategy feed state queue
    let counts := Counts.ofMessages host.desk.responseChannel? messages
    followed.Dispatches (host.story strategy feed state queue).seen strategy (host.scene queue)
        messages failure? ∧
      counts.ticks + counts.responses + counts.faults = messages.length ∧
      forall {Other : Type} (other : Feed Other) (start : Other),
        host.Hears strategy other start queue
            (messages.filter (Callback.isReadable host.desk.responseChannel?)) failure? ->
          (host.run strategy other start queue).run.ending? =
              some (.ofLast { counts with faults := 0 } failure?) ∧
            (host.story strategy other start queue).seen =
              (host.story strategy feed state queue).seen ∧
            deedsOf (host.run strategy other start queue).occurrences =
              deedsOf followed.occurrences ∧
            (host.run strategy other start queue).run.scene = followed.run.scene := by
  intro followed counts
  have dispatched := dispatches hears
  refine ⟨dispatched, Counts.total_ofMessages _ messages, ?_⟩
  intro Other other start hearsReadable
  have readable := dispatches hearsReadable
  have sameCallbacks : Callback.forMessages host.desk.responseChannel?
      (messages.filter (Callback.isReadable host.desk.responseChannel?)) =
        Callback.forMessages host.desk.responseChannel? messages := by
    simp only [Callback.forMessages, Callback.filterMap_readable]
  refine ⟨?_, ?_, ?_, ?_⟩
  · exact readable.ending.trans (by rw [← Counts.ofMessages_readable]; rfl)
  · exact readable.seen.trans (by rw [dispatched.seen]; exact congrArg _ sameCallbacks)
  · exact readable.deeds.trans (by rw [dispatched.deeds]; exact congrArg _ sameCallbacks)
  · exact readable.left.trans (by rw [dispatched.left]; exact congrArg _ sameCallbacks)

/-- A host that watches one ticker. -/
def watching : Host Nat := ⟨.init, ⟨⟨"grid", .empty⟩, "md.", []⟩, 0⟩

/-- A tick of the watched ticker. -/
def watchedTick : Tick := ⟨1, 5, ⟨0⟩, 2, ⟨0⟩, 3, ⟨0⟩, 4, ⟨0⟩, ⟨0⟩⟩

/-- A rejection of one of the host's orders. -/
def watchedResponse : Response := ⟨7, 9, 1, .buy, .opening, 1, 0, 0, ⟨0⟩, 3, true⟩

/-- A tick, a payload that is none, and a response. -/
def watchedMessages : List Message :=
  [⟨"md.IF2309", watchedTick.encode⟩, ⟨"md.IF2309", [7]⟩, ⟨"grid", watchedResponse.encode⟩]

/-- Between the first callback and the last stand those for the tick and the response. -/
theorem dispatch_of_hears_watching :
    let strategy := Watch.strategy ["IF2309"]
    let script : Script := ⟨[], watchedMessages.map .message ++ [.closed], false⟩
    let queue : Queue := ⟨1, [], true⟩
    watching.Hears strategy Script.feed script queue watchedMessages none ∧
      (watching.run strategy Script.feed script queue).run.ending? =
        some (.completed ⟨1, 1, 1⟩) ∧
      callbacksOf (watching.run strategy Script.feed script queue).occurrences =
        [.init, .tick watchedTick, .response watchedResponse, .exit] ∧
      (watching.run strategy Script.feed script queue).run.scene.memory = 1 := by
  intro strategy script queue
  have hears : watching.Hears strategy Script.feed script queue watchedMessages none :=
    hears_script strategy watching queue watchedMessages none false
  have dispatched := (dispatch_of_hears hears).1
  have responses : (watching.scene queue).desk.responseChannel? = some "grid" := by
    decide +kernel
  have callbacks : Callback.forMessages (some "grid") watchedMessages =
      [.init, .tick watchedTick, .response watchedResponse, .exit] := by
    decide +kernel
  have counts : Counts.ofMessages (some "grid") watchedMessages = ⟨1, 1, 1⟩ := by
    decide +kernel
  obtain ⟨ending, called, seen, deeds, left⟩ := dispatched
  rw [responses] at ending called left
  rw [counts] at ending
  rw [callbacks] at called left
  exact ⟨hears, ending, called, by rw [left]; rfl⟩

end Host

end StrategyHost.Strategy
