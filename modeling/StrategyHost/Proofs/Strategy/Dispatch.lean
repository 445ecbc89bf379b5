import StrategyHost.Proofs.Strategy.Expected
import StrategyHost.Proofs.Strategy.Messages

/-!
# Dispatching messages

A run that hears messages calls its strategy once for each message that can be
read, in their order, and once more at the end.
`Run.tells_of_receiving` compares a run that waits for messages with the fold over
their callbacks.
-/

namespace StrategyHost.Strategy

open StrategyHost.Bus (Message)
open StrategyHost.Market (Tick)
open StrategyHost.Trade (Response)

variable {Memory : Type}

/-- How a feed ends: it closes, or fails. -/
def Delivery.last : Option Failure -> Delivery
  | none => .closed
  | some failure => .failed failure

/-- How a run ends with its feed. -/
def Ending.ofLast (counts : Counts) : Option Failure -> Ending
  | none => .completed counts
  | some failure => .failed failure

/-- What is told is the fold over these callbacks, and then the run has ended. -/
structure Story.Tells (story : Story Memory) (strategy : Strategy Memory) (scene : Scene Memory)
    (callbacks : List Callback) (ending : Ending) : Prop where
  seen : story.seen = scene.visits strategy callbacks
  deeds : story.deeds = scene.deedsAll strategy callbacks
  left : story.run.scene = scene.afterAll strategy callbacks
  ending : story.run.ending? = some ending

/-- What is told begins with one callback and its subscriptions, and goes on with what
a run makes of answers once it waits for a delivery. -/
structure Story.Begins (story : Story Memory) (strategy : Strategy Memory) (scene : Scene Memory)
    (callback : Callback) (arrived : Run Memory) (answers : List Answer) : Prop where
  phase : arrived.phase = .receiving
  left : arrived.scene = scene.after strategy callback
  told : exists occurrences, callbacksOf occurrences = [callback] ∧
    deedsOf occurrences =
      .called callback :: deedsOf (scene.outcome strategy callback).occurrences ∧
    story = ((arrived.story strategy answers).doing
      (Scene.subscriptions (scene.outcome strategy callback).desk callback)).following
        scene occurrences

/-- A callback comes before what is told of the scene that it leaves. -/
theorem Story.Begins.tells {story : Story Memory} {strategy : Strategy Memory}
    {scene : Scene Memory} {callback : Callback} {arrived : Run Memory} {answers : List Answer}
    {callbacks : List Callback} {ending : Ending}
    (begins : story.Begins strategy scene callback arrived answers)
    (tells : (arrived.story strategy answers).Tells strategy arrived.scene callbacks ending) :
    story.Tells strategy scene (callback :: callbacks) ending := by
  obtain ⟨occurrences, called, done, rfl⟩ := begins.told
  obtain ⟨seen, deeds, left, ending⟩ := tells
  rw [begins.left] at seen deeds left
  constructor
  · simp [following, doing, called, seen, Scene.visits]
  · simp [following, doing, done, deeds, Scene.deedsAll, Scene.visits, Scene.deeds]
  · exact left
  · exact ending

/-- After any callback but the last no channel is requested. -/
theorem Story.Begins.requested {story : Story Memory} {strategy : Strategy Memory}
    {scene : Scene Memory} {callback : Callback} {arrived : Run Memory} {answers : List Answer}
    (begins : story.Begins strategy scene callback arrived answers)
    (notExit : callback ≠ .exit) : arrived.host.desk.requested = [] :=
  (congrArg (·.desk.requested) begins.left).trans
    (Scene.requested_after strategy scene notExit)

/-- A callback leaves the response channel as it is. -/
theorem Story.Begins.responseChannel? {story : Story Memory} {strategy : Strategy Memory}
    {scene : Scene Memory} {callback : Callback} {arrived : Run Memory} {answers : List Answer}
    (begins : story.Begins strategy scene callback arrived answers) :
    arrived.host.desk.responseChannel? = scene.desk.responseChannel? := by
  have sender : arrived.host.desk.sender = scene.desk.sender :=
    (congrArg (·.desk.sender) begins.left).trans (Scene.sender_after strategy scene callback)
  rw [Desk.responseChannel?, sender]
  rfl

namespace Change

variable {strategy : Strategy Memory} {run : Run Memory} {message : Message}

/-- A message that can be read is counted, and its callback called. -/
theorem dispatch_readable {callback : Callback}
    (readable : Callback.ofMessage? run.host.desk.responseChannel? message = some callback) :
    dispatch strategy message run =
      call strategy callback { run with counts := run.counts.plus (.one (some callback)) } := by
  unfold Callback.ofMessage? at readable
  unfold dispatch classify
  by_cases isResponse : run.host.desk.responseChannel? = some message.channel
  · simp only [isResponse, if_true] at readable ⊢
    unfold takeResponse
    cases decoded : Response.decode message.payload with
    | error fault => simp [decoded, Except.toOption] at readable
    | ok response =>
      obtain rfl : Callback.response response = callback := by
        simpa [decoded, Except.toOption] using readable
      rfl
  · simp only [isResponse, if_false] at readable ⊢
    unfold takeTick
    cases decoded : Tick.decode message.payload with
    | error fault => simp [decoded, Except.toOption] at readable
    | ok tick =>
      obtain rfl : Callback.tick tick = callback := by
        simpa [decoded, Except.toOption] using readable
      rfl

/-- A message that cannot be read is counted and noted in the log. -/
theorem dispatch_unreadable (strategy : Strategy Memory)
    (unreadable : Callback.ofMessage? run.host.desk.responseChannel? message = none) :
    exists entry, dispatch strategy message run =
      ({ run with counts := run.counts.plus (.one none) }, [.logged entry]) := by
  unfold Callback.ofMessage? at unreadable
  unfold dispatch classify
  by_cases isResponse : run.host.desk.responseChannel? = some message.channel
  · simp only [isResponse, if_true] at unreadable ⊢
    unfold takeResponse
    cases decoded : Response.decode message.payload with
    | error fault => exact ⟨_, rfl⟩
    | ok response => simp [decoded, Except.toOption] at unreadable
  · simp only [isResponse, if_false] at unreadable ⊢
    unfold takeTick
    cases decoded : Tick.decode message.payload with
    | error fault => exact ⟨_, rfl⟩
    | ok tick => simp [decoded, Except.toOption] at unreadable

end Change

namespace Run

variable {strategy : Strategy Memory} {run : Run Memory} {answers : List Answer}

/-- At the end of its feed a run writes to the log, and finishes. -/
theorem received_last (strategy : Strategy Memory) (failure? : Option Failure)
    (phase : run.phase = .receiving) :
    exists entries : List Journal.Entry, run.received strategy (.last failure?) =
      ((Change.finish strategy (.ofLast run.counts failure?) run).1,
        entries.map .logged ++
          (Change.finish strategy (.ofLast run.counts failure?) run).2) := by
  cases failure? with
  | none =>
    refine ⟨[.subscriptionClosed,
      .runFinished run.counts.ticks run.counts.responses run.counts.faults], ?_⟩
    simp [received, phase, Delivery.last, Ending.ofLast, Change.andThen, Change.log]
  | some failure =>
    refine ⟨[.receiveFailed failure], ?_⟩
    simp [received, phase, Delivery.last, Ending.ofLast, Change.andThen, Change.log]

/-- At the end of its feed a run calls the strategy a last time, and has ended. -/
theorem tells_of_last {failure? : Option Failure} (phase : run.phase = .receiving)
    (expects : run.Expects strategy answers [.last failure?]) :
    (run.story strategy answers).Tells strategy run.scene [.exit]
      (.ofLast run.counts failure?) := by
  obtain ⟨rest, rfl, expected⟩ := expects.of_receive (by simp [call?, phase])
  obtain ⟨entries, ends⟩ := received_last strategy failure? phase
  have finished := Change.phase_finish strategy (.ofLast run.counts failure?) run
  rw [ends] at expected
  obtain rfl := expected.of_finished (by simp [call?, finished])
  have left := Change.scene_finish strategy (.ofLast run.counts failure?) run
  constructor
  · simp [story, hear, ends, Story.following, Scene.visits]
  · simp [story, hear, ends, Story.following, Scene.deedsAll, Scene.visits, Scene.deeds,
      Scene.subscriptions]
  · simp [story, hear, ends, Story.following, Scene.afterAll, left]
  · simp [story, hear, ends, Story.following, ending?, finished]

/-- A message that is for a callback begins what is told with it. -/
theorem story_of_readable {message : Message} {callback : Callback} {delivery : Delivery}
    {deliveries : List Delivery} (phase : run.phase = .receiving)
    (readable : Callback.ofMessage? run.host.desk.responseChannel? message = some callback)
    (expects : run.Expects strategy answers (.message message :: delivery :: deliveries)) :
    exists (arrived : Run Memory) (rest : List Answer),
      (run.story strategy answers).Begins strategy run.scene callback arrived rest ∧
      arrived.counts = run.counts.plus (.one (some callback)) ∧
      arrived.Expects strategy rest (delivery :: deliveries) := by
  let counted : Run Memory := { run with counts := run.counts.plus (.one (some callback)) }
  let called := Change.call strategy callback counted
  have heard : run.received strategy (.message message) =
      ((Change.subscribeRequested true called.1).1,
        called.2 ++ (Change.subscribeRequested true called.1).2) := by
    simp [received, phase, Change.andThen, Change.dispatch_readable readable, called, counted]
  obtain ⟨later, rfl, expected⟩ := expects.of_receive (by simp [call?, phase])
  rw [heard] at expected
  obtain ⟨arrived, rest, arrives⟩ := arrives_subscribeRequested true expected
  have isMessage : callback ≠ .exit ∧
      Scene.subscriptions (run.scene.outcome strategy callback).desk callback =
        Scene.askedFor called.1.host.desk.requested := by
    obtain ⟨tick, rfl⟩ | ⟨response, rfl⟩ := Callback.ofMessage?_cases readable
    · exact ⟨by simp, rfl⟩
    · exact ⟨by simp, rfl⟩
  have left : arrived.scene = run.scene.after strategy callback := by
    rw [arrives.scene, Scene.after, if_neg isMessage.1]
    rfl
  refine ⟨arrived, rest, ⟨arrives.phase, left, called.2, ?_, ?_, ?_⟩, arrives.counts,
    arrives.expects⟩
  · exact Change.callbacksOf_call ..
  · exact Change.deedsOf_call ..
  · rw [isMessage.2, ← arrives.story, story, hear, heard]
    exact Story.following_append _ _ (Change.callbacksOf_subscribeRequested true called.1)

/-- A message that is for no callback changes only the number of these. -/
theorem received_unreadable (strategy : Strategy Memory) {message : Message}
    (phase : run.phase = .receiving) (requested : run.host.desk.requested = [])
    (unreadable : Callback.ofMessage? run.host.desk.responseChannel? message = none) :
    exists entry, run.received strategy (.message message) =
      ({ run with counts := run.counts.plus (.one none) }, [.logged entry]) := by
  obtain ⟨entry, skipped⟩ := Change.dispatch_unreadable strategy unreadable
  refine ⟨entry, ?_⟩
  simp [received, phase, Change.andThen, skipped, Change.subscribeRequested, requested,
    Change.receive, Change.await]

/-- What is told of a message that is for no callback is what is told without it. -/
theorem story_of_unreadable {message : Message} {deliveries : List Delivery}
    (phase : run.phase = .receiving) (requested : run.host.desk.requested = [])
    (unreadable : Callback.ofMessage? run.host.desk.responseChannel? message = none)
    (expects : run.Expects strategy answers (.message message :: deliveries)) :
    exists rest,
      { run with counts := run.counts.plus (.one none) }.Expects strategy rest deliveries ∧
      run.story strategy answers =
        { run with counts := run.counts.plus (.one none) }.story strategy rest := by
  obtain ⟨entry, heard⟩ := received_unreadable strategy phase requested unreadable
  obtain ⟨rest, rfl, expected⟩ := expects.of_receive (by simp [call?, phase])
  rw [heard] at expected
  refine ⟨rest, expected, ?_⟩
  rw [story, hear, heard, Story.following_of_silent _ _ rfl]
  rfl

/-- Something comes of every feed. -/
theorem exists_cons_last (messages : List Message) (failure? : Option Failure) :
    exists delivery deliveries,
      messages.map Delivery.message ++ [.last failure?] = delivery :: deliveries := by
  cases messages with
  | nil => exact ⟨_, _, rfl⟩
  | cons message rest => exact ⟨_, _, rfl⟩

/-- A run that waits for messages makes of them the fold over their callbacks. -/
theorem tells_of_receiving (failure? : Option Failure) (messages : List Message)
    (phase : run.phase = .receiving) (requested : run.host.desk.requested = [])
    (expects : run.Expects strategy answers
      (messages.map .message ++ [.last failure?])) :
    (run.story strategy answers).Tells strategy run.scene
      (messages.filterMap (Callback.ofMessage? run.host.desk.responseChannel?) ++ [.exit])
      (.ofLast (run.counts.plus (.ofMessages run.host.desk.responseChannel? messages))
        failure?) := by
  induction messages generalizing run answers with
  | nil => exact tells_of_last phase expects
  | cons message messages inductionHypothesis =>
    rw [Counts.ofMessages_cons, ← Counts.plus_assoc]
    cases readable : Callback.ofMessage? run.host.desk.responseChannel? message with
    | none =>
      obtain ⟨rest, expected, same⟩ := story_of_unreadable phase requested readable expects
      rw [same, List.filterMap_cons_none readable]
      exact inductionHypothesis phase requested expected
    | some callback =>
      obtain ⟨delivery, deliveries, later⟩ := exists_cons_last messages failure?
      rw [List.map_cons, List.cons_append, later] at expects
      obtain ⟨arrived, rest, begins, counts, expected⟩ :=
        story_of_readable phase readable expects
      have notExit : callback ≠ .exit := by
        obtain ⟨tick, rfl⟩ | ⟨response, rfl⟩ := Callback.ofMessage?_cases readable <;> simp
      have tells := inductionHypothesis begins.phase (begins.requested notExit)
        (later ▸ expected)
      rw [begins.responseChannel?, counts] at tells
      rw [List.filterMap_cons_some readable]
      exact begins.tells tells

end Run

end StrategyHost.Strategy
