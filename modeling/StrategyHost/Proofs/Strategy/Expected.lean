import StrategyHost.Proofs.Strategy.Answers

/-!
# Runs whose subscriptions succeed

A run whose subscriptions succeed gets past them to its next delivery without
calling the strategy: `Run.arrives_subscribeRequested` for the channels that the
strategy has asked for, and `Run.arrives_subscribeResponses` for all that follows
its initialisation.
-/

namespace StrategyHost.Strategy

variable {Memory : Type}

/-- The same with the requested channels taken. -/
def Scene.cleared (scene : Scene Memory) : Scene Memory :=
  { scene with desk := scene.desk.cleared }

/-- The same with deeds before it. -/
def Story.doing (deeds : List Occurrence) (story : Story Memory) : Story Memory :=
  { story with deeds := deeds ++ story.deeds }

namespace Story

/-- What happens without a callback is only done. -/
theorem following_of_silent {occurrences : List Occurrence} (story : Story Memory)
    (scene : Scene Memory) (silent : callbacksOf occurrences = []) :
    story.following scene occurrences = story.doing (deedsOf occurrences) := by
  simp [following, doing, silent]

/-- What happens without a callback after something else can be told first. -/
theorem following_append {before rest : List Occurrence} (story : Story Memory)
    (scene : Scene Memory) (silent : callbacksOf rest = []) :
    story.following scene (before ++ rest) =
      (story.doing (deedsOf rest)).following scene before := by
  simp [following, doing, silent]

theorem doing_doing (first second : List Occurrence) (story : Story Memory) :
    (story.doing second).doing first = story.doing (first ++ second) := by
  simp [doing]

end Story

/-- These answers are for a run, subscriptions succeed, and these are the deliveries. -/
structure Run.Expects (strategy : Strategy Memory) (run : Run Memory) (answers : List Answer)
    (deliveries : List Delivery) : Prop where
  answered : run.Answered strategy answers
  succeeds : forall result, .subscribed result ∈ answers -> result = .ok ()
  offers : offersOf answers = deliveries.map .delivery

namespace Run.Expects

variable {strategy : Strategy Memory} {run : Run Memory} {answers : List Answer}
  {delivery : Delivery} {deliveries : List Delivery}

/-- A run that waits for a subscription hears that it has succeeded. -/
theorem of_subscribe {channels : List String}
    (expects : run.Expects strategy answers (delivery :: deliveries))
    (calls : run.call? = some (.subscribe channels)) :
    exists rest, answers = .subscribed (.ok ()) :: rest ∧
      (run.subscribed strategy (.ok ())).1.Expects strategy rest (delivery :: deliveries) := by
  obtain ⟨answered, succeeds, offers⟩ := expects
  cases answers with
  | nil => simp [offersOf] at offers
  | cons answer rest =>
    obtain ⟨⟨call, called, fits⟩, answered⟩ := answered
    obtain rfl : call = .subscribe channels := by simp_all
    cases answer with
    | offered other => exact fits.elim
    | subscribed result =>
      obtain rfl := succeeds result (by simp)
      refine ⟨rest, rfl, answered, ?_, offers⟩
      intro result member
      exact succeeds result (by simp [member])

/-- A run that waits for a delivery hears the first. -/
theorem of_receive (expects : run.Expects strategy answers (delivery :: deliveries))
    (calls : run.call? = some .receive) :
    exists rest, answers = .offered (.delivery delivery) :: rest ∧
      (run.received strategy delivery).1.Expects strategy rest deliveries := by
  obtain ⟨answered, succeeds, offers⟩ := expects
  cases answers with
  | nil => simp [offersOf] at offers
  | cons answer rest =>
    obtain ⟨⟨call, called, fits⟩, answered⟩ := answered
    obtain rfl : call = .receive := by simp_all
    cases answer with
    | subscribed result => exact fits.elim
    | offered other =>
      simp only [offersOf, List.filterMap_cons, List.map_cons, List.cons.injEq] at offers
      obtain ⟨rfl, offers⟩ := offers
      refine ⟨rest, rfl, answered, ?_, offers⟩
      intro result member
      exact succeeds result (by simp [member])

/-- A run that has ended hears nothing. -/
theorem of_finished (expects : run.Expects strategy answers deliveries)
    (calls : run.call? = none) : answers = [] := by
  cases answers with
  | nil => rfl
  | cons answer rest =>
    obtain ⟨⟨call, called, fits⟩, answered⟩ := expects.answered
    simp [calls] at called

end Run.Expects

namespace Change

theorem callbacksOf_receive (isReceiving : Bool) (run : Run Memory) :
    callbacksOf (receive isReceiving run).2 = [] := by
  cases isReceiving <;> rfl

theorem deedsOf_receive (isReceiving : Bool) (run : Run Memory) :
    deedsOf (receive isReceiving run).2 = [] := by
  cases isReceiving <;> rfl

theorem scene_receive (isReceiving : Bool) (run : Run Memory) :
    (receive isReceiving run).1.scene = run.scene := by
  cases isReceiving <;> rfl

theorem counts_receive (isReceiving : Bool) (run : Run Memory) :
    (receive isReceiving run).1.counts = run.counts := by
  cases isReceiving <;> rfl

theorem callbacksOf_subscribeRequested (isReceiving : Bool) (run : Run Memory) :
    callbacksOf (subscribeRequested isReceiving run).2 = [] := by
  unfold subscribeRequested
  split
  · exact callbacksOf_receive isReceiving run
  · rfl

theorem callbacksOf_subscribeResponses (run : Run Memory) :
    callbacksOf (subscribeResponses run).2 = [] := by
  unfold subscribeResponses
  split
  · exact callbacksOf_subscribeRequested false run
  · rfl

end Change

/-- A change of a run, and answers to what it waits for then, lead past subscriptions
to where the run waits for a delivery. -/
structure Run.Arrives (strategy : Strategy Memory) (run : Run Memory) (change : Change Memory)
    (answers : List Answer) (asked : List Occurrence) (deliveries : List Delivery)
    (arrived : Run Memory) (rest : List Answer) : Prop where
  phase : arrived.phase = .receiving
  scene : arrived.scene = run.scene.cleared
  counts : arrived.counts = run.counts
  expects : arrived.Expects strategy rest deliveries
  story : ((change run).1.story strategy answers).doing (deedsOf (change run).2) =
    (arrived.story strategy rest).doing asked

namespace Run

variable {strategy : Strategy Memory} {run : Run Memory} {answers : List Answer}
  {delivery : Delivery} {deliveries : List Delivery}

theorem arrives_receive (isReceiving : Bool) (requested : run.host.desk.requested = [])
    (expects : (Change.receive isReceiving run).1.Expects strategy answers deliveries) :
    run.Arrives strategy (Change.receive isReceiving) answers [] deliveries
      (Change.receive isReceiving run).1 answers where
  phase := Change.phase_receive isReceiving run
  scene := by
    rw [Change.scene_receive]
    simp [scene, Host.scene, Scene.cleared, Desk.cleared, ← requested]
  counts := Change.counts_receive isReceiving run
  expects := expects
  story := by rw [Change.deedsOf_receive]

/-- The channels that the strategy has asked for are subscribed to once. -/
theorem arrives_subscribeRequested (isReceiving : Bool)
    (expects : (Change.subscribeRequested isReceiving run).1.Expects strategy answers
      (delivery :: deliveries)) :
    exists arrived rest, run.Arrives strategy (Change.subscribeRequested isReceiving) answers
      (Scene.askedFor run.host.desk.requested) (delivery :: deliveries) arrived rest := by
  cases requested : run.host.desk.requested with
  | nil =>
    have changes : Change.subscribeRequested isReceiving run = Change.receive isReceiving run := by
      simp [Change.subscribeRequested, requested]
    rw [changes] at expects
    have arrives := arrives_receive isReceiving requested expects
    refine ⟨_, answers, arrives.phase, arrives.scene, arrives.counts, arrives.expects, ?_⟩
    rw [changes]
    exact arrives.story
  | cons channel channels =>
    let subscribing : Run Memory :=
      { run with
        host := { run.host with desk := run.host.desk.cleared }
        phase := .subscribing (channel :: channels) isReceiving }
    have changes : Change.subscribeRequested isReceiving run =
        (subscribing, [.logged (.subscribing (channel :: channels)),
          .asked (channel :: channels)]) := by
      simp [Change.subscribeRequested, requested, subscribing]
    rw [changes] at expects
    have waits : subscribing.call? = some (.subscribe (channel :: channels)) := rfl
    obtain ⟨rest, rfl, after⟩ := Expects.of_subscribe expects waits
    have cleared : subscribing.host.desk.requested = [] := rfl
    have arrives := arrives_receive isReceiving cleared after
    refine ⟨_, rest, arrives.phase, arrives.scene, arrives.counts, arrives.expects, ?_⟩
    rw [changes]
    have heard : subscribing.story strategy (.subscribed (.ok ()) :: rest) =
        (Change.receive isReceiving subscribing).1.story strategy rest :=
      (Story.following_of_silent _ _ (Change.callbacksOf_receive isReceiving subscribing)).trans
        arrives.story
    rw [heard]
    rfl

/-- After its initialisation a run subscribes to its responses, where it has any, and
then to what the strategy has asked for. -/
theorem arrives_subscribeResponses
    (expects : (Change.subscribeResponses run).1.Expects strategy answers
      (delivery :: deliveries)) :
    exists arrived rest, run.Arrives strategy Change.subscribeResponses answers
      (Scene.subscriptions run.host.desk .init) (delivery :: deliveries) arrived rest := by
  cases responseChannel : run.host.desk.responseChannel? with
  | none =>
    have changes : Change.subscribeResponses run = Change.subscribeRequested false run := by
      simp [Change.subscribeResponses, responseChannel]
    rw [changes] at expects
    obtain ⟨arrived, rest, arrives⟩ := arrives_subscribeRequested false expects
    refine ⟨arrived, rest, arrives.phase, arrives.scene, arrives.counts, arrives.expects, ?_⟩
    rw [changes, arrives.story]
    simp [Scene.subscriptions, responseChannel]
  | some channel =>
    let subscribing : Run Memory := { run with phase := .subscribingResponses channel }
    have changes : Change.subscribeResponses run = (subscribing, [.asked [channel]]) := by
      simp [Change.subscribeResponses, responseChannel, subscribing]
    rw [changes] at expects
    have waits : subscribing.call? = some (.subscribe [channel]) := rfl
    obtain ⟨answersAfter, rfl, after⟩ := Expects.of_subscribe expects waits
    obtain ⟨arrived, rest, arrives⟩ : exists arrived rest,
        subscribing.Arrives strategy (Change.subscribeRequested false) answersAfter
          (Scene.askedFor subscribing.host.desk.requested) (delivery :: deliveries) arrived rest :=
      arrives_subscribeRequested false after
    refine ⟨arrived, rest, arrives.phase, arrives.scene, arrives.counts, arrives.expects, ?_⟩
    have heard : subscribing.story strategy (.subscribed (.ok ()) :: answersAfter) =
        (arrived.story strategy rest).doing (Scene.askedFor run.host.desk.requested) :=
      (Story.following_of_silent _ _
        (Change.callbacksOf_subscribeRequested false subscribing)).trans arrives.story
    rw [changes, heard, Story.doing_doing]
    simp [Scene.subscriptions, responseChannel, deedsOf]

end Run

end StrategyHost.Strategy
