import StrategyHost.Proofs.Strategy.Scene
import StrategyHost.Strategy.Feed

/-!
# The answers that a run hears

Of its bus a run hears only the answers to its calls. `Run.answers` lists those
that a feed gives, and `Run.story` tells what a run makes of a list of them;
`Run.follow_eq_story` says that following a run over a feed is just that, so what
holds of a run for all answers holds of it over every feed.
-/

namespace StrategyHost.Strategy

/-- What the bus answers to a call. -/
inductive Answer where
  | subscribed (result : Except Failure Unit)
  | offered (offer : Offer)

/-- Whether an answer is one to a call. -/
def Answer.Fits : Answer -> Call -> Prop
  | .subscribed _, .subscribe _ | .offered _, .receive => True
  | _, _ => False

/-- What is offered among answers. -/
def offersOf (answers : List Answer) : List Offer :=
  answers.filterMap fun
    | .offered offer => some offer
    | .subscribed _ => none

variable {Memory State : Type}

/-- What is to be told of a run: where it gets, the scene that each of its callbacks
finds, and its deeds. -/
structure Story (Memory : Type) where
  run : Run Memory
  seen : List (Callback × Scene Memory)
  deeds : List Occurrence

/-- The same with a change of a run before it. -/
def Story.following (story : Story Memory) (scene : Scene Memory)
    (occurrences : List Occurrence) : Story Memory where
  run := story.run
  seen := (callbacksOf occurrences).map (·, scene) ++ story.seen
  deeds := deedsOf occurrences ++ story.deeds

namespace Run

/-- Go on after an answer. -/
def hear (strategy : Strategy Memory) : Answer -> Change Memory
  | .subscribed result => subscribed strategy result
  | .offered (.delivery delivery) => received strategy delivery
  | .offered .waiting => fun run => (run, [])

/-- What a run makes of answers. -/
def story (strategy : Strategy Memory) (run : Run Memory) : List Answer -> Story Memory
  | [] => ⟨run, [], []⟩
  | answer :: rest =>
    let next := run.hear strategy answer
    (next.1.story strategy rest).following run.scene next.2

/-- Each of these answers is one to the call that the run is waiting with by then. -/
def Answered (strategy : Strategy Memory) (run : Run Memory) : List Answer -> Prop
  | [] => True
  | answer :: rest =>
    (exists call, run.call? = some call ∧ answer.Fits call) ∧
      (run.hear strategy answer).1.Answered strategy rest

/-- The answers of a feed, until the run is finished or the feed has nothing for now. -/
def answers (strategy : Strategy Memory) (feed : Feed State) (state : State)
    (run : Run Memory) : List Answer :=
  match _ : run.call? with
  | none => []
  | some (.subscribe channels) =>
    let answer := feed.subscribe state channels
    .subscribed answer.1 :: (run.subscribed strategy answer.1).1.answers strategy feed answer.2.1
  | some .receive =>
    match _ : (feed.next state).1 with
    | .waiting => [.offered .waiting]
    | .delivery delivery =>
      .offered (.delivery delivery) ::
        (run.received strategy delivery).1.answers strategy feed (feed.next state).2.1
termination_by (feed.backlog state, run.phase.rank)
decreasing_by
  · exact subscribed_lex strategy ‹_›
  · exact received_lex strategy ‹_› ‹_›

theorem answers_of_finished {strategy : Strategy Memory} {feed : Feed State} {state : State}
    {run : Run Memory} (calls : run.call? = none) : run.answers strategy feed state = [] := by
  rw [answers]
  split <;> simp_all

/-- A feed answers just what it is asked. -/
theorem answered_answers (strategy : Strategy Memory) (feed : Feed State) (state : State)
    (run : Run Memory) : run.Answered strategy (run.answers strategy feed state) := by
  fun_induction answers strategy feed state run with
  | case1 => trivial
  | case2 state run channels calls answer inductionHypothesis =>
    exact ⟨⟨_, calls, trivial⟩, inductionHypothesis⟩
  | case3 state run calls => exact ⟨⟨_, calls, trivial⟩, trivial⟩
  | case4 state run calls delivery delivered inductionHypothesis =>
    exact ⟨⟨_, calls, trivial⟩, inductionHypothesis⟩

section

variable {strategy : Strategy Memory} {feed : Feed State} {state : State} {run : Run Memory}

theorem follow_of_finished (calls : run.call? = none) :
    run.follow strategy feed state = ⟨run, state, []⟩ := by
  rw [follow]
  split <;> simp_all

theorem follow_of_subscribe {channels : List String}
    (calls : run.call? = some (.subscribe channels)) :
    run.follow strategy feed state =
      let answer := feed.subscribe state channels
      let next := run.subscribed strategy answer.1
      (next.1.follow strategy feed answer.2.1).after (answer.2.2.map .logged ++ next.2) := by
  rw [follow]
  split
  · simp_all
  · rename_i asked _
    obtain rfl : asked = channels := by simp_all
    rfl
  · simp_all

theorem follow_of_waiting (calls : run.call? = some .receive)
    (waits : (feed.next state).1 = .waiting) :
    run.follow strategy feed state =
      ⟨run, (feed.next state).2.1, (feed.next state).2.2.map .logged⟩ := by
  rw [follow]
  split
  · simp_all
  · simp_all
  · dsimp only
    split
    · rfl
    · simp_all

theorem follow_of_delivery {delivery : Delivery} (calls : run.call? = some .receive)
    (delivered : (feed.next state).1 = .delivery delivery) :
    run.follow strategy feed state =
      let answer := feed.next state
      let next := run.received strategy delivery
      (next.1.follow strategy feed answer.2.1).after (answer.2.2.map .logged ++ next.2) := by
  rw [follow]
  split
  · simp_all
  · simp_all
  · dsimp only
    split
    · simp_all
    · rename_i other _
      obtain rfl : other = delivery := by simp_all
      rfl

end

/-- Following a run over a feed is hearing the feed's answers. -/
theorem follow_eq_story (strategy : Strategy Memory) (feed : Feed State) (state : State)
    (run : Run Memory) :
    (run.follow strategy feed state).run =
        (run.story strategy (run.answers strategy feed state)).run ∧
      deedsOf (run.follow strategy feed state).occurrences =
        (run.story strategy (run.answers strategy feed state)).deeds := by
  fun_induction answers strategy feed state run with
  | case1 state run calls =>
    rw [follow_of_finished calls]
    exact ⟨rfl, rfl⟩
  | case2 state run channels calls answer inductionHypothesis =>
    rw [follow_of_subscribe calls]
    refine ⟨inductionHypothesis.1, ?_⟩
    simp [Followed.after, inductionHypothesis.2, story, Story.following, hear, answer]
  | case3 state run calls waits =>
    rw [follow_of_waiting calls waits]
    exact ⟨rfl, deedsOf_map_logged _⟩
  | case4 state run calls delivery delivered inductionHypothesis =>
    rw [follow_of_delivery calls delivered]
    refine ⟨inductionHypothesis.1, ?_⟩
    simp [Followed.after, inductionHypothesis.2, story, Story.following, hear]

end Run

end StrategyHost.Strategy
