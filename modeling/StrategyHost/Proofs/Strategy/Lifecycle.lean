import StrategyHost.Proofs.Strategy.Course
import StrategyHost.Proofs.Strategy.Hosting

/-!
# The lifecycle of a run

A run that somebody has asked for and may drop wherever it waits. Once it has begun, the
strategy is told of its beginning first and of its end last, each once, and hears of
messages only in between, while the run is receiving. A run that has not begun when it is
dropped has done nothing.
-/

namespace StrategyHost.Strategy

open StrategyHost.Outbound (Queue)

variable {Memory : Type}

/-- A run as those see it who have asked for it. It does not begin by being asked for. -/
inductive Undertaking (Memory : Type) where
  | untouched (host : Host Memory) (queue : Queue)
  | begun (run : Run Memory)

namespace Undertaking

/-- The host of the run. -/
def host : Undertaking Memory -> Host Memory
  | untouched host _ => host
  | begun run => run.host

/-- The same after others have used the outbound queue. -/
def withQueue (queue : Queue) : Undertaking Memory -> Undertaking Memory
  | untouched host _ => untouched host queue
  | begun run => begun { run with queue := queue }

/-- Drop the run where it waits. One that has ended or has not begun is merely let go. -/
def abandon (strategy : Strategy Memory) : Undertaking Memory ->
    Undertaking Memory × List Occurrence
  | untouched host queue => (untouched host queue, [])
  | begun run => (begun (run.cancel strategy).1, (run.cancel strategy).2)

/-- One step: the run begins, hears any answer to what it waits for, or others use the
queue meanwhile. -/
inductive Step (strategy : Strategy Memory) :
    Undertaking Memory -> List Answer -> List Occurrence -> Undertaking Memory -> Prop where
  | begin {host : Host Memory} {queue : Queue} :
      Step strategy (.untouched host queue) [] (host.start strategy queue).2
        (.begun (host.start strategy queue).1)
  | hear {run : Run Memory} {call : Call} {answer : Answer} (waits : run.call? = some call)
      (fits : answer.Fits call) :
      Step strategy (.begun run) [answer] (run.hear strategy answer).2
        (.begun (run.hear strategy answer).1)
  | others {undertaking : Undertaking Memory} (queue : Queue) :
      Step strategy undertaking [] [] (undertaking.withQueue queue)

/-- Whether the run has begun. -/
def isBegun : Undertaking Memory -> Bool
  | untouched _ _ => false
  | begun _ => true

/-- Any number of steps, with the answers that are heard and what happens. -/
inductive Steps (strategy : Strategy Memory) (first : Undertaking Memory) :
    List Answer -> List Occurrence -> Undertaking Memory -> Prop where
  | refl : Steps strategy first [] [] first
  | step {heard answers : List Answer} {occurrences more : List Occurrence}
      {undertaking next : Undertaking Memory}
      (prior : Steps strategy first heard occurrences undertaking)
      (transition : Step strategy undertaking answers more next) :
      Steps strategy first (heard ++ answers) (occurrences ++ more) next

end Undertaking

/-- What became of a run that has ended or has been dropped: what happened between the host
that it found and the host that it left. -/
structure Lifecycle (strategy : Strategy Memory) (found : Host Memory) (heard : List Answer)
    (occurrences : List Occurrence) (left : Host Memory) (marks : List Mark) : Prop where
  passage : ∃ queue run, Passage strategy ⟨found, queue, ⟨0, 0, 0⟩, .receiving⟩ marks
    occurrences run ∧ run.host = left
  callbacks : ∃ between, callbacksOf occurrences = .init :: between ++ [.exit] ∧
    ∀ callback ∈ between, callback.isForMessage = true
  stages : ∃ visited, visited <+: [.init, .subscribed, .running] ∧
    stagesOf marks = visited ++ [.exit]
  forMessages : ∀ callback stage, .called callback stage ∈ marks ->
    callback.isForMessage = true -> stage = .running
  left : left.stage = .exit
  startUp : failsAtStart heard = true ->
    callbacksOf occurrences = [.init, .exit] ∧ .called .exit .init ∈ marks

/-- The calls of a whole course. -/
theorem callsOf_wholeCourse (calls? : Option (List Callback)) :
    callsOf (wholeCourse calls?) = .init :: calls?.getD [] ++ [.exit] := by
  cases calls? with
  | none => rfl
  | some calls =>
    have inOrder : callsOf (calls.map fun callback => .called callback .running) = calls := by
      rw [callsOf, List.filterMap_map]
      exact List.filterMap_some
    simp only [callsOf] at inOrder
    simp [wholeCourse, course, callsOf, inOrder]

/-- The stages of a whole course. -/
theorem stagesOf_wholeCourse (calls? : Option (List Callback)) :
    ∃ visited, visited <+: [.init, .subscribed, .running] ∧
      stagesOf (wholeCourse calls?) = visited ++ [.exit] := by
  cases calls? with
  | none => exact ⟨[.init], ⟨[.subscribed, .running], rfl⟩, rfl⟩
  | some calls =>
    have noneEntered : stagesOf (calls.map fun callback => .called callback .running) = [] := by
      simp [stagesOf]
    simp only [stagesOf] at noneEntered
    refine ⟨[.init, .subscribed, .running], List.prefix_refl _, ?_⟩
    simp [wholeCourse, course, stagesOf, noneEntered]

/-- In a whole course the calls for messages are made while the run is receiving. -/
theorem stage_of_mem_wholeCourse {calls? : Option (List Callback)} {callback : Callback}
    {stage : Stage} (called : .called callback stage ∈ wholeCourse calls?)
    (isForMessage : callback.isForMessage = true) : stage = .running := by
  cases calls? with
  | none =>
    rcases (by simpa [wholeCourse, course] using called) with ⟨rfl, rfl⟩ | ⟨rfl, rfl⟩
    · simp [Callback.isForMessage] at isForMessage
    · simp [Callback.isForMessage] at isForMessage
  | some calls =>
    rcases (by simpa [wholeCourse, course] using called) with
      ⟨rfl, rfl⟩ | ⟨_, _, _, rfl⟩ | ⟨rfl, rfl⟩
    · simp [Callback.isForMessage] at isForMessage
    · rfl
    · rfl

namespace Stands

variable {strategy : Strategy Memory} {run : Run Memory} {heard : List Answer}

/-- Dropping a run completes its lifecycle. -/
theorem lifecycle {found : Host Memory} {queue : Queue} {marks : List Mark}
    {occurrences : List Occurrence} (stands : Stands heard run marks)
    (passage : Passage strategy ⟨found, queue, ⟨0, 0, 0⟩, .receiving⟩ marks occurrences run) :
    ∃ marks, Lifecycle strategy found heard (occurrences ++ (run.cancel strategy).2)
      (run.cancel strategy).1.host marks := by
  obtain ⟨⟨more, passes, standsAfter⟩, ending, finished⟩ := stands.cancel
  obtain ⟨calls?, same, stage, forMessages, sound⟩ := standsAfter.whole finished
  have whole := passage.trans passes
  rw [same] at whole
  have callbacks := whole.callbacksOf_eq
  rw [callsOf_wholeCourse] at callbacks
  refine ⟨wholeCourse calls?, ?_⟩
  constructor
  · exact ⟨queue, _, whole, rfl⟩
  · refine ⟨calls?.getD [], callbacks, ?_⟩
    cases calls? with
    | none => simp
    | some calls => exact forMessages calls rfl
  · exact stagesOf_wholeCourse calls?
  · exact fun _ _ => stage_of_mem_wholeCourse
  · exact stage
  · intro fails
    rw [sound fails] at callbacks ⊢
    exact ⟨callbacks, by simp [wholeCourse, course]⟩

end Stands

namespace Undertaking

/-- Where the steps of an undertaking have led that has found this host. -/
inductive Reached (strategy : Strategy Memory) (found : Host Memory) :
    List Answer -> List Occurrence -> Undertaking Memory -> Prop where
  | untouched (queue : Queue) : Reached strategy found [] [] (.untouched found queue)
  | begun {queue : Queue} {run : Run Memory} {heard : List Answer} {marks : List Mark}
      {occurrences : List Occurrence}
      (passage : Passage strategy ⟨found, queue, ⟨0, 0, 0⟩, .receiving⟩ marks occurrences run)
      (stands : Stands heard run marks) :
      Reached strategy found heard occurrences (.begun run)

variable {strategy : Strategy Memory} {found : Host Memory}

/-- Every step leads on. -/
theorem Reached.step {heard answers : List Answer} {occurrences more : List Occurrence}
    {undertaking next : Undertaking Memory}
    (reached : Reached strategy found heard occurrences undertaking)
    (transition : Step strategy undertaking answers more next) :
    Reached strategy found (heard ++ answers) (occurrences ++ more) next := by
  cases transition with
  | begin =>
    cases reached with
    | untouched =>
      obtain ⟨marks, passage, stands⟩ := Host.leads_start strategy found _
      exact .begun passage stands
  | hear waits fits =>
    cases reached with
    | begun passage stands =>
      obtain ⟨further, passes, standsAfter⟩ := stands.hear waits fits
      exact .begun (passage.trans passes) standsAfter
  | others queue =>
    rw [List.append_nil]
    cases reached with
    | untouched => exact .untouched queue
    | begun passage stands =>
      exact .begun (passage.pause (by simp) rfl rfl) (stands.withQueue queue)

/-- All the steps lead on. -/
theorem Steps.reached {queue : Queue} {heard : List Answer} {occurrences : List Occurrence}
    {undertaking : Undertaking Memory}
    (steps : Steps strategy (.untouched found queue) heard occurrences undertaking) :
    Reached strategy found heard occurrences undertaking := by
  induction steps with
  | refl => exact .untouched queue
  | step _ transition inductionHypothesis => exact inductionHypothesis.step transition

/-- Wherever a run is dropped that has begun, and also when it has ended by itself, it has had
its whole lifecycle; one that has not begun has done nothing. -/
theorem lifecycle_of_steps {queue : Queue} {heard : List Answer} {occurrences : List Occurrence}
    {undertaking : Undertaking Memory}
    (steps : Steps strategy (.untouched found queue) heard occurrences undertaking) :
    let (dropped, rest) := undertaking.abandon strategy
    (undertaking.isBegun = true ->
        ∃ marks, Lifecycle strategy found heard (occurrences ++ rest) dropped.host marks) ∧
      (undertaking.isBegun = false -> occurrences ++ rest = [] ∧ dropped.host = found) := by
  cases steps.reached with
  | untouched => exact ⟨by simp [isBegun], fun _ => ⟨rfl, rfl⟩⟩
  | begun passage stands => exact ⟨fun _ => stands.lifecycle passage, by simp [isBegun]⟩

/-- A run that has begun hears one more answer. -/
theorem Steps.hear {first : Undertaking Memory} {heard : List Answer}
    {occurrences : List Occurrence} {run : Run Memory} {call : Call}
    (prior : Steps strategy first heard occurrences (.begun run)) (answer : Answer)
    (waits : run.call? = some call) (fits : answer.Fits call) :
    Steps strategy first (heard ++ [answer]) (occurrences ++ (run.hear strategy answer).2)
      (.begun (run.hear strategy answer).1) :=
  prior.step (.hear waits fits)

/-- A run that is dropped after a tick, and a run to which its tickers are refused. -/
theorem lifecycle_of_steps_watching :
    let strategy := Watch.strategy ["IF2309"]
    let first : Undertaking Nat := .untouched Host.watching ⟨1, [], true⟩
    let tick : Offer := .delivery (.message ⟨"md.IF2309", Host.watchedTick.encode⟩)
    let refusal : Failure := .connection "refused"
    (∃ occurrences run,
      Steps strategy first [.subscribed (.ok ()), .subscribed (.ok ()), .offered tick]
          occurrences (.begun run) ∧
        run.phase = .receiving ∧ (run.cancel strategy).1.host.stage = .exit ∧
        callbacksOf (occurrences ++ (run.cancel strategy).2) =
          [.init, .tick Host.watchedTick, .exit]) ∧
      ∃ occurrences run,
        Steps strategy first [.subscribed (.ok ()), .subscribed (.error refusal)]
            occurrences (.begun run) ∧
          callbacksOf (occurrences ++ (run.cancel strategy).2) = [.init, .exit] := by
  intro strategy first tick refusal
  let begun := (Host.watching.start strategy ⟨1, [], true⟩).1
  let asking := (begun.hear strategy (.subscribed (.ok ()))).1
  let receiving := (asking.hear strategy (.subscribed (.ok ()))).1
  have waitsForResponses : begun.call? = some (.subscribe ["grid"]) := by decide +kernel
  have waitsForTickers : asking.call? = some (.subscribe ["md.IF2309"]) := by decide +kernel
  have waitsForMessage : receiving.call? = some .receive := by decide +kernel
  have starts : Steps strategy first [] _ (.begun begun) := .step .refl .begin
  have asks := starts.hear (.subscribed (.ok ())) waitsForResponses trivial
  have receives := asks.hear (.subscribed (.ok ())) waitsForTickers trivial
  have ticks := receives.hear (.offered tick) waitsForMessage trivial
  have fails := asks.hear (.subscribed (.error refusal)) waitsForTickers trivial
  obtain ⟨marks, dropped⟩ := (lifecycle_of_steps ticks).1 rfl
  obtain ⟨others, refused⟩ := (lifecycle_of_steps fails).1 rfl
  refine ⟨⟨_, _, ticks, ?_, dropped.left, ?_⟩, _, _, fails, (refused.startUp rfl).1⟩
  · decide +kernel
  · decide +kernel

end Undertaking

end StrategyHost.Strategy
