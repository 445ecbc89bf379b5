import StrategyHost.Proofs.Strategy.Scene

/-!
# Passages of a run

What a run goes through, in steps that are smaller than its changes: it enters a stage,
calls its strategy, or does neither. A strategy may write anything to the log, so stages
are not read off the log; `Passage` marks them where they are entered, and lets nothing
else change them. `Change.Passes` is what one change of a run contributes.
-/

namespace StrategyHost.Strategy

open StrategyHost.Bus (Message)
open StrategyHost.Outbound (Queue)
open StrategyHost.Trade (Response)

/-- What a run goes through: a stage that it enters, or a call at the stage where it stands. -/
inductive Mark where
  | entered (stage : Stage)
  | called (callback : Callback) (stage : Stage)
  deriving DecidableEq

/-- The stages that are entered, in the order in which they are. -/
def stagesOf (marks : List Mark) : List Stage :=
  marks.filterMap fun
    | .entered stage => some stage
    | .called _ _ => none

/-- The callbacks that are called, in the order in which they are. -/
def callsOf (marks : List Mark) : List Callback :=
  marks.filterMap fun
    | .entered _ => none
    | .called callback _ => some callback

/-- Whether an occurrence is neither the strategy's doing nor the change of a stage. -/
def Occurrence.isQuiet : Occurrence -> Bool
  | .logged (.stageChanged _ _) | .called _ | .performed _ _ => false
  | .logged _ | .asked _ => true

variable {Memory : Type}

/-- Steps by which a run enters stages, calls its strategy, or does neither; the last kind
leaves its stage and the strategy's memory alone. -/
inductive Passage (strategy : Strategy Memory) (first : Run Memory) :
    List Mark -> List Occurrence -> Run Memory -> Prop where
  | start : Passage strategy first [] [] first
  | enter {marks : List Mark} {occurrences : List Occurrence} {run : Run Memory}
      (prior : Passage strategy first marks occurrences run) (stage : Stage) :
      Passage strategy first (marks ++ [.entered stage])
        (occurrences ++ (Change.enter stage run).2) (Change.enter stage run).1
  | call {marks : List Mark} {occurrences : List Occurrence} {run : Run Memory}
      (prior : Passage strategy first marks occurrences run) (callback : Callback) :
      Passage strategy first (marks ++ [.called callback run.host.stage])
        (occurrences ++ (Change.call strategy callback run).2)
        (Change.call strategy callback run).1
  | pause {marks : List Mark} {occurrences quiet : List Occurrence} {run after : Run Memory}
      (prior : Passage strategy first marks occurrences run)
      (isQuiet : ∀ occurrence ∈ quiet, occurrence.isQuiet = true)
      (stage : after.host.stage = run.host.stage) (memory : after.host.memory = run.host.memory) :
      Passage strategy first marks (occurrences ++ quiet) after

namespace Passage

variable {strategy : Strategy Memory} {first middle last : Run Memory}
  {before marks : List Mark} {earlier occurrences : List Occurrence}

/-- A passage goes on from where another has led. -/
theorem trans (prior : Passage strategy first before earlier middle)
    (rest : Passage strategy middle marks occurrences last) :
    Passage strategy first (before ++ marks) (earlier ++ occurrences) last := by
  induction rest with
  | start => simpa using prior
  | enter _ stage inductionHypothesis =>
    rw [← List.append_assoc, ← List.append_assoc]
    exact inductionHypothesis.enter stage
  | call _ callback inductionHypothesis =>
    rw [← List.append_assoc, ← List.append_assoc]
    exact inductionHypothesis.call callback
  | pause _ isQuiet stage memory inductionHypothesis =>
    rw [← List.append_assoc]
    exact inductionHypothesis.pause isQuiet stage memory

/-- What is quiet calls no callback. -/
theorem callbacksOf_quiet {quiet : List Occurrence}
    (isQuiet : ∀ occurrence ∈ quiet, occurrence.isQuiet = true) : callbacksOf quiet = [] := by
  apply List.filterMap_eq_nil_iff.mpr
  intro occurrence member
  have silent := isQuiet occurrence member
  cases occurrence with
  | called callback => simp [Occurrence.isQuiet] at silent
  | _ => rfl

/-- The marks tell all the callbacks. -/
theorem callbacksOf_eq (passage : Passage strategy first marks occurrences last) :
    callbacksOf occurrences = callsOf marks := by
  induction passage with
  | start => rfl
  | enter _ stage inductionHypothesis =>
    rw [callbacksOf_append, inductionHypothesis, callsOf, callsOf, List.filterMap_append]
    rfl
  | call _ callback inductionHypothesis =>
    rw [callbacksOf_append, inductionHypothesis, Change.callbacksOf_call, callsOf, callsOf,
      List.filterMap_append]
    rfl
  | pause _ isQuiet _ _ inductionHypothesis =>
    rw [callbacksOf_append, inductionHypothesis, callbacksOf_quiet isQuiet, List.append_nil]

end Passage

namespace Change

/-- What a change of a run goes through. -/
def Passes (strategy : Strategy Memory) (change : Change Memory) (run : Run Memory)
    (marks : List Mark) : Prop :=
  Passage strategy run marks (change run).2 (change run).1

variable {strategy : Strategy Memory} {run : Run Memory}

/-- One change after the other goes through what each of them does. -/
theorem Passes.andThen {first second : Change Memory} {before marks : List Mark}
    (prior : first.Passes strategy run before)
    (rest : second.Passes strategy (first run).1 marks) :
    (first.andThen second).Passes strategy run (before ++ marks) :=
  Passage.trans prior rest

theorem passes_enter (stage : Stage) : (enter stage).Passes strategy run [.entered stage] :=
  Passage.enter .start stage

theorem passes_call (callback : Callback) :
    (call strategy callback).Passes strategy run [.called callback run.host.stage] :=
  Passage.call .start callback

theorem passes_log {entry : Journal.Entry} (quiet : (Occurrence.logged entry).isQuiet = true) :
    (log entry).Passes strategy run [] :=
  Passage.pause .start (by simpa using quiet) rfl rfl

theorem passes_count (counted : Counts -> Counts) : (count counted).Passes strategy run [] :=
  Passage.pause .start (by simp) rfl rfl

theorem passes_await (phase : Phase) : (await phase).Passes strategy run [] :=
  Passage.pause .start (by simp) rfl rfl

/-- At its end a run calls its strategy once more, at the stage that it has come to. -/
theorem passes_finish (ending : Ending) :
    (finish strategy ending).Passes strategy run
      [.called .exit run.host.stage, .entered .exit] := by
  have logged : (logFrom fun run : Run Memory => .exiting run.host.stage).Passes strategy run [] :=
    Passage.pause .start (by simp [Occurrence.isQuiet]) rfl rfl
  exact ((logged.andThen (passes_call .exit)).andThen (passes_enter .exit)).andThen
    (passes_await (.finished ending))

/-- On the way to the first message a run enters the two stages before it. -/
theorem passes_receive_first :
    (receive false).Passes strategy run [.entered .subscribed, .entered .running] :=
  ((passes_enter .subscribed).andThen (passes_enter .running)).andThen (passes_await .receiving)

/-- On the way to a later message a run enters no stage. -/
theorem passes_receive_again : (receive true).Passes strategy run [] :=
  passes_await .receiving

end Change

/-- Whether a run waits for a subscription that comes before its first message. -/
def Phase.isStartingUp : Phase -> Bool
  | .subscribingResponses _ | .subscribing _ false => true
  | .subscribing _ true | .receiving | .finished _ => false

namespace Change

/-- What a change before the first message can lead to. -/
inductive StartsUp (strategy : Strategy Memory) (change : Change Memory) (run : Run Memory) :
    Prop where
  /-- The run waits for a subscription. -/
  | waits (phase : (change run).1.phase.isStartingUp = true)
      (stage : (change run).1.host.stage = run.host.stage) (passes : change.Passes strategy run [])
  /-- The run waits for a message. -/
  | receives (phase : (change run).1.phase = .receiving)
      (stage : (change run).1.host.stage = .running)
      (passes : change.Passes strategy run [.entered .subscribed, .entered .running])

variable {strategy : Strategy Memory}

/-- Only what a change makes of the run matters. -/
theorem StartsUp.congr {change other : Change Memory} {run : Run Memory}
    (same : change run = other run) (starts : other.StartsUp strategy run) :
    change.StartsUp strategy run := by
  cases starts with
  | waits phase stage passes =>
    rw [← same] at phase stage
    rw [Passes, ← same] at passes
    exact .waits phase stage passes
  | receives phase stage passes =>
    rw [← same] at phase stage
    rw [Passes, ← same] at passes
    exact .receives phase stage passes

theorem startsUp_receive (run : Run Memory) : (receive false).StartsUp strategy run :=
  .receives rfl rfl passes_receive_first

theorem startsUp_subscribeRequested (run : Run Memory) :
    (subscribeRequested false).StartsUp strategy run := by
  cases requested : run.host.desk.requested with
  | nil =>
    have changes : subscribeRequested false run = receive false run := by
      simp [subscribeRequested, requested]
    exact .congr changes (startsUp_receive run)
  | cons channel channels =>
    apply StartsUp.waits
    · simp [subscribeRequested, requested, Phase.isStartingUp]
    · simp [subscribeRequested, requested]
    · simp only [Passes, subscribeRequested, requested]
      exact Passage.pause .start (by simp [Occurrence.isQuiet]) rfl rfl

theorem startsUp_subscribeResponses (run : Run Memory) :
    subscribeResponses.StartsUp strategy run := by
  cases responseChannel : run.host.desk.responseChannel? with
  | none =>
    have changes : subscribeResponses run = subscribeRequested false run := by
      simp [subscribeResponses, responseChannel]
    exact .congr changes (startsUp_subscribeRequested run)
  | some channel =>
    apply StartsUp.waits
    · simp [subscribeResponses, responseChannel, Phase.isStartingUp]
    · simp [subscribeResponses, responseChannel]
    · simp only [Passes, subscribeResponses, responseChannel]
      exact Passage.pause .start (by simp [Occurrence.isQuiet]) rfl rfl

/-- Between messages a run at most waits for what the strategy has asked for. -/
theorem passes_subscribeRequested_again (strategy : Strategy Memory) (run : Run Memory) :
    ((subscribeRequested true run).1.phase = .receiving ∨
        ∃ channels, (subscribeRequested true run).1.phase = .subscribing channels true) ∧
      (subscribeRequested true run).1.host.stage = run.host.stage ∧
      (subscribeRequested true).Passes strategy run [] := by
  unfold Passes
  cases requested : run.host.desk.requested with
  | nil =>
    have changes : subscribeRequested true run = receive true run := by
      simp [subscribeRequested, requested]
    rw [changes]
    exact ⟨.inl rfl, rfl, passes_receive_again⟩
  | cons channel channels =>
    simp only [subscribeRequested, requested]
    refine ⟨.inr ⟨_, rfl⟩, trivial, ?_⟩
    exact Passage.pause .start (by simp [Occurrence.isQuiet]) rfl rfl

end Change

/-- Whether a callback is for a message. -/
def Callback.isForMessage : Callback -> Bool
  | .tick _ | .response _ => true
  | .init | .exit => false

namespace Change

/-- A message leads to one call at most, at the stage where the run stands. -/
theorem passes_dispatch (strategy : Strategy Memory) (message : Message) (run : Run Memory) :
    ∃ calls : List Callback, (∀ callback ∈ calls, callback.isForMessage = true) ∧
      (dispatch strategy message run).1.host.stage = run.host.stage ∧
      (dispatch strategy message).Passes strategy run
        (calls.map fun callback => .called callback run.host.stage) := by
  unfold Passes dispatch
  cases classify message.channel run.host.desk.responseChannel? with
  | response =>
    unfold takeResponse
    cases Response.decode message.payload with
    | ok response =>
      refine ⟨[.response response], by simp [Callback.isForMessage], rfl, ?_⟩
      exact (passes_count _).andThen (passes_call (.response response))
    | error fault =>
      refine ⟨[], by simp, rfl, ?_⟩
      exact (passes_count _).andThen (passes_log rfl)
  | tick =>
    unfold takeTick
    cases Market.Tick.decode message.payload with
    | ok tick =>
      refine ⟨[.tick tick], by simp [Callback.isForMessage], rfl, ?_⟩
      exact (passes_count _).andThen (passes_call (.tick tick))
    | error fault =>
      refine ⟨[], by simp, rfl, ?_⟩
      exact (passes_count _).andThen (passes_log rfl)

end Change

end StrategyHost.Strategy
