import StrategyHost.Strategy.Run

/-!
# Scenes

What a callback finds and what it leaves, as a fold over callbacks that knows
nothing of phases, routes, or subscriptions. `Scene.visits` lists the scene that
each callback finds, and `Scene.deeds` is everything that the strategy and the bus
notice of one callback.
-/

namespace StrategyHost.Strategy

open StrategyHost.Outbound (Queue)

/-- The callbacks among occurrences. -/
def callbacksOf (occurrences : List Occurrence) : List Callback :=
  occurrences.filterMap fun
    | .called callback => some callback
    | _ => none

/-- The occurrences that are not merely written to the log. -/
def deedsOf (occurrences : List Occurrence) : List Occurrence :=
  occurrences.filter fun
    | .logged _ => false
    | _ => true

@[simp] theorem callbacksOf_append (first second : List Occurrence) :
    callbacksOf (first ++ second) = callbacksOf first ++ callbacksOf second :=
  List.filterMap_append

@[simp] theorem deedsOf_append (first second : List Occurrence) :
    deedsOf (first ++ second) = deedsOf first ++ deedsOf second :=
  List.filter_append first second

@[simp] theorem callbacksOf_map_logged (entries : List Journal.Entry) :
    callbacksOf (entries.map .logged) = [] := by
  induction entries with
  | nil => rfl
  | cons entry rest inductionHypothesis => exact inductionHypothesis

@[simp] theorem deedsOf_map_logged (entries : List Journal.Entry) :
    deedsOf (entries.map .logged) = [] := by
  induction entries with
  | nil => rfl
  | cons entry rest inductionHypothesis => exact inductionHypothesis

@[simp] theorem callbacksOf_nil : callbacksOf [] = [] := rfl

@[simp] theorem deedsOf_nil : deedsOf [] = [] := rfl

section

variable (rest : List Occurrence)

@[simp] theorem callbacksOf_cons_called (callback : Callback) :
    callbacksOf (.called callback :: rest) = callback :: callbacksOf rest := rfl

@[simp] theorem callbacksOf_cons_logged (entry : Journal.Entry) :
    callbacksOf (.logged entry :: rest) = callbacksOf rest := rfl

@[simp] theorem callbacksOf_cons_asked (channels : List String) :
    callbacksOf (.asked channels :: rest) = callbacksOf rest := rfl

@[simp] theorem deedsOf_cons_called (callback : Callback) :
    deedsOf (.called callback :: rest) = .called callback :: deedsOf rest := rfl

@[simp] theorem deedsOf_cons_logged (entry : Journal.Entry) :
    deedsOf (.logged entry :: rest) = deedsOf rest := rfl

end

/-- Callbacks are deeds. -/
theorem callbacksOf_deedsOf (occurrences : List Occurrence) :
    callbacksOf (deedsOf occurrences) = callbacksOf occurrences := by
  induction occurrences with
  | nil => rfl
  | cons occurrence rest inductionHypothesis =>
    cases occurrence with
    | called callback => exact congrArg (callback :: ·) inductionHypothesis
    | _ => exact inductionHypothesis

namespace Desk

/-- A request leaves the sender at a desk alone. -/
@[simp] theorem sender_perform (desk : Desk) (queue : Queue) (request : Request) :
    (desk.perform queue request).desk.sender = desk.sender := by
  cases request <;> rfl

end Desk

namespace Program

variable {Result : Type}

/-- A program leaves the sender at its desk alone. -/
@[simp] theorem sender_run (program : Program Result) (desk : Desk) (queue : Queue) :
    (program.run desk queue).desk.sender = desk.sender := by
  induction program generalizing desk queue with
  | done result => rfl
  | act request next inductionHypothesis =>
    have performed := desk.sender_perform queue request
    have rest := inductionHypothesis (desk.perform queue request).reply
      (desk.perform queue request).desk (desk.perform queue request).queue
    exact rest.trans performed

/-- A program calls no callbacks. -/
@[simp] theorem callbacksOf_run (program : Program Result) (desk : Desk) (queue : Queue) :
    callbacksOf (program.run desk queue).occurrences = [] := by
  induction program generalizing desk queue with
  | done result => rfl
  | act request next inductionHypothesis =>
    have rest := inductionHypothesis (desk.perform queue request).reply
      (desk.perform queue request).desk (desk.perform queue request).queue
    rw [run, callbacksOf_append, callbacksOf_map_logged]
    exact rest

end Program

variable {Memory : Type}

/-- What a callback finds: its strategy's memory, the desk, and the queue. -/
structure Scene (Memory : Type) where
  memory : Memory
  desk : Desk
  queue : Queue

/-- The scene of a host with a queue. -/
def Host.scene (host : Host Memory) (queue : Queue) : Scene Memory :=
  ⟨host.memory, host.desk, queue⟩

/-- The scene that a callback of a run would find. -/
def Run.scene (run : Run Memory) : Scene Memory :=
  run.host.scene run.queue

namespace Scene

/-- What comes of a callback before anyone else acts. -/
def outcome (strategy : Strategy Memory) (scene : Scene Memory) (callback : Callback) :
    Program.Outcome Memory :=
  (strategy.program scene.memory callback).run scene.desk scene.queue

/-- The scene that is left once the requested channels have been taken, which
happens after every callback but the last. -/
def after (strategy : Strategy Memory) (scene : Scene Memory) (callback : Callback) :
    Scene Memory :=
  let outcome := scene.outcome strategy callback
  ⟨outcome.result, if callback = .exit then outcome.desk else outcome.desk.cleared, outcome.queue⟩

/-- The subscription to requested channels, if there are any. -/
def askedFor : List String -> List Occurrence
  | [] => []
  | channels => [.asked channels]

/-- The subscriptions that follow a callback at the desk which it has left. -/
def subscriptions (desk : Desk) : Callback -> List Occurrence
  | .init => desk.responseChannel?.toList.map (fun channel => .asked [channel])
      ++ askedFor desk.requested
  | .tick _ | .response _ => askedFor desk.requested
  | .exit => []

/-- A callback with what it does and what is subscribed to afterwards. -/
def deeds (strategy : Strategy Memory) (scene : Scene Memory) (callback : Callback) :
    List Occurrence :=
  let outcome := scene.outcome strategy callback
  .called callback :: deedsOf outcome.occurrences ++ subscriptions outcome.desk callback

/-- Callbacks in turn, each with the scene that it finds. -/
def visits (strategy : Strategy Memory) (scene : Scene Memory) :
    List Callback -> List (Callback × Scene Memory)
  | [] => []
  | callback :: rest => (callback, scene) :: (scene.after strategy callback).visits strategy rest

/-- Everything that comes of callbacks in turn. -/
def deedsAll (strategy : Strategy Memory) (scene : Scene Memory) (callbacks : List Callback) :
    List Occurrence :=
  (scene.visits strategy callbacks).flatMap fun visit => visit.2.deeds strategy visit.1

/-- The scene that callbacks in turn leave. -/
def afterAll (strategy : Strategy Memory) (scene : Scene Memory) (callbacks : List Callback) :
    Scene Memory :=
  callbacks.foldl (Scene.after strategy) scene

@[simp] theorem sender_after (strategy : Strategy Memory) (scene : Scene Memory)
    (callback : Callback) : (scene.after strategy callback).desk.sender = scene.desk.sender := by
  unfold after outcome
  split
  · simp
  · simp [Desk.cleared]

@[simp] theorem callbacksOf_askedFor (channels : List String) :
    callbacksOf (askedFor channels) = [] := by
  cases channels <;> rfl

@[simp] theorem callbacksOf_subscriptions (desk : Desk) (callback : Callback) :
    callbacksOf (subscriptions desk callback) = [] := by
  cases callback with
  | init => cases responseChannel : desk.responseChannel? <;> simp [subscriptions, responseChannel]
  | exit => rfl
  | _ => exact callbacksOf_askedFor desk.requested

@[simp] theorem callbacksOf_deeds (strategy : Strategy Memory) (scene : Scene Memory)
    (callback : Callback) : callbacksOf (scene.deeds strategy callback) = [callback] := by
  simp [deeds, outcome, callbacksOf_deedsOf]

/-- The callbacks among all the deeds are the callbacks themselves. -/
theorem callbacksOf_deedsAll (strategy : Strategy Memory) (scene : Scene Memory)
    (callbacks : List Callback) : callbacksOf (scene.deedsAll strategy callbacks) = callbacks := by
  induction callbacks generalizing scene with
  | nil => rfl
  | cons callback rest inductionHypothesis =>
    have later := inductionHypothesis (scene.after strategy callback)
    rw [deedsAll, visits, List.flatMap_cons, callbacksOf_append, callbacksOf_deeds]
    exact congrArg (callback :: ·) later

/-- After any callback but the last no channel is requested. -/
theorem requested_after {callback : Callback} (strategy : Strategy Memory) (scene : Scene Memory)
    (notExit : callback ≠ .exit) : (scene.after strategy callback).desk.requested = [] := by
  simp [after, notExit, Desk.cleared]

end Scene

namespace Change

variable (strategy : Strategy Memory) (callback : Callback) (ending : Ending) (run : Run Memory)

@[simp] theorem callbacksOf_call : callbacksOf (call strategy callback run).2 = [callback] := by
  simp [call]

@[simp] theorem deedsOf_call :
    deedsOf (call strategy callback run).2 =
      .called callback :: deedsOf (run.scene.outcome strategy callback).occurrences := rfl

/-- At its end a run calls its strategy's last callback. -/
@[simp] theorem callbacksOf_finish : callbacksOf (finish strategy ending run).2 = [.exit] := by
  simp [finish, andThen, logFrom, enter, await]

@[simp] theorem deedsOf_finish :
    deedsOf (finish strategy ending run).2 =
      .called .exit :: deedsOf (run.scene.outcome strategy .exit).occurrences := by
  simp [finish, andThen, logFrom, enter, await, Run.scene, Host.scene]

theorem scene_finish :
    (finish strategy ending run).1.scene = run.scene.after strategy .exit := rfl

end Change

end StrategyHost.Strategy
