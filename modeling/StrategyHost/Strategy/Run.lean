import StrategyHost.Bus.Message
import StrategyHost.Strategy.Program

/-!
# Runs of a strategy

A run of a hosted strategy as a machine that waits for the bus. It starts by
initialising the strategy, then makes one call on the bus after the other, and
moves on when it hears the answer. Wherever it stops, the strategy is told so
exactly once.
-/

namespace StrategyHost.Strategy

open StrategyHost.Bus (Message)
open StrategyHost.Journal (Entry)
open StrategyHost.Market (Tick)
open StrategyHost.Outbound (Queue)
open StrategyHost.Trade (Response)

/-- The two kinds of messages for a strategy. -/
inductive Route where
  | response
  | tick
  deriving DecidableEq, Repr

/-- A message on the response channel is a response, and any other is a tick. -/
def classify (channel : String) (responseChannel? : Option String) : Route :=
  if responseChannel? = some channel then .response else .tick

/-- How many messages of each kind a run has received. -/
structure Counts where
  ticks : Nat
  responses : Nat
  /-- Messages that could not be read. -/
  faults : Nat
  deriving DecidableEq, Repr

/-- How a run ended. -/
inductive Ending where
  | completed (counts : Counts)
  | failed (failure : Failure)
  | cancelled
  deriving DecidableEq, Repr

/-- What a run waits for. -/
inductive Phase where
  /-- The answer to the subscription of the response channel. -/
  | subscribingResponses (channel : String)
  /-- The answer to a subscription that the strategy has asked for, before or
  after the first message. -/
  | subscribing (channels : List String) (isReceiving : Bool)
  | receiving
  | finished (ending : Ending)
  deriving DecidableEq, Repr

/-- What stays of a hosted strategy between its runs. -/
structure Host (Memory : Type) where
  stage : Stage
  desk : Desk
  memory : Memory

/-- A run that has started. -/
structure Run (Memory : Type) where
  host : Host Memory
  queue : Queue
  counts : Counts
  phase : Phase

variable {Memory : Type}

/-- A change of a run, with what happens on the way. -/
abbrev Change (Memory : Type) := Run Memory -> Run Memory × List Occurrence

namespace Change

/-- One change after the other. -/
def andThen (first second : Change Memory) : Change Memory := fun run =>
  let (middle, before) := first run
  let (after, rest) := second middle
  (after, before ++ rest)

/-- Write to the log. -/
def log (entry : Entry) : Change Memory := fun run =>
  (run, [.logged entry])

/-- Log what depends on the run. -/
def logFrom (entry : Run Memory -> Entry) : Change Memory := fun run =>
  (run, [.logged (entry run)])

/-- Go over to a stage. -/
def enter (stage : Stage) : Change Memory := fun run =>
  ({ run with host := { run.host with stage := stage } },
    [.logged (.stageChanged run.host.stage stage)])

/-- Call the strategy. -/
def call (strategy : Strategy Memory) (callback : Callback) : Change Memory := fun run =>
  let outcome := (strategy.program run.host.memory callback).run run.host.desk run.queue
  ({ run with
      host := { run.host with desk := outcome.desk, memory := outcome.result }
      queue := outcome.queue },
    .called callback :: outcome.occurrences)

/-- Count a message. -/
def count (counted : Counts -> Counts) : Change Memory := fun run =>
  ({ run with counts := counted run.counts }, [])

/-- Wait for something. -/
def await (phase : Phase) : Change Memory := fun run =>
  ({ run with phase := phase }, [])

/-- End the run: tell the strategy, and leave the stage where it is. -/
def finish (strategy : Strategy Memory) (ending : Ending) : Change Memory :=
  logFrom (fun run => .exiting run.host.stage)
    |>.andThen (call strategy .exit)
    |>.andThen (enter .exit)
    |>.andThen (await (.finished ending))

/-- Wait for messages, through the stages on the way to the first. -/
def receive (isReceiving : Bool) : Change Memory :=
  if isReceiving then await .receiving
  else enter .subscribed |>.andThen (enter .running) |>.andThen (await .receiving)

/-- Subscribe to the channels that the strategy has asked for, if there are any. -/
def subscribeRequested (isReceiving : Bool) : Change Memory := fun run =>
  match run.host.desk.requested with
  | [] => receive isReceiving run
  | channels =>
    ({ run with
        host := { run.host with desk := run.host.desk.cleared }
        phase := .subscribing channels isReceiving },
      [.logged (.subscribing channels), .asked channels])

/-- Subscribe to the response channel, for a strategy that has one. -/
def subscribeResponses : Change Memory := fun run =>
  match run.host.desk.responseChannel? with
  | none => subscribeRequested false run
  | some channel =>
    ({ run with phase := .subscribingResponses channel }, [.asked [channel]])

/-- Hand a response to the strategy, or skip a payload that is none. -/
def takeResponse (strategy : Strategy Memory) (message : Message) : Change Memory :=
  match Response.decode message.payload with
  | .ok response =>
    count (fun counts => { counts with responses := counts.responses + 1 })
      |>.andThen (call strategy (.response response))
  | .error fault =>
    count (fun counts => { counts with faults := counts.faults + 1 })
      |>.andThen (log (.responseSkipped message.channel fault.toFailure))

/-- Hand a tick to the strategy, or skip a payload that is none. -/
def takeTick (strategy : Strategy Memory) (message : Message) : Change Memory :=
  match Tick.decode message.payload with
  | .ok tick =>
    count (fun counts => { counts with ticks := counts.ticks + 1 })
      |>.andThen (call strategy (.tick tick))
  | .error fault =>
    count (fun counts => { counts with faults := counts.faults + 1 })
      |>.andThen (log (.tickSkipped message.channel fault.toFailure))

/-- Hand a message to the strategy by its route. -/
def dispatch (strategy : Strategy Memory) (message : Message) : Change Memory := fun run =>
  match classify message.channel run.host.desk.responseChannel? with
  | .response => takeResponse strategy message run
  | .tick => takeTick strategy message run

end Change

/-- The call on the bus that a run waits for. -/
inductive Call where
  | subscribe (channels : List String)
  | receive
  deriving DecidableEq, Repr

/-- What the bus answers when it is asked for a message. -/
inductive Delivery where
  | message (message : Message)
  | closed
  | failed (failure : Failure)
  deriving DecidableEq, Repr

namespace Run

/-- The outstanding call of a run that is not finished. -/
def call? (run : Run Memory) : Option Call :=
  match run.phase with
  | .subscribingResponses channel => some (.subscribe [channel])
  | .subscribing channels _ => some (.subscribe channels)
  | .receiving => some .receive
  | .finished _ => none

/-- How the run ended, if it did. -/
def ending? (run : Run Memory) : Option Ending :=
  match run.phase with
  | .finished ending => some ending
  | _ => none

/-- Go on after the answer to a subscription. -/
def subscribed (strategy : Strategy Memory) (answer : Except Failure Unit) : Change Memory :=
  fun run =>
    match run.phase, answer with
    | .subscribingResponses _, .ok () => Change.subscribeRequested false run
    | .subscribing _ isReceiving, .ok () => Change.receive isReceiving run
    | .subscribingResponses _, .error failure | .subscribing _ _, .error failure =>
      Change.finish strategy (.failed failure) run
    | _, _ => (run, [])

/-- Go on after the answer to the question for a message. -/
def received (strategy : Strategy Memory) (delivery : Delivery) : Change Memory :=
  fun run =>
    match run.phase, delivery with
    | .receiving, .message message =>
      (Change.dispatch strategy message |>.andThen (Change.subscribeRequested true)) run
    | .receiving, .closed =>
      (Change.log .subscriptionClosed
        |>.andThen (Change.log
          (.runFinished run.counts.ticks run.counts.responses run.counts.faults))
        |>.andThen (Change.finish strategy (.completed run.counts))) run
    | .receiving, .failed failure =>
      (Change.log (.receiveFailed failure)
        |>.andThen (Change.finish strategy (.failed failure))) run
    | _, _ => (run, [])

/-- Abandon a run wherever it waits. -/
def cancel (strategy : Strategy Memory) : Change Memory := fun run =>
  match run.phase with
  | .finished _ => (run, [])
  | _ => Change.finish strategy .cancelled run

end Run

/-- Start a run. -/
def Host.start (strategy : Strategy Memory) (host : Host Memory) (queue : Queue) :
    Run Memory × List Occurrence :=
  (Change.enter .init
    |>.andThen (Change.call strategy .init)
    |>.andThen Change.subscribeResponses) ⟨host, queue, ⟨0, 0, 0⟩, .receiving⟩

end StrategyHost.Strategy
