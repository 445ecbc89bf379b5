import StrategyHost.Strategy.Feed

/-!
# Sessions

Successive runs of one host. Its queue, what its strategy remembers, and where its
messages come from are carried over from one run to the next.
-/

namespace StrategyHost.Strategy

open StrategyHost.Bus (Local)
open StrategyHost.Outbound (Queue)

/-- Where the messages of a session's runs come from. -/
inductive Source where
  /-- A script, of which the results of subscriptions are carried over. -/
  | script (results : List (Except Failure Unit))
  /-- A subscriber of a local bus, and a publisher with which to reach it. -/
  | bus (bus : Local) (subscriber publisher : Nat)

/-- A host between its runs. -/
structure Session (Memory : Type) where
  host : Host Memory
  queue : Queue
  source : Source

/-- What a run of a session led to. -/
structure Ran (Memory : Type) where
  ending : Ending
  session : Session Memory
  occurrences : List Occurrence

variable {Memory : Type}

/-- A run that has been followed, as that of a session. -/
def Followed.ran {State : Type} (followed : Followed Memory State) (source : State -> Source) :
    Ran Memory where
  ending := followed.run.ending?.getD .cancelled
  session := ⟨followed.run.host, followed.run.queue, source followed.state⟩
  occurrences := followed.occurrences

/-- What is done with a bus before a run: messages are published, and unless there
may be more the bus is given up. -/
def publishing (publisher : Nat) (deliveries : List Delivery) (waitsAtEnd : Bool) :
    List Bus.Action :=
  let publications := deliveries.filterMap fun
    | .message message => some (Bus.Action.publish publisher message)
    | _ => none
  publications ++ if waitsAtEnd then [] else [.dropPublisher publisher, .dropBus]

/-- Run the host of a session with deliveries, after which the source waits for ever
or closes. -/
def Session.run (strategy : Strategy Memory) (session : Session Memory)
    (deliveries : List Delivery) (waitsAtEnd : Bool) : Ran Memory :=
  match session.source with
  | .script results =>
    let script : Script := ⟨results, deliveries, waitsAtEnd⟩
    (session.host.run strategy Script.feed script session.queue).ran (.script ·.results)
  | .bus bus subscriber publisher =>
    let (_, ready, _) := bus.performAll (publishing publisher deliveries waitsAtEnd)
    (session.host.runOnBus strategy ready subscriber session.queue).ran
      (.bus · subscriber publisher)

end StrategyHost.Strategy
