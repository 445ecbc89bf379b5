import StrategyHost.Bus.Local
import StrategyHost.Retry.Attempt

/-!
# Endpoints

Where commands are published: on a bus, or at a recorder that plays outcomes and
keeps what it was given.
-/

namespace StrategyHost.Outbound

open StrategyHost.Bus (Local Message)
open StrategyHost.Journal (Entry)
open StrategyHost.Retry (Outcome)

/-- Where commands are published: the outcome of one publication and what it
leaves behind. -/
structure Endpoint (State : Type) where
  publish : State -> (channel : String) -> (payload : List UInt8) ->
    Outcome × State × List Entry

namespace Endpoint

/-- Keep every publication, and play outcomes in turn. -/
def recorder (outcomes : List Outcome) : Endpoint (List Message) where
  publish kept channel payload :=
    (Retry.outcomeAt outcomes kept.length, kept ++ [⟨channel, payload⟩], [])

/-- Publish on a local bus, by the publisher with a number. -/
def onBus (number : Nat) : Endpoint Local where
  publish bus channel payload :=
    let (_, after, entries) := bus.perform (.publish number ⟨channel, payload⟩)
    (.ok (), after, entries)

end Endpoint

end StrategyHost.Outbound
