import StrategyHost.Journal.Entry

/-!
# Processor cores

Binding the strategy's thread to a core, for the cores that there are.
-/

namespace StrategyHost.Processor

open StrategyHost.Journal (Entry)

/-- Bind to a core of a machine with so many: whether it was possible, and what
is logged about it. -/
def bind (cores core : Nat) : Bool × List Entry :=
  if core < cores then (true, [.coreBound core]) else (false, [.coreUnavailable core cores])

/-- Bind to a core if one is wanted. -/
def bindTo (cores : Nat) : Option Nat -> List Entry
  | none => []
  | some core => (bind cores core).2

end StrategyHost.Processor
