/-!
# Stages of a run

Where a hosted strategy stands: before its subscriptions, between them and the
first message, receiving, or done.
-/

namespace StrategyHost.Strategy

/-- The stages of a run, in the order in which they are entered. -/
inductive Stage where
  | init
  | subscribed
  | running
  | exit
  deriving DecidableEq, Repr

namespace Stage

/-- The name of a stage in messages. -/
def text : Stage -> String
  | init => "INIT"
  | subscribed => "SUBSCRIBED"
  | running => "RUNNING"
  | exit => "EXIT"

end Stage

end StrategyHost.Strategy
