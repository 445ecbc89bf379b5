import StrategyHost.Strategy.Program

/-!
# Plans

A strategy that performs requests it was given beforehand, whatever it receives.
Its memory is the number of ticks and of responses so far.
-/

namespace StrategyHost.Strategy

/-- The requests for each callback. -/
structure Plan where
  atInit : List Request
  atExit : List Request
  /-- The requests for the first ticks, each followed by those for every tick. -/
  atTick : List (List Request)
  atEveryTick : List Request
  /-- The requests for the first responses, each followed by those for every
  response. -/
  atResponse : List (List Request)
  atEveryResponse : List Request

namespace Plan

/-- How many ticks and responses there have been. -/
structure Progress where
  ticks : Nat
  responses : Nat
  deriving DecidableEq, Repr

/-- Perform requests, whatever the replies. -/
def perform : List Request -> Program Unit
  | [] => pure ()
  | request :: rest => do
    let _ <- Program.request request
    perform rest

/-- The strategy that follows a plan. -/
def strategy (plan : Plan) : Strategy Progress where
  onInit progress := do
    perform plan.atInit
    return progress
  onTick progress _ := do
    perform (plan.atTick[progress.ticks]?.getD [] ++ plan.atEveryTick)
    return { progress with ticks := progress.ticks + 1 }
  onResponse progress _ := do
    perform (plan.atResponse[progress.responses]?.getD [] ++ plan.atEveryResponse)
    return { progress with responses := progress.responses + 1 }
  onExit progress := do
    perform plan.atExit
    return progress

end Plan

end StrategyHost.Strategy
