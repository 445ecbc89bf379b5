import StrategyHost.Strategy.Program

/-!
# Watching tickers

A strategy that subscribes to tickers and shows what it receives. Its memory is
the number of ticks it has shown.
-/

namespace StrategyHost.Strategy.Watch

open StrategyHost.Journal (Entry)
open StrategyHost.Market (Tick)
open StrategyHost.Trade (Response)

/-- Write to the log. -/
def note (entry : Entry) : Program Unit :=
  Program.request (.note entry)

/-- Note the tickers that are not in the contract table. -/
def noteUnlisted : List String -> Program Unit
  | [] => pure ()
  | ticker :: rest => do
    match <- Program.request (.contractOf ticker) with
    | .ok _ => noteUnlisted rest
    | .error _ =>
      note (.tickerUnlisted ticker)
      noteUnlisted rest

/-- What a tick is shown under: the ticker of its contract, where there is one. -/
def label (contract? : Option Contract) : String :=
  match contract? with
  | some contract => contract.ticker
  | none => "?"

/-- How a response is shown. -/
def shown (response : Response) : Entry :=
  if response.isRejected then .rejectionShown response else .tradeShown response

/-- The strategy that watches tickers. -/
def strategy (tickers : List String) : Strategy Nat where
  onInit seen := do
    noteUnlisted tickers
    let () <- Program.request (.subscribe tickers)
    return seen
  onTick seen tick := do
    let contract? <- Program.request (.contractAt tick.tickerIndex)
    note (.tickShown (label contract?) tick)
    return seen + 1
  onResponse seen response := do
    note (shown response)
    return seen
  onExit seen := do
    note (.watchFinished seen)
    return seen

end StrategyHost.Strategy.Watch
