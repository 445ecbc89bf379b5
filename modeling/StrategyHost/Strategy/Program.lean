import StrategyHost.Strategy.Desk

/-!
# Programs of strategies

A callback as a program: requests in sequence, each allowed to depend on the
replies before it, and a result. Running one at a desk gives the result, the desk
and queue it leaves, and what happened on the way.
-/

namespace StrategyHost

open StrategyHost.Journal (Entry)
open StrategyHost.Market (Tick)
open StrategyHost.Outbound (Queue)
open StrategyHost.Trade (Response)

namespace Strategy

/-- Requests in sequence that end with a result. -/
inductive Program (Result : Type) where
  | done (result : Result)
  | act (request : Request) (next : request.Reply -> Program Result)

/-- A call of one of the strategy's callbacks. -/
inductive Callback where
  | init
  | tick (tick : Tick)
  | response (response : Response)
  | exit
  deriving DecidableEq

/-- Something that happens while a strategy is hosted. -/
inductive Occurrence where
  | called (callback : Callback)
  | performed (request : Request) (reply : request.Reply)
  /-- The bus is asked to subscribe to channels. -/
  | asked (channels : List String)
  | logged (entry : Entry)

/-- The log entries among occurrences. -/
def entriesOf (occurrences : List Occurrence) : List Entry :=
  occurrences.filterMap fun
    | .logged entry => some entry
    | _ => none

namespace Program

variable {First Second : Type}

/-- One program after the other. -/
def bind (program : Program First) (next : First -> Program Second) : Program Second :=
  match program with
  | done result => next result
  | act request continue_ => act request fun reply => (continue_ reply).bind next

instance : Monad Program where
  pure := done
  bind := bind

/-- One request, with its reply as the result. -/
def request (request : Request) : Program request.Reply :=
  act request done

/-- What running a program led to. -/
structure Outcome (Result : Type) where
  result : Result
  desk : Desk
  queue : Queue
  occurrences : List Occurrence

/-- Run a program at a desk. The entries of a request come before its reply. -/
def run (desk : Desk) (queue : Queue) : Program First -> Outcome First
  | done result => ⟨result, desk, queue, []⟩
  | act request next =>
    let performed := desk.perform queue request
    let rest := run performed.desk performed.queue (next performed.reply)
    { rest with
      occurrences :=
        performed.entries.map .logged ++ .performed request performed.reply :: rest.occurrences }

end Program

end Strategy

/-- A strategy: what it does when it is called. `Memory` is its own state, which
each callback takes and leaves. -/
structure Strategy (Memory : Type) where
  onInit : Memory -> Strategy.Program Memory
  onTick : Memory -> Tick -> Strategy.Program Memory
  onResponse : Memory -> Response -> Strategy.Program Memory
  onExit : Memory -> Strategy.Program Memory

namespace Strategy

/-- The strategy that only notes its ticks. -/
def idle : Strategy Unit where
  onInit _ := pure ()
  onTick _ tick := do
    let _ <- Program.request (.note (.tickIgnored tick))
    return ()
  onResponse _ _ := pure ()
  onExit _ := pure ()

/-- The program of a callback. -/
def program {Memory : Type} (strategy : Strategy Memory) (memory : Memory) :
    Callback -> Program Memory
  | .init => strategy.onInit memory
  | .tick tick => strategy.onTick memory tick
  | .response response => strategy.onResponse memory response
  | .exit => strategy.onExit memory

end Strategy

end StrategyHost
