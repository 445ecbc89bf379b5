import StrategyHost.Failure
import StrategyHost.FileTree
import StrategyHost.Journal.Entry
import StrategyHost.Retry.Backoff
import StrategyHost.StrategyId

/-!
# Configuration

The settings of one strategy process. Only the contract file has to be named;
everything else has a usual value.
-/

namespace StrategyHost

namespace Config

/-- How the process presents itself. -/
structure Module where
  name? : Option String
  logPath? : Option String
  deriving DecidableEq, Repr

/-- How the bus is reached. -/
structure BusSettings where
  url : String
  /-- What stands before a ticker in the name of its market data channel. -/
  channelPrefix : String
  deriving DecidableEq, Repr

namespace BusSettings

/-- The bus on this machine, with tickers as channel names. -/
def usual : BusSettings := ⟨"redis://127.0.0.1:6379", ""⟩

/-- The market data channel of a ticker. -/
def marketChannel (settings : BusSettings) (ticker : String) : String :=
  settings.channelPrefix ++ ticker

end BusSettings

/-- How often and how fast to try again, in whole milliseconds. -/
structure Reconnect where
  initial : Nat
  longest : Nat
  attempts : Nat
  deriving DecidableEq, Repr

namespace Reconnect

/-- From a tenth of a second to thirty seconds, ten times. -/
def usual : Reconnect := ⟨100, 30000, 10⟩

/-- The settings as those of a backoff. -/
def limits (reconnect : Reconnect) : Retry.Limits :=
  .ofMilliseconds reconnect.initial reconnect.longest reconnect.attempts

end Reconnect

/-- The capacity of the outbound queue that is not given one. -/
def usualQueueSize : Nat := 1024

end Config

/-- The settings of one strategy process. -/
structure Config where
  module? : Option Config.Module
  strategyId : String
  contractsFile : String
  bus : Config.BusSettings
  queueSize : Nat
  reconnect : Config.Reconnect
  /-- The processor core that the strategy is bound to. -/
  core? : Option Nat
  deriving DecidableEq, Repr

namespace Config

/-- The name of the process: its own, or else the strategy's. -/
def moduleName (config : Config) : String :=
  match config.module?.bind (·.name?) with
  | some name => name
  | none => if config.strategyId.isEmpty then "strategy" else config.strategyId

/-- The directory of log files, if there is one. -/
def logPath? (config : Config) : Option String :=
  config.module?.bind (·.logPath?)

/-- Why a configuration cannot be used. -/
inductive Fault where
  | unreadable (path : String) (fault : FileTree.Fault)
  | notText (path : String)
  /-- The document is not JSON, or not of the expected shape. -/
  | malformed
  | emptyQueue
  | delays (initial longest : Nat)
  deriving DecidableEq, Repr

namespace Fault

/-- What is wrong, for the faults that say so. -/
def reason? : Fault -> Option String
  | unreadable path fault => some ("cannot read " ++ path ++ ": " ++ fault.message)
  | notText path => some ("cannot read " ++ path ++ ": stream did not contain valid UTF-8")
  | malformed => none
  | emptyQueue => some "outbound_queue_size must be > 0"
  | delays initial longest =>
    some ("reconnect: need 0 < initial_ms <= max_ms, got " ++ Text.decimal initial ++ ".."
      ++ Text.decimal longest)

/-- The wording of a fault. -/
def message (fault : Fault) : String :=
  match fault.reason? with
  | some reason => (Failure.config reason).message
  | none => "config error"

end Fault

/-- What comes of reading a configuration, and what is logged about it. -/
structure Reading where
  result : Except Fault Config
  entries : List Journal.Entry

/-- Check the settings that depend on each other or on a range. An identifier of which the wire
cuts something off can be used all the same. -/
def check (config : Config) : Reading :=
  if config.queueSize = 0 then ⟨.error .emptyQueue, []⟩
  else if config.reconnect.initial = 0 || config.reconnect.longest < config.reconnect.initial then
    ⟨.error (.delays config.reconnect.initial config.reconnect.longest), []⟩
  else if WireId.size < config.strategyId.utf8ByteSize then
    ⟨.ok config, [.identifierTruncated config.strategyId]⟩
  else ⟨.ok config, []⟩

end Config

end StrategyHost
