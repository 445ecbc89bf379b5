import StrategyHost.Broker.Connect
import StrategyHost.CommandLine.Arguments
import StrategyHost.Config.Document
import StrategyHost.Contract.File
import StrategyHost.Journal.Sink

/-!
# Setting up the program

What the program does from its command line up to the connection to the broker:
read the configuration, install logging, load the contracts, connect. The first
step that fails ends it.
-/

namespace StrategyHost.CommandLine

open StrategyHost.Journal (Entry Settings Sink)

/-- What the program finds around it. -/
structure Surroundings where
  root : FileTree
  workingDirectory : List String
  /-- The log filter that the environment gives, if it does. -/
  logFilter? : Option String
  date : String

namespace Surroundings

/-- The way to read files. -/
def reader (surroundings : Surroundings) : FileTree.Reader :=
  surroundings.root.read surroundings.workingDirectory

/-- The way to find files. -/
def finder (surroundings : Surroundings) : String -> Except FileTree.Fault FileTree :=
  surroundings.root.find surroundings.workingDirectory

end Surroundings

/-- How the set-up ends. -/
inductive Exit where
  /-- The command line is not one of the program's. -/
  | rejected
  | help
  | failed (message : String)
  /-- Logging cannot be installed. -/
  | logUnavailable
  /-- Everything is ready. -/
  | ready (invocation : Invocation) (config : Config) (contracts : ContractTable)

namespace Exit

/-- The exit code of the program. -/
def code : Exit -> UInt32
  | rejected => 2
  | help => 0
  | failed _ => 1
  | logUnavailable => 101
  | ready .. => 0

end Exit

/-- What the set-up did. -/
structure Session where
  exit : Exit
  /-- Lines on standard error before the log begins. -/
  notices : List String
  /-- The entries that were written. -/
  entries : List Entry
  /-- The place of the log file. -/
  logFile? : Option (List String)
  root : FileTree

/-- The steps after logging has been installed: how they end, and what they log. -/
def prepare (surroundings : Surroundings) (invocation : Invocation) (config : Config) :
    Exit × List Entry :=
  let starting := Entry.starting invocation.configPath config.strategyId config.bus.url
  match ContractTable.load surroundings.reader config.contractsFile with
  | .error fault => (.failed fault.toFailure.message, [starting])
  | .ok (contracts, loaded) =>
    let connected := Broker.connect surroundings.finder .publisher config.bus.url
      config.reconnect.limits.fresh
    let entries := starting :: loaded ++ connected.entries
    match connected.ending with
    | .succeeded => (.ready invocation config contracts, entries)
    | .failed failure => (.failed failure.message, entries)
    | .overflow => (.failed Retry.overflowMessage, entries)

/-- The logging that a command line and a configuration ask for. -/
def logSettings (surroundings : Surroundings) (invocation : Invocation) (config : Config) :
    Settings where
  environment? := surroundings.logFilter?
  level := invocation.logLevel
  directory? := invocation.logDirectory? <|> config.logPath?
  moduleName := config.moduleName

/-- Set the program up. -/
def setUp (surroundings : Surroundings) (arguments : List String) : Session :=
  let quiet (exit : Exit) : Session := ⟨exit, [], [], none, surroundings.root⟩
  match read arguments with
  | .rejected => quiet .rejected
  | .help => quiet .help
  | .accepted invocation =>
    match (Config.load surroundings.reader invocation.configPath).result with
    | .error fault => quiet (.failed fault.message)
    | .ok config =>
      let settings := logSettings surroundings invocation config
      let attempt := settings.install surroundings.root surroundings.workingDirectory
        surroundings.date
      match attempt.result with
      | .error _ => { quiet .logUnavailable with notices := attempt.notices }
      | .ok (sink, root) =>
        let (exit, entries) := prepare { surroundings with root := root } invocation config
        ⟨exit, attempt.notices, sink.written entries, sink.file?, root⟩

end StrategyHost.CommandLine
