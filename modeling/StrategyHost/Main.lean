import Std.Time.Format
import StrategyHost.CommandLine.SetUp
import StrategyHost.CommandLine.Usage
import StrategyHost.Journal.Moment

/-!
# The program

Looks at the disk and the environment, lets the library decide what follows, and
writes what it decided. No broker can be reached from here, so the program ends
with the attempt to connect.
-/

namespace StrategyHost.Program

open StrategyHost.CommandLine (Invocation Session Surroundings)
open StrategyHost.Journal (Entry Moment)

/-- What can be read from a handle: the content of a file, or nothing of a directory. -/
def readThrough (handle : IO.FS.Handle) : IO FileTree :=
  try return .file (<- handle.readBinToEnd).toList
  catch _ => return .directory []

/-- What is at a path on the disk. -/
def probe (path : String) : IO (Option FileTree) :=
  try return some (<- readThrough (<- IO.FS.Handle.mk path .read))
  catch _ => return none

/-- The tree with what is on the disk along a path, as far as there is something. -/
def record (tree : FileTree) (place : List String) : List String -> IO FileTree
  | [] => return tree
  | part :: rest => do
    if part = "" || part = "." then record tree place rest
    else if part = ".." then record tree place.dropLast rest
    else
      let here := place ++ [part]
      match <- probe ("/" ++ "/".intercalate here) with
      | none => return tree
      | some found =>
        match tree.insert found here with
        | .ok grown => record grown here rest
        | .error _ => return tree

/-- The tree with what is on the disk along several paths. -/
def recordAll (workingDirectory : List String) (tree : FileTree) : List String -> IO FileTree
  | [] => return tree
  | path :: rest => do
    let parts := FileTree.startOf workingDirectory path ++ FileTree.pathParts path
    recordAll workingDirectory (<- record tree [] parts) rest

/-- The paths that matter once the configuration is known. -/
def pathsOf (invocation : Invocation) (config : Config) : List String :=
  let socket :=
    match Broker.Address.read config.bus.url with
    | .ok (.socket path _) => [(Broker.textualStart path).1]
    | _ => []
  config.contractsFile :: (invocation.logDirectory? <|> config.logPath?).toList ++ socket

/-- The part of the disk that a command line is about. -/
def look (workingDirectory arguments : List String) : IO FileTree := do
  let bare <- recordAll workingDirectory (.directory []) ["."]
  match CommandLine.read arguments with
  | .accepted invocation =>
    let tree <- recordAll workingDirectory bare [invocation.configPath]
    match (Config.load (tree.read workingDirectory) invocation.configPath).result with
    | .ok config => recordAll workingDirectory tree (pathsOf invocation config)
    | .error _ => return tree
  | _ => return bare

/-- The present moment. -/
def now : IO Moment := do
  let nanoseconds := (<- Std.Time.Timestamp.now).toNanosecondsSinceUnixEpoch.val
  return ⟨nanoseconds.toNat / 1000⟩

/-- Add lines to the log file. -/
def writeLog (place : List String) (lines : List String) : IO Unit := do
  IO.FS.createDirAll ("/" ++ "/".intercalate place.dropLast)
  let handle <- IO.FS.Handle.mk ("/" ++ "/".intercalate place) .append
  for line in lines do handle.putStrLn line

/-- Show how the set-up ended. -/
def report (session : Session) : IO Unit := do
  for notice in session.notices do IO.eprintln notice
  for entry in session.entries do
    IO.println (entry.consoleLine .main (<- now).text)
  match session.logFile? with
  | some place =>
    let stamp := (<- now).text
    writeLog place (session.entries.map (·.fileLine .main stamp))
  | none => pure ()
  match session.exit with
  | .rejected => IO.eprintln CommandLine.usage
  | .help => IO.print CommandLine.helpText
  | .failed message => IO.eprintln ("Error: " ++ message)
  | .logUnavailable => IO.eprintln "initializing rolling file appender failed"
  | .ready .. => pure ()

/-- Run the program. -/
def run (arguments : List String) : IO UInt32 := do
  let workingDirectory := FileTree.pathParts (<- IO.currentDir).toString
  let session := CommandLine.setUp {
    root := <- look workingDirectory arguments
    workingDirectory := workingDirectory.filter (· != "")
    logFilter? := <- IO.getEnv "RUST_LOG"
    date := (<- now).date.text } arguments
  report session
  return session.exit.code

end StrategyHost.Program

/-- Run the program with the arguments that it was given. -/
def main (arguments : List String) : IO UInt32 :=
  StrategyHost.Program.run arguments
