import StrategyHost.Broker.Address
import StrategyHost.FileTree
import StrategyHost.Retry.Attempt

/-!
# Connecting to a broker

Opening a connection for one of the two halves of the bus, and trying again while
the broker cannot be reached.
-/

namespace StrategyHost.Broker

open StrategyHost.Retry (Backoff Limits Report)

/-- The two halves of the bus, each with a connection of its own. -/
inductive Half where
  | publisher
  | subscriber
  deriving DecidableEq, Repr

namespace Half

/-- What connecting a half is called in messages. -/
def activity : Half -> String
  | publisher => "redis publisher connect"
  | subscriber => "redis subscriber connect"

end Half

/-- Why a broker cannot be reached. -/
inductive Unreachable where
  | path (fault : FileTree.Fault)
  | pathTooLong
  | nulInPath
  | refused
  deriving DecidableEq, Repr

namespace Unreachable

/-- The wording of a cause. -/
def message : Unreachable -> String
  | path fault => fault.message
  | pathTooLong => "path must be shorter than SUN_LEN"
  | nulInPath => "paths must not contain interior null bytes"
  | refused => "Connection refused (os error 111)"

/-- A cause as callers see it. -/
def toFailure (cause : Unreachable) : Failure :=
  .connection cause.message

end Unreachable

/-- The number of bytes that the path of a socket has to stay below. -/
def socketPathLimit : Nat := 108

/-- The start of a path up to its first name that is not text, and whether it is
the whole path. A start ends with a slash. -/
def textualStart (path : List UInt8) : String × Bool :=
  let names := (Text.splitOn 0x2F path).map Text.Utf8.decode?
  if names.all Option.isSome then (String.intercalate "/" names.reduceOption, true)
  else (String.intercalate "/" ((names.takeWhile Option.isSome).reduceOption ++ [""]), false)

/-- The fault in finding a path of bytes, if there is one. Every file that is there
has text as its name, so none has a name that is not. -/
def pathFault? (find : String -> Except FileTree.Fault FileTree) (path : List UInt8) :
    Option FileTree.Fault :=
  let (start, isWhole) := textualStart path
  match find start with
  | .error fault => some fault
  | .ok _ => if isWhole then none else some .notFound

/-- Why a broker cannot be reached, given how paths lead through the file system:
a socket is missing, or else nobody listens. -/
def unreachable (find : String -> Except FileTree.Fault FileTree) : Address -> Unreachable
  | .network .. => .refused
  | .socket path _ =>
    if path.contains 0 then .nulInPath
    else if socketPathLimit <= path.length then .pathTooLong
    else
      match pathFault? find path with
      | some fault => .path fault
      | none => .refused

/-- What became of connecting. -/
structure Connected where
  ending : Retry.Ending
  backoff : Backoff
  delays : List Delay
  entries : List Journal.Entry

/-- Connect a half to a broker that stays as it is. The address is read before the
first attempt. -/
def connect (find : String -> Except FileTree.Fault FileTree) (half : Half) (url : String)
    (backoff : Backoff) : Connected :=
  match Address.read url with
  | .error fault => ⟨.failed (fault.toFailure url), backoff, [], []⟩
  | .ok address =>
    let report := Retry.attempt half.activity
      (fun _ => .error (unreachable find address).toFailure) backoff
    ⟨report.ending, report.backoff, report.delays, report.entries⟩

end StrategyHost.Broker
