import StrategyHost.FileTree
import StrategyHost.Journal.Filter
import StrategyHost.Json.Printer

/-!
# Where the log goes

Log entries that pass the filter go to the console and, if there is a directory
for it, to a file of the day. Logging is installed once; a second attempt only
creates its file.
-/

namespace StrategyHost.Journal

/-- What logging is asked to do. -/
structure Settings where
  /-- The filter that the environment gives, if it does. -/
  environment? : Option String
  level : String
  directory? : Option String
  moduleName : String
  deriving DecidableEq, Repr

/-- Why logging cannot be installed. -/
inductive InstallFault where
  /-- Reading the filter breaks down. -/
  | filter
  /-- The log file cannot be created. -/
  | file (fault : FileTree.Fault)
  deriving DecidableEq, Repr

/-- Logging that has been installed. -/
structure Sink where
  filter : Filter
  /-- The place of the log file. -/
  file? : Option (List String)
  deriving DecidableEq, Repr

/-- What comes of an attempt to install logging. -/
structure Installation (Installed : Type) where
  /-- What was noticed on the way, also where the attempt fails. -/
  notices : List String
  result : Except InstallFault Installed

namespace Settings

/-- The name of the log file of a day. -/
def fileName (settings : Settings) (date : String) : String :=
  if settings.moduleName.isEmpty then date else settings.moduleName ++ "." ++ date

/-- The path of the log file of a day in a directory. -/
def filePath (settings : Settings) (directory date : String) : String :=
  let name := settings.fileName date
  if FileTree.isAbsolute name || directory.isEmpty then name
  else if directory.toList.getLast? = some '/' then directory ++ name
  else directory ++ "/" ++ name

/-- Install logging: the filter is read, and then the log file is created, with the
directories on the way to it. -/
def install (settings : Settings) (root : FileTree) (workingDirectory : List String)
    (date : String) : Installation (Sink × FileTree) :=
  let (filter?, notices) := Filter.select settings.environment? settings.level
  { notices := notices
    result :=
      match filter?, settings.directory? with
      | none, _ => .error .filter
      | some filter, none => .ok (⟨filter, none⟩, root)
      | some filter, some directory =>
        match root.create workingDirectory (settings.filePath directory date) with
        | .error fault => .error (.file fault)
        | .ok (changed, place) => .ok (⟨filter, some place⟩, changed) }

/-- The notice about logging that had been installed before. -/
def alreadyInstalled (settings : Settings) : String :=
  "[" ++ settings.moduleName
    ++ "] logging already initialized: a global default trace dispatcher has already been set"

/-- Install logging where it has been installed before: the file is created, and the
notices are all that comes of it. -/
def installAgain (settings : Settings) (root : FileTree) (workingDirectory : List String)
    (date : String) : Installation FileTree :=
  let attempt := settings.install root workingDirectory date
  match attempt.result with
  | .error fault => ⟨attempt.notices, .error fault⟩
  | .ok (_, changed) => ⟨attempt.notices ++ [settings.alreadyInstalled], .ok changed⟩

end Settings

namespace Sink

/-- The entries that are written. -/
def written (sink : Sink) (entries : List Entry) : List Entry :=
  entries.filter sink.filter.admits

end Sink

/-- A thread that writes entries. -/
inductive Thread where
  | main
  /-- A thread without a name, by its number. -/
  | numbered (number : Nat)
  deriving DecidableEq, Repr

namespace Thread

/-- The wording of a thread that has no name. -/
def numberText (digits : String) : String :=
  "ThreadId(" ++ digits ++ ")"

/-- A thread on the console, where a number has two digits at least. -/
def consoleName : Thread -> String
  | main => "main"
  | numbered number => numberText (Text.padded 2 number)

/-- A thread in a log file. -/
def fileName : Thread -> String
  | main => "main"
  | numbered number => numberText (Text.decimal number)

end Thread

namespace Entry

/-- A character as the console shows it. A control that a terminal would obey is
shown by its code point. -/
def consoleChar (character : Char) : List Char :=
  match character with
  | '\x07' | '\x08' | '\x0c' | '\x1b' | '\x7f' =>
    let code := character.toNat
    ['\\', 'x', Nat.digitChar (code / 16), Nat.digitChar (code % 16)]
  | _ =>
    if 0x80 <= character.toNat && character.toNat <= 0x9F then
      ['\\', 'u', '\x7b'] ++ Nat.toDigits 16 character.toNat ++ ['\x7d']
    else [character]

/-- An entry on the console. -/
def consoleLine (entry : Entry) (thread : Thread) (timestamp : String) : String :=
  let level := entry.level.text
  let padding := String.ofList (List.replicate (5 - level.length) ' ')
  timestamp ++ " " ++ padding ++ level ++ " " ++ thread.consoleName ++ " "
    ++ String.ofList (entry.message.toList.flatMap consoleChar)

/-- An entry in a log file. -/
def fileLine (entry : Entry) (thread : Thread) (timestamp : String) : String :=
  Json.writeObject [
    ("timestamp", Json.writeText timestamp),
    ("level", Json.writeText entry.level.text),
    ("fields", Json.writeObject [("message", Json.writeText entry.message)]),
    ("target", Json.writeText entry.component.target),
    ("threadName", Json.writeText thread.fileName)]

end Entry

end StrategyHost.Journal
