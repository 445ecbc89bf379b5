import StrategyHost.Binary64.Decimal
import StrategyHost.Journal.Entry
import StrategyHost.Journal.Pattern.Check
import StrategyHost.Text.Split
import StrategyHost.Text.Utf8

/-!
# Log filters

A filter is a list of directives between commas. A level alone is the threshold
for everything; with a target in front of it, for the components whose name
begins with the target. The longest target that fits decides, and what no
directive fits is not logged.
-/

namespace StrategyHost.Journal

/-- The most that is logged: nothing, or the entries that a level admits. -/
abbrev Threshold := Option Level

/-- Whether a threshold admits an entry of a level. -/
def Threshold.admits (threshold : Threshold) (level : Level) : Bool :=
  match threshold with
  | none => false
  | some most => most.admits level

/-- The threshold with a number. -/
def Threshold.ofNumber? : Nat -> Option Threshold
  | 0 => some none
  | 1 => some (some .error)
  | 2 => some (some .warn)
  | 3 => some (some .info)
  | 4 => some (some .debug)
  | 5 => some (some .trace)
  | _ => none

/-- The number with these digits, after an optional plus. -/
def number? (characters : List Char) : Option Nat :=
  let digits :=
    match characters with
    | '+' :: rest => rest
    | _ => characters
  if !digits.isEmpty && digits.all Char.isDigit then
    some (digits.foldl (fun value digit => 10 * value + (digit.toNat - '0'.toNat)) 0)
  else none

/-- The threshold that a text stands for: a number up to five, or a name in capital
or small letters. -/
def Threshold.read? (characters : List Char) : Option Threshold :=
  match (number? characters).bind Threshold.ofNumber? with
  | some threshold => some threshold
  | none =>
    match String.ofList (characters.map Char.toLower) with
    | "off" => some none
    | "error" => some (some .error)
    | "warn" => some (some .warn)
    | "info" => some (some .info)
    | "debug" => some (some .debug)
    | "trace" => some (some .trace)
    | _ => none

/-- What a directive asks for beside a target. -/
structure Scope where
  /-- A span of work within which entries are written. -/
  span? : Option String
  /-- A field that entries have, with the value it has if one is asked for. -/
  field? : Option String
  deriving DecidableEq, Repr

namespace Scope

/-- Nothing beside the target. -/
def anywhere : Scope := ⟨none, none⟩

/-- The one field of every entry. -/
def entryField : String := "message"

/-- Whether entries are in scope. They are written outside every span, and their
message is not compared with a value. -/
def holds (scope : Scope) : Bool :=
  scope.span?.isNone && scope.field?.all (· = entryField)

end Scope

/-- One directive of a filter. -/
structure Directive where
  target? : Option String
  scope : Scope
  threshold : Threshold
  deriving DecidableEq, Repr

/-- Why a directive cannot be used. -/
inductive DirectiveFault where
  | malformed
  /-- The value that a field is compared with is not a pattern. -/
  | field (fault : Pattern.Fault)
  | level
  deriving DecidableEq, Repr

namespace DirectiveFault

/-- The wording of a fault. -/
def message : DirectiveFault -> String
  | malformed => "invalid filter directive"
  | field fault => "invalid field filter: " ++ fault.message
  | level =>
    "error parsing level filter: expected one of \"off\", \"error\", \"warn\", \"info\", "
      ++ "\"debug\", \"trace\", or a number 0-5"

end DirectiveFault

/-- Why reading a directive ends early. -/
inductive Stop where
  | fault (fault : DirectiveFault)
  /-- A part of the directive begins or ends within a character. Nothing can be made of
  that, and reading the filter breaks down. -/
  | breakdown
  deriving DecidableEq, Repr

namespace Directive

/-- How far a directive has been read. A place is the number of bytes before it. -/
inductive Reading where
  | nothing
  | levelOrTarget
  | span (target? : Option String) (start : Nat)
  | field (target? : Option String) (span? : Option String) (start : Nat)
  | fieldEnd (target? : Option String) (scope : Scope)
  | spanEnd (target? : Option String) (scope : Scope)
  | level (target? : Option String) (scope : Scope) (start : Nat)
  deriving DecidableEq, Repr

/-- The characters from a place on. -/
def tail (given : List Char) (start : Nat) : Except Stop (List Char) :=
  match Text.Utf8.splitAt? start given with
  | some (_, after) => .ok after
  | none => .error .breakdown

/-- The text between two places. -/
def slice (given : List Char) (start stop : Nat) : Except Stop String := do
  match Text.Utf8.splitAt? (stop - start) (<- tail given start) with
  | some (before, _) => return String.ofList before
  | none => throw .breakdown

/-- The value that a field is compared with: it stands after the first equals sign, and
up to the second if there is one. -/
def value? (field : String) : Option (List Char) :=
  match field.toList.dropWhile (· != '=') with
  | [] => none
  | _ :: after => some (after.takeWhile (· != '='))

/-- Check the value that a field is compared with, if there is one: it has to be a
number or a pattern. -/
def checkField (field : String) : Except Stop Unit :=
  match value? field with
  | none => .ok ()
  | some value =>
    match Binary64.read value, Pattern.fault? value with
    | .error _, some fault => .error (.fault (.field fault))
    | _, _ => .ok ()

/-- Read the character at a place. -/
def Reading.step (given : List Char) (place : Nat) (character : Char) :
    Reading -> Except Stop Reading
  | nothing =>
    if character = '[' then return span none (place + 1)
    else if ['-', ':', '_'].contains character || Text.isLetterOrDigit character then
      return levelOrTarget
    else throw (.fault .malformed)
  | levelOrTarget => do
    if character = '=' then
      return level (some (<- slice given 0 place)) .anywhere (place + 1)
    else if character = '[' then return span (some (<- slice given 0 place)) (place + 1)
    else return levelOrTarget
  | span target? start => do
    if character = ']' then
      return spanEnd target? ⟨some (<- slice given start place), none⟩
    else if character = '\x7b' then
      let name <- slice given start place
      return field target? (if name.isEmpty then none else some name) (place + 1)
    else return span target? start
  | field target? span? start => do
    if character = '\x7d' then
      let name <- slice given start place
      if name.isEmpty then throw (.fault .malformed)
      checkField name
      return fieldEnd target? ⟨span?, some name⟩
    else return field target? span? start
  | fieldEnd target? scope =>
    if character = ']' then return spanEnd target? scope else throw (.fault .malformed)
  | spanEnd target? scope =>
    if character = '=' then return level target? scope (place + 1)
    else throw (.fault .malformed)
  | level target? scope start => return level target? scope start

/-- Read characters from a place on. -/
def Reading.steps (given : List Char) (place : Nat) (reading : Reading) :
    List Char -> Except Stop Reading
  | [] => .ok reading
  | character :: rest =>
    match reading.step given place character with
    | .error stop => .error stop
    | .ok next => next.steps given (place + character.utf8Size) rest

/-- Read a directive. Blanks at its ends are not looked at, but the places of its
parts are counted without those at the front and looked up with them. -/
def read (given : List Char) : Except Stop Directive := do
  match <- Reading.nothing.steps given 0 (Text.trim given) with
  | .levelOrTarget =>
    match Threshold.read? given with
    | some threshold => return ⟨none, .anywhere, threshold⟩
    | none => return ⟨some (String.ofList given), .anywhere, some .trace⟩
  | .level target? scope start =>
    match <- tail given start with
    | [] => return ⟨target?, scope, some .trace⟩
    | level =>
      match Threshold.read? level with
      | some threshold => return ⟨target?, scope, threshold⟩
      | none => throw (.fault .level)
  | .spanEnd target? scope => return ⟨target?, scope, some .trace⟩
  | _ => throw (.fault .malformed)

/-- Whether a directive applies to the entries of a component. -/
def fits (directive : Directive) (target : String) : Bool :=
  directive.scope.holds &&
    match directive.target? with
    | none => true
    | some start => start.toList.isPrefixOf target.toList

/-- How closely a directive describes what it applies to: by the length of its
target first, and then by whether it names a field. -/
def weight (directive : Directive) : Nat :=
  let targetWeight :=
    match directive.target? with
    | none => 0
    | some target => target.utf8ByteSize + 1
  2 * targetWeight + if directive.scope.field?.isSome then 1 else 0

end Directive

/-- A filter of log entries. -/
structure Filter where
  directives : List Directive
  deriving DecidableEq, Repr

namespace Filter

/-- The texts of the directives in a filter's text. -/
def parts (given : String) : List (List Char) :=
  (Text.splitOn ',' given.toList).filter fun part => !part.isEmpty

/-- The filter for everything up to a threshold. -/
def upTo (threshold : Threshold) : Filter := ⟨[⟨none, .anywhere, threshold⟩]⟩

/-- The filter of directives, or of a threshold where there are none. -/
def ofDirectives (directives : List Directive) (absent : Threshold) : Filter :=
  if directives.isEmpty then upTo absent else ⟨directives⟩

/-- Read a filter whose directives are all faultless. Without any, nothing is
logged. -/
def readStrict (given : String) : Except Stop Filter :=
  ((parts given).mapM Directive.read).map fun directives => ofDirectives directives none

/-- The notice about a directive that is left out. -/
def notice (part : List Char) (fault : DirectiveFault) : String :=
  "ignoring \x60" ++ String.ofList part ++ "\x60: " ++ fault.message

/-- Read directives and leave out those that are faulty, with a notice about each.
There are no directives where reading one of them breaks down, and then nothing
after it is looked at. -/
def readDirectives : List (List Char) -> Option (List Directive) × List String
  | [] => (some [], [])
  | part :: rest =>
    match Directive.read part with
    | .error .breakdown => (none, [])
    | .ok directive =>
      let (directives?, notices) := readDirectives rest
      (directives?.map (directive :: ·), notices)
    | .error (.fault fault) =>
      let (directives?, notices) := readDirectives rest
      (directives?, notice part fault :: notices)

/-- Read a filter and leave out the directives that are faulty. Without any others,
only errors are logged. -/
def readLossy (given : String) : Option Filter × List String :=
  let (directives?, notices) := readDirectives (parts given)
  (directives?.map fun directives => ofDirectives directives (some .error), notices)

/-- The filter that is in force: the environment's if it is set and faultless, or
else that of the given level; and the notices about directives left out. There is
none where reading either of them breaks down. -/
def select (environment? : Option String) (level : String) : Option Filter × List String :=
  match environment?.map readStrict with
  | some (.ok filter) => (some filter, [])
  | some (.error .breakdown) => (none, [])
  | some (.error (.fault _)) | none => readLossy level

/-- The directive that decides about a component: the closest, and of equally close
ones the last. -/
def deciding? (filter : Filter) (target : String) : Option Directive :=
  (filter.directives.filter fun directive => directive.fits target).foldl
    (fun best? directive =>
      match best? with
      | none => some directive
      | some best => if best.weight <= directive.weight then some directive else some best)
    none

/-- Whether an entry is logged. -/
def admits (filter : Filter) (entry : Entry) : Bool :=
  match filter.deciding? entry.component.target with
  | none => false
  | some directive => directive.threshold.admits entry.level

end Filter

end StrategyHost.Journal
