import StrategyHost.Binary64.Decimal
import StrategyHost.Text.Split
import StrategyHost.Trade.Order

/-!
# Arguments of the command line

A configuration path, options, and one of two commands with options of its own.
An attached value is looked at right away, and one that stands by itself when the
next option or path comes, so a request for help comes too late after a faulty
value that has been looked at and in time before one.
-/

namespace StrategyHost.CommandLine

open StrategyHost.Trade (Direction Offset Order Vocabulary)

/-- An option that takes a value. -/
structure Parameter where
  name : String
  letter? : Option Char
  repeats : Bool
  accepts : String -> Bool

/-- What has been read of a group of options. -/
structure Reading where
  /-- Values that have been looked at, by the names of their options. -/
  settled : List (String × String)
  /-- The option that came last, and its value if that has come. -/
  latest? : Option (Parameter × Option String)

namespace Reading

/-- Nothing read. -/
def empty : Reading := ⟨[], none⟩

/-- Whether an option has a value. -/
def has (reading : Reading) (name : String) : Bool :=
  reading.settled.any fun (key, _) => key == name

/-- Look at the value of the option that came last: it has to be there, to be of
the right form, and to be the only one unless the option repeats. -/
def settle (reading : Reading) : Option Reading :=
  match reading.latest? with
  | none => some reading
  | some (_, none) => none
  | some (parameter, some value) =>
    if (parameter.repeats || !reading.has parameter.name) && parameter.accepts value then
      some ⟨reading.settled ++ [(parameter.name, value)], none⟩
    else none

/-- Read an option after the one that came last. A value that is attached to it is
looked at right away. -/
def add (reading : Reading) (parameter : Parameter) (attached? : Option String) :
    Option Reading :=
  match reading.settle with
  | none => none
  | some settled =>
    let added : Reading := { settled with latest? := some (parameter, attached?) }
    if attached?.isSome then added.settle else some added

/-- Whether the option that came last still needs its value. -/
def awaits? (reading : Reading) : Option Parameter :=
  match reading.latest? with
  | some (parameter, none) => some parameter
  | _ => none

/-- The values of an option. -/
def values (reading : Reading) (name : String) : List String :=
  reading.settled.filterMap fun (key, value) => if key == name then some value else none

/-- The value of an option that does not repeat. -/
def value? (reading : Reading) (name : String) : Option String :=
  (reading.values name).head?

end Reading

/-- What one argument is by its form. -/
inductive Form where
  /-- Two dashes alone. -/
  | escape
  | help
  /-- A known option, with its value if that is attached. -/
  | option (parameter : Parameter) (value? : Option String)
  | unknownOption
  | plain

/-- What a known option of two dashes and a name amounts to. -/
def longForm (parameters : List Parameter) (name : String) (value? : Option String) : Form :=
  if name = "help" then if value?.isNone then .help else .unknownOption
  else
    match parameters.find? fun parameter => parameter.name == name with
    | some parameter => .option parameter value?
    | none => .unknownOption

/-- What a dash, a letter and more characters amount to. An equals sign before an
attached value does not belong to it. -/
def shortForm (parameters : List Parameter) (letter : Char) (attached : List Char) : Form :=
  if letter = 'h' then .help
  else
    match parameters.find? fun parameter => parameter.letter? == some letter with
    | none => .unknownOption
    | some parameter =>
      match attached with
      | [] => .option parameter none
      | '=' :: value => .option parameter (some (String.ofList value))
      | value => .option parameter (some (String.ofList value))

/-- The form of an argument. -/
def formOf (parameters : List Parameter) (argument : String) : Form :=
  match argument.toList with
  | ['-', '-'] => .escape
  | '-' :: '-' :: rest =>
    match rest.span (· != '=') with
    | (name, _ :: value) =>
      longForm parameters (String.ofList name) (some (String.ofList value))
    | (name, []) => longForm parameters (String.ofList name) none
  | '-' :: letter :: attached => shortForm parameters letter attached
  | _ => .plain

/-- What is to be done. -/
inductive Command where
  | watch (tickers : List String)
  | sendOrder (order : Order)
  deriving DecidableEq, Repr

/-- A complete command line. -/
structure Invocation where
  configPath : String
  logLevel : String
  logDirectory? : Option String
  command : Command
  deriving DecidableEq, Repr

/-- What a command line amounts to. -/
inductive Parsed where
  | rejected
  | help
  | accepted (invocation : Invocation)
  deriving DecidableEq, Repr

/-- What the options of a command amount to. -/
inductive Options where
  | rejected
  | help
  | accepted (reading : Reading)

/-- Read the options of a command. -/
def readOptions (parameters : List Parameter) (reading : Reading) : List String -> Options
  | [] =>
    match reading.settle with
    | some settled => .accepted settled
    | none => .rejected
  | argument :: rest =>
    match reading.awaits?, formOf parameters argument with
    | some parameter, .plain =>
      readOptions parameters { reading with latest? := some (parameter, some argument) } rest
    | some _, _ => .rejected
    | none, .escape =>
      match rest, reading.settle with
      | [], some settled => .accepted settled
      | _, _ => .rejected
    | none, .help => if reading.settle.isSome then .help else .rejected
    | none, .option parameter value? =>
      match reading.add parameter value? with
      | some added => readOptions parameters added rest
      | none => .rejected
    | none, .unknownOption | none, .plain => .rejected

/-- An option whose value may be any text. -/
def textOption (name : String) : Parameter := ⟨name, none, false, fun _ => true⟩

/-- A number of 32 bits in decimal digits, after an optional sign. -/
def readUInt32 (given : String) : Option UInt32 :=
  match Text.readInt64 given.toList with
  | .ok value => if 0 <= value && value < UInt32.size then some (UInt32.ofNat value.toNat) else none
  | .error _ => none

/-- An option whose value is a number of 32 bits. -/
def numberOption (name : String) : Parameter :=
  ⟨name, none, false, fun value => (readUInt32 value).isSome⟩

/-- A floating point number. -/
def readPrice (given : String) : Option Binary64 :=
  (Binary64.read given.toList).toOption

/-- A term by its text. -/
def readTerm (Term : Type) [Vocabulary Term] (given : String) : Option Term :=
  (Vocabulary.ofText Term given).toOption

/-- An option whose value is a term. -/
def termOption (Term : Type) [Vocabulary Term] (name : String) : Parameter :=
  ⟨name, none, false, fun value => (readTerm Term value).isSome⟩

/-- The options of the command that watches tickers. -/
def watchParameters : List Parameter := [⟨"tickers", none, true, fun _ => true⟩]

/-- The options of the command that sends an order. -/
def orderParameters : List Parameter :=
  [textOption "ticker", termOption Direction "direction", termOption Offset "offset",
   termOption Trade.OrderType "order-type", numberOption "volume",
   ⟨"price", none, false, fun value => (readPrice value).isSome⟩, numberOption "user-order-id"]

/-- The tickers to watch, between commas in each value; at least one value has to
be given. -/
def watchCommand (reading : Reading) : Option Command :=
  match reading.values "tickers" with
  | [] => none
  | values =>
    some (.watch (values.flatMap fun value =>
      (Text.splitOn ',' value.toList).map String.ofList))

/-- The order to send. It opens a position and kills what it cannot fill at once,
unless other terms are given. -/
def orderCommand (reading : Reading) : Option Command := do
  let ticker <- reading.value? "ticker"
  let direction <- (reading.value? "direction").bind (readTerm Direction)
  let volume <- (reading.value? "volume").bind readUInt32
  let price <- (reading.value? "price").bind readPrice
  let offset <- readTerm Offset ((reading.value? "offset").getD "open")
  let orderType <- readTerm Trade.OrderType ((reading.value? "order-type").getD "fak")
  let userOrderId <- readUInt32 ((reading.value? "user-order-id").getD "0")
  return .sendOrder ⟨ticker, direction, offset, orderType, volume, price, userOrderId⟩

/-- A command of the program: its options, and what they amount to. -/
structure Subcommand where
  name : String
  parameters : List Parameter
  read : Reading -> Option Command

/-- The commands of the program. -/
def subcommands : List Subcommand :=
  [⟨"watch", watchParameters, watchCommand⟩, ⟨"send-order", orderParameters, orderCommand⟩]

/-- The name of the command that shows help. -/
def helpName : String := "help"

/-- The options that stand before the command. -/
def programParameters : List Parameter :=
  [⟨"log-level", some 'l', false, fun _ => true⟩, textOption "log-dir"]

/-- The configuration path, as an option without a name. It must not be empty. -/
def configParameter : Parameter := ⟨"", none, false, fun value => !value.isEmpty⟩

/-- What follows the command that shows help: nothing, or one name of a command. -/
def readHelp : List String -> Parsed
  | [] => .help
  | [name] =>
    if name = helpName || subcommands.any fun subcommand => subcommand.name == name then .help
    else .rejected
  | _ => .rejected

/-- The level of a program that is not given one. -/
def usualLevel : String := "info"

/-- Read what follows the name of a command. -/
def readCommand (subcommand : Subcommand) (reading : Reading) (arguments : List String) :
    Parsed :=
  match readOptions subcommand.parameters .empty arguments with
  | .rejected => .rejected
  | .help => .help
  | .accepted options =>
    match subcommand.read options, reading.settle with
    | some command, some settled =>
      match settled.value? configParameter.name with
      | none => .rejected
      | some configPath =>
        .accepted {
          configPath := configPath
          logLevel := (settled.value? "log-level").getD usualLevel
          logDirectory? := settled.value? "log-dir"
          command := command }
    | _, _ => .rejected

/-- Read the arguments up to the name of a command. -/
def readProgram (reading : Reading) : List String -> Parsed
  | [] => .rejected
  | argument :: rest =>
    match reading.awaits?, formOf programParameters argument with
    | some parameter, .plain =>
      readProgram { reading with latest? := some (parameter, some argument) } rest
    | some _, _ => .rejected
    | none, .escape | none, .unknownOption => .rejected
    | none, .help => if reading.settle.isSome then .help else .rejected
    | none, .option parameter value? =>
      match reading.add parameter value? with
      | some added => readProgram added rest
      | none => .rejected
    | none, .plain =>
      if argument = helpName then readHelp rest
      else
        match subcommands.find? fun subcommand => subcommand.name == argument with
        | some subcommand => readCommand subcommand reading rest
        | none =>
          match reading.settle with
          | some settled =>
            if settled.has configParameter.name then .rejected
            else
              readProgram { settled with latest? := some (configParameter, some argument) } rest
          | none => .rejected

/-- Read a command line. -/
def read (arguments : List String) : Parsed :=
  readProgram .empty arguments

end StrategyHost.CommandLine
