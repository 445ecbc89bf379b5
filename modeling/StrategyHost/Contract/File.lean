import StrategyHost.Contract.Basic
import StrategyHost.Contract.Row
import StrategyHost.FileTree
import StrategyHost.Journal.Entry
import StrategyHost.Text.Utf8

/-!
# The contract file

A header line, whatever it holds, and a row for each contract. Rows are added
to the table one after the other; the first faulty line ends the reading.
-/

namespace StrategyHost.Contract

/-- Why a line of the contract file is refused. -/
inductive LineFault where
  | encoding
  | row (fault : RowFault)
  | duplicate (ticker : String)
  | tooMany
  deriving DecidableEq, Repr

/-- A refused line, by its number in the file. -/
structure FileFault where
  line : Nat
  fault : LineFault
  deriving DecidableEq, Repr

namespace FileFault

/-- A refused line as callers see it. -/
def toFailure (refused : FileFault) : Failure :=
  match refused.fault with
  | .encoding => .format refused.line "stream did not contain valid UTF-8"
  | .row fault => .format refused.line fault.reason
  | .duplicate ticker => .duplicateTicker ticker refused.line
  | .tooMany => .format refused.line "too many contracts"

end FileFault

/-- The contract of a row with its index. -/
def ofRow (index : UInt32) (row : Row) : Contract where
  tickerIndex := index
  ticker := row.ticker
  exchange := row.exchange
  name := row.name
  size := row.size
  priceTick := row.priceTick

/-- A line without a carriage return at its end. -/
def withoutReturn (line : List UInt8) : List UInt8 :=
  if line.getLast? = some 13 then line.dropLast else line

/-- The lines among the parts between newlines. A newline ends each part but the last,
which is a line only if there is something. -/
def linesOfParts : List (List UInt8) -> List (List UInt8)
  | [] => []
  | [last] => if last.isEmpty then [] else [last]
  | line :: rest => withoutReturn line :: linesOfParts rest

/-- The lines of a file, without their ends: a newline, and a carriage return before it. -/
def lines (content : List UInt8) : List (List UInt8) :=
  linesOfParts (Text.splitOn 10 content)

/-- What a line says: a row, or nothing. -/
def readLine (line : List UInt8) : Except LineFault (Option Row) :=
  match Text.Utf8.decode? line with
  | none => .error .encoding
  | some text =>
    match Row.ofLine text.toList with
    | .error fault => .error (.row fault)
    | .ok row? => .ok row?

end StrategyHost.Contract

namespace StrategyHost.ContractTable

open StrategyHost.Contract (LineFault FileFault Row)

/-- Add the contract of a row. Its ticker must be new, and its index must be a
32-bit number. -/
def addRow (table : ContractTable) (row : Row) : Except LineFault ContractTable :=
  if (table.byTicker? row.ticker).isSome then .error (.duplicate row.ticker)
  else if UInt32.size <= table.length + 1 then .error .tooMany
  else .ok ⟨table.contracts ++ [Contract.ofRow (UInt32.ofNat (table.length + 1)) row]⟩

/-- Add what a line describes. -/
def addLine (table : ContractTable) (line : List UInt8) : Except LineFault ContractTable :=
  match Contract.readLine line with
  | .error fault => .error fault
  | .ok none => .ok table
  | .ok (some row) => table.addRow row

/-- Add the lines from a number on. -/
def addLines (table : ContractTable) (number : Nat) :
    List (List UInt8) -> Except FileFault ContractTable
  | [] => .ok table
  | line :: rest =>
    match table.addLine line with
    | .error fault => .error ⟨number, fault⟩
    | .ok extended => addLines extended (number + 1) rest

/-- The table of a file. The first line is the header and is not looked at. -/
def ofBytes (content : List UInt8) : Except FileFault ContractTable :=
  addLines empty 2 (Contract.lines content).tail

/-- Why a contract file cannot be loaded. -/
inductive LoadFault where
  | cannotOpen (path : String) (fault : FileTree.Fault)
  | cannotRead (fault : FileTree.Fault)
  | refused (fault : FileFault)
  deriving DecidableEq, Repr

namespace LoadFault

/-- A fault as callers see it. -/
def toFailure : LoadFault -> Failure
  | cannotOpen path fault =>
    .config ("cannot open contract file " ++ path ++ ": " ++ fault.message)
  | cannotRead fault => .io fault.message
  | refused fault => fault.toFailure

end LoadFault

/-- Load the table from a path. A directory can be opened but not read. -/
def load (files : FileTree.Reader) (path : String) :
    Except LoadFault (ContractTable × List Journal.Entry) :=
  match files path with
  | .error .isDirectory => .error (.cannotRead .isDirectory)
  | .error fault => .error (.cannotOpen path fault)
  | .ok content =>
    match ofBytes content with
    | .error fault => .error (.refused fault)
    | .ok table => .ok (table, [.contractsLoaded table.length path])

end StrategyHost.ContractTable
