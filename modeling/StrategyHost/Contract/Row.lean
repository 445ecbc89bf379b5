import StrategyHost.Binary64.Decimal
import StrategyHost.Text.Blank
import StrategyHost.Text.Split

/-!
# Rows of the contract file

A row has at least six fields between commas: ticker, exchange, name, a
reserved one, size and price tick. Blanks around a field do not belong to it,
and a row of nothing but blanks is skipped.
-/

namespace StrategyHost.Contract

open StrategyHost.Text (IntegerFault)
open StrategyHost.Binary64 (LiteralFault)

/-- The fields of a row that describe a contract. -/
structure Row where
  ticker : String
  exchange : String
  name : String
  size : Int
  priceTick : Binary64
  deriving DecidableEq, Repr

/-- Why a row describes no contract. -/
inductive RowFault where
  | fieldCount (found : Nat)
  | emptyTicker
  | size (field : String) (fault : IntegerFault)
  | priceTick (field : String) (fault : LiteralFault)
  deriving DecidableEq, Repr

namespace RowFault

/-- The wording of a fault. -/
def reason : RowFault -> String
  | fieldCount found => "expected at least 6 fields, got " ++ Text.decimal found
  | emptyTicker => "empty ticker"
  | size field fault => "size '" ++ field ++ "': " ++ fault.message
  | priceTick field fault => "price_tick '" ++ field ++ "': " ++ fault.message

end RowFault

namespace Row

/-- The fields of a line, without the blanks around them. -/
def fields (line : List Char) : List (List Char) :=
  (Text.splitOn ',' line).map Text.trim

/-- The row of these fields. The first faulty field is reported. -/
def ofFields : List (List Char) -> Except RowFault Row
  | ticker :: exchange :: name :: _reserved :: size :: priceTick :: _more =>
    if ticker.isEmpty then .error .emptyTicker
    else
      match Text.readInt64 size with
      | .error fault => .error (.size (String.ofList size) fault)
      | .ok multiplier =>
        match Binary64.read priceTick with
        | .error fault => .error (.priceTick (String.ofList priceTick) fault)
        | .ok step =>
          .ok {
            ticker := String.ofList ticker
            exchange := String.ofList exchange
            name := String.ofList name
            size := multiplier
            priceTick := step }
  | fields => .error (.fieldCount fields.length)

/-- The row of a line, and none for a line of blanks. -/
def ofLine (line : List Char) : Except RowFault (Option Row) :=
  if line.all Text.isBlank then .ok none else (ofFields (fields line)).map some

end Row

end StrategyHost.Contract
