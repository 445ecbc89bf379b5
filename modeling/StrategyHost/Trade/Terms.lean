import StrategyHost.Failure

/-!
# Terms of an order

The closed vocabularies of orders. Each term has a code on the wire, a text,
and a name in JSON documents; the execution service fixes the codes.
-/

namespace StrategyHost.Trade

/-- A closed vocabulary with codes and texts. -/
class Vocabulary (Term : Type) where
  /-- What the vocabulary is called in messages. -/
  noun : String
  terms : List Term
  code : Term -> UInt32
  text : Term -> String
  jsonName : Term -> String

namespace Vocabulary

variable {Term : Type} [Vocabulary Term]

/-- The term with a code. -/
def ofCode? (code : UInt32) : Option Term :=
  (terms : List Term).find? fun term => Vocabulary.code term == code

/-- The term with a name in a JSON document. -/
def ofJsonName? (name : String) : Option Term :=
  (terms : List Term).find? fun term => jsonName term == name

variable (Term) in
/-- The term with a text, in capital or small ASCII letters. -/
def ofText (text : String) : Except Failure Term :=
  let lowered := text.map Char.toLower
  match (terms : List Term).find? fun term => Vocabulary.text term == lowered with
  | some term => .ok term
  | none => .error (.config ("unknown " ++ noun Term ++ ": " ++ lowered))

end Vocabulary

/-- What a command asks for. -/
inductive CommandType where
  | newOrder
  deriving DecidableEq, Repr

/-- Whether an order buys or sells. -/
inductive Direction where
  | buy
  | sell
  deriving DecidableEq, Repr

/-- The effect of an order on a futures position. -/
inductive Offset where
  | opening
  | closing
  | closeToday
  | closeYesterday
  deriving DecidableEq, Repr

/-- How an order is priced and how long it stands. -/
inductive OrderType where
  | limit
  | market
  | best
  | fillAndKill
  | fillOrKill
  deriving DecidableEq, Repr

/-- An order kills what it cannot fill at once unless it says otherwise. -/
instance : Inhabited OrderType := ⟨.fillAndKill⟩

instance : Vocabulary CommandType where
  noun := "CommandType"
  terms := [.newOrder]
  code | .newOrder => 1
  text | .newOrder => "new_order"
  jsonName | .newOrder => "NewOrder"

/-- The texts of directions. -/
def Direction.text : Direction -> String
  | buy => "buy"
  | sell => "sell"

instance : Vocabulary Direction where
  noun := "Direction"
  terms := [.buy, .sell]
  code
    | .buy => 1
    | .sell => 2
  text := Direction.text
  jsonName := Direction.text

/-- The texts of offsets. -/
def Offset.text : Offset -> String
  | opening => "open"
  | closing => "close"
  | closeToday => "close_today"
  | closeYesterday => "close_yesterday"

instance : Vocabulary Offset where
  noun := "Offset"
  terms := [.opening, .closing, .closeToday, .closeYesterday]
  code
    | .opening => 1
    | .closing => 2
    | .closeToday => 4
    | .closeYesterday => 8
  text := Offset.text
  jsonName := Offset.text

/-- The texts of order types. -/
def OrderType.text : OrderType -> String
  | limit => "limit"
  | market => "market"
  | best => "best"
  | fillAndKill => "fak"
  | fillOrKill => "fok"

instance : Vocabulary OrderType where
  noun := "OrderType"
  terms := [.limit, .market, .best, .fillAndKill, .fillOrKill]
  code
    | .limit => 1
    | .market => 2
    | .best => 3
    | .fillAndKill => 4
    | .fillOrKill => 5
  text := OrderType.text
  jsonName := OrderType.text

end StrategyHost.Trade
