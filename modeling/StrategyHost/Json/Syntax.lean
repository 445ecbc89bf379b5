/-!
# JSON values

The value of a JSON document. Numbers keep their digits, because what they mean
depends on the member they are read for; a text that no character sequence
represents keeps its place without content.
-/

namespace StrategyHost.Json

/-- A number as it is written. -/
structure Numeral where
  negative : Bool
  /-- The digits before the point, most significant first. -/
  whole : List Nat
  /-- The digits after the point, none where there is no point. -/
  fraction : List Nat
  exponent? : Option Int
  deriving DecidableEq, Repr

/-- A JSON value. -/
inductive Value where
  | null
  | boolean (value : Bool)
  | number (numeral : Numeral)
  /-- A text, or nothing where a surrogate stands alone. -/
  | text (content? : Option String)
  | array (items : List Value)
  /-- Members in the order of the document, repeated names included. -/
  | object (members : List (Option String × Value))
  deriving Repr, Inhabited

end StrategyHost.Json
