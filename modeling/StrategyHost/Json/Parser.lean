import StrategyHost.Json.Token

/-!
# JSON documents

Putting tokens together. Open arrays and objects wait on a stack, so nesting is
limited by nothing but the document, and each token is looked at once.
-/

namespace StrategyHost.Json

namespace Parser

/-- An array or object that is still open, with what it holds so far, last
first. An object also has the name whose value comes next. -/
inductive Open where
  | array (items : List Value)
  | object (members : List (Option String × Value)) (name : Option String)
  deriving Repr

/-- What may come next. -/
inductive Expected where
  | value
  /-- A value, or the end of the array that has just been opened. -/
  | firstItem
  /-- A name, or the end of the object that has just been opened. -/
  | firstName (members : List (Option String × Value))
  | name (members : List (Option String × Value))
  | colon (members : List (Option String × Value)) (name : Option String)
  /-- A comma or an end, after this value; at the outermost level, nothing. -/
  | after (value : Value)
  deriving Repr

/-- How far a document has been read. -/
structure State where
  opened : List Open
  expected : Expected
  deriving Repr

/-- The state before the first token. -/
def State.initial : State := ⟨[], .value⟩

/-- The state after a token that begins a value. -/
def beginValue? (opened : List Open) : Token -> Option State
  | .openArray => some ⟨.array [] :: opened, .firstItem⟩
  | .openObject => some ⟨opened, .firstName []⟩
  | .null => some ⟨opened, .after .null⟩
  | .boolean value => some ⟨opened, .after (.boolean value)⟩
  | .number numeral => some ⟨opened, .after (.number numeral)⟩
  | .text content? => some ⟨opened, .after (.text content?)⟩
  | .closeArray | .closeObject | .comma | .colon => none

/-- The state after a token that follows a whole value. -/
def afterValue? (value : Value) : List Open -> Token -> Option State
  | .array items :: opened, .comma => some ⟨.array (value :: items) :: opened, .value⟩
  | .array items :: opened, .closeArray =>
    some ⟨opened, .after (.array (value :: items).reverse)⟩
  | .object members name :: opened, .comma => some ⟨opened, .name ((name, value) :: members)⟩
  | .object members name :: opened, .closeObject =>
    some ⟨opened, .after (.object ((name, value) :: members).reverse)⟩
  | _, _ => none

/-- The state after one more token. -/
def State.step? (state : State) (token : Token) : Option State :=
  match state.expected, token with
  | .value, token => beginValue? state.opened token
  | .firstItem, .closeArray =>
    match state.opened with
    | .array _ :: opened => some ⟨opened, .after (.array [])⟩
    | _ => none
  | .firstItem, token => beginValue? state.opened token
  | .firstName _, .closeObject => some ⟨state.opened, .after (.object [])⟩
  | .firstName members, .text name => some ⟨state.opened, .colon members name⟩
  | .name members, .text name => some ⟨state.opened, .colon members name⟩
  | .colon members name, .colon => some ⟨.object members name :: state.opened, .value⟩
  | .after value, token => afterValue? value state.opened token
  | _, _ => none

end Parser

/-- The value of a document: one value with nothing but blanks around it. -/
def parse? (document : String) : Option Value :=
  match (Token.all? [] document.toList).bind (·.foldlM Parser.State.step? .initial) with
  | some ⟨[], .after value⟩ => some value
  | _ => none

end StrategyHost.Json
