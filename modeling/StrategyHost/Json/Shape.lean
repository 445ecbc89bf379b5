import StrategyHost.Json.Parser

/-!
# Shapes of JSON values

Reading domain values out of JSON. A record is an object with known members or
an array of the same members in order; members that are not known are ignored.
An integer is written without point and exponent.
-/

namespace StrategyHost.Json

/-- The members of a record in order, and how many of them an array must have. -/
structure Layout where
  names : List String
  least : Nat
  deriving Repr

/-- The known members of a record that are present, each at most once. -/
structure Record where
  members : List (String × Value)
  deriving Repr

namespace Record

/-- The known members of an object, unless one is repeated. Every name has to be
a text, known or not. -/
def ofMembers? (layout : Layout) (members : List (Option String × Value)) : Option Record := do
  let named <- members.mapM fun (name, value) => name.map (·, value)
  let known := named.filter fun (name, _) => layout.names.contains name
  if (known.map (·.1)).Nodup then some ⟨known⟩ else none

/-- The members of an array, named by their places. -/
def ofItems? (layout : Layout) (items : List Value) : Option Record :=
  if layout.least <= items.length && items.length <= layout.names.length then
    some ⟨layout.names.zip items⟩
  else none

/-- A record in either of its forms. -/
def ofValue? (layout : Layout) : Value -> Option Record
  | .object members => ofMembers? layout members
  | .array items => ofItems? layout items
  | _ => none

/-- The value of a member. -/
def find? (record : Record) (name : String) : Option Value :=
  record.members.lookup name

variable {α : Type}

/-- A member that has to be there. -/
def required (record : Record) (name : String) (read : Value -> Option α) : Option α :=
  (record.find? name).bind read

/-- A member with a value for its absence. -/
def defaulted (record : Record) (name : String) (absent : α) (read : Value -> Option α) :
    Option α :=
  match record.find? name with
  | some value => read value
  | none => some absent

/-- A member that may be absent or null. -/
def optional (record : Record) (name : String) (read : Value -> Option α) :
    Option (Option α) :=
  match record.find? name with
  | none | some .null => some none
  | some value => (read value).map some

end Record

namespace Value

/-- A text. -/
def text? : Value -> Option String
  | text content? => content?
  | _ => none

/-- A truth value. -/
def boolean? : Value -> Option Bool
  | boolean value => some value
  | _ => none

/-- An integer. A negative zero is not one. -/
def integer? : Value -> Option Int
  | number ⟨negative, whole, [], none⟩ =>
    let magnitude := Binary64.ofDigits whole
    if negative then
      if magnitude = 0 then none else some (-Int.ofNat magnitude)
    else some magnitude
  | _ => none

/-- A natural number below a limit. -/
def natural? (limit : Nat) (value : Value) : Option Nat :=
  match value.integer? with
  | some (.ofNat magnitude) => if magnitude < limit then some magnitude else none
  | _ => none

/-- An unsigned integer of 32 bits. -/
def uint32? (value : Value) : Option UInt32 :=
  (value.natural? UInt32.size).map UInt32.ofNat

/-- An unsigned integer of 64 bits. -/
def uint64? (value : Value) : Option UInt64 :=
  (value.natural? UInt64.size).map UInt64.ofNat

/-- A signed integer of 32 bits. -/
def int32? (value : Value) : Option Int32 :=
  match value.integer? with
  | some integer =>
    if -0x80000000 <= integer && integer < 0x80000000 then some (Int32.ofInt integer) else none
  | none => none

/-- One name of a closed set: the name itself, or an object with that name alone
and null. -/
def name? : Value -> Option String
  | text content? => content?
  | object [(name, null)] => name
  | _ => none

end Value

end StrategyHost.Json
