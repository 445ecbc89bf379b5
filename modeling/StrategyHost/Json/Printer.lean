import StrategyHost.Binary64.Written

/-!
# JSON text

Writing compact JSON: no blanks, members in the order given, and every
character as itself but for quotes, backslashes and controls.
-/

namespace StrategyHost.Json

/-- How one character is written in a text. -/
def writtenChar (character : Char) : List Char :=
  match character with
  | '"' => ['\\', '"']
  | '\\' => ['\\', '\\']
  | '\x08' => ['\\', 'b']
  | '\x0c' => ['\\', 'f']
  | '\n' => ['\\', 'n']
  | '\r' => ['\\', 'r']
  | '\t' => ['\\', 't']
  | _ =>
    if character < ' ' then
      ['\\', 'u', '0', '0', Nat.digitChar (character.toNat / 16),
        Nat.digitChar (character.toNat % 16)]
    else [character]

/-- A text. -/
def writeText (text : String) : String :=
  String.ofList ('"' :: text.toList.flatMap writtenChar ++ ['"'])

/-- A truth value. -/
def writeBoolean (value : Bool) : String :=
  if value then "true" else "false"

/-- An object of members that are already written. -/
def writeObject (members : List (String × String)) : String :=
  "\x7b" ++ String.intercalate "," (members.map fun (name, value) => writeText name ++ ":" ++ value)
    ++ "\x7d"

end StrategyHost.Json
