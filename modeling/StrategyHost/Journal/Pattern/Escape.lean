import StrategyHost.Journal.Pattern.Basic
import StrategyHost.Text.Integer

/-!
# Backslashes in patterns

What a backslash and the characters after it stand for.
-/

namespace StrategyHost.Journal.Pattern

/-- What a backslash introduces. -/
inductive Escape where
  | literal (literal : Literal)
  /-- The digits, the blanks or the characters of words, or all others. -/
  | shorthand (negated : Bool)
  /-- A place where a word begins or ends, or where none does. -/
  | boundary
  /-- The start or the end of the text. -/
  | anchor
  deriving DecidableEq, Repr

namespace Escape

/-- Read as many hexadecimal digits as are asked for. -/
def readDigits? (mode : Mode) (count value : Nat) (characters : List Char) :
    Option (Nat × List Char) :=
  match count with
  | 0 => some (value, characters)
  | count + 1 =>
    match characters with
    | [] => none
    | character :: rest =>
      match Text.hexDigit? character with
      | none => none
      | some digit => readDigits? mode count (16 * value + digit) (mode.skip rest)

/-- Read the character with a number of so many digits. Two digits are a byte. -/
def readNumber? (mode : Mode) (count : Nat) (characters : List Char) :
    Option (Escape × List Char) :=
  match readDigits? mode count 0 (mode.skip characters) with
  | none => none
  | some (value, rest) =>
    if valid : value.isValidChar then
      some (literal ⟨Char.ofNatAux value valid, count = 2⟩, rest)
    else none

/-- Read what follows a backslash. A property of characters is never admitted, nor is
a number for what an earlier part has matched. -/
def read? (mode : Mode) : List Char -> Option (Escape × List Char)
  | [] => none
  | character :: rest =>
    let itself (meant : Char) : Option (Escape × List Char) :=
      some (literal ⟨meant, false⟩, rest)
    match character with
    | 'x' => readNumber? mode 2 rest
    | 'u' => readNumber? mode 4 rest
    | 'U' => readNumber? mode 8 rest
    | 'd' | 's' | 'w' => some (shorthand false, rest)
    | 'D' | 'S' | 'W' => some (shorthand true, rest)
    | 'a' => itself '\x07'
    | 'f' => itself '\x0c'
    | 't' => itself '\t'
    | 'n' => itself '\n'
    | 'r' => itself '\r'
    | 'v' => itself '\x0b'
    | 'A' | 'z' => some (anchor, rest)
    | 'b' => if rest.head? = some '\x7b' then none else some (boundary, rest)
    | 'B' | '<' | '>' => some (boundary, rest)
    | _ =>
      if character.toNat < 0x80 && !character.isAlphanum then itself character else none

end Escape

end StrategyHost.Journal.Pattern
