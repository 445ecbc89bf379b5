import StrategyHost.Text.Invisible

/-!
# Quoted text

Texts in double quotes, and bracketed lists of them, as log messages show
channel names.
-/

namespace StrategyHost.Text

/-- How one character is shown between double quotes: the quote, the backslash
and the common controls have short forms, another invisible character is shown
by its code point, and all else stands for itself. -/
def quotedChar (character : Char) : List Char :=
  match character with
  | '"' => ['\\', '"']
  | '\\' => ['\\', '\\']
  | '\t' => ['\\', 't']
  | '\n' => ['\\', 'n']
  | '\r' => ['\\', 'r']
  | '\x00' => ['\\', '0']
  | _ =>
    if isInvisible character then
      ['\\', 'u', '\x7b'] ++ Nat.toDigits 16 character.toNat ++ ['\x7d']
    else [character]

/-- A text between double quotes. -/
def quoted (text : String) : String :=
  String.ofList ('"' :: text.toList.flatMap quotedChar ++ ['"'])

/-- A list of quoted texts in square brackets. -/
def quotedList (texts : List String) : String :=
  "[" ++ String.intercalate ", " (texts.map quoted) ++ "]"

end StrategyHost.Text
