import StrategyHost.Text.Blank

/-!
# How patterns are read

The value that a log directive compares a field with is a pattern: a regular
expression over characters, or over bytes where it says so. This module holds the
modes that a pattern switches, what each mode admits, and how parts nest.

No table of characters goes with patterns. Letters can therefore be matched without
regard to case, and digits, blanks and words by one letter, only in parts about
bytes. A part about bytes must not match anything beyond ASCII on its own.
-/

namespace StrategyHost.Journal.Pattern

/-- How a part of a pattern is read. -/
structure Mode where
  /-- Capital and small letters match each other. -/
  ignoresCase : Bool
  /-- The part is about characters, or else about bytes. -/
  isTextual : Bool
  /-- Blanks and comments are skipped. -/
  skipsBlanks : Bool
  deriving DecidableEq, Repr

/-- A character that stands for itself. -/
structure Literal where
  character : Char
  /-- It is given as the number of a byte. -/
  isByte : Bool
  deriving DecidableEq, Repr

/-- Whether a literal is in ASCII. -/
def Literal.isAscii (literal : Literal) : Bool :=
  literal.character.toNat < 0x80

namespace Mode

/-- How a pattern begins. -/
def start : Mode := ⟨false, true, false⟩

/-- The mode after a switch by its letter. Other letters do not change which patterns
there are. -/
def switched (mode : Mode) (letter : Char) (on : Bool) : Mode :=
  match letter with
  | 'i' => { mode with ignoresCase := on }
  | 'u' => { mode with isTextual := on }
  | 'x' => { mode with skipsBlanks := on }
  | _ => mode

/-- Whether a character may stand for itself. -/
def admits (mode : Mode) (literal : Literal) : Bool :=
  if mode.isTextual then !mode.ignoresCase else literal.isAscii || !literal.isByte

/-- Whether a character may stand for itself between brackets. -/
def admitsMember (mode : Mode) (literal : Literal) : Bool :=
  if mode.isTextual then !mode.ignoresCase else literal.isAscii

/-- Whether there may be the class of the digits, the blanks or the characters of
words, or of all others. -/
def admitsShorthand (mode : Mode) (negated : Bool) : Bool :=
  !mode.isTextual && !negated

/-- Whether there may be a class of ASCII by its name, or of all others. -/
def admitsNamed (mode : Mode) (negated : Bool) : Bool :=
  if mode.isTextual then !mode.ignoresCase else !negated

/-- Whether there may be a class of all characters but some. -/
def admitsComplement (mode : Mode) : Bool :=
  mode.isTextual

/-- What follows blanks and comments, which run from a number sign to the end of the
line. -/
def afterBlanks (inComment : Bool) : List Char -> List Char
  | [] => []
  | character :: rest =>
    if inComment then afterBlanks (character != '\n') rest
    else if Text.isBlank character then afterBlanks false rest
    else if character = '#' then afterBlanks true rest
    else character :: rest

/-- What follows the characters that the mode skips. -/
def skip (mode : Mode) (characters : List Char) : List Char :=
  if mode.skipsBlanks then afterBlanks false characters else characters

theorem length_afterBlanks (inComment : Bool) (characters : List Char) :
    (afterBlanks inComment characters).length <= characters.length := by
  induction characters generalizing inComment with
  | nil => simp [afterBlanks]
  | cons character rest inductionHypothesis =>
    unfold afterBlanks
    repeat' split
    all_goals first
      | exact Nat.le_succ_of_le (inductionHypothesis _)
      | exact Nat.le_refl _

/-- Skipping adds nothing. -/
theorem length_skip (mode : Mode) (characters : List Char) :
    (mode.skip characters).length <= characters.length := by
  unfold skip
  split
  · exact length_afterBlanks false characters
  · exact Nat.le_refl _

end Mode

/-- The depth of parts that stand together: more than one are a part that holds them. -/
def depthTogether : List Nat -> Nat
  | [] => 0
  | [depth] => depth
  | depths => 1 + depths.foldl max 0

/-- How deep the parts of a pattern may nest. -/
def deepest : Nat := 250

end StrategyHost.Journal.Pattern
