/-!
# Blank characters

The code points with the Unicode property `White_Space`, and trimming by them.
Contract files and log directives are trimmed with this class, which is wider
than the four ASCII blanks.
-/

namespace StrategyHost.Text

/-- The code points with the property `White_Space`, in increasing order. -/
def blankCodes : List Nat :=
  [0x9, 0xA, 0xB, 0xC, 0xD, 0x20, 0x85, 0xA0, 0x1680,
   0x2000, 0x2001, 0x2002, 0x2003, 0x2004, 0x2005, 0x2006, 0x2007, 0x2008, 0x2009, 0x200A,
   0x2028, 0x2029, 0x202F, 0x205F, 0x3000]

/-- Whether a character has the property `White_Space`. -/
def isBlank (character : Char) : Bool :=
  blankCodes.contains character.toNat

/-- The characters without the blank ones at the front. -/
def trimStart (characters : List Char) : List Char :=
  characters.dropWhile isBlank

/-- The characters without the blank ones at the end. -/
def trimEnd (characters : List Char) : List Char :=
  (characters.reverse.dropWhile isBlank).reverse

/-- The characters without the blank ones at either end. -/
def trim (characters : List Char) : List Char :=
  trimEnd (trimStart characters)

/-- Every blank of the ASCII class is blank here too. -/
theorem isBlank_of_isWhitespace {character : Char} (blank : character.isWhitespace) :
    isBlank character := by
  simp only [Char.isWhitespace, Bool.or_eq_true, decide_eq_true_eq] at blank
  rcases blank with ((rfl | rfl) | rfl) | rfl <;> decide

end StrategyHost.Text
