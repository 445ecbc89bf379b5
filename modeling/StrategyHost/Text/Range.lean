/-!
# Ranges of code points

Classes of characters as lists of ranges: each pair holds the first and the last
code point of one range.
-/

namespace StrategyHost.Text

/-- Whether a character lies in one of the ranges. -/
def isInRanges (ranges : List (Nat × Nat)) (character : Char) : Bool :=
  ranges.any fun (first, last) => first <= character.toNat && character.toNat <= last

/-- A character is in a class if and only if some range of the class holds it. -/
theorem isInRanges_iff {ranges : List (Nat × Nat)} {character : Char} :
    isInRanges ranges character = true ↔
      ∃ range ∈ ranges, range.1 <= character.toNat ∧ character.toNat <= range.2 := by
  simp [isInRanges, List.any_eq_true]

end StrategyHost.Text
