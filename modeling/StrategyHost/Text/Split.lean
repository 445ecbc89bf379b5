/-!
# Splitting at separators

Cutting a sequence into the parts between separators. There is always one part
more than there are separators.
-/

namespace StrategyHost.Text

variable {α : Type} [DecidableEq α]

/-- Put an element in front of the first part. -/
def extendFirst (element : α) : List (List α) -> List (List α)
  | [] => [[element]]
  | first :: rest => (element :: first) :: rest

/-- The parts between separators. -/
def splitOn (separator : α) (elements : List α) : List (List α) :=
  elements.foldr
    (fun element parts => if element = separator then [] :: parts else extendFirst element parts)
    [[]]

@[simp] theorem splitOn_nil (separator : α) : splitOn separator [] = [[]] := rfl

theorem splitOn_cons (separator element : α) (rest : List α) :
    splitOn separator (element :: rest) =
      if element = separator then [] :: splitOn separator rest
      else extendFirst element (splitOn separator rest) := rfl

end StrategyHost.Text
