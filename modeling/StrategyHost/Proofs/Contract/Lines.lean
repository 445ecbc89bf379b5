import StrategyHost.Contract.File
import StrategyHost.Proofs.Text.Split

/-!
# Lines of the contract file

The lines of a byte sequence, by its newlines alone. `lines_iff` says that every byte
sequence has exactly the lines that `Contract.lines` gives.
-/

namespace StrategyHost.Contract

/-- What stands before a newline, and the line that it is: a carriage return at its end does
not belong to the line. -/
inductive Unreturned : List UInt8 -> List UInt8 -> Prop where
  | bare {line : List UInt8} (noReturn : line.getLast? ≠ some 13) : Unreturned line line
  | returned (line : List UInt8) : Unreturned (line ++ [13]) line

/-- Lines that hold no newline: a newline ends each of them, with a carriage return
before it that belongs to neither, and the last may go without if it is not empty. -/
inductive Lines : List UInt8 -> List (List UInt8) -> Prop where
  | none : Lines [] []
  | last {line : List UInt8} (nonempty : line ≠ []) (free : 10 ∉ line) : Lines line [line]
  | cons {part line rest : List UInt8} {others : List (List UInt8)} (free : 10 ∉ part)
      (unreturned : Unreturned part line) (lines : Lines rest others) :
      Lines (part ++ 10 :: rest) (line :: others)

theorem unreturned_iff {part line : List UInt8} :
    Unreturned part line ↔ line = withoutReturn part := by
  constructor
  · rintro (noReturn | _)
    · rw [withoutReturn, if_neg noReturn]
    · rw [withoutReturn, List.getLast?_concat, if_pos rfl, List.dropLast_concat]
  · rintro rfl
    unfold withoutReturn
    split
    case isTrue last =>
      obtain ⟨line, rfl⟩ := List.getLast?_eq_some_iff.mp last
      rw [List.dropLast_concat]
      exact .returned line
    case isFalse noReturn => exact .bare noReturn

/-- The first newline ends the first line. -/
theorem lines_append {line : List UInt8} (free : 10 ∉ line) (rest : List UInt8) :
    lines (line ++ 10 :: rest) = withoutReturn line :: lines rest := by
  unfold lines
  rw [Text.splitOn_append free]
  cases parts : Text.splitOn 10 rest with
  | nil => exact absurd parts (Text.splitOn_ne_nil 10 rest)
  | cons part others => rfl

/-- Without a newline there is at most one line. -/
theorem lines_of_not_mem {line : List UInt8} (free : 10 ∉ line) :
    lines line = if line.isEmpty then [] else [line] := by
  unfold lines
  rw [Text.splitOn_of_not_mem free]
  rfl

/-- Every byte sequence has lines. -/
theorem lines_lines (content : List UInt8) : Lines content (lines content) := by
  generalize same : Text.splitOn 10 content = parts
  have separated : Text.Separated 10 content parts := Text.separated_iff.mpr same.symm
  clear same
  induction separated with
  | @last part free =>
    rw [lines_of_not_mem free]
    cases part with
    | nil => exact .none
    | cons byte rest => exact .last (by simp) free
  | cons free _ inductionHypothesis =>
    rw [lines_append free]
    exact .cons free (unreturned_iff.mpr rfl) inductionHypothesis

/-- And only these. -/
theorem lines_iff {content : List UInt8} {found : List (List UInt8)} :
    Lines content found ↔ found = lines content := by
  constructor
  · intro has
    induction has with
    | none => rfl
    | @last line nonempty free =>
      rw [lines_of_not_mem free, if_neg (by simpa using nonempty)]
    | cons free unreturned _ inductionHypothesis =>
      rw [lines_append free, inductionHypothesis, unreturned_iff.mp unreturned]
  · rintro rfl
    exact lines_lines content

/-- Bytes in which a newline ends every line. -/
def IsWhole (content : List UInt8) : Prop :=
  content = [] ∨ content.getLast? = some 10

/-- What is left of whole lines behind the first is whole lines. -/
theorem IsWhole.rest {line rest : List UInt8} (whole : IsWhole (line ++ 10 :: rest)) :
    IsWhole rest := by
  obtain nothing | last := whole
  · simp at nothing
  · cases rest with
    | nil => exact .inl rfl
    | cons byte rest => exact .inr (by simpa [List.getLast?_append, List.getLast?_cons] using last)

/-- Whole lines hold a newline, unless there are none. -/
theorem IsWhole.newline_mem {content : List UInt8} (whole : IsWhole content)
    (nonempty : content ≠ []) : 10 ∈ content :=
  List.mem_of_getLast? (whole.resolve_left nonempty)

/-- Every byte sequence is whole lines and what has been begun behind them. -/
theorem exists_isWhole_append (content : List UInt8) :
    ∃ before line, content = before ++ line ∧ IsWhole before ∧ 10 ∉ line := by
  induction content with
  | nil => exact ⟨[], [], rfl, .inl rfl, List.not_mem_nil⟩
  | cons byte rest inductionHypothesis =>
    obtain ⟨before, line, rfl, whole, free⟩ := inductionHypothesis
    cases before with
    | nil =>
      by_cases newline : byte = 10
      · exact ⟨[byte], line, rfl, .inr (by simp [newline]), free⟩
      · exact ⟨[], byte :: line, rfl, .inl rfl, by simp [Ne.symm newline, free]⟩
    | cons first before =>
      have last := whole.resolve_left (List.cons_ne_nil first before)
      exact ⟨byte :: first :: before, line, rfl, .inr (by rwa [List.getLast?_cons_cons]), free⟩

/-- What follows whole lines has its own lines. -/
theorem lines_append_of_isWhole {content : List UInt8} (whole : IsWhole content)
    (more : List UInt8) : lines (content ++ more) = lines content ++ lines more := by
  have has := lines_lines content
  generalize lines content = found at has
  induction has with
  | none => rfl
  | last nonempty free => exact absurd (whole.newline_mem nonempty) free
  | cons free unreturned _ inductionHypothesis =>
    rw [List.append_assoc, List.cons_append, lines_append free, inductionHypothesis whole.rest,
      List.cons_append, unreturned_iff.mp unreturned]

/-- Whole lines are as many as their newlines. -/
theorem length_lines_of_isWhole {content : List UInt8} (whole : IsWhole content) :
    (lines content).length = content.count 10 := by
  have has := lines_lines content
  generalize lines content = found at has
  induction has with
  | none => rfl
  | last nonempty free => exact absurd (whole.newline_mem nonempty) free
  | cons free _ _ inductionHypothesis =>
    rw [List.length_cons, inductionHypothesis whole.rest, List.count_append,
      List.count_eq_zero.mpr free, List.count_cons_self, Nat.zero_add]

/-- No line holds a newline. -/
theorem Lines.newline_notMem {content : List UInt8} {found : List (List UInt8)}
    (lines : Lines content found) {line : List UInt8} (member : line ∈ found) : 10 ∉ line := by
  induction lines with
  | none => cases member
  | last nonempty free => exact List.mem_singleton.mp member ▸ free
  | cons free unreturned _ inductionHypothesis =>
    rcases List.mem_cons.mp member with rfl | later
    · cases unreturned with
      | bare noReturn => exact free
      | returned _ => exact fun newline => free (List.mem_append_left _ newline)
    · exact inductionHypothesis later

end StrategyHost.Contract
