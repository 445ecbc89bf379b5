import StrategyHost.Text.Blank
import StrategyHost.Text.Split

/-!
# Parts and trimmed fields

What splitting and trimming give, said without either: the parts between separators
in `Separated`, a text without the blanks around it in `Trimmed`. Both relations have
exactly one result for every text, the one that is computed.
-/

namespace StrategyHost.Text

section

variable {α : Type}

/-- Parts that hold no separator, joined by separators. -/
inductive Separated (separator : α) : List α -> List (List α) -> Prop where
  | last {part : List α} (free : separator ∉ part) : Separated separator part [part]
  | cons {part rest : List α} {parts : List (List α)} (free : separator ∉ part)
      (others : Separated separator rest parts) :
      Separated separator (part ++ separator :: rest) (part :: parts)

/-- A part holds what the elements hold, and no separator. -/
theorem Separated.of_mem {separator : α} {elements : List α} {parts : List (List α)}
    (separated : Separated separator elements parts) {part : List α} (member : part ∈ parts) :
    separator ∉ part ∧ part ⊆ elements := by
  induction separated with
  | last free =>
    obtain rfl := List.mem_singleton.mp member
    exact ⟨free, List.Subset.refl _⟩
  | @cons first rest parts free _ inductionHypothesis =>
    rcases List.mem_cons.mp member with rfl | later
    · exact ⟨free, List.subset_append_left _ _⟩
    · obtain ⟨alsoFree, within⟩ := inductionHypothesis later
      have behind : rest ⊆ first ++ separator :: rest :=
        List.subset_append_of_subset_right _ (List.subset_cons_self _ _)
      exact ⟨alsoFree, List.Subset.trans within behind⟩

/-- A single part is all there is. -/
theorem Separated.eq_of_single {separator : α} {elements part : List α}
    (separated : Separated separator elements [part]) : elements = part := by
  cases separated with
  | last => rfl
  | cons _ others => cases others

/-- What follows without a separator belongs to the last part. -/
theorem Separated.extend {separator : α} {elements more : List α} {parts : List (List α)}
    (separated : Separated separator elements parts) (free : separator ∉ more) :
    ∃ before last, parts = before ++ [last] ∧
      Separated separator (elements ++ more) (before ++ [last ++ more]) := by
  induction separated with
  | @last part partFree => exact ⟨[], part, rfl, .last (by simp [partFree, free])⟩
  | @cons part rest parts partFree _ inductionHypothesis =>
    obtain ⟨before, last, rfl, extended⟩ := inductionHypothesis
    refine ⟨part :: before, last, rfl, ?_⟩
    rw [List.append_assoc, List.cons_append]
    exact .cons partFree extended

variable [DecidableEq α]

theorem splitOn_ne_nil (separator : α) (elements : List α) : splitOn separator elements ≠ [] := by
  cases elements with
  | nil => simp
  | cons element rest =>
    rw [splitOn_cons]
    split
    · simp
    · cases splitOn separator rest <;> simp [extendFirst]

/-- Without a separator there is one part. -/
theorem splitOn_of_not_mem {separator : α} {part : List α} (free : separator ∉ part) :
    splitOn separator part = [part] := by
  induction part with
  | nil => rfl
  | cons element rest inductionHypothesis =>
    simp only [List.mem_cons, not_or] at free
    rw [splitOn_cons, if_neg (Ne.symm free.1), inductionHypothesis free.2]
    rfl

/-- The first part ends at the first separator. -/
theorem splitOn_append {separator : α} {part : List α} (free : separator ∉ part)
    (rest : List α) :
    splitOn separator (part ++ separator :: rest) = part :: splitOn separator rest := by
  induction part with
  | nil => rw [List.nil_append, splitOn_cons, if_pos rfl]
  | cons element part inductionHypothesis =>
    simp only [List.mem_cons, not_or] at free
    rw [List.cons_append, splitOn_cons, if_neg (Ne.symm free.1), inductionHypothesis free.2]
    rfl

/-- An element in front belongs to the first part, or separates an empty one. -/
theorem separated_splitOn (separator : α) (elements : List α) :
    Separated separator elements (splitOn separator elements) := by
  induction elements with
  | nil => exact .last List.not_mem_nil
  | cons element rest inductionHypothesis =>
    rw [splitOn_cons]
    by_cases separates : element = separator
    · rw [if_pos separates, separates]
      have first : Separated separator ([] ++ separator :: rest) ([] :: splitOn separator rest) :=
        .cons List.not_mem_nil inductionHypothesis
      exact first
    · rw [if_neg separates]
      have differs : separator ≠ element := Ne.symm separates
      generalize splitOn separator rest = parts at inductionHypothesis
      cases inductionHypothesis with
      | last free =>
        have longer : separator ∉ element :: rest := by simp [differs, free]
        exact .last longer
      | @cons part others parts free separated =>
        have longer : separator ∉ element :: part := by simp [differs, free]
        exact .cons longer separated

/-- Splitting gives the only parts there are. -/
theorem separated_iff {separator : α} {elements : List α} {parts : List (List α)} :
    Separated separator elements parts ↔ parts = splitOn separator elements := by
  constructor
  · intro separated
    induction separated with
    | last free => exact (splitOn_of_not_mem free).symm
    | cons free _ inductionHypothesis => rw [splitOn_append free, inductionHypothesis]
  · rintro rfl
    exact separated_splitOn separator elements

end

/-- A text without the blanks around it. -/
structure Trimmed (raw field : List Char) : Prop where
  within : exists before after, raw = before ++ field ++ after ∧
    (forall character, character ∈ before ++ after -> isBlank character = true)
  start : forall character, field.head? = some character -> isBlank character = false
  stop : forall character, field.getLast? = some character -> isBlank character = false

theorem Trimmed.subset {raw field : List Char} (trimmed : Trimmed raw field) : field ⊆ raw := by
  obtain ⟨before, after, rfl, _⟩ := trimmed.within
  intro character member
  simp [member]

/-- More blanks around a text leave it as it is. -/
theorem Trimmed.widen {raw field left right : List Char} (trimmed : Trimmed raw field)
    (blank : ∀ character, character ∈ left ++ right -> isBlank character = true) :
    Trimmed (left ++ raw ++ right) field := by
  obtain ⟨⟨before, after, rfl, inner⟩, start, stop⟩ := trimmed
  refine ⟨⟨left ++ before, after ++ right, by simp, ?_⟩, start, stop⟩
  intro character member
  simp only [List.mem_append] at member inner blank
  rcases member with (outside | within) | within | outside
  · exact blank character (.inl outside)
  · exact inner character (.inl within)
  · exact inner character (.inr within)
  · exact blank character (.inr outside)

/-- Blanks alone are trimmed to nothing. -/
theorem trimmed_nil_iff {raw : List Char} :
    Trimmed raw [] ↔ ∀ character, character ∈ raw -> isBlank character = true := by
  constructor
  · rintro ⟨⟨before, after, rfl, blank⟩, _, _⟩
    simpa using blank
  · intro blank
    exact ⟨⟨raw, [], by simp, by simpa using blank⟩, by simp, by simp⟩

/-- What is left after blanks have been dropped does not begin with one. -/
theorem head?_dropWhile_isBlank {characters : List Char} {character : Char}
    (first : (characters.dropWhile isBlank).head? = some character) :
    isBlank character = false := by
  have stops := List.head?_dropWhile_not isBlank characters
  rw [first] at stops
  simpa using stops

/-- A text that begins with no blank is trimmed at its end alone. -/
theorem dropWhile_of_head? {characters : List Char}
    (start : forall character, characters.head? = some character -> isBlank character = false) :
    characters.dropWhile isBlank = characters := by
  cases characters with
  | nil => rfl
  | cons character rest =>
    rw [List.dropWhile_cons_of_neg]
    simp [start character rfl]

/-- Blanks are dropped from a text that has nothing else in front. -/
theorem dropWhile_append_of_blank {before : List Char}
    (blank : forall character, character ∈ before -> isBlank character = true)
    (rest : List Char) :
    (before ++ rest).dropWhile isBlank = rest.dropWhile isBlank := by
  induction before with
  | nil => rfl
  | cons character before inductionHypothesis =>
    rw [List.cons_append, List.dropWhile_cons_of_pos (blank character (by simp))]
    apply inductionHypothesis
    intro other member
    exact blank other (by simp [member])

/-- Trimming at the end removes blanks from there, and leaves what it begins with. -/
theorem exists_trimEnd (characters : List Char) :
    exists after, characters = trimEnd characters ++ after ∧
      forall character, character ∈ after -> isBlank character = true := by
  refine ⟨(characters.reverse.takeWhile isBlank).reverse, ?_, ?_⟩
  · rw [trimEnd, ← List.reverse_append, List.takeWhile_append_dropWhile, List.reverse_reverse]
  · intro character member
    rw [List.mem_reverse] at member
    exact List.all_eq_true.mp List.all_takeWhile character member

theorem trimmed_trim (raw : List Char) : Trimmed raw (trim raw) := by
  obtain ⟨after, kept, blank⟩ := exists_trimEnd (trimStart raw)
  constructor
  · refine ⟨raw.takeWhile isBlank, after, ?_, ?_⟩
    · rw [List.append_assoc, trim, ← kept, trimStart, List.takeWhile_append_dropWhile]
    · intro character member
      rcases List.mem_append.mp member with inFront | behind
      · exact List.all_eq_true.mp List.all_takeWhile character inFront
      · exact blank character behind
  · intro character first
    have leads : (trimStart raw).head? = some character := by
      have led : (trimEnd (trimStart raw)).head? = some character := first
      rw [kept, List.head?_append, led]
      rfl
    exact head?_dropWhile_isBlank leads
  · intro character last
    rw [trim, trimEnd, List.getLast?_reverse] at last
    exact head?_dropWhile_isBlank last

/-- Trimming gives the only text without the blanks around it. -/
theorem trimmed_iff {raw field : List Char} : Trimmed raw field ↔ field = trim raw := by
  constructor
  · rintro ⟨⟨before, after, rfl, blank⟩, start, stop⟩
    have inFront : forall character, character ∈ before -> isBlank character = true :=
      fun character member => blank character (by simp [member])
    have behind : forall character, character ∈ after.reverse -> isBlank character = true :=
      fun character member => blank character (by simp_all)
    have started : trimStart (before ++ field ++ after) = (field ++ after).dropWhile isBlank := by
      rw [trimStart, List.append_assoc, dropWhile_append_of_blank inFront]
    have ended : trimEnd (field ++ after) = field := by
      have last : forall character, field.reverse.head? = some character ->
          isBlank character = false := by
        intro character leads
        rw [List.head?_reverse] at leads
        exact stop character leads
      rw [trimEnd, List.reverse_append, dropWhile_append_of_blank behind,
        dropWhile_of_head? last, List.reverse_reverse]
    cases field with
    | nil =>
      have nothing : after.dropWhile isBlank = [] := by
        have blankAfter : forall character, character ∈ after -> isBlank character = true :=
          fun character member => blank character (by simp [member])
        simpa using dropWhile_append_of_blank blankAfter []
      rw [trim, started, List.nil_append, nothing]
      rfl
    | cons character rest =>
      have leads : (character :: rest ++ after).dropWhile isBlank = character :: rest ++ after :=
        dropWhile_of_head? start
      rw [trim, started, leads, ended]
  · rintro rfl
    exact trimmed_trim raw

end StrategyHost.Text
