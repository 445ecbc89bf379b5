import Mathlib.Data.List.Forall2
import StrategyHost.Contract.File
import StrategyHost.Proofs.Text.Split
import StrategyHost.Proofs.Text.Utf8

/-!
# What a line of the contract file says

A line is blank, describes a row, or is faulty, each told from its bytes by a
relation of its own. Reading a line gives the one that holds.
-/

namespace StrategyHost.Contract

open StrategyHost.Text (IntegerFault Separated Trimmed isBlank readInt64)
open StrategyHost.Binary64 (LiteralFault)

/-- The fields of a text: its parts between commas, without the blanks around them. -/
def HasFields (text : String) (fields : List (List Char)) : Prop :=
  exists parts, Separated ',' text.toList parts ∧ List.Forall₂ Trimmed parts fields

/-- A text of blanks alone. -/
def AllBlank (text : String) : Prop :=
  forall character, character ∈ text.toList -> isBlank character = true

/-- A line of blanks alone. -/
def IsBlank (line : List UInt8) : Prop :=
  exists text, Text.Utf8.encode text = line ∧ AllBlank text

/-- A line with the fields of a row: the first is not empty, the fifth is an integer and
the sixth a number. -/
inductive Describes : List UInt8 -> Row -> Prop where
  | row {text : String} {ticker exchange name reserved size priceTick : List Char}
      {more : List (List Char)} {multiplier : Int} {step : Binary64} (notBlank : ¬AllBlank text)
      (fields : HasFields text
        (ticker :: exchange :: name :: reserved :: size :: priceTick :: more))
      (named : ticker ≠ []) (isInteger : readInt64 size = .ok multiplier)
      (isNumber : Binary64.read priceTick = .ok step) :
      Describes (Text.Utf8.encode text)
        ⟨String.ofList ticker, String.ofList exchange, String.ofList name, multiplier, step⟩

/-- A line that is neither blank nor describes a row, with the first thing wrong in it. -/
inductive Faulty : List UInt8 -> LineFault -> Prop where
  | encoding {line : List UInt8} (noText : ¬exists text, Text.Utf8.encode text = line) :
      Faulty line .encoding
  | fieldCount {text : String} {fields : List (List Char)} (notBlank : ¬AllBlank text)
      (has : HasFields text fields) (few : fields.length < 6) :
      Faulty (Text.Utf8.encode text) (.row (.fieldCount fields.length))
  | emptyTicker {text : String} {exchange name reserved size priceTick : List Char}
      {more : List (List Char)} (notBlank : ¬AllBlank text)
      (fields : HasFields text
        ([] :: exchange :: name :: reserved :: size :: priceTick :: more)) :
      Faulty (Text.Utf8.encode text) (.row .emptyTicker)
  | size {text : String} {ticker exchange name reserved size priceTick : List Char}
      {more : List (List Char)} {fault : IntegerFault} (notBlank : ¬AllBlank text)
      (fields : HasFields text
        (ticker :: exchange :: name :: reserved :: size :: priceTick :: more))
      (named : ticker ≠ []) (noInteger : readInt64 size = .error fault) :
      Faulty (Text.Utf8.encode text) (.row (.size (String.ofList size) fault))
  | priceTick {text : String} {ticker exchange name reserved size priceTick : List Char}
      {more : List (List Char)} {multiplier : Int} {fault : LiteralFault}
      (notBlank : ¬AllBlank text)
      (fields : HasFields text
        (ticker :: exchange :: name :: reserved :: size :: priceTick :: more))
      (named : ticker ≠ []) (isInteger : readInt64 size = .ok multiplier)
      (noNumber : Binary64.read priceTick = .error fault) :
      Faulty (Text.Utf8.encode text) (.row (.priceTick (String.ofList priceTick) fault))

/-- Every text has exactly the fields that are computed. -/
theorem hasFields_iff {text : String} {fields : List (List Char)} :
    HasFields text fields ↔ fields = Row.fields text.toList := by
  have trimmed : forall parts : List (List Char),
      List.Forall₂ Trimmed parts fields ↔ fields = parts.map Text.trim := by
    intro parts
    induction parts generalizing fields with
    | nil => simp
    | cons part parts inductionHypothesis =>
      cases fields with
      | nil => simp
      | cons field fields =>
        simp [List.forall₂_cons, inductionHypothesis, Text.trimmed_iff]
  constructor
  · rintro ⟨parts, separated, each⟩
    rw [(trimmed parts).mp each, Text.separated_iff.mp separated, Row.fields]
  · rintro rfl
    exact ⟨_, Text.separated_splitOn ',' text.toList, (trimmed _).mpr rfl⟩

theorem allBlank_iff {text : String} : AllBlank text ↔ text.toList.all isBlank = true := by
  simp [AllBlank]

/-- A text is blank if it has one field, and that one is empty. -/
theorem hasFields_nil_iff {text : String} : HasFields text [[]] ↔ AllBlank text := by
  constructor
  · rintro ⟨parts, separated, trimmed⟩
    obtain ⟨part, rfl⟩ := List.length_eq_one_iff.mp trimmed.length_eq
    obtain ⟨blank, _⟩ := List.forall₂_cons.mp trimmed
    rw [AllBlank, separated.eq_of_single]
    exact Text.trimmed_nil_iff.mp blank
  · intro blank
    have noComma : ',' ∉ text.toList := fun comma => absurd (blank ',' comma) (by decide)
    exact ⟨_, .last noComma, .cons (Text.trimmed_nil_iff.mpr blank) .nil⟩

theorem Row.ofFields_of_few {fields : List (List Char)} (few : fields.length < 6) :
    Row.ofFields fields = .error (.fieldCount fields.length) := by
  unfold Row.ofFields
  split
  · simp at few
    omega
  · rfl

/-- Six fields and more are taken apart. -/
theorem exists_of_enough {fields : List (List Char)} (enough : ¬fields.length < 6) :
    exists ticker exchange name reserved size priceTick more,
      fields = ticker :: exchange :: name :: reserved :: size :: priceTick :: more := by
  match fields with
  | ticker :: exchange :: name :: reserved :: size :: priceTick :: more =>
    exact ⟨ticker, exchange, name, reserved, size, priceTick, more, rfl⟩
  | [] | [_] | [_, _] | [_, _, _] | [_, _, _, _] | [_, _, _, _, _] => simp at enough

section

variable {text : String} {fields : List (List Char)}

theorem readLine_of_text :
    readLine (Text.Utf8.encode text) = (Row.ofLine text.toList).mapError .row := by
  have decoded : Text.Utf8.decode? (Text.Utf8.encode text) = some text :=
    Text.Utf8.decode?_eq_some_iff.mpr rfl
  simp only [readLine, decoded]
  cases Row.ofLine text.toList with
  | error fault => rfl
  | ok row? => rfl

theorem readLine_of_row {row : Row} (notBlank : ¬AllBlank text) (has : HasFields text fields)
    (reads : Row.ofFields fields = .ok row) :
    readLine (Text.Utf8.encode text) = .ok (some row) := by
  rw [allBlank_iff] at notBlank
  rw [readLine_of_text, Row.ofLine, if_neg notBlank, ← hasFields_iff.mp has, reads]
  rfl

theorem readLine_of_rowFault {fault : RowFault} (notBlank : ¬AllBlank text)
    (has : HasFields text fields) (fails : Row.ofFields fields = .error fault) :
    readLine (Text.Utf8.encode text) = .error (.row fault) := by
  rw [allBlank_iff] at notBlank
  rw [readLine_of_text, Row.ofLine, if_neg notBlank, ← hasFields_iff.mp has, fails]
  rfl

end

/-- A blank line says nothing. -/
theorem IsBlank.readLine {line : List UInt8} (blank : IsBlank line) :
    readLine line = .ok none := by
  obtain ⟨text, rfl, blank⟩ := blank
  rw [readLine_of_text, Row.ofLine, if_pos (allBlank_iff.mp blank), Except.mapError]

/-- A line that describes a row says so. -/
theorem Describes.readLine {line : List UInt8} {row : Row} (describes : Describes line row) :
    readLine line = .ok (some row) := by
  cases describes with
  | row notBlank fields named isInteger isNumber =>
    apply readLine_of_row notBlank fields
    simp [Row.ofFields, named, isInteger, isNumber]

/-- A faulty line is refused for its fault. -/
theorem Faulty.readLine {line : List UInt8} {fault : LineFault} (faulty : Faulty line fault) :
    readLine line = .error fault := by
  cases faulty with
  | encoding noText =>
    rw [Contract.readLine, Text.Utf8.decode?_eq_none_iff.mpr noText]
  | fieldCount notBlank has few =>
    exact readLine_of_rowFault notBlank has (Row.ofFields_of_few few)
  | emptyTicker notBlank fields =>
    apply readLine_of_rowFault notBlank fields
    simp [Row.ofFields]
  | size notBlank fields named noInteger =>
    apply readLine_of_rowFault notBlank fields
    simp [Row.ofFields, named, noInteger]
  | priceTick notBlank fields named isInteger noNumber =>
    apply readLine_of_rowFault notBlank fields
    simp [Row.ofFields, named, isInteger, noNumber]

/-- Every line is blank, describes a row, or is faulty. -/
theorem blank_or_describes_or_faulty (line : List UInt8) :
    IsBlank line ∨ (exists row, Describes line row) ∨ exists fault, Faulty line fault := by
  by_cases isText : exists text, Text.Utf8.encode text = line
  · obtain ⟨text, rfl⟩ := isText
    by_cases blank : AllBlank text
    · exact .inl ⟨text, rfl, blank⟩
    · refine .inr ?_
      have has : HasFields text (Row.fields text.toList) := hasFields_iff.mpr rfl
      by_cases few : (Row.fields text.toList).length < 6
      · exact .inr ⟨_, .fieldCount blank has few⟩
      · obtain ⟨ticker, exchange, name, reserved, size, priceTick, more, fields⟩ :=
          exists_of_enough few
        rw [fields] at has
        by_cases named : ticker = []
        · subst named
          exact .inr ⟨_, .emptyTicker blank has⟩
        · cases isInteger : readInt64 size with
          | error fault => exact .inr ⟨_, .size blank has named isInteger⟩
          | ok multiplier =>
            cases isNumber : Binary64.read priceTick with
            | error fault => exact .inr ⟨_, .priceTick blank has named isInteger isNumber⟩
            | ok step => exact .inl ⟨_, .row blank has named isInteger isNumber⟩
  · exact .inr (.inr ⟨_, .encoding isText⟩)

section

variable {line : List UInt8}

theorem readLine_eq_none_iff : readLine line = .ok none ↔ IsBlank line := by
  refine ⟨fun nothing => ?_, IsBlank.readLine⟩
  obtain blank | ⟨row, describes⟩ | ⟨fault, faulty⟩ := blank_or_describes_or_faulty line
  · exact blank
  · simp [describes.readLine] at nothing
  · simp [faulty.readLine] at nothing

theorem readLine_eq_some_iff {row : Row} :
    readLine line = .ok (some row) ↔ Describes line row := by
  refine ⟨fun reads => ?_, Describes.readLine⟩
  obtain blank | ⟨other, describes⟩ | ⟨fault, faulty⟩ := blank_or_describes_or_faulty line
  · simp [blank.readLine] at reads
  · obtain rfl : other = row := by simpa [describes.readLine] using reads
    exact describes
  · simp [faulty.readLine] at reads

/-- A line that describes a row is not blank. -/
theorem Describes.not_isBlank {row : Row} (describes : Describes line row) : ¬IsBlank line := by
  intro blank
  have both := describes.readLine.symm.trans blank.readLine
  simp at both

theorem readLine_eq_error_iff {fault : LineFault} :
    readLine line = .error fault ↔ Faulty line fault := by
  refine ⟨fun refused => ?_, Faulty.readLine⟩
  obtain blank | ⟨row, describes⟩ | ⟨other, faulty⟩ := blank_or_describes_or_faulty line
  · simp [blank.readLine] at refused
  · simp [describes.readLine] at refused
  · obtain rfl : other = fault := by simpa [faulty.readLine] using refused
    exact faulty

end

end StrategyHost.Contract
