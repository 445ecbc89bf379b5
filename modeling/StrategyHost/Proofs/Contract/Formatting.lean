import Mathlib.Logic.Relation
import StrategyHost.Proofs.Contract.Keyed

/-!
# Formatting of the contract file

What a file says is said by its lines behind the header, by each for itself: a row, or why it is
refused, or nothing at all. `Change` lists the ways in which a file can be written differently, one
at a time; none of them adds to what the file says or takes from it, so that a file which is
accepted has the same table however it is written.
-/

namespace StrategyHost.Contract

open StrategyHost.Text (Separated Trimmed isBlank)

/-- What a text says depends on its fields alone. -/
theorem readLine_of_hasFields {text : String} {fields : List (List Char)}
    (has : HasFields text fields) :
    readLine (Text.Utf8.encode text) =
      if fields = [[]] then .ok none
      else ((Row.ofFields fields).map some).mapError .row := by
  by_cases isNil : fields = [[]]
  · rw [if_pos isNil]
    exact IsBlank.readLine ⟨text, rfl, hasFields_nil_iff.mp (isNil ▸ has)⟩
  · have notBlank : ¬AllBlank text := by
      intro blank
      have same := hasFields_iff.mp (hasFields_nil_iff.mpr blank)
      exact isNil ((hasFields_iff.mp has).trans same.symm)
    rw [allBlank_iff] at notBlank
    rw [if_neg isNil, readLine_of_text, Row.ofLine, if_neg notBlank, ← hasFields_iff.mp has]

/-- The fields of a text are its parts, trimmed. -/
theorem hasFields_of_separated {text : String} {parts : List (List Char)}
    (separated : Separated ',' text.toList parts) : HasFields text (parts.map Text.trim) := by
  refine ⟨parts, separated, ?_⟩
  rw [List.forall₂_map_right_iff, List.forall₂_same]
  exact fun part _ => Text.trimmed_trim part

/-- Blanks around a part are around its field. -/
theorem hasFields_of_widened {text : String} {before after : List (List Char)}
    {part left right : List Char}
    (blank : ∀ character, character ∈ left ++ right -> isBlank character = true)
    (separated : Separated ',' text.toList (before ++ (left ++ part ++ right) :: after)) :
    HasFields text ((before ++ part :: after).map Text.trim) := by
  have same : Text.trim (left ++ part ++ right) = Text.trim part :=
    (Text.trimmed_iff.mp ((Text.trimmed_trim part).widen blank)).symm
  simpa only [List.map_append, List.map_cons, same] using hasFields_of_separated separated

/-- A carriage return at the end of a line says nothing. -/
theorem readLine_concat_return (line : List UInt8) : readLine (line ++ [13]) = readLine line := by
  have small : '\r'.toNat < 0x80 := by decide
  by_cases isText : ∃ text, Text.Utf8.encode text = line
  · obtain ⟨text, rfl⟩ := isText
    have longer : Text.Utf8.encode (text ++ "\r") = Text.Utf8.encode text ++ [13] :=
      Text.Utf8.encode_append text "\r"
    have free : ',' ∉ ['\r'] := by decide
    have blank : ∀ character ∈ [] ++ ['\r'], isBlank character = true :=
      List.forall_mem_singleton.mpr (by decide)
    obtain ⟨before, last, parts, extended⟩ :=
      (Text.separated_splitOn ',' text.toList).extend free
    have has := hasFields_of_separated (Text.separated_splitOn ',' text.toList)
    have widened : HasFields (text ++ "\r") ((before ++ [last]).map Text.trim) := by
      refine hasFields_of_widened blank ?_
      rw [String.toList_append]
      exact extended
    rw [parts] at has
    rw [← longer, readLine_of_hasFields widened, readLine_of_hasFields has]
  · have noText : ¬∃ text, Text.Utf8.encode text = line ++ [13] := by
      rintro ⟨text, same⟩
      obtain ⟨shorter, isShorter, _⟩ := Text.Utf8.exists_of_encode_concat small same
      exact isText ⟨shorter, isShorter⟩
    rw [(Faulty.encoding noText).readLine, (Faulty.encoding isText).readLine]

theorem readLine_withoutReturn (line : List UInt8) :
    readLine (withoutReturn line) = readLine line := by
  unfold withoutReturn
  split
  next last =>
    have whole := List.dropLast_append_getLast? 13 last
    rw [← readLine_concat_return, whole]
  next => rfl

/-- Of six parts and more the fourth and those behind the sixth say nothing. -/
theorem readLine_of_parts {text : String}
    {ticker exchange name reserved size priceTick : List Char} {more : List (List Char)}
    (parts : Separated ',' text.toList
      (ticker :: exchange :: name :: reserved :: size :: priceTick :: more)) :
    readLine (Text.Utf8.encode text) =
      ((Row.ofFields ([ticker, exchange, name, [], size, priceTick].map Text.trim)).map
        some).mapError .row := by
  rw [readLine_of_hasFields (hasFields_of_separated parts), if_neg (by simp)]
  rfl

/-- One way to write a line differently. -/
inductive LineChange (text changed : String) : Prop where
  /-- Blanks around a field. -/
  | blanks {before after : List (List Char)} {part left right : List Char}
      (parts : Separated ',' text.toList (before ++ part :: after))
      (widened : Separated ',' changed.toList (before ++ (left ++ part ++ right) :: after))
      (blank : ∀ character, character ∈ left ++ right -> isBlank character = true)
  /-- Another text in the reserved field of a row. -/
  | reserved {ticker exchange name reserved other size priceTick : List Char}
      {more : List (List Char)}
      (parts : Separated ',' text.toList
        (ticker :: exchange :: name :: reserved :: size :: priceTick :: more))
      (replaced : Separated ',' changed.toList
        (ticker :: exchange :: name :: other :: size :: priceTick :: more))
  /-- Other columns, or none, behind the sixth of a row. -/
  | columns {ticker exchange name reserved size priceTick : List Char}
      {more others : List (List Char)}
      (parts : Separated ',' text.toList
        (ticker :: exchange :: name :: reserved :: size :: priceTick :: more))
      (replaced : Separated ',' changed.toList
        (ticker :: exchange :: name :: reserved :: size :: priceTick :: others))

/-- A line says the same when it is written differently. -/
theorem LineChange.readLine_eq {text changed : String} (change : LineChange text changed) :
    readLine (Text.Utf8.encode text) = readLine (Text.Utf8.encode changed) := by
  cases change with
  | blanks parts widened blank =>
    rw [readLine_of_hasFields (hasFields_of_separated parts),
      readLine_of_hasFields (hasFields_of_widened blank widened)]
  | reserved parts replaced | columns parts replaced =>
    rw [readLine_of_parts parts, readLine_of_parts replaced]

/-- Where a line ends: at a newline, or at the end of the file. -/
def EndsLine (after : List UInt8) : Prop :=
  after = [] ∨ after.head? = some 10

/-- One way to write a file differently. -/
inductive Change : List UInt8 -> List UInt8 -> Prop where
  /-- Any other header. -/
  | header {header other after : List UInt8} (free : 10 ∉ header) (otherFree : 10 ∉ other)
      (ends : EndsLine after) : Change (header ++ after) (other ++ after)
  /-- One more blank line behind the header. -/
  | blankLine {before line after : List UInt8} (whole : IsWhole before) (headed : before ≠ [])
      (free : 10 ∉ line) (blank : IsBlank line) :
      Change (before ++ after) (before ++ (line ++ 10 :: after))
  /-- A carriage return before a newline. -/
  | lineEnd (before after : List UInt8) :
      Change (before ++ 10 :: after) (before ++ 13 :: 10 :: after)
  /-- Another way to write one line behind the header. -/
  | line {before after : List UInt8} {text other : String} (whole : IsWhole before)
      (headed : before ≠ []) (free : '\n' ∉ text.toList) (otherFree : '\n' ∉ other.toList)
      (ends : EndsLine after) (change : LineChange text other) :
      Change (before ++ (Text.Utf8.encode text ++ after))
        (before ++ (Text.Utf8.encode other ++ after))
  /-- No newline at the end. -/
  | lastNewline (content : List UInt8) : Change (content ++ [10]) content

/-- What a line says, if anything. -/
def statement? (line : List UInt8) : Option (Except LineFault Row) :=
  match readLine line with
  | .ok none => none
  | .ok (some row) => some (.ok row)
  | .error fault => some (.error fault)

theorem statement?_eq_of_readLine {line other : List UInt8}
    (same : readLine line = readLine other) :
    statement? line = statement? other := by
  rw [statement?, statement?, same]

/-- A blank line says nothing. -/
theorem IsBlank.statement? {line : List UInt8} (blank : IsBlank line) :
    statement? line = none := by
  rw [Contract.statement?, blank.readLine]

/-- A line that describes a row says the row. -/
theorem Describes.statement? {line : List UInt8} {row : Row} (describes : Describes line row) :
    statement? line = some (.ok row) := by
  rw [Contract.statement?, describes.readLine]

/-- A faulty line says its fault. -/
theorem Faulty.statement? {line : List UInt8} {fault : LineFault} (faulty : Faulty line fault) :
    statement? line = some (.error fault) := by
  rw [Contract.statement?, faulty.readLine]

/-- What a file says: what its lines behind the first say, in their order. -/
def statements (content : List UInt8) : List (Except LineFault Row) :=
  (lines content).tail.filterMap statement?

/-- What is said behind whole lines. -/
theorem statements_append {before : List UInt8} (whole : IsWhole before) (headed : before ≠ [])
    (more : List UInt8) :
    statements (before ++ more) = statements before ++ (lines more).filterMap statement? := by
  have counted := length_lines_of_isWhole whole
  have some := List.count_pos_iff.mpr (whole.newline_mem headed)
  have found : lines before ≠ [] := by
    intro none
    rw [none, List.length_nil] at counted
    omega
  rw [statements, lines_append_of_isWhole whole, List.tail_append_of_ne_nil found,
    List.filterMap_append]
  rfl

/-- A line and those behind it, however it ends. -/
theorem EndsLine.eq_nil_or_cons {after : List UInt8} (ends : EndsLine after) :
    after = [] ∨ ∃ rest, after = 10 :: rest := by
  obtain nothing | starts := ends
  · exact .inl nothing
  · cases after with
    | nil => cases starts
    | cons byte rest => exact .inr ⟨rest, by rw [Option.some.inj starts]⟩

/-- A line says its own before those behind it. -/
theorem filterMap_lines {line after : List UInt8} (free : 10 ∉ line) (ends : EndsLine after) :
    (lines (line ++ after)).filterMap statement? =
      (statement? line).toList ++ (lines after.tail).filterMap statement? := by
  have empty : lines [] = [] := rfl
  obtain rfl | ⟨rest, rfl⟩ := ends.eq_nil_or_cons
  · have nothing : statement? [] = none :=
      IsBlank.statement? ⟨"", rfl, fun _ member => by cases member⟩
    rw [List.append_nil, lines_of_not_mem free]
    cases line with
    | nil => simp [nothing, empty]
    | cons byte rest => cases said : statement? (byte :: rest) <;> simp [said, empty]
  · rw [lines_append free, List.filterMap_cons,
      statement?_eq_of_readLine (readLine_withoutReturn line), List.tail_cons]
    cases statement? line <;> rfl

/-- What is said before and behind a line, and by the line itself unless it is the header. -/
theorem statements_between {before line after : List UInt8} (whole : IsWhole before)
    (free : 10 ∉ line) (ends : EndsLine after) :
    statements (before ++ (line ++ after)) =
      statements before ++ (if before = [] then [] else (statement? line).toList) ++
        (lines after.tail).filterMap statement? := by
  by_cases isHeader : before = []
  · subst isHeader
    rw [if_pos rfl, List.nil_append, statements, statements]
    obtain rfl | ⟨rest, rfl⟩ := ends.eq_nil_or_cons
    · rw [List.append_nil, lines_of_not_mem free]
      cases line <;> rfl
    · rw [lines_append free]
      rfl
  · rw [statements_append whole isHeader, filterMap_lines free ends, if_neg isHeader,
      List.append_assoc]

/-- Writing a file differently changes nothing in what it says. -/
theorem Change.statements_eq {content changed : List UInt8} (change : Change content changed) :
    statements content = statements changed := by
  cases change with
  | header free otherFree ends =>
    have first := statements_between (.inl rfl) free ends
    have second := statements_between (.inl rfl) otherFree ends
    simpa using first.trans second.symm
  | blankLine whole headed free blank =>
    rw [statements_append whole headed, statements_append whole headed,
      filterMap_lines free (.inr rfl), blank.statement?]
    rfl
  | lineEnd before after =>
    obtain ⟨before, line, rfl, whole, free⟩ := exists_isWhole_append before
    have ends : EndsLine (10 :: after) := .inr rfl
    have returnFree : 10 ∉ line ++ [13] := by simp [free]
    have short := statements_between whole free ends
    have long := statements_between whole returnFree ends
    rw [statement?_eq_of_readLine (readLine_concat_return line)] at long
    simpa using short.trans long.symm
  | @line before after text other whole headed free otherFree ends change =>
    have small : '\n'.toNat < 0x80 := by decide
    have bytesFree := mt (Text.Utf8.mem_encode_iff small).mp free
    have otherBytesFree := mt (Text.Utf8.mem_encode_iff small).mp otherFree
    rw [statements_between whole bytesFree ends, statements_between whole otherBytesFree ends,
      statement?_eq_of_readLine change.readLine_eq]
  | lastNewline =>
    obtain ⟨before, line, rfl, whole, free⟩ := exists_isWhole_append changed
    have ends : EndsLine [10] := .inr rfl
    have ended := statements_between whole free ends
    have unended := statements_between whole free (.inl rfl)
    simpa using ended.trans unended.symm

end StrategyHost.Contract

namespace StrategyHost.ContractTable

open StrategyHost.Contract (Row Change LineChange statements statement? lines)
open StrategyHost.Text (Separated)

/-- Lines read as rows if these rows are all that they say. -/
theorem reads_iff {found : List (List UInt8)} {rows : List Row} :
    Reads found rows ↔ found.filterMap statement? = rows.map .ok := by
  constructor
  · intro reads
    induction reads with
    | nil => rfl
    | blank blank _ inductionHypothesis =>
      rw [List.filterMap_cons_none blank.statement?, inductionHypothesis]
    | row describes _ inductionHypothesis =>
      rw [List.filterMap_cons_some describes.statement?, inductionHypothesis, List.map_cons]
  · intro said
    induction found generalizing rows with
    | nil =>
      obtain rfl : rows = [] := by simpa using said.symm
      exact .nil
    | cons line rest inductionHypothesis =>
      obtain blank | ⟨row, describes⟩ | ⟨fault, faulty⟩ :=
        Contract.blank_or_describes_or_faulty line
      · rw [List.filterMap_cons_none blank.statement?] at said
        exact .blank blank (inductionHypothesis said)
      · rw [List.filterMap_cons_some describes.statement?] at said
        cases rows with
        | nil => cases said
        | cons other rows =>
          obtain ⟨same, others⟩ := List.cons.inj said
          obtain rfl := Except.ok.inj same
          exact .row describes (inductionHypothesis others)
      · rw [List.filterMap_cons_some faulty.statement?] at said
        cases rows with
        | nil => cases said
        | cons other rows => cases (List.cons.inj said).1

/-- A file is accepted if it says nothing but rows, and these fit together. -/
theorem ofBytes_eq_ok_iff {content : List UInt8} {table : ContractTable} :
    ofBytes content = .ok table ↔
      ∃ rows, statements content = rows.map .ok ∧ Fit rows ∧ table.Lists rows := by
  rw [ofBytes, addLines_eq_ok_iff Lists.empty Fit.nil]
  simp only [reads_iff, List.nil_append, statements]

/-- Files that differ by changes of their formats, any number of them, made or undone. -/
def Reformatted : List UInt8 -> List UInt8 -> Prop :=
  Relation.EqvGen Change

theorem Reformatted.statements_eq {content changed : List UInt8}
    (reformatted : Reformatted content changed) : statements content = statements changed := by
  induction reformatted with
  | rel _ _ change => exact change.statements_eq
  | refl => rfl
  | symm _ _ _ inductionHypothesis => exact inductionHypothesis.symm
  | trans _ _ _ _ _ first second => exact first.trans second

/-- A file that is accepted is accepted however it is formatted, as the same table, and looking up
finds the same in its keyed table. -/
theorem ofBytes_of_reformatted {content changed : List UInt8} {table : ContractTable}
    (reformatted : Reformatted content changed) (read : ofBytes content = .ok table) :
    ofBytes changed = .ok table ∧
      ∃ keyed other, KeyedTable.ofBytes content = .ok keyed ∧
        KeyedTable.ofBytes changed = .ok other ∧
        (∀ index, other.byIndex? index = keyed.byIndex? index) ∧
        ∀ ticker, other.byTicker ticker = keyed.byTicker ticker := by
  have changedRead : ofBytes changed = .ok table := by
    rw [ofBytes_eq_ok_iff] at read ⊢
    rwa [← reformatted.statements_eq]
  obtain ⟨keyed, keyedRead, keys⟩ := KeyedTable.exists_keys_of_ofBytes read
  obtain ⟨other, otherRead, otherKeys⟩ := KeyedTable.exists_keys_of_ofBytes changedRead
  refine ⟨changedRead, keyed, other, keyedRead, otherRead, ?_, ?_⟩
  · intro index
    rw [otherKeys.byIndex?, keys.byIndex?]
  · intro ticker
    rw [otherKeys.byTicker, keys.byTicker]

/-- A header and a contract. -/
def plainContent : List UInt8 :=
  Text.Utf8.encode "ticker\nIF2309,CFFEX,Index,,300,0.2\n"

/-- The same under a header that is no text, behind a blank line that ends as two systems end
lines, with blanks around the ticker, a reserved field, more columns and no newline at the end. -/
def variedContent : List UInt8 :=
  255 :: 10 :: Text.Utf8.encode "\t\r\n\u3000IF2309 ,CFFEX,Index,future,300,0.2,1,2"

/-- Each of the changes in turn. -/
theorem ofBytes_of_reformatted_varied :
    Reformatted plainContent variedContent ∧
      ∃ table, ofBytes plainContent = .ok table ∧ ofBytes variedContent = .ok table ∧
        ∃ keyed other, KeyedTable.ofBytes plainContent = .ok keyed ∧
          KeyedTable.ofBytes variedContent = .ok other ∧
          (∀ index, other.byIndex? index = keyed.byIndex? index) ∧
          ∀ ticker, other.byTicker ticker = keyed.byTicker ticker := by
  let front : List UInt8 := [255, 10, 9, 13, 10]
  let plain := "IF2309,CFFEX,Index,,300,0.2"
  let blanks := "\u3000IF2309 ,CFFEX,Index,,300,0.2"
  let reserved := "\u3000IF2309 ,CFFEX,Index,future,300,0.2"
  let columns := "\u3000IF2309 ,CFFEX,Index,future,300,0.2,1,2"
  let others := ["CFFEX".toList, "Index".toList, [], "300".toList, "0.2".toList]
  have headerChange :
      Change plainContent ([255] ++ 10 :: (Text.Utf8.encode plain ++ [10])) := by
    have parts : plainContent =
        Text.Utf8.encode "ticker" ++ 10 :: (Text.Utf8.encode plain ++ [10]) := by decide +kernel
    rw [parts]
    exact .header (by decide +kernel) (by decide) (.inr rfl)
  have blankLine : Change ([255, 10] ++ (Text.Utf8.encode plain ++ [10]))
      ([255, 10] ++ ([9] ++ 10 :: (Text.Utf8.encode plain ++ [10]))) :=
    .blankLine (.inr rfl) (by decide) (by decide) ⟨"\t", rfl, Contract.allBlank_iff.mpr (by decide)⟩
  have lineEnd : Change ([255, 10, 9] ++ 10 :: (Text.Utf8.encode plain ++ [10]))
      ([255, 10, 9] ++ 13 :: 10 :: (Text.Utf8.encode plain ++ [10])) := .lineEnd _ _
  have line {text other : String} (free : '\n' ∉ text.toList ∧ '\n' ∉ other.toList)
      (change : LineChange text other) :
      Change (front ++ (Text.Utf8.encode text ++ [10]))
        (front ++ (Text.Utf8.encode other ++ [10])) :=
    .line (.inr rfl) (by decide) free.1 free.2 (.inr rfl) change
  have widened : LineChange plain blanks := by
    have parts : Separated ',' plain.toList ([] ++ "IF2309".toList :: others) :=
      Text.separated_iff.mpr (by decide +kernel)
    have more : Separated ',' blanks.toList
        ([] ++ (['\u3000'] ++ "IF2309".toList ++ [' ']) :: others) :=
      Text.separated_iff.mpr (by decide +kernel)
    exact .blanks parts more (List.forall_mem_cons.mpr
      ⟨by decide, List.forall_mem_singleton.mpr (by decide)⟩)
  have parts : Separated ',' reserved.toList ("\u3000IF2309 ".toList :: "CFFEX".toList ::
      "Index".toList :: "future".toList :: "300".toList :: "0.2".toList :: []) :=
    Text.separated_iff.mpr (by decide +kernel)
  have replaced : LineChange blanks reserved := by
    have before : Separated ',' blanks.toList ("\u3000IF2309 ".toList :: others) :=
      Text.separated_iff.mpr (by decide +kernel)
    exact .reserved before parts
  have appended : LineChange reserved columns := by
    have behind : Separated ',' columns.toList ("\u3000IF2309 ".toList :: "CFFEX".toList ::
        "Index".toList :: "future".toList :: "300".toList :: "0.2".toList :: [['1'], ['2']]) :=
      Text.separated_iff.mpr (by decide +kernel)
    exact .columns parts behind
  have lastNewline : Change (front ++ (Text.Utf8.encode columns ++ [10])) variedContent := by
    have whole : front ++ (Text.Utf8.encode columns ++ [10]) = variedContent ++ [10] := by
      decide +kernel
    rw [whole]
    exact .lastNewline _
  have reformatted : Reformatted plainContent variedContent :=
    .trans _ _ _ (.rel _ _ headerChange) <| .trans _ _ _ (.rel _ _ blankLine) <|
      .trans _ _ _ (.rel _ _ lineEnd) <|
      .trans _ _ _ (.rel _ _ (line (by decide +kernel) widened)) <|
      .trans _ _ _ (.rel _ _ (line (by decide +kernel) replaced)) <|
      .trans _ _ _ (.rel _ _ (line (by decide +kernel) appended)) (.rel _ _ lastNewline)
  let table : ContractTable := ⟨[⟨1, "IF2309", "CFFEX", "Index", 300, ⟨0x3FC999999999999A⟩⟩]⟩
  have read : ofBytes plainContent = .ok table := by decide +kernel
  exact ⟨reformatted, table, read, ofBytes_of_reformatted reformatted read⟩

end StrategyHost.ContractTable
