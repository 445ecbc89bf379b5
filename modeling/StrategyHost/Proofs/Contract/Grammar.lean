import StrategyHost.Proofs.Contract.Lines
import StrategyHost.Proofs.Contract.Rows
import StrategyHost.Proofs.Contract.Table

/-!
# The grammar of the contract file

A file is accepted exactly when every line after its first is blank or describes a
row, and no two rows have one ticker; its table lists these rows. Any other file is
refused for its first offending line. `addLines_eq_ok_iff` and
`addLines_eq_error_iff` say so for the lines that are left after any others.
-/

namespace StrategyHost.ContractTable

open StrategyHost.Binary64 (LiteralFault)
open StrategyHost.Contract (LineFault FileFault Row Lines IsBlank Describes Faulty lines readLine)
open StrategyHost.Text (IntegerFault)

/-- Lines that are blank or describe these rows. -/
inductive Reads : List (List UInt8) -> List Row -> Prop where
  | nil : Reads [] []
  | blank {line : List UInt8} {rest : List (List UInt8)} {rows : List Row}
      (blank : IsBlank line) (reads : Reads rest rows) : Reads (line :: rest) rows
  | row {line : List UInt8} {rest : List (List UInt8)} {row : Row} {rows : List Row}
      (describes : Describes line row) (reads : Reads rest rows) :
      Reads (line :: rest) (row :: rows)

/-- Why a line offends after rows that have been accepted: it is faulty, or else its
ticker is not new, or else no index is left for it. -/
inductive Offends (rows : List Row) (line : List UInt8) : LineFault -> Prop where
  | faulty {fault : LineFault} (faulty : Faulty line fault) : Offends rows line fault
  | duplicate {row : Row} (describes : Describes line row)
      (known : row.ticker ∈ rows.map (·.ticker)) : Offends rows line (.duplicate row.ticker)
  | tooMany {row : Row} (describes : Describes line row)
      (new : row.ticker ∉ rows.map (·.ticker)) (full : UInt32.size <= rows.length + 1) :
      Offends rows line .tooMany

/-- What callers are told of a line with this number: that it repeats a ticker, and of every
other fault that its format is wrong, and how. -/
inductive Reported (number : Nat) : LineFault -> Failure -> Prop where
  | duplicate (ticker : String) :
      Reported number (.duplicate ticker) (.duplicateTicker ticker number)
  | encoding :
      Reported number .encoding (.format number "stream did not contain valid UTF-8")
  | fieldCount (found : Nat) : Reported number (.row (.fieldCount found))
      (.format number ("expected at least 6 fields, got " ++ Text.decimal found))
  | emptyTicker : Reported number (.row .emptyTicker) (.format number "empty ticker")
  | size (field : String) (fault : IntegerFault) : Reported number (.row (.size field fault))
      (.format number ("size '" ++ field ++ "': " ++ fault.message))
  | priceTick (field : String) (fault : LiteralFault) :
      Reported number (.row (.priceTick field fault))
      (.format number ("price_tick '" ++ field ++ "': " ++ fault.message))
  | tooMany : Reported number .tooMany (.format number "too many contracts")

/-- Rows that fit in a table together. -/
structure Fit (rows : List Row) : Prop where
  distinct : (rows.map (·.ticker)).Nodup
  few : rows.length < UInt32.size

namespace Fit

theorem nil : Fit [] := ⟨by simp, by simp⟩

theorem concat_iff {rows : List Row} {row : Row} :
    Fit (rows ++ [row]) ↔
      Fit rows ∧ row.ticker ∉ rows.map (·.ticker) ∧ rows.length + 1 < UInt32.size := by
  constructor
  · rintro ⟨distinct, few⟩
    simp only [List.map_append, List.nodup_append, List.length_append] at distinct few
    refine ⟨⟨distinct.1, by simp at few; omega⟩, ?_, by simpa using few⟩
    intro known
    exact distinct.2.2 _ known _ (by simp) rfl
  · rintro ⟨⟨distinct, few⟩, new, small⟩
    refine ⟨?_, by simpa using small⟩
    simp only [List.map_append, List.nodup_append]
    refine ⟨distinct, by simp, ?_⟩
    intro ticker known other member same
    subst same
    simp only [List.map_cons, List.map_nil, List.mem_singleton] at member
    exact new (member ▸ known)

/-- The first of rows that fit together fit together. -/
theorem of_append {rows more : List Row} (fit : Fit (rows ++ more)) : Fit rows := by
  obtain ⟨distinct, few⟩ := fit
  simp only [List.map_append, List.nodup_append, List.length_append] at distinct few
  exact ⟨distinct.1, by omega⟩

end Fit

section

variable {table extended : ContractTable} {rows : List Row} {line : List UInt8}

/-- A line leaves the table as it is, or adds its row. -/
theorem addLine_eq_ok_iff (lists : table.Lists rows) :
    table.addLine line = .ok extended ↔
      (IsBlank line ∧ extended = table) ∨
        exists row, Describes line row ∧ row.ticker ∉ rows.map (·.ticker) ∧
          rows.length + 1 < UInt32.size ∧ extended.Lists (rows ++ [row]) := by
  rw [← Contract.readLine_eq_none_iff]
  simp only [← Contract.readLine_eq_some_iff, ← addRow_eq_ok_iff lists]
  unfold addLine
  cases said : readLine line with
  | error fault => simp
  | ok row? =>
    cases row? with
    | none => simp [eq_comm]
    | some row => simp

/-- A line is refused if it offends. -/
theorem addLine_eq_error_iff (lists : table.Lists rows) {fault : LineFault} :
    table.addLine line = .error fault ↔ Offends rows line fault := by
  constructor
  · intro refused
    unfold addLine at refused
    split at refused
    · rename_i other said
      obtain rfl := Except.error.inj refused
      exact .faulty (Contract.readLine_eq_error_iff.mp said)
    · simp at refused
    · rename_i row said
      have describes := Contract.readLine_eq_some_iff.mp said
      obtain ⟨known, rfl⟩ | ⟨new, full, rfl⟩ := (addRow_eq_error_iff lists).mp refused
      · exact .duplicate describes known
      · exact .tooMany describes new full
  · intro offends
    unfold addLine
    cases offends with
    | faulty faulty => rw [faulty.readLine]
    | duplicate describes known =>
      rw [describes.readLine]
      exact (addRow_eq_error_iff lists).mpr (.inl ⟨known, rfl⟩)
    | tooMany describes new full =>
      rw [describes.readLine]
      exact (addRow_eq_error_iff lists).mpr (.inr ⟨new, full, rfl⟩)

/-- Lines are accepted if they read as rows that fit with those before them. -/
theorem addLines_eq_ok_iff (lists : table.Lists rows) (fit : Fit rows) (number : Nat)
    (left : List (List UInt8)) :
    table.addLines number left = .ok extended ↔
      exists more, Reads left more ∧ Fit (rows ++ more) ∧ extended.Lists (rows ++ more) := by
  induction left generalizing table rows number with
  | nil =>
    constructor
    · intro accepted
      obtain rfl := Except.ok.inj accepted
      exact ⟨[], .nil, by simpa using fit, by simpa using lists⟩
    · rintro ⟨more, reads, _, listed⟩
      cases reads
      rw [List.append_nil] at listed
      rw [addLines, lists.unique listed]
  | cons line rest inductionHypothesis =>
    rw [addLines]
    constructor
    · intro accepted
      cases step : table.addLine line with
      | error fault => simp [step] at accepted
      | ok next =>
        simp only [step] at accepted
        obtain ⟨blank, rfl⟩ | ⟨row, describes, new, small, listed⟩ :=
          (addLine_eq_ok_iff lists).mp step
        · obtain ⟨more, reads, others⟩ := (inductionHypothesis lists fit _).mp accepted
          exact ⟨more, .blank blank reads, others⟩
        · obtain ⟨more, reads, others⟩ :=
            (inductionHypothesis listed (Fit.concat_iff.mpr ⟨fit, new, small⟩) _).mp accepted
          exact ⟨row :: more, .row describes reads, by simpa using others⟩
    · rintro ⟨more, reads, fits, listed⟩
      cases reads with
      | blank blank reads =>
        rw [(addLine_eq_ok_iff lists).mpr (.inl ⟨blank, rfl⟩)]
        exact (inductionHypothesis lists fit _).mpr ⟨more, reads, fits, listed⟩
      | @row _ _ row more describes reads =>
        rw [List.append_cons] at fits listed
        obtain ⟨_, new, small⟩ := Fit.concat_iff.mp fits.of_append
        have step :=
          (addLine_eq_ok_iff lists).mpr (.inr ⟨row, describes, new, small, lists.concat row⟩)
        rw [step]
        exact (inductionHypothesis (lists.concat row) fits.of_append _).mpr
          ⟨more, reads, fits, listed⟩

/-- Lines are refused for the first of them that offends. -/
theorem addLines_eq_error_iff (lists : table.Lists rows) (fit : Fit rows) (number : Nat)
    (left : List (List UInt8)) {refused : FileFault} :
    table.addLines number left = .error refused ↔
      exists before offending behind more,
        left = before ++ offending :: behind ∧ Reads before more ∧ Fit (rows ++ more) ∧
          refused.line = number + before.length ∧
          Offends (rows ++ more) offending refused.fault := by
  induction left generalizing table rows number with
  | nil => simp [addLines]
  | cons line rest inductionHypothesis =>
    rw [addLines]
    constructor
    · intro failed
      cases step : table.addLine line with
      | error fault =>
        simp only [step, Except.error.injEq] at failed
        subst failed
        have offends := (addLine_eq_error_iff lists).mp step
        exact ⟨[], line, rest, [], rfl, .nil, by simpa using fit, rfl, by simpa using offends⟩
      | ok next =>
        simp only [step] at failed
        obtain ⟨blank, rfl⟩ | ⟨row, describes, new, small, listed⟩ :=
          (addLine_eq_ok_iff lists).mp step
        · obtain ⟨before, offending, behind, more, rfl, reads, fits, place, offends⟩ :=
            (inductionHypothesis lists fit _).mp failed
          refine ⟨line :: before, offending, behind, more, rfl, .blank blank reads, fits, ?_,
            offends⟩
          rw [place, List.length_cons]
          omega
        · obtain ⟨before, offending, behind, more, rfl, reads, fits, place, offends⟩ :=
            (inductionHypothesis listed (Fit.concat_iff.mpr ⟨fit, new, small⟩) _).mp failed
          rw [List.append_assoc] at fits offends
          refine ⟨line :: before, offending, behind, row :: more, rfl, .row describes reads,
            fits, ?_, offends⟩
          rw [place, List.length_cons]
          omega
    · rintro ⟨before, offending, behind, more, same, reads, fits, place, offends⟩
      cases reads with
      | nil =>
        obtain ⟨rfl, rfl⟩ := List.cons.inj same
        rw [List.append_nil] at offends
        obtain rfl : refused.line = number := place
        rw [(addLine_eq_error_iff lists).mpr offends]
      | @blank _ before _ blank reads =>
        obtain ⟨rfl, rfl⟩ := List.cons.inj same
        rw [(addLine_eq_ok_iff lists).mpr (.inl ⟨blank, rfl⟩)]
        refine (inductionHypothesis lists fit _).mpr
          ⟨before, offending, behind, more, rfl, reads, fits, ?_, offends⟩
        rw [place, List.length_cons]
        omega
      | @row _ before row more describes reads =>
        obtain ⟨rfl, rfl⟩ := List.cons.inj same
        rw [List.append_cons] at fits offends
        obtain ⟨_, new, small⟩ := Fit.concat_iff.mp fits.of_append
        have step :=
          (addLine_eq_ok_iff lists).mpr (.inr ⟨row, describes, new, small, lists.concat row⟩)
        rw [step]
        refine (inductionHypothesis (lists.concat row) fits.of_append _).mpr
          ⟨before, offending, behind, more, rfl, reads, fits, ?_, offends⟩
        rw [place, List.length_cons]
        omega

end

/-- The table of a file lists rows that fit together. -/
theorem exists_lists_of_ofBytes {content : List UInt8} {table : ContractTable}
    (read : ofBytes content = .ok table) : exists rows, Fit rows ∧ table.Lists rows := by
  obtain ⟨rows, _, fit, lists⟩ := (addLines_eq_ok_iff Lists.empty Fit.nil _ _).mp read
  exact ⟨rows, fit, lists⟩

/-- Fewer than `UInt32.size - 1` of these lines are not blank. -/
def FewRows (found : List (List UInt8)) : Prop :=
  forall chosen : List (List UInt8), chosen.Sublist found ->
    (forall line, line ∈ chosen -> ¬IsBlank line) -> chosen.length < UInt32.size - 1

/-- There are as many rows as lines that describe them. -/
theorem Reads.exists_chosen {found : List (List UInt8)} {rows : List Row}
    (reads : Reads found rows) :
    exists chosen : List (List UInt8), chosen.Sublist found ∧
      (forall line, line ∈ chosen -> ¬IsBlank line) ∧ chosen.length = rows.length := by
  induction reads with
  | nil => exact ⟨[], .slnil, by simp, rfl⟩
  | blank blank _ inductionHypothesis =>
    obtain ⟨chosen, sublist, notBlank, same⟩ := inductionHypothesis
    exact ⟨chosen, sublist.cons _, notBlank, same⟩
  | @row line rest row rows describes _ inductionHypothesis =>
    obtain ⟨chosen, sublist, notBlank, same⟩ := inductionHypothesis
    refine ⟨line :: chosen, sublist.cons_cons line, ?_, congrArg (· + 1) same⟩
    intro other member
    rcases List.mem_cons.mp member with rfl | later
    · exact describes.not_isBlank
    · exact notBlank other later

/-- Of few rows each has an index. -/
theorem FewRows.length_lt {found : List (List UInt8)} {rows : List Row} (few : FewRows found)
    (reads : Reads found rows) : rows.length < UInt32.size - 1 := by
  obtain ⟨chosen, sublist, notBlank, same⟩ := reads.exists_chosen
  exact same ▸ few chosen sublist notBlank

/-- What comes before a line of few rows leaves an index for it. -/
theorem FewRows.before {before behind : List (List UInt8)} {offending : List UInt8}
    (few : FewRows (before ++ offending :: behind)) : FewRows before :=
  fun chosen sublist => few chosen (sublist.trans (List.sublist_append_left _ _))

/-- Callers are told the kind of every fault, and the number of its line. -/
theorem reported_iff {refused : FileFault} {failure : Failure} :
    Reported refused.line refused.fault failure ↔ refused.toFailure = failure := by
  obtain ⟨number, fault⟩ := refused
  constructor
  · rintro (_ | _ | _ | _ | _ | _ | _)
    all_goals rfl
  · rintro rfl
    match fault with
    | .encoding => exact .encoding
    | .row (.fieldCount found) => exact .fieldCount found
    | .row .emptyTicker => exact .emptyTicker
    | .row (.size field fault) => exact .size field fault
    | .row (.priceTick field fault) => exact .priceTick field fault
    | .duplicate ticker => exact .duplicate ticker
    | .tooMany => exact .tooMany

/-- The first line after the header that offends, by its number, and why. The header is line
one, and blank lines count. -/
def OffendsFirst (found : List (List UInt8)) (number : Nat) (fault : LineFault) : Prop :=
  exists before offending behind rows,
    found.tail = before ++ offending :: behind ∧ Reads before rows ∧
      (rows.map (·.ticker)).Nodup ∧ Offends rows offending fault ∧ fault ≠ .tooMany ∧
      number = before.length + 2

/-- What can be relied on about the reading of a file. -/
structure Grammar (content : List UInt8) : Prop where
  divided : forall found, Lines content found ↔ found = lines content
  /-- Every line after the first is blank or describes a row, and no ticker is repeated. -/
  accepted : forall table, ofBytes content = .ok table ↔
    exists rows, Reads (lines content).tail rows ∧ (rows.map (·.ticker)).Nodup ∧
      table.Lists rows
  numbered : forall table place contract, ofBytes content = .ok table ->
    table.contracts[place]? = some contract -> contract.tickerIndex.toNat = place + 1
  refused : forall refused, ofBytes content = .error refused ↔
    OffendsFirst (lines content) refused.line refused.fault
  /-- Callers get a table, or are told of the first line that offends and of nothing else. -/
  reported : forall failure, (ofBytes content).mapError FileFault.toFailure = .error failure ↔
    exists number fault, OffendsFirst (lines content) number fault ∧
      Reported number fault failure
  /-- The first line has no influence. -/
  header : forall header rest other, content = header ++ 10 :: rest -> 10 ∉ header ->
    10 ∉ other -> ofBytes (other ++ 10 :: rest) = ofBytes content
  headerOnly : 10 ∉ content -> ofBytes content = .ok empty

section

variable {content : List UInt8} (few : FewRows (lines content).tail)

include few

/-- A file is accepted exactly when its lines read as rows with distinct tickers. -/
theorem FewRows.ofBytes_eq_ok_iff {table : ContractTable} :
    ofBytes content = .ok table ↔
      exists rows, Reads (lines content).tail rows ∧ (rows.map (·.ticker)).Nodup ∧
        table.Lists rows := by
  rw [ofBytes, addLines_eq_ok_iff Lists.empty Fit.nil]
  constructor
  · rintro ⟨rows, reads, fit, lists⟩
    exact ⟨rows, reads, fit.distinct, lists⟩
  · rintro ⟨rows, reads, distinct, lists⟩
    have small := few.length_lt reads
    exact ⟨rows, reads, ⟨distinct, by simp only [List.nil_append]; omega⟩, lists⟩

/-- A file is refused for the first of its lines that offends, which is never for want of an
index. -/
theorem FewRows.ofBytes_eq_error_iff {refused : FileFault} :
    ofBytes content = .error refused ↔
      OffendsFirst (lines content) refused.line refused.fault := by
  rw [ofBytes, addLines_eq_error_iff Lists.empty Fit.nil]
  constructor
  · rintro ⟨before, offending, behind, rows, same, reads, fit, place, offends⟩
    refine ⟨before, offending, behind, rows, same, reads, fit.distinct, offends, ?_, by omega⟩
    intro tooMany
    rw [same] at few
    have small := few.before.length_lt reads
    rw [tooMany] at offends
    cases offends with
    | faulty faulty => cases faulty
    | tooMany describes new full =>
      simp only [List.nil_append] at full
      omega
  · rintro ⟨before, offending, behind, rows, same, reads, distinct, offends, _, place⟩
    rw [same] at few
    have small := few.before.length_lt reads
    exact ⟨before, offending, behind, rows, same, reads,
      ⟨distinct, by simp only [List.nil_append]; omega⟩, by omega, offends⟩

/-- Callers are told of the line for which the file is refused, and of no other. -/
theorem FewRows.mapError_eq_error_iff {failure : Failure} :
    (ofBytes content).mapError FileFault.toFailure = .error failure ↔
      exists number fault, OffendsFirst (lines content) number fault ∧
        Reported number fault failure := by
  constructor
  · intro told
    cases read : ofBytes content with
    | ok table => simp [read, Except.mapError] at told
    | error refused =>
      simp only [read, Except.mapError, Except.error.injEq] at told
      exact ⟨refused.line, refused.fault, few.ofBytes_eq_error_iff.mp read,
        reported_iff.mpr told⟩
  · rintro ⟨number, fault, offends, reported⟩
    have fails : ofBytes content = .error ⟨number, fault⟩ :=
      few.ofBytes_eq_error_iff.mpr offends
    have told : (⟨number, fault⟩ : FileFault).toFailure = failure := reported_iff.mp reported
    rw [fails, Except.mapError, told]

end

/-- A file with few rows is accepted exactly when every line after the first is blank or
describes a row and the tickers are distinct, and then lists the rows, numbered from one;
otherwise callers are told of its first offending line, with the line's number. Its first
line has no influence. -/
theorem ofBytes_grammar {content : List UInt8} (few : FewRows (lines content).tail) :
    Grammar content where
  divided _ := Contract.lines_iff
  accepted _ := few.ofBytes_eq_ok_iff
  numbered table place contract accepted found := by
    obtain ⟨rows, fit, lists⟩ := exists_lists_of_ofBytes accepted
    exact lists.tickerIndex fit.few found
  refused _ := few.ofBytes_eq_error_iff
  reported _ := few.mapError_eq_error_iff
  header := by
    rintro header rest other rfl free otherFree
    rw [ofBytes, ofBytes, Contract.lines_append free, Contract.lines_append otherFree]
    rfl
  headerOnly free := by
    rw [ofBytes, Contract.lines_of_not_mem free]
    cases content.isEmpty <;> rfl

/-- A header that is no text, a blank line, a contract, and one more line. -/
def contentWith (last : String) : List UInt8 :=
  255 :: 10 :: Text.Utf8.encode (" \r\nIF2309, CFFEX,Index,,300,0.2\r\n" ++ last)

/-- The fourth line adds a contract, has a size that is no integer, or repeats the ticker of the
third. -/
theorem ofBytes_grammar_fourth :
    let more := "IC2309,CFFEX,,,-2,1e1"
    let faulty := "IC2309,CFFEX,Index,,x,0.2"
    let again := "IF2309 ,SSE,Other,,1,1"
    ofBytes (contentWith more) = .ok ⟨[
        ⟨1, "IF2309", "CFFEX", "Index", 300, ⟨0x3FC999999999999A⟩⟩,
        ⟨2, "IC2309", "CFFEX", "", -2, ⟨0x4024000000000000⟩⟩]⟩ ∧
      (ofBytes (contentWith faulty)).mapError FileFault.toFailure =
        .error (.format 4 "size 'x': invalid digit found in string") ∧
      (ofBytes (contentWith again)).mapError FileFault.toFailure =
        .error (.duplicateTicker "IF2309" 4) := by
  intro more faulty again
  let blank : List UInt8 := Text.Utf8.encode " "
  let contract : List UInt8 := Text.Utf8.encode "IF2309, CFFEX,Index,,300,0.2"
  let row : Row := ⟨"IF2309", "CFFEX", "Index", 300, ⟨0x3FC999999999999A⟩⟩
  let other : Row := ⟨"IC2309", "CFFEX", "", -2, ⟨0x4024000000000000⟩⟩
  have isBlank : IsBlank blank := Contract.readLine_eq_none_iff.mp (by decide +kernel)
  have describes : Describes contract row := Contract.readLine_eq_some_iff.mp (by decide +kernel)
  have before : Reads [blank, contract] [row] := .blank isBlank (.row describes .nil)
  have few {last : String}
      (read : (lines (contentWith last)).tail = [blank, contract, Text.Utf8.encode last]) :
      FewRows (lines (contentWith last)).tail := by
    intro chosen sublist _
    have bounded := sublist.length_le
    rw [read, List.length_cons, List.length_cons, List.length_singleton] at bounded
    have large : 4 < UInt32.size := by decide
    omega
  refine ⟨?_, ?_, ?_⟩
  · have read : (lines (contentWith more)).tail = [blank, contract, Text.Utf8.encode more] := by
      decide +kernel
    have describesMore : Describes (Text.Utf8.encode more) other :=
      Contract.readLine_eq_some_iff.mp (by decide +kernel)
    refine ((ofBytes_grammar (few read)).accepted _).mpr ⟨[row, other], ?_, by decide, rfl⟩
    rw [read]
    exact .blank isBlank (.row describes (.row describesMore .nil))
  · have read : (lines (contentWith faulty)).tail =
        [blank, contract, Text.Utf8.encode faulty] := by
      decide +kernel
    have isFaulty : Faulty (Text.Utf8.encode faulty) (.row (.size "x" .invalidDigit)) :=
      Contract.readLine_eq_error_iff.mp (by decide +kernel)
    exact ((ofBytes_grammar (few read)).reported _).mpr ⟨4, _,
      ⟨_, _, [], [row], read, before, by decide, .faulty isFaulty, by simp, rfl⟩,
      .size "x" .invalidDigit⟩
  · have read : (lines (contentWith again)).tail =
        [blank, contract, Text.Utf8.encode again] := by
      decide +kernel
    have describesAgain : Describes (Text.Utf8.encode again)
        ⟨"IF2309", "SSE", "Other", 1, ⟨0x3FF0000000000000⟩⟩ :=
      Contract.readLine_eq_some_iff.mp (by decide +kernel)
    exact ((ofBytes_grammar (few read)).reported _).mpr ⟨4, _,
      ⟨_, _, [], [row], read, before, by decide, .duplicate describesAgain (by decide), by simp,
        rfl⟩,
      .duplicate "IF2309"⟩

end StrategyHost.ContractTable
