import StrategyHost.Proofs.Contract.Grammar
import StrategyHost.Proofs.Outbound.Encoder

/-!
# Appending to the contract file

Lines are added to the table one after the other, so that what stands behind whole lines can
neither undo a refusal nor renumber a contract. A table that begins as another does finds the
other's contracts where the other has them.
-/

namespace StrategyHost.ContractTable

open StrategyHost.Contract (FileFault IsWhole lines)
open StrategyHost.Outbound (Sender)
open StrategyHost.Trade (Order)

variable {table extended : ContractTable}

/-- The first refusal ends the reading; without one the lines behind are added to what there is
by then. -/
theorem addLines_append (table : ContractTable) (number : Nat) (before behind : List (List UInt8)) :
    table.addLines number (before ++ behind) =
      (table.addLines number before).bind fun read =>
        read.addLines (number + before.length) behind := by
  induction before generalizing table number with
  | nil => rfl
  | cons line rest inductionHypothesis =>
    rw [List.cons_append, addLines, addLines]
    cases table.addLine line with
    | error fault => rfl
    | ok next =>
      simp only [inductionHypothesis, List.length_cons]
      rw [Nat.add_right_comm, Nat.add_assoc]

/-- A table has the contracts of another in the other's order, and may have more behind them. -/
def Begins (table extended : ContractTable) : Prop :=
  table.contracts <+: extended.contracts

namespace Begins

/-- A line adds behind the contracts, if anything. -/
theorem addLine {line : List UInt8} (added : table.addLine line = .ok extended) :
    table.Begins extended := by
  unfold ContractTable.addLine at added
  split at added
  · cases added
  · cases added
    exact List.prefix_refl _
  · unfold addRow at added
    split at added
    · cases added
    · split at added
      · cases added
      · cases added
        exact List.prefix_append _ _

theorem addLines {number : Nat} {left : List (List UInt8)}
    (added : table.addLines number left = .ok extended) : table.Begins extended := by
  induction left generalizing table number with
  | nil =>
    cases added
    exact List.prefix_refl _
  | cons line rest inductionHypothesis =>
    rw [ContractTable.addLines] at added
    cases step : table.addLine line with
    | error fault => simp [step] at added
    | ok next =>
      simp only [step] at added
      exact (addLine step).trans (inductionHypothesis added)

/-- The first contract with a ticker stays the first. -/
theorem byTicker (begins : table.Begins extended) {ticker : String} {contract : Contract}
    (found : table.byTicker ticker = .ok contract) : extended.byTicker ticker = .ok contract := by
  obtain ⟨more, whole⟩ := begins
  unfold ContractTable.byTicker byTicker? at found ⊢
  cases known : table.contracts.find? (·.ticker == ticker) with
  | none => simp [known] at found
  | some other =>
    simp only [known] at found
    simp only [← whole, List.find?_append, known, Option.some_or, found]

/-- What is written for an order does not change. -/
theorem encode (begins : table.Begins extended) {strategyId : String} {order : Order}
    {payload : List UInt8} (encoded : (⟨strategyId, table⟩ : Sender).encode order = .ok payload) :
    (⟨strategyId, extended⟩ : Sender).encode order = .ok payload := by
  unfold Sender.encode at encoded ⊢
  cases found : table.byTicker order.ticker with
  | error failure => simp [found, Except.map] at encoded
  | ok contract =>
    simp only [found] at encoded
    simp only [begins.byTicker found]
    exact encoded

end Begins

/-- A line that is refused is one of those that are added. -/
theorem number_le_of_addLines {number : Nat} {left : List (List UInt8)} {refused : FileFault}
    (failed : table.addLines number left = .error refused) : number <= refused.line := by
  induction left generalizing table number with
  | nil => cases failed
  | cons line rest inductionHypothesis =>
    rw [addLines] at failed
    cases step : table.addLine line with
    | error fault =>
      simp only [step, Except.error.injEq] at failed
      exact Nat.le_of_eq (congrArg FileFault.line failed)
    | ok next =>
      simp only [step] at failed
      exact Nat.le_of_succ_le (inductionHypothesis failed)

/-- Behind whole lines the file is read on from the table of these lines. -/
theorem ofBytes_append_eq {content : List UInt8} (whole : IsWhole content)
    (nonempty : content ≠ []) (more : List UInt8) :
    ofBytes (content ++ more) = (ofBytes content).bind fun table =>
      table.addLines (content.count 10 + 1) (lines more) := by
  have counted := Contract.length_lines_of_isWhole whole
  have some := List.count_pos_iff.mpr (whole.newline_mem nonempty)
  cases split : lines content with
  | nil => simp [split] at counted; omega
  | cons header rest =>
    rw [ofBytes, ofBytes, Contract.lines_append_of_isWhole whole, split]
    rw [List.cons_append, List.tail_cons, List.tail_cons, addLines_append]
    rw [split, List.length_cons] at counted
    have next : 2 + rest.length = content.count 10 + 1 := by omega
    rw [next]

/-- Whatever is appended to whole lines: if they are refused, so is the longer file, for the same
line and reason. If they are accepted, the longer file is refused only for a line behind them;
otherwise it has their contracts first, with their indexes, and each order of theirs is written as
before. -/
theorem ofBytes_append {content : List UInt8} (whole : IsWhole content) (more : List UInt8) :
    (∀ refused, ofBytes content = .error refused -> ofBytes (content ++ more) = .error refused) ∧
      (∀ table extended, ofBytes content = .ok table -> ofBytes (content ++ more) = .ok extended ->
        table.contracts <+: extended.contracts ∧
          ∀ strategyId order payload,
            (⟨strategyId, table⟩ : Sender).encode order = .ok payload ->
              payload.length = 56 ∧
                (⟨strategyId, extended⟩ : Sender).encode order = .ok payload) ∧
      ∀ table refused, ofBytes content = .ok table ->
        ofBytes (content ++ more) = .error refused -> content.count 10 < refused.line := by
  obtain rfl | nonempty := eq_or_ne content []
  · -- Nothing is accepted as the empty table, in which no order has a contract.
    have nothing : ofBytes [] = .ok empty := rfl
    refine ⟨?_, ?_, ?_⟩
    · intro refused failed
      cases nothing.symm.trans failed
    · intro table extended read _
      cases nothing.symm.trans read
      exact ⟨List.nil_prefix, fun _ _ _ encoded => by cases encoded⟩
    · intro table refused _ failed
      have behind := number_le_of_addLines failed
      rw [List.count_nil]
      omega
  · rw [ofBytes_append_eq whole nonempty]
    refine ⟨?_, ?_, ?_⟩
    · intro refused failed
      rw [failed]
      rfl
    · intro table extended read added
      rw [read] at added
      have begins : table.Begins extended := .addLines added
      refine ⟨begins, fun strategyId order payload encoded => ⟨?_, begins.encode encoded⟩⟩
      obtain ⟨contract, _, _, rfl⟩ := Sender.exists_of_encode encoded
      exact Trade.Request.length_encode _
    · intro table refused read failed
      rw [read] at failed
      have behind := number_le_of_addLines failed
      omega

/-- A header and a contract, each on a line that is ended. -/
def wholeContent : List UInt8 :=
  Text.Utf8.encode "ticker\nIF2309,CFFEX,Index,,300,0.2\n"

/-- The table of that file. -/
def wholeTable : ContractTable :=
  ⟨[⟨1, "IF2309", "CFFEX", "Index", 300, ⟨0x3FC999999999999A⟩⟩]⟩

/-- A second contract leaves the first one's order as it was written. The first contract once more
is refused for a line behind the two. A line without fields is refused whatever follows. -/
theorem ofBytes_append_second :
    let order : Order := ⟨"IF2309", .sell, .closeToday, .limit, 3, ⟨0x40AF400000000000⟩, 7⟩
    let more := Text.Utf8.encode "au2312,SHFE,Gold,,1000,0.02"
    let again := Text.Utf8.encode "\r\n IF2309 ,CFFEX,Index,,300,0.2"
    let short := Text.Utf8.encode "ticker\nIF2309\n"
    IsWhole wholeContent ∧ ofBytes wholeContent = .ok wholeTable ∧
      (∃ extended payload, ofBytes (wholeContent ++ more) = .ok extended ∧
        wholeTable.contracts <+: extended.contracts ∧ extended.length = 2 ∧
        (⟨"grid", wholeTable⟩ : Sender).encode order = .ok payload ∧
        (⟨"grid", extended⟩ : Sender).encode order = .ok payload) ∧
      (∃ refused, ofBytes (wholeContent ++ again) = .error refused ∧ 2 < refused.line) ∧
      IsWhole short ∧ ofBytes (short ++ more) = .error ⟨2, .row (.fieldCount 1)⟩ := by
  intro order more again short
  have whole : IsWhole wholeContent := .inr (by decide +kernel)
  have read : ofBytes wholeContent = .ok wholeTable := by decide +kernel
  have shortWhole : IsWhole short := .inr (by decide +kernel)
  refine ⟨whole, read, ?_, ?_, shortWhole, ?_⟩
  · let extended : ContractTable :=
      ⟨wholeTable.contracts ++ [⟨2, "au2312", "SHFE", "Gold", 1000, ⟨0x3F947AE147AE147B⟩⟩]⟩
    have longer : ofBytes (wholeContent ++ more) = .ok extended := by decide +kernel
    obtain ⟨begins, encodes⟩ := (ofBytes_append whole more).2.1 _ _ read longer
    exact ⟨extended, _, longer, begins, rfl, rfl, (encodes "grid" order _ rfl).2⟩
  · have failed : ofBytes (wholeContent ++ again) = .error ⟨4, .duplicate "IF2309"⟩ := by
      decide +kernel
    have counted : wholeContent.count 10 = 2 := by decide +kernel
    have behind := (ofBytes_append whole again).2.2 _ _ read failed
    exact ⟨_, failed, counted ▸ behind⟩
  · exact (ofBytes_append shortWhole more).1 _ (by decide +kernel)

end StrategyHost.ContractTable
