import StrategyHost.Proofs.Contract.Keyed

/-!
# Looking contracts up

A contract of a loaded table is found under its index and under its ticker, and nothing else is
found. A ticker is what a field of a line can be, so that no other text is ever found.
-/

namespace StrategyHost

open StrategyHost.Text (Separated Trimmed isBlank)

/-- A text that can be a ticker. -/
structure IsTicker (text : String) : Prop where
  nonempty : text ≠ ""
  start : ∀ character, text.toList.head? = some character -> isBlank character = false
  stop : ∀ character, text.toList.getLast? = some character -> isBlank character = false
  comma : ',' ∉ text.toList
  newline : '\n' ∉ text.toList

namespace Contract

/-- What describes a row on one line has a ticker for it. -/
theorem Describes.isTicker {line : List UInt8} {row : Row} (describes : Describes line row)
    (free : 10 ∉ line) : IsTicker row.ticker := by
  cases describes with
  | @row text ticker _ _ _ _ _ _ _ _ _ fields named _ _ =>
    obtain ⟨parts, separated, trimmed⟩ := fields
    obtain ⟨part, _, first, _, rfl⟩ := List.forall₂_cons_right_iff.mp trimmed
    obtain ⟨noComma, within⟩ := separated.of_mem List.mem_cons_self
    have oneLine : '\n' ∉ text.toList :=
      fun newline => free (List.mem_flatMap.mpr ⟨'\n', newline, by decide⟩)
    exact {
      nonempty := by simpa using named
      start := by simpa using first.start
      stop := by simpa using first.stop
      comma := by simpa using fun comma => noComma (first.subset comma)
      newline := by simpa using fun newline => oneLine (within (first.subset newline)) }

end Contract

namespace ContractTable

open StrategyHost.Contract (Row Describes lines)

/-- Every row comes from a line that describes it. -/
theorem Reads.exists_line {found : List (List UInt8)} {rows : List Row} (reads : Reads found rows)
    {row : Row} (member : row ∈ rows) : ∃ line, line ∈ found ∧ Describes line row := by
  induction reads with
  | nil => cases member
  | blank _ _ inductionHypothesis =>
    obtain ⟨line, later, describes⟩ := inductionHypothesis member
    exact ⟨line, List.mem_cons_of_mem _ later, describes⟩
  | @row line _ _ _ describes _ inductionHypothesis =>
    rcases List.mem_cons.mp member with rfl | others
    · exact ⟨line, List.mem_cons_self, describes⟩
    · obtain ⟨line, later, describes⟩ := inductionHypothesis others
      exact ⟨line, List.mem_cons_of_mem _ later, describes⟩

/-- The contracts of a file have tickers. -/
theorem isTicker_of_ofBytes {content : List UInt8} {table : ContractTable}
    (read : ofBytes content = .ok table) {contract : Contract}
    (member : contract ∈ table.contracts) : IsTicker contract.ticker := by
  obtain ⟨rows, reads, _, lists⟩ := (addLines_eq_ok_iff Lists.empty Fit.nil _ _).mp read
  have listed : contract.ticker ∈ rows.map (·.ticker) :=
    lists.tickers ▸ List.mem_map_of_mem member
  obtain ⟨row, rowMember, named⟩ := List.mem_map.mp listed
  obtain ⟨line, lineMember, describes⟩ := reads.exists_line rowMember
  rw [← named]
  exact describes.isTicker
    ((Contract.lines_lines content).newline_notMem (List.mem_of_mem_tail lineMember))

/-- What can be relied on when contracts are looked up. -/
structure Coherent (table : ContractTable) : Prop where
  /-- The indexes count the contracts, from one on. -/
  indexes : ∀ index : Int,
    (table.byIndex? index).isSome = true ↔ 1 <= index ∧ index <= table.length
  /-- An index leads to the contract at its place, which has this index. -/
  byIndex : ∀ (index : Int) (contract : Contract), table.byIndex? index = some contract ->
    table.contracts[(index - 1).toNat]? = some contract ∧ contract.tickerIndex.toNat = index
  /-- A ticker leads to the contract that has it, and no two have one. -/
  byTicker : ∀ (ticker : String) (contract : Contract), table.byTicker ticker = .ok contract ↔
    contract ∈ table.contracts ∧ contract.ticker = ticker
  distinct : (table.contracts.map (·.ticker)).Nodup
  unknown : ∀ ticker : String,
    (∀ contract, contract ∈ table.contracts -> contract.ticker ≠ ticker) ->
      table.byTicker ticker = .error (.unknownTicker ticker)
  /-- Both ways lead to every contract. -/
  both : ∀ contract, contract ∈ table.contracts ->
    table.byTicker contract.ticker = .ok contract ∧
      table.byIndex? contract.tickerIndex.toNat = some contract
  tickers : ∀ contract, contract ∈ table.contracts -> IsTicker contract.ticker
  /-- What cannot be a ticker is not looked up with success. -/
  others : ∀ text : String, ¬IsTicker text -> table.byTicker text = .error (.unknownTicker text)

theorem isSome_byIndex?_iff (table : ContractTable) (index : Int) :
    (table.byIndex? index).isSome = true ↔ 1 <= index ∧ index <= table.length := by
  unfold byIndex? length
  by_cases positive : 1 <= index
  · rw [if_pos positive, Option.isSome_iff_ne_none, ne_eq, List.getElem?_eq_none_iff]
    omega
  · simp [positive]

theorem coherent_of_ofBytes {content : List UInt8} {table : ContractTable} {keyed : KeyedTable}
    (read : ofBytes content = .ok table) (keys : keyed.Keys table) : table.Coherent := by
  obtain ⟨rows, fit, lists⟩ := exists_lists_of_ofBytes read
  have unknown : ∀ ticker : String,
      (∀ contract, contract ∈ table.contracts -> contract.ticker ≠ ticker) ->
        table.byTicker ticker = .error (.unknownTicker ticker) :=
    fun _ absent => byTicker_eq_error_iff.mpr ⟨rfl, absent⟩
  exact {
    indexes := table.isSome_byIndex?_iff
    byIndex := by
      intro index contract found
      unfold byIndex? at found
      split at found
      · refine ⟨found, ?_⟩
        rw [lists.tickerIndex fit.few found]
        omega
      · simp at found
    byTicker := fun _ _ => keys.byTicker_eq_ok_iff
    distinct := lists.tickers ▸ fit.distinct
    unknown := unknown
    both := by
      intro contract member
      exact ⟨keys.byTicker_eq_ok_iff.mpr ⟨member, rfl⟩, lists.byIndex?_tickerIndex fit.few member⟩
    tickers := fun _ member => isTicker_of_ofBytes read member
    others := by
      intro text noTicker
      apply unknown
      rintro contract member rfl
      exact noTicker (isTicker_of_ofBytes read member) }

/-- A keyed table in which looking up finds what it finds in a table. -/
structure ServedBy (table : ContractTable) (keyed : KeyedTable) : Prop where
  keys : keyed.Keys table
  byIndex : ∀ index : Int, keyed.byIndex? index = table.byIndex? index
  /-- Where the map leads there is a contract. -/
  byTicker : ∀ ticker : String, keyed.byTicker ticker = .result (table.byTicker ticker)

/-- Looking up in the table of a file is coherent, and served by the keyed table of the file. -/
theorem lookups_of_ofBytes {content : List UInt8} {table : ContractTable}
    (read : ofBytes content = .ok table) :
    table.Coherent ∧ ∃ keyed, KeyedTable.ofBytes content = .ok keyed ∧ table.ServedBy keyed := by
  obtain ⟨keyed, keyedRead, keys⟩ := KeyedTable.exists_keys_of_ofBytes read
  exact ⟨coherent_of_ofBytes read keys, keyed, keyedRead, keys, keys.byIndex?,
    keys.byTicker⟩

/-- Two contracts, a blank line between them and a ticker with blanks around and inside it. -/
def pairContent : List UInt8 :=
  Text.Utf8.encode "ticker\nIF2309,CFFEX,Index,,300,0.2\n \n\t au 2312 ,SHFE,Gold,,1000,0.02\r\n"

/-- The table of that file. -/
def pairTable : ContractTable :=
  ⟨[⟨1, "IF2309", "CFFEX", "Index", 300, ⟨0x3FC999999999999A⟩⟩,
    ⟨2, "au 2312", "SHFE", "Gold", 1000, ⟨0x3F947AE147AE147B⟩⟩]⟩

/-- The second contract is found in both ways. A negative number, a number beyond all words and
the ticker with a blank in front lead nowhere. -/
theorem lookups_of_ofBytes_pair :
    ofBytes pairContent = .ok pairTable ∧
      (∃ keyed, KeyedTable.ofBytes pairContent = .ok keyed ∧
        (∃ contract, keyed.byIndex? 2 = some contract ∧
          keyed.byTicker "au 2312" = .result (.ok contract)) ∧
        keyed.byIndex? (-1) = none ∧ keyed.byIndex? 18446744073709551617 = none) ∧
      pairTable.byTicker " au 2312" = .error (.unknownTicker " au 2312") := by
  have read : ofBytes pairContent = .ok pairTable := by decide +kernel
  obtain ⟨coherent, keyed, keyedRead, served⟩ := lookups_of_ofBytes read
  have none_of_outside {index : Int} (outside : ¬(1 <= index ∧ index <= 2)) :
      keyed.byIndex? index = none := by
    rw [served.byIndex, ← Option.not_isSome_iff_eq_none, coherent.indexes]
    exact outside
  have second := (coherent.both _ (List.mem_cons_of_mem _ List.mem_cons_self)).1
  have noTicker : ¬IsTicker " au 2312" :=
    fun ticker => absurd (ticker.start ' ' (by decide)) (by decide)
  exact ⟨read, ⟨keyed, keyedRead, ⟨_, served.byIndex 2, by rw [served.byTicker, second]⟩,
    none_of_outside (by decide), none_of_outside (by decide)⟩, coherent.others _ noTicker⟩

end ContractTable

end StrategyHost
