import StrategyHost.Contract.File

/-!
# Tables of rows

A table that has been built from rows holds them in their order, with indexes from
one on. `addRow_eq_ok_iff` and `addRow_eq_error_iff` say when a row can be added.
-/

namespace StrategyHost.ContractTable

open StrategyHost.Contract (LineFault Row ofRow)

/-- The contracts of a table are these rows in their order, numbered from one. -/
def Lists (table : ContractTable) (rows : List Row) : Prop :=
  table.contracts = rows.mapIdx fun place row => {
    tickerIndex := UInt32.ofNat (place + 1)
    ticker := row.ticker
    exchange := row.exchange
    name := row.name
    size := row.size
    priceTick := row.priceTick }

namespace Lists

variable {table : ContractTable} {rows : List Row}

theorem empty : ContractTable.empty.Lists [] := rfl

theorem unique {other : ContractTable} (lists : table.Lists rows) (same : other.Lists rows) :
    other = table :=
  congrArg ContractTable.mk (same.trans lists.symm)

theorem length (lists : table.Lists rows) : table.length = rows.length := by
  rw [ContractTable.length, lists, List.length_mapIdx]

/-- The tickers of the contracts are those of the rows. -/
theorem tickers (lists : table.Lists rows) :
    table.contracts.map (·.ticker) = rows.map (·.ticker) := by
  apply List.ext_getElem?
  intro place
  rw [lists]
  cases found : rows[place]? <;> simp [found]

/-- One more row comes at the end. -/
theorem concat (lists : table.Lists rows) (row : Row) :
    ContractTable.Lists
      ⟨table.contracts ++ [ofRow (UInt32.ofNat (table.length + 1)) row]⟩ (rows ++ [row]) := by
  rw [Lists, List.mapIdx_concat, ← lists.length]
  exact congrArg (· ++ _) lists

/-- The contract at a place has the index of this place. -/
theorem tickerIndex (lists : table.Lists rows) (small : rows.length < UInt32.size) {place : Nat}
    {contract : Contract} (found : table.contracts[place]? = some contract) :
    contract.tickerIndex.toNat = place + 1 := by
  rw [lists, List.getElem?_mapIdx] at found
  obtain ⟨row, there, rfl⟩ := Option.map_eq_some_iff.mp found
  have bounded := (List.getElem?_eq_some_iff.mp there).1
  change (UInt32.ofNat (place + 1)).toNat = place + 1
  exact UInt32.toNat_ofNat_of_lt (Nat.lt_of_le_of_lt bounded small)

/-- A ticker is found exactly if a row has it. -/
theorem isSome_byTicker? (lists : table.Lists rows) (ticker : String) :
    (table.byTicker? ticker).isSome = true ↔ ticker ∈ rows.map (·.ticker) := by
  rw [← lists.tickers, byTicker?, List.find?_isSome]
  simp

end Lists

variable {table : ContractTable} {rows : List Row}

theorem addRow_eq (lists : table.Lists rows) (row : Row) :
    table.addRow row =
      if row.ticker ∈ rows.map (·.ticker) then .error (.duplicate row.ticker)
      else if UInt32.size <= rows.length + 1 then .error .tooMany
      else .ok ⟨table.contracts ++ [ofRow (UInt32.ofNat (rows.length + 1)) row]⟩ := by
  simp only [addRow, lists.isSome_byTicker?, lists.length]

/-- A row is added if its ticker is new and its index a 32-bit number. -/
theorem addRow_eq_ok_iff (lists : table.Lists rows) {row : Row} {extended : ContractTable} :
    table.addRow row = .ok extended ↔
      row.ticker ∉ rows.map (·.ticker) ∧ rows.length + 1 < UInt32.size ∧
        extended.Lists (rows ++ [row]) := by
  rw [addRow_eq lists]
  have unique : forall other : ContractTable, other.Lists (rows ++ [row]) ↔
      ⟨table.contracts ++ [ofRow (UInt32.ofNat (rows.length + 1)) row]⟩ = other := by
    intro other
    have concat := lists.concat row
    rw [Lists, lists.length] at concat
    rw [Lists, ← concat]
    constructor
    · intro same
      exact congrArg ContractTable.mk same.symm
    · rintro rfl
      rfl
  rw [unique]
  by_cases known : row.ticker ∈ rows.map (·.ticker)
  · simp [known]
  · by_cases full : UInt32.size <= rows.length + 1
    · rw [if_neg known, if_pos full]
      simp only [reduceCtorEq, false_iff]
      omega
    · rw [if_neg known, if_neg full]
      simp only [Except.ok.injEq]
      exact ⟨fun same => ⟨known, by omega, same⟩, fun fits => fits.2.2⟩

/-- A row is refused because of its ticker, or else because of its index. -/
theorem addRow_eq_error_iff (lists : table.Lists rows) {row : Row} {fault : LineFault} :
    table.addRow row = .error fault ↔
      (row.ticker ∈ rows.map (·.ticker) ∧ fault = .duplicate row.ticker) ∨
        (row.ticker ∉ rows.map (·.ticker) ∧ UInt32.size <= rows.length + 1 ∧ fault = .tooMany) := by
  rw [addRow_eq lists]
  by_cases known : row.ticker ∈ rows.map (·.ticker)
  · simp [known, eq_comm]
  · by_cases full : UInt32.size <= rows.length + 1
    · rw [if_neg known, if_pos full]
      simp only [known, full, Except.error.injEq, false_and, not_false_eq_true, true_and, false_or]
      exact eq_comm
    · rw [if_neg known, if_neg full]
      simp only [known, full, reduceCtorEq, false_and, and_false, or_self]

/-- A contract is found by its ticker, and only by it. -/
theorem mem_of_byTicker {ticker : String} {contract : Contract}
    (found : table.byTicker ticker = .ok contract) :
    contract ∈ table.contracts ∧ contract.ticker = ticker := by
  unfold byTicker at found
  split at found
  · rename_i other known
    obtain rfl := Except.ok.inj found
    rw [byTicker?] at known
    exact ⟨List.mem_of_find?_eq_some known, by simpa using List.find?_some known⟩
  · simp at found

/-- Looking a ticker up fails only if no contract has it. -/
theorem byTicker_eq_error_iff {ticker : String} {failure : Failure} :
    table.byTicker ticker = .error failure ↔
      failure = .unknownTicker ticker ∧
        forall contract, contract ∈ table.contracts -> contract.ticker ≠ ticker := by
  have absent : table.byTicker? ticker = none ↔
      forall contract, contract ∈ table.contracts -> contract.ticker ≠ ticker := by
    rw [byTicker?, List.find?_eq_none]
    simp
  rw [← absent, byTicker]
  cases table.byTicker? ticker with
  | none => simp [eq_comm]
  | some contract => simp

/-- A contract is found under its own index. -/
theorem Lists.byIndex?_tickerIndex (lists : table.Lists rows) (small : rows.length < UInt32.size)
    {contract : Contract} (member : contract ∈ table.contracts) :
    table.byIndex? contract.tickerIndex.toNat = some contract := by
  obtain ⟨place, found⟩ := List.getElem?_of_mem member
  rw [lists.tickerIndex small found, byIndex?, if_pos (by omega)]
  have before : ((place + 1 : Nat) - 1 : Int).toNat = place := by omega
  rw [before, found]

end StrategyHost.ContractTable
