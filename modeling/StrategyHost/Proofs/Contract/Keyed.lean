import StrategyHost.Proofs.Contract.Grammar

/-!
# Tables with a key

A table need not be searched for a ticker: a map from tickers to places, filled as rows are
added, leads to the contract at once. `KeyedTable` is a table with such a map. Reading a file
into one goes as reading it into a `ContractTable` does, line by line, and what the map leads to
is what searching finds.
-/

namespace StrategyHost

open StrategyHost.Contract (LineFault FileFault Row ofRow)

/-- Contracts in the file's order, and the place of each ticker among them. -/
structure KeyedTable where
  contracts : Array Contract
  places : Std.HashMap String Nat

namespace KeyedTable

/-- The table without contracts. -/
def empty : KeyedTable := ⟨#[], ∅⟩

/-- Add the contract of a row. Its ticker must be new, and its index must be a 32-bit number. -/
def addRow (table : KeyedTable) (row : Row) : Except LineFault KeyedTable :=
  if table.places.contains row.ticker then .error (.duplicate row.ticker)
  else if UInt32.size <= table.contracts.size + 1 then .error .tooMany
  else .ok {
    contracts := table.contracts.push (ofRow (UInt32.ofNat (table.contracts.size + 1)) row)
    places := table.places.insert row.ticker table.contracts.size }

/-- Add what a line describes. -/
def addLine (table : KeyedTable) (line : List UInt8) : Except LineFault KeyedTable :=
  match Contract.readLine line with
  | .error fault => .error fault
  | .ok none => .ok table
  | .ok (some row) => table.addRow row

/-- Add the lines from a number on. -/
def addLines (table : KeyedTable) (number : Nat) :
    List (List UInt8) -> Except FileFault KeyedTable
  | [] => .ok table
  | line :: rest =>
    match table.addLine line with
    | .error fault => .error ⟨number, fault⟩
    | .ok extended => addLines extended (number + 1) rest

/-- The table of a file. -/
def ofBytes (content : List UInt8) : Except FileFault KeyedTable :=
  addLines empty 2 (Contract.lines content).tail

/-- An integer as an unsigned word of the machine, if it is one. -/
def word? (index : Int) : Option Nat :=
  if 0 <= index ∧ index < USize.size then some index.toNat else none

/-- The contract with an index, counted from one. -/
def byIndex? (table : KeyedTable) (index : Int) : Option Contract :=
  match word? index with
  | none | some 0 => none
  | some (place + 1) => table.contracts[place]?

/-- No contract has zero or a negative number as its index. -/
theorem byIndex?_of_lt {table : KeyedTable} {index : Int} (low : index < 1) :
    table.byIndex? index = none := by
  unfold byIndex? word?
  by_cases isZero : index = 0
  · have wide : 2 ^ 32 <= USize.size := USize.le_size
    rw [isZero, if_pos (by omega)]
    rfl
  · rw [if_neg (by omega)]

/-- The first index leads to the first place. -/
theorem byIndex?_succ (table : KeyedTable) (place : Nat) :
    table.byIndex? (place + 1) =
      if place + 1 < USize.size then table.contracts[place]? else none := by
  unfold byIndex? word?
  by_cases isWord : place + 1 < USize.size
  · rw [if_pos isWord, if_pos (by omega)]
    rfl
  · rw [if_neg isWord, if_neg (by omega)]

/-- What comes of following the map. -/
inductive Followed where
  | result (result : Except Failure Contract)
  /-- Nothing stands where the map leads. -/
  | outOfRange (place : Nat)

/-- Follow the map to the contract with a ticker. -/
def byTicker (table : KeyedTable) (ticker : String) : Followed :=
  match table.places[ticker]? with
  | none => .result (.error (.unknownTicker ticker))
  | some place =>
    match table.contracts[place]? with
    | none => .outOfRange place
    | some contract => .result (.ok contract)

/-- A keyed table holds the contracts of a table, and its map leads from every ticker among them
to the one place where it stands. -/
structure Keys (keyed : KeyedTable) (table : ContractTable) : Prop where
  contracts : keyed.contracts.toList = table.contracts
  places : ∀ (ticker : String) (place : Nat), keyed.places[ticker]? = some place ↔
    ∃ contract, table.contracts[place]? = some contract ∧ contract.ticker = ticker
  few : table.length < UInt32.size

variable {keyed : KeyedTable} {table : ContractTable}

namespace Keys

theorem empty : Keys KeyedTable.empty ContractTable.empty where
  contracts := rfl
  places := by simp [KeyedTable.empty, ContractTable.empty]
  few := by decide

theorem size (keys : Keys keyed table) : keyed.contracts.size = table.length := by
  rw [ContractTable.length, ← keys.contracts, Array.length_toList]

theorem getElem?_contracts (keys : Keys keyed table) (place : Nat) :
    keyed.contracts[place]? = table.contracts[place]? := by
  rw [← keys.contracts, Array.getElem?_toList]

/-- The ticker of a contract leads to this contract. -/
theorem exists_place (keys : Keys keyed table) {contract : Contract}
    (member : contract ∈ table.contracts) :
    ∃ place, keyed.places[contract.ticker]? = some place ∧
      table.contracts[place]? = some contract := by
  obtain ⟨place, found⟩ := List.getElem?_of_mem member
  exact ⟨place, (keys.places _ _).mpr ⟨contract, found, rfl⟩, found⟩

/-- Contracts with one ticker are one contract. -/
theorem unique (keys : Keys keyed table) {contract other : Contract}
    (member : contract ∈ table.contracts) (otherMember : other ∈ table.contracts)
    (same : contract.ticker = other.ticker) : contract = other := by
  obtain ⟨place, leads, found⟩ := keys.exists_place member
  obtain ⟨otherPlace, otherLeads, otherFound⟩ := keys.exists_place otherMember
  rw [same, otherLeads] at leads
  obtain rfl := Option.some.inj leads
  exact Option.some.inj (found.symm.trans otherFound)

/-- Searching for a ticker finds the contract that has it. -/
theorem byTicker_eq_ok_iff (keys : Keys keyed table) {ticker : String} {contract : Contract} :
    table.byTicker ticker = .ok contract ↔
      contract ∈ table.contracts ∧ contract.ticker = ticker := by
  refine ⟨ContractTable.mem_of_byTicker, ?_⟩
  rintro ⟨member, rfl⟩
  cases found : table.byTicker contract.ticker with
  | error failure =>
    obtain ⟨_, unknown⟩ := ContractTable.byTicker_eq_error_iff.mp found
    exact absurd rfl (unknown contract member)
  | ok other =>
    obtain ⟨otherMember, same⟩ := ContractTable.mem_of_byTicker found
    rw [keys.unique otherMember member same]

/-- The map leads somewhere exactly if searching finds something. -/
theorem contains_places (keys : Keys keyed table) (ticker : String) :
    keyed.places.contains ticker = (table.byTicker? ticker).isSome := by
  rw [Bool.eq_iff_iff, Std.HashMap.contains_eq_isSome_getElem?, Option.isSome_iff_exists,
    ContractTable.byTicker?, List.find?_isSome]
  constructor
  · rintro ⟨place, leads⟩
    obtain ⟨contract, found, named⟩ := (keys.places _ _).mp leads
    exact ⟨contract, List.mem_of_getElem? found, beq_iff_eq.mpr named⟩
  · rintro ⟨contract, member, named⟩
    obtain ⟨place, leads, _⟩ := keys.exists_place member
    exact ⟨place, beq_iff_eq.mp named ▸ leads⟩

/-- A contract with a new ticker goes to the end, and its ticker leads there. -/
theorem push (keys : Keys keyed table) (contract : Contract)
    (new : keyed.places.contains contract.ticker = false)
    (small : table.length + 1 < UInt32.size) :
    Keys ⟨keyed.contracts.push contract, keyed.places.insert contract.ticker keyed.contracts.size⟩
      ⟨table.contracts ++ [contract]⟩ where
  contracts := by rw [Array.toList_push, keys.contracts]
  places := by
    intro ticker place
    have vacant : keyed.places[contract.ticker]? = none :=
      Std.HashMap.getElem?_eq_none_of_contains_eq_false new
    -- A place of the longer list is one of the shorter list, or the one after them.
    have longer : (∃ other, (table.contracts ++ [contract])[place]? = some other ∧
        other.ticker = ticker) ↔
        keyed.places[ticker]? = some place ∨
          place = table.contracts.length ∧ contract.ticker = ticker := by
      rw [keys.places]
      obtain within | rfl | beyond := Nat.lt_trichotomy place table.contracts.length
      · simp [List.getElem?_append_left within, Nat.ne_of_lt within]
      · simp
      · simp [List.getElem?_eq_none (Nat.le_of_lt beyond), Nat.ne_of_gt beyond,
          List.getElem?_append_right (Nat.le_of_lt beyond), Nat.sub_ne_zero_of_lt beyond]
    rw [longer, Std.HashMap.getElem?_insert, keys.size]
    by_cases isNew : contract.ticker = ticker
    · subst isNew
      simp [vacant, ContractTable.length, eq_comm]
    · simp [isNew]
  few := by simpa [ContractTable.length] using small

end Keys

/-- Both tables refuse for one reason, or the one is the key to the other. -/
inductive Alike {Fault : Type} : Except Fault KeyedTable -> Except Fault ContractTable -> Prop where
  | refused (fault : Fault) : Alike (.error fault) (.error fault)
  | accepted {keyed : KeyedTable} {table : ContractTable} (keys : Keys keyed table) :
      Alike (.ok keyed) (.ok table)

namespace Keys

/-- The map tells known tickers from new ones as searching does. -/
theorem addRow (keys : Keys keyed table) (row : Row) :
    Alike (keyed.addRow row) (table.addRow row) := by
  unfold KeyedTable.addRow ContractTable.addRow
  rw [← keys.contains_places, keys.size]
  by_cases known : keyed.places.contains row.ticker = true
  · rw [if_pos known, if_pos known]
    exact .refused _
  · rw [if_neg known, if_neg known]
    by_cases full : UInt32.size <= table.length + 1
    · rw [if_pos full, if_pos full]
      exact .refused _
    · rw [if_neg full, if_neg full]
      have pushed := keys.push (ofRow (UInt32.ofNat (table.length + 1)) row)
        (Bool.eq_false_iff.mpr known) (Nat.lt_of_not_le full)
      rw [keys.size] at pushed
      exact .accepted pushed

theorem addLine (keys : Keys keyed table) (line : List UInt8) :
    Alike (keyed.addLine line) (table.addLine line) := by
  unfold KeyedTable.addLine ContractTable.addLine
  cases Contract.readLine line with
  | error fault => exact .refused fault
  | ok row? =>
    cases row? with
    | none => exact .accepted keys
    | some row => exact keys.addRow row

/-- Whatever lines follow, both tables take them in alike. -/
theorem addLines (keys : Keys keyed table) (number : Nat) (lines : List (List UInt8)) :
    Alike (keyed.addLines number lines) (table.addLines number lines) := by
  induction lines generalizing keyed table number with
  | nil => exact .accepted keys
  | cons line rest inductionHypothesis =>
    rw [KeyedTable.addLines, ContractTable.addLines]
    have first := keys.addLine line
    generalize keyed.addLine line = keyedNext, table.addLine line = next at first
    cases first with
    | refused fault => exact .refused _
    | accepted extended => exact inductionHypothesis extended _

/-- Followed for an index, the order of the contracts leads to the same contract. -/
theorem byIndex? (keys : Keys keyed table) (index : Int) :
    keyed.byIndex? index = table.byIndex? index := by
  by_cases positive : 1 <= index
  · obtain ⟨place, rfl⟩ : ∃ place : Nat, index = place + 1 := ⟨(index - 1).toNat, by omega⟩
    rw [byIndex?_succ, ContractTable.byIndex?, if_pos positive, Int.add_sub_cancel,
      Int.toNat_natCast, keys.getElem?_contracts]
    -- No table is so long that an index beyond all words would be one of its indexes.
    have few := keys.few
    have wide : UInt32.size <= USize.size := USize.le_size
    by_cases isWord : place + 1 < USize.size
    · rw [if_pos isWord]
    · rw [if_neg isWord, List.getElem?_eq_none]
      change table.length <= place
      omega
  · rw [byIndex?_of_lt (by omega), ContractTable.byIndex?, if_neg positive]

/-- Followed for a ticker, the map leads to what searching finds. -/
theorem byTicker (keys : Keys keyed table) (ticker : String) :
    keyed.byTicker ticker = .result (table.byTicker ticker) := by
  unfold KeyedTable.byTicker
  cases leads : keyed.places[ticker]? with
  | none =>
    have unknown : ∀ contract, contract ∈ table.contracts -> contract.ticker ≠ ticker := by
      rintro contract member rfl
      obtain ⟨place, found, _⟩ := keys.exists_place member
      simp [leads] at found
    rw [ContractTable.byTicker_eq_error_iff.mpr ⟨rfl, unknown⟩]
  | some place =>
    obtain ⟨contract, found, named⟩ := (keys.places _ _).mp leads
    simp only [keys.getElem?_contracts, found]
    rw [keys.byTicker_eq_ok_iff.mpr ⟨List.mem_of_getElem? found, named⟩]

end Keys

/-- A file is refused by both, for one reason, or accepted by both. -/
theorem alike_ofBytes (content : List UInt8) :
    Alike (ofBytes content) (ContractTable.ofBytes content) :=
  Keys.empty.addLines 2 (Contract.lines content).tail

/-- The table of a file has a keyed table. -/
theorem exists_keys_of_ofBytes {content : List UInt8}
    (read : ContractTable.ofBytes content = .ok table) :
    ∃ keyed, ofBytes content = .ok keyed ∧ Keys keyed table := by
  have alike := alike_ofBytes content
  rw [read] at alike
  generalize ofBytes content = result at alike
  cases alike with
  | accepted keys => exact ⟨_, rfl, keys⟩

end KeyedTable

end StrategyHost
