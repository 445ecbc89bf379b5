import StrategyHost.Failure
import StrategyHost.Binary64.Basic

/-!
# Contracts

Static data of the contracts that can be traded. A contract's index is its
place in the file, counted from one; the index is what stands on the wire.
-/

namespace StrategyHost

/-- Static data of one tradable contract. -/
structure Contract where
  tickerIndex : UInt32
  ticker : String
  exchange : String
  name : String
  /-- The contract multiplier. -/
  size : Int
  /-- The least step of the price. -/
  priceTick : Binary64
  deriving DecidableEq, Repr

/-- The contracts of one file, in the file's order. -/
structure ContractTable where
  contracts : List Contract
  deriving DecidableEq, Repr

namespace ContractTable

/-- The table without contracts. -/
def empty : ContractTable := ⟨[]⟩

/-- The number of contracts. -/
def length (table : ContractTable) : Nat :=
  table.contracts.length

/-- The contract with an index, counted from one. -/
def byIndex? (table : ContractTable) (index : Int) : Option Contract :=
  if 1 <= index then table.contracts[(index - 1).toNat]? else none

/-- The contract with a ticker, if there is one. -/
def byTicker? (table : ContractTable) (ticker : String) : Option Contract :=
  table.contracts.find? fun contract => contract.ticker == ticker

/-- The contract with a ticker. -/
def byTicker (table : ContractTable) (ticker : String) : Except Failure Contract :=
  match table.byTicker? ticker with
  | some contract => .ok contract
  | none => .error (.unknownTicker ticker)

end ContractTable

end StrategyHost
