import StrategyHost.Config.Document
import StrategyHost.Proofs.Config.Check
import StrategyHost.Proofs.Retry.Moderate

/-!
# Reconnecting as configured

What can be relied on about the reconnect settings of a configuration that has been read: each is
a number of its width, and the delays are in order.
-/

namespace StrategyHost

namespace Json

/-- A member with a value for its absence has this value, or one that has been read. -/
theorem Record.of_defaulted {α : Type} {record : Record} {name : String} {absent value : α}
    {read : Value -> Option α} (found : record.defaulted name absent read = some value) :
    value = absent ∨ ∃ given, read given = some value := by
  unfold defaulted at found
  split at found
  · exact .inr ⟨_, found⟩
  · exact .inl (Option.some.inj found).symm

theorem Value.lt_of_natural? {limit number : Nat} {value : Value}
    (read : value.natural? limit = some number) : number < limit := by
  unfold natural? at read
  split at read
  · split at read
    · rename_i below
      exact Option.some.inj read ▸ below
    · simp at read
  · simp at read

/-- A number that may be left out is below its limit if its value for absence is. -/
theorem Record.lt_of_defaulted {record : Record} {name : String} {limit absent number : Nat}
    (small : absent < limit)
    (found : record.defaulted name absent (Value.natural? limit) = some number) :
    number < limit := by
  obtain rfl | ⟨given, read⟩ := of_defaulted found
  · exact small
  · exact Value.lt_of_natural? read

end Json

namespace Config

open StrategyHost.Json (Record Value)

theorem Reconnect.fits_usual : Reconnect.usual.Fits := ⟨by decide, by decide, by decide⟩

theorem Reconnect.fits_of_ofJson? {value : Value} {reconnect : Reconnect}
    (read : Reconnect.ofJson? value = some reconnect) : reconnect.Fits := by
  simp only [ofJson?, bind, pure, Option.bind_eq_some_iff, Option.some.injEq] at read
  obtain ⟨record, _, initial, first, longest, second, attempts, third, rfl⟩ := read
  exact {
    initial := Record.lt_of_defaulted (by decide) first
    longest := Record.lt_of_defaulted (by decide) second
    attempts := Record.lt_of_defaulted (by decide) third }

theorem fits_of_ofJson? {value : Value} {config : Config} (read : ofJson? value = some config) :
    config.reconnect.Fits := by
  simp only [ofJson?, bind, pure, Option.bind_eq_some_iff, Option.some.injEq] at read
  obtain ⟨record, _, _, _, _, _, _, _, _, _, _, _, reconnect, found, _, _, rfl⟩ := read
  obtain rfl | ⟨given, read⟩ := Record.of_defaulted found
  · exact Reconnect.fits_usual
  · exact Reconnect.fits_of_ofJson? read

/-- The reconnect settings of a configuration that has been read. -/
theorem reconnect_of_parse {document : String} {config : Config}
    (parsed : (parse document).result = .ok config) :
    config.reconnect.Fits ∧ 0 < config.reconnect.initial ∧
      config.reconnect.initial <= config.reconnect.longest := by
  unfold parse at parsed
  split at parsed
  · simp at parsed
  · rename_i given found
    obtain ⟨rfl, usable⟩ := result_check_eq_ok_iff.mp parsed
    obtain ⟨value, _, read⟩ := Option.bind_eq_some_iff.mp found
    exact ⟨fits_of_ofJson? read, usable.starts, usable.ordered⟩

end Config

end StrategyHost
