import StrategyHost.Config.Basic
import StrategyHost.Proofs.Text.Utf8

/-!
# What checking a configuration comes to

A configuration is refused for the first of its settings that is out of order, and then nothing
is logged. Otherwise it is left as it is, and the one thing that can be logged is that the wire
cuts off its identifier.
-/

namespace StrategyHost.Config

/-- What a configuration that is described must have as well: room in its queue, and delays in
order. -/
structure Usable (config : Config) : Prop where
  room : 1 <= config.queueSize
  starts : 0 < config.reconnect.initial
  ordered : config.reconnect.initial <= config.reconnect.longest

/-- What is wrong with a configuration that is not usable. -/
inductive Faulty (config : Config) : Fault -> Prop where
  | emptyQueue (empty : config.queueSize = 0) : Faulty config .emptyQueue
  /-- Delays that have not been given count as well. -/
  | delays (room : 1 <= config.queueSize) (disordered : config.reconnect.initial = 0 ∨
      config.reconnect.longest < config.reconnect.initial) :
      Faulty config (.delays config.reconnect.initial config.reconnect.longest)

namespace Faulty

variable {config : Config} {fault : Fault}

theorem not_usable (faulty : Faulty config fault) : ¬Usable config := by
  rintro ⟨room, starts, ordered⟩
  cases faulty with
  | emptyQueue empty => omega
  | delays _ disordered => omega

/-- Only one thing is wrong with a configuration. -/
theorem unique {other : Fault} (faulty : Faulty config fault) (also : Faulty config other) :
    other = fault := by
  cases faulty with
  | emptyQueue empty =>
    cases also with
    | emptyQueue _ => rfl
    | delays room _ => omega
  | delays room _ =>
    cases also with
    | emptyQueue empty => omega
    | delays _ _ => rfl

end Faulty

/-- What a check can come to, and what it logs. -/
inductive Checked (config : Config) : Reading -> Prop where
  | refused {fault : Fault} (faulty : Faulty config fault) : Checked config ⟨.error fault, []⟩
  | truncated (usable : Usable config)
      (long : 16 < (Text.Utf8.encode config.strategyId).length) :
      Checked config ⟨.ok config, [.identifierTruncated config.strategyId]⟩
  | whole (usable : Usable config)
      (short : (Text.Utf8.encode config.strategyId).length <= 16) :
      Checked config ⟨.ok config, []⟩

theorem checked_check (config : Config) : Checked config config.check := by
  unfold check
  rw [← Text.Utf8.length_encode]
  split
  case isTrue empty => exact .refused (.emptyQueue empty)
  case isFalse room =>
    split
    case isTrue disordered => exact .refused (.delays (by omega) (by simpa using disordered))
    case isFalse ordered =>
      simp only [Bool.or_eq_true, decide_eq_true_eq, not_or, Nat.not_lt] at ordered
      have usable : Usable config := ⟨by omega, by omega, ordered.2⟩
      split
      case isTrue long => exact .truncated usable long
      case isFalse short => exact .whole usable (Nat.not_lt.mp short)

/-- A configuration passes its check unchanged, if it is usable. -/
theorem result_check_eq_ok_iff {config checked : Config} :
    config.check.result = .ok checked ↔ config = checked ∧ Usable config := by
  have comes := config.checked_check
  generalize config.check = reading at comes
  cases comes with
  | refused faulty => simp [faulty.not_usable]
  | truncated usable _ | whole usable _ => simp [usable]

/-- A configuration is refused for what is wrong with it. -/
theorem result_check_eq_error_iff {config : Config} {fault : Fault} :
    config.check.result = .error fault ↔ Faulty config fault := by
  have comes := config.checked_check
  generalize config.check = reading at comes
  cases comes with
  | refused faulty =>
    rw [Except.error.injEq]
    constructor
    · rintro rfl
      exact faulty
    · intro also
      exact also.unique faulty
  | truncated usable _ | whole usable _ =>
    simp only [reduceCtorEq, false_iff]
    exact fun faulty => faulty.not_usable usable

/-- Nothing is logged of a usable configuration but that its identifier is too long. -/
theorem entries_check_of_ok {config checked : Config} (passed : config.check.result = .ok checked) :
    config.check.entries =
      if 16 < (Text.Utf8.encode config.strategyId).length then
        [.identifierTruncated config.strategyId]
      else [] := by
  have comes := config.checked_check
  generalize config.check = reading at comes passed
  cases comes with
  | refused _ => simp at passed
  | truncated _ long => rw [if_pos long]
  | whole _ short => rw [if_neg (Nat.not_lt.mpr short)]

/-- Nothing is logged of a configuration that is refused. -/
theorem entries_check_of_error {config : Config} {fault : Fault}
    (fails : config.check.result = .error fault) : config.check.entries = [] := by
  have comes := config.checked_check
  generalize config.check = reading at comes fails
  cases comes with
  | refused _ => rfl
  | truncated _ _ | whole _ _ => simp at fails

end StrategyHost.Config
