import StrategyHost.Config.Basic
import StrategyHost.Retry.Attempt

/-!
# Moderate delays

Delays that a 64-bit number of milliseconds can hold are far below the longest one,
so a backoff with such settings can double each delay it reaches. Nothing is said
here about how long the delays are.
-/

namespace StrategyHost

/-- The delay is no longer than the greatest 64-bit number of milliseconds. -/
def Delay.Moderate (delay : Delay) : Prop :=
  delay.nanoseconds <= (UInt64.size - 1) * 1000000

namespace Delay

theorem moderate_ofMilliseconds {count : Nat} (held : count < UInt64.size) :
    (ofMilliseconds count).Moderate := by
  simp only [Moderate, ofMilliseconds]
  omega

/-- A moderate delay can be doubled. -/
theorem Moderate.double {delay : Delay} (moderate : delay.Moderate) :
    delay.double? = some ⟨2 * delay.nanoseconds⟩ := by
  unfold Moderate at moderate
  have held : 2 * delay.nanoseconds <= longest.nanoseconds := by
    simp only [longest, perSecond]
    omega
  simp [double?, held]

theorem Moderate.shorter {left right : Delay} (moderate : right.Moderate) :
    (left.shorter right).Moderate := by
  unfold Delay.shorter
  split
  · rename_i within
    exact Nat.le_trans within moderate
  · exact moderate

end Delay

namespace Config.Reconnect

/-- The settings are numbers of the widths that a configuration has for them. -/
structure Fits (reconnect : Reconnect) : Prop where
  initial : reconnect.initial < UInt64.size
  longest : reconnect.longest < UInt64.size
  attempts : reconnect.attempts < UInt32.size

end Config.Reconnect

namespace Retry

/-- Both delays that bound a backoff are moderate. -/
structure Limits.Moderate (limits : Limits) : Prop where
  initial : limits.initial.Moderate
  longest : limits.longest.Moderate

theorem Limits.moderate_of_fits {reconnect : Config.Reconnect} (fits : reconnect.Fits) :
    reconnect.limits.Moderate where
  initial := Delay.moderate_ofMilliseconds fits.initial
  longest := Delay.moderate_ofMilliseconds fits.longest

/-- The settings and the current delay of a backoff are moderate. -/
structure Backoff.Moderate (backoff : Backoff) : Prop where
  limits : backoff.limits.Moderate
  current : backoff.current.Moderate

theorem Limits.Moderate.fresh {limits : Limits} (moderate : limits.Moderate) :
    limits.fresh.Moderate where
  limits := moderate
  current := moderate.initial

namespace Backoff

/-- All that a moderate backoff can say: that it is exhausted, or its current delay. -/
theorem Moderate.next_cases {backoff : Backoff} (moderate : backoff.Moderate) :
    (backoff.limits.attempts <= backoff.attempts ∧ backoff.next = (.exhausted, backoff)) ∨
    (backoff.attempts < backoff.limits.attempts ∧
      backoff.next = (.wait backoff.current,
        { backoff with
          attempts := backoff.attempts + 1
          current := Delay.shorter ⟨2 * backoff.current.nanoseconds⟩ backoff.limits.longest })) := by
  by_cases spent : backoff.limits.attempts <= backoff.attempts
  · exact Or.inl ⟨spent, by simp [next, spent]⟩
  · refine Or.inr ⟨Nat.lt_of_not_le spent, ?_⟩
    simp [next, spent, moderate.current.double]

theorem Moderate.next {backoff : Backoff} (moderate : backoff.Moderate) :
    backoff.next.2.Moderate := by
  obtain ⟨_, advised⟩ | ⟨_, advised⟩ := moderate.next_cases
  · rw [advised]
    exact moderate
  · rw [advised]
    exact ⟨moderate.limits, moderate.limits.longest.shorter⟩

/-- A failure that may be gone the next time asks a moderate backoff for a delay. -/
theorem Moderate.judge_transient {backoff : Backoff} (moderate : backoff.Moderate)
    (activity : String) {failure : Failure} (transient : failure.isTransient) :
    (backoff.judge activity (.error failure)).2 = backoff.next.2 ∧
      ((backoff.judge activity (.error failure)).1 =
          .failed (exhaustion activity backoff.attempts failure) ∨
        (backoff.judge activity (.error failure)).1 = .wait backoff.current) := by
  obtain ⟨_, advised⟩ | ⟨_, advised⟩ := moderate.next_cases
  · simp [judge, transient, advised]
  · simp [judge, transient, advised]

/-- Judging an outcome keeps a backoff moderate. -/
theorem Moderate.judge {backoff : Backoff} (moderate : backoff.Moderate) (activity : String)
    (outcome : Outcome) : (backoff.judge activity outcome).2.Moderate := by
  cases outcome with
  | ok => exact moderate.limits.fresh
  | error failure =>
    by_cases transient : failure.isTransient
    · rw [(moderate.judge_transient activity transient).1]
      exact moderate.next
    · simpa [Backoff.judge, transient] using moderate

/-- A moderate backoff never has a delay that cannot be doubled. -/
theorem Moderate.judge_ne_overflow {backoff : Backoff} (moderate : backoff.Moderate)
    (activity : String) (outcome : Outcome) :
    (backoff.judge activity outcome).1 ≠ .overflow := by
  cases outcome with
  | ok => simp [Backoff.judge]
  | error failure =>
    by_cases transient : failure.isTransient
    · obtain ⟨_, judged | judged⟩ := moderate.judge_transient activity transient
      · simp [judged]
      · simp [judged]
    · simp [Backoff.judge, transient]

end Backoff

end Retry

end StrategyHost
