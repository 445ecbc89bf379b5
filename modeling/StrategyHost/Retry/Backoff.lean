import StrategyHost.Delay

/-!
# Backoff

How long to wait between attempts: the delay doubles after each one up to a
greatest delay, and after a number of attempts there is none left.
-/

namespace StrategyHost.Retry

/-- The settings of a backoff. -/
structure Limits where
  initial : Delay
  longest : Delay
  /-- How many delays are given out before the backoff is exhausted. -/
  attempts : Nat
  deriving DecidableEq, Repr

namespace Limits

/-- Settings in whole milliseconds. -/
def ofMilliseconds (initial longest attempts : Nat) : Limits :=
  ⟨.ofMilliseconds initial, .ofMilliseconds longest, attempts⟩

/-- From a tenth of a second to thirty seconds, ten times. -/
def usual : Limits := .ofMilliseconds 100 30000 10

end Limits

/-- A backoff in use. -/
structure Backoff where
  limits : Limits
  current : Delay
  /-- How many delays have been given out since the last success. -/
  attempts : Nat
  deriving DecidableEq, Repr

/-- What a backoff says after a failed attempt. -/
inductive Advice where
  | wait (delay : Delay)
  | exhausted
  /-- The current delay cannot be doubled, so no delay can be given out. -/
  | overflow
  deriving DecidableEq, Repr

/-- What is reported when a delay cannot be doubled. -/
def overflowMessage : String := "overflow when multiplying duration by scalar"

namespace Limits

/-- A backoff that has given out nothing yet. -/
def fresh (limits : Limits) : Backoff := ⟨limits, limits.initial, 0⟩

end Limits

namespace Backoff

/-- The backoff after a success. -/
def reset (backoff : Backoff) : Backoff := backoff.limits.fresh

/-- The delay before the next attempt. A delay that cannot be doubled counts as
given out although it is not, and stays the current one. -/
def next (backoff : Backoff) : Advice × Backoff :=
  if backoff.limits.attempts <= backoff.attempts then (.exhausted, backoff)
  else
    let counted := { backoff with attempts := backoff.attempts + 1 }
    match backoff.current.double? with
    | none => (.overflow, counted)
    | some doubled =>
      (.wait backoff.current, { counted with current := doubled.shorter backoff.limits.longest })

/-- What can be asked of a backoff. -/
inductive Step where
  | next
  | reset
  deriving DecidableEq, Repr

/-- Take steps in turn: the advice that each gives, if it gives any, and the backoff
after it. -/
def follow (backoff : Backoff) : List Step -> List (Option Advice × Backoff)
  | [] => []
  | .next :: rest => (some backoff.next.1, backoff.next.2) :: follow backoff.next.2 rest
  | .reset :: rest => (none, backoff.reset) :: follow backoff.reset rest

/-- How many delays are left. -/
def remaining (backoff : Backoff) : Nat :=
  backoff.limits.attempts - backoff.attempts

theorem remaining_of_wait {backoff after : Backoff} {delay : Delay}
    (advised : backoff.next = (.wait delay, after)) : after.remaining < backoff.remaining := by
  unfold next at advised
  split at advised
  · simp at advised
  · split at advised
    · simp at advised
    · simp only [Prod.mk.injEq] at advised
      rw [← advised.2]
      simp only [remaining]
      omega

end Backoff

end StrategyHost.Retry
