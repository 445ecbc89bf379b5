import StrategyHost.Journal.Entry
import StrategyHost.Retry.Backoff

/-!
# Attempts

What follows from the outcome of an attempt, and repeating an operation until it
succeeds, fails for good, or has been tried too often.
-/

namespace StrategyHost.Retry

open StrategyHost.Journal (Entry)

/-- The outcome of an attempt. -/
abbrev Outcome := Except Failure Unit

/-- The outcome of the attempt with a number: the last one given stands for all
that follow it, and without any an attempt succeeds. -/
def outcomeAt (outcomes : List Outcome) (number : Nat) : Outcome :=
  match outcomes[number]? with
  | some outcome => outcome
  | none => outcomes.getLast?.getD (.ok ())

/-- What follows from an outcome. -/
inductive Verdict where
  | succeeded
  | failed (failure : Failure)
  | wait (delay : Delay)
  | overflow
  deriving DecidableEq, Repr

/-- The failure that is reported when an activity has been tried too often. -/
def exhaustion (activity : String) (attempts : Nat) (failure : Failure) : Failure :=
  .connection (activity ++ " failed after " ++ Text.decimal attempts ++ " attempts: "
    ++ failure.message)

namespace Backoff

/-- Judge an outcome: a success resets the backoff, a transient failure asks it
for a delay, and any other failure is final. -/
def judge (backoff : Backoff) (activity : String) : Outcome -> Verdict × Backoff
  | .ok () => (.succeeded, backoff.reset)
  | .error failure =>
    if failure.isTransient then
      match backoff.next with
      | (.wait delay, after) => (.wait delay, after)
      | (.exhausted, after) => (.failed (exhaustion activity after.attempts failure), after)
      | (.overflow, after) => (.overflow, after)
    else (.failed failure, backoff)

/-- What is logged about an outcome: that the activity failed and is tried again. -/
def entries (activity : String) (outcome : Outcome) (verdict : Verdict) : List Entry :=
  match outcome, verdict with
  | .error failure, .wait delay => [.retrying activity failure delay]
  | _, _ => []

theorem remaining_of_judge {backoff after : Backoff} {activity : String} {outcome : Outcome}
    {delay : Delay} (judged : backoff.judge activity outcome = (.wait delay, after)) :
    after.remaining < backoff.remaining := by
  unfold judge at judged
  split at judged
  · simp at judged
  · split at judged
    · split at judged
      · rename_i advised
        simp only [Prod.mk.injEq, Verdict.wait.injEq] at judged
        rw [← judged.2]
        exact remaining_of_wait advised
      · simp at judged
      · simp at judged
    · simp at judged

end Backoff

/-- How an operation ended. -/
inductive Ending where
  | succeeded
  | failed (failure : Failure)
  | overflow
  deriving DecidableEq, Repr

/-- What repeating an operation amounted to. -/
structure Report where
  ending : Ending
  /-- How often the operation was invoked. -/
  calls : Nat
  delays : List Delay
  backoff : Backoff
  entries : List Entry

/-- Repeat an operation. `outcome` tells the outcome of each invocation, counted
from zero; `calls` have been made before. -/
def repeatFrom (activity : String) (outcome : Nat -> Outcome) (calls : Nat)
    (backoff : Backoff) : Report :=
  match _ : backoff.judge activity (outcome calls) with
  | (.succeeded, after) => ⟨.succeeded, calls + 1, [], after, []⟩
  | (.failed failure, after) => ⟨.failed failure, calls + 1, [], after, []⟩
  | (.overflow, after) => ⟨.overflow, calls + 1, [], after, []⟩
  | (.wait delay, after) =>
    let rest := repeatFrom activity outcome (calls + 1) after
    { rest with
      delays := delay :: rest.delays
      entries := Backoff.entries activity (outcome calls) (.wait delay) ++ rest.entries }
termination_by backoff.remaining
decreasing_by exact Backoff.remaining_of_judge ‹_›

/-- Repeat an operation from its first invocation. -/
def attempt (activity : String) (outcome : Nat -> Outcome) (backoff : Backoff) : Report :=
  repeatFrom activity outcome 0 backoff

/-- Operations in turn that share a backoff, each with its outcomes. Nothing follows
one that goes down because a delay cannot be doubled. -/
def attemptAll (backoff : Backoff) : List (String × List Outcome) -> List Report
  | [] => []
  | (activity, outcomes) :: rest =>
    let report := attempt activity (outcomeAt outcomes) backoff
    report :: if report.ending = .overflow then [] else attemptAll report.backoff rest

end StrategyHost.Retry
