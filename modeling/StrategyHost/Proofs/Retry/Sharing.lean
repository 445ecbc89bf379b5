import StrategyHost.Proofs.Retry.Calls
import StrategyHost.Proofs.Retry.Repeating

/-!
# A backoff that is shared

A backoff may have been asked for delays, reset, and used for other operations before an operation
is repeated with it. All that this leaves behind is how many delays have been given out since the
last success or reset, so the delays of several operations follow one another as those of one.
-/

namespace StrategyHost.Retry

/-- What can be done with a backoff: ask it for a delay, reset it, or repeat an operation. -/
inductive Use where
  | step (step : Backoff.Step)
  | attempt (activity : String) (outcomes : Nat -> Outcome)

/-- The backoff after a use. -/
def Backoff.used (backoff : Backoff) : Use -> Backoff
  | .step step => (backoff.perform step).2
  | .attempt activity outcomes => (Retry.attempt activity outcomes backoff).backoff

/-- Reports of operations that are repeated one after the other, the first with this backoff. -/
inductive InTurn : Backoff -> List Report -> Prop where
  | nil {backoff : Backoff} : InTurn backoff []
  | cons {backoff : Backoff} {rest : List Report} (activity : String)
      (outcomes : Nat -> Outcome)
      (others : InTurn (attempt activity outcomes backoff).backoff rest) :
      InTurn backoff (attempt activity outcomes backoff :: rest)

theorem InTurn.left {backoff : Backoff} {reports more : List Report}
    (inTurn : InTurn backoff (reports ++ more)) : InTurn backoff reports := by
  induction reports generalizing backoff with
  | nil => exact .nil
  | cons report reports inductionHypothesis =>
    cases inTurn with
    | cons activity outcomes others => exact .cons activity outcomes (inductionHypothesis others)

/-- Operations that share a backoff are repeated in turn. -/
theorem inTurn_attemptAll (backoff : Backoff) (calls : List (String × List Outcome)) :
    InTurn backoff (attemptAll backoff calls) := by
  induction calls generalizing backoff with
  | nil => exact .nil
  | cons call rest inductionHypothesis =>
    rw [attemptAll]
    refine .cons call.1 (outcomeAt call.2) ?_
    split
    · exact .nil
    · exact inductionHypothesis _

variable {limits : Limits} {count : Nat}

/-- A repeated operation that succeeds leaves the backoff fresh, any other one after its delays. -/
theorem Repeated.leaves {activity : String} {outcomes : Nat -> Outcome} {streak : ℕ∞}
    {waits : Nat} {report : Report}
    (repeated : Repeated limits count activity outcomes streak waits report)
    (within : count <= limits.attempts)
    (same : (waits : ℕ∞) = min streak (limits.attempts - count : Nat)) :
    count + waits <= limits.attempts ∧ report.ending ≠ .overflow ∧
      ∃ next, next <= limits.attempts ∧ report.backoff = limits.waited next ∧
        (report.ending = .succeeded -> next = 0) ∧
        (report.ending ≠ .succeeded -> next = count + waits) := by
  have bounded : waits <= limits.attempts - count :=
    Nat.cast_le.mp (same ▸ min_le_right streak _)
  have small : count + waits <= limits.attempts := by omega
  refine ⟨small, ?_⟩
  by_cases ends : streak <= (limits.attempts - count : Nat)
  · cases outcome : outcomes waits with
    | ok =>
      obtain ⟨ending, after⟩ := repeated.succeeded ends outcome
      exact ⟨by simp [ending], 0, Nat.zero_le _, after, fun _ => rfl, absurd ending⟩
    | error failure =>
      obtain ⟨_, ending, after⟩ := repeated.failed ends failure outcome
      exact ⟨by simp [ending], count + waits, small, after, by simp [ending], fun _ => rfl⟩
  · have beyond := lt_of_not_ge ends
    rw [min_eq_right (le_of_lt beyond)] at same
    have all : count + waits = limits.attempts := by
      have used := Nat.cast_inj.mp same
      omega
    obtain ⟨_, _, _, ending, after⟩ := repeated.exhausted beyond
    exact ⟨by simp [ending], count + waits, small, all ▸ after, by simp [ending], fun _ => rfl⟩

namespace Limits.Moderate

variable (moderate : limits.Moderate)

include moderate

/-- A repeated operation goes on from the delays that have been given out before. -/
theorem attempt_waited (within : count <= limits.attempts) (activity : String)
    (outcomes : Nat -> Outcome) :
    let report := attempt activity outcomes (limits.waited count)
    ∃ waits, report.delays = (List.range' count waits).map limits.delay ∧
      count + waits <= limits.attempts ∧ report.ending ≠ .overflow ∧
      ∃ next, next <= limits.attempts ∧ report.backoff = limits.waited next ∧
        (report.ending = .succeeded -> next = 0) ∧
        (report.ending ≠ .succeeded -> next = count + waits) := by
  obtain ⟨_, waits, _, same, repeated⟩ := exists_repeated moderate within activity outcomes
  exact ⟨waits, repeated.delays, repeated.leaves within same⟩

/-- Every use leaves a backoff that has given out some number of delays. -/
theorem used_waited (within : count <= limits.attempts) (use : Use) :
    ∃ reached, reached <= limits.attempts ∧ (limits.waited count).used use =
      limits.waited reached := by
  cases use with
  | step step =>
    cases step with
    | next =>
      by_cases left : count < limits.attempts
      · exact ⟨count + 1, left, congrArg Prod.snd (moderate.next_waited left)⟩
      · exact ⟨count, within, congrArg Prod.snd (next_waited_of_le (Nat.le_of_not_lt left))⟩
    | reset => exact ⟨0, Nat.zero_le _, rfl⟩
  | attempt activity outcomes =>
    obtain ⟨_, _, _, _, reached, bounded, after, _⟩ :=
      moderate.attempt_waited within activity outcomes
    exact ⟨reached, bounded, after⟩

theorem foldl_used (within : count <= limits.attempts) (uses : List Use) :
    ∃ reached, reached <= limits.attempts ∧ uses.foldl Backoff.used (limits.waited count) =
      limits.waited reached := by
  induction uses generalizing count with
  | nil => exact ⟨count, within, rfl⟩
  | cons use uses inductionHypothesis =>
    obtain ⟨next, bounded, after⟩ := moderate.used_waited within use
    rw [List.foldl_cons, after]
    exact inductionHypothesis bounded

/-- With such settings no operation goes down, so all of them are repeated. -/
theorem length_attemptAll (within : count <= limits.attempts)
    (calls : List (String × List Outcome)) :
    (attemptAll (limits.waited count) calls).length = calls.length := by
  induction calls generalizing count with
  | nil => rfl
  | cons call rest inductionHypothesis =>
    obtain ⟨_, _, _, sound, _, bounded, after, _⟩ :=
      moderate.attempt_waited within call.1 (outcomeAt call.2)
    rw [attemptAll, if_neg sound, after]
    exact congrArg (· + 1) (inductionHypothesis bounded)

/-- What comes after some of the operations goes on from where they have left the backoff, which
is fresh after a success. -/
theorem inTurn_behind (within : count <= limits.attempts) {before rest : List Report}
    (inTurn : InTurn (limits.waited count) (before ++ rest)) :
    ∃ reached, reached <= limits.attempts ∧ InTurn (limits.waited reached) rest ∧
      (before = [] -> reached = count) ∧
      ∀ last, before.getLast? = some last -> last.ending = .succeeded -> reached = 0 := by
  induction before generalizing count with
  | nil => exact ⟨count, within, inTurn, fun _ => rfl, by simp⟩
  | cons report before inductionHypothesis =>
    cases inTurn with
    | cons activity outcomes others =>
      obtain ⟨_, _, _, _, next, small, after, fresh, _⟩ :=
        moderate.attempt_waited within activity outcomes
      rw [after] at others
      obtain ⟨reached, bounded, inTurn, first, later⟩ := inductionHypothesis small others
      refine ⟨reached, bounded, inTurn, by simp, ?_⟩
      intro last found succeeded
      -- Only the last operation before the rest decides whether the backoff is fresh.
      cases before with
      | nil =>
        obtain rfl := Option.some.inj found
        rw [first rfl, fresh succeeded]
      | cons other before => exact later last found succeeded

/-- As long as none of the operations but the last succeeds, their delays are consecutive. -/
theorem delays_of_inTurn (within : count <= limits.attempts) {reports : List Report}
    (inTurn : InTurn (limits.waited count) reports)
    (unsuccessful : ∀ report ∈ reports.dropLast, report.ending ≠ .succeeded) :
    ∃ number, reports.flatMap Report.delays = (List.range' count number).map limits.delay ∧
      count + number <= limits.attempts := by
  induction reports generalizing count with
  | nil => exact ⟨0, rfl, within⟩
  | cons report reports inductionHypothesis =>
    cases inTurn with
    | cons activity outcomes others =>
      obtain ⟨waits, delays, bounded, _, next, _, after, _, onward⟩ :=
        moderate.attempt_waited within activity outcomes
      cases reports with
      | nil => exact ⟨waits, by simpa using delays, bounded⟩
      | cons report reports =>
        rw [List.dropLast_cons_cons] at unsuccessful
        obtain rfl := onward (unsuccessful _ List.mem_cons_self)
        rw [after] at others
        obtain ⟨number, further, small⟩ := inductionHypothesis bounded others
          fun report member => unsuccessful report (List.mem_cons_of_mem _ member)
        refine ⟨waits + number, ?_, by omega⟩
        rw [List.flatMap_cons, delays, further, ← List.map_append, List.range'_append_1]

end Limits.Moderate

/-- What can be relied on about a backoff that is shared, wherever its uses have led it. -/
structure Sharing (limits : Limits) (backoff : Backoff) : Prop where
  bounded : backoff.attempts <= limits.attempts
  /-- An operation with any outcomes comes to an end, after as many calls as the transient ones
  in a row with which its outcomes begin ask for and as there are delays left. -/
  repeated : ∀ (activity : String) (outcomes : Nat -> Outcome),
    ∃ (streak : ℕ∞) (waits : Nat), IsStreak outcomes 0 streak ∧
      (waits : ℕ∞) = min streak (limits.attempts - backoff.attempts : Nat) ∧
      Repeated limits backoff.attempts activity outcomes streak waits
        (attempt activity outcomes backoff)
  /-- Operations that are repeated in turn all come to an end. -/
  inTurn : ∀ calls : List (String × List Outcome), InTurn backoff (attemptAll backoff calls) ∧
    (attemptAll backoff calls).length = calls.length
  /-- From a success on, up to and with the next operation that succeeds, the delays of all
  operations are the first ones of the schedule. Before the first success they go on from those
  that had been given out. -/
  consecutive : ∀ before stretch behind : List Report,
    InTurn backoff (before ++ stretch ++ behind) ->
      (∀ last, before.getLast? = some last -> last.ending = .succeeded) ->
        (∀ report ∈ stretch.dropLast, report.ending ≠ .succeeded) ->
          ∃ first number, first = (if before = [] then backoff.attempts else 0) ∧
            stretch.flatMap Report.delays = (List.range' first number).map limits.delay ∧
            first + number <= limits.attempts

namespace Limits

/-- However a backoff with settings of a configuration has been used, an operation that is
repeated with it gets the delays that are next, and those of several operations follow one another
from one success to the next. -/
theorem sharing_of_uses {reconnect : Config.Reconnect} (fits : reconnect.Fits) (uses : List Use) :
    Sharing reconnect.limits (uses.foldl Backoff.used reconnect.limits.fresh) := by
  have moderate := moderate_of_fits fits
  obtain ⟨count, within, reached⟩ := moderate.foldl_used (Nat.zero_le _) uses
  rw [waited_zero] at reached
  rw [reached]
  refine ⟨within, exists_repeated moderate within, ?_, ?_⟩
  · intro calls
    exact ⟨inTurn_attemptAll _ calls, moderate.length_attemptAll within calls⟩
  · intro before stretch behind inTurn succeeded unsuccessful
    rw [List.append_assoc] at inTurn
    obtain ⟨first, bounded, onward, initial, fresh⟩ := moderate.inTurn_behind within inTurn
    obtain ⟨number, delays, small⟩ :=
      moderate.delays_of_inTurn bounded onward.left unsuccessful
    refine ⟨first, number, ?_, delays, small⟩
    split
    · rename_i empty
      exact initial empty
    · rename_i nonempty
      have last := List.getLast?_eq_some_getLast nonempty
      exact fresh _ last (succeeded _ last)

/-- A first operation fails for good after one delay. The second one, which never succeeds, has
two delays left and goes on where the first has stopped. -/
theorem sharing_of_uses_split :
    let reconnect : Config.Reconnect := ⟨100, 250, 3⟩
    let refused (call : Nat) : Outcome :=
      .error (if call = 0 then .connection "broker down" else .unsupported "publish")
    let down (_ : Nat) : Outcome := .error (.connection "broker down")
    let backoff := [.attempt "connect" refused].foldl Backoff.used reconnect.limits.fresh
    let report := attempt "publish" down backoff
    reconnect.Fits ∧ backoff.attempts = 1 ∧ report.calls = 3 ∧
      report.delays = [200, 250].map Delay.ofMilliseconds ∧
      report.ending = .failed (.connection
        "publish failed after 3 attempts: connection error: broker down") ∧
      report.backoff.attempts = 3 := by
  intro reconnect refused down backoff report
  have fits : reconnect.Fits := ⟨by decide, by decide, by decide⟩
  have first : backoff = reconnect.limits.waited 1 := by
    obtain ⟨streak, waits, isStreak, same, repeated⟩ :=
      (sharing_of_uses fits []).repeated "connect" refused
    -- Only the first outcome is transient.
    have lone : IsStreak refused 0 1 := by
      intro count
      constructor
      · intro within place earlier
        have least : count <= 1 := by exact_mod_cast within
        obtain rfl : place = 0 := by omega
        rfl
      · intro transient
        by_contra beyond
        have more : 1 < count := by exact_mod_cast not_le.mp beyond
        cases transient 1 more
    obtain rfl := isStreak.unique lone
    change (waits : ℕ∞) = min 1 (3 : Nat) at same
    obtain rfl : waits = 1 := by exact_mod_cast same
    exact (repeated.failed (by decide) _ rfl).2.2
  obtain ⟨streak, waits, isStreak, same, repeated⟩ :=
    (sharing_of_uses fits [.attempt "connect" refused]).repeated "publish" down
  have endless : IsStreak down 0 ⊤ := by
    intro count
    simp [down, isTransient, Failure.isTransient]
  obtain rfl := isStreak.unique endless
  change (waits : ℕ∞) = min (⊤ : ℕ∞) (reconnect.limits.attempts - backoff.attempts : Nat) at same
  change Repeated _ backoff.attempts _ _ _ _ report at repeated
  have counted : backoff.attempts = 1 := congrArg Backoff.attempts first
  rw [counted, min_eq_right le_top] at same
  rw [counted] at repeated
  obtain rfl : waits = 2 := Nat.cast_inj.mp same
  obtain ⟨failure, outcome, _, ending, after⟩ := repeated.exhausted (by decide)
  obtain rfl := Except.error.inj outcome
  refine ⟨fits, counted, repeated.calls, ?_, ?_, congrArg Backoff.attempts after⟩
  · rw [repeated.delays]
    decide +kernel
  · rw [ending]
    decide +kernel

end Limits

end StrategyHost.Retry
