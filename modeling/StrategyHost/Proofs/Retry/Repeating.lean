import StrategyHost.Proofs.Retry.Schedule

/-!
# Repeating an operation

What a backoff that has given out some delays makes of an operation and its outcomes: how often
the operation is invoked, the delays in between, and where the backoff stands in the end.
-/

namespace StrategyHost.Retry

open StrategyHost.Journal (Entry)

/-- The same after other delays and log entries. -/
def Report.preceded (report : Report) (delays : List Delay) (entries : List Entry) : Report :=
  { report with delays := delays ++ report.delays, entries := entries ++ report.entries }

section

variable {activity : String} {outcomes : Nat -> Outcome} {calls : Nat} {backoff after : Backoff}

theorem repeatFrom_of_wait {delay : Delay}
    (judged : backoff.judge activity (outcomes calls) = (.wait delay, after)) :
    repeatFrom activity outcomes calls backoff =
      (repeatFrom activity outcomes (calls + 1) after).preceded [delay]
        (Backoff.entries activity (outcomes calls) (.wait delay)) := by
  rw [repeatFrom]
  split <;> simp_all [Report.preceded]

theorem repeatFrom_of_success (succeeds : outcomes calls = .ok ()) :
    repeatFrom activity outcomes calls backoff =
      ⟨.succeeded, calls + 1, [], backoff.limits.fresh, []⟩ := by
  have judged : backoff.judge activity (outcomes calls) = (.succeeded, backoff.reset) := by
    rw [succeeds, Backoff.judge]
  rw [repeatFrom]
  split <;> simp_all [Backoff.reset]

theorem repeatFrom_of_failure {failure : Failure}
    (judged : backoff.judge activity (outcomes calls) = (.failed failure, after)) :
    repeatFrom activity outcomes calls backoff = ⟨.failed failure, calls + 1, [], after, []⟩ := by
  rw [repeatFrom]
  split <;> simp_all

theorem repeatFrom_of_overflow
    (judged : backoff.judge activity (outcomes calls) = (.overflow, after)) :
    repeatFrom activity outcomes calls backoff = ⟨.overflow, calls + 1, [], after, []⟩ := by
  rw [repeatFrom]
  split <;> simp_all

end

/-- A streak that ends is followed by an outcome that is not transient. -/
theorem IsStreak.ends {outcomes : Nat -> Outcome} {first length : Nat}
    (streak : IsStreak outcomes first length) :
    isTransient (outcomes (first + length)) = false := by
  by_contra goesOn
  have further : ((length + 1 : Nat) : ℕ∞) <= length := by
    apply (streak (length + 1)).mpr
    intro place within
    rcases Nat.lt_succ_iff_lt_or_eq.mp within with earlier | rfl
    · exact (streak length).mp le_rfl place earlier
    · simpa using goesOn
  exact Nat.not_succ_le_self length (Nat.cast_le.mp further)

variable {limits : Limits} {outcomes : Nat -> Outcome}

/-- As long as the outcomes are transient and there are delays left, the calls go on, and each
delay is announced with the failure before it. -/
theorem repeatFrom_of_waits (moderate : limits.Moderate) (activity : String) (count calls : Nat)
    {waits : Nat} (within : count + waits <= limits.attempts)
    (transient : ∀ place < waits, isTransient (outcomes (calls + place)) = true) :
    ∃ failures : List Failure,
      (List.range waits).map (fun place => outcomes (calls + place)) = failures.map .error ∧
        repeatFrom activity outcomes calls (limits.waited count) =
          (repeatFrom activity outcomes (calls + waits) (limits.waited (count + waits))).preceded
            ((List.range' count waits).map limits.delay)
            (List.zipWith (Entry.retrying activity) failures
              ((List.range' count waits).map limits.delay)) := by
  induction waits with
  | zero => exact ⟨[], rfl, rfl⟩
  | succ waits inductionHypothesis =>
    obtain ⟨failures, given, before⟩ := inductionHypothesis (Nat.le_of_succ_le within)
      fun place earlier => transient place (Nat.lt_succ_of_lt earlier)
    have last := transient waits (Nat.lt_succ_self waits)
    cases outcome : outcomes (calls + waits) with
    | ok => simp [outcome, isTransient] at last
    | error failure =>
      rw [outcome] at last
      have judged : (limits.waited (count + waits)).judge activity (outcomes (calls + waits)) =
          (.wait (limits.delay (count + waits)), limits.waited (count + waits + 1)) := by
        rw [outcome]
        exact moderate.judge_waited activity last within
      have sameLength : failures.length =
          ((List.range' count waits).map limits.delay).length := by
        have lengths := congrArg List.length given
        simpa using lengths.symm
      refine ⟨failures ++ [failure], ?_, ?_⟩
      · rw [List.range_succ, List.map_append, given, List.map_append]
        simp [outcome]
      · rw [before, repeatFrom_of_wait judged, List.range'_1_concat, List.map_append,
          List.zipWith_append sameLength]
        simp [Report.preceded, Backoff.entries, outcome, Nat.add_assoc]

/-- What comes of an operation that is repeated with a backoff which has given out so many delays,
if its outcomes begin with a streak and so many of them are followed by a delay. -/
structure Repeated (limits : Limits) (count : Nat) (activity : String)
    (outcomes : Nat -> Outcome) (streak : ℕ∞) (waits : Nat) (report : Report) : Prop where
  calls : report.calls = waits + 1
  delays : report.delays = (List.range' count waits).map limits.delay
  /-- Each delay is announced by one warning, with the failure that it follows. -/
  warnings : ∃ failures : List Failure, (List.range waits).map outcomes = failures.map .error ∧
    report.entries = List.zipWith (Entry.retrying activity) failures report.delays
  succeeded : streak <= (limits.attempts - count : Nat) -> outcomes waits = .ok () ->
    report.ending = .succeeded ∧ report.backoff = limits.fresh
  /-- The first failure that is not transient is final as it is. -/
  failed : streak <= (limits.attempts - count : Nat) -> ∀ failure,
    outcomes waits = .error failure ->
      failure.isTransient = false ∧ report.ending = .failed failure ∧
        report.backoff = limits.waited (count + waits)
  exhausted : (limits.attempts - count : Nat) < streak -> ∃ failure,
    outcomes waits = .error failure ∧ failure.isTransient = true ∧
      report.ending = .failed (.connection (activity ++ " failed after " ++
        Text.decimal limits.attempts ++ " attempts: " ++ failure.message)) ∧
      report.backoff = limits.waited limits.attempts

/-- The last outcome of a streak that ends in time decides. -/
theorem repeatFrom_of_end (limits : Limits) (count : Nat) (activity : String) {calls : Nat}
    (final : isTransient (outcomes calls) = false) :
    let report := repeatFrom activity outcomes calls (limits.waited count)
    report.calls = calls + 1 ∧ report.delays = [] ∧ report.entries = [] ∧
      (outcomes calls = .ok () -> report.ending = .succeeded ∧ report.backoff = limits.fresh) ∧
      ∀ failure, outcomes calls = .error failure ->
        failure.isTransient = false ∧ report.ending = .failed failure ∧
          report.backoff = limits.waited count := by
  intro report
  cases outcome : outcomes calls with
  | ok =>
    have same : report = _ := repeatFrom_of_success outcome
    simp [same, Limits.waited]
  | error failure =>
    rw [outcome] at final
    have permanent : failure.isTransient = false := final
    have judged : (limits.waited count).judge activity (outcomes calls) =
        (.failed failure, limits.waited count) := by
      simp [Backoff.judge, outcome, permanent]
    have same : report = _ := repeatFrom_of_failure judged
    simp [same, permanent]

/-- A transient outcome for which there is no delay left is final too. -/
theorem repeatFrom_of_exhaustion (limits : Limits) (activity : String) {calls : Nat}
    (transient : isTransient (outcomes calls) = true) :
    ∃ failure, outcomes calls = .error failure ∧ failure.isTransient = true ∧
      repeatFrom activity outcomes calls (limits.waited limits.attempts) =
        ⟨.failed (exhaustion activity limits.attempts failure), calls + 1, [],
          limits.waited limits.attempts, []⟩ := by
  cases outcome : outcomes calls with
  | ok => simp [outcome, isTransient] at transient
  | error failure =>
    rw [outcome] at transient
    have again : failure.isTransient = true := transient
    refine ⟨failure, rfl, again, ?_⟩
    apply repeatFrom_of_failure
    rw [outcome, Limits.judge_waited_final activity fun _ => Nat.le_refl _]
    simp [finalFailure, again]

/-- Wherever a backoff stands, an operation is repeated as often as its outcomes ask for and
delays are left. -/
theorem exists_repeated (moderate : limits.Moderate) {count : Nat}
    (within : count <= limits.attempts) (activity : String) (outcomes : Nat -> Outcome) :
    ∃ (streak : ℕ∞) (waits : Nat), IsStreak outcomes 0 streak ∧
      (waits : ℕ∞) = min streak (limits.attempts - count : Nat) ∧
      Repeated limits count activity outcomes streak waits
        (attempt activity outcomes (limits.waited count)) := by
  obtain ⟨streak, isStreak⟩ := exists_isStreak outcomes 0
  obtain ⟨waits, same, left, transient, _⟩ := isStreak.exists_waits (limits.attempts - count)
  obtain ⟨failures, given, repeated⟩ :=
    repeatFrom_of_waits moderate activity count 0 (by omega) transient
  simp only [Nat.zero_add] at given repeated
  refine ⟨streak, waits, isStreak, same, ?_⟩
  rw [attempt, repeated]
  -- The outcome after the streak decides, unless the delays are used up before it comes.
  by_cases ends : streak <= (limits.attempts - count : Nat)
  · rw [min_eq_left ends] at same
    subst same
    have final := isStreak.ends
    rw [Nat.zero_add] at final
    obtain ⟨calls, delays, entries, succeeded, failed⟩ :=
      repeatFrom_of_end limits (count + waits) activity final
    exact {
      calls := calls
      delays := by simp [Report.preceded, delays]
      warnings := ⟨failures, given, by simp [Report.preceded, delays, entries]⟩
      succeeded := fun _ => succeeded
      failed := fun _ => failed
      exhausted := fun beyond => absurd ends (not_le_of_gt beyond) }
  · have beyond := lt_of_not_ge ends
    rw [min_eq_right (le_of_lt beyond)] at same
    obtain rfl : waits = limits.attempts - count := Nat.cast_inj.mp same
    have last : isTransient (outcomes (limits.attempts - count)) = true := by
      have further : ((limits.attempts - count + 1 : Nat) : ℕ∞) <= streak :=
        Order.add_one_le_of_lt beyond
      simpa using (isStreak _).mp further (limits.attempts - count) (Nat.lt_succ_self _)
    have used : count + (limits.attempts - count) = limits.attempts := by omega
    obtain ⟨failure, outcome, again, report⟩ :=
      repeatFrom_of_exhaustion limits activity last
    rw [used, report]
    exact {
      calls := rfl
      delays := by simp [Report.preceded]
      warnings := ⟨failures, given, by simp [Report.preceded]⟩
      succeeded := fun within => absurd within ends
      failed := fun within => absurd within ends
      exhausted := fun _ => ⟨failure, outcome, again, rfl, rfl⟩ }

end StrategyHost.Retry
