import StrategyHost.Proofs.Retry.Sharing

/-!
# What a report of exhaustion counts

A backoff keeps count of the delays that it has given out, and this is the number that the report
of an operation that has been tried too often names. The failure that is reported has got no delay,
and neither have those that were reported before it since the last reset. So the number is less
than that of the failures, by one for each report.
-/

namespace StrategyHost.Retry

/-- How an operation ends with its last outcome, and the backoff after it. -/
inductive Ends (activity : String) (backoff : Backoff) : Outcome -> Ending -> Backoff -> Prop where
  | succeeded : Ends activity backoff (.ok ()) .succeeded backoff.limits.fresh
  | failed {failure : Failure} (permanent : failure.isTransient = false) :
      Ends activity backoff (.error failure) (.failed failure) backoff
  | exhausted {failure : Failure} (transient : failure.isTransient = true)
      (spent : backoff.limits.attempts <= backoff.attempts) :
      Ends activity backoff (.error failure)
        (.failed (exhaustion activity backoff.attempts failure)) backoff
  | overflow {failure : Failure} (transient : failure.isTransient = true)
      (left : backoff.attempts < backoff.limits.attempts) :
      Ends activity backoff (.error failure) .overflow
        { backoff with attempts := backoff.attempts + 1 }

/-- An outcome is the last one, or it has failed for the time being and gets a delay, which
counts. -/
theorem repeatFrom_cases (activity : String) (outcomes : Nat -> Outcome) (calls : Nat)
    (backoff : Backoff) :
    let report := repeatFrom activity outcomes calls backoff
    (Ends activity backoff (outcomes calls) report.ending report.backoff ∧
      report.calls = calls + 1) ∨
    (isTransient (outcomes calls) = true ∧ backoff.attempts < backoff.limits.attempts ∧
      ∃ after delays entries, after.limits = backoff.limits ∧
        after.attempts = backoff.attempts + 1 ∧
        report = (repeatFrom activity outcomes (calls + 1) after).preceded delays entries) := by
  intro report
  cases outcome : outcomes calls with
  | ok =>
    have same : report = _ := repeatFrom_of_success outcome
    rw [same]
    exact .inl ⟨.succeeded, rfl⟩
  | error failure =>
    by_cases transient : failure.isTransient = true
    · obtain ⟨spent, said⟩ | ⟨left, _, said⟩ | ⟨left, _, said⟩ := backoff.next_cases
      · have judged : backoff.judge activity (outcomes calls) =
            (.failed (exhaustion activity backoff.attempts failure), backoff) := by
          simp [Backoff.judge, outcome, transient, said]
        have same : report = _ := repeatFrom_of_failure judged
        rw [same]
        exact .inl ⟨.exhausted transient spent, rfl⟩
      · have judged : backoff.judge activity (outcomes calls) =
            (.overflow, { backoff with attempts := backoff.attempts + 1 }) := by
          simp [Backoff.judge, outcome, transient, said]
        have same : report = _ := repeatFrom_of_overflow judged
        rw [same]
        exact .inl ⟨.overflow transient left, rfl⟩
      · have judged : backoff.judge activity (outcomes calls) =
            (.wait backoff.current, backoff.next.2) := by
          simp [Backoff.judge, outcome, transient, said]
        have same : report = _ := repeatFrom_of_wait judged
        refine .inr ⟨transient, left, backoff.next.2, _, _, backoff.limits_next, ?_, same⟩
        rw [backoff.attempts_next, if_pos left]
    · have permanent : failure.isTransient = false := by simpa using transient
      have judged : backoff.judge activity (outcomes calls) = (.failed failure, backoff) := by
        simp [Backoff.judge, outcome, permanent]
      have same : report = _ := repeatFrom_of_failure judged
      rw [same]
      exact .inl ⟨.failed permanent, rfl⟩

/-- How repeating an operation comes to its end: some of its invocations have failed for the time
being and got a delay each, and the next one is the last. -/
structure Concludes (activity : String) (outcomes : Nat -> Outcome) (first : Nat)
    (backoff : Backoff) (waits : Nat) (reached : Backoff) (report : Report) : Prop where
  calls : report.calls = first + waits + 1
  waited : ∀ place < waits, isTransient (outcomes (first + place)) = true
  limits : reached.limits = backoff.limits
  attempts : reached.attempts = backoff.attempts + waits
  within : backoff.attempts <= backoff.limits.attempts ->
    reached.attempts <= backoff.limits.attempts
  ends : Ends activity reached (outcomes (first + waits)) report.ending report.backoff

namespace Concludes

variable {activity : String} {outcomes : Nat -> Outcome} {first waits : Nat}
  {backoff after reached : Backoff} {report : Report}

theorem of_ends (ends : Ends activity backoff (outcomes first) report.ending report.backoff)
    (calls : report.calls = first + 1) :
    Concludes activity outcomes first backoff 0 backoff report where
  calls := calls
  waited := by simp
  limits := rfl
  attempts := rfl
  within := id
  ends := ends

/-- An outcome that has got a delay comes before those that follow. -/
theorem preceded (concludes : Concludes activity outcomes (first + 1) after waits reached report)
    (transient : isTransient (outcomes first) = true)
    (left : backoff.attempts < backoff.limits.attempts) (limits : after.limits = backoff.limits)
    (counted : after.attempts = backoff.attempts + 1) (delays : List Delay)
    (entries : List Journal.Entry) :
    Concludes activity outcomes first backoff (waits + 1) reached
      (report.preceded delays entries) where
  calls := by
    rw [Report.preceded, concludes.calls]
    omega
  waited := by
    intro place within
    cases place with
    | zero => exact transient
    | succ place =>
      have later := concludes.waited place (Nat.lt_of_succ_lt_succ within)
      rwa [Nat.add_right_comm] at later
  limits := concludes.limits.trans limits
  attempts := by
    rw [concludes.attempts, counted]
    omega
  within := by
    intro _
    rw [← limits]
    exact concludes.within (by rw [counted, limits]; exact left)
  ends := by
    have last := concludes.ends
    rwa [Nat.add_right_comm] at last

end Concludes

/-- Repeating an operation always comes to an end. -/
theorem exists_concludes (activity : String) (outcomes : Nat -> Outcome) (first : Nat)
    (backoff : Backoff) : ∃ waits reached, Concludes activity outcomes first backoff waits reached
      (repeatFrom activity outcomes first backoff) := by
  induction remaining : backoff.remaining generalizing first backoff with
  | zero =>
    obtain ⟨ends, calls⟩ | ⟨_, left, _⟩ := repeatFrom_cases activity outcomes first backoff
    · exact ⟨0, backoff, .of_ends ends calls⟩
    · rw [Backoff.remaining] at remaining
      omega
  | succ remains inductionHypothesis =>
    obtain ⟨ends, calls⟩ | ⟨transient, left, after, delays, entries, limits, counted, same⟩ :=
      repeatFrom_cases activity outcomes first backoff
    · exact ⟨0, backoff, .of_ends ends calls⟩
    · have less : after.remaining = remains := by
        rw [Backoff.remaining] at remaining ⊢
        rw [limits, counted]
        omega
      obtain ⟨waits, reached, concludes⟩ := inductionHypothesis (first + 1) after less
      rw [same]
      exact ⟨waits + 1, reached, concludes.preceded transient left limits counted delays entries⟩

/-- How many of the first invocations of an operation have failed for the time being. -/
def failuresAmong (outcomes : Nat -> Outcome) (calls : Nat) : Nat :=
  (List.range calls).countP fun call => isTransient (outcomes call)

/-- Whether an operation has ended with a report that it has been tried too often. -/
def Ending.isExhaustion : Ending -> Bool
  | .failed failure => failure.isTransient
  | _ => false

/-- A backoff with what it has been asked for since it was last reset. -/
structure Account where
  backoff : Backoff
  /-- How many failures have asked for a delay. -/
  failures : Nat
  /-- How many of them got none because the delays were used up. -/
  reports : Nat

namespace Account

/-- Nothing has been asked for yet. -/
def opened (limits : Limits) : Account := ⟨limits.fresh, 0, 0⟩

/-- The account after a use. A success resets the backoff as a reset does; asking for a delay
without an operation counts like a failure. -/
def used (account : Account) : Use -> Account
  | .step .reset => ⟨account.backoff.reset, 0, 0⟩
  | .step .next =>
    { backoff := account.backoff.next.2
      failures := account.failures + 1
      reports := account.reports + if account.backoff.next.1 = .exhausted then 1 else 0 }
  | .attempt activity outcomes =>
    let report := attempt activity outcomes account.backoff
    if report.ending = .succeeded then ⟨report.backoff, 0, 0⟩
    else
      { backoff := report.backoff
        failures := account.failures + failuresAmong outcomes report.calls
        reports := account.reports + if report.ending.isExhaustion then 1 else 0 }

/-- Nothing is lost of what a backoff has been asked for: each failure has got a delay, or a report
that there is none. -/
structure Balanced (limits : Limits) (account : Account) : Prop where
  failures : account.failures = account.backoff.attempts + account.reports
  within : account.backoff.attempts <= limits.attempts
  limits : account.backoff.limits = limits

theorem balanced_opened (limits : Limits) : Balanced limits (opened limits) :=
  ⟨rfl, Nat.zero_le _, rfl⟩

end Account

/-- A failure for the time being is one of the connection. -/
theorem isTransient_iff {outcome : Outcome} :
    isTransient outcome = true ↔ ∃ cause, outcome = .error (.connection cause) := by
  cases outcome with
  | ok => simp [isTransient]
  | error failure => cases failure <;> simp [isTransient, Failure.isTransient]

section

variable {activity : String} {outcomes : Nat -> Outcome} {outcome : Outcome} {ending : Ending}
  {backoff after reached : Backoff} {waits : Nat} {report : Report}

theorem Ends.fresh_of_succeeded (ends : Ends activity backoff outcome ending after)
    (succeeded : ending = .succeeded) : after = backoff.limits.fresh := by
  cases ends with
  | succeeded => rfl
  | failed | exhausted | overflow => cases succeeded

/-- The last failure counts as a delay that has been given out, or there is a report about it. -/
theorem Ends.balances (ends : Ends activity backoff outcome ending after)
    (unsuccessful : ending ≠ .succeeded) :
    after.limits = backoff.limits ∧
      (backoff.attempts <= backoff.limits.attempts -> after.attempts <= backoff.limits.attempts) ∧
      after.attempts + (if ending.isExhaustion then 1 else 0) =
        backoff.attempts + if isTransient outcome then 1 else 0 := by
  cases ends with
  | succeeded => exact absurd rfl unsuccessful
  | failed permanent => simp [Ending.isExhaustion, isTransient, permanent]
  | @exhausted failure transient spent =>
    have reported :
        Ending.isExhaustion (.failed (exhaustion activity backoff.attempts failure)) = true := rfl
    simp [reported, isTransient, transient]
  | overflow transient left =>
    simp [Ending.isExhaustion, isTransient, transient, Nat.succ_le_of_lt left]

/-- A failure for the time being that ends an operation is reported, or its delay cannot be
doubled. -/
theorem Ends.exists_reason (ends : Ends activity backoff outcome ending after)
    (transient : isTransient outcome = true) (sound : ending ≠ .overflow) :
    ∃ reason, ending = .failed (.connection reason) := by
  cases ends with
  | succeeded => simp [isTransient] at transient
  | failed permanent => simp [isTransient, permanent] at transient
  | exhausted => exact ⟨_, rfl⟩
  | overflow => exact absurd rfl sound

/-- Only a report of exhaustion is a failure of the connection. -/
theorem Ends.exhausted_of_connection {reason : String}
    (ends : Ends activity backoff outcome ending after)
    (reported : ending = .failed (.connection reason)) :
    backoff.limits.attempts <= backoff.attempts ∧ ∃ cause, outcome = .error (.connection cause) ∧
      .connection reason = exhaustion activity backoff.attempts (.connection cause) := by
  cases ends with
  | succeeded | overflow => cases reported
  | failed permanent =>
    obtain rfl := Ending.failed.inj reported
    cases permanent
  | @exhausted failure transient spent =>
    have again : isTransient (.error failure) = true := transient
    obtain ⟨cause, same⟩ := isTransient_iff.mp again
    obtain rfl := Except.error.inj same
    exact ⟨spent, cause, rfl, (Ending.failed.inj reported).symm⟩

namespace Concludes

variable (concludes : Concludes activity outcomes 0 backoff waits reached report)

include concludes

theorem last : Ends activity reached (outcomes waits) report.ending report.backoff := by
  have ends := concludes.ends
  rwa [Nat.zero_add] at ends

theorem calls_eq : report.calls = waits + 1 := by
  have calls := concludes.calls
  rwa [Nat.zero_add] at calls

/-- All invocations have failed for the time being if the last one has. -/
theorem transient_of_lt (transient : isTransient (outcomes waits) = true) {call : Nat}
    (within : call < report.calls) : isTransient (outcomes call) = true := by
  rcases Nat.lt_succ_iff_lt_or_eq.mp (concludes.calls_eq ▸ within) with earlier | rfl
  · have waited := concludes.waited call earlier
    rwa [Nat.zero_add] at waited
  · exact transient

/-- All invocations but the last have failed for the time being. -/
theorem failuresAmong_calls :
    failuresAmong outcomes report.calls = waits + if isTransient (outcomes waits) then 1 else 0 := by
  have before : failuresAmong outcomes waits = waits := by
    refine (List.countP_eq_length.mpr ?_).trans List.length_range
    intro place member
    have transient := concludes.waited place (List.mem_range.mp member)
    rwa [Nat.zero_add] at transient
  rw [concludes.calls_eq, failuresAmong, List.range_succ, List.countP_append,
    List.countP_singleton]
  rw [failuresAmong] at before
  rw [before]

/-- Of the failures of an operation that does not succeed each one has got a delay, or there is a
report about it. -/
theorem balances (within : backoff.attempts <= backoff.limits.attempts)
    (unsuccessful : report.ending ≠ .succeeded) :
    report.backoff.limits = backoff.limits ∧
      report.backoff.attempts <= backoff.limits.attempts ∧
      report.backoff.attempts + (if report.ending.isExhaustion then 1 else 0) =
        backoff.attempts + failuresAmong outcomes report.calls := by
  obtain ⟨limits, bounded, balance⟩ := concludes.last.balances unsuccessful
  rw [concludes.limits] at limits bounded
  rw [concludes.attempts] at balance
  refine ⟨limits, bounded (concludes.within within), ?_⟩
  rw [balance, concludes.failuresAmong_calls, Nat.add_assoc]

end Concludes

end

theorem exists_concludes_attempt (activity : String) (outcomes : Nat -> Outcome)
    (backoff : Backoff) : ∃ waits reached, Concludes activity outcomes 0 backoff waits reached
      (attempt activity outcomes backoff) :=
  exists_concludes activity outcomes 0 backoff

namespace Account

theorem backoff_used (account : Account) (use : Use) :
    (account.used use).backoff = account.backoff.used use := by
  cases use with
  | step step => cases step <;> rfl
  | attempt activity outcomes =>
    simp only [used, Backoff.used]
    split <;> rfl

theorem backoff_foldl_used (account : Account) (uses : List Use) :
    (uses.foldl used account).backoff = uses.foldl Backoff.used account.backoff := by
  induction uses generalizing account with
  | nil => rfl
  | cons use uses inductionHypothesis =>
    rw [List.foldl_cons, inductionHypothesis, backoff_used, List.foldl_cons]

namespace Balanced

variable {limits : Limits} {account : Account}

/-- Every use keeps an account balanced. -/
theorem used (balanced : Balanced limits account) (use : Use) :
    Balanced limits (account.used use) := by
  obtain ⟨failures, within, same⟩ := balanced
  cases use with
  | step step =>
    cases step with
    | reset =>
      rw [Account.used, Backoff.reset, same]
      exact balanced_opened limits
    | next =>
      refine ⟨?_, ?_, account.backoff.limits_next.trans same⟩
      · simp only [Account.used, Backoff.attempts_next, Backoff.next_eq_exhausted_iff]
        split <;> split <;> omega
      · simp only [Account.used, Backoff.attempts_next, same]
        split <;> omega
  | attempt activity outcomes =>
    obtain ⟨waits, reached, concludes⟩ :=
      exists_concludes_attempt activity outcomes account.backoff
    simp only [Account.used]
    split
    · rename_i succeeded
      have reset := concludes.last.fresh_of_succeeded succeeded
      rw [reset, concludes.limits, same]
      exact balanced_opened limits
    · rename_i unsuccessful
      obtain ⟨kept, bounded, balance⟩ := concludes.balances (same ▸ within) unsuccessful
      rw [same] at kept bounded
      refine ⟨?_, bounded, kept⟩
      simp only
      omega

/-- Whatever a backoff is used for, its account is balanced. -/
theorem foldl_used (balanced : Balanced limits account) (uses : List Use) :
    Balanced limits (uses.foldl Account.used account) := by
  induction uses generalizing account with
  | nil => exact balanced
  | cons use uses inductionHypothesis => exact inductionHypothesis (balanced.used use)

end Balanced

end Account

/-- A report that an operation has been tried too often, and what its number counts. -/
structure Reported (limits : Limits) (account : Account) (activity : String)
    (outcomes : Nat -> Outcome) (reason : String) : Prop where
  /-- No invocation of the operation has gone any other way. -/
  failed : ∀ call < (attempt activity outcomes account.backoff).calls,
    ∃ cause, outcomes call = .error (.connection cause)
  /-- The report names the number of delays that can be given out, and the last failure. -/
  text : ∃ cause,
    outcomes ((attempt activity outcomes account.backoff).calls - 1) =
        .error (.connection cause) ∧
      reason = activity ++ " failed after " ++ Text.decimal limits.attempts ++ " attempts: " ++
        (Failure.connection cause).message
  failures : (account.used (.attempt activity outcomes)).failures =
    account.failures + (attempt activity outcomes account.backoff).calls
  reports : (account.used (.attempt activity outcomes)).reports = account.reports + 1
  /-- So many failures there have been since the last reset, one more for each report. -/
  missed : (account.used (.attempt activity outcomes)).failures =
    limits.attempts + (account.used (.attempt activity outcomes)).reports
  /-- If there have been none before, the operation has been invoked once more than reported. -/
  alone : account.failures = 0 ->
    (attempt activity outcomes account.backoff).calls = limits.attempts + 1

namespace Account.Balanced

variable {limits : Limits} {account : Account}

theorem reported (balanced : Balanced limits account) {activity : String}
    {outcomes : Nat -> Outcome} {reason : String}
    (ended : (attempt activity outcomes account.backoff).ending = .failed (.connection reason)) :
    Reported limits account activity outcomes reason := by
  obtain ⟨waits, reached, concludes⟩ := exists_concludes_attempt activity outcomes account.backoff
  obtain ⟨spent, cause, outcome, said⟩ := concludes.last.exhausted_of_connection ended
  -- All delays have been given out, and none beyond the limit.
  have all : reached.attempts = limits.attempts := by
    have bounded := concludes.within (balanced.limits ▸ balanced.within)
    rw [concludes.limits, balanced.limits] at spent
    rw [balanced.limits] at bounded
    omega
  have calls := concludes.calls_eq
  have transient : isTransient (outcomes waits) = true := isTransient_iff.mpr ⟨cause, outcome⟩
  have among := concludes.failuresAmong_calls
  rw [if_pos transient, ← calls] at among
  have failures : (account.used (.attempt activity outcomes)).failures =
      account.failures + (attempt activity outcomes account.backoff).calls := by
    simp [Account.used, ended, among]
  have reports : (account.used (.attempt activity outcomes)).reports = account.reports + 1 := by
    simp [Account.used, ended, Ending.isExhaustion, Failure.isTransient]
  have before := balanced.failures
  have given := concludes.attempts
  refine ⟨?_, ?_, failures, reports, by omega, by omega⟩
  · intro call within
    exact isTransient_iff.mp (concludes.transient_of_lt transient within)
  · refine ⟨cause, ?_, ?_⟩
    · rw [calls, Nat.add_sub_cancel]
      exact outcome
    · rw [all] at said
      exact Failure.connection.inj said

end Account.Balanced

namespace Limits

/-- However a backoff has been used, a report that an operation has been tried too often names a
number that is smaller than that of the failures since the last reset. An operation that keeps
failing is reported unless its delay cannot be doubled, which settings of a configuration rule
out. -/
theorem reported_of_uses (limits : Limits) (uses : List Use) (activity : String)
    (outcomes : Nat -> Outcome) :
    let account := uses.foldl Account.used (.opened limits)
    let report := attempt activity outcomes account.backoff
    (∀ reason, report.ending = .failed (.connection reason) ->
      Reported limits account activity outcomes reason) ∧
    ((∀ call, isTransient (outcomes call) = true) -> report.ending ≠ .overflow ->
      ∃ reason, report.ending = .failed (.connection reason)) ∧
    ∀ reconnect : Config.Reconnect, reconnect.Fits -> limits = reconnect.limits ->
      report.ending ≠ .overflow := by
  intro account report
  have balanced : account.Balanced limits := (Account.balanced_opened limits).foldl_used uses
  refine ⟨fun _ => balanced.reported, ?_, ?_⟩
  · intro transient sound
    obtain ⟨waits, _, concludes⟩ := exists_concludes_attempt activity outcomes account.backoff
    exact concludes.last.exists_reason (transient waits) sound
  · rintro reconnect fits rfl
    have moderate := moderate_of_fits fits
    obtain ⟨count, within, reached⟩ := moderate.foldl_used (Nat.zero_le _) uses
    have same : account.backoff = reconnect.limits.waited count :=
      (Account.backoff_foldl_used _ uses).trans reached
    obtain ⟨_, _, _, sound, _⟩ := moderate.attempt_waited within activity outcomes
    rw [← same] at sound
    exact sound

/-- The first operation has used up both delays and is reported. The second one fails once, the
fourth failure in all, and is reported with the same number. -/
theorem reported_of_uses_again :
    let down (_ : Nat) : Outcome := .error (.connection "refused")
    let account := [.attempt "connect" down].foldl Account.used (.opened (.ofMilliseconds 10 40 2))
    let report := attempt "publish" down account.backoff
    account.failures = 3 ∧ account.reports = 1 ∧ report.calls = 1 ∧
      report.ending = .failed (.connection
        "publish failed after 2 attempts: connection error: refused") ∧
      (account.used (.attempt "publish" down)).failures = 4 ∧
      (account.used (.attempt "publish" down)).reports = 2 := by
  intro down account report
  have failures : account.failures = 3 := by decide +kernel
  have reports : account.reports = 1 := by decide +kernel
  have calls : report.calls = 1 := by decide +kernel
  have ended : report.ending = .failed (.connection
      "publish failed after 2 attempts: connection error: refused") := by decide +kernel
  have reported := (reported_of_uses (.ofMilliseconds 10 40 2) [.attempt "connect" down]
    "publish" down).1 _ ended
  refine ⟨failures, reports, calls, ended, ?_, ?_⟩
  · exact reported.failures.trans (congrArg₂ (· + ·) failures calls)
  · exact reported.reports.trans (congrArg (· + 1) reports)

/-- An operation that is invoked three times and fails each time is reported as if it had been
invoked twice. -/
theorem report_of_three_calls :
    let down (_ : Nat) : Outcome := .error (.connection "refused")
    let report := attempt "connect" down (Limits.ofMilliseconds 10 40 2).fresh
    report.calls = 3 ∧ report.ending = .failed (.connection
      "connect failed after 2 attempts: connection error: refused") := by
  decide +kernel

end Limits

end StrategyHost.Retry
