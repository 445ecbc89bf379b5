import StrategyHost.Proofs.Config.Reconnect
import StrategyHost.Proofs.Retry.Schedule

/-!
# What a backoff says call by call

A backoff is asked for delays and reset in any order. What it says when it is asked depends only
on how often it has been asked since it was last reset, and `Limits.called` is where so many
calls lead. The limits are any delays here: one that cannot be doubled goes down at the call that
would double it, counts, and stays the current one.
-/

namespace StrategyHost.Retry

namespace Backoff

/-- What a step is answered, and the backoff after it. -/
def perform (backoff : Backoff) : Step -> Option Advice × Backoff
  | .next => (some backoff.next.1, backoff.next.2)
  | .reset => (none, backoff.reset)

theorem follow_cons (backoff : Backoff) (step : Step) (rest : List Step) :
    backoff.follow (step :: rest) =
      backoff.perform step :: (backoff.perform step).2.follow rest := by
  cases step with
  | next => rfl
  | reset => rfl

/-- How often a delay is asked for after the last reset, if it has been so many times before. -/
def callsFrom (count : Nat) : List Step -> Nat
  | [] => count
  | .next :: rest => callsFrom (count + 1) rest
  | .reset :: rest => callsFrom 0 rest

/-- How often a delay is asked for after the last reset. -/
def calls (steps : List Step) : Nat := callsFrom 0 steps

theorem callsFrom_append (count : Nat) (before behind : List Step) :
    callsFrom count (before ++ behind) = callsFrom (callsFrom count before) behind := by
  induction before generalizing count with
  | nil => rfl
  | cons step before inductionHypothesis =>
    cases step with
    | next => exact inductionHypothesis (count + 1)
    | reset => exact inductionHypothesis 0

/-- Between two resets the calls are counted one by one. -/
theorem calls_take_add {steps : List Step} {first more : Nat}
    (asks : ∀ place, first <= place -> place < first + more -> steps[place]? = some .next) :
    calls (steps.take (first + more)) = calls (steps.take first) + more := by
  induction more with
  | zero => rfl
  | succ more inductionHypothesis =>
    have before := inductionHypothesis fun place behind within =>
      asks place behind (Nat.lt_succ_of_lt within)
    have last := asks (first + more) (Nat.le_add_right first more) (Nat.lt_succ_self _)
    rw [← Nat.add_assoc, List.take_add_one, last, calls, callsFrom_append]
    rw [calls] at before
    rw [before]
    rfl

/-- Asking for a delay goes one of three ways. -/
theorem next_cases (backoff : Backoff) :
    (backoff.limits.attempts <= backoff.attempts ∧ backoff.next = (.exhausted, backoff)) ∨
    (backoff.attempts < backoff.limits.attempts ∧
      Delay.longest.nanoseconds < 2 * backoff.current.nanoseconds ∧
      backoff.next = (.overflow, { backoff with attempts := backoff.attempts + 1 })) ∨
    (backoff.attempts < backoff.limits.attempts ∧
      2 * backoff.current.nanoseconds <= Delay.longest.nanoseconds ∧
      backoff.next = (.wait backoff.current,
        { backoff with
          attempts := backoff.attempts + 1
          current := Delay.shorter ⟨2 * backoff.current.nanoseconds⟩
            backoff.limits.longest })) := by
  by_cases spent : backoff.limits.attempts <= backoff.attempts
  · exact .inl ⟨spent, by simp [next, spent]⟩
  · have left := Nat.lt_of_not_le spent
    by_cases held : 2 * backoff.current.nanoseconds <= Delay.longest.nanoseconds
    · exact .inr (.inr ⟨left, held, by simp [next, spent, Delay.double?, held]⟩)
    · exact .inr (.inl ⟨left, Nat.lt_of_not_le held, by simp [next, spent, Delay.double?, held]⟩)

theorem limits_next (backoff : Backoff) : backoff.next.2.limits = backoff.limits := by
  obtain ⟨_, said⟩ | ⟨_, _, said⟩ | ⟨_, _, said⟩ := backoff.next_cases <;> rw [said]

/-- A call counts as long as delays are left. -/
theorem attempts_next (backoff : Backoff) : backoff.next.2.attempts =
    if backoff.attempts < backoff.limits.attempts then backoff.attempts + 1
    else backoff.attempts := by
  obtain ⟨spent, said⟩ | ⟨left, _, said⟩ | ⟨left, _, said⟩ := backoff.next_cases
  · rw [said, if_neg (Nat.not_lt_of_le spent)]
  · rw [said, if_pos left]
  · rw [said, if_pos left]

/-- A delay that cannot be doubled is still the current one after the call. -/
theorem current_next_of_overflow {backoff : Backoff}
    (beyond : Delay.longest.nanoseconds < 2 * backoff.current.nanoseconds) :
    backoff.next.2.current = backoff.current := by
  obtain ⟨_, said⟩ | ⟨_, _, said⟩ | ⟨_, held, _⟩ := backoff.next_cases
  · rw [said]
  · rw [said]
  · omega

/-- A call goes down exactly if it is within the limits and its delay cannot be doubled. -/
theorem next_eq_overflow_iff {backoff : Backoff} : backoff.next.1 = .overflow ↔
    backoff.attempts < backoff.limits.attempts ∧
      Delay.longest.nanoseconds < 2 * backoff.current.nanoseconds := by
  obtain ⟨spent, said⟩ | ⟨left, beyond, said⟩ | ⟨left, held, said⟩ := backoff.next_cases
  · simp [said, Nat.not_lt_of_le spent]
  · simp [said, left, beyond]
  · simp [said, Nat.not_lt_of_le held]

/-- Only a backoff whose delays are used up has none to say anything about. -/
theorem next_eq_exhausted_iff {backoff : Backoff} : backoff.next.1 = .exhausted ↔
    backoff.limits.attempts <= backoff.attempts := by
  obtain ⟨spent, said⟩ | ⟨left, _, said⟩ | ⟨left, _, said⟩ := backoff.next_cases
  · simp [said, spent]
  · simp [said, Nat.not_le_of_lt left]
  · simp [said, Nat.not_le_of_lt left]

end Backoff

namespace Limits

open Backoff (Step calls callsFrom)

variable {limits : Limits}

/-- The backoff that has been asked for a delay so often since it was reset. -/
def called (limits : Limits) : Nat -> Backoff
  | 0 => limits.fresh
  | count + 1 => (limits.called count).next.2

theorem limits_called (limits : Limits) (count : Nat) :
    (limits.called count).limits = limits := by
  induction count with
  | zero => rfl
  | succ count inductionHypothesis => rw [called, Backoff.limits_next, inductionHypothesis]

/-- Every call counts until the limit is reached. -/
theorem attempts_called (limits : Limits) (count : Nat) :
    (limits.called count).attempts = min count limits.attempts := by
  induction count with
  | zero => exact (Nat.zero_min limits.attempts).symm
  | succ count inductionHypothesis =>
    rw [called, Backoff.attempts_next, limits_called, inductionHypothesis]
    split <;> omega

/-- Steps are answered one by one from where the calls since the last reset have led. -/
theorem follow_called (limits : Limits) (count : Nat) (steps : List Step) (place : Nat) :
    ((limits.called count).follow steps)[place]? =
      steps[place]?.map (limits.called (callsFrom count (steps.take place))).perform := by
  induction steps generalizing count place with
  | nil => rfl
  | cons step rest inductionHypothesis =>
    rw [Backoff.follow_cons]
    cases place with
    | zero => rfl
    | succ place =>
      rw [List.getElem?_cons_succ, List.getElem?_cons_succ, List.take_succ_cons]
      cases step with
      | next => exact inductionHypothesis (count + 1) place
      | reset =>
        have again : ((limits.called count).perform .reset).2 = limits.called 0 := by
          rw [Backoff.perform, Backoff.reset, limits_called, called]
        rw [again]
        exact inductionHypothesis 0 place

/-- As long as nothing goes down the delays are those of the schedule. -/
theorem called_eq_waited {count : Nat} (within : count <= limits.attempts)
    (sound : ∀ earlier < count, (limits.called earlier).next.1 ≠ .overflow) :
    limits.called count = limits.waited count := by
  induction count with
  | zero => rfl
  | succ count inductionHypothesis =>
    have before := inductionHypothesis (Nat.le_of_succ_le within)
      fun earlier least => sound earlier (Nat.lt_succ_of_lt least)
    have last := sound count (Nat.lt_succ_self count)
    rw [before] at last
    rw [called, before]
    -- Neither used up nor gone down, the call has doubled the delay.
    obtain ⟨spent, _⟩ | ⟨_, _, said⟩ | ⟨_, _, said⟩ := (limits.waited count).next_cases
    · exact absurd spent (Nat.not_le_of_lt within)
    · exact absurd (congrArg Prod.fst said) last
    · rw [said]
      simp only [waited, delay_succ]

/-- Once a call has gone down the current delay stays what it is. -/
theorem current_called_of_overflow {count later : Nat}
    (down : (limits.called count).next.1 = .overflow) (behind : count <= later) :
    (limits.called later).current = (limits.called count).current := by
  induction behind with
  | refl => rfl
  | step _ inductionHypothesis =>
    have beyond := (Backoff.next_eq_overflow_iff.mp down).2
    rw [← inductionHypothesis] at beyond
    rw [called, Backoff.current_next_of_overflow beyond, inductionHypothesis]

/-- Then every call within the limits goes down. -/
theorem next_called_of_overflow {count later : Nat}
    (down : (limits.called count).next.1 = .overflow) (behind : count <= later)
    (left : later < limits.attempts) : (limits.called later).next.1 = .overflow := by
  have beyond := (Backoff.next_eq_overflow_iff.mp down).2
  rw [← current_called_of_overflow down behind] at beyond
  refine Backoff.next_eq_overflow_iff.mpr ⟨?_, beyond⟩
  rw [attempts_called, limits_called]
  omega

/-- What is said and done at a call, by its number since the last reset. -/
structure Answers (limits : Limits) (count : Nat) : Prop where
  counted : (limits.called count).attempts = min count limits.attempts
  /-- A call within the limits gives a delay or goes down. -/
  given : count < limits.attempts -> (limits.called count).next.1 ≠ .exhausted
  /-- Every other call says so and changes nothing. -/
  spent : limits.attempts <= count ->
    (limits.called count).next = (.exhausted, limits.called count)
  /-- If none of the calls before it has gone down, a call within the limits gives the delay with
  its number, unless this cannot be doubled. -/
  scheduled : count < limits.attempts ->
    (∀ earlier < count, (limits.called earlier).next.1 ≠ .overflow) ->
      (limits.called count).next.1 =
        if Delay.longest.nanoseconds < 2 * (limits.delay count).nanoseconds then .overflow
        else .wait (limits.delay count)
  /-- A call that goes down counts and leaves all else as it is. -/
  down : (limits.called count).next.1 = .overflow ->
    (limits.called count).next.2 =
      { limits.called count with attempts := (limits.called count).attempts + 1 }
  /-- After it there are no delays before the next reset. -/
  downAfter : (limits.called count).next.1 = .overflow -> ∀ later, count <= later ->
    (limits.called later).next.1 =
      if later < limits.attempts then .overflow else .exhausted

/-- Whatever the limits are, each call says what its number asks for. -/
theorem answers (limits : Limits) (count : Nat) : limits.Answers count where
  counted := limits.attempts_called count
  given := by
    intro left exhausted
    have spent := Backoff.next_eq_exhausted_iff.mp exhausted
    rw [attempts_called, limits_called] at spent
    omega
  spent := by
    intro spent
    obtain ⟨_, said⟩ | ⟨left, _⟩ | ⟨left, _⟩ := (limits.called count).next_cases
    · exact said
    · rw [attempts_called, limits_called] at left
      omega
    · rw [attempts_called, limits_called] at left
      omega
  scheduled := by
    intro left sound
    rw [called_eq_waited (Nat.le_of_lt left) sound]
    obtain ⟨spent, _⟩ | ⟨_, beyond, said⟩ | ⟨_, held, said⟩ := (limits.waited count).next_cases
    · exact absurd left (Nat.not_lt_of_le spent)
    · rw [said]
      exact (if_pos beyond).symm
    · rw [said]
      exact (if_neg (Nat.not_lt_of_le held)).symm
  down := by
    intro down
    obtain ⟨_, said⟩ | ⟨_, _, said⟩ | ⟨_, _, said⟩ := (limits.called count).next_cases
    · rw [said] at down
      simp at down
    · rw [said]
    · rw [said] at down
      simp at down
  downAfter := by
    intro down later behind
    split
    · rename_i left
      exact next_called_of_overflow down behind left
    · rename_i spent
      rw [Backoff.next_eq_exhausted_iff, attempts_called, limits_called]
      omega

/-- The backoff of moderate limits can always double its delay. -/
theorem Moderate.next_called (moderate : limits.Moderate) (count : Nat) :
    (limits.called count).next.1 ≠ .overflow := by
  have called : (limits.called count).Moderate := by
    induction count with
    | zero => exact moderate.fresh
    | succ count inductionHypothesis => exact inductionHypothesis.next
  obtain ⟨_, said⟩ | ⟨_, said⟩ := called.next_cases
  · simp [said]
  · simp [said]

/-- So each delay is the one with the number of its call. -/
theorem Moderate.delay_of_wait (moderate : limits.Moderate) {count : Nat} {delay : Delay}
    (said : (limits.called count).next.1 = .wait delay) : delay = limits.delay count := by
  by_cases left : count < limits.attempts
  · have scheduled := (limits.answers count).scheduled left fun earlier _ =>
      moderate.next_called earlier
    rw [said] at scheduled
    split at scheduled
    · simp at scheduled
    · exact Advice.wait.inj scheduled
  · have spent := (limits.answers count).spent (Nat.le_of_not_lt left)
    simp [spent] at said

variable {steps : List Step}

/-- Advice in answer to a step is what the call with its number says. -/
theorem next_of_follow {place : Nat} {advice : Advice} {after : Backoff}
    (answered : (limits.fresh.follow steps)[place]? = some (some advice, after)) :
    (limits.called (calls (steps.take place))).next = (advice, after) := by
  have followed := limits.follow_called 0 steps place
  rw [called, answered] at followed
  obtain ⟨step, _, same⟩ := Option.map_eq_some_iff.mp followed.symm
  cases step with
  | next =>
    simp only [Backoff.perform, Prod.mk.injEq, Option.some.injEq] at same
    exact Prod.ext same.1 same.2
  | reset => simp [Backoff.perform] at same

theorem attempts_follow (answer : Option Advice × Backoff)
    (given : answer ∈ limits.fresh.follow steps) : answer.2.attempts <= limits.attempts := by
  obtain ⟨place, found⟩ := List.getElem?_of_mem given
  have followed := limits.follow_called 0 steps place
  rw [called, found] at followed
  obtain ⟨step, _, rfl⟩ := Option.map_eq_some_iff.mp followed.symm
  cases step with
  | next =>
    have counted := limits.attempts_called (callsFrom 0 (steps.take place) + 1)
    rw [called] at counted
    simp only [Backoff.perform, counted]
    exact Nat.min_le_right _ _
  | reset => exact Nat.zero_le _

/-- Every delay that is given lies within the limits of moderate settings. -/
theorem Moderate.within_of_follow (moderate : limits.Moderate)
    (ordered : limits.initial.nanoseconds <= limits.longest.nanoseconds) {delay : Delay}
    {after : Backoff} (given : (some (.wait delay), after) ∈ limits.fresh.follow steps) :
    limits.initial.nanoseconds <= delay.nanoseconds ∧
      delay.nanoseconds <= limits.longest.nanoseconds := by
  obtain ⟨place, found⟩ := List.getElem?_of_mem given
  rw [moderate.delay_of_wait (congrArg Prod.fst (next_of_follow found))]
  exact delay_within ordered _

/-- Until the next reset no delay is shorter than one before it. -/
theorem Moderate.mono_of_follow (moderate : limits.Moderate)
    (ordered : limits.initial.nanoseconds <= limits.longest.nanoseconds) {first later : Nat}
    (behind : first <= later)
    (asks : ∀ place, first <= place -> place < later -> steps[place]? = some .next)
    {delay longer : Delay} {after last : Backoff}
    (given : (limits.fresh.follow steps)[first]? = some (some (.wait delay), after))
    (givenLater : (limits.fresh.follow steps)[later]? = some (some (.wait longer), last)) :
    delay.nanoseconds <= longer.nanoseconds := by
  obtain ⟨more, rfl⟩ := Nat.exists_eq_add_of_le behind
  rw [moderate.delay_of_wait (congrArg Prod.fst (next_of_follow given)),
    moderate.delay_of_wait (congrArg Prod.fst (next_of_follow givenLater)),
    Backoff.calls_take_add asks]
  exact delay_mono ordered (Nat.le_add_right _ more)

/-- What a backoff does when it is asked and reset in any order. -/
structure Regular (limits : Limits) (steps : List Step) : Prop where
  /-- Each step is answered from where the calls since the last reset have led. -/
  follows : ∀ place, (limits.fresh.follow steps)[place]? =
    steps[place]?.map (limits.called (calls (steps.take place))).perform
  bounded : ∀ answer ∈ limits.fresh.follow steps, answer.2.attempts <= limits.attempts
  answers : ∀ count, limits.Answers count

end Limits

/-- What a backoff with settings in milliseconds does when it is asked and reset in any order. -/
structure Steady (reconnect : Config.Reconnect) (steps : List Backoff.Step) : Prop where
  sound : ∀ answer ∈ reconnect.limits.fresh.follow steps, answer.1 ≠ some .overflow
  within : reconnect.initial <= reconnect.longest -> ∀ (delay : Delay) (after : Backoff),
    (some (.wait delay), after) ∈ reconnect.limits.fresh.follow steps ->
      (Delay.ofMilliseconds reconnect.initial).nanoseconds <= delay.nanoseconds ∧
        delay.nanoseconds <= (Delay.ofMilliseconds reconnect.longest).nanoseconds
  /-- Delays do not decrease as long as no step between them is a reset. -/
  rising : reconnect.initial <= reconnect.longest ->
    ∀ (first later : Nat) (delay longer : Delay) (after last : Backoff), first <= later ->
      (∀ place, first <= place -> place < later -> steps[place]? = some .next) ->
        (reconnect.limits.fresh.follow steps)[first]? = some (some (.wait delay), after) ->
          (reconnect.limits.fresh.follow steps)[later]? = some (some (.wait longer), last) ->
            delay.nanoseconds <= longer.nanoseconds

namespace Limits

/-- Settings in milliseconds that are in order make limits that are. -/
theorem ordered_of_le {reconnect : Config.Reconnect}
    (ordered : reconnect.initial <= reconnect.longest) :
    reconnect.limits.initial.nanoseconds <= reconnect.limits.longest.nanoseconds :=
  Nat.mul_le_mul_right 1000000 ordered

/-- With any limits and any steps, what a backoff says follows from the number of calls since its
last reset. With settings of a configuration it never goes down, and its delays rise from the
initial one to the longest between any two resets. -/
theorem follow_regular (limits : Limits) (steps : List Backoff.Step) :
    limits.Regular steps ∧
      (∀ reconnect : Config.Reconnect, reconnect.Fits -> Steady reconnect steps) ∧
      ∀ document config, (Config.parse document).result = .ok config ->
        config.reconnect.Fits ∧ 0 < config.reconnect.initial ∧
          config.reconnect.initial <= config.reconnect.longest := by
  refine ⟨⟨limits.follow_called 0 steps, attempts_follow, limits.answers⟩, ?_, ?_⟩
  · intro reconnect fits
    have moderate := moderate_of_fits fits
    refine ⟨?_, ?_, ?_⟩
    · rintro ⟨advice?, after⟩ given rfl
      obtain ⟨place, found⟩ := List.getElem?_of_mem given
      exact moderate.next_called _ (congrArg Prod.fst (next_of_follow found))
    · intro ordered delay after given
      exact moderate.within_of_follow (ordered_of_le ordered) given
    · intro ordered first later delay longer after last behind asks given givenLater
      exact moderate.mono_of_follow (ordered_of_le ordered) behind asks given givenLater
  · intro document config parsed
    exact Config.reconnect_of_parse parsed

/-- The first delay can be doubled and the second cannot: it is never given, and the calls that
ask for it are used up all the same. -/
theorem follow_regular_overflowing :
    let limits : Limits := ⟨⟨Delay.longest.nanoseconds / 2⟩, Delay.longest, 3⟩
    (limits.called 0).next.1 = .wait ⟨Delay.longest.nanoseconds / 2⟩ ∧
      (limits.called 1).next.1 = .overflow ∧
      ∀ later, 1 <= later ->
        (limits.called later).next.1 = if later < 3 then .overflow else .exhausted := by
  intro limits
  have answers := (follow_regular limits []).1.answers
  have first := (answers 0).scheduled (by decide) (by simp)
  have given : (limits.called 0).next.1 = .wait ⟨Delay.longest.nanoseconds / 2⟩ := by
    rw [first]
    decide +kernel
  have second := (answers 1).scheduled (by decide) (by
    intro earlier before
    obtain rfl := Nat.lt_one_iff.mp before
    simp [given])
  have down : (limits.called 1).next.1 = .overflow := by
    rw [second]
    decide +kernel
  exact ⟨given, down, (answers 1).downAfter down⟩

end Limits

end StrategyHost.Retry
