import Mathlib.Data.ENat.Lattice
import StrategyHost.Proofs.Retry.Moderate

/-!
# The schedule of a backoff

The delays that a backoff gives out one after the other until its next success, and the
outcomes that ask for one. `Limits.waited` is the only state that a backoff can be in after so
many delays, so what it says of an outcome depends on their number alone.
-/

namespace StrategyHost

/-- The shorter of two delays has the smaller number of nanoseconds. -/
theorem Delay.shorter_eq (left right : Delay) :
    left.shorter right = ⟨min left.nanoseconds right.nanoseconds⟩ := by
  unfold shorter
  split
  · rename_i within
    rw [Nat.min_eq_left within]
  · rename_i beyond
    rw [Nat.min_eq_right (Nat.le_of_not_le beyond)]

namespace Retry

namespace Limits

variable {limits : Limits}

/-- The delay that follows so many others: the initial one at first, then its double, the double
of that, and so on, but never more than the longest. -/
def delay (limits : Limits) : Nat -> Delay
  | 0 => limits.initial
  | count + 1 => Delay.shorter ⟨2 ^ (count + 1) * limits.initial.nanoseconds⟩ limits.longest

/-- A backoff that has given out so many delays since its last success. -/
def waited (limits : Limits) (count : Nat) : Backoff := ⟨limits, limits.delay count, count⟩

@[simp] theorem waited_zero (limits : Limits) : limits.waited 0 = limits.fresh := rfl

/-- Each delay is twice the one before it, up to the longest. -/
theorem delay_succ (limits : Limits) (count : Nat) : limits.delay (count + 1) =
    Delay.shorter ⟨2 * (limits.delay count).nanoseconds⟩ limits.longest := by
  cases count with
  | zero => rfl
  | succ count =>
    have doubled : 2 ^ (count + 1 + 1) * limits.initial.nanoseconds =
        2 * (2 ^ (count + 1) * limits.initial.nanoseconds) := by
      rw [Nat.pow_succ', Nat.mul_assoc]
    simp only [delay, Delay.shorter_eq, doubled, Delay.mk.injEq]
    omega

/-- No delay is shorter than the first or longer than the longest. -/
theorem delay_within (ordered : limits.initial.nanoseconds <= limits.longest.nanoseconds)
    (count : Nat) : limits.initial.nanoseconds <= (limits.delay count).nanoseconds ∧
      (limits.delay count).nanoseconds <= limits.longest.nanoseconds := by
  cases count with
  | zero => exact ⟨Nat.le_refl _, ordered⟩
  | succ count =>
    have grown : limits.initial.nanoseconds <= 2 ^ (count + 1) * limits.initial.nanoseconds :=
      Nat.le_mul_of_pos_left _ (Nat.two_pow_pos _)
    rw [delay, Delay.shorter_eq]
    exact ⟨Nat.le_min.mpr ⟨grown, ordered⟩, Nat.min_le_right _ _⟩

/-- No delay is shorter than one before it. -/
theorem delay_mono (ordered : limits.initial.nanoseconds <= limits.longest.nanoseconds)
    {first later : Nat} (behind : first <= later) :
    (limits.delay first).nanoseconds <= (limits.delay later).nanoseconds := by
  induction behind with
  | refl => exact Nat.le_refl _
  | @step later _ inductionHypothesis =>
    have bounded := (delay_within ordered later).2
    refine Nat.le_trans inductionHypothesis ?_
    rw [delay_succ, Delay.shorter_eq]
    exact Nat.le_min.mpr ⟨by simp only; omega, bounded⟩

theorem Moderate.delay (moderate : limits.Moderate) (count : Nat) :
    (limits.delay count).Moderate := by
  cases count with
  | zero => exact moderate.initial
  | succ count => exact moderate.longest.shorter

theorem Moderate.waited (moderate : limits.Moderate) (count : Nat) :
    (limits.waited count).Moderate :=
  ⟨moderate, moderate.delay count⟩

/-- Until its delays are used up a backoff gives out the next one. -/
theorem Moderate.next_waited (moderate : limits.Moderate) {count : Nat}
    (left : count < limits.attempts) :
    (limits.waited count).next = (.wait (limits.delay count), limits.waited (count + 1)) := by
  obtain ⟨spent, _⟩ | ⟨_, advised⟩ := (moderate.waited count).next_cases
  · exact absurd left (Nat.not_lt_of_le spent)
  · rw [advised, Limits.waited, Limits.waited, delay_succ]

/-- A backoff whose delays are used up stays as it is. -/
theorem next_waited_of_le {count : Nat} (spent : limits.attempts <= count) :
    (limits.waited count).next = (.exhausted, limits.waited count) :=
  if_pos spent

end Limits

/-- Whether trying again after an outcome may help. -/
def isTransient : Outcome -> Bool
  | .ok () => false
  | .error failure => failure.isTransient

/-- The failure by which an operation ends after so many delays. -/
def finalFailure (activity : String) (count : Nat) (failure : Failure) : Failure :=
  if failure.isTransient then exhaustion activity count failure else failure

namespace Limits

variable {limits : Limits}

/-- A transient outcome is answered by the next delay, if there is one left. -/
theorem Moderate.judge_waited (moderate : limits.Moderate) (activity : String) {count : Nat}
    {failure : Failure} (transient : failure.isTransient = true) (left : count < limits.attempts) :
    (limits.waited count).judge activity (.error failure) =
      (.wait (limits.delay count), limits.waited (count + 1)) := by
  simp [Backoff.judge, transient, moderate.next_waited left]

/-- Any other failure is final, and so is one for which there is no delay left. -/
theorem judge_waited_final (activity : String) {count : Nat} {failure : Failure}
    (final : failure.isTransient = true -> limits.attempts <= count) :
    (limits.waited count).judge activity (.error failure) =
      (.failed (finalFailure activity count failure), limits.waited count) := by
  by_cases transient : failure.isTransient = true
  · simp only [Backoff.judge, transient, if_true, next_waited_of_le (final transient),
      finalFailure]
    rfl
  · simp only [Backoff.judge, transient, finalFailure]
    rfl

end Limits

/-- The outcomes from one on are transient this many times in a row and then not, if ever. -/
def IsStreak (outcomes : Nat -> Outcome) (first : Nat) (length : ℕ∞) : Prop :=
  ∀ count : Nat, count <= length ↔ ∀ place < count, isTransient (outcomes (first + place)) = true

/-- However the outcomes come, they begin with a streak. -/
theorem exists_isStreak (outcomes : Nat -> Outcome) (first : Nat) :
    ∃ length, IsStreak outcomes first length := by
  by_cases ends : ∃ place, isTransient (outcomes (first + place)) = false
  · refine ⟨Nat.find ends, ?_⟩
    intro count
    rw [Nat.cast_le, Nat.le_find_iff]
    simp
  · refine ⟨⊤, ?_⟩
    intro count
    simp only [not_exists, Bool.not_eq_false] at ends
    simp [ends]

namespace IsStreak

variable {outcomes : Nat -> Outcome} {first : Nat} {length : ℕ∞}

/-- There is no doubt about how long a streak is. -/
theorem unique {other : ℕ∞} (streak : IsStreak outcomes first length)
    (also : IsStreak outcomes first other) : length = other :=
  ENat.eq_of_forall_natCast_le_iff fun count => (streak count).trans (also count).symm

/-- The part of a streak for which there are delays. It is cut short only if there are none
left. -/
theorem exists_waits (streak : IsStreak outcomes first length) (left : Nat) :
    ∃ waits : Nat, (waits : ℕ∞) = min length left ∧ waits <= left ∧
      (∀ place < waits, isTransient (outcomes (first + place)) = true) ∧
      (waits < left -> isTransient (outcomes (first + waits)) = false) := by
  obtain ⟨waits, same⟩ := ENat.ne_top_iff_exists.mp
    (ne_top_of_le_ne_top (ENat.natCast_ne_top left) (min_le_right length (left : ℕ∞)))
  have withinStreak : (waits : ℕ∞) <= length := same ▸ min_le_left length (left : ℕ∞)
  have withinLeft : (waits : ℕ∞) <= left := same ▸ min_le_right length (left : ℕ∞)
  have before := (streak waits).mp withinStreak
  refine ⟨waits, same, Nat.cast_le.mp withinLeft, before, ?_⟩
  intro remain
  by_contra goesOn
  -- Otherwise the streak would go on, and so would the delays.
  have further : ((waits + 1 : Nat) : ℕ∞) <= length := by
    apply (streak (waits + 1)).mpr
    intro place within
    rcases Nat.lt_succ_iff_lt_or_eq.mp within with earlier | rfl
    · exact before place earlier
    · simpa using goesOn
  have more : ((waits + 1 : Nat) : ℕ∞) <= waits := by
    rw [same]
    exact le_min further (Nat.cast_le.mpr remain)
  exact Nat.not_succ_le_self waits (Nat.cast_le.mp more)

end IsStreak

end Retry

end StrategyHost
