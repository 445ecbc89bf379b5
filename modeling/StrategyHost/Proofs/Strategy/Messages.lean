import StrategyHost.Strategy.Run

/-!
# Messages and their callbacks

Which callback a message is for, by its channel and payload alone, and how many
messages of a list are for each kind. Every message is counted once.
-/

namespace StrategyHost.Strategy

open StrategyHost.Bus (Message)
open StrategyHost.Market (Tick)
open StrategyHost.Trade (Response)

/-- The callback that a message is for: its channel decides how the payload is read,
and a payload that cannot be read is for none. -/
def Callback.ofMessage? (responseChannel? : Option String) (message : Message) :
    Option Callback :=
  if responseChannel? = some message.channel then
    (Response.decode message.payload).toOption.map .response
  else (Tick.decode message.payload).toOption.map .tick

/-- Whether a message is for a callback. -/
def Callback.isReadable (responseChannel? : Option String) (message : Message) : Bool :=
  (ofMessage? responseChannel? message).isSome

/-- How many messages are for each kind of callback, and how many for none. -/
def Counts.ofMessages (responseChannel? : Option String) (messages : List Message) : Counts where
  ticks := messages.countP fun message =>
    Callback.ofMessage? responseChannel? message matches some (.tick _)
  responses := messages.countP fun message =>
    Callback.ofMessage? responseChannel? message matches some (.response _)
  faults := messages.countP fun message => (Callback.ofMessage? responseChannel? message).isNone

/-- Counts of what came before and of what came after. -/
def Counts.plus (first second : Counts) : Counts :=
  ⟨first.ticks + second.ticks, first.responses + second.responses, first.faults + second.faults⟩

namespace Callback

variable {responseChannel? : Option String} {message : Message}

/-- No message is for the first or the last callback. -/
theorem ofMessage?_cases {callback : Callback}
    (readable : ofMessage? responseChannel? message = some callback) :
    (exists tick, callback = .tick tick) ∨ (exists response, callback = .response response) := by
  unfold ofMessage? at readable
  split at readable
  · obtain ⟨response, _, rfl⟩ := Option.map_eq_some_iff.mp readable
    exact .inr ⟨response, rfl⟩
  · obtain ⟨tick, _, rfl⟩ := Option.map_eq_some_iff.mp readable
    exact .inl ⟨tick, rfl⟩

/-- The messages that can be read are for the same callbacks. -/
theorem filterMap_readable (responseChannel? : Option String) (messages : List Message) :
    (messages.filter (isReadable responseChannel?)).filterMap (ofMessage? responseChannel?) =
      messages.filterMap (ofMessage? responseChannel?) := by
  induction messages with
  | nil => rfl
  | cons message rest inductionHypothesis =>
    cases readable : ofMessage? responseChannel? message <;>
      simp [isReadable, readable, inductionHypothesis]

end Callback

namespace Counts

variable (responseChannel? : Option String)

/-- What one message adds to the counts. -/
def one (callback? : Option Callback) : Counts :=
  match callback? with
  | some (.tick _) => ⟨1, 0, 0⟩
  | some (.response _) => ⟨0, 1, 0⟩
  | some .init | some .exit => ⟨0, 0, 0⟩
  | none => ⟨0, 0, 1⟩

theorem ofMessages_cons (message : Message) (rest : List Message) :
    ofMessages responseChannel? (message :: rest) =
      (one (Callback.ofMessage? responseChannel? message)).plus
        (ofMessages responseChannel? rest) := by
  cases readable : Callback.ofMessage? responseChannel? message with
  | none => simp [ofMessages, one, plus, readable, Nat.add_comm]
  | some callback =>
    cases callback <;> simp [ofMessages, one, plus, readable, Nat.add_comm]

theorem plus_assoc (first second third : Counts) :
    (first.plus second).plus third = first.plus (second.plus third) := by
  simp [plus, Nat.add_assoc]

theorem plus_comm (first second : Counts) : first.plus second = second.plus first := by
  simp [plus, Nat.add_comm]

theorem zero_plus (counts : Counts) : (⟨0, 0, 0⟩ : Counts).plus counts = counts := by
  simp [plus]

theorem plus_zero (counts : Counts) : counts.plus ⟨0, 0, 0⟩ = counts := by
  simp [plus]

/-- Messages after others are counted on top of them. -/
theorem ofMessages_append (before after : List Message) :
    ofMessages responseChannel? (before ++ after) =
      (ofMessages responseChannel? before).plus (ofMessages responseChannel? after) := by
  induction before with
  | nil => exact (zero_plus _).symm
  | cons message rest inductionHypothesis =>
    rw [List.cons_append, ofMessages_cons, inductionHypothesis, ofMessages_cons, plus_assoc]

/-- Every message is counted once. -/
theorem total_ofMessages (messages : List Message) :
    (ofMessages responseChannel? messages).ticks + (ofMessages responseChannel? messages).responses
      + (ofMessages responseChannel? messages).faults = messages.length := by
  induction messages with
  | nil => rfl
  | cons message rest inductionHypothesis =>
    rw [ofMessages_cons, List.length_cons, ← inductionHypothesis]
    cases readable : Callback.ofMessage? responseChannel? message with
    | none =>
      simp only [one, plus]
      omega
    | some callback =>
      obtain ⟨tick, rfl⟩ | ⟨response, rfl⟩ := Callback.ofMessage?_cases readable
      · simp only [one, plus]
        omega
      · simp only [one, plus]
        omega

/-- Without the messages that cannot be read nothing changes but their number. -/
theorem ofMessages_readable (messages : List Message) :
    ofMessages responseChannel? (messages.filter (Callback.isReadable responseChannel?)) =
      { ofMessages responseChannel? messages with faults := 0 } := by
  induction messages with
  | nil => rfl
  | cons message rest inductionHypothesis =>
    cases readable : Callback.ofMessage? responseChannel? message with
    | none =>
      rw [List.filter_cons_of_neg (by simp [Callback.isReadable, readable]), inductionHypothesis,
        ofMessages_cons]
      simp [one, plus, readable]
    | some callback =>
      rw [List.filter_cons_of_pos (by simp [Callback.isReadable, readable]), ofMessages_cons,
        inductionHypothesis, ofMessages_cons, readable]
      obtain ⟨tick, rfl⟩ | ⟨response, rfl⟩ := Callback.ofMessage?_cases readable
      · simp [one, plus]
      · simp [one, plus]

end Counts

end StrategyHost.Strategy
