import StrategyHost.Proofs.Outbound.Drain
import StrategyHost.Proofs.Retry.Schedule

/-!
# The publisher's turns

When nobody can send any more the publisher deals with one command after the other. For each
it makes calls in a row, as many as the outcomes ask for and the limits allow, and begins anew
with the next. The outcomes are those of an endpoint that answers its calls in any way at all.
-/

namespace StrategyHost.Outbound

open StrategyHost.Bus (Message)
open StrategyHost.Journal (Entry)
open StrategyHost.Retry (Backoff IsStreak Limits Outcome finalFailure isTransient)

/-- An endpoint that answers its calls with these outcomes, writes to the log what belongs to
each call, and keeps what it is given. -/
def Endpoint.playing (outcomes : Nat -> Outcome) (notices : Nat -> List Entry) :
    Endpoint (List Message) where
  publish kept channel payload :=
    (outcomes kept.length, kept ++ [⟨channel, payload⟩], notices kept.length)

/-- What the publisher does for one command. -/
structure Turn where
  command : Command
  /-- The number of its first call. -/
  first : Nat
  /-- After how many calls there is a delay and another call. -/
  waits : Nat
  deriving DecidableEq, Repr

namespace Turn

/-- How often the command is handed to the endpoint. -/
def calls (turn : Turn) : Nat := turn.waits + 1

/-- What is handed to the endpoint: the same at every call. -/
def messages (turn : Turn) : List Message :=
  List.replicate turn.calls ⟨"trader_cmd", turn.command.payload⟩

/-- The delays, one between each call and the next. -/
def delays (turn : Turn) (limits : Limits) : List Delay :=
  (List.range turn.waits).map limits.delay

variable (turn : Turn) (limits : Limits) (outcomes : Nat -> Outcome)
  (notices : Nat -> List Entry)

/-- The outcome of the last call. -/
def outcome : Outcome := outcomes (turn.first + turn.waits)

/-- Whether the command is published in the end. -/
def isPublished : Bool := (turn.outcome outcomes).isOk

/-- What is logged about a command that is not published. -/
def errors : List Entry :=
  match turn.outcome outcomes with
  | .ok () => []
  | .error failure =>
    [.notPublished turn.command.userOrderId turn.command.ticker
      (finalFailure publishing turn.waits failure)]

/-- What is logged about the command in the end. -/
def conclusion : List Entry :=
  if turn.isPublished outcomes then [.published turn.command.userOrderId turn.command.ticker]
  else turn.errors outcomes

/-- What is logged at a call that is followed by a delay. -/
def warnings (place : Nat) : List Entry :=
  Backoff.entries publishing (outcomes (turn.first + place)) (.wait (limits.delay place))

/-- All that is logged, the notices of the calls included. -/
def entries : List Entry :=
  (List.range turn.waits).flatMap (fun place =>
      notices (turn.first + place) ++ turn.warnings limits outcomes place)
    ++ notices (turn.first + turn.waits) ++ turn.conclusion outcomes

/-- The turn has as many calls as its outcomes and the limits ask for: one for each of the
transient outcomes in a row with which it begins, as far as there are delays, and one more. -/
def IsDue : Prop :=
  ∃ length, IsStreak outcomes turn.first length ∧
    (turn.calls : ℕ∞) = min length limits.attempts + 1

/-- Account for the command. -/
def settle (publisher : Publisher) : Publisher :=
  if turn.isPublished outcomes then { publisher with published := publisher.published + 1 }
  else { publisher with failed := publisher.failed + 1 }

end Turn

namespace Turn

theorem length_messages (turn : Turn) : turn.messages.length = turn.calls :=
  List.length_replicate

/-- The last of the messages is that of the call which concludes the turn. -/
theorem messages_eq (turn : Turn) :
    turn.messages =
      List.replicate turn.waits turn.command.message ++ [turn.command.message] :=
  List.replicate_succ'

variable (outcomes : Nat -> Outcome)

/-- To account for a command changes nothing but one of the two counts. -/
theorem settle_eq (turn : Turn) (publisher : Publisher) :
    (turn.settle outcomes publisher).limits = publisher.limits ∧
      (turn.settle outcomes publisher).inFlight = publisher.inFlight ∧
      (turn.settle outcomes publisher).published =
        publisher.published + [turn].countP (isPublished · outcomes) ∧
      (turn.settle outcomes publisher).failed =
        publisher.failed + [turn].countP (!isPublished · outcomes) := by
  unfold settle
  cases succeeds : turn.isPublished outcomes <;> simp [succeeds]

/-- To account for all commands changes nothing but the two counts. -/
theorem foldl_settle_eq (turns : List Turn) (publisher : Publisher) :
    (turns.foldl (fun publisher turn => turn.settle outcomes publisher) publisher).inFlight =
        publisher.inFlight ∧
      (turns.foldl (fun publisher turn => turn.settle outcomes publisher) publisher).published =
        publisher.published + turns.countP (isPublished · outcomes) ∧
      (turns.foldl (fun publisher turn => turn.settle outcomes publisher) publisher).failed =
        publisher.failed + turns.countP (!isPublished · outcomes) := by
  induction turns generalizing publisher with
  | nil => exact ⟨rfl, rfl, rfl⟩
  | cons turn turns inductionHypothesis =>
    obtain ⟨_, inFlight, published, failed⟩ := turn.settle_eq outcomes publisher
    obtain ⟨inFlightAll, publishedAll, failedAll⟩ :=
      inductionHypothesis (turn.settle outcomes publisher)
    refine ⟨inFlightAll.trans inFlight, ?_, ?_⟩
    · rw [List.foldl_cons, publishedAll, published, Nat.add_assoc, ← List.countP_append]
      rfl
    · rw [List.foldl_cons, failedAll, failed, Nat.add_assoc, ← List.countP_append]
      rfl

end Turn

namespace Drained

variable {State : Type} (drained : Drained State)

theorem preceded_nil : drained.preceded [] [] = drained := rfl

theorem preceded_preceded (delays earlier : List Delay) (entries before : List Entry) :
    (drained.preceded delays entries).preceded earlier before =
      drained.preceded (earlier ++ delays) (before ++ entries) := by
  simp [preceded]

end Drained

namespace Publisher

variable {limits : Limits} (outcomes : Nat -> Outcome) (notices : Nat -> List Entry)
  {command : Command}

/-- A transient outcome for which there is a delay left is followed by that delay and another
call. -/
theorem drain_of_wait (moderate : limits.Moderate) (publisher : Publisher) (queue : Queue)
    {kept : List Message} {count : Nat} (left : count < limits.attempts)
    (transient : isTransient (outcomes kept.length) = true) :
    { publisher with inFlight := some (command, limits.waited count) }.drain
        (.playing outcomes notices) kept queue =
      ({ publisher with inFlight := some (command, limits.waited (count + 1)) }.drain
        (.playing outcomes notices) (kept ++ [command.message]) queue).preceded
          [limits.delay count]
          (notices kept.length ++
            Backoff.entries publishing (outcomes kept.length) (.wait (limits.delay count))) := by
  let waiting : Publisher := { publisher with inFlight := some (command, limits.waited count) }
  have step := drain_of_inFlight (.playing outcomes notices) kept queue
    (rfl : waiting.inFlight = some (command, limits.waited count))
  cases outcome : outcomes kept.length with
  | ok => simp [outcome, isTransient] at transient
  | error failure =>
    rw [outcome] at transient
    have judged := moderate.judge_waited publishing transient left
    simpa [Endpoint.playing, outcome, attempt, judged, delaysOf, waiting] using step

/-- As long as the outcomes are transient and there are delays left, the calls go on. -/
theorem drain_of_waits (moderate : limits.Moderate) (publisher : Publisher) (queue : Queue)
    (turn : Turn) {kept : List Message} (first : turn.first = kept.length) {waits : Nat}
    (within : waits <= limits.attempts)
    (transient : ∀ place < waits, isTransient (outcomes (kept.length + place)) = true) :
    { publisher with inFlight := some (turn.command, limits.fresh) }.drain
        (.playing outcomes notices) kept queue =
      ({ publisher with inFlight := some (turn.command, limits.waited waits) }.drain
        (.playing outcomes notices) (kept ++ List.replicate waits turn.command.message)
          queue).preceded ((List.range waits).map limits.delay)
            ((List.range waits).flatMap fun place =>
              notices (turn.first + place) ++ turn.warnings limits outcomes place) := by
  induction waits with
  | zero => simp [Drained.preceded_nil]
  | succ waits inductionHypothesis =>
    have before := inductionHypothesis (Nat.le_of_succ_le within)
      fun place earlier => transient place (Nat.lt_succ_of_lt earlier)
    have length : (kept ++ List.replicate waits turn.command.message).length =
        turn.first + waits := by
      simp [first]
    have last : isTransient
        (outcomes (kept ++ List.replicate waits turn.command.message).length) = true := by
      rw [length, first]
      exact transient waits (Nat.lt_succ_self waits)
    rw [before, drain_of_wait outcomes notices moderate publisher queue within last,
      Drained.preceded_preceded, length, List.range_succ, List.map_append, List.flatMap_append,
      List.replicate_succ', List.append_assoc]
    simp [Turn.warnings]

/-- An outcome that is not transient, or for which there is no delay left, concludes a turn. -/
theorem drain_of_last {publisher : Publisher} (idle : publisher.inFlight = none) (queue : Queue)
    (turn : Turn) {kept : List Message} (last : turn.first + turn.waits = kept.length)
    (final : isTransient (outcomes kept.length) = true -> limits.attempts <= turn.waits) :
    { publisher with inFlight := some (turn.command, limits.waited turn.waits) }.drain
        (.playing outcomes notices) kept queue =
      ((turn.settle outcomes publisher).drain (.playing outcomes notices)
        (kept ++ [turn.command.message]) queue).preceded []
          (notices kept.length ++ turn.conclusion outcomes) := by
  obtain ⟨own, inFlight, published, failed⟩ := publisher
  obtain rfl : inFlight = none := idle
  let waiting : Publisher :=
    ⟨own, some (turn.command, limits.waited turn.waits), published, failed⟩
  have step := drain_of_inFlight (.playing outcomes notices) kept queue
    (rfl : waiting.inFlight = some (turn.command, limits.waited turn.waits))
  have outcome : turn.outcome outcomes = outcomes kept.length := by rw [Turn.outcome, last]
  cases answer : outcomes kept.length with
  | ok =>
    simpa [Endpoint.playing, answer, attempt, Backoff.judge, delaysOf, waiting, outcome,
      Turn.settle, Turn.isPublished, Turn.conclusion, Except.isOk, Except.toBool] using step
  | error failure =>
    rw [answer] at final
    have judged := Limits.judge_waited_final publishing final
    simpa [Endpoint.playing, answer, attempt, judged, delaysOf, waiting, outcome,
      Turn.settle, Turn.isPublished, Turn.conclusion, Turn.errors, Except.isOk,
      Except.toBool] using step

/-- The publisher deals with the oldest command in the turn that is due, and goes on with the
others. -/
theorem drain_of_turn (moderate : limits.Moderate) {publisher : Publisher}
    (idle : publisher.inFlight = none) (own : publisher.limits = limits) {queue : Queue}
    {rest : List Command} (waiting : queue.waiting = command :: rest) (kept : List Message) :
    ∃ turn : Turn, turn.command = command ∧ turn.first = kept.length ∧
      turn.IsDue limits outcomes ∧
      publisher.drain (.playing outcomes notices) kept queue =
        ((turn.settle outcomes publisher).drain (.playing outcomes notices)
          (kept ++ turn.messages) { queue with waiting := rest }).preceded
            (turn.delays limits) (turn.entries limits outcomes notices) := by
  obtain ⟨length, streak⟩ := Retry.exists_isStreak outcomes kept.length
  obtain ⟨waits, same, within, transient, ends⟩ := streak.exists_waits limits.attempts
  let turn : Turn := ⟨command, kept.length, waits⟩
  let others : Queue := { queue with waiting := rest }
  have took : publisher.take? queue =
      some ({ publisher with inFlight := some (command, limits.fresh) }, others) := by
    simp [take?, idle, Queue.take?, waiting, own, others]
  have reached : (kept ++ List.replicate waits command.message).length = kept.length + waits := by
    simp
  have final : isTransient (outcomes (kept ++ List.replicate waits command.message).length) = true
      -> limits.attempts <= waits := by
    rw [reached]
    intro goesOn
    by_contra remain
    simp [ends (Nat.lt_of_not_le remain)] at goesOn
  have waited := drain_of_waits outcomes notices moderate publisher others turn rfl within
    transient
  have concluded := drain_of_last outcomes notices idle others turn reached.symm final
  refine ⟨turn, rfl, rfl, ⟨length, streak, ?_⟩, ?_⟩
  · simp only [turn, Turn.calls, Nat.cast_add, Nat.cast_one, same]
  · rw [drain_of_take _ _ idle took, waited, concluded, Drained.preceded_preceded, reached]
    simp [turn, Turn.messages_eq, Turn.delays, Turn.entries, others]

end Publisher

/-- These turns are all that the publisher does from where it stands. -/
structure Publisher.Takes (limits : Limits) (outcomes : Nat -> Outcome)
    (notices : Nat -> List Entry) (publisher : Publisher) (kept : List Message) (queue : Queue)
    (turns : List Turn) : Prop where
  commands : turns.map Turn.command = queue.waiting
  consecutive : ∀ before turn after, turns = before ++ turn :: after ->
    turn.first = kept.length + (before.map Turn.calls).sum
  due : ∀ turn ∈ turns, turn.IsDue limits outcomes
  drained : publisher.drain (.playing outcomes notices) kept queue =
    let last := turns.foldl (fun publisher turn => turn.settle outcomes publisher) publisher
    ⟨last, kept ++ turns.flatMap Turn.messages, turns.flatMap fun turn => turn.delays limits,
      (turns.flatMap fun turn => turn.entries limits outcomes notices) ++
        [.publisherDone last.published last.failed], false⟩

namespace Publisher

variable {limits : Limits} (outcomes : Nat -> Outcome) (notices : Nat -> List Entry)

/-- Whatever waits, the publisher takes turns for it. -/
theorem exists_takes (moderate : limits.Moderate) {publisher : Publisher}
    (idle : publisher.inFlight = none) (own : publisher.limits = limits) (kept : List Message)
    (queue : Queue) : ∃ turns, Takes limits outcomes notices publisher kept queue turns := by
  cases queue with
  | mk capacity waiting isOpen =>
    induction waiting generalizing publisher kept with
    | nil =>
      have empty : publisher.take? ⟨capacity, [], isOpen⟩ = none :=
        (take?_eq_none_iff idle).mpr rfl
      refine ⟨[], rfl, by simp, by simp, ?_⟩
      rw [drain_of_empty _ _ idle empty]
      simp
    | cons command rest inductionHypothesis =>
      have waiting : (⟨capacity, command :: rest, isOpen⟩ : Queue).waiting = command :: rest := rfl
      obtain ⟨turn, first, begins, due, drained⟩ :=
        drain_of_turn outcomes notices moderate idle own waiting kept
      obtain ⟨limitsKept, inFlight, _, _⟩ := turn.settle_eq outcomes publisher
      obtain ⟨turns, commands, consecutive, allDue, drainedRest⟩ :=
        inductionHypothesis (inFlight.trans idle) (limitsKept.trans own) (kept ++ turn.messages)
      refine ⟨turn :: turns, by rw [List.map_cons, first, commands], ?_, ?_, ?_⟩
      · intro before later after split
        cases before with
        | nil =>
          obtain ⟨rfl, _⟩ := List.cons.inj split
          exact begins
        | cons earliest before =>
          obtain ⟨rfl, others⟩ := List.cons.inj split
          rw [consecutive before later after others, List.length_append, turn.length_messages,
            List.map_cons, List.sum_cons, Nat.add_assoc]
      · simpa using ⟨due, allDue⟩
      · rw [drained, drainedRest]
        simp [Drained.preceded]

end Publisher

namespace Turn

variable {limits : Limits} {outcomes : Nat -> Outcome} {notices : Nat -> List Entry}

/-- A turn is determined by its command and its first call. -/
theorem IsDue.unique {turn other : Turn} (due : turn.IsDue limits outcomes)
    (also : other.IsDue limits outcomes) (command : other.command = turn.command)
    (first : other.first = turn.first) : other = turn := by
  obtain ⟨length, streak, calls⟩ := due
  obtain ⟨otherLength, otherStreak, otherCalls⟩ := also
  obtain ⟨_, _, waits⟩ := turn
  obtain ⟨_, _, otherWaits⟩ := other
  simp only at command first
  subst command first
  obtain rfl := streak.unique otherStreak
  rw [← calls, Nat.cast_inj] at otherCalls
  obtain rfl := Nat.succ.inj otherCalls
  rfl

/-- The turn as the first one that an endpoint sees. -/
def moved (turn : Turn) : Turn := { turn with first := 0 }

/-- A turn is due wherever the outcomes that it meets begin. -/
theorem IsDue.moved {turn : Turn} (due : turn.IsDue limits outcomes) :
    turn.moved.IsDue limits fun call => outcomes (turn.first + call) := by
  obtain ⟨length, streak, calls⟩ := due
  refine ⟨length, ?_, calls⟩
  simpa [IsStreak, Turn.moved] using streak

theorem outcome_moved (turn : Turn) (outcomes : Nat -> Outcome) :
    turn.moved.outcome (fun call => outcomes (turn.first + call)) = turn.outcome outcomes := by
  simp [outcome, Turn.moved]

theorem isPublished_moved (turn : Turn) (outcomes : Nat -> Outcome) :
    turn.moved.isPublished (fun call => outcomes (turn.first + call)) =
      turn.isPublished outcomes := by
  rw [isPublished, outcome_moved, isPublished]

/-- Where its outcomes begin makes no difference to what is logged. -/
theorem entries_moved (turn : Turn) (outcomes : Nat -> Outcome) (notices : Nat -> List Entry) :
    turn.moved.entries limits (fun call => outcomes (turn.first + call))
        (fun call => notices (turn.first + call)) =
      turn.entries limits outcomes notices := by
  have concludes : turn.moved.conclusion (fun call => outcomes (turn.first + call)) =
      turn.conclusion outcomes := by
    unfold conclusion errors
    rw [isPublished_moved, outcome_moved]
    rfl
  rw [entries, concludes, entries]
  simp [Turn.moved, warnings]

/-- A publisher that is given one command and the outcomes from a turn on takes this turn. -/
theorem IsDue.drain {turn : Turn} (due : turn.IsDue limits outcomes) (moderate : limits.Moderate)
    (capacity : Nat) (isOpen : Bool) :
    let drained := (Publisher.idle limits).drain
      (.playing (fun call => outcomes (turn.first + call)) fun call => notices (turn.first + call))
      [] ⟨capacity, [turn.command], isOpen⟩
    drained.state = turn.messages ∧ drained.delays = turn.delays limits ∧
      drained.entries = turn.entries limits outcomes notices ++
        [.publisherDone drained.publisher.published drained.publisher.failed] ∧
      drained.publisher.published = if turn.isPublished outcomes then 1 else 0 := by
  intro drained
  obtain ⟨turns, commands, consecutive, allDue, takes⟩ := Publisher.exists_takes
    (fun call => outcomes (turn.first + call)) (fun call => notices (turn.first + call)) moderate
    (rfl : (Publisher.idle limits).inFlight = none) rfl [] ⟨capacity, [turn.command], isOpen⟩
  obtain ⟨lone, rfl, command⟩ := List.map_eq_singleton_iff.mp commands
  have first : lone.first = 0 := consecutive [] lone [] rfl
  obtain rfl := due.moved.unique (allDue lone (List.mem_singleton.mpr rfl)) command first
  have same : drained = _ := takes
  rw [same]
  refine ⟨?_, ?_, ?_, ?_⟩
  · simp [messages, calls, Turn.moved]
  · simp [delays, Turn.moved]
  · simp [entries_moved]
  · simp only [List.foldl_cons, List.foldl_nil, settle, isPublished_moved]
    split <;> rfl

/-- The only error that is logged in a turn is that its command is not published. -/
theorem filter_entries (turn : Turn) (outcomes : Nat -> Outcome)
    (quiet : ∀ call, ∀ entry ∈ notices call, entry.level ≠ .error) :
    (turn.entries limits outcomes notices).filter (·.level = .error) = turn.errors outcomes := by
  have noticed (call : Nat) : (notices call).filter (·.level = .error) = [] := by
    simpa using quiet call
  have warned (place : Nat) : (turn.warnings limits outcomes place).filter (·.level = .error) =
      [] := by
    unfold warnings Backoff.entries
    split
    · rfl
    · rfl
  have concluded : (turn.conclusion outcomes).filter (·.level = .error) = turn.errors outcomes := by
    unfold conclusion errors isPublished
    cases turn.outcome outcomes with
    | ok => rfl
    | error failure => rfl
  rw [entries, List.filter_append, List.filter_append, noticed, concluded, List.filter_flatMap]
  simp [List.filter_append, noticed, warned]

end Turn

/-- What the publisher leaves behind of a queue that nobody adds to, in terms of its turns. -/
structure Turn.Log (limits : Limits) (outcomes : Nat -> Outcome) (notices : Nat -> List Entry)
    (queue : Queue) (turns : List Turn) (drained : Drained (List Message)) : Prop where
  /-- There is one turn for each command, in the order of the queue. -/
  commands : turns.map Turn.command = queue.waiting
  /-- Each turn begins with the call after those of the turns before it. -/
  consecutive : ∀ before turn after, turns = before ++ turn :: after ->
    turn.first = (before.map Turn.calls).sum
  due : ∀ turn ∈ turns, turn.IsDue limits outcomes
  calls : drained.state = turns.flatMap Turn.messages
  delays : drained.delays = turns.flatMap fun turn => turn.delays limits
  published : drained.publisher.published = turns.countP fun turn => turn.isPublished outcomes
  failed : drained.publisher.failed = turns.countP fun turn => !turn.isPublished outcomes
  settled : drained.publisher.published + drained.publisher.failed = queue.waiting.length
  entries : drained.entries = (turns.flatMap fun turn => turn.entries limits outcomes notices) ++
    [.publisherDone drained.publisher.published drained.publisher.failed]
  /-- There is one error for each command that is not published, if the calls log none. -/
  errors : (∀ call, ∀ entry ∈ notices call, entry.level ≠ .error) ->
    drained.entries.filter (·.level = .error) = turns.flatMap fun turn => turn.errors outcomes
  complete : drained.publisher.inFlight = none ∧ drained.overflowed = false
  /-- No turn depends on what became of the commands before it: a publisher that is given its
  command alone and the outcomes from its first call on does the same. -/
  alone : ∀ turn ∈ turns, ∀ capacity isOpen,
    let drained := (Publisher.idle limits).drain
      (.playing (fun call => outcomes (turn.first + call)) fun call => notices (turn.first + call))
      [] ⟨capacity, [turn.command], isOpen⟩
    drained.state = turn.messages ∧ drained.delays = turn.delays limits ∧
      drained.entries = turn.entries limits outcomes notices ++
        [.publisherDone drained.publisher.published drained.publisher.failed] ∧
      drained.publisher.published = if turn.isPublished outcomes then 1 else 0

namespace Publisher

/-- Whatever waits and however the endpoint answers, the publisher takes one turn after the other
until nothing is left. -/
theorem turns_of_drain {reconnect : Config.Reconnect} (fits : reconnect.Fits)
    (outcomes : Nat -> Outcome) (notices : Nat -> List Entry) (queue : Queue) :
    ∃ turns, Turn.Log reconnect.limits outcomes notices queue turns
      ((idle reconnect.limits).drain (.playing outcomes notices) [] queue) := by
  have moderate := Limits.moderate_of_fits fits
  obtain ⟨turns, commands, consecutive, due, drained⟩ := exists_takes outcomes notices moderate
    (rfl : (idle reconnect.limits).inFlight = none) rfl [] queue
  obtain ⟨inFlight, published, failed⟩ :=
    Turn.foldl_settle_eq outcomes turns (idle reconnect.limits)
  have settled : turns.length = turns.countP (Turn.isPublished · outcomes) +
      turns.countP (!Turn.isPublished · outcomes) := by
    simpa using List.length_eq_countP_add_countP (Turn.isPublished · outcomes)
  rw [drained]
  simp only [idle, Nat.zero_add] at inFlight published failed
  refine ⟨turns, commands, ?_, due, rfl, rfl, published, failed, ?_, rfl, ?_, ⟨inFlight, rfl⟩, ?_⟩
  · simpa using consecutive
  · simp only [idle, published, failed, ← commands, List.length_map]
    simpa using settled.symm
  · intro quiet
    simp only [List.filter_append, List.filter_flatMap, Turn.filter_entries _ outcomes quiet]
    simp [Entry.level]
  · intro turn member capacity isOpen
    exact (due turn member).drain moderate capacity isOpen

/-- The second call succeeds and no other one does. The first command is published at its second
call, and the second command is given up after three delays. -/
theorem turns_of_drain_exhausted :
    let outcomes (call : Nat) : Outcome :=
      if call = 1 then .ok () else .error (.connection "broker down")
    let first : Command := ⟨7, "IF2309", [1]⟩
    let second : Command := ⟨8, "rb2310", [2]⟩
    let reconnect : Config.Reconnect := ⟨100, 250, 3⟩
    let drained := (idle reconnect.limits).drain (.playing outcomes fun _ => []) []
      ⟨4, [first, second], true⟩
    reconnect.Fits ∧
      drained.state = List.replicate 2 ⟨"trader_cmd", [1]⟩ ++
        List.replicate 4 ⟨"trader_cmd", [2]⟩ ∧
      drained.delays = [100, 100, 200, 250].map Delay.ofMilliseconds ∧
      drained.publisher.published = 1 ∧ drained.publisher.failed = 1 ∧
      drained.entries.filter (·.level = .error) =
        [.notPublished 8 "rb2310" (.connection
          "publish command failed after 3 attempts: connection error: broker down")] := by
  intro outcomes first second reconnect drained
  have fits : reconnect.Fits := ⟨by decide, by decide, by decide⟩
  obtain ⟨turns, log⟩ := turns_of_drain fits outcomes (fun _ => []) ⟨4, [first, second], true⟩
  -- Which turns these are follows from where they begin.
  obtain ⟨one, others, rfl, commandOne, commands⟩ := List.map_eq_cons_iff.mp log.commands
  obtain ⟨two, rfl, commandTwo⟩ := List.map_eq_singleton_iff.mp commands
  have dueOne : (⟨first, 0, 1⟩ : Turn).IsDue reconnect.limits outcomes := by
    refine ⟨1, ?_, rfl⟩
    intro count
    constructor
    · intro within place earlier
      have lone : count <= 1 := by exact_mod_cast within
      obtain rfl : place = 0 := by omega
      rfl
    · intro transient
      by_contra beyond
      have more : 1 < count := by exact_mod_cast not_le.mp beyond
      cases transient 1 more
  have dueTwo : (⟨second, 2, 3⟩ : Turn).IsDue reconnect.limits outcomes := by
    refine ⟨⊤, ?_, rfl⟩
    intro count
    have failing (place : Nat) : isTransient (outcomes (2 + place)) = true := by
      have later : 2 + place ≠ 1 := by omega
      simp [outcomes, later, isTransient, Failure.isTransient]
    simp [failing]
  obtain rfl := dueOne.unique (log.due one (by simp)) commandOne (log.consecutive [] one _ rfl)
  obtain rfl := dueTwo.unique (log.due two (by simp)) commandTwo (log.consecutive [_] two [] rfl)
  have wording : finalFailure publishing 3 (.connection "broker down") = .connection
      "publish command failed after 3 attempts: connection error: broker down" := by
    decide +kernel
  have errors := log.errors (by simp)
  rw [← wording]
  exact ⟨fits, log.calls, log.delays.trans (by decide +kernel), log.published, log.failed, errors⟩

end Publisher

end StrategyHost.Outbound
