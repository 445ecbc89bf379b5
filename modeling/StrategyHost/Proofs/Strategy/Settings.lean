import StrategyHost.Proofs.Strategy.Changes
import StrategyHost.Proofs.Strategy.Requests
import StrategyHost.Strategy.Plan
import Mathlib.Data.List.Forall2

/-!
# Runs beside a queue that others use

A run over a feed together with what becomes of the outbound queue between its callbacks. If what a
strategy remembers and subscribes to does not depend on what becomes of its orders, then nothing
else that can be seen of the run depends on the queue (`Host.alike_hosting`).
-/

namespace StrategyHost.Strategy

open StrategyHost.Outbound (Queue)

/-- What a program can leave and result in, if each of its requests may find any queue. -/
inductive Program.Reaches {Result : Type} : Desk -> Program Result -> Desk -> Result -> Prop where
  | done {desk : Desk} {result : Result} : Reaches desk (.done result) desk result
  | act {desk left : Desk} {request : Request} {next : request.Reply -> Program Result}
      {result : Result} (queue : Queue)
      (rest : Reaches (desk.perform queue request).desk
        (next (desk.perform queue request).reply) left result) :
      Reaches desk (.act request next) left result

/-- To run a program is one way. -/
theorem Program.reaches_run {Result : Type} (program : Program Result) (desk : Desk)
    (queue : Queue) :
    Reaches desk program (program.run desk queue).desk (program.run desk queue).result := by
  induction program generalizing desk queue with
  | done result => exact .done
  | act request next inductionHypothesis => exact .act queue (inductionHypothesis _ _ _)

variable {Memory State : Type}

/-- Whether what a strategy remembers and what it subscribes to is the same whatever becomes of its
orders. -/
def IsIndifferent (strategy : Strategy Memory) : Prop :=
  ∀ memory callback desk left other result different,
    Program.Reaches desk (strategy.program memory callback) left result ->
      Program.Reaches desk (strategy.program memory callback) other different ->
        left = other ∧ result = different

/-- Requests of a plan that are performed lead to the same whatever the replies are. -/
theorem Plan.reaches_perform_unique {Result : Type} {requests : List Request} {value : Result}
    {desk left other : Desk} {result different : Result}
    (first : Program.Reaches desk (perform requests >>= fun _ => pure value) left result)
    (second : Program.Reaches desk (perform requests >>= fun _ => pure value) other different) :
    left = other ∧ result = different := by
  induction requests generalizing desk with
  | nil =>
    change Program.Reaches desk (.done value) _ _ at first second
    cases first
    cases second
    exact ⟨rfl, rfl⟩
  | cons request rest inductionHypothesis =>
    change Program.Reaches desk (.act request fun _ => perform rest >>= fun _ => pure value) _ _
      at first second
    cases first with
    | act queue reached =>
      cases second with
      | act beside alsoReached =>
        have sameDesk (reply : request.Reply) :
            (desk.perform beside request).desk = (desk.perform queue request).desk :=
          (desk.desk_perform beside request reply).trans
            (desk.desk_perform queue request reply).symm
        rw [sameDesk (desk.perform queue request).reply] at alsoReached
        exact inductionHypothesis reached alsoReached

/-- A plan is indifferent: it does not even look at the replies. -/
theorem Plan.isIndifferent (plan : Plan) : IsIndifferent plan.strategy := by
  intro progress callback desk left other result different first second
  cases callback <;> exact reaches_perform_unique first second

/-- The tickers that a strategy asks for, in the order in which it does. -/
def tickersOf (occurrences : List Occurrence) : List String :=
  occurrences.flatMap fun
    | .performed (.subscribe tickers) _ => tickers
    | _ => []

/-- The subscriptions that the bus is asked for. -/
def askedOf (occurrences : List Occurrence) : List (List String) :=
  occurrences.filterMap fun
    | .asked channels => some channels
    | _ => none

/-- Whether the same callbacks are called, the same tickers are asked for, and the same is
subscribed to. -/
structure SameCourse (first second : List Occurrence) : Prop where
  called : callbacksOf first = callbacksOf second
  requested : tickersOf first = tickersOf second
  asked : askedOf first = askedOf second

namespace SameCourse

theorem refl (occurrences : List Occurrence) : SameCourse occurrences occurrences :=
  ⟨rfl, rfl, rfl⟩

theorem append {first second before after : List Occurrence} (earlier : SameCourse first second)
    (later : SameCourse before after) : SameCourse (first ++ before) (second ++ after) where
  called := by rw [callbacksOf_append, callbacksOf_append, earlier.called, later.called]
  requested := by
    have asked := earlier.requested
    have more := later.requested
    simp only [tickersOf, List.flatMap_append] at asked more ⊢
    rw [asked, more]
  asked := by
    have asked := earlier.asked
    have more := later.asked
    simp only [askedOf, List.filterMap_append] at asked more ⊢
    rw [asked, more]

end SameCourse

/-- The channels that are asked for are those of the tickers. -/
theorem requestsOf_eq_map (channelPrefix : String) (occurrences : List Occurrence) :
    requestsOf channelPrefix occurrences = (tickersOf occurrences).map (channelPrefix ++ ·) := by
  rw [requestsOf, tickersOf, List.map_flatMap]
  congr 1
  funext occurrence
  cases occurrence with
  | performed request reply => cases request <;> rfl
  | _ => rfl

/-- Nothing but the tickers that a program asks for tells what it leaves at the desk. -/
theorem Program.tickersOf_run_eq {First Second : Type} {first : Program First}
    {second : Program Second} {desk : Desk} {queue other : Queue}
    (same : (first.run desk queue).desk = (second.run desk other).desk) :
    tickersOf (first.run desk queue).occurrences =
      tickersOf (second.run desk other).occurrences := by
  rw [desk_run, desk_run] at same
  have requested := congrArg Desk.requested same
  simp only [Desk.asking, List.append_cancel_left_eq, requestsOf_eq_map] at requested
  exact (List.map_inj_right fun _ _ => (String.append_right_inj desk.channelPrefix).mp).mp requested

/-- A program asks the bus for nothing itself. -/
theorem Program.askedOf_run {Result : Type} (program : Program Result) (desk : Desk)
    (queue : Queue) : askedOf (program.run desk queue).occurrences = [] := by
  induction program generalizing desk queue with
  | done result => rfl
  | act request next inductionHypothesis =>
    have written (entries : List Journal.Entry) : askedOf (entries.map .logged) = [] := by
      simp [askedOf]
    have later := inductionHypothesis (desk.perform queue request).reply
      (desk.perform queue request).desk (desk.perform queue request).queue
    simp only [askedOf] at written later ⊢
    rw [run, List.filterMap_append, written]
    exact later

/-- The programs of an indifferent strategy take the same course beside any queues. -/
theorem IsIndifferent.run {strategy : Strategy Memory} (indifferent : IsIndifferent strategy)
    (memory : Memory) (callback : Callback) (desk : Desk) (queue other : Queue) :
    let first := (strategy.program memory callback).run desk queue
    let second := (strategy.program memory callback).run desk other
    first.desk = second.desk ∧ first.result = second.result ∧
      SameCourse first.occurrences second.occurrences := by
  intro first second
  obtain ⟨desks, results⟩ := indifferent memory callback desk _ _ _ _
    (Program.reaches_run _ desk queue) (Program.reaches_run _ desk other)
  refine ⟨desks, results, ?_, Program.tickersOf_run_eq desks, ?_⟩
  · rw [Program.callbacksOf_run, Program.callbacksOf_run]
  · rw [Program.askedOf_run, Program.askedOf_run]

namespace Change

/-- Whether a change does the same to a run whatever the queue is. -/
def IgnoresQueue (change : Change Memory) (run : Run Memory) : Prop :=
  ∀ queue, ∃ after, (change { run with queue := queue }).1 =
      { (change run).1 with queue := after } ∧
    SameCourse (change run).2 (change { run with queue := queue }).2

variable {strategy : Strategy Memory} {first second change : Change Memory} {run : Run Memory}

theorem IgnoresQueue.andThen (before : first.IgnoresQueue run)
    (after : second.IgnoresQueue (first run).1) : (first.andThen second).IgnoresQueue run := by
  intro queue
  obtain ⟨between, sameMiddle, earlier⟩ := before queue
  obtain ⟨left, sameLast, later⟩ := after between
  refine ⟨left, ?_, ?_⟩
  · simp only [Change.andThen, sameMiddle, sameLast]
  · simp only [Change.andThen, sameMiddle]
    exact earlier.append later

theorem IsSilent.ignoresQueue (silent : change.IsSilent) : change.IgnoresQueue run := by
  intro queue
  rw [silent.apart run queue]
  exact ⟨queue, rfl, .refl _⟩

theorem ignoresQueue_call (indifferent : IsIndifferent strategy) (callback : Callback) :
    (call strategy callback).IgnoresQueue run := by
  intro queue
  obtain ⟨desks, results, course⟩ :=
    indifferent.run run.host.memory callback run.host.desk run.queue queue
  refine ⟨((strategy.program run.host.memory callback).run run.host.desk queue).queue, ?_, ?_⟩
  · simp only [call, desks, results]
  · exact (SameCourse.refl [.called callback]).append course

/-- An indifferent strategy makes the same of every change beside any queue. -/
theorem Calls.ignoresQueue (indifferent : IsIndifferent strategy)
    (calls : change.Calls strategy run) : change.IgnoresQueue run := by
  intro queue
  cases calls with
  | silent isSilent same =>
    have alike : change run = _ := same run.queue
    rw [alike, same queue]
    exact isSilent.ignoresQueue queue
  | once callback first last same =>
    have alike : change run = _ := same run.queue
    rw [alike, same queue]
    exact ((first.ignoresQueue.andThen (ignoresQueue_call indifferent callback)).andThen
      last.ignoresQueue) queue

end Change

/-- Whatever a run hears, an indifferent strategy makes the same of it beside any queue. -/
theorem Run.ignoresQueue_hear {strategy : Strategy Memory} (indifferent : IsIndifferent strategy)
    (answer : Answer) (run : Run Memory) : (Run.hear strategy answer).IgnoresQueue run :=
  (calls_hear strategy answer run).ignoresQueue indifferent

/-- To abandon a run does the same beside any queue. -/
theorem Run.ignoresQueue_cancel {strategy : Strategy Memory}
    (indifferent : IsIndifferent strategy) (run : Run Memory) :
    (Run.cancel strategy : Change Memory).IgnoresQueue run :=
  (calls_cancel strategy run).ignoresQueue indifferent

/-- A run begins in the same way beside any queue. -/
theorem Host.ignoresQueue_start {strategy : Strategy Memory} (indifferent : IsIndifferent strategy)
    (host : Host Memory) (queue other : Queue) :
    ∃ after, (host.start strategy other).1 = { (host.start strategy queue).1 with queue := after } ∧
      SameCourse (host.start strategy queue).2 (host.start strategy other).2 :=
  (Run.calls_start strategy ⟨host, queue, ⟨0, 0, 0⟩, .receiving⟩).ignoresQueue indifferent other

/-- To follow a run over a feed leads to the same beside any queue. -/
theorem Run.ignoresQueue_follow {strategy : Strategy Memory}
    (indifferent : IsIndifferent strategy) (feed : Feed State) (state : State) (run : Run Memory)
    (queue : Queue) :
    let first := run.follow strategy feed state
    let second := { run with queue := queue }.follow strategy feed state
    (∃ after, second.run = { first.run with queue := after }) ∧ second.state = first.state ∧
      SameCourse first.occurrences second.occurrences := by
  -- What is heard changes the queue as well, so it is left general.
  fun_induction answers strategy feed state run generalizing queue with
  | case1 state run ends =>
    have also : ({ run with queue := queue } : Run Memory).call? = none := ends
    rw [follow_of_finished ends, follow_of_finished also]
    exact ⟨⟨queue, rfl⟩, rfl, .refl _⟩
  | case2 state run channels waits answer inductionHypothesis =>
    have also : ({ run with queue := queue } : Run Memory).call? = some (.subscribe channels) :=
      waits
    obtain ⟨after, same, course⟩ :=
      ignoresQueue_hear indifferent (.subscribed answer.1) run queue
    simp only [hear] at same course
    obtain ⟨left, sameState, later⟩ := inductionHypothesis after
    rw [← same] at left sameState later
    rw [follow_of_subscribe waits, follow_of_subscribe also]
    exact ⟨left, sameState, ((SameCourse.refl _).append course).append later⟩
  | case3 state run waits nothing =>
    have also : ({ run with queue := queue } : Run Memory).call? = some .receive := waits
    rw [follow_of_waiting waits nothing, follow_of_waiting also nothing]
    exact ⟨⟨queue, rfl⟩, rfl, .refl _⟩
  | case4 state run waits delivery delivered inductionHypothesis =>
    have also : ({ run with queue := queue } : Run Memory).call? = some .receive := waits
    obtain ⟨after, same, course⟩ :=
      ignoresQueue_hear indifferent (.offered (.delivery delivery)) run queue
    simp only [hear] at same course
    obtain ⟨left, sameState, later⟩ := inductionHypothesis after
    rw [← same] at left sameState later
    rw [follow_of_delivery waits delivered, follow_of_delivery also delivered]
    exact ⟨left, sameState, ((SameCourse.refl _).append course).append later⟩

/-- A run over a feed leads to the same beside any queue. -/
theorem Host.ignoresQueue_run {strategy : Strategy Memory} (indifferent : IsIndifferent strategy)
    (feed : Feed State) (state : State) (host : Host Memory) (queue other : Queue) :
    let first := host.run strategy feed state queue
    let second := host.run strategy feed state other
    (∃ after, second.run = { first.run with queue := after }) ∧ second.state = first.state ∧
      SameCourse first.occurrences second.occurrences := by
  obtain ⟨begun, same, start⟩ := host.ignoresQueue_start indifferent queue other
  obtain ⟨⟨middle, followed⟩, state, course⟩ := Run.ignoresQueue_follow indifferent feed state
    (host.start strategy queue).1 begun
  rw [← same] at followed state course
  obtain ⟨after, ended, last⟩ := Run.ignoresQueue_cancel indifferent
    ((host.start strategy queue).1.follow strategy feed _).run middle
  rw [← followed] at ended last
  exact ⟨⟨after, ended⟩, state, (start.append course).append last⟩

/-- How a run finds the queue, and what becomes of the queue after each callback by its number. -/
structure Setting where
  queue : Queue
  between : Nat -> Queue -> Queue

/-- A run over a feed so far: what has happened when it began, and with each answer since. -/
structure Hosting (Memory State : Type) where
  run : Run Memory
  state : State
  parts : List (List Occurrence)

namespace Hosting

/-- Go on with a change of the run. After a callback it is the turn of those who use the queue. -/
def extend (setting : Setting) (earlier : List (List Occurrence))
    (changed : Run Memory × List Occurrence) (state : State) : Hosting Memory State where
  run :=
    if callbacksOf changed.2 = [] then changed.1
    else
      let number := (callbacksOf earlier.flatten).length
      { changed.1 with queue := setting.between number changed.1.queue }
  state := state
  parts := earlier ++ [changed.2]

/-- Let the run hear an answer, with what the feed logs about it. -/
def hear (strategy : Strategy Memory) (setting : Setting) (hosting : Hosting Memory State)
    (answer : Answer) (entries : List Journal.Entry) (state : State) : Hosting Memory State :=
  let (run, occurrences) := hosting.run.hear strategy answer
  extend setting hosting.parts (run, entries.map .logged ++ occurrences) state

/-- Let the feed answer the run once more, if it still waits. -/
def next (strategy : Strategy Memory) (feed : Feed State) (setting : Setting)
    (hosting : Hosting Memory State) : Hosting Memory State :=
  match hosting.run.call? with
  | none => hosting
  | some (.subscribe channels) =>
    let (answer, state, entries) := feed.subscribe hosting.state channels
    hosting.hear strategy setting (.subscribed answer) entries state
  | some .receive =>
    let (offer, state, entries) := feed.next hosting.state
    hosting.hear strategy setting (.offered offer) entries state

/-- Abandon the run, if it has not ended. -/
def cancel (strategy : Strategy Memory) (setting : Setting) (hosting : Hosting Memory State) :
    Hosting Memory State :=
  extend setting hosting.parts (hosting.run.cancel strategy) hosting.state

end Hosting

/-- A run in a setting, up to the answer with this number. -/
def Host.hosting (strategy : Strategy Memory) (feed : Feed State) (setting : Setting)
    (host : Host Memory) (state : State) : Nat -> Hosting Memory State
  | 0 => .extend setting [] (host.start strategy setting.queue) state
  | number + 1 => (host.hosting strategy feed setting state number).next strategy feed setting

/-- With each answer one callback is called at most, so others may use the queue between any two. -/
theorem Host.length_callbacksOf_le (strategy : Strategy Memory) (feed : Feed State)
    (setting : Setting) (host : Host Memory) (state : State) (number : Nat) :
    ∀ part ∈ (host.hosting strategy feed setting state number).parts,
      (callbacksOf part).length <= 1 := by
  induction number with
  | zero =>
    have starts : (callbacksOf (host.start strategy setting.queue).2).length <= 1 :=
      (Run.calls_start strategy ⟨host, setting.queue, ⟨0, 0, 0⟩, .receiving⟩).length_callbacksOf_le
    simpa [hosting, Hosting.extend] using starts
  | succ number inductionHypothesis =>
    let before := host.hosting strategy feed setting state number
    have heard (answer : Answer) (entries : List Journal.Entry) (after : State) :
        ∀ part ∈ (before.hear strategy setting answer entries after).parts,
          (callbacksOf part).length <= 1 := by
      refine List.forall_mem_append.mpr ⟨inductionHypothesis, List.forall_mem_singleton.mpr ?_⟩
      rw [callbacksOf_append, callbacksOf_map_logged, List.nil_append]
      exact (Run.calls_hear strategy answer before.run).length_callbacksOf_le
    change ∀ part ∈ (before.next strategy feed setting).parts, _
    unfold Hosting.next
    split
    · exact inductionHypothesis
    · exact heard _ _ _
    · exact heard _ _ _

/-- A queue that nobody else uses. -/
def Setting.alone (queue : Queue) : Setting := ⟨queue, fun _ queue => queue⟩

theorem Hosting.extend_alone (queue : Queue) (earlier : List (List Occurrence))
    (changed : Run Memory × List Occurrence) (state : State) :
    extend (.alone queue) earlier changed state = ⟨changed.1, state, earlier ++ [changed.2]⟩ := by
  simp [extend, Setting.alone]

/-- To follow a run is to let the feed answer often enough. -/
theorem Host.exists_hosting_eq_follow {strategy : Strategy Memory} {feed : Feed State}
    {host : Host Memory} {first : State} {queue : Queue} {number : Nat} {run : Run Memory}
    {state : State} {parts : List (List Occurrence)}
    (stands : host.hosting strategy feed (.alone queue) first number = ⟨run, state, parts⟩) :
    let followed := run.follow strategy feed state
    ∃ later told, host.hosting strategy feed (.alone queue) first later =
        ⟨followed.run, followed.state, told⟩ ∧
      told.flatten = parts.flatten ++ followed.occurrences := by
  have goesOn {number : Nat} {before : Hosting Memory State}
      (stands : host.hosting strategy feed (.alone queue) first number = before) :
      host.hosting strategy feed (.alone queue) first (number + 1) =
        before.next strategy feed (.alone queue) := by
    rw [← stands]
    rfl
  fun_induction Run.answers strategy feed state run generalizing number parts with
  | case1 state run ends =>
    rw [Run.follow_of_finished ends]
    exact ⟨number, parts, stands, by simp⟩
  | case2 state run channels waits answer =>
    rename_i inductionHypothesis
    have answered := goesOn stands
    simp only [Hosting.next, waits, Hosting.hear, Hosting.extend_alone] at answered
    obtain ⟨later, told, reached, same⟩ := inductionHypothesis answered
    rw [Run.follow_of_subscribe waits]
    exact ⟨later, told, reached, by simp [same, Followed.after, Run.hear, answer]⟩
  | case3 state run waits nothing =>
    have answered := goesOn stands
    simp only [Hosting.next, waits, nothing, Hosting.hear, Hosting.extend_alone] at answered
    rw [Run.follow_of_waiting waits nothing]
    exact ⟨number + 1, _, answered, by simp [Run.hear]⟩
  | case4 state run waits delivery delivered inductionHypothesis =>
    have answered := goesOn stands
    simp only [Hosting.next, waits, delivered, Hosting.hear, Hosting.extend_alone] at answered
    obtain ⟨later, told, reached, same⟩ := inductionHypothesis answered
    rw [Run.follow_of_delivery waits delivered]
    exact ⟨later, told, reached, by simp [same, Followed.after, Run.hear]⟩

/-- A whole run is one in which nobody else uses the queue, abandoned if it still waits. -/
theorem Host.exists_run_eq_hosting (strategy : Strategy Memory) (feed : Feed State) (state : State)
    (host : Host Memory) (queue : Queue) :
    ∃ number, let hosting := host.hosting strategy feed (.alone queue) state number
      let ended := hosting.run.cancel strategy
      host.run strategy feed state queue =
        ⟨ended.1, hosting.state, hosting.parts.flatten ++ ended.2⟩ := by
  have begins : host.hosting strategy feed (.alone queue) state 0 =
      ⟨(host.start strategy queue).1, state, [(host.start strategy queue).2]⟩ :=
    Hosting.extend_alone _ _ _ _
  obtain ⟨number, told, reached, same⟩ := exists_hosting_eq_follow begins
  refine ⟨number, ?_⟩
  simp [Host.run, reached, same, Followed.after]

/-- Whether two runs are the same but for the queue. -/
structure Hosting.Alike (first second : Hosting Memory State) : Prop where
  parts : List.Forall₂ SameCourse first.parts second.parts
  run : ∃ queue, second.run = { first.run with queue := queue }
  state : second.state = first.state

namespace Hosting.Alike

variable {first second : Hosting Memory State}

/-- Changes that are the same but for the queue are gone on with alike. -/
theorem extend {setting other : Setting} {earlier before : List (List Occurrence)}
    {changed changedToo : Run Memory × List Occurrence} {queue : Queue}
    (parts : List.Forall₂ SameCourse earlier before)
    (run : changedToo.1 = { changed.1 with queue := queue })
    (course : SameCourse changed.2 changedToo.2) (state : State) :
    Alike (.extend setting earlier changed state) (.extend other before changedToo state) where
  parts := List.rel_append parts (.cons course .nil)
  run := by
    simp only [Hosting.extend, course.called]
    split
    · exact ⟨queue, run⟩
    · exact ⟨_, by rw [run]⟩
  state := rfl

/-- Runs that are alike hear the same from the feed, if they still wait. -/
theorem next_cases (alike : first.Alike second) (strategy : Strategy Memory) (feed : Feed State)
    (setting other : Setting) :
    (first.next strategy feed setting = first ∧ second.next strategy feed other = second) ∨
    ∃ answer entries state,
      first.next strategy feed setting = first.hear strategy setting answer entries state ∧
      second.next strategy feed other = second.hear strategy other answer entries state := by
  obtain ⟨-, ⟨queue, run⟩, sameState⟩ := alike
  have calls : second.run.call? = first.run.call? := by
    rw [run]
    rfl
  simp only [next, calls, sameState]
  cases first.run.call? with
  | none => exact .inl ⟨rfl, rfl⟩
  | some call => cases call <;> exact .inr ⟨_, _, _, rfl, rfl⟩

/-- What an indifferent strategy makes of an answer is alike. -/
theorem hear {strategy : Strategy Memory} (indifferent : IsIndifferent strategy)
    (alike : first.Alike second) (setting other : Setting) (answer : Answer)
    (entries : List Journal.Entry) (state : State) :
    Alike (first.hear strategy setting answer entries state)
      (second.hear strategy other answer entries state) := by
  obtain ⟨parts, ⟨queue, run⟩, -⟩ := alike
  obtain ⟨left, same, course⟩ := Run.ignoresQueue_hear indifferent answer first.run queue
  rw [← run] at same course
  exact extend parts (by exact same) ((SameCourse.refl _).append course) state

/-- Runs of an indifferent strategy that are alike are abandoned alike. -/
theorem cancel {strategy : Strategy Memory} (indifferent : IsIndifferent strategy)
    (alike : first.Alike second) (setting other : Setting) :
    Alike (first.cancel strategy setting) (second.cancel strategy other) := by
  obtain ⟨parts, ⟨queue, run⟩, sameState⟩ := alike
  obtain ⟨left, same, course⟩ := Run.ignoresQueue_cancel indifferent first.run queue
  rw [← run] at same course
  rw [Hosting.cancel, Hosting.cancel, sameState]
  exact extend parts same course first.state

end Hosting.Alike

/-- An indifferent strategy is run alike in any two settings. -/
theorem Host.alike_hosting {strategy : Strategy Memory} (indifferent : IsIndifferent strategy)
    (feed : Feed State) (setting other : Setting) (host : Host Memory) (state : State)
    (number : Nat) :
    (host.hosting strategy feed setting state number).Alike
      (host.hosting strategy feed other state number) := by
  induction number with
  | zero =>
    obtain ⟨queue, run, course⟩ :=
      host.ignoresQueue_start indifferent setting.queue other.queue
    exact .extend .nil run course state
  | succ number alike =>
    obtain ⟨ends, alsoEnds⟩ | ⟨answer, entries, after, heard, alsoHeard⟩ :=
      alike.next_cases strategy feed setting other
    · rw [Host.hosting, Host.hosting, ends, alsoEnds]
      exact alike
    · rw [Host.hosting, Host.hosting, heard, alsoHeard]
      exact alike.hear indifferent setting other answer entries after

end StrategyHost.Strategy
