import StrategyHost.Proofs.Outbound.Accounting
import StrategyHost.Proofs.Outbound.Sending
import StrategyHost.Proofs.Strategy.Settings

/-!
# Runs beside a larger queue

The same run beside two queues, of which one has the greater capacity, while the same numbers of
commands are taken from both between its callbacks. Within a callback the two take the same orders
until the smaller is full, and from then on the smaller takes none. So there is never less room in
the larger, and what the smaller takes the larger takes as well.
-/

namespace StrategyHost.Outbound.Queue

/-- Take commands until so many have been taken, or none are left. -/
def takeUpTo : Nat -> Queue -> Queue
  | 0, queue => queue
  | number + 1, queue => queue.receive.2.takeUpTo number

theorem takeUpTo_eq {queue : Queue} (isOpen : queue.isOpen = true) (number : Nat) :
    queue.takeUpTo number = { queue with waiting := queue.waiting.drop number } := by
  induction number generalizing queue with
  | zero => rfl
  | succ number inductionHypothesis =>
    obtain ⟨capacity, waiting, opened⟩ := queue
    obtain rfl : opened = true := isOpen
    cases waiting with
    | nil =>
      have none : (⟨capacity, [], true⟩ : Queue).receive.2 = ⟨capacity, [], true⟩ := rfl
      have later : takeUpTo number (⟨capacity, [], true⟩ : Queue) = _ := inductionHypothesis rfl
      simpa [takeUpTo, none] using later
    | cons command rest => exact inductionHypothesis rfl

/-- Two queues from which commands are taken, the second with the greater capacity and with no less
room. -/
structure Roomier (small large : Queue) : Prop where
  isOpen : small.isOpen = true
  alsoOpen : large.isOpen = true
  bounded : small.waiting.length <= small.capacity
  alsoBounded : large.waiting.length <= large.capacity
  capacity : small.capacity <= large.capacity
  room : small.capacity - small.waiting.length <= large.capacity - large.waiting.length

/-- Queues of which nothing has been asked yet. -/
theorem roomier_empty {capacity larger : Nat} (le : capacity <= larger) :
    Roomier ⟨capacity, [], true⟩ ⟨larger, [], true⟩ :=
  ⟨rfl, rfl, Nat.zero_le _, Nat.zero_le _, le, le⟩

/-- To take as many commands from both makes no less room in the larger. -/
theorem Roomier.takeUpTo {small large : Queue} (roomier : small.Roomier large) (number : Nat) :
    (small.takeUpTo number).Roomier (large.takeUpTo number) := by
  obtain ⟨isOpen, alsoOpen, bounded, alsoBounded, capacity, room⟩ := roomier
  rw [takeUpTo_eq isOpen, takeUpTo_eq alsoOpen]
  constructor
  · exact isOpen
  · exact alsoOpen
  all_goals
    simp only [List.length_drop]
    omega

end StrategyHost.Outbound.Queue

namespace StrategyHost.Outbound.Sender

/-- An order leaves the queue open and within its capacity. -/
theorem bounded_send (sender : Sender) {queue : Queue} (order : Trade.Order)
    (bounded : queue.waiting.length <= queue.capacity) :
    let after := (sender.send queue order).queue
    after.isOpen = queue.isOpen ∧ after.capacity = queue.capacity ∧
      after.waiting.length <= after.capacity := by
  obtain ⟨command, -, -, queued, room⟩ | ⟨failure, -, same⟩ := sender.send_cases queue order
  · rw [queued]
    exact ⟨rfl, rfl, by simpa using Nat.succ_le_of_lt room⟩
  · rw [same]
    exact ⟨rfl, rfl, bounded⟩

/-- A full queue takes no order. -/
theorem send_of_full (sender : Sender) {queue : Queue} (order : Trade.Order)
    (full : queue.capacity <= queue.waiting.length) :
    (sender.send queue order).result ≠ .ok () ∧ (sender.send queue order).queue = queue := by
  obtain ⟨command, -, -, -, room⟩ | ⟨failure, refused, same⟩ := sender.send_cases queue order
  · exact absurd room (Nat.not_lt_of_le full)
  · exact ⟨by simp [refused], same⟩

/-- Two queues with room make the same of an order. -/
theorem send_of_room (sender : Sender) {small large : Queue} (order : Trade.Order)
    (roomier : small.Roomier large) (room : small.waiting.length < small.capacity) :
    (sender.send large order).result = (sender.send small order).result ∧
      (sender.send small order).queue.Roomier (sender.send large order).queue := by
  obtain ⟨isOpen, alsoOpen, bounded, alsoBounded, capacity, more⟩ := roomier
  by_cases known : sender.Knows order.ticker
  · obtain ⟨command, written⟩ := exists_command_iff.mpr known
    have alsoRoom : large.waiting.length < large.capacity := by omega
    obtain ⟨accepted, extended⟩ :=
      (send_of_command small written).2 _ (Queue.offer_of_room isOpen room)
    obtain ⟨alsoAccepted, alsoExtended⟩ :=
      (send_of_command large written).2 _ (Queue.offer_of_room alsoOpen alsoRoom)
    refine ⟨alsoAccepted.trans accepted.symm, ?_⟩
    rw [extended, alsoExtended]
    constructor
    · exact isOpen
    · exact alsoOpen
    all_goals
      simp only [List.length_append, List.length_singleton]
      omega
  · obtain ⟨refused, same⟩ := send_of_unknown small known
    obtain ⟨alsoRefused, alsoSame⟩ := send_of_unknown large known
    refine ⟨alsoRefused.trans refused.symm, ?_⟩
    rw [same, alsoSame]
    exact ⟨isOpen, alsoOpen, bounded, alsoBounded, capacity, more⟩

end StrategyHost.Outbound.Sender

namespace StrategyHost.Strategy

open StrategyHost.Outbound (Queue)
open StrategyHost.Trade (Order)

/-- The orders that are sent, each with what becomes of it. -/
def sendsOf (occurrences : List Occurrence) : List (Order × Except Failure Unit) :=
  occurrences.filterMap fun
    | .performed (.send order) reply => some (order, reply)
    | .performed (.sendUsual shorthand ticker volume price orderType) reply =>
      some (shorthand.order ticker volume price orderType, reply)
    | _ => none

@[simp] theorem sendsOf_append (before after : List Occurrence) :
    sendsOf (before ++ after) = sendsOf before ++ sendsOf after :=
  List.filterMap_append

/-- Whether every order that is taken in the first is taken in the second, at the same place among
those that are sent. -/
def Dominates (first second : List Occurrence) : Prop :=
  ∀ (place : Nat) (order : Order), (sendsOf first)[place]? = some (order, Except.ok ()) ->
    (sendsOf second)[place]? = some (order, Except.ok ())

theorem Dominates.refl (occurrences : List Occurrence) : Dominates occurrences occurrences :=
  fun _ _ taken => taken

/-- The same sends may come before. -/
theorem Dominates.append_left {first second before after : List Occurrence}
    (dominates : Dominates before after) (same : sendsOf first = sendsOf second) :
    Dominates (first ++ before) (second ++ after) := by
  intro place order taken
  rw [sendsOf_append, List.getElem?_append] at taken ⊢
  rw [← same]
  split at taken
  · rwa [if_pos ‹_›]
  · rw [if_neg ‹_›]
    exact dominates _ _ taken

/-- Where nothing is taken there is nothing to take as well. -/
theorem Dominates.of_refused {first : List Occurrence}
    (refused : ∀ order, (order, .ok ()) ∉ sendsOf first) (second : List Occurrence) :
    Dominates first second :=
  fun _ order taken => absurd (List.mem_of_getElem? taken) (refused order)

namespace Desk

variable (desk : Desk) {queue : Queue} (request : Request)

/-- A request leaves the queue open and within its capacity. -/
theorem bounded_perform (bounded : queue.waiting.length <= queue.capacity) :
    let after := (desk.perform queue request).queue
    after.isOpen = queue.isOpen ∧ after.capacity = queue.capacity ∧
      after.waiting.length <= after.capacity := by
  cases request with
  | send order => exact desk.sender.bounded_send order bounded
  | sendUsual shorthand ticker volume price orderType => exact desk.sender.bounded_send _ bounded
  | _ => exact ⟨rfl, rfl, bounded⟩

/-- With a full queue no request is an order that is taken. -/
theorem perform_of_full (full : queue.capacity <= queue.waiting.length) :
    let performed := desk.perform queue request
    performed.queue = queue ∧
      ∀ order, (order, Except.ok ()) ∉ sendsOf [.performed request performed.reply] := by
  have refused (order other : Order) :
      (other, Except.ok ()) ∉ [(order, (desk.sender.send queue order).result)] := by
    simp [(desk.sender.send_of_full order full).1.symm]
  cases request with
  | send order => exact ⟨(desk.sender.send_of_full order full).2, refused order⟩
  | sendUsual shorthand ticker volume price orderType =>
    exact ⟨(desk.sender.send_of_full _ full).2, refused _⟩
  | _ => exact ⟨rfl, fun _ => List.not_mem_nil⟩

/-- As long as the smaller queue has room, a request gets the same reply from both. -/
theorem perform_of_room {small large : Queue} (roomier : small.Roomier large)
    (room : small.waiting.length < small.capacity) :
    (desk.perform large request).reply = (desk.perform small request).reply ∧
      (desk.perform small request).queue.Roomier (desk.perform large request).queue := by
  cases request with
  | send order => exact desk.sender.send_of_room order roomier room
  | sendUsual shorthand ticker volume price orderType =>
    exact desk.sender.send_of_room _ roomier room
  | _ => exact ⟨rfl, roomier⟩

end Desk

namespace Program

variable {Result : Type} (program : Program Result) (desk : Desk)

/-- What is logged about a request is no send. -/
theorem sendsOf_told {request : Request} (performed : Performed request) :
    sendsOf (performed.entries.map .logged ++ [.performed request performed.reply]) =
      sendsOf [.performed request performed.reply] := by
  have written : sendsOf (performed.entries.map .logged) = [] := by
    simp [sendsOf]
  rw [sendsOf_append, written, List.nil_append]

/-- The sends of a request and of what comes after it. -/
theorem sendsOf_run_act (queue : Queue) (request : Request)
    (next : request.Reply -> Program Result) :
    let performed := desk.perform queue request
    sendsOf ((act request next).run desk queue).occurrences =
      sendsOf [.performed request performed.reply] ++
        sendsOf ((next performed.reply).run performed.desk performed.queue).occurrences := by
  intro performed
  rw [← sendsOf_told performed, ← sendsOf_append, List.append_assoc]
  rfl

/-- A program leaves the queue open and within its capacity. -/
theorem bounded_run {queue : Queue} (bounded : queue.waiting.length <= queue.capacity) :
    let after := (program.run desk queue).queue
    after.isOpen = queue.isOpen ∧ after.capacity = queue.capacity ∧
      after.waiting.length <= after.capacity := by
  induction program generalizing desk queue with
  | done result => exact ⟨rfl, rfl, bounded⟩
  | act request next inductionHypothesis =>
    obtain ⟨isOpen, capacity, keeps⟩ := desk.bounded_perform request bounded
    obtain ⟨stillOpen, stillCapacity, stillKeeps⟩ := inductionHypothesis _ _ keeps
    exact ⟨stillOpen.trans isOpen, stillCapacity.trans capacity, stillKeeps⟩

/-- With a full queue a program sends no order that is taken. -/
theorem run_of_full {queue : Queue} (full : queue.capacity <= queue.waiting.length) :
    (program.run desk queue).queue = queue ∧
      ∀ order, (order, Except.ok ()) ∉ sendsOf (program.run desk queue).occurrences := by
  induction program generalizing desk with
  | done result => exact ⟨rfl, fun _ => List.not_mem_nil⟩
  | act request next inductionHypothesis =>
    obtain ⟨same, refused⟩ := desk.perform_of_full request full
    obtain ⟨stillSame, stillRefused⟩ :=
      inductionHypothesis (desk.perform queue request).reply (desk.perform queue request).desk
    refine ⟨?_, fun order => ?_⟩
    · rw [run, same, stillSame]
    · rw [sendsOf_run_act, List.mem_append, same]
      exact not_or.mpr ⟨refused order, stillRefused order⟩

/-- Of what a program sends, the larger of two queues takes what the smaller takes. -/
theorem dominates_run {small large : Queue} (roomier : small.Roomier large) :
    let first := program.run desk small
    let second := program.run desk large
    first.queue.Roomier second.queue ∧ Dominates first.occurrences second.occurrences := by
  induction program generalizing desk small large with
  | done result => exact ⟨roomier, .refl _⟩
  | act request next inductionHypothesis =>
    by_cases room : small.waiting.length < small.capacity
    · obtain ⟨sameReply, still⟩ := desk.perform_of_room request roomier room
      have sameDesk : (desk.perform large request).desk = (desk.perform small request).desk :=
        (desk.desk_perform large request (desk.perform small request).reply).trans
          (desk.desk_perform small request _).symm
      obtain ⟨left, dominates⟩ := inductionHypothesis (desk.perform small request).reply
        (desk.perform small request).desk still
      have sends := (sendsOf_told (desk.perform small request)).trans
        (sameReply ▸ (sendsOf_told (desk.perform large request)).symm)
      simp only [run, sameReply, sameDesk]
      exact ⟨left, by simpa [sameReply] using dominates.append_left sends⟩
    · have full := Nat.le_of_not_lt room
      obtain ⟨same, refused⟩ := (act request next).run_of_full desk full
      obtain ⟨isOpen, capacity, keeps⟩ := (act request next).bounded_run desk roomier.alsoBounded
      refine ⟨?_, .of_refused refused _⟩
      constructor
      · rw [same, roomier.isOpen]
      · rw [isOpen, roomier.alsoOpen]
      · rw [same]
        exact roomier.bounded
      · exact keeps
      · rw [same, capacity]
        exact roomier.capacity
      · rw [same, Nat.sub_eq_zero_of_le full]
        exact Nat.zero_le _

end Program

variable {Memory State : Type} {strategy : Strategy Memory}

/-- What a run does by itself sends nothing. -/
theorem sendsOf_of_own {occurrences : List Occurrence}
    (own : ∀ occurrence ∈ occurrences, occurrence.IsOwn) : sendsOf occurrences = [] := by
  refine List.filterMap_eq_nil_iff.mpr fun occurrence member => ?_
  cases own occurrence member <;> rfl

namespace Change

/-- Whether a change leaves no less room in the larger of two queues, which takes what the smaller
takes. -/
def KeepsRoom (change : Change Memory) (run : Run Memory) : Prop :=
  ∀ large, run.queue.Roomier large ->
    let first := change run
    let second := change { run with queue := large }
    first.1.queue.Roomier second.1.queue ∧ Dominates first.2 second.2

variable {first second change : Change Memory} {run : Run Memory}

namespace IsSilent

theorem keepsRoom (silent : change.IsSilent) : change.KeepsRoom run := by
  intro large roomier
  refine ⟨?_, ?_⟩
  · rw [silent.queue_eq, silent.queue_eq]
    exact roomier
  · rw [silent.apart run large]
    exact .refl _

theorem andThen_keepsRoom (silent : first.IsSilent) (keeps : second.KeepsRoom (first run).1) :
    (first.andThen second).KeepsRoom run := by
  intro large roomier
  obtain ⟨still, dominates⟩ := keeps large (by rwa [silent.queue_eq])
  simp only [Change.andThen, silent.apart run large]
  exact ⟨still, dominates.append_left rfl⟩

end IsSilent

theorem KeepsRoom.andThen (keeps : first.KeepsRoom run) (silent : second.IsSilent) :
    (first.andThen second).KeepsRoom run := by
  intro large roomier
  obtain ⟨still, dominates⟩ := keeps large roomier
  refine ⟨?_, ?_⟩
  · simp only [Change.andThen, silent.queue_eq]
    exact still
  · intro place order taken
    simp only [Change.andThen, sendsOf_append, sendsOf_of_own (silent.own _), List.append_nil]
      at taken ⊢
    exact dominates place order taken

theorem keepsRoom_call (callback : Callback) : (call strategy callback).KeepsRoom run := by
  intro large roomier
  obtain ⟨still, dominates⟩ :=
    (strategy.program run.host.memory callback).dominates_run run.host.desk roomier
  have called : sendsOf [.called callback] = sendsOf [.called callback] := rfl
  exact ⟨still, dominates.append_left called⟩

/-- In every change the larger of two queues takes what the smaller takes. -/
theorem Calls.keepsRoom (calls : change.Calls strategy run) : change.KeepsRoom run := by
  intro large roomier
  cases calls with
  | silent isSilent same =>
    have alike : change run = _ := same run.queue
    rw [alike, same large]
    exact isSilent.keepsRoom large roomier
  | once callback before after same =>
    have alike : change run = _ := same run.queue
    rw [alike, same large]
    exact ((before.andThen_keepsRoom (keepsRoom_call callback)).andThen after) large roomier

end Change

/-- A queue with this capacity, from which up to so many commands are taken after each callback. -/
def Setting.taking (takes : Nat -> Nat) (capacity : Nat) : Setting where
  queue := ⟨capacity, [], true⟩
  between number := Queue.takeUpTo (takes number)

namespace Hosting

/-- Whether a run beside a queue has no more room than one beside another, and sends nothing that is
taken here and not there. -/
structure Roomier (first second : Hosting Memory State) : Prop where
  queue : first.run.queue.Roomier second.run.queue
  dominates : List.Forall₂ Dominates first.parts second.parts

theorem length_callbacksOf_flatten {parts others : List (List Occurrence)}
    (same : List.Forall₂ SameCourse parts others) :
    (callbacksOf parts.flatten).length = (callbacksOf others.flatten).length := by
  induction same with
  | nil => rfl
  | cons course rest inductionHypothesis =>
    simp [callbacksOf_append, course.called, inductionHypothesis]

namespace Roomier

variable {takes : Nat -> Nat} {capacity larger : Nat}

/-- After the same callbacks as many commands are taken from both queues. -/
theorem extend {earlier before : List (List Occurrence)}
    {changed other : Run Memory × List Occurrence}
    (courses : List.Forall₂ SameCourse earlier before) (course : SameCourse changed.2 other.2)
    (queue : changed.1.queue.Roomier other.1.queue)
    (taken : List.Forall₂ Dominates earlier before) (dominates : Dominates changed.2 other.2)
    (state : State) :
    Roomier (.extend (.taking takes capacity) earlier changed state)
      (.extend (.taking takes larger) before other state) where
  queue := by
    simp only [Hosting.extend, course.called, length_callbacksOf_flatten courses]
    split
    · exact queue
    · exact queue.takeUpTo _
  dominates := List.rel_append taken (.cons dominates .nil)

theorem hear {first second : Hosting Memory State} (indifferent : IsIndifferent strategy)
    (alike : first.Alike second) (roomier : first.Roomier second) (answer : Answer)
    (entries : List Journal.Entry) (state : State) :
    Roomier (first.hear strategy (.taking takes capacity) answer entries state)
      (second.hear strategy (.taking takes larger) answer entries state) := by
  obtain ⟨courses, ⟨queue, run⟩, -⟩ := alike
  obtain ⟨-, -, course⟩ := Run.ignoresQueue_hear indifferent answer first.run queue
  have found : first.run.queue.Roomier queue := by simpa [run] using roomier.queue
  obtain ⟨still, dominates⟩ := (Run.calls_hear strategy answer first.run).keepsRoom queue found
  rw [← run] at course still dominates
  exact extend courses ((SameCourse.refl _).append course) (by exact still) roomier.dominates
    (dominates.append_left rfl) state

theorem cancel {first second : Hosting Memory State} (indifferent : IsIndifferent strategy)
    (alike : first.Alike second) (roomier : first.Roomier second) :
    Roomier (first.cancel strategy (.taking takes capacity))
      (second.cancel strategy (.taking takes larger)) := by
  obtain ⟨courses, ⟨queue, run⟩, sameState⟩ := alike
  obtain ⟨-, -, course⟩ := Run.ignoresQueue_cancel indifferent first.run queue
  have found : first.run.queue.Roomier queue := by simpa [run] using roomier.queue
  obtain ⟨still, dominates⟩ := (Run.calls_cancel strategy first.run).keepsRoom queue found
  rw [← run] at course still dominates
  rw [Hosting.cancel, Hosting.cancel, sameState]
  exact extend courses course still roomier.dominates dominates first.state

end Roomier

end Hosting

/-- If as many commands are taken from both, the run beside the larger queue has no less room. -/
theorem Host.roomier_hosting (indifferent : IsIndifferent strategy) (feed : Feed State)
    (takes : Nat -> Nat) {capacity larger : Nat} (le : capacity <= larger) (host : Host Memory)
    (state : State) (number : Nat) :
    (host.hosting strategy feed (.taking takes capacity) state number).Roomier
      (host.hosting strategy feed (.taking takes larger) state number) := by
  induction number with
  | zero =>
    obtain ⟨queue, dominates⟩ :=
      (Run.calls_start strategy ⟨host, _, ⟨0, 0, 0⟩, .receiving⟩).keepsRoom _
        (Queue.roomier_empty le)
    obtain ⟨-, -, course⟩ := host.ignoresQueue_start indifferent _ _
    exact .extend .nil course queue .nil dominates state
  | succ number roomier =>
    have alike := host.alike_hosting indifferent feed (.taking takes capacity)
      (.taking takes larger) state number
    obtain ⟨ends, alsoEnds⟩ | ⟨answer, entries, after, heard, alsoHeard⟩ :=
      alike.next_cases strategy feed (.taking takes capacity) (.taking takes larger)
    · rw [Host.hosting, Host.hosting, ends, alsoEnds]
      exact roomier
    · rw [Host.hosting, Host.hosting, heard, alsoHeard]
      exact roomier.hear indifferent alike answer entries after

/-- The outbound queue sways nothing of a run but what becomes of its orders, and there a greater
capacity only helps. -/
structure Unswayed (strategy : Strategy Memory) (feed : Feed State) (host : Host Memory)
    (state : State) : Prop where
  /-- Others may use the queue between any two callbacks. -/
  single : ∀ setting number, ∀ part ∈ (host.hosting strategy feed setting state number).parts,
    (callbacksOf part).length <= 1
  /-- However the queue is found and whatever becomes of it after each callback: the same callbacks
  are called, the same tickers are asked for and the same is subscribed to, with each answer of the
  feed, and the runs are the same but for their queues, their results and counts included. -/
  alike : ∀ setting other number, (host.hosting strategy feed setting state number).Alike
    (host.hosting strategy feed other state number)
  /-- So are they if they are abandoned then. -/
  abandoned : ∀ setting other number,
    ((host.hosting strategy feed setting state number).cancel strategy setting).Alike
      ((host.hosting strategy feed other state number).cancel strategy other)
  /-- The same holds of whole runs. -/
  whole : ∀ queue other,
    let first := host.run strategy feed state queue
    let second := host.run strategy feed state other
    (∃ after, second.run = { first.run with queue := after }) ∧ second.state = first.state ∧
      SameCourse first.occurrences second.occurrences
  /-- If up to as many commands are taken after each callback, the order that is taken with the
  smaller capacity is taken with the larger, at its place among the orders of its callback. -/
  taken : ∀ takes capacity larger, capacity <= larger -> ∀ number, List.Forall₂ Dominates
    (host.hosting strategy feed (.taking takes capacity) state number).parts
    (host.hosting strategy feed (.taking takes larger) state number).parts
  /-- So it is in the last callback of a run that is abandoned. -/
  takenLast : ∀ takes capacity larger, capacity <= larger -> ∀ number,
    let first := host.hosting strategy feed (.taking takes capacity) state number
    let second := host.hosting strategy feed (.taking takes larger) state number
    List.Forall₂ Dominates (first.cancel strategy (.taking takes capacity)).parts
      (second.cancel strategy (.taking takes larger)).parts

/-- The run of an indifferent strategy is not swayed by the outbound queue. -/
theorem unswayed_of_isIndifferent (indifferent : IsIndifferent strategy) (feed : Feed State)
    (host : Host Memory) (state : State) : Unswayed strategy feed host state where
  single setting number := host.length_callbacksOf_le strategy feed setting state number
  alike setting other number := host.alike_hosting indifferent feed setting other state number
  abandoned setting other number :=
    (host.alike_hosting indifferent feed setting other state number).cancel indifferent setting
      other
  whole queue other := host.ignoresQueue_run indifferent feed state queue other
  taken takes _ _ le number :=
    (host.roomier_hosting indifferent feed takes le state number).dominates
  takenLast takes capacity larger le number :=
    have alike := host.alike_hosting indifferent feed (.taking takes capacity)
      (.taking takes larger) state number
    ((host.roomier_hosting indifferent feed takes le state number).cancel indifferent
      alike).dominates

/-- Two orders at first and for every tick, and one for every response and at the end. -/
def orderingPlan : Plan where
  atInit := [.send Outbound.Path.loneOrder, .send Outbound.Path.loneOrder]
  atExit := [.send Outbound.Path.loneOrder]
  atTick := []
  atEveryTick := [.send Outbound.Path.loneOrder, .send Outbound.Path.loneOrder]
  atResponse := []
  atEveryResponse := [.send Outbound.Path.loneOrder]

/-- A host of that plan. -/
def orderingHost : Host Plan.Progress := ⟨.init, ⟨Outbound.Path.loneSender, "md.", []⟩, ⟨0, 0⟩⟩

/-- A tick, a response, another tick, and the end. -/
def orderingScript : Script :=
  let tick : Delivery := .message ⟨"md.IF2309", Host.watchedTick.encode⟩
  ⟨[], [tick, .message ⟨"grid", Host.watchedResponse.encode⟩, tick, .closed], false⟩

/-- The host with a queue of this capacity, from which one command is taken after each callback,
when it has subscribed to its responses and heard the script. -/
def orderingRun (capacity : Nat) : Hosting Plan.Progress Script :=
  orderingHost.hosting orderingPlan.strategy Script.feed (.taking (fun _ => 1) capacity)
    orderingScript orderingScript.deliveries.length.succ

/-- Which of the orders are taken with each answer, with a queue of this capacity. -/
def takenOf (capacity : Nat) : List (List Bool) :=
  (orderingRun capacity).parts.map fun part => (sendsOf part).map (·.2.isOk)

/-- Where there is room for one order, the second of two is always turned down. Where there is room
for three, only that of the last tick is. The callbacks are the same with any capacity. -/
theorem unswayed_of_isIndifferent_ordering :
    IsIndifferent orderingPlan.strategy ∧
      Unswayed orderingPlan.strategy Script.feed orderingHost orderingScript ∧
      takenOf 1 = [[true, false], [], [true, false], [true], [true, false], [true]] ∧
      takenOf 3 = [[true, true], [], [true, true], [true], [true, false], [true]] ∧
      forall capacity, (orderingRun capacity).parts.map callbacksOf = [[.init], [],
        [.tick Host.watchedTick], [.response Host.watchedResponse], [.tick Host.watchedTick],
        [.exit]] := by
  have unswayed := unswayed_of_isIndifferent orderingPlan.isIndifferent Script.feed orderingHost
    orderingScript
  refine ⟨orderingPlan.isIndifferent, unswayed, by decide +kernel, by decide +kernel, ?_⟩
  intro capacity
  have called : (orderingRun 1).parts.map callbacksOf = [[.init], [],
      [.tick Host.watchedTick], [.response Host.watchedResponse], [.tick Host.watchedTick],
      [.exit]] := by
    decide +kernel
  have alike := unswayed.alike (.taking (fun _ => 1) capacity) (.taking (fun _ => 1) 1)
    orderingScript.deliveries.length.succ
  have same : List.Forall₂ (· = ·) ((orderingRun capacity).parts.map callbacksOf)
      ((orderingRun 1).parts.map callbacksOf) := by
    rw [List.forall₂_map_left_iff, List.forall₂_map_right_iff]
    exact alike.parts.imp fun _ _ course => course.called
  rw [List.forall₂_eq_eq_eq] at same
  exact same.trans called

end StrategyHost.Strategy
