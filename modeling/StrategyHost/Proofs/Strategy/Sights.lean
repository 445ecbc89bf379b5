import StrategyHost.Proofs.Strategy.Changes
import StrategyHost.Proofs.Strategy.Requests

/-!
# What the log shows of a watcher

The host, the sender, and the bus write to the log under names of their own, so what stands there
under the name of a watcher is what the strategy has noted, line by line and in the same place
among its callbacks (`Host.isFaithful_run`).
-/

namespace StrategyHost.Strategy

open StrategyHost.Journal (Component Entry)
open StrategyHost.Outbound (Queue Sender)

/-- What there is to see of a watcher: its callbacks, what it asks for, and its lines in the log. -/
def sightsOf (occurrences : List Occurrence) : List Occurrence :=
  occurrences.filter fun
    | .called _ | .performed (.subscribe _) _ => true
    | .logged entry => entry.component = .watch
    | _ => false

/-- The same by what the strategy notes, whatever is written to the log. -/
def notedOf (occurrences : List Occurrence) : List Occurrence :=
  occurrences.filterMap fun
    | .called callback => some (.called callback)
    | .performed (.subscribe tickers) reply => some (.performed (.subscribe tickers) reply)
    | .performed (.note entry) _ => if entry.component = .watch then some (.logged entry) else none
    | _ => none

/-- Whether the log shows just what has been noted. -/
def IsFaithful (occurrences : List Occurrence) : Prop :=
  sightsOf occurrences = notedOf occurrences

@[simp] theorem sightsOf_append (first second : List Occurrence) :
    sightsOf (first ++ second) = sightsOf first ++ sightsOf second :=
  List.filter_append first second

@[simp] theorem notedOf_append (first second : List Occurrence) :
    notedOf (first ++ second) = notedOf first ++ notedOf second :=
  List.filterMap_append

/-- What is merely written is not noted. -/
@[simp] theorem notedOf_map_logged (entries : List Entry) : notedOf (entries.map .logged) = [] := by
  simp [notedOf]

/-- What is noted are deeds. -/
theorem notedOf_deedsOf (occurrences : List Occurrence) :
    notedOf (deedsOf occurrences) = notedOf occurrences := by
  induction occurrences with
  | nil => rfl
  | cons occurrence rest inductionHypothesis =>
    cases occurrence with
    | logged entry => exact inductionHypothesis
    | called callback => exact congrArg (notedOf [.called callback] ++ ·) inductionHypothesis
    | performed request reply =>
      rw [← List.singleton_append, notedOf_append, ← inductionHypothesis, ← notedOf_append]
      rfl
    | asked channels => exact congrArg (notedOf [.asked channels] ++ ·) inductionHypothesis

/-- Channels are asked for in sight. -/
theorem requestsOf_sightsOf (channelPrefix : String) (occurrences : List Occurrence) :
    requestsOf channelPrefix (sightsOf occurrences) = requestsOf channelPrefix occurrences := by
  induction occurrences with
  | nil => rfl
  | cons occurrence rest inductionHypothesis =>
    have first : requestsOf channelPrefix (sightsOf [occurrence]) =
        requestsOf channelPrefix [occurrence] := by
      cases occurrence with
      | performed request reply => cases request <;> rfl
      | logged entry =>
        by_cases own : entry.component = .watch
        · simp [sightsOf, own]
        · simp [sightsOf, own]
      | _ => rfl
    rw [← List.singleton_append, sightsOf_append, requestsOf_append, requestsOf_append, first,
      inductionHypothesis]

namespace IsFaithful

theorem nil : IsFaithful [] := rfl

theorem append {first second : List Occurrence} (before : IsFaithful first)
    (after : IsFaithful second) : IsFaithful (first ++ second) := by
  rw [IsFaithful, sightsOf_append, notedOf_append, before, after]

/-- Nothing is noted where only others write. -/
theorem others {entries : List Entry} (apart : ∀ entry ∈ entries, entry.component ≠ .watch) :
    IsFaithful (entries.map .logged) := by
  have seen : sightsOf (entries.map .logged) = [] := by
    simpa [sightsOf, List.filter_map] using apart
  rw [IsFaithful, seen, notedOf_map_logged]

end IsFaithful

/-- A sender writes under its own name. -/
theorem component_of_mem_send {sender : Sender} {queue : Queue} {order : Trade.Order}
    {entry : Entry} (written : entry ∈ (sender.send queue order).entries) :
    entry.component = .sender := by
  unfold Sender.send at written
  repeat' split at written
  all_goals
    rcases List.mem_cons.mp written with rfl | rest
    · rfl
    · simp_all [Entry.component]

/-- A request that is no note is performed without a line of a watcher. -/
theorem Desk.isFaithful_perform (desk : Desk) (queue : Queue) (request : Request) :
    IsFaithful ((desk.perform queue request).entries.map .logged
      ++ [.performed request (desk.perform queue request).reply]) := by
  cases request with
  | note entry =>
    by_cases own : entry.component = .watch
    · simp [IsFaithful, perform, sightsOf, notedOf, own]
    · simp [IsFaithful, perform, sightsOf, notedOf, own]
  | subscribe tickers =>
    refine .append (.others ?_) rfl
    simp [perform, Entry.component]
  | send order =>
    refine .append (.others fun entry written => ?_) rfl
    rw [component_of_mem_send written]
    decide
  | sendUsual shorthand ticker volume price orderType =>
    refine .append (.others fun entry written => ?_) rfl
    rw [component_of_mem_send written]
    decide
  | cancel orderId =>
    refine .append (.others ?_) rfl
    simp [perform, Sender.cancel, Entry.component]
  | _ => rfl

/-- A program writes what it notes. -/
theorem Program.isFaithful_run {Result : Type} (program : Program Result) (desk : Desk)
    (queue : Queue) : IsFaithful (program.run desk queue).occurrences := by
  induction program generalizing desk queue with
  | done result => exact .nil
  | act request next inductionHypothesis =>
    let performed := desk.perform queue request
    have later := inductionHypothesis performed.reply performed.desk performed.queue
    have both := (desk.isFaithful_perform queue request).append later
    rwa [List.append_assoc] at both

variable {Memory State : Type}

/-- Nothing is noted where a run does everything by itself. -/
theorem IsFaithful.of_own {occurrences : List Occurrence}
    (own : ∀ occurrence ∈ occurrences, occurrence.IsOwn) : IsFaithful occurrences := by
  induction occurrences with
  | nil => exact .nil
  | cons occurrence rest inductionHypothesis =>
    obtain ⟨first, others⟩ := List.forall_mem_cons.mp own
    have single : IsFaithful [occurrence] := by
      cases first with
      | @written entry component =>
        exact show IsFaithful ([entry].map .logged) from .others (by simp [component])
      | asked channels => rfl
    exact single.append (inductionHypothesis others)

/-- The log shows just what is noted in a change of a run. -/
theorem Change.Calls.isFaithful {strategy : Strategy Memory} {change : Change Memory}
    {run : Run Memory} (calls : change.Calls strategy run) : IsFaithful (change run).2 := by
  cases calls with
  | silent isSilent same =>
    have alike : change run = _ := same run.queue
    rw [alike]
    exact .of_own (isSilent.own run)
  | @once before after callback first last same =>
    have alike : change run = _ := same run.queue
    have called : IsFaithful [.called callback] := rfl
    rw [alike]
    exact ((IsFaithful.of_own (first.own run)).append
      (called.append (Program.isFaithful_run _ _ _))).append (.of_own (last.own _))

/-- Whether a feed writes nothing under the name of a watcher. -/
structure Feed.IsApart (feed : Feed State) : Prop where
  subscribe : ∀ state channels, ∀ entry ∈ (feed.subscribe state channels).2.2,
    entry.component ≠ .watch
  next : ∀ state, ∀ entry ∈ (feed.next state).2.2, entry.component ≠ .watch

/-- A script writes nothing. -/
theorem Script.isApart_feed : Script.feed.IsApart where
  subscribe _ _ _ written := by simp [feed] at written
  next _ _ written := by simp [feed] at written

/-- A subscriber writes under the name of the bus. -/
theorem LocalFeed.isApart_feed : LocalFeed.feed.IsApart where
  subscribe seat channels entry written := by
    suffices entry.component = .bus by simp [this]
    change entry ∈ (seat.subscriber.subscribe channels).2 at written
    generalize seat.subscriber = subscriber at written
    induction channels generalizing subscriber with
    | nil => simp [Bus.Subscriber.subscribe] at written
    | cons channel rest inductionHypothesis =>
      unfold Bus.Subscriber.subscribe at written
      split at written
      · exact inductionHypothesis subscriber written
      · rcases List.mem_cons.mp written with rfl | later
        · rfl
        · exact inductionHypothesis _ later
  next seat entry written := by
    suffices entry.component = .bus by simp [this]
    have caught : entry ∈ (seat.subscriber.catchUp seat.room).2 := by
      simp only [feed, Bus.Subscriber.receive] at written
      split at written <;> exact written
    unfold Bus.Subscriber.catchUp at caught
    split at caught
    · simp at caught
    · rw [List.mem_singleton.mp caught]
      rfl

/-- Following a run over such a feed shows what is noted. -/
theorem Run.isFaithful_follow {strategy : Strategy Memory} {feed : Feed State} {state : State}
    {run : Run Memory} (apart : feed.IsApart) :
    IsFaithful (run.follow strategy feed state).occurrences := by
  fun_induction answers strategy feed state run with
  | case1 state run ends =>
    rw [follow_of_finished ends]
    exact .nil
  | case2 state run channels waits answer inductionHypothesis =>
    rw [follow_of_subscribe waits]
    exact ((IsFaithful.others (apart.subscribe state channels)).append
      (calls_subscribed strategy _ run).isFaithful).append inductionHypothesis
  | case3 state run waits nothing =>
    rw [follow_of_waiting waits nothing]
    exact .others (apart.next state)
  | case4 state run waits delivery delivered inductionHypothesis =>
    rw [follow_of_delivery waits delivered]
    exact ((IsFaithful.others (apart.next state)).append
      (calls_received strategy delivery run).isFaithful).append inductionHypothesis

/-- What the log of a run shows is what its strategy notes. -/
theorem Host.isFaithful_run (strategy : Strategy Memory) {feed : Feed State} (apart : feed.IsApart)
    (state : State) (host : Host Memory) (queue : Queue) :
    IsFaithful (host.run strategy feed state queue).occurrences := by
  have starts : IsFaithful (host.start strategy queue).2 :=
    (Run.calls_start strategy ⟨host, queue, ⟨0, 0, 0⟩, .receiving⟩).isFaithful
  exact (starts.append (Run.isFaithful_follow apart)).append
    (Run.calls_cancel strategy _).isFaithful

end StrategyHost.Strategy
