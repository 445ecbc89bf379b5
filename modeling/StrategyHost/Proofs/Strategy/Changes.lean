import StrategyHost.Proofs.Strategy.Answers

/-!
# What the changes of a run are made of

A run goes from stage to stage, counts, writes to the log, and asks for channels, and for none of
this it looks at the outbound queue. Apart from that it calls its strategy once at most, whatever it
hears (`Run.calls_hear`). So what these silent changes keep and a callback keeps is kept by every
change of a run.
-/

namespace StrategyHost.Strategy

variable {Memory : Type}

/-- What a run does by itself: it writes under its own name and asks for channels. -/
inductive Occurrence.IsOwn : Occurrence -> Prop where
  | written {entry : Journal.Entry} (component : entry.component = .runtime) :
      IsOwn (.logged entry)
  | asked (channels : List String) : IsOwn (.asked channels)

/-- What a run does by itself calls no callback. -/
theorem callbacksOf_of_own {occurrences : List Occurrence}
    (own : ∀ occurrence ∈ occurrences, occurrence.IsOwn) : callbacksOf occurrences = [] := by
  refine List.filterMap_eq_nil_iff.mpr fun occurrence member => ?_
  cases own occurrence member <;> rfl

namespace Change

/-- Whether a change is made by the run alone, which leaves the queue as it is and does the same
beside any queue. -/
structure IsSilent (change : Change Memory) : Prop where
  apart : ∀ run queue, change { run with queue := queue } =
    ({ (change run).1 with queue := queue }, (change run).2)
  own : ∀ run, ∀ occurrence ∈ (change run).2, occurrence.IsOwn

namespace IsSilent

variable {first second : Change Memory}

theorem andThen (before : first.IsSilent) (after : second.IsSilent) :
    (first.andThen second).IsSilent where
  apart run queue := by
    simp only [Change.andThen, before.apart run queue, after.apart (first run).1 queue]
  own run := List.forall_mem_append.mpr ⟨before.own run, after.own (first run).1⟩

theorem queue_eq (silent : first.IsSilent) (run : Run Memory) : (first run).1.queue = run.queue :=
  congrArg (fun changed => changed.1.queue) (silent.apart run run.queue)

end IsSilent

theorem isSilent_nothing : IsSilent fun run : Run Memory => (run, []) :=
  ⟨fun _ _ => rfl, by simp⟩

theorem isSilent_log {entry : Journal.Entry} (component : entry.component = .runtime) :
    (log entry : Change Memory).IsSilent :=
  ⟨fun _ _ => rfl, fun _ => by simpa [log] using .written component⟩

theorem isSilent_logExiting :
    (logFrom fun run : Run Memory => .exiting run.host.stage).IsSilent :=
  ⟨fun _ _ => rfl, fun _ => by simpa [logFrom] using .written rfl⟩

theorem isSilent_enter (stage : Stage) : (enter stage : Change Memory).IsSilent :=
  ⟨fun _ _ => rfl, fun _ => by simpa [enter] using .written rfl⟩

theorem isSilent_count (counted : Counts -> Counts) : (count counted : Change Memory).IsSilent :=
  ⟨fun _ _ => rfl, by simp [count]⟩

theorem isSilent_await (phase : Phase) : (await phase : Change Memory).IsSilent :=
  ⟨fun _ _ => rfl, by simp [await]⟩

theorem isSilent_receive (isReceiving : Bool) : (receive isReceiving : Change Memory).IsSilent := by
  cases isReceiving with
  | false =>
    exact ((isSilent_enter .subscribed).andThen (isSilent_enter .running)).andThen
      (isSilent_await .receiving)
  | true => exact isSilent_await .receiving

theorem isSilent_subscribeRequested (isReceiving : Bool) :
    (subscribeRequested isReceiving : Change Memory).IsSilent where
  apart run queue := by
    cases requested : run.host.desk.requested with
    | nil =>
      simp only [subscribeRequested, requested, (isSilent_receive isReceiving).apart run queue]
    | cons channel channels => simp only [subscribeRequested, requested]
  own run := by
    cases requested : run.host.desk.requested with
    | nil => simpa only [subscribeRequested, requested] using (isSilent_receive isReceiving).own run
    | cons channel channels =>
      simp only [subscribeRequested, requested, List.forall_mem_cons]
      exact ⟨.written rfl, .asked _, by simp⟩

theorem isSilent_subscribeResponses : (subscribeResponses : Change Memory).IsSilent where
  apart run queue := by
    cases hears : run.host.desk.responseChannel? with
    | none =>
      simp only [subscribeResponses, hears, (isSilent_subscribeRequested false).apart run queue]
    | some channel => simp only [subscribeResponses, hears]
  own run := by
    cases hears : run.host.desk.responseChannel? with
    | none =>
      simpa only [subscribeResponses, hears] using (isSilent_subscribeRequested false).own run
    | some channel =>
      simpa only [subscribeResponses, hears, List.forall_mem_singleton] using .asked _

/-- What a change does to a run beside any queue: it is silent, or it calls the strategy once
between changes that are. -/
inductive Calls (strategy : Strategy Memory) (change : Change Memory) (run : Run Memory) :
    Prop where
  | silent {part : Change Memory} (isSilent : part.IsSilent)
      (same : ∀ queue, change { run with queue := queue } = part { run with queue := queue })
  | once {before after : Change Memory} (callback : Callback) (first : before.IsSilent)
      (last : after.IsSilent)
      (same : ∀ queue, change { run with queue := queue } =
        ((before.andThen (call strategy callback)).andThen after) { run with queue := queue })

variable {strategy : Strategy Memory} {change other first second : Change Memory} {run : Run Memory}

theorem IsSilent.calls (silent : change.IsSilent) : change.Calls strategy run :=
  .silent silent fun _ => rfl

theorem calls_call (callback : Callback) : (call strategy callback).Calls strategy run :=
  .once callback isSilent_nothing isSilent_nothing fun queue => by simp [andThen]

namespace Calls

theorem congr (calls : other.Calls strategy run)
    (same : ∀ queue, change { run with queue := queue } = other { run with queue := queue }) :
    change.Calls strategy run := by
  cases calls with
  | silent isSilent alsoSame =>
    exact .silent isSilent fun queue => (same queue).trans (alsoSame queue)
  | once callback before after alsoSame =>
    exact .once callback before after fun queue => (same queue).trans (alsoSame queue)

theorem andThen (calls : first.Calls strategy run) (silent : second.IsSilent) :
    (first.andThen second).Calls strategy run := by
  cases calls with
  | silent isSilent same =>
    exact .silent (isSilent.andThen silent) fun queue => by simp only [Change.andThen, same]
  | once callback before after same =>
    refine .once callback before (after.andThen silent) fun queue => ?_
    simp only [Change.andThen, same, List.append_assoc]

theorem after (silent : first.IsSilent) (calls : second.Calls strategy (first run).1) :
    (first.andThen second).Calls strategy run := by
  cases calls with
  | silent isSilent same =>
    refine .silent (silent.andThen isSilent) fun queue => ?_
    simp only [Change.andThen, silent.apart run queue, same]
  | once callback before after same =>
    refine .once callback (silent.andThen before) after fun queue => ?_
    simp only [Change.andThen, silent.apart run queue, same, List.append_assoc]

/-- A change calls one callback at most. -/
theorem length_callbacksOf_le (calls : change.Calls strategy run) :
    (callbacksOf (change run).2).length <= 1 := by
  cases calls with
  | silent isSilent same =>
    have alike : change run = _ := same run.queue
    rw [alike, callbacksOf_of_own (isSilent.own run)]
    exact Nat.zero_le 1
  | once callback first last same =>
    have alike : change run = _ := same run.queue
    rw [alike]
    simp [Change.andThen, callbacksOf_of_own (first.own _), callbacksOf_of_own (last.own _)]

end Calls

theorem calls_finish (strategy : Strategy Memory) (ending : Ending) (run : Run Memory) :
    (finish strategy ending).Calls strategy run :=
  ((Calls.after isSilent_logExiting (calls_call .exit)).andThen (isSilent_enter .exit)).andThen
    (isSilent_await (.finished ending))

theorem calls_dispatch (strategy : Strategy Memory) (message : Bus.Message) (run : Run Memory) :
    (dispatch strategy message).Calls strategy run := by
  cases route : classify message.channel run.host.desk.responseChannel? with
  | response =>
    have responses : (takeResponse strategy message).Calls strategy run := by
      unfold takeResponse
      split
      · exact .after (isSilent_count _) (calls_call _)
      · exact ((isSilent_count _).andThen (isSilent_log rfl)).calls
    exact responses.congr fun queue => by simp only [dispatch, route]
  | tick =>
    have ticks : (takeTick strategy message).Calls strategy run := by
      unfold takeTick
      split
      · exact .after (isSilent_count _) (calls_call _)
      · exact ((isSilent_count _).andThen (isSilent_log rfl)).calls
    exact ticks.congr fun queue => by simp only [dispatch, route]

end Change

namespace Run

open Change

variable (strategy : Strategy Memory)

theorem calls_subscribed (result : Except Failure Unit) (run : Run Memory) :
    (subscribed strategy result).Calls strategy run := by
  obtain ⟨host, queue, counts, phase⟩ := run
  cases phase with
  | subscribingResponses channel =>
    cases result with
    | ok done => exact (isSilent_subscribeRequested false).calls.congr fun _ => rfl
    | error failure => exact (calls_finish strategy (.failed failure) _).congr fun _ => rfl
  | subscribing channels isReceiving =>
    cases result with
    | ok done => exact (isSilent_receive isReceiving).calls.congr fun _ => rfl
    | error failure => exact (calls_finish strategy (.failed failure) _).congr fun _ => rfl
  | _ => cases result <;> exact isSilent_nothing.calls.congr fun _ => rfl

theorem calls_received (delivery : Delivery) (run : Run Memory) :
    (received strategy delivery).Calls strategy run := by
  obtain ⟨host, queue, counts, phase⟩ := run
  cases phase with
  | receiving =>
    cases delivery with
    | message message =>
      exact ((calls_dispatch strategy message _).andThen (isSilent_subscribeRequested true)).congr
        fun _ => rfl
    | closed =>
      have written : ((log .subscriptionClosed : Change Memory).andThen
          (log (.runFinished counts.ticks counts.responses counts.faults))).IsSilent :=
        (isSilent_log rfl).andThen (isSilent_log rfl)
      exact (Calls.after written (calls_finish strategy (.completed counts) _)).congr fun _ => rfl
    | failed failure =>
      have written : (log (.receiveFailed failure) : Change Memory).IsSilent := isSilent_log rfl
      exact (Calls.after written (calls_finish strategy (.failed failure) _)).congr fun _ => rfl
  | _ => cases delivery <;> exact isSilent_nothing.calls.congr fun _ => rfl

/-- Whatever a run hears, it calls its strategy once at most. -/
theorem calls_hear (answer : Answer) (run : Run Memory) :
    (hear strategy answer).Calls strategy run := by
  cases answer with
  | subscribed result => exact calls_subscribed strategy result run
  | offered offer =>
    cases offer with
    | waiting => exact isSilent_nothing.calls
    | delivery delivery => exact calls_received strategy delivery run

/-- So does a run that is abandoned. -/
theorem calls_cancel (run : Run Memory) :
    (Run.cancel strategy : Change Memory).Calls strategy run := by
  obtain ⟨host, queue, counts, phase⟩ := run
  cases phase with
  | finished ending => exact isSilent_nothing.calls.congr fun _ => rfl
  | _ => exact (calls_finish strategy .cancelled _).congr fun _ => rfl

/-- A run begins with a callback. -/
theorem calls_start (run : Run Memory) :
    (((enter .init).andThen (call strategy .init)).andThen subscribeResponses).Calls strategy run :=
  (Calls.after (isSilent_enter .init) (calls_call .init)).andThen isSilent_subscribeResponses

end Run

end StrategyHost.Strategy
