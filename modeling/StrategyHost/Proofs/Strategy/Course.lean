import StrategyHost.Proofs.Strategy.Answers
import StrategyHost.Proofs.Strategy.Passage

/-!
# The course of a run

What a run has gone through by the time it waits for something: its first call and, once
it is receiving, the calls for messages. `Stands` ties the course to the phase that the run
is in, and `Stands.hear` and `Stands.cancel` say that every answer, and being dropped,
takes the run from where it stands to where it may stand next.
-/

namespace StrategyHost.Strategy

open StrategyHost.Outbound (Queue)

variable {Memory : Type}

/-- Whether a subscription fails before anything is offered. -/
def failsAtStart : List Answer -> Bool
  | [] => false
  | .subscribed (.ok ()) :: rest => failsAtStart rest
  | .subscribed (.error _) :: _ => true
  | .offered _ :: _ => false

/-- An answer that is no failed subscription does not change how the start went. -/
theorem failsAtStart_concat {heard : List Answer} {answer : Answer}
    (sound : ∀ failure, answer ≠ .subscribed (.error failure)) :
    failsAtStart (heard ++ [answer]) = failsAtStart heard := by
  induction heard with
  | nil =>
    cases answer with
    | offered offer => rfl
    | subscribed result =>
      cases result with
      | ok done => rfl
      | error failure => exact absurd rfl (sound failure)
  | cons first rest inductionHypothesis =>
    cases first with
    | offered offer => rfl
    | subscribed result =>
      cases result with
      | ok done => exact inductionHypothesis
      | error failure => rfl

/-- Once something has been offered the start is over. -/
theorem failsAtStart_append_of_offered {heard : List Answer} {offer : Offer}
    (offered : .offered offer ∈ heard) (more : List Answer) :
    failsAtStart (heard ++ more) = failsAtStart heard := by
  induction heard with
  | nil => simp at offered
  | cons first rest inductionHypothesis =>
    cases first with
    | offered other => rfl
    | subscribed result =>
      cases result with
      | ok done => exact inductionHypothesis (by simpa using offered)
      | error failure => rfl

/-- What a run has gone through before its end: its first call and, once it is receiving,
the calls for messages. -/
def course : Option (List Callback) -> List Mark
  | none => [.entered .init, .called .init .init]
  | some calls => [.entered .init, .called .init .init, .entered .subscribed, .entered .running]
      ++ calls.map fun callback => .called callback .running

/-- What a run that has ended has gone through. -/
def wholeCourse (calls? : Option (List Callback)) : List Mark :=
  course calls? ++
    [.called .exit (if calls?.isSome then .running else .init), .entered .exit]

/-- Where a run stands that has heard these answers, and what it has gone through. -/
inductive Stands (heard : List Answer) : Run Memory -> List Mark -> Prop where
  /-- No subscription has failed so far, and no message has been asked for. -/
  | startingUp {run : Run Memory} (phase : run.phase.isStartingUp = true)
      (stage : run.host.stage = .init) (sound : failsAtStart heard = false) :
      Stands heard run (course none)
  | receiving {run : Run Memory} {calls : List Callback} (phase : run.phase = .receiving)
      (stage : run.host.stage = .running)
      (forMessages : ∀ callback ∈ calls, callback.isForMessage = true)
      (sound : failsAtStart heard = false) : Stands heard run (course (some calls))
  /-- Something has been offered by now, so a failure is none of the start. -/
  | resubscribing {run : Run Memory} {calls : List Callback} {channels : List String}
      {offer : Offer} (phase : run.phase = .subscribing channels true)
      (stage : run.host.stage = .running)
      (forMessages : ∀ callback ∈ calls, callback.isForMessage = true)
      (sound : failsAtStart heard = false) (offered : .offered offer ∈ heard) :
      Stands heard run (course (some calls))
  | ended {run : Run Memory} {calls? : Option (List Callback)} {ending : Ending}
      (phase : run.phase = .finished ending) (stage : run.host.stage = .exit)
      (forMessages : ∀ calls ∈ calls?, ∀ callback ∈ calls, callback.isForMessage = true)
      (sound : failsAtStart heard = true -> calls? = none) :
      Stands heard run (wholeCourse calls?)

/-- A change takes a run that has gone through these marks to where it stands after these
answers. -/
def Change.Leads (strategy : Strategy Memory) (change : Change Memory) (run : Run Memory)
    (heard : List Answer) (marks : List Mark) : Prop :=
  ∃ more, change.Passes strategy run more ∧ Stands heard (change run).1 (marks ++ more)

/-- Only what a change makes of the run matters. -/
theorem Change.Leads.congr {strategy : Strategy Memory} {change other : Change Memory}
    {run : Run Memory} {heard : List Answer} {marks : List Mark} (same : change run = other run)
    (leads : other.Leads strategy run heard marks) : change.Leads strategy run heard marks := by
  unfold Leads Passes at leads ⊢
  rwa [same]

namespace Change

variable {strategy : Strategy Memory} {run : Run Memory} {heard : List Answer}

/-- A run ends from the stage that it has come to. -/
theorem leads_finish {calls? : Option (List Callback)} (ending : Ending)
    (stage : run.host.stage = if calls?.isSome then .running else .init)
    (forMessages : ∀ calls ∈ calls?, ∀ callback ∈ calls, callback.isForMessage = true)
    (sound : failsAtStart heard = true -> calls? = none) :
    (finish strategy ending).Leads strategy run heard (course calls?) := by
  have passes : (finish strategy ending).Passes strategy run _ := passes_finish ending
  rw [stage] at passes
  exact ⟨_, passes, .ended rfl rfl forMessages sound⟩

/-- What is written to the log beforehand leads nowhere. -/
theorem leads_log_andThen (entry : Journal.Entry) {change : Change Memory} {marks : List Mark}
    (quiet : (Occurrence.logged entry).isQuiet = true)
    (leads : change.Leads strategy run heard marks) :
    ((log entry).andThen change).Leads strategy run heard marks := by
  obtain ⟨more, passes, stands⟩ := leads
  exact ⟨more, (passes_log quiet).andThen passes, stands⟩

theorem leads_of_startsUp {change : Change Memory} (starts : change.StartsUp strategy run)
    (stage : run.host.stage = .init) (sound : failsAtStart heard = false) :
    change.Leads strategy run heard (course none) := by
  cases starts with
  | waits phase same passes =>
    refine ⟨[], passes, ?_⟩
    rw [List.append_nil]
    exact .startingUp phase (same.trans stage) sound
  | receives phase running passes =>
    have begins : course none ++ [.entered .subscribed, .entered .running] = course (some []) := rfl
    refine ⟨_, passes, ?_⟩
    rw [begins]
    exact .receiving phase running (by simp) sound

/-- A message adds its call, if there is one, and the run goes on. -/
theorem leads_message (message : Bus.Message) {calls : List Callback} {offer : Offer}
    (stage : run.host.stage = .running)
    (forMessages : ∀ callback ∈ calls, callback.isForMessage = true)
    (sound : failsAtStart heard = false) (offered : .offered offer ∈ heard) :
    ((dispatch strategy message).andThen (subscribeRequested true)).Leads strategy run heard
      (course (some calls)) := by
  obtain ⟨further, forMessage, kept, dispatches⟩ :=
    passes_dispatch strategy message run
  obtain ⟨phase, same, subscribes⟩ :=
    passes_subscribeRequested_again strategy (dispatch strategy message run).1
  rw [stage] at dispatches
  have both : ∀ callback ∈ calls ++ further, callback.isForMessage = true := by
    intro callback member
    rcases List.mem_append.mp member with before | after
    · exact forMessages callback before
    · exact forMessage callback after
  have whole : course (some calls) ++ (further.map (fun callback => .called callback .running)
      ++ []) = course (some (calls ++ further)) := by
    simp [course]
  refine ⟨_, dispatches.andThen subscribes, ?_⟩
  rw [whole]
  rcases phase with receiving | ⟨channels, subscribing⟩
  · exact .receiving receiving (same.trans (kept.trans stage)) both sound
  · exact .resubscribing subscribing (same.trans (kept.trans stage)) both sound offered

end Change

namespace Answer

/-- A subscription is answered by its result. -/
theorem Fits.subscribed {answer : Answer} {channels : List String}
    (fits : answer.Fits (.subscribe channels)) : ∃ result, answer = .subscribed result := by
  cases answer with
  | subscribed result => exact ⟨result, rfl⟩
  | offered offer => exact fits.elim

/-- The question for a message is answered by what is offered. -/
theorem Fits.offered {answer : Answer} (fits : answer.Fits .receive) :
    ∃ offer, answer = .offered offer := by
  cases answer with
  | subscribed result => exact fits.elim
  | offered offer => exact ⟨offer, rfl⟩

end Answer

namespace Stands

variable {strategy : Strategy Memory} {run : Run Memory} {heard : List Answer}

/-- The answer to a subscription before the first message. -/
theorem leads_startingUp {call : Call} {answer : Answer} (phase : run.phase.isStartingUp = true)
    (stage : run.host.stage = .init) (sound : failsAtStart heard = false)
    (waits : run.call? = some call) (fits : answer.Fits call) :
    (Run.hear strategy answer).Leads strategy run (heard ++ [answer]) (course none) := by
  obtain ⟨channels, rfl⟩ : ∃ channels, call = .subscribe channels := by
    cases waiting : run.phase with
    | subscribingResponses channel =>
      exact ⟨[channel], (by simpa [Run.call?, waiting] using waits.symm)⟩
    | subscribing channels isReceiving =>
      exact ⟨channels, (by simpa [Run.call?, waiting] using waits.symm)⟩
    | receiving | finished => simp [waiting, Phase.isStartingUp] at phase
  obtain ⟨result, rfl⟩ := fits.subscribed
  cases result with
  | ok done =>
    -- After the response channel come the tickers, after the tickers the first message.
    have starts : (Run.hear strategy (.subscribed (.ok done))).StartsUp strategy run := by
      cases waiting : run.phase with
      | subscribingResponses channel =>
        refine .congr ?_ (Change.startsUp_subscribeRequested run)
        simp [Run.hear, Run.subscribed, waiting]
      | subscribing channels isReceiving =>
        obtain rfl : isReceiving = false := by
          cases isReceiving
          · rfl
          · simp [waiting, Phase.isStartingUp] at phase
        refine .congr ?_ (Change.startsUp_receive run)
        simp [Run.hear, Run.subscribed, waiting]
      | receiving | finished => simp [waiting, Phase.isStartingUp] at phase
    refine Change.leads_of_startsUp starts stage ?_
    rw [failsAtStart_concat (by simp)]
    exact sound
  | error failure =>
    refine .congr ?_ (Change.leads_finish (.failed failure) stage (by simp) (fun _ => rfl))
    cases waiting : run.phase with
    | subscribingResponses channel => simp [Run.hear, Run.subscribed, waiting]
    | subscribing channels isReceiving => simp [Run.hear, Run.subscribed, waiting]
    | receiving | finished => simp [waiting, Phase.isStartingUp] at phase

/-- What is offered to a run that is receiving. -/
theorem leads_receiving {calls : List Callback} {offer : Offer} (phase : run.phase = .receiving)
    (stage : run.host.stage = .running)
    (forMessages : ∀ callback ∈ calls, callback.isForMessage = true)
    (sound : failsAtStart heard = false) :
    (Run.hear strategy (.offered offer)).Leads strategy run (heard ++ [.offered offer])
      (course (some calls)) := by
  have still : failsAtStart (heard ++ [.offered offer]) = false := by
    rw [failsAtStart_concat (by simp)]
    exact sound
  have ends (ending : Ending) : (Change.finish strategy ending).Leads strategy run
      (heard ++ [.offered offer]) (course (some calls)) :=
    Change.leads_finish ending stage (by simpa using forMessages) (by simp [still])
  cases offer with
  | waiting =>
    have stays : Stands (heard ++ [.offered .waiting]) run (course (some calls)) :=
      .receiving phase stage forMessages still
    exact ⟨[], .start, by rwa [List.append_nil]⟩
  | delivery delivery =>
    cases delivery with
    | message message =>
      have offered : .offered (.delivery (.message message)) ∈
          heard ++ [.offered (.delivery (.message message))] :=
        List.mem_append_right heard (List.mem_singleton.mpr rfl)
      refine .congr ?_ (Change.leads_message message stage forMessages still offered)
      simp [Run.hear, Run.received, phase]
    | closed =>
      have finishes := Change.leads_log_andThen
        (.runFinished run.counts.ticks run.counts.responses run.counts.faults) rfl
        (ends (.completed run.counts))
      refine .congr ?_ (Change.leads_log_andThen .subscriptionClosed rfl finishes)
      simp [Run.hear, Run.received, phase, Change.andThen, Change.log]
    | failed failure =>
      refine .congr ?_ (Change.leads_log_andThen (.receiveFailed failure) rfl
        (ends (.failed failure)))
      simp [Run.hear, Run.received, phase]

/-- The answer to a subscription between messages. -/
theorem leads_resubscribing {calls : List Callback} {channels : List String} {offer : Offer}
    {result : Except Failure Unit} (phase : run.phase = .subscribing channels true)
    (stage : run.host.stage = .running)
    (forMessages : ∀ callback ∈ calls, callback.isForMessage = true)
    (sound : failsAtStart heard = false) (offered : .offered offer ∈ heard) :
    (Run.hear strategy (.subscribed result)).Leads strategy run (heard ++ [.subscribed result])
      (course (some calls)) := by
  have still : failsAtStart (heard ++ [.subscribed result]) = false := by
    rw [failsAtStart_append_of_offered offered]
    exact sound
  cases result with
  | ok done =>
    have receives : Run.hear strategy (.subscribed (.ok done)) run =
        Change.receive true run := by
      simp [Run.hear, Run.subscribed, phase]
    refine .congr receives ⟨[], Change.passes_receive_again, ?_⟩
    rw [List.append_nil]
    exact .receiving rfl stage forMessages still
  | error failure =>
    refine .congr ?_ (Change.leads_finish (.failed failure) stage (by simpa using forMessages)
      (by simp [still]))
    simp [Run.hear, Run.subscribed, phase]

/-- Any answer to what a run waits for takes it on. -/
theorem hear {marks : List Mark} {call : Call} {answer : Answer} (stands : Stands heard run marks)
    (waits : run.call? = some call) (fits : answer.Fits call) :
    (Run.hear strategy answer).Leads strategy run (heard ++ [answer]) marks := by
  cases stands with
  | startingUp phase stage sound => exact leads_startingUp phase stage sound waits fits
  | receiving phase stage forMessages sound =>
    obtain rfl : .receive = call := by simpa [Run.call?, phase] using waits
    obtain ⟨offer, rfl⟩ := fits.offered
    exact leads_receiving phase stage forMessages sound
  | resubscribing phase stage forMessages sound offered =>
    obtain rfl : .subscribe _ = call := by simpa [Run.call?, phase] using waits
    obtain ⟨result, rfl⟩ := fits.subscribed
    exact leads_resubscribing phase stage forMessages sound offered
  | ended phase => simp [Run.call?, phase] at waits

/-- A run that is dropped ends where it waited; one that has ended is left as it is. -/
theorem cancel {marks : List Mark} (stands : Stands heard run marks) :
    (Run.cancel strategy).Leads strategy run heard marks ∧
      ∃ ending, (run.cancel strategy).1.phase = .finished ending := by
  have ends {calls? : Option (List Callback)} (waits : ∀ ending, run.phase ≠ .finished ending)
      (stage : run.host.stage = if calls?.isSome then .running else .init)
      (forMessages : ∀ calls ∈ calls?, ∀ callback ∈ calls, callback.isForMessage = true)
      (sound : failsAtStart heard = false) :
      (Run.cancel strategy).Leads strategy run heard (course calls?) ∧
        ∃ ending, (run.cancel strategy).1.phase = .finished ending := by
    have finishes : run.cancel strategy = Change.finish strategy .cancelled run := by
      unfold Run.cancel
      split
      next ending phase => exact absurd phase (waits ending)
      next => rfl
    have leads : (Change.finish strategy .cancelled).Leads strategy run heard (course calls?) :=
      Change.leads_finish .cancelled stage forMessages (by simp [sound])
    exact ⟨.congr finishes leads, .cancelled, by rw [finishes]; rfl⟩
  -- In every phase but the last the run ends from the stage that it has come to.
  cases stands with
  | startingUp phase stage sound =>
    have waits : ∀ ending, run.phase ≠ .finished ending := by
      intro ending finished
      simp [finished, Phase.isStartingUp] at phase
    exact ends waits stage (by simp) sound
  | receiving phase stage forMessages sound =>
    exact ends (by simp [phase]) stage (by simpa using forMessages) sound
  | resubscribing phase stage forMessages sound offered =>
    exact ends (by simp [phase]) stage (by simpa using forMessages) sound
  | @ended calls? ending phase stage forMessages sound =>
    have stays : run.cancel strategy = (run, []) := by simp [Run.cancel, phase]
    have stands : Stands heard run (wholeCourse calls?) := .ended phase stage forMessages sound
    refine ⟨⟨[], ?_, ?_⟩, ending, ?_⟩
    · rw [Change.Passes, stays]
      exact .start
    · rwa [stays, List.append_nil]
    · rw [stays]
      exact phase

/-- A run that has ended has gone through its whole course. -/
theorem whole {marks : List Mark} {ending : Ending} (stands : Stands heard run marks)
    (finished : run.phase = .finished ending) :
    ∃ calls?, marks = wholeCourse calls? ∧ run.host.stage = .exit ∧
      (∀ calls ∈ calls?, ∀ callback ∈ calls, callback.isForMessage = true) ∧
      (failsAtStart heard = true -> calls? = none) := by
  cases stands with
  | startingUp phase => simp [finished, Phase.isStartingUp] at phase
  | receiving phase => simp [finished] at phase
  | resubscribing phase => simp [finished] at phase
  | ended phase stage forMessages sound => exact ⟨_, rfl, stage, forMessages, sound⟩

/-- Others may use the queue. -/
theorem withQueue {marks : List Mark} (stands : Stands heard run marks) (queue : Queue) :
    Stands heard { run with queue := queue } marks := by
  cases stands with
  | startingUp phase stage sound => exact .startingUp phase stage sound
  | receiving phase stage forMessages sound => exact .receiving phase stage forMessages sound
  | resubscribing phase stage forMessages sound offered =>
    exact .resubscribing phase stage forMessages sound offered
  | ended phase stage forMessages sound => exact .ended phase stage forMessages sound

end Stands

/-- A run begins with its first call, at the first stage. -/
theorem Host.leads_start (strategy : Strategy Memory) (host : Host Memory) (queue : Queue) :
    ∃ marks, Passage strategy ⟨host, queue, ⟨0, 0, 0⟩, .receiving⟩ marks
        (host.start strategy queue).2 (host.start strategy queue).1 ∧
      Stands [] (host.start strategy queue).1 marks := by
  let initialise : Change Memory := (Change.enter .init).andThen (Change.call strategy .init)
  let initialised : Run Memory := (initialise ⟨host, queue, ⟨0, 0, 0⟩, .receiving⟩).1
  have initial : initialise.Passes strategy ⟨host, queue, ⟨0, 0, 0⟩, .receiving⟩ (course none) :=
    (Change.passes_enter .init).andThen (Change.passes_call .init)
  have leads : Change.subscribeResponses.Leads strategy initialised [] (course none) :=
    Change.leads_of_startsUp (Change.startsUp_subscribeResponses initialised) rfl rfl
  obtain ⟨more, passes, stands⟩ := leads
  exact ⟨course none ++ more, initial.andThen passes, stands⟩

end StrategyHost.Strategy
