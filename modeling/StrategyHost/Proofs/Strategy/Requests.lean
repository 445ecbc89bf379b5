import StrategyHost.Proofs.Strategy.Hearing

/-!
# What becomes of the channels that a strategy asks for

Whatever a run hears, the channels that it then subscribes to and those that its desk keeps
are the ones that were at the desk before and those that the strategy has asked for meanwhile
(`Change.Balances`). The last callback is followed by no subscription, so what it asks for
stays at the desk.
-/

namespace StrategyHost.Strategy

open StrategyHost.Outbound (Queue)

/-- The channels of the tickers that a strategy asks for, in the order in which it does. -/
def requestsOf (channelPrefix : String) (occurrences : List Occurrence) : List String :=
  occurrences.flatMap fun
    | .performed (.subscribe tickers) _ => tickers.map (channelPrefix ++ ·)
    | _ => []

section

variable (channelPrefix : String) (rest : List Occurrence)

@[simp] theorem requestsOf_nil : requestsOf channelPrefix [] = [] := rfl

@[simp] theorem requestsOf_append (first second : List Occurrence) :
    requestsOf channelPrefix (first ++ second) =
      requestsOf channelPrefix first ++ requestsOf channelPrefix second :=
  List.flatMap_append

@[simp] theorem requestsOf_cons_called (callback : Callback) :
    requestsOf channelPrefix (.called callback :: rest) = requestsOf channelPrefix rest := rfl

@[simp] theorem requestsOf_cons_logged (entry : Journal.Entry) :
    requestsOf channelPrefix (.logged entry :: rest) = requestsOf channelPrefix rest := rfl

@[simp] theorem requestsOf_map_logged (entries : List Journal.Entry) :
    requestsOf channelPrefix (entries.map .logged) = [] := by
  induction entries with
  | nil => rfl
  | cons entry rest inductionHypothesis => exact inductionHypothesis

end

namespace Desk

/-- The desk with more channels that have been asked for. -/
def asking (desk : Desk) (channels : List String) : Desk :=
  { desk with requested := desk.requested ++ channels }

@[simp] theorem asking_nil (desk : Desk) : desk.asking [] = desk := by
  simp [asking]

@[simp] theorem asking_asking (desk : Desk) (first second : List String) :
    (desk.asking first).asking second = desk.asking (first ++ second) := by
  simp [asking]

/-- A request changes a desk only by the channels that it asks for. -/
theorem desk_perform (desk : Desk) (queue : Queue) (request : Request) (reply : request.Reply) :
    (desk.perform queue request).desk =
      desk.asking (requestsOf desk.channelPrefix [.performed request reply]) := by
  cases request with
  | subscribe tickers => simp [perform, ask, asking, requestsOf, marketChannel]
  | _ => exact (desk.asking_nil).symm

end Desk

/-- A program changes a desk only by the channels that it asks for. -/
theorem Program.desk_run {Result : Type} (program : Program Result) (desk : Desk) (queue : Queue) :
    (program.run desk queue).desk =
      desk.asking (requestsOf desk.channelPrefix (program.run desk queue).occurrences) := by
  induction program generalizing desk queue with
  | done result => exact (desk.asking_nil).symm
  | act request next inductionHypothesis =>
    let performed := desk.perform queue request
    let rest := run performed.desk performed.queue (next performed.reply)
    let act : Occurrence := .performed request performed.reply
    have asks : performed.desk = desk.asking (requestsOf desk.channelPrefix [act]) :=
      desk.desk_perform queue request performed.reply
    have samePrefix : performed.desk.channelPrefix = desk.channelPrefix := by rw [asks]; rfl
    -- The rest of the program starts from what this request has left.
    have later : rest.desk =
        performed.desk.asking (requestsOf desk.channelPrefix rest.occurrences) := by
      rw [← samePrefix]
      exact inductionHypothesis _ _ _
    calc rest.desk
        = desk.asking (requestsOf desk.channelPrefix ([act] ++ rest.occurrences)) := by
          rw [later, asks, Desk.asking_asking, requestsOf_append]
      _ = desk.asking (requestsOf desk.channelPrefix
            (performed.entries.map .logged ++ ([act] ++ rest.occurrences))) := by
          rw [requestsOf_append _ (performed.entries.map .logged), requestsOf_map_logged,
            List.nil_append]

variable {Memory : Type}

/-- The channels of the subscription that a run waits for. -/
def Run.outstanding (run : Run Memory) : List String :=
  match run.call? with
  | some (.subscribe channels) => channels
  | _ => []

namespace Change

/-- A change of a run that changes its desk only by the channels that are asked for. -/
def IsQuiet (change : Change Memory) (run : Run Memory) : Prop :=
  (change run).1.host.desk =
    run.host.desk.asking (requestsOf run.host.desk.channelPrefix (change run).2)

/-- What a change subscribes to and leaves at the desk is, after these channels, what was there and
what has been asked for on the way. -/
structure Balances (change : Change Memory) (first : List String) (run : Run Memory) : Prop where
  sender : (change run).1.host.desk.sender = run.host.desk.sender
  channelPrefix : (change run).1.host.desk.channelPrefix = run.host.desk.channelPrefix
  balance : (change run).1.outstanding ++ (change run).1.host.desk.requested =
    first ++ run.host.desk.requested ++ requestsOf run.host.desk.channelPrefix (change run).2

variable {strategy : Strategy Memory} {run : Run Memory} {channels : List String}

/-- Only what a change makes of the run matters. -/
theorem Balances.congr {change other : Change Memory} (same : change run = other run)
    (balances : other.Balances channels run) : change.Balances channels run := by
  obtain ⟨sender, channelPrefix, balance⟩ := balances
  rw [← same] at sender channelPrefix balance
  exact ⟨sender, channelPrefix, balance⟩

/-- What is written to the log beforehand asks for nothing. -/
theorem Balances.logged {change other : Change Memory} {entries : List Journal.Entry}
    (same : change run = ((other run).1, entries.map .logged ++ (other run).2))
    (balances : other.Balances channels run) : change.Balances channels run := by
  obtain ⟨sender, channelPrefix, balance⟩ := balances
  constructor
  all_goals rw [same]
  · exact sender
  · exact channelPrefix
  · rw [requestsOf_append, requestsOf_map_logged, List.nil_append]
    exact balance

/-- A change that balances may be preceded by one that is quiet. -/
theorem IsQuiet.andThen {first second : Change Memory} (quiet : first.IsQuiet run)
    (balances : second.Balances channels (first run).1) :
    (first.andThen second).Balances channels run := by
  obtain ⟨sender, channelPrefix, balance⟩ := balances
  rw [show (first run).1.host.desk = _ from quiet] at sender channelPrefix balance
  refine ⟨sender, channelPrefix, ?_⟩
  simp only [Change.andThen, requestsOf_append]
  rw [balance]
  simp [Desk.asking]

/-- A call is quiet. -/
theorem isQuiet_call (strategy : Strategy Memory) (callback : Callback) (run : Run Memory) :
    (call strategy callback).IsQuiet run :=
  Program.desk_run _ _ _

/-- A message is handled without a subscription. -/
theorem isQuiet_dispatch (strategy : Strategy Memory) (message : Bus.Message) (run : Run Memory) :
    (dispatch strategy message).IsQuiet run := by
  cases readable : Callback.ofMessage? run.host.desk.responseChannel? message with
  | none =>
    obtain ⟨entry, skipped⟩ := dispatch_unreadable strategy readable
    rw [IsQuiet, skipped]
    exact (Desk.asking_nil _).symm
  | some callback =>
    rw [IsQuiet, dispatch_readable readable]
    exact isQuiet_call strategy callback
      { run with counts := run.counts.plus (.one (some callback)) }

/-- On the way to a message nothing is subscribed to. -/
theorem balances_receive (isReceiving : Bool) (run : Run Memory) :
    (receive isReceiving).Balances [] run := by
  cases isReceiving
  · exact ⟨rfl, rfl, (List.append_nil _).symm⟩
  · exact ⟨rfl, rfl, (List.append_nil _).symm⟩

/-- All that is at the desk is subscribed to. -/
theorem balances_subscribeRequested (isReceiving : Bool) (run : Run Memory) :
    (subscribeRequested isReceiving).Balances [] run := by
  cases requested : run.host.desk.requested with
  | nil =>
    refine .congr ?_ (balances_receive isReceiving run)
    simp [subscribeRequested, requested]
  | cons channel channels =>
    have changes : subscribeRequested isReceiving run =
        ({ run with
            host := { run.host with desk := run.host.desk.cleared }
            phase := .subscribing (channel :: channels) isReceiving },
          [.logged (.subscribing (channel :: channels)), .asked (channel :: channels)]) := by
      simp [subscribeRequested, requested]
    constructor
    all_goals rw [changes]
    · rfl
    · rfl
    · rw [requested]
      rfl

/-- The response channel comes before what is at the desk. -/
theorem balances_subscribeResponses (run : Run Memory) :
    subscribeResponses.Balances run.host.desk.responseChannel?.toList run := by
  cases hears : run.host.desk.responseChannel? with
  | none =>
    refine .congr ?_ (balances_subscribeRequested false run)
    simp [subscribeResponses, hears]
  | some channel =>
    have changes : subscribeResponses run =
        ({ run with phase := .subscribingResponses channel }, [.asked [channel]]) := by
      simp [subscribeResponses, hears]
    constructor
    all_goals rw [changes]
    exact (List.append_nil _).symm

/-- The end of a run, with its last callback between two entries of the log. -/
theorem finish_eq (strategy : Strategy Memory) (ending : Ending) (run : Run Memory) :
    (finish strategy ending run).1.host.desk = (call strategy .exit run).1.host.desk ∧
      ∃ first last, (finish strategy ending run).2 =
        [.logged first] ++ (call strategy .exit run).2 ++ [.logged last] := by
  refine ⟨rfl, .exiting run.host.stage, .stageChanged run.host.stage .exit, ?_⟩
  simp [finish, andThen, logFrom, enter, await, call]

/-- The last callback is followed by no subscription. -/
theorem balances_finish (strategy : Strategy Memory) (ending : Ending) (run : Run Memory) :
    (finish strategy ending).Balances [] run := by
  obtain ⟨desk, first, last, occurrences⟩ := finish_eq strategy ending run
  have quiet := isQuiet_call strategy .exit run
  constructor
  all_goals rw [desk, quiet]
  · rfl
  · rfl
  · rw [occurrences]
    simp [Run.outstanding, Run.call?, phase_finish, Desk.asking]

end Change

/-- What happens up to the last callback and in it, which has left these channels at the desk. -/
def Parts (channelPrefix : String) (occurrences : List Occurrence) (requested : List String) :
    Prop :=
  ∃ before during, occurrences = before ++ .called .exit :: during ∧ callbacksOf during = [] ∧
    requested = requestsOf channelPrefix during

/-- What happens before does not matter. -/
theorem Parts.after {channelPrefix : String} {occurrences : List Occurrence}
    {requested : List String} (parts : Parts channelPrefix occurrences requested)
    (earlier : List Occurrence) : Parts channelPrefix (earlier ++ occurrences) requested := by
  obtain ⟨before, during, rfl, quiet, same⟩ := parts
  exact ⟨earlier ++ before, during, by simp, quiet, same⟩

/-- A run that has nothing at its desk leaves what its last callback asks for. -/
theorem Change.parts_finish {run : Run Memory} (strategy : Strategy Memory) (ending : Ending)
    (requested : run.host.desk.requested = []) :
    Parts run.host.desk.channelPrefix (finish strategy ending run).2
      (finish strategy ending run).1.host.desk.requested := by
  obtain ⟨desk, first, last, occurrences⟩ := finish_eq strategy ending run
  let outcome := run.scene.outcome strategy .exit
  refine ⟨[.logged first], outcome.occurrences ++ [.logged last], ?_, ?_, ?_⟩
  · rw [occurrences]
    simp [call, outcome, Scene.outcome, Run.scene, Host.scene]
  · simp [outcome, Scene.outcome]
  · have quiet : (call strategy .exit run).1.host.desk = _ := isQuiet_call strategy .exit run
    rw [desk, quiet]
    simp [Desk.asking, requested, call, outcome, Scene.outcome, Run.scene, Host.scene]

namespace Run

variable {strategy : Strategy Memory} {run : Run Memory}

/-- Whatever a run hears, it keeps account of what the strategy has asked for. -/
theorem balances_hear {call : Call} {answer : Answer} (waits : run.call? = some call)
    (fits : answer.Fits call) : (hear strategy answer).Balances [] run := by
  cases phase : run.phase with
  | subscribingResponses channel =>
    obtain rfl : .subscribe [channel] = call := by simpa [call?, phase] using waits
    obtain ⟨result, rfl⟩ := fits.subscribed
    cases result with
    | ok done =>
      refine .congr ?_ (Change.balances_subscribeRequested false run)
      simp [hear, subscribed, phase]
    | error failure =>
      refine .congr ?_ (Change.balances_finish strategy (.failed failure) run)
      simp [hear, subscribed, phase]
  | subscribing channels isReceiving =>
    obtain rfl : .subscribe channels = call := by simpa [call?, phase] using waits
    obtain ⟨result, rfl⟩ := fits.subscribed
    cases result with
    | ok done =>
      refine .congr ?_ (Change.balances_receive isReceiving run)
      simp [hear, subscribed, phase]
    | error failure =>
      refine .congr ?_ (Change.balances_finish strategy (.failed failure) run)
      simp [hear, subscribed, phase]
  | receiving =>
    obtain rfl : .receive = call := by simpa [call?, phase] using waits
    obtain ⟨offer, rfl⟩ := fits.offered
    cases offer with
    | waiting =>
      refine ⟨rfl, rfl, ?_⟩
      simp [hear, outstanding, call?, phase]
    | delivery delivery =>
      cases delivery with
      | message message =>
        refine .congr ?_ ((Change.isQuiet_dispatch strategy message run).andThen
          (Change.balances_subscribeRequested true _))
        simp [hear, received, phase]
      | closed =>
        obtain ⟨entries, ends⟩ := received_last strategy none phase
        exact .logged ends (Change.balances_finish strategy _ run)
      | failed failure =>
        obtain ⟨entries, ends⟩ := received_last strategy (some failure) phase
        exact .logged ends (Change.balances_finish strategy _ run)
  | finished ending => simp [call?, phase] at waits

/-- A run that ends while it waits for a message leaves what its last callback asks for. -/
theorem parts_hear {offer : Offer} (waits : run.call? = some .receive)
    (requested : run.host.desk.requested = [])
    (ends : (hear strategy (.offered offer) run).1.call? = none) :
    Parts run.host.desk.channelPrefix (hear strategy (.offered offer) run).2
      (hear strategy (.offered offer) run).1.host.desk.requested := by
  have phase := phase_of_receive waits
  have last (failure? : Option Failure) : Parts run.host.desk.channelPrefix
      (run.received strategy (.last failure?)).2
      (run.received strategy (.last failure?)).1.host.desk.requested := by
    obtain ⟨entries, same⟩ := received_last strategy failure? phase
    rw [same]
    exact (Change.parts_finish strategy _ requested).after _
  cases offer with
  | waiting => simp [hear, waits] at ends
  | delivery delivery =>
    cases delivery with
    | message message =>
      have goesOn : (hear strategy (.offered (.delivery (.message message))) run).1.call?.isSome :=
        isSome_call?_received waits
      simp [ends] at goesOn
    | closed => exact last none
    | failed failure => exact last (some failure)

end Run

/-- A run begins by subscribing to the response channel, and then to what is at its desk. -/
theorem Host.balances_start (strategy : Strategy Memory) (host : Host Memory) (queue : Queue) :
    ((Change.enter .init |>.andThen (Change.call strategy .init)).andThen
        Change.subscribeResponses).Balances host.desk.responseChannel?.toList
      ⟨host, queue, ⟨0, 0, 0⟩, .receiving⟩ := by
  let initial : Run Memory := ⟨host, queue, ⟨0, 0, 0⟩, .receiving⟩
  let called := Change.enter .init |>.andThen (Change.call strategy .init)
  have quiet : called.IsQuiet initial :=
    Change.isQuiet_call strategy .init (Change.enter .init initial).1
  have hears : (called initial).1.host.desk.responseChannel? = host.desk.responseChannel? :=
    Change.responseChannel?_call strategy .init (Change.enter .init initial).1
  have balances := Change.balances_subscribeResponses (called initial).1
  rw [hears] at balances
  exact quiet.andThen balances

end StrategyHost.Strategy
