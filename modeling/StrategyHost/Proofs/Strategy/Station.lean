import StrategyHost.Proofs.Bus.Subscription
import StrategyHost.Proofs.Strategy.Requests

/-!
# A run on a local bus

A run together with the local bus that its subscriber is on. The relation `Station.Step`
admits the steps of the run, each call of which the bus answers at once, and anything that
others do with the bus or the queue meanwhile. `Runs` puts run after run, where each finds
what the one before it has left.
-/

namespace StrategyHost.Strategy

open StrategyHost.Bus (Action Local Subscriber)
open StrategyHost.Outbound (Queue)

variable {Memory : Type}

/-- A run and the bus that its subscriber is on. -/
structure Station (Memory : Type) where
  undertaking : Undertaking Memory
  bus : Local

/-- Whether an action is something else than what only the owner of a subscriber can do. -/
def IsForeign (number : Nat) : Action -> Prop
  | .subscribe subscriber _ | .receive subscriber | .dropSubscriber subscriber =>
    subscriber ≠ number
  | _ => True

namespace Station

/-- One step of the run or of others, with what the run hears, what happens, and what is done with
the bus. -/
inductive Step (strategy : Strategy Memory) (number : Nat) : Station Memory -> List Answer ->
    List Occurrence -> List Bus.Event -> Station Memory -> Prop where
  | begin {host : Host Memory} {queue : Queue} {bus : Local} :
      Step strategy number ⟨.untouched host queue, bus⟩ [] (host.start strategy queue).2 []
        ⟨.begun (host.start strategy queue).1, bus⟩
  /-- A local bus never refuses a subscription. -/
  | subscribe {run : Run Memory} {bus : Local} {channels : List String}
      (waits : run.call? = some (.subscribe channels)) :
      Step strategy number ⟨.begun run, bus⟩ [.subscribed (.ok ())]
        (run.hear strategy (.subscribed (.ok ()))).2 [bus.event (.subscribe number channels)]
        ⟨.begun (run.hear strategy (.subscribed (.ok ()))).1,
          bus.after (.subscribe number channels)⟩
  | receive {run : Run Memory} {bus : Local} {receipt : Bus.Receipt}
      (waits : run.call? = some .receive)
      (told : (bus.perform (.receive number)).1 = .received receipt) :
      Step strategy number ⟨.begun run, bus⟩ [.offered (LocalFeed.offer receipt)]
        (run.hear strategy (.offered (LocalFeed.offer receipt))).2 [bus.event (.receive number)]
        ⟨.begun (run.hear strategy (.offered (LocalFeed.offer receipt))).1,
          bus.after (.receive number)⟩
  | queue {station : Station Memory} (queue : Queue) :
      Step strategy number station [] [] []
        { station with undertaking := station.undertaking.withQueue queue }
  | others {station : Station Memory} (action : Action) (foreign : IsForeign number action) :
      Step strategy number station [] [] [station.bus.event action]
        { station with bus := station.bus.after action }

/-- Any number of steps. -/
inductive Steps (strategy : Strategy Memory) (number : Nat) (first : Station Memory) :
    List Answer -> List Occurrence -> List Bus.Event -> Station Memory -> Prop where
  | refl : Steps strategy number first [] [] [] first
  | step {heard answers : List Answer} {occurrences more : List Occurrence}
      {events further : List Bus.Event} {station next : Station Memory}
      (prior : Steps strategy number first heard occurrences events station)
      (transition : Step strategy number station answers more further next) :
      Steps strategy number first (heard ++ answers) (occurrences ++ more) (events ++ further) next

/-- Whether no subscription is outstanding. Only then can a run on a local bus be dropped, since a
subscription is answered at once. -/
def IsIdle (station : Station Memory) : Prop :=
  ∀ run channels, station.undertaking = .begun run -> run.call? ≠ some (.subscribe channels)

/-- A run that waits for a message has no subscription outstanding. -/
theorem isIdle_of_receive {run : Run Memory} {bus : Local} (waits : run.call? = some .receive) :
    IsIdle ⟨.begun run, bus⟩ := by
  rintro _ channels ⟨⟩
  simp [waits]

variable {strategy : Strategy Memory} {number : Nat} {first station next : Station Memory}
  {heard answers : List Answer} {occurrences more : List Occurrence}
  {events further : List Bus.Event}

/-- A step of a station is one of its run, or of others. -/
theorem Step.undertaking (step : Step strategy number station answers more further next) :
    Undertaking.Step strategy station.undertaking answers more next.undertaking ∨
      answers = [] ∧ more = [] ∧ next.undertaking = station.undertaking := by
  cases step with
  | begin => exact .inl .begin
  | subscribe waits => exact .inl (.hear waits trivial)
  | receive waits => exact .inl (.hear waits trivial)
  | queue queue => exact .inl (.others queue)
  | others => exact .inr ⟨rfl, rfl, rfl⟩

/-- What a station does its run does. -/
theorem Steps.undertaking (steps : Steps strategy number first heard occurrences events station) :
    Undertaking.Steps strategy first.undertaking heard occurrences station.undertaking := by
  induction steps with
  | refl => exact .refl
  | step _ transition inductionHypothesis =>
    rcases transition.undertaking with moves | ⟨rfl, rfl, same⟩
    · exact inductionHypothesis.step moves
    · rwa [List.append_nil, List.append_nil, same]

/-- Nobody but its owner makes a subscriber leave, and only its owner subscribes it. -/
theorem request_of_isForeign {action : Action} (bus : Local) (foreign : IsForeign number action) :
    (bus.event action).request number = [] ∧ action ≠ .dropSubscriber number := by
  cases action with
  | subscribe other channels =>
    refine ⟨?_, by simp⟩
    unfold Bus.Event.request
    split
    next same =>
      simp only [Local.event, Bus.Event.mk.injEq, Action.subscribe.injEq] at same
      obtain ⟨⟨rfl, rfl⟩, _⟩ := same
      exact if_neg foreign
    next => rfl
  | dropSubscriber other =>
    exact ⟨rfl, fun same => foreign (by simpa using same)⟩
  | _ => exact ⟨rfl, by simp⟩

/-- What a step does with the bus, which is never to make the subscriber leave. -/
theorem Step.bus (step : Step strategy number station answers more further next) {origin : Local}
    (prior : Local.Steps origin events station.bus) :
    Local.Steps origin (events ++ further) next.bus ∧
      ∀ event ∈ further, event.action ≠ .dropSubscriber number := by
  cases step with
  | begin | queue => exact ⟨by rwa [List.append_nil], by simp⟩
  | subscribe | receive => exact ⟨prior.step _, by simp [Local.event]⟩
  | others action foreign =>
    exact ⟨prior.step _, by simp [Local.event, (request_of_isForeign station.bus foreign).2]⟩

/-- What a station does its bus does. -/
theorem Steps.bus (steps : Steps strategy number first heard occurrences events station) :
    Local.Steps first.bus events station.bus ∧
      ∀ event ∈ events, event.action ≠ .dropSubscriber number := by
  induction steps with
  | refl => exact ⟨.refl, by simp⟩
  | step _ transition inductionHypothesis =>
    obtain ⟨before, stays⟩ := inductionHypothesis
    obtain ⟨after, remains⟩ := transition.bus before
    exact ⟨after, List.forall_mem_append.mpr ⟨stays, remains⟩⟩

/-- The subscriber of a run stays, on the channels that it came with and those it has been
subscribed to. -/
theorem Steps.channels {base : Subscriber} (there : first.bus.subscriber? number = some base)
    (steps : Steps strategy number first heard occurrences events station) :
    ∃ subscriber, station.bus.subscriber? number = some subscriber ∧
      ∀ channel, channel ∈ subscriber.channels ↔
        channel ∈ base.channels ∨ channel ∈ Bus.requested number events := by
  obtain ⟨running, stays⟩ := steps.bus
  exact running.channels there stays

end Station

/-- Any number of runs one after the other, with whatever strategies, and the channels that these
have asked for. Between two runs only the desk and the bus are kept. -/
inductive Runs (number : Nat) (desk : Desk) (bus : Local) :
    List String -> Desk -> Local -> Prop where
  | refl : Runs number desk bus [] desk bus
  | run {Memory : Type} {strategy : Strategy Memory} {found : Host Memory} {queue : Queue}
      {heard : List Answer} {occurrences : List Occurrence} {events : List Bus.Event}
      {requests : List String} {between : Local} {station : Station Memory}
      (prior : Runs number desk bus requests found.desk between)
      (steps : Station.Steps strategy number ⟨.untouched found queue, between⟩ heard occurrences
        events station)
      (idle : station.IsIdle) :
      Runs number desk bus
        (requests ++ requestsOf desk.channelPrefix
          (occurrences ++ (station.undertaking.abandon strategy).2))
        (station.undertaking.abandon strategy).1.host.desk station.bus

end StrategyHost.Strategy
