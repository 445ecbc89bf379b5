import StrategyHost.Proofs.Bus.Carrying
import StrategyHost.Proofs.Bus.Closing
import StrategyHost.Proofs.Bus.Delivery

/-!
# One subscriber alone

All that is done with a bus can be done with one on which a certain subscriber is alone: what others
do is left out there, and leaves what that subscriber is told as it is. So two runs that differ in
nothing but what other subscribers do cannot be told apart by a subscriber that is in both, be it on
one ring or not.
-/

namespace StrategyHost.Bus

/-- What an event is to one subscriber, which calls itself 0. What only others do is nothing to it,
and so is whether anyone is there to read what is published. -/
def Event.seenBy? (number : Nat) : Event -> Option Event
  | ⟨.addSubscriber, result, entries⟩ =>
    if result = .number number then some ⟨.addSubscriber, .number 0, entries⟩ else none
  | ⟨.dropSubscriber other, result, entries⟩ =>
    if other = number then some ⟨.dropSubscriber 0, result, entries⟩ else none
  | ⟨.subscribe other channels, result, entries⟩ =>
    if other = number then some ⟨.subscribe 0 channels, result, entries⟩ else none
  | ⟨.isSubscribed other channel, result, entries⟩ =>
    if other = number then some ⟨.isSubscribed 0 channel, result, entries⟩ else none
  | ⟨.receive other, result, entries⟩ =>
    if other = number then some ⟨.receive 0, result, entries⟩ else none
  | ⟨.publish publisher message, result, _⟩ => some ⟨.publish publisher message, result, []⟩
  | event => some event

/-- What of a run one subscriber has to do with. -/
def seen (number : Nat) (events : List Event) : List Event :=
  events.filterMap (Event.seenBy? number)

theorem seen_concat (number : Nat) (events : List Event) (event : Event) :
    seen number (events ++ [event]) = seen number events ++ (event.seenBy? number).toList := by
  cases sees : event.seenBy? number <;> simp [seen, sees]

/-- A publisher has come, and nobody has made it leave. -/
structure HasPublisher (publisher : Nat) (events : List Event) : Prop where
  came : ∃ event ∈ events, event.result = .number publisher ∧ event.action ≠ .addSubscriber
  stayed : ∀ event ∈ events, event.action ≠ .dropPublisher publisher

/-- Whatever is published by a publisher that is there is accepted. -/
def AcceptsAll (events : List Event) : Prop :=
  ∀ before publisher message result entries after,
    events = before ++ ⟨.publish publisher message, result, entries⟩ :: after ->
      HasPublisher publisher before -> result = .done

namespace Local

/-- The bus on which one subscriber is alone, if it has been created. -/
def alone (bus : Local) (number : Nat) : Local :=
  { bus with subscribers := bus.subscribers[number]?.toList }

section

variable (bus : Local) (number : Nat)

theorem subscriber?_alone : (bus.alone number).subscriber? 0 = bus.subscriber? number := by
  unfold alone subscriber?
  cases bus.subscribers[number]? <;> rfl

theorem alone_setSubscriber (subscriber? : Option Subscriber) :
    (bus.setSubscriber number subscriber?).alone number =
      (bus.alone number).setSubscriber 0 subscriber? := by
  simp only [alone, setSubscriber, List.getElem?_set_self']
  cases bus.subscribers[number]? <;> rfl

theorem alone_setSubscriber_of_ne {other : Nat} (differs : other ≠ number)
    (subscriber? : Option Subscriber) :
    (bus.setSubscriber other subscriber?).alone number = bus.alone number := by
  simp only [alone, setSubscriber, List.getElem?_set_ne differs]

/-- One who comes after the subscriber, or before it, does not matter. -/
theorem alone_join_of_ne (differs : bus.subscribers.length ≠ number) :
    alone { bus with subscribers := bus.subscribers ++ [some .fresh] } number =
      bus.alone number := by
  have same : (bus.subscribers ++ [some .fresh])[number]? = bus.subscribers[number]? := by
    rcases Nat.lt_or_gt_of_ne differs with beyond | before
    · rw [List.getElem?_eq_none (by simpa using beyond),
        List.getElem?_eq_none (Nat.le_of_lt beyond)]
    · exact List.getElem?_append_left before
  simp only [alone, same]

theorem alone_publish (message : Message) :
    (bus.publish message).1.alone number = ((bus.alone number).publish message).1 := by
  simp only [publish_fst, alone, List.getElem?_map]
  cases bus.subscribers[number]? <;> rfl

end

/-- What becomes of the bus on which a subscriber is alone: nothing where the subscriber sees
nothing, and what the subscriber sees otherwise. -/
inductive Mirrors (number : Nat) (lone : Local) (event : Event) (after : Local) : Prop where
  | unseen (hidden : event.seenBy? number = none) (same : after = lone)
  | seen (own : Event) (shown : event.seenBy? number = some own)
      (mirrored : (lone.event own.action).seenBy? 0 = some own)
      (same : after = lone.after own.action)

/-- An action that the subscriber sees as its own is mirrored if it has the same result and the same
entries where the subscriber is alone. -/
theorem Mirrors.of_perform {number : Nat} {bus : Local} {action own : Action}
    (shown : ∀ result entries, Event.seenBy? number ⟨action, result, entries⟩ =
      some ⟨own, result, entries⟩)
    (ownShown : ∀ result entries, Event.seenBy? 0 ⟨own, result, entries⟩ =
      some ⟨own, result, entries⟩)
    (performs : (bus.alone number).perform own =
      ((bus.perform action).1, (bus.perform action).2.1.alone number, (bus.perform action).2.2)) :
    Mirrors number (bus.alone number) (bus.event action) ((bus.after action).alone number) := by
  refine .seen ⟨own, (bus.perform action).1, (bus.perform action).2.2⟩ (shown _ _) ?_ ?_
  · simp only [event, performs]
    exact ownShown _ _
  · simp only [after, performs]

/-- Whoever comes is the subscriber itself, or is not seen by it. -/
theorem mirrors_addSubscriber (bus : Local) (number : Nat) :
    Mirrors number (bus.alone number) (bus.event .addSubscriber)
      ((bus.after .addSubscriber).alone number) := by
  by_cases isHeld : bus.isHeld
  · have performs : bus.perform .addSubscriber = (.number bus.subscribers.length,
        { bus with subscribers := bus.subscribers ++ [some .fresh] }, []) := if_pos isHeld
    by_cases isOwn : bus.subscribers.length = number
    · subst isOwn
      have nobody : bus.alone bus.subscribers.length = { bus with subscribers := [] } := by
        simp [alone]
      have ownPerforms : (bus.alone bus.subscribers.length).perform .addSubscriber =
          (.number 0, { bus with subscribers := [some .fresh] }, []) := by
        rw [nobody]
        exact if_pos isHeld
      refine .seen ⟨.addSubscriber, .number 0, []⟩ ?_ ?_ ?_
      · simp only [event, performs]
        exact if_pos rfl
      · simp only [event, ownPerforms]
        rfl
      · simp only [after, performs, ownPerforms]
        simp [alone]
    · refine .unseen ?_ ?_
      · simp only [event, performs]
        exact if_neg (by simpa using isOwn)
      · rw [after, performs]
        exact bus.alone_join_of_ne number isOwn
  · have refused : bus.perform .addSubscriber = (.noBus, bus, []) := if_neg isHeld
    refine .unseen ?_ ?_
    · simp only [event, refused]
      rfl
    · simp only [after, refused]

/-- Every action is mirrored. -/
theorem mirrors_perform (bus : Local) (number : Nat) (action : Action) :
    Mirrors number (bus.alone number) (bus.event action) ((bus.after action).alone number) := by
  -- Apart from one who comes, and from what is published, an action is the subscriber's own or
  -- nobody's in particular, or it is another's and replaces only that one.
  have held : (bus.alone number).isHeld = bus.isHeld := rfl
  have room : (bus.alone number).room = bus.room := rfl
  have live : (bus.alone number).isLive = bus.isLive := rfl
  have there (publisher : Nat) :
      (bus.alone number).hasPublisher publisher = bus.hasPublisher publisher := rfl
  cases action with
  | addPublisher | shareBus =>
    refine .of_perform (fun _ _ => rfl) (fun _ _ => rfl) ?_
    simp only [perform, held]
    split <;> rfl
  | sharePublisher publisher =>
    refine .of_perform (fun _ _ => rfl) (fun _ _ => rfl) ?_
    simp only [perform, there]
    split <;> rfl
  | dropBus | dropPublisher => exact .of_perform (fun _ _ => rfl) (fun _ _ => rfl) rfl
  | addSubscriber => exact bus.mirrors_addSubscriber number
  | publish publisher message =>
    refine .seen ⟨.publish publisher message, (bus.perform (.publish publisher message)).1, []⟩ rfl
      ?_ ?_
    · simp only [event, perform, there]
      split <;> rfl
    · simp only [after, perform, there]
      split
      · exact bus.alone_publish number message
      · rfl
  | dropSubscriber other =>
    by_cases same : other = number
    · subst same
      exact .of_perform (fun _ _ => if_pos rfl) (fun _ _ => rfl)
        (by simp only [perform, alone_setSubscriber])
    · exact .unseen (if_neg same) (bus.alone_setSubscriber_of_ne number same none)
  | isSubscribed other channel =>
    by_cases same : other = number
    · subst same
      refine .of_perform (fun _ _ => if_pos rfl) (fun _ _ => rfl) ?_
      simp only [perform, subscriber?_alone]
      split <;> rfl
    · refine .unseen (if_neg same) ?_
      simp only [after, perform]
      split <;> rfl
  | subscribe other | receive other =>
    by_cases same : other = number
    · subst same
      refine .of_perform (fun _ _ => if_pos rfl) (fun _ _ => rfl) ?_
      simp only [perform, subscriber?_alone, room, live]
      split <;> simp only [alone_setSubscriber]
    · refine .unseen (if_neg same) ?_
      simp only [after, perform]
      split
      · rfl
      · exact bus.alone_setSubscriber_of_ne number same _

/-- What a subscriber sees of a run is all that it sees when it is alone. -/
theorem Steps.alone {first bus : Local} {events : List Event} (number : Nat)
    (steps : Steps first events bus) :
    ∃ lone, Steps (first.alone number) lone (bus.alone number) ∧
      seen 0 lone = seen number events ∧
      lone.map Event.action = (seen number events).map Event.action := by
  induction steps with
  | refl => exact ⟨[], .refl, rfl, rfl⟩
  | @step events bus _ action inductionHypothesis =>
    obtain ⟨lone, prior, same, actions⟩ := inductionHypothesis
    rw [seen_concat]
    cases bus.mirrors_perform number action with
    | unseen hidden unmoved =>
      rw [hidden, unmoved, Option.toList_none, List.append_nil]
      exact ⟨lone, prior, same, actions⟩
    | seen own shown mirrored moved =>
      rw [shown, moved]
      refine ⟨_, prior.step own.action, ?_, ?_⟩
      · rw [seen_concat, mirrored, same]
      · rw [List.map_append, List.map_append, actions]
        rfl

/-- What is done with a bus determines what comes of it. -/
theorem Steps.unique {first bus other : Local} {events others : List Event}
    (steps : Steps first events bus) (otherSteps : Steps first others other)
    (same : events.map Event.action = others.map Event.action) : events = others ∧ bus = other := by
  induction steps generalizing others other with
  | refl =>
    cases otherSteps with
    | refl => exact ⟨rfl, rfl⟩
    | step => simp at same
  | @step events bus _ action inductionHypothesis =>
    cases otherSteps with
    | refl => simp at same
    | @step others other otherPrior otherAction =>
      rw [List.map_append, List.map_append] at same
      obtain ⟨before, last⟩ := List.append_inj' same rfl
      obtain ⟨rfl, rfl⟩ := inductionHypothesis otherPrior before
      obtain rfl : action = otherAction := by simpa [event] using last
      exact ⟨rfl, rfl⟩

/-- A publisher is there as soon as it has its number. -/
theorem publishers_of_number {bus : Local} {action : Action} {publisher : Nat}
    (numbered : (bus.perform action).1 = .number publisher) (publishes : action ≠ .addSubscriber) :
    (bus.after action).publishers[publisher]? = some true := by
  unfold after
  cases action with
  | addSubscriber => exact absurd rfl publishes
  | addPublisher | sharePublisher =>
    simp only [perform] at numbered ⊢
    split at numbered
    next allowed =>
      cases numbered
      simp [allowed, joined]
    next => cases numbered
  | dropBus | dropPublisher | dropSubscriber => cases numbered
  | shareBus | publish | subscribe | isSubscribed | receive =>
    simp only [perform] at numbered
    split at numbered <;> cases numbered

/-- A publisher that has come and not left is there. -/
theorem Steps.publishers {first bus : Local} {events : List Event} {publisher : Nat}
    (steps : Steps first events bus) (there : HasPublisher publisher events) :
    bus.publishers[publisher]? = some true := by
  induction steps with
  | refl => simpa using there.came
  | @step events bus _ action inductionHypothesis =>
    obtain ⟨⟨event, member, numbered, publishes⟩, stayed⟩ := there
    rcases List.mem_append.mp member with before | last
    · have there := inductionHypothesis ⟨⟨event, before, numbered, publishes⟩,
        fun other earlier => stayed other (List.mem_append_left _ earlier)⟩
      exact publishers_after there (stayed (bus.event action) (by simp))
    · obtain rfl := List.mem_singleton.mp last
      exact publishers_of_number numbered publishes

/-- Every event of a run is that of an action on the bus after the events before it. -/
theorem Steps.exists_before {first bus : Local} {events before after : List Event} {event : Event}
    (steps : Steps first events bus) (same : events = before ++ event :: after) :
    ∃ middle action, Steps first before middle ∧ event = middle.event action := by
  induction steps generalizing after with
  | refl => simp at same
  | @step events bus prior action inductionHypothesis =>
    rcases after.eq_nil_or_concat with rfl | ⟨rest, last, rfl⟩
    · obtain ⟨rfl, ended⟩ := List.append_inj' same rfl
      obtain rfl : bus.event action = event := by simpa using ended
      exact ⟨bus, action, prior, rfl⟩
    · rw [List.concat_eq_append, ← List.cons_append, ← List.append_assoc] at same
      exact inductionHypothesis (List.append_inj' same rfl).1

/-- No publisher is refused. -/
theorem Steps.acceptsAll {first bus : Local} {events : List Event}
    (steps : Steps first events bus) : AcceptsAll events := by
  intro before publisher message result entries after same there
  obtain ⟨middle, action, prior, this⟩ := steps.exists_before same
  simp only [event, Event.mk.injEq] at this
  obtain ⟨rfl, rfl, _⟩ := this
  have hasPublisher : middle.hasPublisher publisher = true := by
    simpa [Local.hasPublisher] using prior.publishers there
  simp only [perform, hasPublisher, if_true]

/-- A bus that is created is carried by an empty ring. -/
theorem carries_of_ofCapacity {capacity : Nat} {first : Local}
    (created : ofCapacity capacity = .ok first) : (Ring.ofRoom first.room).Carries [] first := by
  rw [eq_of_ofCapacity created]
  exact .ofRoom (roomFor_pos capacity)

/-- If two runs have in common all but what other subscribers do, then all that a subscriber is told
is the same in both, what it is warned of included; nobody who publishes is refused, and both runs
can be had on one ring. -/
theorem undisturbed_of_steps {capacity number otherNumber : Nat} {first bus other : Local}
    {events others : List Event} (created : ofCapacity capacity = .ok first)
    (steps : Steps first events bus) (otherSteps : Steps first others other)
    (same : (seen number events).map Event.action = (seen otherNumber others).map Event.action) :
    seen number events = seen otherNumber others ∧
      ∀ run ∈ [events, others],
        AcceptsAll run ∧ ∃ ring, Ring.Steps (Ring.ofRoom first.room) run ring := by
  constructor
  · -- Both runs are compared with what the subscriber does alone, which is the same in both.
    have nobody (number : Nat) : first.alone number = first := by
      rw [eq_of_ofCapacity created]
      rfl
    obtain ⟨lone, alone, sees, actions⟩ := steps.alone number
    obtain ⟨otherLone, otherAlone, otherSees, otherActions⟩ := otherSteps.alone otherNumber
    rw [nobody] at alone otherAlone
    obtain ⟨rfl, _⟩ := alone.unique otherAlone (actions.trans (same.trans otherActions.symm))
    rw [← sees, otherSees]
  · have carries := carries_of_ofCapacity created
    intro run member
    simp only [List.mem_cons, List.not_mem_nil, or_false] at member
    obtain rfl | rfl := member
    · obtain ⟨ring, _, onRing, _⟩ := carries.steps steps
      exact ⟨steps.acceptsAll, ring, onRing⟩
    · obtain ⟨ring, _, onRing, _⟩ := carries.steps otherSteps
      exact ⟨otherSteps.acceptsAll, ring, onRing⟩

/-- One who is alone and one who comes after another that subscribes, reads and leaves are told the
same: that a message is lost, the two that are left, and that there are no more. -/
theorem undisturbed_of_steps_crowded :
    let tick (mark : UInt8) : Message := ⟨"a", [mark]⟩
    ∃ first events bus others other, ofCapacity 2 = .ok first ∧
      Steps first events bus ∧ Steps first others other ∧ events.length = 11 ∧ others.length = 15 ∧
      (replies 0 events).map Prod.fst = [.message (tick 2), .message (tick 3), .closed] ∧
      lost 0 events = 1 ∧
      seen 0 events = seen 1 others ∧
      ∀ run ∈ [events, others],
        AcceptsAll run ∧ ∃ ring, Ring.Steps (Ring.ofRoom first.room) run ring := by
  intro tick
  let first : Local := ⟨2, 1, [], []⟩
  have comes := ((@Steps.refl first).step .addPublisher).step .addSubscriber
  have published := (((comes.step (.subscribe 0 ["a"])).step (.publish 0 (tick 1))).step
    (.publish 0 (tick 2))).step (.publish 0 (tick 3))
  have alone := ((((published.step (.dropPublisher 0)).step (.receive 0)).step .dropBus).step
    (.receive 0)).step (.receive 0)
  -- The other one of the two comes first, and reads while messages are published.
  have joined := ((comes.step (.subscribe 0 ["b"])).step .addSubscriber).step (.subscribe 1 ["a"])
  have crowded := ((((joined.step (.publish 0 (tick 1))).step (.receive 0)).step
    (.publish 0 (tick 2))).step (.publish 0 (tick 3))).step (.dropPublisher 0)
  have left := ((((crowded.step (.dropSubscriber 0)).step (.receive 1)).step .dropBus).step
    (.receive 1)).step (.receive 1)
  have created : ofCapacity 2 = .ok first := by rfl
  refine ⟨first, _, _, _, _, created, alone, left, ?_, ?_, ?_, ?_, ?_⟩
  · decide +kernel
  · decide +kernel
  · decide +kernel
  · decide +kernel
  · exact undisturbed_of_steps created alone left (by decide +kernel)

end Local

end StrategyHost.Bus
