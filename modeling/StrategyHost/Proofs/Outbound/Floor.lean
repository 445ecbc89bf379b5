import StrategyHost.Proofs.Bus.Closing
import StrategyHost.Proofs.Outbound.Invariant

/-!
# Many command paths on one bus

Any number of tasks, each of which brings the orders of one sender from a queue of its own to
a local bus that they share. The relation `Floor.Step` admits the steps of all of them, and of
everyone else who uses the bus, in any order. Only the tasks publish commands.
-/

namespace StrategyHost.Outbound

open StrategyHost.Bus (Action Local)
open StrategyHost.Retry (Backoff)

/-- The task of bringing one sender's orders to a bus. -/
structure Task where
  sender : Sender
  /-- The number under which the bus knows the task's publisher. -/
  publisher : Nat
  path : Path
  /-- What has happened on the path. -/
  events : List Path.Event

namespace Task

/-- The task after something has happened on its path. -/
def moved (task : Task) (event : Path.Event) (path : Path) : Task :=
  { task with path := path, events := task.events ++ [event] }

/-- A task on whose path nothing has been published yet. -/
structure IsUnpublished (task : Task) : Prop where
  opened : ∃ capacity queue reconnect, Queue.ofCapacity capacity = .ok queue ∧ reconnect.Fits ∧
    Path.Steps task.sender (.start queue reconnect) task.events task.path
  unpublished : Path.publications task.events = []
  running : task.path.hasReturned = false

end Task

/-- A bus and the tasks that publish on it. -/
structure Floor where
  bus : Local
  tasks : List Task

namespace Floor

/-- The floor with one more task. -/
def add (floor : Floor) (task : Task) : Floor :=
  { floor with tasks := floor.tasks ++ [task] }

/-- The floor with something else in the place of a task. -/
def replace (floor : Floor) (place : Nat) (task : Task) : Floor :=
  { floor with tasks := floor.tasks.set place task }

/-- The floor after something has been done with the bus. -/
def after (floor : Floor) (action : Action) : Floor :=
  { floor with bus := floor.bus.after action }

/-- The floor after a task has tried to publish the command that it has in flight. -/
def attempt (floor : Floor) (place : Nat) (task : Task) (command : Command) (backoff : Backoff) :
    Floor :=
  let (outcome, bus, _) := (Endpoint.onBus task.publisher).publish floor.bus
    command.message.channel command.message.payload
  let attempted := task.path.publisher.attempt command backoff outcome
  ⟨bus, floor.tasks.set place
    (task.moved (.published command command.message attempted.verdict)
      { task.path with publisher := attempted.publisher })⟩

/-- What others may do with the bus: anything but publish commands themselves, or take its
publisher away from a task. -/
structure Allows (floor : Floor) (action : Action) : Prop where
  publications : ∀ publisher message, action = .publish publisher message ->
    message.channel ≠ Trade.commandChannel
  publishers : ∀ task ∈ floor.tasks, action ≠ .dropPublisher task.publisher

/-- One step of a task or of others, with what it does with the bus. -/
inductive Step : Floor -> List Bus.Event -> Floor -> Prop where
  /-- A task begins with a publisher that no other one has, and with the orders that have been
  queued for it. -/
  | launch {floor : Floor} {task : Task} (opens : task.IsUnpublished)
      (there : floor.bus.hasPublisher task.publisher = true)
      (free : ∀ other ∈ floor.tasks, other.publisher ≠ task.publisher) :
      Step floor [] (floor.add task)
  /-- Something happens on a task's path that does not concern the bus. -/
  | proceed {floor : Floor} {place : Nat} {task : Task} {event : Path.Event} {path : Path}
      (acts : floor.tasks[place]? = some task)
      (transition : Path.Step task.sender task.path event path)
      (silent : event.publication? = none) (stays : event ≠ .returned) :
      Step floor [] (floor.replace place (task.moved event path))
  | publish {floor : Floor} {place : Nat} {task : Task} {command : Command} {backoff : Backoff}
      (acts : floor.tasks[place]? = some task) (running : task.path.hasReturned = false)
      (flying : task.path.publisher.inFlight = some (command, backoff)) :
      Step floor [floor.bus.event (.publish task.publisher command.message)]
        (floor.attempt place task command backoff)
  /-- A task returns, and its publisher goes with it. -/
  | finish {floor : Floor} {place : Nat} {task : Task} {path : Path}
      (acts : floor.tasks[place]? = some task)
      (transition : Path.Step task.sender task.path .returned path) :
      Step floor [floor.bus.event (.dropPublisher task.publisher)]
        ((floor.after (.dropPublisher task.publisher)).replace place (task.moved .returned path))
  | other {floor : Floor} (action : Action) (allowed : floor.Allows action) :
      Step floor [floor.bus.event action] (floor.after action)

/-- Any number of steps, with the events of the bus. -/
inductive Steps (first : Floor) : List Bus.Event -> Floor -> Prop where
  | refl : Steps first [] first
  | step {events more : List Bus.Event} {floor next : Floor} (prior : Steps first events floor)
      (transition : Step floor more next) : Steps first (events ++ more) next

/-- Something that others do, and the steps that follow it. -/
theorem Steps.cons {floor last : Floor} {events : List Bus.Event} {action : Action}
    (allowed : floor.Allows action) (rest : Steps (floor.after action) events last) :
    Steps floor (floor.bus.event action :: events) last := by
  induction rest with
  | refl => exact .step .refl (.other action allowed)
  | step _ later inductionHypothesis => exact .step inductionHypothesis later

/-- A floor on which nobody has begun. -/
def empty (bus : Local) : Floor := ⟨bus, []⟩

section

variable {floor next : Floor} {place other : Nat} {task : Task}

/-- What stands in a place when something else has been put in one. -/
theorem getElem?_replace (acts : floor.tasks[place]? = some task) (new : Task) :
    (floor.replace place new).tasks[other]? =
      if other = place then some new else floor.tasks[other]? := by
  have within := (List.getElem?_eq_some_iff.mp acts).1
  unfold replace
  split
  next same => simp [same, within]
  next differs => exact List.getElem?_set_ne (Ne.symm differs)

/-- What stands in a place when there is one task more. -/
theorem cases_add {new : Task} (stands : (floor.add new).tasks[place]? = some task) :
    floor.tasks[place]? = some task ∨ place = floor.tasks.length ∧ task = new := by
  unfold add at stands
  rcases Nat.lt_or_ge place floor.tasks.length with within | beyond
  · left
    rwa [List.getElem?_append_left within] at stands
  · right
    rw [List.getElem?_append_right beyond, List.getElem?_singleton] at stands
    split at stands
    next last =>
      cases stands
      exact ⟨by omega, rfl⟩
    next => cases stands

/-- Publishing on a bus always succeeds. -/
theorem attempt_eq (floor : Floor) (place : Nat) (task : Task) (command : Command)
    (backoff : Backoff) :
    floor.attempt place task command backoff =
      (floor.after (.publish task.publisher command.message)).replace place
        (task.moved (.published command command.message .succeeded)
          { task.path with
            publisher := { task.path.publisher with
              inFlight := none, published := task.path.publisher.published + 1 } }) := rfl

/-- Every step does with the bus what its events say. -/
theorem Step.bus {events : List Bus.Event} (step : Step floor events next) {first : Local}
    {prior : List Bus.Event} (steps : Local.Steps first prior floor.bus) :
    Local.Steps first (prior ++ events) next.bus := by
  cases step with
  | launch | proceed => rwa [List.append_nil]
  | publish => exact steps.step _
  | finish => exact steps.step _
  | other action => exact steps.step action

/-- All the steps do with the bus what the events say. -/
theorem Steps.bus {first : Floor} {events : List Bus.Event} (steps : Steps first events floor) :
    Local.Steps first.bus events floor.bus := by
  induction steps with
  | refl => exact .refl
  | step _ transition inductionHypothesis => exact transition.bus inductionHypothesis

/-- Senders stay in their places. -/
theorem Step.sender {events : List Bus.Event} (step : Step floor events next)
    (there : floor.tasks[other]? = some task) :
    ∃ now, next.tasks[other]? = some now ∧ now.sender = task.sender := by
  have replaced {floor : Floor} {place : Nat} {acting new : Task}
      (acts : floor.tasks[place]? = some acting) (same : new.sender = acting.sender)
      (there : floor.tasks[other]? = some task) :
      ∃ now, (floor.replace place new).tasks[other]? = some now ∧ now.sender = task.sender := by
    rw [getElem?_replace acts]
    split
    next here =>
      subst here
      obtain rfl : acting = task := Option.some.inj (acts.symm.trans there)
      exact ⟨new, rfl, same⟩
    next => exact ⟨task, there, rfl⟩
  cases step with
  | launch =>
    have within := (List.getElem?_eq_some_iff.mp there).1
    exact ⟨task, by rwa [add, List.getElem?_append_left within], rfl⟩
  | proceed acts => exact replaced acts rfl there
  | publish acts => exact replaced acts rfl there
  | finish acts => exact replaced acts rfl there
  | other => exact ⟨task, there, rfl⟩

end

/-! ## What every step preserves -/

end Floor

/-- What holds of every task on a floor with a bus. -/
structure Task.Sound (bus : Local) (task : Task) : Prop where
  valid : ∃ capacity, Path.Valid task.sender capacity task.events task.path
  /-- A task has its publisher until it returns. -/
  publisher : bus.publishers[task.publisher]? = some (!task.path.hasReturned)
  unfailed : task.path.publisher.failed = 0

namespace Task

/-- Nothing is settled on a path on which nothing has been published. -/
theorem IsUnpublished.settled_eq {task : Task} (opens : task.IsUnpublished) :
    Path.settled task.events = [] := by
  apply List.filterMap_eq_nil_iff.mpr
  intro event member
  have silent := List.filterMap_eq_nil_iff.mp opens.unpublished event member
  exact (Path.Event.settled?_eq_none silent).1

/-- A task that has published nothing and has a publisher is sound. -/
theorem IsUnpublished.sound {bus : Local} {task : Task} (opens : task.IsUnpublished)
    (there : bus.hasPublisher task.publisher = true) : task.Sound bus := by
  obtain ⟨capacity, queue, reconnect, opened, fits, steps⟩ := opens.opened
  have valid : Path.Valid task.sender capacity task.events task.path :=
    steps.valid (Path.valid_start opened fits)
  have settled := valid.settledCount
  rw [opens.settled_eq, List.length_nil] at settled
  refine ⟨⟨capacity, valid⟩, ?_, by omega⟩
  simpa [Local.hasPublisher, opens.running] using there

end Task

namespace Path

/-- What neither publishes nor returns leaves the reports as they are. -/
theorem Step.reports {sender : Sender} {path next : Path} {event : Event}
    (transition : Step sender path event next) (silent : event.publication? = none)
    (stays : event ≠ .returned) :
    next.hasReturned = path.hasReturned ∧ next.publisher.failed = path.publisher.failed := by
  cases transition with
  | call | clone | drop => exact ⟨rfl, rfl⟩
  | take running taken =>
    obtain ⟨_, _, _, _, rfl⟩ := Publisher.take?_eq_some taken
    exact ⟨rfl, rfl⟩
  | publish => simp [Event.publication?] at silent
  | finish => exact absurd rfl stays

end Path

/-- What holds of a floor whatever steps have led to it. -/
structure Floor.Sound (floor : Floor) : Prop where
  tasks : ∀ (place : Nat) (task : Task), floor.tasks[place]? = some task -> task.Sound floor.bus
  /-- No two tasks have the same publisher. -/
  apart : ∀ (place other : Nat) (first second : Task), floor.tasks[place]? = some first ->
    floor.tasks[other]? = some second -> first.publisher = second.publisher -> place = other

namespace Floor

variable {floor next : Floor}

theorem sound_empty (bus : Local) : (empty bus).Sound where
  tasks := by simp [empty]
  apart := by simp [empty]

/-- A floor stays sound when its bus keeps the publishers of the tasks. -/
theorem Sound.onBus {bus : Local} (sound : floor.Sound)
    (keeps : ∀ task ∈ floor.tasks, ∀ isThere : Bool,
      floor.bus.publishers[task.publisher]? = some isThere ->
        bus.publishers[task.publisher]? = some isThere) : ({ floor with bus := bus } : Floor).Sound where
  tasks place task there := by
    obtain ⟨valid, publisher, unfailed⟩ := sound.tasks place task there
    exact ⟨valid, keeps task (List.mem_of_getElem? there) _ publisher, unfailed⟩
  apart := sound.apart

/-- A floor stays sound when a task goes on that keeps its publisher, and the bus keeps those of
the others. -/
theorem Sound.replace {bus : Local} {place : Nat} {task new : Task} (sound : floor.Sound)
    (acts : floor.tasks[place]? = some task) (same : new.publisher = task.publisher)
    (goesOn : new.Sound bus)
    (keeps : ∀ number isThere, number ≠ task.publisher ->
      floor.bus.publishers[number]? = some isThere -> bus.publishers[number]? = some isThere) :
    (({ floor with bus := bus } : Floor).replace place new).Sound := by
  have stands (other : Nat) : (({ floor with bus := bus } : Floor).replace place new).tasks[other]? =
      if other = place then some new else floor.tasks[other]? := getElem?_replace acts new
  -- In every place there is a task with the publisher that the one before it had.
  have before {other : Nat} {now : Task} (there : (({ floor with bus := bus } : Floor).replace
      place new).tasks[other]? = some now) :
      ∃ was, floor.tasks[other]? = some was ∧ now.publisher = was.publisher := by
    rw [stands] at there
    split at there
    next here =>
      cases there
      exact ⟨task, here ▸ acts, same⟩
    next => exact ⟨now, there, rfl⟩
  constructor
  · intro other now there
    rw [stands] at there
    split at there
    next =>
      cases there
      exact goesOn
    next differs =>
      obtain ⟨valid, publisher, unfailed⟩ := sound.tasks other now there
      refine ⟨valid, keeps _ _ ?_ publisher, unfailed⟩
      exact fun shared => differs (sound.apart other place now task there acts shared)
  · intro one two first second there thereToo shared
    obtain ⟨firstWas, firstThere, firstSame⟩ := before there
    obtain ⟨secondWas, secondThere, secondSame⟩ := before thereToo
    exact sound.apart one two firstWas secondWas firstThere secondThere
      (firstSame.symm.trans (shared.trans secondSame))

/-- A floor stays sound when a sound task begins that has a publisher of its own. -/
theorem Sound.add (sound : floor.Sound) {task : Task} (begun : task.Sound floor.bus)
    (free : ∀ other ∈ floor.tasks, other.publisher ≠ task.publisher) :
    (floor.add task).Sound := by
  constructor
  · intro place task stands
    rcases cases_add stands with before | ⟨_, rfl⟩
    · exact sound.tasks place task before
    · exact begun
  · intro place other first second stands standsToo shared
    rcases cases_add stands with before | ⟨rfl, rfl⟩
    · rcases cases_add standsToo with beforeToo | ⟨_, rfl⟩
      · exact sound.apart place other first second before beforeToo shared
      · exact absurd shared (free first (List.mem_of_getElem? before))
    · rcases cases_add standsToo with before | ⟨rfl, _⟩
      · exact absurd shared.symm (free second (List.mem_of_getElem? before))
      · rfl

/-- Every step keeps a floor sound. -/
theorem Step.sound {events : List Bus.Event} (step : Step floor events next) (sound : floor.Sound) :
    next.Sound := by
  cases step with
  | launch opens there free => exact sound.add (opens.sound there) free
  | @proceed place task event path acts transition silent stays =>
    obtain ⟨⟨capacity, valid⟩, publisher, unfailed⟩ := sound.tasks place task acts
    obtain ⟨returned, failed⟩ := transition.reports silent stays
    refine sound.replace acts rfl ?_ fun _ _ _ there => there
    exact ⟨⟨capacity, transition.valid valid⟩, by simpa [Task.moved, returned] using publisher,
      failed.trans unfailed⟩
  | @publish place task command backoff acts running flying =>
    obtain ⟨⟨capacity, valid⟩, publisher, unfailed⟩ := sound.tasks place task acts
    -- Publishing leaves all publishers as they are, so the other tasks stay sound as well.
    have keeps {number : Nat} {isThere : Bool}
        (there : floor.bus.publishers[number]? = some isThere) :
        (floor.bus.after (.publish task.publisher command.message)).publishers[number]? =
          some isThere :=
      Local.publishers_after there (by simp)
    rw [attempt_eq]
    refine sound.replace acts rfl ?_ fun _ _ _ there => keeps there
    exact ⟨⟨capacity, valid.publish (.ok ()) running flying⟩, keeps publisher, unfailed⟩
  | @finish place task path acts transition =>
    obtain ⟨⟨capacity, valid⟩, publisher, unfailed⟩ := sound.tasks place task acts
    refine sound.replace acts rfl ?_ fun number isThere differs there => ?_
    · refine ⟨⟨capacity, transition.valid valid⟩, ?_, ?_⟩
      · cases transition
        exact Local.publishers_after_dropPublisher publisher
      · cases transition
        exact unfailed
    · exact Local.publishers_after there fun same => differs (by simpa using same.symm)
  | other action allowed =>
    refine sound.onBus fun task member isThere there => ?_
    exact Local.publishers_after there (allowed.publishers task member)

/-- Wherever steps lead, the floor is sound. -/
theorem Steps.sound {first : Floor} {events : List Bus.Event} (steps : Steps first events floor)
    (initial : first.Sound) : floor.Sound := by
  induction steps with
  | refl => exact initial
  | step _ transition inductionHypothesis => exact transition.sound inductionHypothesis

/-- A task that is there is sound. -/
theorem Sound.of_mem (sound : floor.Sound) {task : Task} (member : task ∈ floor.tasks) :
    task.Sound floor.bus := by
  obtain ⟨place, there⟩ := List.getElem?_of_mem member
  exact sound.tasks place task there

/-- Once nothing more may come, all tasks have returned. -/
theorem Sound.hasReturned_of_not_isLive (sound : floor.Sound) (ended : floor.bus.isLive = false)
    {task : Task} (member : task ∈ floor.tasks) : task.path.hasReturned = true := by
  by_contra running
  have publisher := (sound.of_mem member).publisher
  rw [Bool.eq_false_of_not_eq_true running] at publisher
  have live := Local.isLive_of_publisher publisher
  rw [ended] at live
  cases live

/-- Once all tasks have returned and nobody else has the bus or a publisher, nothing more may
come. -/
theorem Sound.isLive_of_hasReturned (sound : floor.Sound)
    (returned : ∀ task ∈ floor.tasks, task.path.hasReturned = true)
    (released : floor.bus.isHeld = false)
    (owned : ∀ publisher, floor.bus.hasPublisher publisher = true ->
      ∃ task ∈ floor.tasks, task.publisher = publisher) : floor.bus.isLive = false := by
  have nobody : true ∉ floor.bus.publishers := by
    intro member
    obtain ⟨publisher, remains⟩ := List.getElem?_of_mem member
    obtain ⟨task, on, rfl⟩ := owned publisher (by simpa [Local.hasPublisher] using remains)
    have given := (sound.of_mem on).publisher
    rw [remains, returned task on] at given
    cases given
  simpa [Local.isLive, released] using nobody

end Floor

end StrategyHost.Outbound
