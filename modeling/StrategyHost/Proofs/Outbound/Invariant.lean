import StrategyHost.Proofs.Outbound.Cases

/-!
# What the steps of the command path preserve

`Path.Valid` ties a path to the events that have led to it. It holds at the start, and
every step of a holder or of the publisher preserves it.
-/

namespace StrategyHost.Outbound

open StrategyHost.Retry (Backoff Outcome Verdict)

namespace Path

variable {sender : Sender}

@[simp] theorem accepted_concat (events : List Event) (event : Event) :
    accepted (events ++ [event]) = accepted events ++ event.accepted?.toList := by
  cases found : event.accepted? <;> simp [accepted, found]

@[simp] theorem settled_concat (events : List Event) (event : Event) :
    settled (events ++ [event]) = settled events ++ event.settled?.toList := by
  cases found : event.settled? <;> simp [settled, found]

@[simp] theorem delivered_concat (events : List Event) (event : Event) :
    delivered (events ++ [event]) = delivered events ++ event.delivered?.toList := by
  cases found : event.delivered? <;> simp [delivered, found]

@[simp] theorem publications_concat (events : List Event) (event : Event) :
    publications (events ++ [event]) = publications events ++ event.publication?.toList := by
  cases found : event.publication? <;> simp [publications, found]

/-- The accepted orders in terms of the commands that they were queued as. -/
def Carried (sender : Sender) (events : List Event) (commands : List Command) : Prop :=
  (accepted events).map sender.command = commands.map .ok

/-- What holds of a path whatever steps have led to it. -/
structure Valid (sender : Sender) (capacity : Nat) (events : List Event) (path : Path) :
    Prop where
  carried : Carried sender events (settled events ++ path.inFlight ++ path.queue.waiting)
  room : path.queue.capacity = capacity
  bounded : path.queue.waiting.length <= capacity
  publishedCount : path.publisher.published = (delivered events).length
  settledCount : path.publisher.published + path.publisher.failed = (settled events).length
  published : ∀ message ∈ publications events,
    ∃ order ∈ accepted events, ∃ command,
      sender.command order = .ok command ∧ message = command.message
  limits : path.publisher.limits.Moderate
  backoff : ∀ command backoff,
    path.publisher.inFlight = some (command, backoff) -> backoff.Moderate
  returned : path.hasReturned = true ->
    path.holders = 0 ∧ path.inFlight = [] ∧ path.queue.waiting = []

theorem valid_start {capacity : Nat} {queue : Queue} {reconnect : Config.Reconnect}
    (opened : Queue.ofCapacity capacity = .ok queue) (fits : reconnect.Fits) :
    Valid sender capacity [] (start queue reconnect) := by
  obtain rfl := Queue.ofCapacity_eq opened
  exact {
    carried := rfl
    room := rfl
    bounded := Nat.zero_le capacity
    publishedCount := rfl
    settledCount := rfl
    published := by simp [Path.publications]
    limits := Retry.Limits.moderate_of_fits fits
    backoff := by simp [start, Publisher.idle]
    returned := by simp [start] }

/-- A command that is not settled belongs to an order that was accepted. -/
theorem Carried.order_of_mem {events : List Event} {commands : List Command}
    (carried : Carried sender events commands) {command : Command} (held : command ∈ commands) :
    ∃ order ∈ accepted events, sender.command order = .ok command := by
  have listed : Except.ok command ∈ (accepted events).map sender.command := by
    rw [carried]
    exact List.mem_map_of_mem held
  exact List.mem_map.mp listed

/-- Only by publishing is a command settled. -/
theorem Event.settled?_eq_none {event : Event} (silent : event.publication? = none) :
    event.settled? = none ∧ event.delivered? = none := by
  cases event <;> simp_all [Event.settled?, Event.delivered?, Event.publication?]

/-- An event that neither accepts nor publishes anything is of no account. -/
theorem Valid.silent {capacity : Nat} {events : List Event} {path : Path} {event : Event}
    (valid : Valid sender capacity events path) (accepts : event.accepted? = none)
    (publishes : event.publication? = none) : Valid sender capacity (events ++ [event]) path := by
  have settles := Event.settled?_eq_none publishes
  exact { valid with
    carried := by simpa [Carried, accepts, settles] using valid.carried
    publishedCount := by simpa [settles] using valid.publishedCount
    settledCount := by simpa [settles] using valid.settledCount
    published := by simpa [accepts, publishes] using valid.published }

/-- While the sender is held the publisher goes on. -/
theorem Valid.running_of_held {capacity : Nat} {events : List Event} {path : Path}
    (valid : Valid sender capacity events path) (held : 0 < path.holders) :
    path.hasReturned = false := by
  cases returned : path.hasReturned with
  | false => rfl
  | true =>
    have abandoned := (valid.returned returned).1
    omega

theorem Valid.call {capacity : Nat} {events : List Event} {path : Path}
    (valid : Valid sender capacity events path) (call : SenderCall) (held : 0 < path.holders) :
    Valid sender capacity (events ++ [.called call (call.perform sender path.queue).result])
      { path with queue := (call.perform sender path.queue).queue } := by
  have running := valid.running_of_held held
  obtain ⟨order, command, wanted, written, ok, queued, room⟩ | ⟨failure, refused, same⟩ :=
    call.perform_cases sender path.queue
  · have carried := valid.carried
    have capacity := valid.room
    rw [ok, queued]
    exact { valid with
      carried := by
        simp only [Carried, inFlight] at carried
        simp [Carried, Event.accepted?, Event.settled?, wanted, written, carried, inFlight]
      bounded := by
        simp only [List.length_append, List.length_singleton]
        omega
      publishedCount := by simpa [Event.delivered?] using valid.publishedCount
      settledCount := by simpa [Event.settled?] using valid.settledCount
      published := by
        intro message handed
        simp only [publications_concat, Event.publication?, Option.toList_none,
          List.append_nil] at handed
        obtain ⟨earlier, known, rest⟩ := valid.published message handed
        exact ⟨earlier, by simp [known], rest⟩
      returned := by simp [running] }
  · rw [refused, same]
    exact valid.silent rfl rfl

theorem Valid.take {capacity : Nat} {events : List Event} {path : Path} {publisher : Publisher}
    {queue : Queue} (valid : Valid sender capacity events path)
    (running : path.hasReturned = false)
    (taken : path.publisher.take? path.queue = some (publisher, queue)) :
    Valid sender capacity (events ++ [.taken])
      { path with queue := queue, publisher := publisher } := by
  obtain ⟨idle, command, waiting, others, rfl⟩ := Publisher.take?_eq_some taken
  have bounded := valid.bounded
  have carried := valid.carried
  have moved : Valid sender capacity events
      { path with
        queue := queue
        publisher :=
          { path.publisher with inFlight := some (command, path.publisher.limits.fresh) } } :=
    { valid with
      carried := by simpa [inFlight, idle, waiting] using carried
      room := by rw [others]; exact valid.room
      bounded := by
        simp only [waiting, List.length_cons] at bounded
        exact Nat.le_of_succ_le bounded
      backoff := by
        rintro _ _ ⟨rfl, rfl⟩
        exact valid.limits.fresh
      returned := by simp [running] }
  exact moved.silent rfl rfl

/-- What one more publication of an accepted command leaves true of the publications. -/
theorem Valid.publish_published {capacity : Nat} {events : List Event} {path : Path}
    {command : Command} {backoff : Backoff} {verdict : Verdict}
    (valid : Valid sender capacity events path)
    (flying : path.publisher.inFlight = some (command, backoff)) :
    ∀ message ∈ publications (events ++ [.published command command.message verdict]),
      ∃ order ∈ accepted (events ++ [.published command command.message verdict]),
        ∃ command, sender.command order = .ok command ∧ message = command.message := by
  intro message handed
  simp only [publications_concat, Event.publication?, Option.toList_some, List.mem_append,
    List.mem_singleton, accepted_concat, Event.accepted?, Option.toList_none,
    List.append_nil] at handed ⊢
  obtain earlier | rfl := handed
  · exact valid.published message earlier
  · have held : command ∈ settled events ++ path.inFlight ++ path.queue.waiting := by
      simp [inFlight, flying]
    obtain ⟨order, known, written⟩ := valid.carried.order_of_mem held
    exact ⟨order, known, command, written, rfl⟩

theorem Valid.publish {capacity : Nat} {events : List Event} {path : Path} {command : Command}
    {backoff : Backoff} (valid : Valid sender capacity events path) (outcome : Outcome)
    (running : path.hasReturned = false)
    (flying : path.publisher.inFlight = some (command, backoff)) :
    Valid sender capacity
      (events ++ [.published command command.message
        (path.publisher.attempt command backoff outcome).verdict])
      { path with publisher := (path.publisher.attempt command backoff outcome).publisher } := by
  have carried := valid.carried
  have settledCount := valid.settledCount
  have publishedCount := valid.publishedCount
  simp only [Carried, inFlight, flying, Option.map_some, Option.toList_some] at carried
  obtain ⟨succeeded, after⟩ | ⟨failure, failed, after⟩ | ⟨delay, next, waits, after, moderate⟩ :=
    path.publisher.attempt_cases command (valid.backoff command backoff flying) outcome
  · rw [succeeded, after]
    exact { valid with
      carried := by simp [Carried, Event.accepted?, Event.settled?, carried, inFlight]
      publishedCount := by simp [Event.delivered?, publishedCount]
      settledCount := by
        simp only [settled_concat, Event.settled?, Option.toList_some, List.length_append,
          List.length_singleton]
        omega
      published := valid.publish_published flying
      backoff := by simp
      returned := by simp [running] }
  · rw [failed, after]
    exact { valid with
      carried := by simp [Carried, Event.accepted?, Event.settled?, carried, inFlight]
      publishedCount := by simpa [Event.delivered?] using publishedCount
      settledCount := by
        simp only [settled_concat, Event.settled?, Option.toList_some, List.length_append,
          List.length_singleton]
        omega
      published := valid.publish_published flying
      backoff := by simp
      returned := by simp [running] }
  · rw [waits, after]
    exact { valid with
      carried := by simp [Carried, Event.accepted?, Event.settled?, carried, inFlight]
      publishedCount := by simpa [Event.delivered?] using publishedCount
      settledCount := by simpa [Event.settled?] using settledCount
      published := valid.publish_published flying
      backoff := by
        rintro _ _ ⟨rfl, rfl⟩
        exact moderate
      returned := by simp [running] }

theorem Valid.finish {capacity : Nat} {events : List Event} {path : Path}
    (valid : Valid sender capacity events path) (abandoned : path.holders = 0)
    (idle : path.publisher.inFlight = none) (empty : path.queue.take? = none) :
    Valid sender capacity (events ++ [.returned])
      { path with queue := path.queue.close, hasReturned := true } := by
  have waiting := Queue.take?_eq_none_iff.mp empty
  have carried := valid.carried
  have closed : Valid sender capacity events
      { path with queue := path.queue.close, hasReturned := true } :=
    { valid with
      carried := by simpa [inFlight, waiting, Queue.close] using carried
      bounded := Nat.zero_le capacity
      returned := by simp [abandoned, inFlight, idle, Queue.close] }
  exact closed.silent rfl rfl

/-- Every step keeps a path valid. -/
theorem Step.valid {capacity : Nat} {events : List Event} {path next : Path} {event : Event}
    (transition : Step sender path event next) (valid : Valid sender capacity events path) :
    Valid sender capacity (events ++ [event]) next := by
  cases transition with
  | call call held => exact valid.call call held
  | clone held =>
    have running := valid.running_of_held held
    exact Valid.silent { valid with returned := by simp [running] } rfl rfl
  | drop held =>
    have running := valid.running_of_held held
    exact Valid.silent { valid with returned := by simp [running] } rfl rfl
  | take running taken => exact valid.take running taken
  | publish outcome running flying => exact valid.publish outcome running flying
  | finish running abandoned idle empty => exact valid.finish abandoned idle empty

/-- Wherever steps lead from a path on which nothing has happened, it is valid there. -/
theorem Steps.valid {capacity : Nat} {first path : Path} {events : List Event}
    (initial : Valid sender capacity [] first) (steps : Steps sender first events path) :
    Valid sender capacity events path := by
  induction steps with
  | refl => exact initial
  | step _ transition inductionHypothesis => exact transition.valid inductionHypothesis

end Path

end StrategyHost.Outbound
