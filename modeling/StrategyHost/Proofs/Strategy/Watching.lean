import Mathlib
import StrategyHost.Proofs.Contract.Lookups
import StrategyHost.Proofs.Strategy.Sights

/-!
# What a watcher reports

A watcher warns of the tickers that are not in the contract table and asks for all of them. It
shows each message that can be read in one line, a tick under the ticker of the row that it names,
and at the end tells how many ticks there have been since it was created.
-/

namespace StrategyHost.Strategy

open StrategyHost.Journal (Entry)
open StrategyHost.Market (Tick)
open StrategyHost.Outbound (Queue)
open StrategyHost.Trade (Response)

/-- One program after the other is run where the first has left off. -/
theorem Program.run_bind {First Second : Type} (program : Program First)
    (next : First -> Program Second) (desk : Desk) (queue : Queue) :
    (program.bind next).run desk queue =
      let first := program.run desk queue
      let second := (next first.result).run first.desk first.queue
      { second with occurrences := first.occurrences ++ second.occurrences } := by
  induction program generalizing desk queue with
  | done result => rfl
  | act request continue_ inductionHypothesis =>
    simp only [bind, run, inductionHypothesis, List.append_assoc, List.cons_append]

/-- Whether a callback is for a tick. -/
def Callback.isTick : Callback -> Bool
  | .tick _ => true
  | _ => false

/-- As many ticks are counted as callbacks are for one. -/
theorem Counts.ticks_ofMessages (responseChannel? : Option String) (messages : List Bus.Message) :
    (ofMessages responseChannel? messages).ticks =
      (messages.filterMap (Callback.ofMessage? responseChannel?)).countP Callback.isTick := by
  rw [List.countP_filterMap]
  refine List.countP_congr fun message _ => ?_
  rcases Callback.ofMessage? responseChannel? message with _ | callback
  · simp
  · cases callback <;> simp [Callback.isTick]

namespace Watch

/-- The tickers of a list that are not in a table. -/
def unlisted (table : ContractTable) (tickers : List String) : List String :=
  tickers.filter fun ticker => ticker ∉ table.contracts.map Contract.ticker

/-- The line for a message, by its callback. -/
inductive Shows (table : ContractTable) : Callback -> Entry -> Prop where
  /-- A tick that names a row is shown under the ticker of this row. -/
  | listed {tick : Tick} {contract : Contract} (place : Nat)
      (row : table.contracts[place]? = some contract)
      (named : tick.tickerIndex.toNat = place + 1) :
      Shows table (.tick tick) (.tickShown contract.ticker tick)
  /-- Rows are counted from one, up to the length of the table. -/
  | unknown {tick : Tick}
      (named : tick.tickerIndex.toNat = 0 ∨ table.length < tick.tickerIndex.toNat) :
      Shows table (.tick tick) (.tickShown "?" tick)
  | rejection {response : Response} (refused : response.errorCode ≠ 0) :
      Shows table (.response response) (.rejectionShown response)
  | trade {response : Response} (accepted : response.errorCode = 0) :
      Shows table (.response response) (.tradeShown response)

/-- What is seen between the first callback and the last: each callback and its line. -/
inductive Told (table : ContractTable) : List Callback -> List Occurrence -> Prop where
  | nil : Told table [] []
  | cons {callback : Callback} {line : Entry} {callbacks : List Callback}
      {sights : List Occurrence} (shows : Shows table callback line)
      (rest : Told table callbacks sights) :
      Told table (callback :: callbacks) (.called callback :: .logged line :: sights)

/-- What is noted of a callback. -/
theorem notedOf_deeds {Memory : Type} (strategy : Strategy Memory) (scene : Scene Memory)
    (callback : Callback) :
    notedOf (scene.deeds strategy callback) =
      .called callback :: notedOf (scene.outcome strategy callback).occurrences := by
  have asked (channels : List String) : notedOf (Scene.askedFor channels) = [] := by
    cases channels <;> rfl
  have subscribed (desk : Desk) : notedOf (Scene.subscriptions desk callback) = [] := by
    cases callback with
    | init =>
      rw [Scene.subscriptions, notedOf_append, asked]
      cases desk.responseChannel? <;> rfl
    | exit => rfl
    | _ => exact asked desk.requested
  rw [Scene.deeds, ← List.singleton_append, List.append_assoc, notedOf_append, notedOf_append,
    notedOf_deedsOf, subscribed, List.append_nil]
  rfl

/-- What is not found is not listed. -/
theorem unlisted_cons (table : ContractTable) (ticker : String) (rest : List String) :
    unlisted table (ticker :: rest) =
      match table.byTicker ticker with
      | .ok _ => unlisted table rest
      | .error _ => ticker :: unlisted table rest := by
  have absent_iff : ticker ∉ table.contracts.map Contract.ticker ↔
      table.byTicker ticker = .error (.unknownTicker ticker) := by
    simp [ContractTable.byTicker_eq_error_iff]
  unfold unlisted
  cases found : table.byTicker ticker with
  | ok contract =>
    have listed : ticker ∈ table.contracts.map Contract.ticker := by
      by_contra absent
      rw [absent_iff, found] at absent
      simp at absent
    rw [List.filter_cons_of_neg (by simpa using listed)]
  | error failure =>
    obtain ⟨rfl, _⟩ := ContractTable.byTicker_eq_error_iff.mp found
    exact List.filter_cons_of_pos (decide_eq_true (absent_iff.mpr found))

/-- A line is written before the program goes on. -/
theorem run_note {Result : Type} (entry : Entry) (next : Unit -> Program Result) (desk : Desk)
    (queue : Queue) :
    ((note entry).bind next).run desk queue =
      let rest := (next ()).run desk queue
      { rest with
        occurrences := .logged entry :: .performed (.note entry) () :: rest.occurrences } :=
  rfl

/-- The tickers that are not in the table are noted, one after the other. -/
theorem run_noteUnlisted (tickers : List String) (desk : Desk) (queue : Queue) :
    ∃ occurrences, (noteUnlisted tickers).run desk queue = ⟨(), desk, queue, occurrences⟩ ∧
      notedOf occurrences =
        (unlisted desk.sender.contracts tickers).map fun ticker =>
          .logged (.tickerUnlisted ticker) := by
  induction tickers with
  | nil => exact ⟨[], rfl, rfl⟩
  | cons ticker rest inductionHypothesis =>
    obtain ⟨occurrences, runs, noted⟩ := inductionHypothesis
    rw [unlisted_cons]
    cases found : desk.sender.contracts.byTicker ticker with
    | ok contract =>
      refine ⟨.performed (.contractOf ticker) (.ok contract) :: occurrences, ?_, noted⟩
      simp only [noteUnlisted, Bind.bind, Program.bind, Program.request, Program.run,
        Desk.perform, found, runs]
      rfl
    | error failure =>
      let warning : Entry := .tickerUnlisted ticker
      refine ⟨[.performed (.contractOf ticker) (.error failure), .logged warning,
        .performed (.note warning) ()] ++ occurrences, ?_, ?_⟩
      · simp only [noteUnlisted, Bind.bind, Program.bind, Program.request, Program.run,
          Desk.perform, found, run_note, runs]
        rfl
      · rw [notedOf_append, noted]
        rfl

theorem shows_tick (table : ContractTable) (tick : Tick) :
    Shows table (.tick tick) (.tickShown (label (table.byIndex? tick.tickerIndex.toNat)) tick) := by
  cases found : table.byIndex? tick.tickerIndex.toNat with
  | none =>
    have outside := table.isSome_byIndex?_iff tick.tickerIndex.toNat
    rw [found] at outside
    refine .unknown ?_
    simp at outside
    omega
  | some contract =>
    unfold ContractTable.byIndex? at found
    split at found
    case isTrue positive =>
      refine .listed _ found ?_
      omega
    case isFalse => simp at found

theorem shows_response (table : ContractTable) (response : Response) :
    Shows table (.response response) (shown response) := by
  unfold shown Response.isRejected
  split
  case isTrue refused => exact .rejection (by simpa using refused)
  case isFalse accepted => exact .trade (by simpa using accepted)

variable {tickers : List String}

/-- What comes of the first callback: the warnings, and then the request for all the tickers. -/
theorem outcome_init (tickers : List String) (scene : Scene Nat) :
    notedOf (scene.outcome (strategy tickers) .init).occurrences =
        (unlisted scene.desk.sender.contracts tickers).map (.logged <| .tickerUnlisted ·) ++
          [.performed (.subscribe tickers) ()] ∧
      (scene.outcome (strategy tickers) .init).result = scene.memory := by
  obtain ⟨occurrences, runs, noted⟩ := run_noteUnlisted tickers scene.desk scene.queue
  have outcome : scene.outcome (strategy tickers) .init =
      ((noteUnlisted tickers).bind fun _ => (Program.request (.subscribe tickers)).bind fun _ =>
        .done scene.memory).run scene.desk scene.queue := rfl
  rw [outcome, Program.run_bind, runs]
  refine ⟨?_, rfl⟩
  simp only [notedOf_append, noted, Program.request, Program.bind, Program.run, notedOf_map_logged]
  rfl

/-- What comes of a callback for a message. -/
theorem outcome_of_message (scene : Scene Nat) {callback : Callback}
    (isForMessage : callback.isForMessage = true) :
    ∃ line, Shows scene.desk.sender.contracts callback line ∧
      notedOf (scene.outcome (strategy tickers) callback).occurrences = [.logged line] ∧
      (scene.outcome (strategy tickers) callback).result =
        scene.memory + if callback.isTick then 1 else 0 := by
  cases callback with
  | init => simp [Callback.isForMessage] at isForMessage
  | exit => simp [Callback.isForMessage] at isForMessage
  | tick tick => exact ⟨_, shows_tick _ tick, rfl, rfl⟩
  | response response =>
    refine ⟨_, shows_response _ response, ?_, rfl⟩
    have own : (shown response).component = .watch := by
      unfold shown
      split <;> rfl
    change notedOf [.logged (shown response), .performed (.note (shown response)) ()] = _
    simp [notedOf, own]

/-- Callbacks for messages are told one after the other, and at the end how many ticks there have
been. -/
theorem told_of_callbacks (scene : Scene Nat) {callbacks : List Callback}
    (forMessages : ∀ callback ∈ callbacks, callback.isForMessage = true) :
    ∃ between, Told scene.desk.sender.contracts callbacks between ∧
      notedOf (scene.deedsAll (strategy tickers) (callbacks ++ [.exit])) = between ++
        [.called .exit, .logged (.watchFinished (scene.memory + callbacks.countP Callback.isTick))]
        := by
  induction callbacks generalizing scene with
  | nil => exact ⟨[], .nil, rfl⟩
  | cons callback rest inductionHypothesis =>
    obtain ⟨isForMessage, later⟩ := List.forall_mem_cons.mp forMessages
    obtain ⟨line, shows, noted, memory⟩ :=
      @outcome_of_message tickers scene callback isForMessage
    obtain ⟨between, told, more⟩ :=
      inductionHypothesis (scene.after (strategy tickers) callback) later
    rw [Scene.sender_after] at told
    refine ⟨_, .cons shows told, ?_⟩
    have first : scene.deedsAll (strategy tickers) (callback :: rest ++ [.exit]) =
        scene.deeds (strategy tickers) callback ++
          (scene.after (strategy tickers) callback).deedsAll (strategy tickers) (rest ++ [.exit]) :=
      List.flatMap_cons
    have ticks : (scene.after (strategy tickers) callback).memory + rest.countP Callback.isTick =
        scene.memory + (callback :: rest).countP Callback.isTick := by
      change (scene.outcome (strategy tickers) callback).result + _ = _
      rw [memory, List.countP_cons]
      omega
    rw [first, notedOf_append, notedOf_deeds, noted, more, ticks]
    rfl

/-- The memory of a watcher that is called by steps is the number of ticks it had seen before and
that it is called for. -/
theorem memory_of_passage {first run : Run Nat} {marks : List Mark} {occurrences : List Occurrence}
    (passage : Passage (strategy tickers) first marks occurrences run) :
    run.host.memory = first.host.memory + (callsOf marks).countP Callback.isTick := by
  induction passage with
  | start => rfl
  | @enter marks _ _ _ stage inductionHypothesis =>
    have same : callsOf (marks ++ [.entered stage]) = callsOf marks := by simp [callsOf]
    rw [same]
    exact inductionHypothesis
  | @call marks _ run _ callback inductionHypothesis =>
    have counted : (callsOf (marks ++ [.called callback run.host.stage])).countP Callback.isTick =
        (callsOf marks).countP Callback.isTick + if callback.isTick then 1 else 0 := by
      simp [callsOf, List.countP_append, List.countP_cons]
    have result : (run.scene.outcome (strategy tickers) callback).result =
        run.host.memory + if callback.isTick then 1 else 0 := by
      cases callback with
      | init => exact (outcome_init tickers run.scene).2
      | exit => rfl
      | tick tick => rfl
      | response response => rfl
    change (run.scene.outcome (strategy tickers) callback).result = _
    rw [result, counted, inductionHypothesis, Nat.add_assoc]
  | pause _ _ _ memory inductionHypothesis => exact memory.trans inductionHypothesis

/-- A watcher remembers how many ticks it has counted. -/
theorem memory_of_steps {found : Host Nat} {queue : Queue} {heard : List Answer}
    {occurrences : List Occurrence} {run : Run Nat}
    (steps : Undertaking.Steps (strategy tickers) (.untouched found queue) heard occurrences
      (.begun run)) :
    run.host.memory = found.memory + run.counts.ticks := by
  have accounts := steps.accounts
  have noTick : run.farewell.countP Callback.isTick = 0 := by
    unfold Run.farewell
    split <;> rfl
  cases steps.reached with
  | begun passage stands =>
    rw [memory_of_passage passage, ← passage.callbacksOf_eq, accounts.called, accounts.counts,
      Counts.ticks_ofMessages, List.countP_append, noTick]
    rfl

/-- The runs of a watcher so far, of which each has counted so many ticks, and what it remembers.
Only the watcher is the same in all of them. Each may have ended by itself, or have been dropped
wherever it was. -/
inductive Career (tickers : List String) : List Nat -> Nat -> Prop where
  | fresh : Career tickers [] 0
  | run {ticks : List Nat} {found : Host Nat} {queue : Queue} {heard : List Answer}
      {occurrences : List Occurrence} {run : Run Nat} (prior : Career tickers ticks found.memory)
      (steps : Undertaking.Steps (strategy tickers) (.untouched found queue) heard occurrences
        (.begun run)) :
      Career tickers (ticks ++ [run.counts.ticks]) (run.cancel (strategy tickers)).1.host.memory

/-- A watcher remembers the ticks of all its runs. -/
theorem Career.memory {ticks : List Nat} {memory : Nat} (career : Career tickers ticks memory) :
    memory = ticks.sum := by
  induction career with
  | fresh => rfl
  | @run _ _ _ _ _ run _ steps inductionHypothesis =>
    have kept : (run.cancel (strategy tickers)).1.host.memory = run.host.memory := by
      unfold Run.cancel
      split <;> rfl
    rw [kept, memory_of_steps steps, inductionHypothesis, List.sum_append, List.sum_singleton]

/-- The rejections among the callbacks. -/
def rejections (callbacks : List Callback) : List Response :=
  callbacks.filterMap fun
    | .response response => if response.errorCode ≠ 0 then some response else none
    | _ => none

/-- The warnings among what is seen. -/
def warningsOf (sights : List Occurrence) : List Entry :=
  (entriesOf sights).filter (·.level = .warn)

theorem warningsOf_append (first second : List Occurrence) :
    warningsOf (first ++ second) = warningsOf first ++ warningsOf second := by
  simp [warningsOf, entriesOf]

/-- Of the lines for messages the rejections are warnings. -/
theorem Told.warningsOf_eq {table : ContractTable} {callbacks : List Callback}
    {sights : List Occurrence} (told : Told table callbacks sights) :
    warningsOf sights = (rejections callbacks).map .rejectionShown := by
  induction told with
  | nil => rfl
  | @cons callback line _ sights shows _ inductionHypothesis =>
    rw [← List.singleton_append, ← List.singleton_append (l := sights), warningsOf_append,
      warningsOf_append, inductionHypothesis]
    cases shows with
    | rejection refused => simp [rejections, refused, warningsOf, entriesOf, Entry.level]
    | trade accepted => simp [rejections, accepted, warningsOf, entriesOf, Entry.level]
    | _ => rfl

/-- What is seen of a whole run: every ticker that is not in the table is warned of, and all are
asked for; then comes what is seen between the first callback and the last; and at the end a number
of ticks is told. -/
def report (table : ContractTable) (tickers : List String) (between : List Occurrence)
    (ticks : Nat) : List Occurrence :=
  .called .init :: (unlisted table tickers).map (.logged <| .tickerUnlisted ·) ++
    .performed (.subscribe tickers) () :: between ++ [.called .exit, .logged (.watchFinished ticks)]

section

variable {table : ContractTable} {callbacks : List Callback} {between : List Occurrence}

/-- All tickers are asked for in the first callback, in their order. -/
theorem Told.requestsOf_report (told : Told table callbacks between) (channelPrefix : String)
    (tickers : List String) (ticks : Nat) :
    requestsOf channelPrefix (report table tickers between ticks) =
      tickers.map (channelPrefix ++ ·) := by
  have nothing : requestsOf channelPrefix between = [] := by
    induction told with
    | nil => rfl
    | cons _ _ inductionHypothesis => exact inductionHypothesis
  have warned : (unlisted table tickers).map (Occurrence.logged <| .tickerUnlisted ·) =
      ((unlisted table tickers).map Entry.tickerUnlisted).map .logged :=
    List.map_map.symm
  have asks (rest : List Occurrence) :
      requestsOf channelPrefix (.performed (.subscribe tickers) () :: rest) =
        tickers.map (channelPrefix ++ ·) ++ requestsOf channelPrefix rest :=
    List.flatMap_cons
  simp only [report, warned, requestsOf_append, requestsOf_cons_called, requestsOf_cons_logged,
    requestsOf_map_logged, requestsOf_nil, asks, nothing, List.append_nil, List.nil_append,
    List.cons_append]

/-- The warnings are those of tickers that are not in the table and then the rejections. -/
theorem Told.warningsOf_report (told : Told table callbacks between) (tickers : List String)
    (ticks : Nat) :
    warningsOf (report table tickers between ticks) =
      (unlisted table tickers).map .tickerUnlisted ++
        (rejections callbacks).map .rejectionShown := by
  have warned : warningsOf ((unlisted table tickers).map (.logged <| .tickerUnlisted ·)) =
      (unlisted table tickers).map .tickerUnlisted := by
    induction unlisted table tickers with
    | nil => rfl
    | cons ticker rest inductionHypothesis =>
      exact congrArg (.tickerUnlisted ticker :: ·) inductionHypothesis
  rw [report, ← List.singleton_append, ← List.singleton_append (l := between), warningsOf_append,
    warningsOf_append, warningsOf_append, warningsOf_append, warned, told.warningsOf_eq]
  exact List.append_nil _

end

variable {State : Type}

/-- A run over a feed is one more of a watcher's runs. -/
theorem Career.follow {ticks : List Nat} {host : Host Nat}
    (career : Career tickers ticks host.memory) (feed : Feed State) (state : State)
    (queue : Queue) {counts : Counts}
    (completed : (host.run (strategy tickers) feed state queue).run.ending? =
      some (.completed counts)) :
    Career tickers (ticks ++ [counts.ticks])
      (host.run (strategy tickers) feed state queue).run.host.memory := by
  have begins : Undertaking.Step (strategy tickers) (.untouched host queue) [] _ _ := .begin
  obtain ⟨more, steps, _⟩ := (Undertaking.Steps.refl.step begins).follow feed state
  have goesOn := career.run steps
  let followed := (host.start (strategy tickers) queue).1.follow (strategy tickers) feed state
  have left : (host.run (strategy tickers) feed state queue).run =
      (followed.run.cancel (strategy tickers)).1 := rfl
  have same : counts = followed.run.counts := by
    cases phase : followed.run.phase with
    | finished ending =>
      have stays : followed.run.cancel (strategy tickers) = (followed.run, []) := by
        simp [Run.cancel, phase]
      rw [left, stays] at completed
      exact steps.accounts.completed counts completed
    | _ => simp [left, Run.cancel, phase, Run.ending?, Change.phase_finish] at completed
  rwa [same]

/-- What a watcher reports of a run over a feed that closes. The watcher has been run before, and
these are the numbers of ticks of those runs. -/
structure Reports (tickers : List String) (found : Desk) (earlier : List Nat)
    (messages : List Bus.Message) (followed : Followed Nat State) : Prop where
  ending : followed.run.ending? = some (.completed (.ofMessages found.responseChannel? messages))
  /-- There is one line for each message that can be read, and the number at the end is that of the
  ticks of all runs. -/
  sights : ∃ between,
    Told found.sender.contracts
        (messages.filterMap (Callback.ofMessage? found.responseChannel?)) between ∧
      sightsOf followed.occurrences = report found.sender.contracts tickers between
        (earlier.sum + (Counts.ofMessages found.responseChannel? messages).ticks)
  requested : requestsOf found.channelPrefix followed.occurrences =
    tickers.map (found.channelPrefix ++ ·)
  warned : warningsOf (sightsOf followed.occurrences) =
    (unlisted found.sender.contracts tickers).map .tickerUnlisted ++
      (rejections (messages.filterMap (Callback.ofMessage? found.responseChannel?))).map
        .rejectionShown
  /-- This run is on record when the watcher is run again. -/
  career : Career tickers
    (earlier ++ [(Counts.ofMessages found.responseChannel? messages).ticks])
    followed.run.host.memory

/-- A watcher that is run over a feed that closes reports what it has received. -/
theorem reports_of_hears {feed : Feed State} {state : State} {host : Host Nat} {queue : Queue}
    {messages : List Bus.Message} {earlier : List Nat} (apart : feed.IsApart)
    (career : Career tickers earlier host.memory)
    (hears : host.Hears (strategy tickers) feed state queue messages none) :
    Reports tickers host.desk earlier messages
      (host.run (strategy tickers) feed state queue) := by
  let callbacks := messages.filterMap (Callback.ofMessage? host.desk.responseChannel?)
  have forMessages : ∀ callback ∈ callbacks, callback.isForMessage = true :=
    fun _ => Callback.isForMessage_of_mem
  let scene := host.scene queue
  let begun := scene.after (strategy tickers) .init
  obtain ⟨noted, remembers⟩ := outcome_init tickers scene
  have memory : begun.memory = earlier.sum := remembers.trans career.memory
  obtain ⟨between, told, later⟩ := @told_of_callbacks tickers begun _ forMessages
  rw [memory, ← Counts.ticks_ofMessages] at later
  rw [Scene.sender_after] at told
  have dispatched := Host.dispatches hears
  have sights : sightsOf (host.run (strategy tickers) feed state queue).occurrences =
      report host.desk.sender.contracts tickers between
        (earlier.sum + (Counts.ofMessages host.desk.responseChannel? messages).ticks) := by
    have deeds : scene.deedsAll (strategy tickers)
          (Callback.forMessages host.desk.responseChannel? messages) =
        scene.deeds (strategy tickers) .init ++
          begun.deedsAll (strategy tickers) (callbacks ++ [.exit]) :=
      List.flatMap_cons
    rw [Host.isFaithful_run _ apart, ← notedOf_deedsOf, dispatched.deeds]
    refine (congrArg notedOf deeds).trans ?_
    rw [notedOf_append, notedOf_deeds, noted, later, report]
    simp [scene, Host.scene]
  constructor
  · exact dispatched.ending
  · exact ⟨between, told, sights⟩
  · rw [← requestsOf_sightsOf, sights]
    exact told.requestsOf_report _ _ _
  · rw [sights]
    exact told.warningsOf_report _ _
  · exact career.follow feed state queue dispatched.ending

/-- A host with a table of one contract. -/
def listing : Host Nat where
  stage := .init
  desk := ⟨⟨"grid", ⟨[⟨1, "IF2309", "CFFEX", "IF", 300, ⟨0⟩⟩]⟩⟩, "md.", []⟩
  memory := 0

/-- A tick of the listed contract, one of an index that no contract has, a payload that is no tick,
and a rejection. -/
def listingMessages : List Bus.Message :=
  ⟨"md.rb2310", { Host.watchedTick with tickerIndex := 2 }.encode⟩ :: Host.watchedMessages

/-- Two tickers are watched, of which the table has one, and they are watched again: after the
second run four ticks are told of. -/
theorem reports_of_hears_listing :
    let tickers := ["IF2309", "rb2310"]
    let script : Script := ⟨[], listingMessages.map .message ++ [.closed], false⟩
    let queue : Queue := ⟨1, [], true⟩
    let again : Host Nat := { listing with memory := 2 }
    Career tickers [2] again.memory ∧
      again.Hears (strategy tickers) Script.feed script queue listingMessages none ∧
      ∃ between,
        Told again.desk.sender.contracts
          [.tick { Host.watchedTick with tickerIndex := 2 }, .tick Host.watchedTick,
            .response Host.watchedResponse] between ∧
        sightsOf (again.run (strategy tickers) Script.feed script queue).occurrences =
          [.called .init, .logged (.tickerUnlisted "rb2310"), .performed (.subscribe tickers) ()]
            ++ between ++ [.called .exit, .logged (.watchFinished 4)] := by
  intro tickers script queue again
  have callbacks : listingMessages.filterMap (Callback.ofMessage? (some "grid")) =
      [.tick { Host.watchedTick with tickerIndex := 2 }, .tick Host.watchedTick,
        .response Host.watchedResponse] := by
    decide +kernel
  have counts : Counts.ofMessages (some "grid") listingMessages = ⟨2, 1, 1⟩ := by
    decide +kernel
  have responses : listing.desk.responseChannel? = some "grid" := by
    decide +kernel
  have once := reports_of_hears Script.isApart_feed .fresh
    (Host.hears_script (strategy tickers) listing queue listingMessages none false)
  have career := once.career
  rw [responses, counts] at career
  have memory := career.memory
  rw [memory] at career
  have hears := Host.hears_script (strategy tickers) again queue listingMessages none false
  obtain ⟨between, told, sights⟩ := (reports_of_hears Script.isApart_feed career hears).sights
  rw [show again.desk.responseChannel? = _ from responses] at told sights
  rw [callbacks] at told
  rw [counts] at sights
  exact ⟨career, hears, between, told, sights⟩

end Watch

end StrategyHost.Strategy
