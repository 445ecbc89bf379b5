import StrategyHost.Proofs.Strategy.Hearing
import StrategyHost.Proofs.Trade.Kinds

/-!
# Messages on the wrong channel

A run reads a message by its channel alone. A payload of another kind than its channel is for
is refused by the reader, so that the run only counts it: `Undertaking.misrouted_of_steps`.
-/

namespace StrategyHost.Strategy

open StrategyHost.Bus (Message)
open StrategyHost.Market (Tick)
open StrategyHost.Outbound (Queue)
open StrategyHost.Trade (Response)
open StrategyHost.Wire (Refuses refuses_of_error refuses_of_not_exists)

variable {Memory : Type}

/-- A message whose payload is of another kind than those that its channel is for. Nothing is
said of a tick that has the terms of a response where these would stand. -/
inductive Misrouted (responseChannel? : Option String) : Message -> Prop where
  | tick (tick : Tick) (rest : List UInt8) {channel : String}
      (isForResponses : responseChannel? = some channel) (differs : ¬tick.ResemblesResponse) :
      Misrouted responseChannel? ⟨channel, tick.encode ++ rest⟩
  | response (response : Response) {channel : String}
      (isForTicks : responseChannel? ≠ some channel) :
      Misrouted responseChannel? ⟨channel, response.encode⟩
  | request (request : Trade.Request) (rest : List UInt8) (channel : String) :
      Misrouted responseChannel? ⟨channel, request.encode ++ rest⟩

/-- A misrouted message is for no callback. -/
theorem Misrouted.ofMessage?_eq_none {responseChannel? : Option String} {message : Message}
    (misrouted : Misrouted responseChannel? message) :
    Callback.ofMessage? responseChannel? message = none := by
  unfold Callback.ofMessage?
  cases misrouted with
  | tick tick rest isForResponses differs =>
    rw [if_pos isForResponses]
    cases read : Response.decode (tick.encode ++ rest) with
    | error fault => rfl
    | ok response => exact absurd ((Response.exists_decode_tick_iff tick rest).mp ⟨_, read⟩) differs
  | response response isForTicks =>
    rw [if_neg isForTicks, Tick.decode_response]
    rfl
  | request request rest channel =>
    rw [Response.decode_request, Tick.decode_request]
    split
    · rfl
    · rfl

namespace Run

/-- Messages that are for no callback leave a run as it was, but for their number. -/
theorem story_of_unreadable_all (strategy : Strategy Memory) {run : Run Memory}
    {messages : List Message} (phase : run.phase = .receiving)
    (requested : run.host.desk.requested = [])
    (unreadable : forall message, message ∈ messages ->
      Callback.ofMessage? run.host.desk.responseChannel? message = none) :
    run.story strategy (messages.map .bringing) =
      ⟨{ run with counts := run.counts.plus ⟨0, 0, messages.length⟩ }, [], []⟩ := by
  induction messages generalizing run with
  | nil => rw [List.length_nil, Counts.plus_zero]; rfl
  | cons message rest inductionHypothesis =>
    obtain ⟨entry, heard⟩ := received_unreadable strategy phase requested
      (unreadable message List.mem_cons_self)
    have later := @inductionHypothesis { run with counts := run.counts.plus (.one none) }
      phase requested fun other member => unreadable other (List.mem_cons_of_mem message member)
    have counted : (run.counts.plus (.one none)).plus ⟨0, 0, rest.length⟩ =
        run.counts.plus ⟨0, 0, (message :: rest).length⟩ := by
      rw [Counts.plus_assoc, List.length_cons, Nat.add_comm]
      rfl
    calc run.story strategy ((message :: rest).map .bringing)
      _ = ({ run with counts := run.counts.plus (.one none) }.story strategy
            (rest.map .bringing)).following run.scene [.logged entry] := by
          rw [List.map_cons, story, Answer.bringing, hear, heard]
      _ = ⟨{ run with counts := run.counts.plus ⟨0, 0, (message :: rest).length⟩ }, [], []⟩ := by
          rw [later, counted]
          rfl

end Run

namespace Undertaking

/-- What a payload of another kind is read as. A tick is read as a response exactly if it has
the terms of one where these would stand, and so never if its last price is not subnormal;
no other payload is read as one of another kind. A run that waits for a message and is brought
misrouted ones only counts them. -/
theorem misrouted_of_steps :
    (forall (tick : Tick) (rest : List UInt8),
      ((exists response, Response.decode (tick.encode ++ rest) = .ok response) ↔
          tick.lastPrice.highWord ∈ [1, 2] ∧ tick.volume.toNat % 2 ^ 32 ∈ [1, 2, 4, 8]) ∧
        (tick.lastPrice.Ordinary -> Refuses (Response.decode (tick.encode ++ rest))) ∧
        Refuses (Trade.Request.decode tick.encode)) ∧
      (forall response : Response,
        Refuses (Tick.decode response.encode) ∧ Refuses (Trade.Request.decode response.encode)) ∧
      (forall (request : Trade.Request) (rest : List UInt8),
        Refuses (Tick.decode (request.encode ++ rest)) ∧
          Refuses (Response.decode (request.encode ++ rest))) ∧
      forall {Memory : Type} {strategy : Strategy Memory} {found : Host Memory} {queue : Queue}
        {heard : List Answer} {occurrences : List Occurrence} {run : Run Memory}
        {messages : List Message},
        Steps strategy (.untouched found queue) heard occurrences (.begun run) ->
          run.call? = some .receive ->
          (forall message, message ∈ messages ->
            Misrouted found.desk.responseChannel? message) ->
          run.story strategy (messages.map .bringing) =
            ⟨{ run with
                counts := { run.counts with faults := run.counts.faults + messages.length } },
              [], []⟩ := by
  refine ⟨?_, ?_, ?_, ?_⟩
  · intro tick rest
    have resembles := Response.exists_decode_tick_iff tick rest
    refine ⟨resembles, ?_, refuses_of_error (Trade.Request.decode_tick tick)⟩
    intro ordinary
    exact refuses_of_not_exists (resembles.not.mpr (Tick.not_resemblesResponse ordinary))
  · intro response
    exact ⟨refuses_of_error (Tick.decode_response response),
      refuses_of_error (Trade.Request.decode_response response)⟩
  · intro request rest
    exact ⟨refuses_of_error (Tick.decode_request request rest),
      refuses_of_error (Response.decode_request request rest)⟩
  · intro Memory strategy found queue heard occurrences run messages steps waits misrouted
    have phase := Run.phase_of_receive waits
    obtain ⟨responseChannel, _, _, requested, _⟩ := steps.accounts
    rw [← responseChannel] at misrouted
    exact Run.story_of_unreadable_all strategy phase (requested (by rw [phase]; rfl))
      fun message member => (misrouted message member).ofMessage?_eq_none

/-- A tick on the channel of responses, a response among the ticks, and a request are counted
and otherwise ignored. A tick with a subnormal price can be read as a response. -/
theorem misrouted_of_steps_watching :
    let strategy := Watch.strategy ["IF2309"]
    let request : Trade.Request :=
      ⟨WireId.ofText "grid", 7, 1, .buy, .opening, .limit, 1, ⟨0x3FF0000000000000⟩⟩
    let messages : List Message := [⟨"grid", Host.watchedTick.encode ++ [7]⟩,
      ⟨"md.IF2309", Host.watchedResponse.encode⟩, ⟨"grid", request.encode⟩]
    Refuses (Response.decode (Host.watchedTick.encode ++ [7])) ∧
      (exists response, Response.decode
        ({ Host.watchedTick with lastPrice := ⟨0x100000000⟩ } : Tick).encode = .ok response) ∧
      exists heard occurrences run,
        Steps strategy (.untouched Host.watching ⟨1, [], true⟩) heard occurrences (.begun run) ∧
          run.call? = some .receive ∧
          run.story strategy (messages.map .bringing) =
            ⟨{ run with counts := ⟨0, 0, 3⟩ }, [], []⟩ := by
  intro strategy request messages
  have ordinary : Host.watchedTick.lastPrice.Ordinary := .zero (by decide)
  have differs : ¬Host.watchedTick.ResemblesResponse := Tick.not_resemblesResponse ordinary
  have resembles := (misrouted_of_steps.1
    { Host.watchedTick with lastPrice := ⟨0x100000000⟩ } []).1.mpr (by decide)
  rw [List.append_nil] at resembles
  refine ⟨(misrouted_of_steps.1 _ [7]).2.1 ordinary, resembles, ?_⟩
  obtain ⟨occurrences, run, receives, waits, fresh⟩ := steps_watching
  have responses : Host.watching.desk.responseChannel? = some "grid" := by decide +kernel
  have misrouted : forall message, message ∈ messages ->
      Misrouted Host.watching.desk.responseChannel? message := by
    intro message member
    simp only [messages, List.mem_cons, List.not_mem_nil, or_false] at member
    rcases member with rfl | rfl | rfl
    · exact .tick _ [7] responses differs
    · exact .response _ (by rw [responses]; decide)
    · exact List.append_nil request.encode ▸ .request request [] "grid"
  have ignored := misrouted_of_steps.2.2.2 receives waits misrouted
  rw [fresh] at ignored
  exact ⟨_, occurrences, run, receives, waits, ignored⟩

end Undertaking

end StrategyHost.Strategy
