import StrategyHost.Proofs.Market.TickLayout
import StrategyHost.Proofs.Strategy.Hearing
import StrategyHost.Proofs.StrategyId

/-!
# Ticks on their way to the strategy

Market data and responses share one space of channel names. A tick on the channel of a ticker
is handed to the strategy unless this channel is also the one of the strategy's responses;
then every payload on it is taken for a response.
-/

namespace StrategyHost.Strategy

open StrategyHost.Bus (Message)
open StrategyHost.Market (Tick)
open StrategyHost.Outbound (Queue)
open StrategyHost.Trade (Response)

variable {Memory : Type}

namespace Callback

variable {responseChannel? : Option String} {channel : String} {payload : List UInt8}

/-- Where no responses come, a payload that is a tick is for the callback of ticks. -/
theorem ofMessage?_of_tick {tick : Tick} (elsewhere : responseChannel? ≠ some channel)
    (wellFormed : Tick.decode payload = .ok tick) :
    ofMessage? responseChannel? ⟨channel, payload⟩ = some (.tick tick) := by
  rw [ofMessage?, if_neg elsewhere, wellFormed]
  rfl

/-- Where responses come, nothing is for the callback of ticks. -/
theorem ofMessage?_of_shadowed (shadowed : responseChannel? = some channel) :
    ofMessage? responseChannel? ⟨channel, payload⟩ =
      (Response.decode payload).toOption.map .response :=
  if_pos shadowed

end Callback

namespace Undertaking

/-- Of what a run has heard, each tick on the channel of a ticker has been handed to the
strategy in its turn and counted as a tick, unless this channel is the one of the strategy's
responses. There no tick is handed over: what is on it is read as a response. The two are the
same exactly if the ticker's channel is called what is kept of the strategy's identifier. -/
theorem ticks_of_steps {strategy : Strategy Memory} {found : Host Memory} {queue : Queue}
    {heard : List Answer} {occurrences : List Occurrence} {run : Run Memory}
    (steps : Steps strategy (.untouched found queue) heard occurrences (.begun run))
    {before after : List Message} {ticker : String} {payload : List UInt8} {tick : Tick}
    (received : messagesOf heard =
      before ++ ⟨found.desk.marketChannel ticker, payload⟩ :: after)
    (wellFormed : Tick.decode payload = .ok tick) :
    let strategyId := found.desk.sender.strategyId
    let responseChannel? := found.desk.responseChannel?
    let callbacks := List.filterMap (Callback.ofMessage? responseChannel?)
    let others := Counts.ofMessages responseChannel? (before ++ after)
    (responseChannel? ≠ some (found.desk.marketChannel ticker) ->
        callbacksOf occurrences =
            .init :: callbacks before ++ .tick tick :: callbacks after ++ run.farewell ∧
          run.counts = { others with ticks := others.ticks + 1 }) ∧
      (responseChannel? = some (found.desk.marketChannel ticker) ->
        callbacksOf occurrences = .init :: callbacks before
            ++ ((Response.decode payload).toOption.map .response).toList ++ callbacks after
            ++ run.farewell ∧
          run.counts.ticks = others.ticks) ∧
      (responseChannel? = some (found.desk.marketChannel ticker) ↔
        strategyId ≠ "" ∧ Keeps strategyId (found.desk.marketChannel ticker)) ∧
      forall counts, run.ending? = some (.completed counts) -> counts = run.counts := by
  intro strategyId responseChannel? callbacks others
  have accounts := steps.accounts
  obtain ⟨called, counts⟩ := accounts.of_split received
  refine ⟨?_, ?_, responseChannel?_eq_some_iff, accounts.completed⟩
  · intro elsewhere
    rw [Callback.ofMessage?_of_tick elsewhere wellFormed] at called counts
    exact ⟨called.trans (by simp [callbacks, responseChannel?]), counts⟩
  · intro shadowed
    rw [Callback.ofMessage?_of_shadowed shadowed] at called counts
    refine ⟨called, ?_⟩
    rw [counts]
    cases Response.decode payload with
    | error fault => rfl
    | ok response => rfl

/-- A tick of a watched ticker is handed over. -/
theorem ticks_of_steps_watching :
    let strategy := Watch.strategy ["IF2309"]
    let message : Message := ⟨"md.IF2309", Host.watchedTick.encode⟩
    exists occurrences run,
      Steps strategy (.untouched Host.watching ⟨1, [], true⟩)
          [.subscribed (.ok ()), .subscribed (.ok ()), .bringing message] occurrences
          (.begun run) ∧
        callbacksOf occurrences = [.init, .tick Host.watchedTick] ++ run.farewell ∧
        run.counts = ⟨1, 0, 0⟩ := by
  intro strategy message
  obtain ⟨occurrences, run, receives, waits, _⟩ := steps_watching
  have ticks := receives.hear (.bringing message) waits trivial
  have elsewhere : Host.watching.desk.responseChannel? ≠
      some (Host.watching.desk.marketChannel "IF2309") := by
    decide +kernel
  have received : messagesOf ([.subscribed (.ok ()), .subscribed (.ok ())] ++ [.bringing message]) =
      [] ++ ⟨Host.watching.desk.marketChannel "IF2309", Host.watchedTick.encode⟩ :: [] := rfl
  obtain ⟨called, counts⟩ :=
    (ticks_of_steps ticks received (Tick.decode_encode Host.watchedTick)).1 elsewhere
  exact ⟨_, _, ticks, called, counts⟩

end Undertaking

namespace Host

/-- A host whose responses come on the channel of the ticker that its strategy asks for. -/
def shadowing : Host Nat := ⟨.init, ⟨⟨"IF2309", .empty⟩, "", []⟩, 0⟩

/-- The strategy asks for a ticker and is not called for a tick on the channel of this ticker.
The tick is counted as a payload that cannot be read. -/
theorem shadowing_skips_tick :
    let strategy := Watch.strategy ["IF2309"]
    let queue : Queue := ⟨1, [], true⟩
    let channel := shadowing.desk.marketChannel "IF2309"
    let script : Script := ⟨[], [.message ⟨channel, watchedTick.encode⟩, .closed], false⟩
    let followed := shadowing.run strategy Script.feed script queue
    ((shadowing.scene queue).outcome strategy .init).desk.requested = [channel] ∧
      Tick.decode watchedTick.encode = .ok watchedTick ∧
      callbacksOf followed.occurrences = [.init, .exit] ∧
      followed.run.ending? = some (.completed ⟨0, 0, 1⟩) := by
  intro strategy queue channel script followed
  let messages : List Message := [⟨channel, watchedTick.encode⟩]
  obtain ⟨ending, called, _, _, _⟩ :=
    dispatches (hears_script strategy shadowing queue messages none false)
  have responses : (shadowing.scene queue).desk.responseChannel? = some "IF2309" := by
    decide +kernel
  have callbacks : Callback.forMessages (some "IF2309") messages = [.init, .exit] := by
    decide +kernel
  have counts : Counts.ofMessages (some "IF2309") messages = ⟨0, 0, 1⟩ := by
    decide +kernel
  rw [responses, callbacks] at called
  rw [responses, counts] at ending
  exact ⟨by decide +kernel, Tick.decode_encode watchedTick, called, ending⟩

end Host

end StrategyHost.Strategy
