import StrategyHost.Proofs.Outbound.Encoder
import StrategyHost.Proofs.StrategyId
import StrategyHost.Strategy.Desk

/-!
# Where a strategy hears about its orders

A response goes to the channel that the order's identifier names. The strategy derives the name
of its channel from its own identifier, without the encoder.
-/

namespace StrategyHost.Strategy.Desk

open StrategyHost.Outbound (Sender)
open StrategyHost.Text (Utf8.encode)
open StrategyHost.Trade (Order Request)

/-- Of every identifier all that can be kept is read back. A strategy with an identifier hears
on the channel that its orders name, which is called what is kept of the identifier; one
without an identifier hears on none, and its orders name none. -/
theorem responseChannel_of_encode :
    (forall strategyId : String,
      Keeps strategyId (WireId.ofText strategyId).text ∧
        ((Utf8.encode strategyId).length <= 16 -> '\x00' ∉ strategyId.toList ->
          (WireId.ofText strategyId).text = strategyId)) ∧
      forall {desk : Desk} {order : Order} {payload : List UInt8},
        desk.sender.encode order = .ok payload ->
          exists request, Request.decode payload = .ok request ∧
            (desk.sender.strategyId = "" ->
              desk.responseChannel? = none ∧
                request.strategyId.bytes = List.replicate 16 0) ∧
            (desk.sender.strategyId ≠ "" ->
              desk.responseChannel? = some request.strategyId.text ∧
                Keeps desk.sender.strategyId request.strategyId.text ∧
                ((Utf8.encode desk.sender.strategyId).length <= 16 ->
                  '\x00' ∉ desk.sender.strategyId.toList ->
                    request.strategyId.text = desk.sender.strategyId)) := by
  refine ⟨fun strategyId => ⟨WireId.keeps_ofText strategyId, WireId.text_ofText⟩, ?_⟩
  intro desk order payload encoded
  obtain ⟨contract, _, _, rfl⟩ := Sender.exists_of_encode encoded
  refine ⟨_, Request.decode_encode _, ?_, ?_⟩
  · intro unnamed
    rw [responseChannel?, Sender.request, unnamed]
    exact ⟨rfl, WireId.bytes_ofText_empty⟩
  · intro named
    have keeps := WireId.keeps_ofText desk.sender.strategyId
    exact ⟨responseChannel?_eq_some_iff.mpr ⟨named, keeps⟩, keeps, WireId.text_ofText⟩

/-- The sixteenth byte of this identifier is the first of two that make up a character. -/
theorem responseChannel_of_encode_divided :
    let desk : Desk := ⟨⟨"trendfolger-groß", Sender.loneTable⟩, "", []⟩
    let order : Order := ⟨"IF2309", .sell, .closeToday, .limit, 3, ⟨0x7FF8000000000001⟩, 7⟩
    exists payload request, desk.sender.encode order = .ok payload ∧
      Request.decode payload = .ok request ∧
      desk.responseChannel? = some "trendfolger-gro" ∧
      request.strategyId.text = "trendfolger-gro" := by
  intro desk order
  have encoded : desk.sender.encode order = .ok _ := rfl
  obtain ⟨request, read, _, hears⟩ := responseChannel_of_encode.2 encoded
  have channel : desk.responseChannel? = some "trendfolger-gro" := by decide +kernel
  obtain ⟨same, _, _⟩ := hears (by decide)
  exact ⟨_, request, encoded, read, channel, Option.some.inj (same.symm.trans channel)⟩

end StrategyHost.Strategy.Desk
