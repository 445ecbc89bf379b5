import StrategyHost.Outbound.Sender
import StrategyHost.Proofs.Contract.Grammar
import StrategyHost.Proofs.Trade.Request

/-!
# Orders on the wire

An order of a ticker that is in the table becomes 56 bytes which say what the order
says, with the index under which the table has the ticker's contract. Under one table
the bytes determine the order and the strategy's identifier.
-/

namespace StrategyHost.Outbound

open StrategyHost.Trade (Order Request)

/-- A request says what an order of a strategy says, the ticker apart. -/
structure Carries (request : Request) (strategyId : String) (order : Order) : Prop where
  userOrderId : request.userOrderId = order.userOrderId
  direction : request.direction = order.direction
  offset : request.offset = order.offset
  orderType : request.orderType = order.orderType
  volume : request.volume = order.volume
  price : request.price.bits = order.price.bits
  /-- Sixteen bytes, with zeros where the identifier has no more. -/
  strategyId : forall place, place < 16 ->
    request.strategyId.bytes[place]? = some ((Text.Utf8.encode strategyId)[place]?.getD 0)

namespace Sender

variable {sender : Sender} {order : Order} {payload : List UInt8}

theorem carries_request (sender : Sender) (contract : Contract) (order : Order) :
    Carries (sender.request contract order) sender.strategyId order where
  userOrderId := rfl
  direction := rfl
  offset := rfl
  orderType := rfl
  volume := rfl
  price := rfl
  strategyId _ within := WireId.getElem?_ofBytes (Text.Utf8.encode sender.strategyId) within

/-- An order fails only because no contract has its ticker. -/
theorem encode_eq_error_iff {failure : Failure} :
    sender.encode order = .error failure ↔
      failure = .unknownTicker order.ticker ∧
        forall contract, contract ∈ sender.contracts.contracts ->
          contract.ticker ≠ order.ticker := by
  rw [← ContractTable.byTicker_eq_error_iff, encode]
  cases sender.contracts.byTicker order.ticker <;> simp [Except.map]

/-- A payload is the request for the order's contract. -/
theorem exists_of_encode (encoded : sender.encode order = .ok payload) :
    exists contract, contract ∈ sender.contracts.contracts ∧ contract.ticker = order.ticker ∧
      payload = (sender.request contract order).encode := by
  unfold encode at encoded
  cases found : sender.contracts.byTicker order.ticker with
  | error failure => simp [found, Except.map] at encoded
  | ok contract =>
    obtain ⟨member, named⟩ := ContractTable.mem_of_byTicker found
    rw [found] at encoded
    exact ⟨contract, member, named, (Except.ok.inj encoded).symm⟩

end Sender

/-- An order of a table that has been read from a file is refused exactly if no contract
has its ticker; otherwise its payload is read back as the order under the contract's
index, and no other order or identifier has this payload. -/
theorem Sender.encode_of_ofBytes {content : List UInt8} {table : ContractTable}
    (read : ContractTable.ofBytes content = .ok table) (strategyId : String) (order : Order) :
    ((⟨strategyId, table⟩ : Sender).encode order = .error (.unknownTicker order.ticker) ↔
        ¬exists contract, contract ∈ table.contracts ∧ contract.ticker = order.ticker) ∧
      ((exists contract, contract ∈ table.contracts ∧ contract.ticker = order.ticker) ->
        exists payload request contract,
          (⟨strategyId, table⟩ : Sender).encode order = .ok payload ∧ payload.length = 56 ∧
            Request.decode payload = .ok request ∧ Carries request strategyId order ∧
            table.byIndex? request.tickerIndex.toNat = some contract ∧
            contract.ticker = order.ticker) ∧
      forall otherId other payload,
        (⟨strategyId, table⟩ : Sender).encode order = .ok payload ->
          (⟨otherId, table⟩ : Sender).encode other = .ok payload ->
            order = other ∧ WireId.ofText strategyId = WireId.ofText otherId := by
  obtain ⟨rows, fit, lists⟩ := ContractTable.exists_lists_of_ofBytes read
  refine ⟨?_, ?_, ?_⟩
  · rw [encode_eq_error_iff]
    simp
  · rintro ⟨known, member, named⟩
    cases encoded : (⟨strategyId, table⟩ : Sender).encode order with
    | error failure => exact absurd named ((encode_eq_error_iff.mp encoded).2 known member)
    | ok payload =>
      obtain ⟨contract, listed, ticker, rfl⟩ := exists_of_encode encoded
      refine ⟨_, _, contract, rfl, Request.length_encode _, Request.decode_encode _,
        carries_request _ contract order, ?_, ticker⟩
      exact lists.byIndex?_tickerIndex fit.few listed
  · intro otherId other payload encoded otherEncoded
    obtain ⟨contract, listed, ticker, rfl⟩ := exists_of_encode encoded
    obtain ⟨otherContract, otherListed, otherTicker, same⟩ := exists_of_encode otherEncoded
    have requests := Request.encode_injective same
    simp only [request, Request.mk.injEq] at requests
    obtain ⟨ids, numbers, indexes, directions, offsets, types, volumes, prices⟩ := requests
    -- The payload has no ticker: that the tickers agree comes from the table's indexes.
    have found := lists.byIndex?_tickerIndex fit.few listed
    rw [indexes, lists.byIndex?_tickerIndex fit.few otherListed] at found
    obtain rfl := Option.some.inj found
    refine ⟨?_, ids⟩
    cases order
    cases other
    simp_all

namespace Sender

/-- A file of one contract, with spaces around its ticker. -/
def loneContent : List UInt8 :=
  Text.Utf8.encode "ticker\n IF2309 ,CFFEX,Index,,300,0.2\n"

/-- The table of that file. -/
def loneTable : ContractTable :=
  ⟨[⟨1, "IF2309", "CFFEX", "Index", 300, ⟨0x3FC999999999999A⟩⟩]⟩

/-- An order of that contract is read back, from a strategy whose name the wire cuts. -/
theorem encode_of_ofBytes_lone :
    let order : Order := ⟨"IF2309", .sell, .closeToday, .limit, 3, ⟨0x7FF8000000000001⟩, 7⟩
    ContractTable.ofBytes loneContent = .ok loneTable ∧
      exists payload request contract,
        (⟨"a-strategy-with-a-long-name", loneTable⟩ : Sender).encode order = .ok payload ∧
          payload.length = 56 ∧ Request.decode payload = .ok request ∧
          Carries request "a-strategy-with-a-long-name" order ∧
          loneTable.byIndex? request.tickerIndex.toNat = some contract ∧
          contract.ticker = "IF2309" := by
  intro order
  have read : ContractTable.ofBytes loneContent = .ok loneTable := by decide +kernel
  have encodes := encode_of_ofBytes read "a-strategy-with-a-long-name" order
  exact ⟨read, encodes.2.1 ⟨_, List.mem_singleton.mpr rfl, rfl⟩⟩

end Sender

end StrategyHost.Outbound
