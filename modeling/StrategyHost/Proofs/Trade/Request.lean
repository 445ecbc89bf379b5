import StrategyHost.Proofs.Trade.Terms
import StrategyHost.Proofs.Wire.Word
import StrategyHost.Trade.Request

/-!
# Order requests read back

Reading what has been written gives the request back, although the writer goes by
the order of the fields and the reader by their offsets. So no two requests have the
same payload.
-/

namespace StrategyHost

namespace WireId

/-- An identifier is the one of its own bytes. -/
@[simp] theorem ofBytes_bytes (id : WireId) : ofBytes id.bytes = id := by
  obtain ⟨bytes, length_bytes⟩ := id
  have kept : bytes.take size ++ List.replicate (size - bytes.length) 0 = bytes := by
    rw [← length_bytes, List.take_length, Nat.sub_self, List.replicate_zero, List.append_nil]
  simp only [ofBytes, kept]

/-- A place of an identifier holds the byte that stands there in the text's bytes, and
zero after their end. -/
theorem getElem?_ofBytes (bytes : List UInt8) {place : Nat} (within : place < size) :
    (ofBytes bytes).bytes[place]? = some (bytes[place]?.getD 0) := by
  unfold ofBytes
  by_cases short : place < bytes.length
  · rw [List.getElem?_append_left (by simp; omega), List.getElem?_take, if_pos within]
    simp [short]
  · rw [List.getElem?_append_right (by simp; omega), List.getElem?_replicate]
    rw [if_pos (by simp; omega)]
    simp [short]

end WireId

namespace Trade.Request

open Wire

/-- A request takes 56 bytes. -/
@[simp] theorem length_encode (request : Request) : request.encode.length = size := by
  simp [encode, request.strategyId.length_bytes, WireId.size, size]

section

variable (request : Request)

/-- The identifier is read between the command and the order's number. -/
theorem field_encode : field request.encode 8 WireId.size = request.strategyId.bytes := by
  have length := request.strategyId.length_bytes
  simp [encode, field_skip, field_here length]

/-- Each word is read at its offset. -/
theorem words_encode :
    get32 request.encode 0 = magic ∧
      get32 request.encode 4 = Vocabulary.code CommandType.newOrder ∧
      get32 request.encode 24 = request.userOrderId ∧
      get32 request.encode 28 = request.tickerIndex ∧
      get32 request.encode 32 = Vocabulary.code request.direction ∧
      get32 request.encode 36 = Vocabulary.code request.offset ∧
      get32 request.encode 40 = Vocabulary.code request.orderType ∧
      get32 request.encode 44 = request.volume ∧
      getNumber request.encode 48 = request.price := by
  have length : request.strategyId.bytes.length = 16 := request.strategyId.length_bytes
  simp [encode, length, get32_skip, get32_here, getNumber_skip, getNumber_last]

end

/-- What is written is read back. -/
theorem decode_encode (request : Request) : decode request.encode = .ok request := by
  obtain ⟨first, command, userOrderId, tickerIndex, direction, offset, orderType, volume, price⟩ :=
    words_encode request
  unfold decode
  rw [first, command, direction, offset, orderType]
  simp [field_encode, userOrderId, tickerIndex, volume, price]

/-- No two requests have the same payload. -/
theorem encode_injective {first second : Request} (same : first.encode = second.encode) :
    first = second := by
  have read := decode_encode first
  rw [same, decode_encode] at read
  exact (Except.ok.inj read).symm

end Trade.Request

end StrategyHost
