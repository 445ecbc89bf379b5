import StrategyHost.Proofs.Trade.Request
import StrategyHost.Proofs.Wire.Field

/-!
# The layout of order requests

Reading accepts exactly what writing produces. Both are compared with the layout, which
says of every byte what it is: `decode_eq_ok_iff` for the reader, which goes by offsets,
and `layout_iff` for the writer, which goes by the order of the fields.
-/

namespace StrategyHost.Trade.Request

open Wire

/-- The 56 bytes of a request. -/
structure Layout (payload : List UInt8) (request : Request) : Prop where
  length : payload.length = 56
  magic : Holds payload 0 4 0x01709394
  command : Holds payload 4 4 1
  strategyId : forall place, place < 16 ->
    payload[8 + place]? = request.strategyId.bytes[place]?
  userOrderId : Holds payload 24 4 request.userOrderId.toNat
  tickerIndex : Holds payload 28 4 request.tickerIndex.toNat
  direction : Holds payload 32 4 (Vocabulary.code request.direction).toNat
  offset : Holds payload 36 4 (Vocabulary.code request.offset).toNat
  orderType : Holds payload 40 4 (Vocabulary.code request.orderType).toNat
  volume : Holds payload 44 4 request.volume.toNat
  price : Holds payload 48 8 request.price.bits.toNat

/-- What a payload must be like to be a request; all other bytes are free. -/
structure Acceptable (payload : List UInt8) : Prop where
  length : payload.length = 56
  magic : Holds payload 0 4 0x01709394
  command : Holds payload 4 4 1
  direction : exists code, code ∈ [1, 2] ∧ Holds payload 32 4 code
  offset : exists code, code ∈ [1, 2, 4, 8] ∧ Holds payload 36 4 code
  orderType : exists code, code ∈ [1, 2, 3, 4, 5] ∧ Holds payload 40 4 code

/-- Read a request, or none as soon as a field that is read goes beyond the payload's
end. -/
def decodeWithin (payload : List UInt8) : Option (Except Fault Request) := do
  if payload.length != size then return .error (.requestLength size payload.length)
  let found <- get32? payload 0
  if found != magic then return .error (.magic found)
  let command <- get32? payload 4
  if (Vocabulary.ofCode? command : Option CommandType) != some .newOrder then
    return .error (.command command)
  let strategyId <- field? payload 8 WireId.size
  let direction <- get32? payload 32
  let offset <- get32? payload 36
  let orderType <- get32? payload 40
  let userOrderId <- get32? payload 24
  let tickerIndex <- get32? payload 28
  match Vocabulary.ofCode? direction with
  | none => return .error (.direction direction)
  | some knownDirection =>
    match Vocabulary.ofCode? offset with
    | none => return .error (.offset offset)
    | some knownOffset =>
      match Vocabulary.ofCode? orderType with
      | none => return .error (.orderType orderType)
      | some knownType =>
        let volume <- get32? payload 44
        let price <- getNumber? payload 48
        return .ok {
          strategyId := WireId.ofBytes strategyId
          userOrderId := userOrderId
          tickerIndex := tickerIndex
          direction := knownDirection
          offset := knownOffset
          orderType := knownType
          volume := volume
          price := price }

/-- No field that is read goes beyond the payload's end. -/
theorem decodeWithin_eq (payload : List UInt8) : decodeWithin payload = some (decode payload) := by
  unfold decodeWithin decode
  by_cases length : payload.length = size
  · have words : forall offset, offset + 4 <= 56 ->
        get32? payload offset = some (get32 payload offset) :=
      fun offset fits => get32?_eq_some (by rw [length]; exact fits)
    have strategyId : field? payload 8 WireId.size = some (field payload 8 WireId.size) :=
      field?_eq_some (by rw [length]; decide)
    have price : getNumber? payload 48 = some (getNumber payload 48) :=
      getNumber?_eq_some (by rw [length]; decide)
    simp only [length, words, strategyId, price, Nat.reduceAdd, Nat.reduceLeDiff,
      Option.bind_eq_bind, Option.bind_some, Option.pure_def]
    by_cases tagged : get32 payload 0 = magic
    · cases command : (Vocabulary.ofCode? (get32 payload 4) : Option CommandType) with
      | none => simp [tagged]
      | some known =>
        cases known
        simp only [tagged]
        cases (Vocabulary.ofCode? (get32 payload 32) : Option Direction) with
        | none => rfl
        | some direction =>
          cases (Vocabulary.ofCode? (get32 payload 36) : Option Offset) with
          | none => rfl
          | some offset =>
            cases (Vocabulary.ofCode? (get32 payload 40) : Option OrderType) with
            | none => rfl
            | some orderType => rfl
    · simp [tagged]
  · simp [length]

section

variable {payload : List UInt8} {request : Request}

/-- What is written has the layout. -/
theorem layout_encode (request : Request) : Layout request.encode request := by
  obtain ⟨first, command, userOrderId, tickerIndex, direction, offset, orderType, volume, price⟩ :=
    words_encode request
  have length : request.encode.length = 56 := length_encode request
  have word {offset : Nat} {word : UInt32} (fits : offset + 4 <= 56)
      (read : get32 request.encode offset = word) : Holds request.encode offset 4 word.toNat :=
    holds32_iff.mpr ⟨by omega, read⟩
  exact {
    length := length
    magic := word (by decide) first
    command := word (by decide) command
    strategyId := by
      intro place within
      rw [← field_encode request]
      exact (getElem?_field within).symm
    userOrderId := word (by decide) userOrderId
    tickerIndex := word (by decide) tickerIndex
    direction := word (by decide) direction
    offset := word (by decide) offset
    orderType := word (by decide) orderType
    volume := word (by decide) volume
    price := holds64_iff.mpr ⟨by omega, congrArg Binary64.bits price⟩ }

/-- A request has one payload of the layout. -/
theorem eq_encode_of_layout (layout : Layout payload request) : payload = request.encode := by
  have bytes {offset width value : Nat} (positive : 0 < width)
      (holds : Holds payload offset width value) :
      field payload offset width = toBytes width value :=
    ((holds_iff positive).mp holds).2
  have strategyId : field payload 8 16 = request.strategyId.bytes := by
    apply List.ext_getElem?
    intro place
    by_cases within : place < 16
    · rw [getElem?_field within, layout.strategyId place within]
    · have length : request.strategyId.bytes.length = 16 := request.strategyId.length_bytes
      have beyond : (field payload 8 16).length <= place := by
        rw [length_field (by rw [layout.length]; decide)]
        omega
      rw [List.getElem?_eq_none beyond, List.getElem?_eq_none (by omega)]
  have length : payload.length = [4, 4, 16, 4, 4, 4, 4, 4, 4, 8].sum := layout.length
  calc payload = fields payload 0 [4, 4, 16, 4, 4, 4, 4, 4, 4, 8] :=
        (fields_of_length length).symm
    _ = request.encode := by
      simp only [fields, Nat.reduceAdd, List.append_nil]
      rw [bytes (by decide) layout.magic, bytes (by decide) layout.command, strategyId,
        bytes (by decide) layout.userOrderId, bytes (by decide) layout.tickerIndex,
        bytes (by decide) layout.direction, bytes (by decide) layout.offset,
        bytes (by decide) layout.orderType, bytes (by decide) layout.volume,
        bytes (by decide) layout.price]
      simp only [encode, List.append_assoc]
      rfl

/-- A payload has the layout of a request if it is what writing produces. -/
theorem layout_iff : Layout payload request ↔ payload = request.encode :=
  ⟨eq_encode_of_layout, fun same => same ▸ layout_encode request⟩

/-- The request that stands in a payload whose terms are these. -/
def ofPayload (payload : List UInt8) (direction : Direction) (offset : Offset)
    (orderType : OrderType) : Request where
  strategyId := WireId.ofBytes (field payload 8 WireId.size)
  userOrderId := get32 payload 24
  tickerIndex := get32 payload 28
  direction := direction
  offset := offset
  orderType := orderType
  volume := get32 payload 44
  price := getNumber payload 48

/-- The free bytes of a payload have the layout whatever they are. -/
theorem layout_ofPayload {direction : Direction} {offset : Offset} {orderType : OrderType}
    (length : payload.length = 56) (magic : Holds payload 0 4 0x01709394)
    (command : Holds payload 4 4 1)
    (isDirection : Holds payload 32 4 (Vocabulary.code direction).toNat)
    (isOffset : Holds payload 36 4 (Vocabulary.code offset).toNat)
    (isType : Holds payload 40 4 (Vocabulary.code orderType).toNat) :
    Layout payload (ofPayload payload direction offset orderType) := by
  have word {offset : Nat} (fits : offset + 4 <= 56) :
      Holds payload offset 4 (get32 payload offset).toNat :=
    holds32_iff.mpr ⟨by omega, rfl⟩
  refine ⟨length, magic, command, ?_, word (by decide), word (by decide), isDirection, isOffset,
    isType, word (by decide), holds64_iff.mpr ⟨by omega, rfl⟩⟩
  intro place within
  have inside : 8 + place < payload.length := by omega
  have byte : (field payload 8 WireId.size)[place]? = payload[8 + place]? := getElem?_field within
  rw [ofPayload, WireId.getElem?_ofBytes _ within, byte, List.getElem?_eq_getElem inside,
    Option.getD_some]

/-- What is read has the layout. -/
theorem layout_of_decode (read : decode payload = .ok request) : Layout payload request := by
  have length : payload.length = 56 := by
    apply Decidable.byContradiction
    intro other
    simp [decode, size, other] at read
  have tagged : get32 payload 0 = magic := by
    apply Decidable.byContradiction
    intro other
    simp [decode, size, length, other] at read
  have word {offset : Nat} {word : UInt32} (fits : offset + 4 <= 56)
      (read : get32 payload offset = word) : Holds payload offset 4 word.toNat :=
    holds32_iff.mpr ⟨by omega, read⟩
  simp only [decode, size, length, tagged, bne_self_eq_false, Bool.false_eq_true, if_false] at read
  split at read
  · simp at read
  next command =>
    split at read
    · simp at read
    · simp at read
    · simp at read
    next direction offset orderType =>
      obtain rfl := Except.ok.inj read
      exact layout_ofPayload length (word (by decide) tagged)
        (word (by decide) (Vocabulary.ofCode?_eq_some_iff.mp command))
        (word (by decide) (Vocabulary.ofCode?_eq_some_iff.mp direction))
        (word (by decide) (Vocabulary.ofCode?_eq_some_iff.mp offset))
        (word (by decide) (Vocabulary.ofCode?_eq_some_iff.mp orderType))

/-- Reading accepts exactly what writing produces. -/
theorem decode_eq_ok_iff : decode payload = .ok request ↔ payload = request.encode := by
  constructor
  · intro read
    exact eq_encode_of_layout (layout_of_decode read)
  · rintro rfl
    exact decode_encode request

/-- A payload is acceptable if it is one of some request. -/
theorem acceptable_iff :
    Acceptable payload ↔ exists request : Request, payload = request.encode := by
  constructor
  · rintro ⟨length, magic, command, ⟨_, isDirection, direction⟩, ⟨_, isOffset, offset⟩,
      ⟨_, isType, orderType⟩⟩
    obtain ⟨knownDirection, rfl⟩ := (Vocabulary.mem_codes_iff Direction).mp isDirection
    obtain ⟨knownOffset, rfl⟩ := (Vocabulary.mem_codes_iff Offset).mp isOffset
    obtain ⟨knownType, rfl⟩ := (Vocabulary.mem_codes_iff OrderType).mp isType
    exact ⟨_, eq_encode_of_layout
      (layout_ofPayload length magic command direction offset orderType)⟩
  · rintro ⟨request, rfl⟩
    have layout := layout_encode request
    have isDirection := (Vocabulary.mem_codes_iff Direction).mpr ⟨request.direction, rfl⟩
    have isOffset := (Vocabulary.mem_codes_iff Offset).mpr ⟨request.offset, rfl⟩
    have isType := (Vocabulary.mem_codes_iff OrderType).mpr ⟨request.orderType, rfl⟩
    exact {
      length := layout.length
      magic := layout.magic
      command := layout.command
      direction := ⟨_, isDirection, layout.direction⟩
      offset := ⟨_, isOffset, layout.offset⟩
      orderType := ⟨_, isType, layout.orderType⟩ }

theorem exists_decode_eq_ok_iff :
    (exists request, decode payload = .ok request) ↔ Acceptable payload :=
  (exists_congr fun _ => decode_eq_ok_iff).trans acceptable_iff.symm

end

/-- Writing gives the 56 bytes of the layout, reading accepts these and no others without
going beyond their end, and each undoes the other. -/
theorem decode_bijective :
    (forall request, Layout request.encode request ∧ decode request.encode = .ok request) ∧
      (forall payload,
        ((exists request, decode payload = .ok request) ↔ Acceptable payload) ∧
          (forall request, decode payload = .ok request -> request.encode = payload) ∧
          (¬Acceptable payload -> exists reason,
            (decode payload).mapError Fault.toFailure = .error (.decode reason)) ∧
          decodeWithin payload = some (decode payload)) ∧
      exists reading : { payload // Acceptable payload } -> Request,
        (forall accepted, decode accepted.1 = .ok (reading accepted)) ∧
          Function.Bijective reading := by
  refine ⟨?_, ?_, ?_⟩
  · intro request
    exact ⟨layout_encode request, decode_encode request⟩
  · intro payload
    refine ⟨exists_decode_eq_ok_iff, fun request read => (decode_eq_ok_iff.mp read).symm, ?_,
      decodeWithin_eq payload⟩
    intro refused
    cases read : decode payload with
    | ok request => exact absurd (exists_decode_eq_ok_iff.mp ⟨request, read⟩) refused
    | error fault => exact ⟨fault.reason, rfl⟩
  · have readable (accepted : { payload // Acceptable payload }) :
        exists request, decode accepted.1 = .ok request :=
      exists_decode_eq_ok_iff.mpr accepted.2
    refine ⟨fun accepted => (readable accepted).choose,
      fun accepted => (readable accepted).choose_spec, ?_, ?_⟩
    · intro first second same
      have firstRead := decode_eq_ok_iff.mp (readable first).choose_spec
      have secondRead := decode_eq_ok_iff.mp (readable second).choose_spec
      exact Subtype.ext (firstRead.trans ((congrArg encode same).trans secondRead.symm))
    · intro request
      let written : { payload // Acceptable payload } :=
        ⟨request.encode, acceptable_iff.mpr ⟨request, rfl⟩⟩
      have read := (readable written).choose_spec
      exact ⟨written, Except.ok.inj (read.symm.trans (decode_encode request))⟩

/-- A price that is no number keeps its bits, and a code between those of two offsets is
refused. -/
theorem decode_bijective_nan :
    let request : Request :=
      ⟨WireId.ofText "ABC", 42, 1, .sell, .closeToday, .fillOrKill, 3, ⟨0x7FF8000000000001⟩⟩
    decode request.encode = .ok request ∧
      exists reason, (decode (request.encode.set 36 3)).mapError Fault.toFailure =
        .error (.decode reason) := by
  intro request
  have refused : ¬Acceptable (request.encode.set 36 3) := by
    intro acceptable
    obtain ⟨code, listed, holds⟩ := acceptable.offset
    have byte : (request.encode.set 36 3)[36]? = some 3 := by decide +kernel
    have digit := byte.symm.trans (holds 0 (by decide))
    simp only [List.mem_cons, List.not_mem_nil, or_false] at listed
    rcases listed with rfl | rfl | rfl | rfl <;> exact absurd digit (by decide)
  exact ⟨(decode_bijective.1 request).2, (decode_bijective.2.1 _).2.2.1 refused⟩

end StrategyHost.Trade.Request
