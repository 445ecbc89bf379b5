import StrategyHost.Proofs.Trade.Terms
import StrategyHost.Proofs.Wire.Field
import StrategyHost.Trade.Response

/-!
# The layout of order responses

A payload describes a response whatever follows its first 56 bytes and whichever word but
zero says that the order is completed. `decode_eq_ok_iff` compares the reader with that
description, and `encode_of_describes` says what becomes of a payload that is read and
written again: only the word for completion may change.
-/

namespace StrategyHost.Trade.Response

open Wire

/-- The 56 bytes of a response. The price of the fill comes last. -/
structure Layout (payload : List UInt8) (response : Response) : Prop where
  length : payload.length = 56
  version : Holds payload 0 4 1
  userOrderId : Holds payload 4 4 response.userOrderId.toNat
  orderId : Holds payload 8 8 response.orderId.toNat
  tickerIndex : Holds payload 16 4 response.tickerIndex.toNat
  direction : Holds payload 20 4 (Vocabulary.code response.direction).toNat
  offset : Holds payload 24 4 (Vocabulary.code response.offset).toNat
  originalVolume : Holds payload 28 4 response.originalVolume.toNat
  tradedVolume : Holds payload 32 4 response.tradedVolume.toNat
  thisTraded : Holds payload 36 4 response.thisTraded.toNat
  /-- In two's complement. -/
  errorCode : Holds payload 40 4 (response.errorCode.toInt % 2 ^ 32).toNat
  completed : Holds payload 44 4 (if response.completed then 1 else 0)
  thisTradedPrice : Holds payload 48 8 response.thisTradedPrice.bits.toNat

/-- What a payload must be like to be a response; all other bytes are free. -/
structure Acceptable (payload : List UInt8) : Prop where
  length : 56 <= payload.length
  version : Holds payload 0 4 1
  direction : exists code, code ∈ [1, 2] ∧ Holds payload 20 4 code
  offset : exists code, code ∈ [1, 2, 4, 8] ∧ Holds payload 24 4 code

/-- What a payload says of a response, field by field. -/
structure Describes (payload : List UInt8) (response : Response) : Prop where
  length : 56 <= payload.length
  version : get32 payload 0 = version
  userOrderId : get32 payload 4 = response.userOrderId
  orderId : get64 payload 8 = response.orderId
  tickerIndex : get32 payload 16 = response.tickerIndex
  direction : get32 payload 20 = Vocabulary.code response.direction
  offset : get32 payload 24 = Vocabulary.code response.offset
  originalVolume : get32 payload 28 = response.originalVolume
  tradedVolume : get32 payload 32 = response.tradedVolume
  thisTraded : get32 payload 36 = response.thisTraded
  errorCode : get32 payload 40 = response.errorCode.toUInt32
  completed : (get32 payload 44 != 0) = response.completed
  thisTradedPrice : getNumber payload 48 = response.thisTradedPrice

/-- Read a response, or none as soon as a field that is read goes beyond the payload's
end. -/
def decodeWithin (payload : List UInt8) : Option (Except Fault Response) := do
  if payload.length < 4 then return .error (.tooShort .response payload.length)
  let found <- get32? payload 0
  if found != version then return .error (.version .response found)
  if payload.length < size then return .error (.truncated .response version size payload.length)
  let direction <- get32? payload 20
  let offset <- get32? payload 24
  let userOrderId <- get32? payload 4
  let orderId <- get64? payload 8
  let tickerIndex <- get32? payload 16
  match Vocabulary.ofCode? direction with
  | none => return .error (.direction direction)
  | some knownDirection =>
    match Vocabulary.ofCode? offset with
    | none => return .error (.offset offset)
    | some knownOffset =>
      let originalVolume <- get32? payload 28
      let tradedVolume <- get32? payload 32
      let thisTraded <- get32? payload 36
      let errorCode <- get32? payload 40
      let completed <- get32? payload 44
      let thisTradedPrice <- getNumber? payload 48
      return .ok {
        userOrderId := userOrderId
        orderId := orderId
        tickerIndex := tickerIndex
        direction := knownDirection
        offset := knownOffset
        originalVolume := originalVolume
        tradedVolume := tradedVolume
        thisTraded := thisTraded
        thisTradedPrice := thisTradedPrice
        errorCode := errorCode.toInt32
        completed := completed != 0 }

/-- No field that is read goes beyond the payload's end. -/
theorem decodeWithin_eq (payload : List UInt8) : decodeWithin payload = some (decode payload) := by
  unfold decodeWithin decode
  by_cases tooShort : payload.length < 4
  · simp [tooShort]
  have tag : get32? payload 0 = some (get32 payload 0) := get32?_eq_some (by omega)
  by_cases versioned : get32 payload 0 = version
  · by_cases truncated : payload.length < size
    · simp [tooShort, tag, versioned, truncated]
    have length : 56 <= payload.length := Nat.le_of_not_lt truncated
    have words : forall offset, offset + 4 <= 56 ->
        get32? payload offset = some (get32 payload offset) :=
      fun offset fits => get32?_eq_some (Nat.le_trans fits length)
    have orderId : get64? payload 8 = some (get64 payload 8) :=
      get64?_eq_some (Nat.le_trans (by decide) length)
    have price : getNumber? payload 48 = some (getNumber payload 48) :=
      getNumber?_eq_some (Nat.le_trans (by decide) length)
    simp only [tooShort, truncated, words, orderId, price, versioned, Nat.reduceAdd,
      Nat.reduceLeDiff, Option.bind_eq_bind, Option.bind_some, Option.pure_def]
    cases (Vocabulary.ofCode? (get32 payload 20) : Option Direction) with
    | none => rfl
    | some direction =>
      cases (Vocabulary.ofCode? (get32 payload 24) : Option Offset) with
      | none => rfl
      | some offset => rfl
  · simp [tooShort, tag, versioned]

section

variable {payload : List UInt8} {response : Response}

/-- A response takes 56 bytes. -/
@[simp] theorem length_encode (response : Response) : response.encode.length = size := by
  simp [encode, size]

/-- What is written describes the response, whatever follows it. -/
theorem describes_encode (response : Response) (rest : List UInt8) :
    Describes (response.encode ++ rest) response where
  length := by simp [size]
  version := by simp [encode, get32_here]
  userOrderId := by simp [encode, get32_skip, get32_here]
  orderId := by simp [encode, get64_skip, get64_here]
  tickerIndex := by simp [encode, get32_skip, get32_here]
  direction := by simp [encode, get32_skip, get32_here]
  offset := by simp [encode, get32_skip, get32_here]
  originalVolume := by simp [encode, get32_skip, get32_here]
  tradedVolume := by simp [encode, get32_skip, get32_here]
  thisTraded := by simp [encode, get32_skip, get32_here]
  errorCode := by simp [encode, get32_skip, get32_here]
  completed := by
    cases completed : response.completed <;> simp [encode, completed, get32_skip, get32_here]
  thisTradedPrice := by simp [encode, getNumber_skip, getNumber_here]

/-- Reading takes a payload for what it describes. -/
theorem decode_of_describes (describes : Describes payload response) :
    decode payload = .ok response := by
  obtain ⟨length, version, userOrderId, orderId, tickerIndex, direction, offset, originalVolume,
    tradedVolume, thisTraded, errorCode, completed, thisTradedPrice⟩ := describes
  have present : ¬payload.length < 4 := by omega
  have complete : ¬payload.length < size := Nat.not_lt_of_le length
  unfold decode
  rw [if_neg present, version, direction, offset, Vocabulary.ofCode?_code,
    Vocabulary.ofCode?_code]
  simp only [bne_self_eq_false, Bool.false_eq_true, if_false, if_neg complete, userOrderId, orderId,
    tickerIndex, originalVolume, tradedVolume, thisTraded, errorCode, completed, thisTradedPrice]
  rfl

/-- What is read of a payload is what it describes. -/
theorem describes_of_decode (read : decode payload = .ok response) :
    Describes payload response := by
  unfold decode at read
  split at read
  · simp at read
  split at read
  · simp at read
  next versioned =>
    split at read
    · simp at read
    next complete =>
      split at read
      · simp at read
      · simp at read
      next direction offset =>
        obtain rfl := Except.ok.inj read
        exact {
          length := Nat.le_of_not_lt complete
          version := by simpa using versioned
          userOrderId := rfl
          orderId := rfl
          tickerIndex := rfl
          direction := Vocabulary.ofCode?_eq_some_iff.mp direction
          offset := Vocabulary.ofCode?_eq_some_iff.mp offset
          originalVolume := rfl
          tradedVolume := rfl
          thisTraded := rfl
          errorCode := rfl
          completed := rfl
          thisTradedPrice := rfl }

theorem decode_eq_ok_iff : decode payload = .ok response ↔ Describes payload response :=
  ⟨describes_of_decode, decode_of_describes⟩

/-- A payload is acceptable if it describes some response. -/
theorem acceptable_iff : Acceptable payload ↔ exists response, Describes payload response := by
  constructor
  · rintro ⟨length, version, ⟨_, isDirection, direction⟩, ⟨_, isOffset, offset⟩⟩
    obtain ⟨knownDirection, rfl⟩ := (Vocabulary.mem_codes_iff Direction).mp isDirection
    obtain ⟨knownOffset, rfl⟩ := (Vocabulary.mem_codes_iff Offset).mp isOffset
    let response : Response := {
      userOrderId := get32 payload 4
      orderId := get64 payload 8
      tickerIndex := get32 payload 16
      direction := knownDirection
      offset := knownOffset
      originalVolume := get32 payload 28
      tradedVolume := get32 payload 32
      thisTraded := get32 payload 36
      thisTradedPrice := getNumber payload 48
      errorCode := (get32 payload 40).toInt32
      completed := get32 payload 44 != 0 }
    have version : get32 payload 0 = 1 := (holds32_iff.mp version).2
    have direction := (holds32_iff.mp direction).2
    have offset := (holds32_iff.mp offset).2
    exact ⟨response, length, version, rfl, rfl, rfl, direction, offset, rfl, rfl, rfl, rfl, rfl,
      rfl⟩
  · rintro ⟨response, describes⟩
    have within {offset : Nat} (fits : offset + 4 <= 56) : offset + 4 <= payload.length :=
      Nat.le_trans fits describes.length
    have isDirection := (Vocabulary.mem_codes_iff Direction).mpr ⟨response.direction, rfl⟩
    have isOffset := (Vocabulary.mem_codes_iff Offset).mpr ⟨response.offset, rfl⟩
    exact {
      length := describes.length
      version := (@holds32_iff payload 0 version).mpr ⟨within (by decide), describes.version⟩
      direction := ⟨_, isDirection, holds32_iff.mpr ⟨within (by decide), describes.direction⟩⟩
      offset := ⟨_, isOffset, holds32_iff.mpr ⟨within (by decide), describes.offset⟩⟩ }

theorem exists_decode_eq_ok_iff :
    (exists response, decode payload = .ok response) ↔ Acceptable payload :=
  (exists_congr fun _ => decode_eq_ok_iff).trans acceptable_iff.symm

/-- The word of an error code is the code in two's complement. -/
theorem toNat_errorCode (code : Int32) : code.toUInt32.toNat = (code.toInt % 2 ^ 32).toNat := by
  have bound : code.toBitVec.toNat < 2 ^ 32 := code.toBitVec.isLt
  have value : code.toInt = if 2 * code.toBitVec.toNat < 2 ^ 32 then (code.toBitVec.toNat : Int)
      else code.toBitVec.toNat - (2 ^ 32 : Nat) :=
    BitVec.toInt_eq_toNat_cond code.toBitVec
  change code.toBitVec.toNat = _
  rw [value]
  split <;> omega

/-- The word that says whether an order is completed. -/
def completion (response : Response) : UInt32 :=
  if response.completed then 1 else 0

/-- A response that has been read is written as the first 56 bytes of its payload, the word
for completion apart. -/
theorem encode_of_describes (describes : Describes payload response) :
    response.encode = payload.take 44 ++ put32 response.completion ++ field payload 48 8 := by
  have word {offset : Nat} {word : UInt32} (fits : offset + 4 <= 56)
      (read : get32 payload offset = word) : field payload offset 4 = put32 word := by
    rw [← put32_get32 (Nat.le_trans fits describes.length), read]
  have orderId : field payload 8 8 = put64 response.orderId := by
    rw [← put64_get64 (Nat.le_trans (by decide) describes.length), describes.orderId]
  have price : field payload 48 8 = putNumber response.thisTradedPrice := by
    rw [← putNumber_getNumber (Nat.le_trans (by decide) describes.length),
      describes.thisTradedPrice]
  have front : payload.take 44 = fields payload 0 [4, 4, 8, 4, 4, 4, 4, 4, 4, 4] := by
    rw [fields_eq]
    rfl
  rw [front, price]
  simp only [fields, Nat.reduceAdd, List.append_nil]
  rw [word (by decide) describes.version, word (by decide) describes.userOrderId, orderId,
    word (by decide) describes.tickerIndex, word (by decide) describes.direction,
    word (by decide) describes.offset, word (by decide) describes.originalVolume,
    word (by decide) describes.tradedVolume, word (by decide) describes.thisTraded,
    word (by decide) describes.errorCode]
  simp only [encode, completion, List.append_assoc]

/-- The word for completion is one or zero as the word that was read is zero or not. -/
theorem completion_of_describes (describes : Describes payload response) :
    response.completion = if get32 payload 44 = 0 then 0 else 1 := by
  unfold completion
  rw [← describes.completed]
  by_cases zero : get32 payload 44 = 0
  · simp [zero]
  · simp [zero]

/-- The word for completion is written where it was read. -/
theorem holds_completion (describes : Describes payload response) :
    Holds response.encode 44 4 response.completion.toNat := by
  have front : (payload.take 44).length = 44 := by
    rw [List.length_take, Nat.min_eq_left (Nat.le_trans (by decide) describes.length)]
  refine holds32_iff.mpr ⟨by rw [length_encode]; decide, ?_⟩
  rw [encode_of_describes describes, List.append_assoc, get32_skip (Nat.le_of_eq front), front,
    get32_here]

/-- What is written has the layout. -/
theorem layout_encode (response : Response) : Layout response.encode response := by
  have describes : Describes response.encode response := by
    have described := describes_encode response []
    rwa [List.append_nil] at described
  have length : response.encode.length = 56 := length_encode response
  have word {offset : Nat} {word : UInt32} (fits : offset + 4 <= 56)
      (read : get32 response.encode offset = word) : Holds response.encode offset 4 word.toNat :=
    holds32_iff.mpr ⟨by omega, read⟩
  have completed : response.completion.toNat = if response.completed then 1 else 0 := by
    unfold completion
    split <;> rfl
  exact {
    length := length
    version := word (by decide) describes.version
    userOrderId := word (by decide) describes.userOrderId
    orderId := holds64_iff.mpr ⟨by omega, describes.orderId⟩
    tickerIndex := word (by decide) describes.tickerIndex
    direction := word (by decide) describes.direction
    offset := word (by decide) describes.offset
    originalVolume := word (by decide) describes.originalVolume
    tradedVolume := word (by decide) describes.tradedVolume
    thisTraded := word (by decide) describes.thisTraded
    errorCode := toNat_errorCode response.errorCode ▸ word (by decide) describes.errorCode
    completed := completed ▸ holds_completion describes
    thisTradedPrice := holds64_iff.mpr
      ⟨by omega, congrArg Binary64.bits describes.thisTradedPrice⟩ }

/-- A payload and what is written after it has been read: the word for completion becomes
one unless it was zero, and no other byte of the first 56 changes. -/
structure Normalises (payload written : List UInt8) : Prop where
  length : written.length = 56
  elsewhere : forall place, place < 44 ∨ 48 <= place ∧ place < 56 ->
    written[place]? = payload[place]?
  zero : Holds payload 44 4 0 -> Holds written 44 4 0
  one : ¬Holds payload 44 4 0 -> Holds written 44 4 1

theorem holds_zero_iff (length : 56 <= payload.length) :
    Holds payload 44 4 0 ↔ get32 payload 44 = 0 := by
  have within : 44 + 4 <= payload.length := Nat.le_trans (by decide) length
  exact (@holds32_iff payload 44 0).trans (and_iff_right within)

theorem normalises_of_describes (describes : Describes payload response) :
    Normalises payload response.encode := by
  have written := encode_of_describes describes
  have word := holds_completion describes
  rw [completion_of_describes describes] at word
  have front : (payload.take 44).length = 44 := by
    rw [List.length_take, Nat.min_eq_left (Nat.le_trans (by decide) describes.length)]
  constructor
  · exact length_encode response
  · rintro place (before | ⟨behind, within⟩)
    · rw [written, List.append_assoc, List.getElem?_append_left (by omega),
        List.getElem?_take_of_lt before]
    · have skipped : (payload.take 44 ++ put32 response.completion).length = 48 := by
        rw [List.length_append, front, length_put32]
      rw [written, List.getElem?_append_right (by omega), skipped, getElem?_field (by omega)]
      congr 1
      omega
  · intro zero
    rw [if_pos ((holds_zero_iff describes.length).mp zero)] at word
    exact word
  · intro other
    rw [if_neg (other ∘ (holds_zero_iff describes.length).mpr)] at word
    exact word

/-- Only the words zero and one say in the same way that an order is completed or not. -/
theorem encode_eq_take_iff (describes : Describes payload response) :
    response.encode = payload.take 56 ↔ Holds payload 44 4 0 ∨ Holds payload 44 4 1 := by
  have within : 44 + 4 <= payload.length := Nat.le_trans (by decide) describes.length
  have whole : payload.take 56 = payload.take 44 ++ field payload 44 4 ++ field payload 48 8 := by
    have split : fields payload 0 [44, 4, 8] = payload.take 56 := fields_eq payload 0 [44, 4, 8]
    rw [← split]
    simp [fields, field]
  have one : Holds payload 44 4 1 ↔ get32 payload 44 = 1 :=
    (@holds32_iff payload 44 1).trans (and_iff_right within)
  have same : response.encode = payload.take 56 ↔ get32 payload 44 = response.completion := by
    rw [encode_of_describes describes, whole, List.append_cancel_right_eq,
      List.append_cancel_left_eq, ← put32_get32 within]
    exact ⟨fun same => (put32_injective same).symm, fun same => congrArg put32 same.symm⟩
  rw [same, completion_of_describes describes, holds_zero_iff describes.length, one]
  by_cases zero : get32 payload 44 = 0
  · simp [zero]
  · simp [zero]

end

/-- A response is read back from its 56 bytes whatever follows them, reading accepts what has
the right version and terms and does not go beyond a payload's end, and writing what was
read changes at most the word for completion. -/
theorem encode_normalises :
    (forall response rest,
      Layout response.encode response ∧ decode (response.encode ++ rest) = .ok response) ∧
      forall payload,
        ((exists response, decode payload = .ok response) ↔ Acceptable payload) ∧
          (¬Acceptable payload -> exists reason,
            (decode payload).mapError Fault.toFailure = .error (.decode reason)) ∧
          decodeWithin payload = some (decode payload) ∧
          forall response, decode payload = .ok response ->
            Normalises payload response.encode ∧ decode response.encode = .ok response ∧
              (response.encode = payload.take 56 ↔
                Holds payload 44 4 0 ∨ Holds payload 44 4 1) := by
  have readBack (response : Response) (rest : List UInt8) :
      decode (response.encode ++ rest) = .ok response :=
    decode_of_describes (describes_encode response rest)
  refine ⟨fun response rest => ⟨layout_encode response, readBack response rest⟩, ?_⟩
  intro payload
  refine ⟨exists_decode_eq_ok_iff, ?_, decodeWithin_eq payload, ?_⟩
  · intro refused
    cases read : decode payload with
    | ok response => exact absurd (exists_decode_eq_ok_iff.mp ⟨response, read⟩) refused
    | error fault => exact ⟨fault.reason, rfl⟩
  · intro response read
    have describes := describes_of_decode read
    have again := readBack response []
    rw [List.append_nil] at again
    exact ⟨normalises_of_describes describes, again, encode_eq_take_iff describes⟩

/-- A rejection whose word for completion is seven, with a byte after it, is read as
completed, and writes one there. -/
theorem encode_normalises_seven :
    let response : Response :=
      ⟨9, 1000001, 1, .buy, .opening, 2, 1, 1, ⟨0x7FF8000000000001⟩, -3, true⟩
    let payload := response.encode.set 44 7 ++ [255]
    decode payload = .ok response ∧ Normalises payload response.encode ∧
      response.encode ≠ payload.take 56 := by
  intro response payload
  have found : (decode payload).toOption = some response := by decide +kernel
  have read : decode payload = .ok response := by
    cases result : decode payload with
    | error fault => simp [result, Except.toOption] at found
    | ok other =>
      rw [result] at found
      exact congrArg Except.ok (Option.some.inj found)
  obtain ⟨normalises, _, identity⟩ := (encode_normalises.2 payload).2.2.2 response read
  have seven : payload[44]? = some 7 := by decide +kernel
  refine ⟨read, normalises, fun same => ?_⟩
  rcases identity.mp same with zero | one
  · exact absurd (seven.symm.trans (zero 0 (by decide))) (by decide)
  · exact absurd (seven.symm.trans (one 0 (by decide))) (by decide)

end StrategyHost.Trade.Response
