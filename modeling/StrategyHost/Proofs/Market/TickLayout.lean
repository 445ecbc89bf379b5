import StrategyHost.Market.Tick
import StrategyHost.Proofs.Wire.Field

/-!
# The layout of ticks

Reading accepts exactly what begins with the bytes that writing produces
(`decode_eq_ok_iff`), so nothing after the first 80 bytes matters. What is not accepted is
refused for the first reason that holds: too short for a version, another version, too short
for a tick (`decode_eq_error_iff`).
-/

namespace StrategyHost.Market.Tick

open Wire

/-- The 80 bytes of a tick. Prices stand there by their bits. -/
structure HasLayout (payload : List UInt8) (tick : Tick) : Prop where
  length : payload.length = 80
  version : Holds payload 0 4 1
  tickerIndex : Holds payload 4 4 tick.tickerIndex.toNat
  timestamp : Holds payload 8 8 tick.timestamp.toNat
  lastPrice : Holds payload 16 8 tick.lastPrice.bits.toNat
  volume : Holds payload 24 8 tick.volume.toNat
  bidPrice : Holds payload 32 8 tick.bidPrice.bits.toNat
  bidVolume : Holds payload 40 8 tick.bidVolume.toNat
  askPrice : Holds payload 48 8 tick.askPrice.bits.toNat
  askVolume : Holds payload 56 8 tick.askVolume.toNat
  upperLimitPrice : Holds payload 64 8 tick.upperLimitPrice.bits.toNat
  lowerLimitPrice : Holds payload 72 8 tick.lowerLimitPrice.bits.toNat

/-- What a payload must be like to begin with a tick; all other bytes are free. -/
structure Acceptable (payload : List UInt8) : Prop where
  length : 80 <= payload.length
  version : Holds payload 0 4 1

/-- Why a payload is no tick. Its version is looked at before its length. -/
inductive Refused (payload : List UInt8) : Fault -> Prop where
  | tooShort (short : payload.length < 4) : Refused payload (.tooShort .tick payload.length)
  | version {found : UInt32} (holds : Holds payload 0 4 found.toNat) (other : found ≠ 1) :
      Refused payload (.version .tick found)
  | truncated (version : Holds payload 0 4 1) (short : payload.length < 80) :
      Refused payload (.truncated .tick 1 80 payload.length)

/-- Read a tick, or none as soon as a field that is read goes beyond the payload's end. -/
def decodeWithin (payload : List UInt8) : Option (Except Fault Tick) := do
  if payload.length < 4 then return .error (.tooShort .tick payload.length)
  let found <- get32? payload 0
  if found != version then return .error (.version .tick found)
  if payload.length < size then return .error (.truncated .tick version size payload.length)
  let tickerIndex <- get32? payload 4
  let timestamp <- get64? payload 8
  let lastPrice <- getNumber? payload 16
  let volume <- get64? payload 24
  let bidPrice <- getNumber? payload 32
  let bidVolume <- get64? payload 40
  let askPrice <- getNumber? payload 48
  let askVolume <- get64? payload 56
  let upperLimitPrice <- getNumber? payload 64
  let lowerLimitPrice <- getNumber? payload 72
  return .ok {
    tickerIndex := tickerIndex
    timestamp := timestamp
    lastPrice := lastPrice
    volume := volume
    bidPrice := bidPrice
    bidVolume := bidVolume
    askPrice := askPrice
    askVolume := askVolume
    upperLimitPrice := upperLimitPrice
    lowerLimitPrice := lowerLimitPrice }

/-- No field that is read goes beyond the payload's end. -/
theorem decodeWithin_eq (payload : List UInt8) : decodeWithin payload = some (decode payload) := by
  unfold decodeWithin decode
  by_cases tooShort : payload.length < 4
  · simp [tooShort]
  have tag : get32? payload 0 = some (get32 payload 0) := get32?_eq_some (by omega)
  by_cases versioned : get32 payload 0 = version
  · by_cases truncated : payload.length < size
    · simp [tooShort, tag, versioned, truncated]
    have length : 80 <= payload.length := Nat.le_of_not_lt truncated
    have tickerIndex : get32? payload 4 = some (get32 payload 4) := get32?_eq_some (by omega)
    have words : forall offset, offset + 8 <= 80 ->
        get64? payload offset = some (get64 payload offset) :=
      fun offset fits => get64?_eq_some (Nat.le_trans fits length)
    have numbers : forall offset, offset + 8 <= 80 ->
        getNumber? payload offset = some (getNumber payload offset) :=
      fun offset fits => getNumber?_eq_some (Nat.le_trans fits length)
    simp only [tooShort, truncated, tag, tickerIndex, words, numbers, versioned, Nat.reduceAdd,
      Nat.reduceLeDiff, Option.bind_eq_bind, Option.bind_some, Option.pure_def]
    rfl
  · simp [tooShort, tag, versioned]

section

variable {payload : List UInt8} {tick : Tick}

/-- A tick takes 80 bytes. -/
@[simp] theorem length_encode (tick : Tick) : tick.encode.length = size := by
  simp [encode, size]

/-- Each field is read at its offset, whatever follows the tick. -/
theorem words_encode (tick : Tick) (rest : List UInt8) :
    get32 (tick.encode ++ rest) 0 = version ∧
      get32 (tick.encode ++ rest) 4 = tick.tickerIndex ∧
      get64 (tick.encode ++ rest) 8 = tick.timestamp ∧
      getNumber (tick.encode ++ rest) 16 = tick.lastPrice ∧
      get64 (tick.encode ++ rest) 24 = tick.volume ∧
      getNumber (tick.encode ++ rest) 32 = tick.bidPrice ∧
      get64 (tick.encode ++ rest) 40 = tick.bidVolume ∧
      getNumber (tick.encode ++ rest) 48 = tick.askPrice ∧
      get64 (tick.encode ++ rest) 56 = tick.askVolume ∧
      getNumber (tick.encode ++ rest) 64 = tick.upperLimitPrice ∧
      getNumber (tick.encode ++ rest) 72 = tick.lowerLimitPrice := by
  simp [encode, get32_skip, get32_here, get64_skip, get64_here, getNumber_skip, getNumber_here]

/-- What is written is read back, whatever follows it. -/
theorem decode_encode_append (tick : Tick) (rest : List UInt8) :
    decode (tick.encode ++ rest) = .ok tick := by
  obtain ⟨tag, tickerIndex, timestamp, lastPrice, volume, bidPrice, bidVolume, askPrice,
    askVolume, upperLimitPrice, lowerLimitPrice⟩ := words_encode tick rest
  have length : 80 <= (tick.encode ++ rest).length := by simp [size]
  have present : ¬(tick.encode ++ rest).length < 4 := by omega
  have complete : ¬(tick.encode ++ rest).length < size := Nat.not_lt_of_le length
  unfold decode
  rw [if_neg present, tag, if_neg complete, tickerIndex, timestamp, lastPrice, volume, bidPrice,
    bidVolume, askPrice, askVolume, upperLimitPrice, lowerLimitPrice]
  rfl

theorem decode_encode (tick : Tick) : decode tick.encode = .ok tick := by
  have read := decode_encode_append tick []
  rwa [List.append_nil] at read

/-- What is written has the layout. -/
theorem layout_encode (tick : Tick) : HasLayout tick.encode tick := by
  have length : tick.encode.length = 80 := length_encode tick
  have words := words_encode tick []
  rw [List.append_nil] at words
  obtain ⟨tag, tickerIndex, timestamp, lastPrice, volume, bidPrice, bidVolume, askPrice,
    askVolume, upperLimitPrice, lowerLimitPrice⟩ := words
  have word {offset : Nat} {word : UInt64} (fits : offset + 8 <= 80)
      (read : get64 tick.encode offset = word) : Holds tick.encode offset 8 word.toNat :=
    holds64_iff.mpr ⟨by omega, read⟩
  have number {offset : Nat} {number : Binary64} (fits : offset + 8 <= 80)
      (read : getNumber tick.encode offset = number) :
      Holds tick.encode offset 8 number.bits.toNat :=
    word fits (congrArg Binary64.bits read)
  exact {
    length := length
    version := (@holds32_iff _ 0 version).mpr ⟨by omega, tag⟩
    tickerIndex := holds32_iff.mpr ⟨by omega, tickerIndex⟩
    timestamp := word (by decide) timestamp
    lastPrice := number (by decide) lastPrice
    volume := word (by decide) volume
    bidPrice := number (by decide) bidPrice
    bidVolume := word (by decide) bidVolume
    askPrice := number (by decide) askPrice
    askVolume := word (by decide) askVolume
    upperLimitPrice := number (by decide) upperLimitPrice
    lowerLimitPrice := number (by decide) lowerLimitPrice }

/-- The tick that stands in a payload. -/
def ofPayload (payload : List UInt8) : Tick where
  tickerIndex := get32 payload 4
  timestamp := get64 payload 8
  lastPrice := getNumber payload 16
  volume := get64 payload 24
  bidPrice := getNumber payload 32
  bidVolume := get64 payload 40
  askPrice := getNumber payload 48
  askVolume := get64 payload 56
  upperLimitPrice := getNumber payload 64
  lowerLimitPrice := getNumber payload 72

/-- Besides its length and its version nothing of a payload matters to whether it is read. -/
theorem decode_of_acceptable (acceptable : Acceptable payload) :
    decode payload = .ok (ofPayload payload) := by
  have tag : get32 payload 0 = version := ((@holds32_iff _ 0 version).mp acceptable.version).2
  have complete : ¬payload.length < size := Nat.not_lt_of_le acceptable.length
  have present : ¬payload.length < 4 := fun short => complete (Nat.lt_trans short (by decide))
  unfold decode
  rw [if_neg present, tag, if_neg complete]
  rfl

/-- The tick that stands in a payload is written as the bytes from which it was read. -/
theorem encode_ofPayload (acceptable : Acceptable payload) :
    (ofPayload payload).encode = payload.take 80 := by
  have within {offset width : Nat} (fits : offset + width <= 80) :
      offset + width <= payload.length := Nat.le_trans fits acceptable.length
  have word {offset : Nat} (fits : offset + 8 <= 80) :
      put64 (get64 payload offset) = field payload offset 8 := put64_get64 (within fits)
  have number {offset : Nat} (fits : offset + 8 <= 80) :
      putNumber (getNumber payload offset) = field payload offset 8 :=
    putNumber_getNumber (within fits)
  have tag : get32 payload 0 = version := ((@holds32_iff _ 0 version).mp acceptable.version).2
  calc (ofPayload payload).encode = fields payload 0 [4, 4, 8, 8, 8, 8, 8, 8, 8, 8, 8] := by
        simp only [encode, ofPayload, ← tag, put32_get32 (within (by decide : 0 + 4 <= 80)),
          put32_get32 (within (by decide : 4 + 4 <= 80)), word, number, fields, Nat.reduceAdd,
          Nat.reduceLeDiff, List.append_nil, List.append_assoc]
    _ = payload.take 80 := by
        rw [fields_eq, field]
        rfl

/-- A payload is refused for the reason that holds of it. -/
theorem decode_of_refused {fault : Fault} (refused : Refused payload fault) :
    decode payload = .error fault := by
  unfold decode
  cases refused with
  | tooShort short => rw [if_pos short]
  | @version found holds other =>
    obtain ⟨present, tag⟩ := holds32_iff.mp holds
    have isOther : (found != version) = true := bne_iff_ne.mpr other
    rw [if_neg (by omega), tag, if_pos isOther]
  | truncated holds short =>
    obtain ⟨present, tag⟩ := (@holds32_iff _ 0 version).mp holds
    rw [if_neg (by omega), tag, if_neg (by simp), if_pos (show payload.length < size from short)]
    rfl

/-- What cannot be accepted is refused for some reason. -/
theorem acceptable_or_refused (payload : List UInt8) :
    Acceptable payload ∨ exists fault, Refused payload fault := by
  by_cases short : payload.length < 4
  · exact .inr ⟨_, .tooShort short⟩
  have holds : Holds payload 0 4 (get32 payload 0).toNat := holds32_iff.mpr ⟨by omega, rfl⟩
  by_cases other : get32 payload 0 = 1
  · rw [other] at holds
    by_cases truncated : payload.length < 80
    · exact .inr ⟨_, .truncated holds truncated⟩
    · exact .inl ⟨Nat.le_of_not_lt truncated, holds⟩
  · exact .inr ⟨_, .version holds other⟩

/-- A payload is read if its length and version are those of a tick. -/
theorem exists_decode_eq_ok_iff :
    (exists tick, decode payload = .ok tick) ↔ Acceptable payload := by
  constructor
  · rintro ⟨tick, read⟩
    rcases acceptable_or_refused payload with acceptable | ⟨fault, refused⟩
    · exact acceptable
    · simp [decode_of_refused refused] at read
  · exact fun acceptable => ⟨_, decode_of_acceptable acceptable⟩

theorem decode_eq_error_iff {fault : Fault} :
    decode payload = .error fault ↔ Refused payload fault := by
  constructor
  · intro read
    rcases acceptable_or_refused payload with acceptable | ⟨other, refused⟩
    · simp [decode_of_acceptable acceptable] at read
    · rw [decode_of_refused refused] at read
      exact Except.error.inj read ▸ refused
  · exact decode_of_refused

/-- What was read is written as the first 80 bytes of the payload. -/
theorem encode_of_decode (read : decode payload = .ok tick) : tick.encode = payload.take 80 := by
  have acceptable := exists_decode_eq_ok_iff.mp ⟨tick, read⟩
  rw [decode_of_acceptable acceptable] at read
  obtain rfl := Except.ok.inj read
  exact encode_ofPayload acceptable

/-- Reading accepts what begins with the bytes that writing produces. -/
theorem decode_eq_ok_iff : decode payload = .ok tick ↔ tick.encode <+: payload := by
  constructor
  · intro read
    rw [encode_of_decode read]
    exact List.take_prefix 80 payload
  · rintro ⟨rest, rfl⟩
    exact decode_encode_append tick rest

/-- Nothing after the first 80 bytes matters. -/
theorem decode_take (payload : List UInt8) : decode (payload.take 80) = decode payload := by
  by_cases long : 80 <= payload.length
  · rcases acceptable_or_refused payload with acceptable | ⟨fault, refused⟩
    · have start := decode_encode (ofPayload payload)
      rwa [encode_ofPayload acceptable, ← decode_of_acceptable acceptable] at start
    · rw [decode_of_refused refused]
      -- Of a payload as long as a tick only the version can be wrong, and its start has it too.
      cases refused with
      | tooShort short => omega
      | version holds other => exact decode_of_refused (.version (holds.take (by decide)) other)
      | truncated _ short => omega
  · rw [List.take_of_length_le (by omega)]

end

/-- A tick is read back from its 80 bytes whatever follows them; reading accepts what is long
enough and has the right version, refuses anything else for the first reason that holds, does
not go beyond a payload's end, and depends on the first 80 bytes alone, which are what writing
gives back. -/
theorem decode_reads_start :
    (forall tick rest, HasLayout tick.encode tick ∧ decode (tick.encode ++ rest) = .ok tick) ∧
      forall payload,
        ((exists tick, decode payload = .ok tick) ↔ Acceptable payload) ∧
          (forall tick, decode payload = .ok tick -> tick.encode = payload.take 80) ∧
          (forall fault, decode payload = .error fault ↔ Refused payload fault) ∧
          (¬Acceptable payload -> exists reason,
            (decode payload).mapError Fault.toFailure = .error (.decode reason)) ∧
          decodeWithin payload = some (decode payload) ∧
          forall other, payload.take 80 = other.take 80 -> decode payload = decode other := by
  refine ⟨fun tick rest => ⟨layout_encode tick, decode_encode_append tick rest⟩, ?_⟩
  intro payload
  refine ⟨exists_decode_eq_ok_iff, fun tick => encode_of_decode, fun fault => decode_eq_error_iff,
    ?_, decodeWithin_eq payload, ?_⟩
  · intro refused
    exact refuses_of_not_exists (exists_decode_eq_ok_iff.not.mpr refused)
  · intro other same
    rw [← decode_take payload, same, decode_take other]

/-- A tick whose last price is no number, with two bytes after it, is read with its bits; so is
any payload that begins with its bytes. Five of them are refused for their version. -/
theorem decode_reads_start_nan :
    let tick : Tick := ⟨1, 1693000000000000, ⟨0x7FF8000000000001⟩, 1200, ⟨0x8000000000000000⟩, 5,
      ⟨0x40AF406666666666⟩, 7, ⟨0x7FF0000000000000⟩, ⟨1⟩⟩
    let payload := tick.encode ++ [170, 170]
    decode payload = .ok tick ∧ tick.encode = payload.take 80 ∧
      decode payload = decode tick.encode ∧
      decode [2, 0, 0, 0, 7] = .error (.version .tick 2) ∧
      exists reason, (decode [2, 0, 0, 0, 7]).mapError Fault.toFailure =
        .error (.decode reason) := by
  intro tick payload
  have read : decode payload = .ok tick := (decode_reads_start.1 tick [170, 170]).2
  obtain ⟨_, written, _, _, _, start⟩ := decode_reads_start.2 payload
  obtain ⟨_, _, refuses, unread, _, _⟩ := decode_reads_start.2 [2, 0, 0, 0, 7]
  have holds : Holds [2, 0, 0, 0, 7] 0 4 (2 : UInt32).toNat := holds32_iff.mpr (by decide)
  have short : ¬Acceptable [2, 0, 0, 0, 7] := fun acceptable => by simpa using acceptable.length
  refine ⟨read, written tick read, start _ ?_, ?_, unread short⟩
  · exact (written tick read).symm.trans (List.take_of_length_le (by simp [size])).symm
  · exact (refuses _).mpr (.version holds (by decide))

end StrategyHost.Market.Tick
