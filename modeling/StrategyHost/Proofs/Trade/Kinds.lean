import StrategyHost.Proofs.Market.TickLayout
import StrategyHost.Proofs.Trade.RequestLayout
import StrategyHost.Proofs.Trade.ResponseLayout

/-!
# Payloads of another kind

What the reader of one kind of payload makes of another kind. Requests begin with a word that
is no version, and nothing else is as long as they are. Ticks and responses share their
version, so a tick that is read as a response is told apart only by what stands where a
response has its terms: the upper half of the last price and the lower half of the volume
(`Response.exists_decode_tick_iff`).
-/

namespace StrategyHost

namespace Binary64

/-- The upper 32 bits of a number: its sign, its exponent, and the beginning of its fraction. -/
def highWord (number : Binary64) : Nat :=
  number.bits.toNat / 2 ^ 32

/-- A number that is not subnormal. -/
inductive Ordinary (number : Binary64) : Prop where
  | zero (isZero : number.magnitudeBits = 0)
  | normal (isFinite : number.isFinite = true) (leads : 0 < number.exponentField)
  | infinite (isInfinite : number.isInfinite = true)
  | nan (isNaN : number.isNaN = true)

/-- The upper half of a number that is not subnormal is empty or reaches into the exponent. -/
theorem Ordinary.highWord {number : Binary64} (ordinary : number.Ordinary) :
    number.highWord % 2 ^ 31 = 0 ∨ 2 ^ 20 <= number.highWord % 2 ^ 31 := by
  unfold Binary64.highWord
  cases ordinary with
  | zero isZero =>
    simp only [magnitudeBits, signBit] at isZero
    omega
  | normal _ leads =>
    simp only [exponentField, magnitudeBits, signBit, leadingBit] at leads
    omega
  | infinite isInfinite =>
    have magnitude : number.magnitudeBits = infinityBits := of_decide_eq_true isInfinite
    simp only [magnitudeBits, signBit, infinityBits] at magnitude
    omega
  | nan isNaN =>
    have magnitude : infinityBits < number.magnitudeBits := of_decide_eq_true isNaN
    simp only [magnitudeBits, signBit, infinityBits] at magnitude
    omega

end Binary64

namespace Wire

/-- Which of some codes stands at an offset is told by the word that does. -/
theorem exists_code_iff {payload : List UInt8} {offset value : Nat} {codes : List Nat}
    (small : forall code, code ∈ codes -> code < 2 ^ 32) (holds : Holds payload offset 4 value) :
    (exists code, code ∈ codes ∧ Holds payload offset 4 code) ↔ value % 2 ^ 32 ∈ codes := by
  have same (code : Nat) (listed : code ∈ codes) :
      Holds payload offset 4 code ↔ value % 2 ^ 32 = code := by
    rw [holds.iff_mod_eq (by decide), ← Nat.mod_eq_of_lt (small code listed)]
    simp
  constructor
  · rintro ⟨code, listed, stands⟩
    rw [(same code listed).mp stands]
    exact listed
  · intro listed
    exact ⟨_, listed, (same _ listed).mpr rfl⟩

end Wire

open Wire

namespace Market.Tick

/-- A tick whose payload has codes of a direction and of an offset where those of a response
stand. -/
def ResemblesResponse (tick : Tick) : Prop :=
  tick.lastPrice.highWord ∈ [1, 2] ∧ tick.volume.toNat % 2 ^ 32 ∈ [1, 2, 4, 8]

/-- Only a subnormal price makes a tick resemble a response. -/
theorem not_resemblesResponse {tick : Tick} (ordinary : tick.lastPrice.Ordinary) :
    ¬tick.ResemblesResponse := by
  rintro ⟨listed, _⟩
  have high := ordinary.highWord
  simp only [List.mem_cons, List.not_mem_nil, or_false] at listed
  omega

/-- The payload of a response ends before a tick would. -/
theorem decode_response (response : Trade.Response) :
    decode response.encode = .error (.truncated .tick 1 80 56) := by
  have layout := Trade.Response.layout_encode response
  have refused := decode_of_refused (.truncated layout.version (by rw [layout.length]; decide))
  rwa [layout.length] at refused

/-- The word that begins a request is no version of ticks. -/
theorem decode_request (request : Trade.Request) (rest : List UInt8) :
    decode (request.encode ++ rest) = .error (.version .tick Trade.Request.magic) :=
  decode_of_refused
    (.version ((Trade.Request.layout_encode request).magic.append rest) (by decide))

end Market.Tick

namespace Trade

open Market (Tick)

namespace Response

/-- A tick's payload is read as a response exactly if it has the codes of terms where a
response has its terms. -/
theorem exists_decode_tick_iff (tick : Tick) (rest : List UInt8) :
    (exists response, decode (tick.encode ++ rest) = .ok response) ↔
      tick.ResemblesResponse := by
  have layout := Tick.layout_encode tick
  have length : 56 <= (tick.encode ++ rest).length := by
    rw [List.length_append, layout.length]
    omega
  have version : Holds (tick.encode ++ rest) 0 4 1 := layout.version.append rest
  -- The last price stands at 16, the volume at 24; a response has its terms at 20 and 24.
  have direction : Holds (tick.encode ++ rest) 20 4 tick.lastPrice.highWord :=
    (@Holds.high _ 16 4 4 _ layout.lastPrice).append rest
  have offset : Holds (tick.encode ++ rest) 24 4 tick.volume.toNat :=
    (@Holds.low _ 24 4 4 _ layout.volume).append rest
  have isDirection := @exists_code_iff _ 20 _ [1, 2] (by decide) direction
  have isOffset := @exists_code_iff _ 24 _ [1, 2, 4, 8] (by decide) offset
  have small : tick.lastPrice.highWord % 2 ^ 32 = tick.lastPrice.highWord := by
    have bound := tick.lastPrice.bits.toNat_lt
    unfold Binary64.highWord
    omega
  rw [small] at isDirection
  rw [exists_decode_eq_ok_iff, Tick.ResemblesResponse, ← isDirection, ← isOffset]
  exact ⟨fun acceptable => ⟨acceptable.direction, acceptable.offset⟩,
    fun terms => ⟨length, version, terms.1, terms.2⟩⟩

/-- The word that begins a request is no version of responses. -/
theorem decode_request (request : Request) (rest : List UInt8) :
    decode (request.encode ++ rest) = .error (.version .response Request.magic) := by
  have holds := (Request.layout_encode request).magic.append rest
  obtain ⟨present, word⟩ := (@holds32_iff _ 0 Request.magic).mp holds
  unfold decode
  rw [if_neg (by omega), word, if_pos (by decide)]

end Response

namespace Request

/-- The payload of a tick is longer than a request. -/
theorem decode_tick (tick : Tick) : decode tick.encode = .error (.requestLength 56 80) := by
  have length : tick.encode.length = 80 := Tick.length_encode tick
  unfold decode
  rw [length, if_pos (by decide)]
  rfl

/-- A response is as long as a request, but begins with its version. -/
theorem decode_response (response : Response) : decode response.encode = .error (.magic 1) := by
  have layout := Response.layout_encode response
  have word : get32 response.encode 0 = 1 := ((@holds32_iff _ 0 1).mp layout.version).2
  unfold decode
  rw [layout.length, if_neg (by decide), word, if_pos (by decide)]

end Request

end Trade

end StrategyHost
