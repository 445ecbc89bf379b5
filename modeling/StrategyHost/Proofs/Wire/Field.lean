import Mathlib
import StrategyHost.Proofs.Wire.Word
import StrategyHost.Wire.Fault

/-!
# Fields of a payload

What stands at an offset of a payload, said byte by byte (`Holds`) and by a reader that
refuses to go beyond the payload's end (`get32?`). A word that was read there is written
as the bytes that it was read from (`put32_get32`), and fields that follow each other are
one field (`field_append_field`), so that a payload is what its fields are written as.
-/

namespace StrategyHost.Wire

/-- The bytes of a number stand at an offset, the least significant first. -/
def Holds (payload : List UInt8) (offset width value : Nat) : Prop :=
  forall place, place < width ->
    payload[offset + place]? = some (UInt8.ofNat (value / 256 ^ place))

/-- The field at an offset, or none if the payload ends before the field does. -/
def field? (payload : List UInt8) (offset width : Nat) : Option (List UInt8) :=
  if offset + width <= payload.length then some (field payload offset width) else none

/-- The 32-bit word at an offset, if there is one. -/
def get32? (payload : List UInt8) (offset : Nat) : Option UInt32 :=
  (field? payload offset 4).map fun bytes => UInt32.ofNat (ofBytes bytes)

/-- The 64-bit word at an offset, if there is one. -/
def get64? (payload : List UInt8) (offset : Nat) : Option UInt64 :=
  (field? payload offset 8).map fun bytes => UInt64.ofNat (ofBytes bytes)

/-- The floating point number at an offset, if there is one. -/
def getNumber? (payload : List UInt8) (offset : Nat) : Option Binary64 :=
  (get64? payload offset).map Binary64.mk

/-! ## Bytes of numbers -/

theorem ofBytes_lt (bytes : List UInt8) : ofBytes bytes < 256 ^ bytes.length := by
  induction bytes with
  | nil => exact Nat.one_pos
  | cons byte rest inductionHypothesis =>
    have small : byte.toNat < 256 := byte.toNat_lt
    rw [ofBytes, List.length_cons, Nat.pow_succ]
    omega

/-- Bytes are those of the number that they give. -/
theorem toBytes_ofBytes (bytes : List UInt8) : toBytes bytes.length (ofBytes bytes) = bytes := by
  induction bytes with
  | nil => rfl
  | cons byte rest inductionHypothesis =>
    have small : byte.toNat < 256 := byte.toNat_lt
    have quotient : (byte.toNat + 256 * ofBytes rest) / 256 = ofBytes rest := by omega
    have lowest : UInt8.ofNat (byte.toNat + 256 * ofBytes rest) = byte := by
      apply UInt8.toNat_inj.mp
      rw [UInt8.toNat_ofNat']
      omega
    rw [ofBytes, List.length_cons, toBytes, quotient, lowest, inductionHypothesis]

/-- The byte at a place of a number is the number's digit there. -/
theorem getElem?_toBytes {width place : Nat} (value : Nat) (within : place < width) :
    (toBytes width value)[place]? = some (UInt8.ofNat (value / 256 ^ place)) := by
  induction width generalizing value place with
  | zero => exact absurd within (Nat.not_lt_zero place)
  | succ width inductionHypothesis =>
    cases place with
    | zero => simp [toBytes]
    | succ place =>
      have digit := inductionHypothesis (value / 256) (Nat.lt_of_succ_lt_succ within)
      rw [toBytes, List.getElem?_cons_succ, digit, Nat.div_div_eq_div_mul, Nat.pow_succ,
        Nat.mul_comm]

/-- Two numbers have the same bytes if they agree in what fits in these. -/
theorem toBytes_eq_iff {width first second : Nat} :
    toBytes width first = toBytes width second ↔ first % 256 ^ width = second % 256 ^ width := by
  have whole (value : Nat) : toBytes width (value % 256 ^ width) = toBytes width value := by
    have bytes := toBytes_ofBytes (toBytes width value)
    rwa [length_toBytes, ofBytes_toBytes_mod] at bytes
  constructor
  · intro same
    have numbers := congrArg ofBytes same
    rwa [ofBytes_toBytes_mod, ofBytes_toBytes_mod] at numbers
  · intro same
    rw [← whole first, same, whole second]

/-! ## Fields -/

section

variable {payload : List UInt8} {offset width : Nat}

theorem length_field (within : offset + width <= payload.length) :
    (field payload offset width).length = width := by
  rw [field, List.length_take, List.length_drop]
  omega

/-- A place of a field is a place of the payload. -/
theorem getElem?_field {place : Nat} (within : place < width) :
    (field payload offset width)[place]? = payload[offset + place]? := by
  rw [field, List.getElem?_take, if_pos within, List.getElem?_drop]

/-- Two fields of which one begins where the other ends are one field. -/
theorem field_append_field (payload : List UInt8) (offset width more : Nat) :
    field payload offset width ++ field payload (offset + width) more =
      field payload offset (width + more) := by
  rw [field, field, field, List.take_add, List.drop_drop]

/-- Fields of these widths, each of which begins where the one before it ends. -/
def fields (payload : List UInt8) (offset : Nat) : List Nat -> List UInt8
  | [] => []
  | width :: rest => field payload offset width ++ fields payload (offset + width) rest

/-- Fields that follow each other are one field. -/
theorem fields_eq (payload : List UInt8) (offset : Nat) (widths : List Nat) :
    fields payload offset widths = field payload offset widths.sum := by
  induction widths generalizing offset with
  | nil => simp [fields, field]
  | cons width rest inductionHypothesis =>
    rw [fields, inductionHypothesis, field_append_field, List.sum_cons]

/-- A payload consists of any fields that are as long together as it is. -/
theorem fields_of_length {widths : List Nat} (length : payload.length = widths.sum) :
    fields payload 0 widths = payload := by
  rw [fields_eq, field, List.drop_zero, ← length, List.take_length]

theorem field?_eq_some (within : offset + width <= payload.length) :
    field? payload offset width = some (field payload offset width) :=
  if_pos within

theorem get32?_eq_some (within : offset + 4 <= payload.length) :
    get32? payload offset = some (get32 payload offset) := by
  rw [get32?, field?_eq_some within]
  rfl

theorem get64?_eq_some (within : offset + 8 <= payload.length) :
    get64? payload offset = some (get64 payload offset) := by
  rw [get64?, field?_eq_some within]
  rfl

theorem getNumber?_eq_some (within : offset + 8 <= payload.length) :
    getNumber? payload offset = some (getNumber payload offset) := by
  rw [getNumber?, get64?_eq_some within]
  rfl

/-- A number stands at an offset if the field there consists of its bytes. -/
theorem holds_iff {value : Nat} (positive : 0 < width) :
    Holds payload offset width value ↔
      offset + width <= payload.length ∧ field payload offset width = toBytes width value := by
  constructor
  · intro holds
    have within : offset + width <= payload.length := by
      have last := holds (width - 1) (by omega)
      obtain ⟨bound, _⟩ := List.getElem?_eq_some_iff.mp last
      omega
    refine ⟨within, List.ext_getElem? fun place => ?_⟩
    by_cases inside : place < width
    · rw [getElem?_field inside, holds place inside, getElem?_toBytes value inside]
    · have beyondField : (field payload offset width).length <= place := by
        rw [length_field within]
        omega
      have beyondNumber : (toBytes width value).length <= place := by
        rw [length_toBytes]
        omega
      rw [List.getElem?_eq_none beyondField, List.getElem?_eq_none beyondNumber]
  · rintro ⟨_, same⟩ place inside
    rw [← getElem?_field inside, same, getElem?_toBytes value inside]

/-- The bytes that stand at an offset tell which numbers do. -/
theorem Holds.iff_mod_eq {value other : Nat} (holds : Holds payload offset width value)
    (positive : 0 < width) :
    Holds payload offset width other ↔ value % 256 ^ width = other % 256 ^ width := by
  obtain ⟨within, same⟩ := (holds_iff positive).mp holds
  rw [holds_iff positive, same, toBytes_eq_iff, and_iff_right within]

/-- A number stands where a longer one begins, as far as it fits. -/
theorem Holds.low {more value : Nat} (holds : Holds payload offset (width + more) value) :
    Holds payload offset width value :=
  fun place inside => holds place (Nat.lt_add_right more inside)

/-- Within a number stand its higher digits. -/
theorem Holds.high {more value : Nat} (holds : Holds payload offset (width + more) value) :
    Holds payload (offset + width) more (value / 256 ^ width) := by
  intro place inside
  have digit := holds (width + place) (Nat.add_lt_add_left inside width)
  rw [Nat.add_assoc, digit, Nat.div_div_eq_div_mul, Nat.pow_add]

/-- What stands in a payload stands there also if more follows. -/
theorem Holds.append {value : Nat} (holds : Holds payload offset width value)
    (rest : List UInt8) : Holds (payload ++ rest) offset width value := by
  intro place inside
  obtain ⟨bound, _⟩ := List.getElem?_eq_some_iff.mp (holds place inside)
  rw [List.getElem?_append_left bound, holds place inside]

/-- What stands in a payload stands in every start of it that goes so far. -/
theorem Holds.take {count value : Nat} (holds : Holds payload offset width value)
    (within : offset + width <= count) : Holds (payload.take count) offset width value := by
  intro place inside
  rw [List.getElem?_take_of_lt (by omega), holds place inside]

/-- A word that was read is written as the bytes that it was read from. -/
theorem put32_get32 (within : offset + 4 <= payload.length) :
    put32 (get32 payload offset) = field payload offset 4 := by
  have length := length_field within
  have small : ofBytes (field payload offset 4) < UInt32.size := by
    have bound := ofBytes_lt (field payload offset 4)
    rwa [length] at bound
  have bytes := toBytes_ofBytes (field payload offset 4)
  rw [length] at bytes
  rw [put32, get32, UInt32.toNat_ofNat_of_lt' small, bytes]

theorem put64_get64 (within : offset + 8 <= payload.length) :
    put64 (get64 payload offset) = field payload offset 8 := by
  have length := length_field within
  have small : ofBytes (field payload offset 8) < UInt64.size := by
    have bound := ofBytes_lt (field payload offset 8)
    rwa [length] at bound
  have bytes := toBytes_ofBytes (field payload offset 8)
  rw [length] at bytes
  rw [put64, get64, UInt64.toNat_ofNat_of_lt' small, bytes]

theorem putNumber_getNumber (within : offset + 8 <= payload.length) :
    putNumber (getNumber payload offset) = field payload offset 8 :=
  put64_get64 within

theorem put32_injective {first second : UInt32} (same : put32 first = put32 second) :
    first = second := by
  have read := get32_here [] first
  rw [same, get32_here] at read
  exact read.symm

theorem put64_injective {first second : UInt64} (same : put64 first = put64 second) :
    first = second := by
  have read := get64_here [] first
  rw [same, get64_here] at read
  exact read.symm

/-- The word that stands at an offset is the one that is read there. -/
theorem holds32_iff {word : UInt32} :
    Holds payload offset 4 word.toNat ↔
      offset + 4 <= payload.length ∧ get32 payload offset = word := by
  rw [holds_iff (by decide)]
  refine and_congr_right fun within => ?_
  rw [← put32_get32 within]
  exact ⟨put32_injective, fun same => by rw [same, put32]⟩

theorem holds64_iff {word : UInt64} :
    Holds payload offset 8 word.toNat ↔
      offset + 8 <= payload.length ∧ get64 payload offset = word := by
  rw [holds_iff (by decide)]
  refine and_congr_right fun within => ?_
  rw [← put64_get64 within]
  exact ⟨put64_injective, fun same => by rw [same, put64]⟩

end

/-! ## Payloads that cannot be read -/

/-- Reading has failed because of the payload. -/
def Refuses {Value : Type} (read : Except Fault Value) : Prop :=
  exists reason, read.mapError Fault.toFailure = .error (.decode reason)

theorem refuses_of_error {Value : Type} {read : Except Fault Value} {fault : Fault}
    (failed : read = .error fault) : Refuses read :=
  ⟨fault.reason, by rw [failed]; rfl⟩

theorem refuses_of_not_exists {Value : Type} {read : Except Fault Value}
    (unread : ¬exists value, read = .ok value) : Refuses read := by
  cases result : read with
  | ok value => exact absurd ⟨value, result⟩ unread
  | error fault => exact ⟨fault.reason, rfl⟩

end StrategyHost.Wire
