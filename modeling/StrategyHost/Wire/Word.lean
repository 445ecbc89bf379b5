import StrategyHost.Binary64.Basic

/-!
# Little-endian words

The fields of the fixed binary layouts. A field is written by its width and
read by its offset; reading is total and takes missing bytes as zero, so the
layouts check lengths first.
-/

namespace StrategyHost.Wire

/-- The lowest `width` bytes of a number, least significant first. -/
def toBytes : Nat -> Nat -> List UInt8
  | 0, _ => []
  | width + 1, value => UInt8.ofNat value :: toBytes width (value / 256)

/-- The number with these bytes, least significant first. -/
def ofBytes : List UInt8 -> Nat
  | [] => 0
  | byte :: rest => byte.toNat + 256 * ofBytes rest

/-- The bytes of the field at an offset. -/
def field (payload : List UInt8) (offset width : Nat) : List UInt8 :=
  (payload.drop offset).take width

/-- Write a 32-bit word. -/
def put32 (word : UInt32) : List UInt8 :=
  toBytes 4 word.toNat

/-- Write a 64-bit word. -/
def put64 (word : UInt64) : List UInt8 :=
  toBytes 8 word.toNat

/-- Write a floating point number by its bits. -/
def putNumber (number : Binary64) : List UInt8 :=
  put64 number.bits

/-- The 32-bit word at an offset. -/
def get32 (payload : List UInt8) (offset : Nat) : UInt32 :=
  UInt32.ofNat (ofBytes (field payload offset 4))

/-- The 64-bit word at an offset. -/
def get64 (payload : List UInt8) (offset : Nat) : UInt64 :=
  UInt64.ofNat (ofBytes (field payload offset 8))

/-- The floating point number at an offset. -/
def getNumber (payload : List UInt8) (offset : Nat) : Binary64 :=
  ⟨get64 payload offset⟩

@[simp] theorem length_toBytes (width value : Nat) : (toBytes width value).length = width := by
  induction width generalizing value with
  | zero => rfl
  | succ width inductionHypothesis => simp [toBytes, inductionHypothesis]

@[simp] theorem length_put32 (word : UInt32) : (put32 word).length = 4 :=
  length_toBytes 4 _

@[simp] theorem length_put64 (word : UInt64) : (put64 word).length = 8 :=
  length_toBytes 8 _

@[simp] theorem length_putNumber (number : Binary64) : (putNumber number).length = 8 :=
  length_toBytes 8 _

end StrategyHost.Wire
