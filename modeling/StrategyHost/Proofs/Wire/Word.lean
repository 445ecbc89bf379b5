import StrategyHost.Wire.Word

/-!
# Words read back

A word that has been written is read back at its offset, whatever comes before and
after it. A layout is read by skipping the fields in front of the wanted one
(`get32_skip`, `get64_skip`) and taking the word that stands there (`get32_here`,
`get64_here`).
-/

namespace StrategyHost.Wire

/-- As many bytes of a number as there are give what of the number fits in them. -/
theorem ofBytes_toBytes_mod (width value : Nat) :
    ofBytes (toBytes width value) = value % Nat.pow 256 width := by
  induction width generalizing value with
  | zero => exact (Nat.mod_one value).symm
  | succ width inductionHypothesis =>
    have lowest : (UInt8.ofNat value).toNat = value % 256 := UInt8.toNat_ofNat'
    change (UInt8.ofNat value).toNat + 256 * ofBytes (toBytes width (value / 256)) =
      value % (Nat.pow 256 width * 256)
    rw [inductionHypothesis, lowest, Nat.mul_comm (Nat.pow 256 width), Nat.mod_mul]

/-- The bytes of a number that fits in them give the number back. -/
theorem ofBytes_toBytes {width value : Nat} (small : value < Nat.pow 256 width) :
    ofBytes (toBytes width value) = value := by
  rw [ofBytes_toBytes_mod, Nat.mod_eq_of_lt small]

section

variable {before middle after : List UInt8} {offset width : Nat}

/-- The bytes before an offset do not matter to what is read there. -/
theorem field_skip (skipped : before.length <= offset) :
    field (before ++ after) offset width = field after (offset - before.length) width := by
  rw [field, List.drop_append, List.drop_eq_nil_of_le skipped, List.nil_append, field]

/-- The bytes at the front are read by their number. -/
theorem field_here (length : middle.length = width) :
    field (middle ++ after) 0 width = middle := by
  rw [field, List.drop_zero, ← length, List.take_left]

theorem get32_skip (skipped : before.length <= offset) :
    get32 (before ++ after) offset = get32 after (offset - before.length) := by
  rw [get32, field_skip skipped, get32]

theorem get64_skip (skipped : before.length <= offset) :
    get64 (before ++ after) offset = get64 after (offset - before.length) := by
  rw [get64, field_skip skipped, get64]

theorem getNumber_skip (skipped : before.length <= offset) :
    getNumber (before ++ after) offset = getNumber after (offset - before.length) := by
  rw [getNumber, get64_skip skipped, getNumber]

end

section

variable (after : List UInt8)

/-- The word at the front is the one that was written there. -/
theorem get32_here (word : UInt32) : get32 (put32 word ++ after) 0 = word := by
  have small : word.toNat < Nat.pow 256 4 := word.toNat_lt
  rw [get32, field_here (length_put32 word), put32, ofBytes_toBytes small, UInt32.ofNat_toNat]

theorem get64_here (word : UInt64) : get64 (put64 word ++ after) 0 = word := by
  have small : word.toNat < Nat.pow 256 8 := word.toNat_lt
  rw [get64, field_here (length_put64 word), put64, ofBytes_toBytes small, UInt64.ofNat_toNat]

theorem getNumber_here (number : Binary64) :
    getNumber (putNumber number ++ after) 0 = number := by
  rw [getNumber, putNumber, get64_here]

end

/-- A number that ends a payload is read like one that does not. -/
theorem getNumber_last (number : Binary64) : getNumber (putNumber number) 0 = number := by
  have read := getNumber_here [] number
  rwa [List.append_nil] at read

end StrategyHost.Wire
