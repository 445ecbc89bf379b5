import StrategyHost.Proofs.StrategyId
import StrategyHost.Proofs.Text.WellFormed
import StrategyHost.Proofs.Trade.Request

/-!
# Reading any identifier off the wire

A command that comes off the wire may hold any sixteen bytes where the identifier of a strategy
stands, not only those that a text leaves there. What is read of them is a text all the same: the
longest one before the first zero. The identifier of that text differs only in that it has zeros
where nothing could be read.
-/

namespace StrategyHost

open Text

/-- What stands before the first zero among bytes, and all of them if there is none. -/
def StandsBeforeZero (bytes start : List UInt8) : Prop :=
  0 ∉ start ∧ (start = bytes ∨ start ++ [0] <+: bytes)

/-- Well-formed bytes without a zero, followed only by zeros. -/
def IsPadded (bytes : List UInt8) : Prop :=
  exists start zeros, Utf8.WellFormed start ∧ 0 ∉ start ∧ bytes = start ++ List.replicate zeros 0

namespace WireId

theorem standsBeforeZero_content (id : WireId) : StandsBeforeZero id.bytes id.content := by
  refine ⟨?_, ?_⟩
  · intro member
    have passes := List.mem_takeWhile_imp member
    simp at passes
  · have whole : id.content ++ id.bytes.dropWhile (· != 0) = id.bytes :=
      List.takeWhile_append_dropWhile
    cases behind : id.bytes.dropWhile (· != 0) with
    | nil =>
      rw [behind, List.append_nil] at whole
      exact .inl whole
    | cons byte others =>
      -- The first byte that is not taken is a zero.
      have stops : byte = 0 := by
        have refused := List.head?_dropWhile_not (· != 0) id.bytes
        rw [behind] at refused
        simpa using refused
      refine .inr ⟨others, ?_⟩
      rw [List.append_assoc, List.singleton_append, ← stops, ← behind]
      exact whole

theorem length_encode_text_le (id : WireId) : (Utf8.encode id.text).length <= size :=
  id.length_bytes ▸ id.text_begins.length_le

theorem noNul_text (id : WireId) : '\x00' ∉ id.text.toList := by
  intro member
  have zero := Utf8.zero_mem_encode_iff.mpr member
  have within := (Utf8.isLongestWellFormed_longestText id.content).begins
  exact id.standsBeforeZero_content.1 (within.subset zero)

/-- A text that fits is followed by zeros. -/
theorem bytes_ofText {text : String} (fits : (Utf8.encode text).length <= size) :
    (ofText text).bytes =
      Utf8.encode text ++ List.replicate (size - (Utf8.encode text).length) 0 := by
  simp only [ofText, ofBytes, List.take_of_length_le fits]

/-- An identifier that is a text followed by zeros is the one of this text. -/
theorem ofText_of_bytes {id : WireId} {text : String} {zeros : Nat}
    (padded : id.bytes = Utf8.encode text ++ List.replicate zeros 0) : ofText text = id := by
  have lengths := congrArg List.length padded
  rw [id.length_bytes, List.length_append, List.length_replicate] at lengths
  have same : (ofText text).bytes = id.bytes := by
    rw [bytes_ofText (by omega), padded, lengths, Nat.add_sub_cancel_left]
  rw [← ofBytes_bytes (ofText text), same, ofBytes_bytes]

/-- An identifier is its own text again exactly if it is padded. -/
theorem ofText_text_eq_iff (id : WireId) : ofText id.text = id ↔ IsPadded id.bytes := by
  constructor
  · intro same
    have clean : 0 ∉ Utf8.encode id.text := fun zero =>
      id.noNul_text (Utf8.zero_mem_encode_iff.mp zero)
    have padded := bytes_ofText id.length_encode_text_le
    rw [same] at padded
    exact ⟨_, _, Utf8.wellFormed_iff.mpr ⟨id.text, rfl⟩, clean, padded⟩
  · rintro ⟨start, zeros, wellFormed, clean, padded⟩
    obtain ⟨text, rfl⟩ := Utf8.wellFormed_iff.mp wellFormed
    obtain rfl := ofText_of_bytes padded
    have fits : (Utf8.encode text).length <= size := by
      rw [← length_bytes (ofText text), padded, List.length_append]
      exact Nat.le_add_right _ _
    have noNul : '\x00' ∉ text.toList := fun member =>
      clean (Utf8.zero_mem_encode_iff.mpr member)
    rw [text_ofText fits noNul]

/-- What can be relied on about the text of an identifier, whatever its bytes are. -/
structure Legible (id : WireId) : Prop where
  noNul : '\x00' ∉ id.text.toList
  /-- The text goes as far as the bytes before the first zero are well formed. -/
  longest : exists start, StandsBeforeZero id.bytes start ∧
    Utf8.IsLongestWellFormed start (Utf8.encode id.text)
  /-- Written again, the text stands where it has been read, with zeros after it. -/
  agrees : Utf8.encode id.text <+: id.bytes
  padded : (ofText id.text).bytes =
    Utf8.encode id.text ++ List.replicate (size - (Utf8.encode id.text).length) 0
  again : (ofText id.text).text = id.text
  same : ofText id.text = id ↔ IsPadded id.bytes

/-- Any sixteen bytes can be read as an identifier. What makes up the text is well formed in that
no character is overlong, a surrogate, or beyond the last code point. -/
theorem legible_of_bytes :
    (forall sequence : List UInt8, Utf8.IsSequence sequence ↔
      exists value, Utf8.Shaped value sequence ∧ Utf8.leastValue sequence.length <= value ∧
        ¬(0xD800 <= value ∧ value <= 0xDFFF) ∧ value <= 0x10FFFF) ∧
      forall id : WireId, id.Legible := by
  refine ⟨fun _ => Utf8.isSequence_iff_exists_shaped, ?_⟩
  intro id
  exact {
    noNul := id.noNul_text
    longest := ⟨id.content, id.standsBeforeZero_content,
      Utf8.isLongestWellFormed_longestText id.content⟩
    agrees := id.text_begins
    padded := bytes_ofText id.length_encode_text_le
    again := text_ofText id.length_encode_text_le id.noNul_text
    same := id.ofText_text_eq_iff }

/-- A surrogate ends the text, and nothing behind it or behind the zero is read. -/
example :
    text ⟨[0x41, 0x42, 0xED, 0xA0, 0x80, 0x43, 0, 0x44, 0, 0, 0, 0, 0, 0, 0, 0], rfl⟩ = "AB" := by
  decide +kernel

end WireId

end StrategyHost
