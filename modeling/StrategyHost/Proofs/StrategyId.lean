import Mathlib.Data.List.TakeWhile
import StrategyHost.Proofs.Text.Utf8
import StrategyHost.StrategyId

/-!
# What the wire keeps of an identifier

Sixteen bytes may end within a character, and a text may hold the very byte that fills up
shorter ones. `WireId.keeps_ofText` says what can still be read of a text: as much of its
start as fits and has no such byte.
-/

namespace StrategyHost

/-- What can be kept of a text. -/
structure Keeps (text kept : String) : Prop where
  start : kept.toList <+: text.toList
  fits : (Text.Utf8.encode kept).length <= 16
  noNul : '\x00' ∉ kept.toList
  /-- No other such start goes further. -/
  longest : forall other : String, other.toList <+: text.toList ->
    (Text.Utf8.encode other).length <= 16 -> '\x00' ∉ other.toList ->
      other.toList <+: kept.toList

namespace Keeps

variable {text kept other : String}

/-- Only one thing can be kept of a text. -/
theorem unique (keeps : Keeps text kept) (also : Keeps text other) : kept = other := by
  have forth := also.longest kept keeps.start keeps.fits keeps.noNul
  have back := keeps.longest other also.start also.fits also.noNul
  exact String.toList_inj.mp (forth.eq_of_length_le back.length_le)

/-- A text that fits is kept as a whole. -/
theorem whole (fits : (Text.Utf8.encode text).length <= 16) (noNul : '\x00' ∉ text.toList) :
    Keeps text text :=
  ⟨List.prefix_refl text.toList, fits, noNul, fun _ start _ _ => start⟩

end Keeps

namespace WireId

open Text

/-- The content of an identifier has nothing of the zeros with which it is filled up. -/
theorem content_ofBytes (bytes : List UInt8) :
    (ofBytes bytes).content = (bytes.take size).takeWhile (· != 0) := by
  have zeros (count : Nat) : (List.replicate count (0 : UInt8)).takeWhile (· != 0) = [] := by
    cases count <;> rfl
  rw [content, ofBytes, List.takeWhile_append, zeros, List.append_nil]
  split
  · rename_i whole
    exact ((List.takeWhile_prefix (· != 0)).eq_of_length whole).symm
  · rfl

/-- The content of an identifier begins with bytes that the identifier has been made from,
as long as they fit and none of them is zero. -/
theorem prefix_content_ofBytes_iff {start bytes : List UInt8} :
    start <+: (ofBytes bytes).content ↔ start <+: bytes ∧ start.length <= size ∧ 0 ∉ start := by
  rw [content_ofBytes]
  constructor
  · intro begins
    have within := begins.trans (List.takeWhile_prefix (· != 0))
    obtain ⟨same, fits⟩ := List.prefix_take_iff.mp within
    refine ⟨same, fits, ?_⟩
    intro member
    have passes := List.mem_takeWhile_imp (begins.subset member)
    simp at passes
  · rintro ⟨same, fits, zeroFree⟩
    obtain ⟨rest, split⟩ := List.prefix_take_iff.mpr ⟨same, fits⟩
    have passes : forall byte, byte ∈ start -> (byte != 0) = true := by
      intro byte member
      have nonzero : byte ≠ 0 := fun isZero => zeroFree (isZero ▸ member)
      simpa using nonzero
    rw [← split, List.takeWhile_append_of_pos passes]
    exact List.prefix_append start _

/-- An identifier begins with the bytes of its text. -/
theorem text_begins (id : WireId) : Utf8.encode id.text <+: id.bytes := by
  have within : Utf8.encode id.text <+: id.content :=
    Utf8.prefix_longestText_iff.mp (List.prefix_refl _)
  exact within.trans (List.takeWhile_prefix _)

/-- Which texts an identifier's text begins with. -/
theorem prefix_text_ofText_iff {text start : String} :
    start.toList <+: (ofText text).text.toList ↔
      start.toList <+: text.toList ∧ (Utf8.encode start).length <= size ∧
        '\x00' ∉ start.toList := by
  rw [WireId.text, Utf8.prefix_longestText_iff, ofText, prefix_content_ofBytes_iff,
    Utf8.encode_prefix_iff, Utf8.zero_mem_encode_iff]

/-- What is read of an identifier is all that can be kept of its text. -/
theorem keeps_ofText (text : String) : Keeps text (ofText text).text := by
  -- It begins with itself, so it is one of the starts that fit; and it begins with all of them.
  have itself := List.prefix_refl (ofText text).text.toList
  obtain ⟨start, fits, noNul⟩ := prefix_text_ofText_iff.mp itself
  refine ⟨start, fits, noNul, ?_⟩
  intro other begins room clean
  exact prefix_text_ofText_iff.mpr ⟨begins, room, clean⟩

/-- A text that fits is read back. -/
theorem text_ofText {text : String} (fits : (Utf8.encode text).length <= 16)
    (noNul : '\x00' ∉ text.toList) : (ofText text).text = text :=
  (keeps_ofText text).unique (.whole fits noNul)

/-- An identifier without characters is all zeros. -/
theorem bytes_ofText_empty : (ofText "").bytes = List.replicate 16 0 := by
  decide

end WireId

/-- Responses come on the channel of what is kept of an identifier, if there is one. -/
theorem responseChannel?_eq_some_iff {strategyId channel : String} :
    responseChannel? strategyId = some channel ↔ strategyId ≠ "" ∧ Keeps strategyId channel := by
  have kept := WireId.keeps_ofText strategyId
  by_cases unnamed : strategyId = ""
  · simp [responseChannel?, unnamed]
  · rw [responseChannel?, if_neg (by simpa using unnamed), Option.some.injEq]
    constructor
    · rintro rfl
      exact ⟨unnamed, kept⟩
    · rintro ⟨_, keeps⟩
      exact kept.unique keeps

end StrategyHost
