import StrategyHost.Proofs.StrategyId

/-!
# Strategies on one response channel

The wire keeps sixteen bytes of an identifier, and the response channel is called what can be
read of them. All that is lost on the way from the one to the other are the first bytes of a
character that the cut after sixteen bytes divides. So two strategies on one channel have the
same identifier on the wire, unless they differ in what such a cut has left of a character.
-/

namespace StrategyHost

open Text

/-- The first sixteen bytes of a text are a text: the cut after them divides no character. -/
def CutsBetween (text : String) : Prop :=
  exists start : String, Utf8.encode start = (Utf8.encode text).take 16

namespace CutsBetween

variable {text : String}

/-- What fits is not cut. -/
theorem of_fits (fits : (Utf8.encode text).length <= 16) : CutsBetween text :=
  ⟨text, (List.take_of_length_le fits).symm⟩

/-- Characters of seven bits cannot be divided. -/
theorem of_small (small : ∀ character ∈ text.toList, character.toNat < 0x80) :
    CutsBetween text := by
  let start := String.ofList (text.toList.take 16)
  have characters : start.toList = text.toList.take 16 := String.toList_ofList
  have smallStart : ∀ character ∈ start.toList, character.toNat < 0x80 := by
    intro character member
    exact small character (List.mem_of_mem_take (characters ▸ member))
  refine ⟨start, ?_⟩
  rw [Utf8.encode_of_small smallStart, Utf8.encode_of_small small, characters, List.map_take]

end CutsBetween

/-- What follows in the first sixteen bytes of a text after all that is kept of it: nothing, or
some but not all bytes of the next character. -/
structure Leaves (text kept : String) (part : List UInt8) : Prop where
  bytes : (Utf8.encode text).take 16 = Utf8.encode kept ++ part
  /-- The identifier on the wire is both of them, filled up with zeros. -/
  wire : exists zeros, (WireId.ofText text).bytes =
    Utf8.encode kept ++ part ++ List.replicate zeros 0
  divides : part ≠ [] -> exists character rest,
    text.toList = kept.toList ++ character :: rest ∧
      part <+: String.utf8EncodeChar character ∧ part ≠ String.utf8EncodeChar character

namespace WireId

variable {text other : String}

/-- A text without zeros gives an identifier its first sixteen bytes. -/
theorem content_ofText (noNul : '\x00' ∉ text.toList) :
    (ofText text).content = (Utf8.encode text).take 16 := by
  rw [ofText, content_ofBytes]
  apply List.takeWhile_eq_self_iff.mpr
  intro byte member
  have nonzero : byte ≠ 0 := by
    rintro rfl
    exact noNul (Utf8.zero_mem_encode_iff.mp (List.mem_of_mem_take member))
  simpa using nonzero

/-- Texts without zeros have the same identifier exactly if they begin with the same sixteen
bytes. -/
theorem ofText_eq_iff (noNul : '\x00' ∉ text.toList) (otherNoNul : '\x00' ∉ other.toList) :
    ofText text = ofText other ↔
      (Utf8.encode text).take 16 = (Utf8.encode other).take 16 := by
  constructor
  · intro same
    rw [← content_ofText noNul, ← content_ofText otherNoNul, same]
  · intro same
    have lengths := congrArg List.length same
    simp only [List.length_take] at lengths
    -- As many bytes are missing from the one as from the other.
    have padding : 16 - (Utf8.encode text).length = 16 - (Utf8.encode other).length := by
      omega
    simp only [ofText, ofBytes, size, same, padding]

/-- What can be read of an identifier leaves at most a divided character. -/
theorem leaves_ofText (noNul : '\x00' ∉ text.toList) :
    exists part, Leaves text (ofText text).text part := by
  have kept : (ofText text).text.toList <+: (ofText text).text.toList := List.prefix_refl _
  obtain ⟨⟨more, start⟩, _, _⟩ := prefix_text_ofText_iff.mp kept
  obtain ⟨part, whole⟩ := Utf8.prefix_longestText_iff.mp kept
  have bytes : (Utf8.encode text).take 16 = Utf8.encode (ofText text).text ++ part :=
    (content_ofText noNul).symm.trans whole.symm
  have wire : (ofText text).bytes = Utf8.encode (ofText text).text ++ part ++
      List.replicate (16 - (Utf8.encode text).length) 0 :=
    congrArg (· ++ _) bytes
  refine ⟨part, bytes, ⟨_, wire⟩, ?_⟩
  intro remains
  cases more with
  | nil =>
    -- A text that is kept as a whole has no bytes left.
    rw [List.append_nil] at start
    have lengths := congrArg List.length whole
    rw [content_ofText noNul, String.toList_inj.mp start] at lengths
    simp only [List.length_append, List.length_take] at lengths
    have some := List.length_pos_iff.mpr remains
    omega
  | cons character rest =>
    refine ⟨character, rest, start.symm, ?_⟩
    have within : part <+: String.utf8EncodeChar character ++ rest.flatMap String.utf8EncodeChar := by
      have begins : (ofText text).content <+: Utf8.encode text :=
        content_ofText noNul ▸ List.take_prefix 16 _
      rw [← whole, Utf8.encode, Utf8.encode, ← start, List.flatMap_append,
        List.prefix_append_right_inj] at begins
      exact begins
    have short : ¬String.utf8EncodeChar character <+: part :=
      Utf8.not_prefix_of_longestText_append whole
    rcases List.prefix_or_prefix_of_prefix within (List.prefix_append _ _) with divided | complete
    · refine ⟨divided, ?_⟩
      rintro rfl
      exact short (List.prefix_refl _)
    · exact absurd complete short

end WireId

namespace Leaves

variable {text kept : String} {part : List UInt8}

/-- A cut between two characters leaves nothing. -/
theorem eq_nil (leaves : Leaves text kept part) (between : CutsBetween text)
    (keeps : (WireId.ofText text).text = kept) (noNul : '\x00' ∉ text.toList) : part = [] := by
  obtain ⟨start, cut⟩ := between
  have read : (WireId.ofText text).text = start := by
    rw [WireId.text, WireId.content_ofText noNul, ← cut, Utf8.longestText_encode]
  have bytes := leaves.bytes
  rw [← cut, ← read, keeps] at bytes
  exact List.self_eq_append_right.mp bytes

end Leaves

/-- Strategies that hear on one channel have the same identifier on the wire if the cut after
sixteen bytes divides no character of either, as it never does in a text that fits or has only
characters of seven bits. Whatever it divides, both identifiers begin with the bytes of the
channel's name, and they are the same exactly if the cuts have left the same part of a character
after these. -/
theorem wireIds_of_responseChannel? {left right : String} (leftNamed : left ≠ "")
    (rightNamed : right ≠ "") (leftNoNul : '\x00' ∉ left.toList)
    (rightNoNul : '\x00' ∉ right.toList)
    (shared : responseChannel? left = responseChannel? right) :
    (CutsBetween left -> CutsBetween right -> WireId.ofText left = WireId.ofText right) ∧
      (forall text : String, (Utf8.encode text).length <= 16 ∨
        (forall character, character ∈ text.toList -> character.toNat < 0x80) ->
          CutsBetween text) ∧
      exists channel leftPart rightPart, responseChannel? left = some channel ∧
        Utf8.encode channel <+: (WireId.ofText left).bytes ∧
        Utf8.encode channel <+: (WireId.ofText right).bytes ∧
        Leaves left channel leftPart ∧ Leaves right channel rightPart ∧
          (WireId.ofText left = WireId.ofText right ↔ leftPart = rightPart) := by
  have leftHears := responseChannel?_eq_some_iff.mpr ⟨leftNamed, WireId.keeps_ofText left⟩
  have rightHears := responseChannel?_eq_some_iff.mpr ⟨rightNamed, WireId.keeps_ofText right⟩
  have channel : (WireId.ofText left).text = (WireId.ofText right).text := by
    rw [leftHears, rightHears] at shared
    exact Option.some.inj shared
  obtain ⟨leftPart, leftLeaves⟩ := WireId.leaves_ofText leftNoNul
  obtain ⟨rightPart, rightLeaves⟩ := WireId.leaves_ofText rightNoNul
  have same : WireId.ofText left = WireId.ofText right ↔ leftPart = rightPart := by
    rw [WireId.ofText_eq_iff leftNoNul rightNoNul, leftLeaves.bytes, rightLeaves.bytes, channel]
    exact List.append_right_inj _
  refine ⟨?_, ?_, (WireId.ofText left).text, leftPart, rightPart, leftHears,
    (WireId.ofText left).text_begins, channel ▸ (WireId.ofText right).text_begins, leftLeaves,
    channel ▸ rightLeaves, same⟩
  · intro leftBetween rightBetween
    rw [same, leftLeaves.eq_nil leftBetween rfl leftNoNul,
      rightLeaves.eq_nil rightBetween rfl rightNoNul]
  · rintro text (fits | small)
    · exact .of_fits fits
    · exact .of_small small

/-- Two identifiers of which the wire cuts off what makes them differ. -/
theorem wireIds_of_responseChannel?_long :
    let left := "a-strategy-with-a-long-name"
    let right := "a-strategy-with-a-longer-name"
    left ≠ right ∧ responseChannel? left = responseChannel? right ∧
      WireId.ofText left = WireId.ofText right := by
  intro left right
  have shared : responseChannel? left = responseChannel? right := by decide +kernel
  obtain ⟨isolated, between, _⟩ := wireIds_of_responseChannel? (by decide) (by decide)
    (by decide +kernel) (by decide +kernel) shared
  have small {text : String} (all : text.toList.all (·.toNat < 0x80) = true) :
      forall character, character ∈ text.toList -> character.toNat < 0x80 := by
    simpa using all
  have leftBetween : CutsBetween left := between left (.inr (small (by decide +kernel)))
  have rightBetween : CutsBetween right := between right (.inr (small (by decide +kernel)))
  exact ⟨by decide, shared, isolated leftBetween rightBetween⟩

/-- The sixteenth byte of the first identifier is the first of two that make up a character. The
second one ends before it. They differ on the wire, and their strategies hear on one channel. -/
theorem responseChannel?_shared_by_divided :
    let left := "trendfolger-groß"
    let right := "trendfolger-gro"
    left ≠ "" ∧ right ≠ "" ∧ '\x00' ∉ left.toList ∧ '\x00' ∉ right.toList ∧
      responseChannel? left = responseChannel? right ∧
      WireId.ofText left ≠ WireId.ofText right := by
  decide +kernel

end StrategyHost
