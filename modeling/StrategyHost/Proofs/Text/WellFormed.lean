import StrategyHost.Proofs.Text.Utf8

/-!
# Well-formed UTF-8

Which bytes may stand one after the other in a text, said by ranges of bytes alone. The ranges
leave out the forms that are longer than their value needs, the surrogates, and the values beyond
the last code point, and nothing else that has the shape of a character. So the byte sequences
that are well formed are exactly those of texts.
-/

namespace StrategyHost.Text.Utf8

/-- The byte lies between two numbers, both included. -/
def Within (low high : Nat) (byte : UInt8) : Prop :=
  low <= byte.toNat ∧ byte.toNat <= high

/-- The byte sequences that stand for one character, by the least first byte of their kind. After
four of the first bytes the second byte has a narrower range than all bytes that continue. -/
inductive IsSequence : List UInt8 -> Prop where
  | from00 {first : UInt8} (lead : Within 0x00 0x7F first) : IsSequence [first]
  | fromC2 {first second : UInt8} (lead : Within 0xC2 0xDF first)
      (next : Within 0x80 0xBF second) : IsSequence [first, second]
  | fromE0 {first second third : UInt8} (lead : Within 0xE0 0xE0 first)
      (next : Within 0xA0 0xBF second) (last : Within 0x80 0xBF third) :
      IsSequence [first, second, third]
  | fromE1 {first second third : UInt8} (lead : Within 0xE1 0xEC first)
      (next : Within 0x80 0xBF second) (last : Within 0x80 0xBF third) :
      IsSequence [first, second, third]
  | fromED {first second third : UInt8} (lead : Within 0xED 0xED first)
      (next : Within 0x80 0x9F second) (last : Within 0x80 0xBF third) :
      IsSequence [first, second, third]
  | fromEE {first second third : UInt8} (lead : Within 0xEE 0xEF first)
      (next : Within 0x80 0xBF second) (last : Within 0x80 0xBF third) :
      IsSequence [first, second, third]
  | fromF0 {first second third fourth : UInt8} (lead : Within 0xF0 0xF0 first)
      (next : Within 0x90 0xBF second) (afterNext : Within 0x80 0xBF third)
      (last : Within 0x80 0xBF fourth) : IsSequence [first, second, third, fourth]
  | fromF1 {first second third fourth : UInt8} (lead : Within 0xF1 0xF3 first)
      (next : Within 0x80 0xBF second) (afterNext : Within 0x80 0xBF third)
      (last : Within 0x80 0xBF fourth) : IsSequence [first, second, third, fourth]
  | fromF4 {first second third fourth : UInt8} (lead : Within 0xF4 0xF4 first)
      (next : Within 0x80 0x8F second) (afterNext : Within 0x80 0xBF third)
      (last : Within 0x80 0xBF fourth) : IsSequence [first, second, third, fourth]

/-- The byte sequences that stand for characters one after the other. -/
inductive WellFormed : List UInt8 -> Prop where
  | nil : WellFormed []
  | cons {first rest : List UInt8} (sequence : IsSequence first) (others : WellFormed rest) :
      WellFormed (first ++ rest)

/-- What has the shape of a character: a first byte that tells how many bytes there are, others
that continue it, and the value that their payload bits make up. -/
inductive Shaped (value : Nat) : List UInt8 -> Prop where
  | one {first : UInt8} (lead : Within 0x00 0x7F first) (made : value = first.toNat) :
      Shaped value [first]
  | two {first second : UInt8} (lead : Within 0xC0 0xDF first) (next : Within 0x80 0xBF second)
      (made : value = first.toNat % 0x20 * 0x40 + payload second) : Shaped value [first, second]
  | three {first second third : UInt8} (lead : Within 0xE0 0xEF first)
      (next : Within 0x80 0xBF second) (last : Within 0x80 0xBF third)
      (made : value = first.toNat % 0x10 * 0x1000 + payload second * 0x40 + payload third) :
      Shaped value [first, second, third]
  | four {first second third fourth : UInt8} (lead : Within 0xF0 0xF7 first)
      (next : Within 0x80 0xBF second) (afterNext : Within 0x80 0xBF third)
      (last : Within 0x80 0xBF fourth)
      (made : value = first.toNat % 8 * 0x40000 + payload second * 0x1000 + payload third * 0x40
        + payload fourth) :
      Shaped value [first, second, third, fourth]

/-- The least value that needs so many bytes. -/
def leastValue : Nat -> Nat
  | 2 => 0x80
  | 3 => 0x800
  | 4 => 0x10000
  | _ => 0

theorem isContinuation_iff_within {byte : UInt8} :
    isContinuation byte = true ↔ Within 0x80 0xBF byte := by
  rw [isContinuation_iff, Within]
  omega

/-- Of all that has the shape of a character, the overlong forms, the surrogates and the values
beyond the last code point stand for none. -/
theorem Shaped.isSequence_iff {value : Nat} {bytes : List UInt8} (shaped : Shaped value bytes) :
    IsSequence bytes ↔ leastValue bytes.length <= value ∧
      ¬(0xD800 <= value ∧ value <= 0xDFFF) ∧ value <= 0x10FFFF := by
  cases shaped with
  | one lead made =>
    simp only [Within, leastValue, List.length_singleton] at lead ⊢
    constructor
    · intro _
      omega
    · intro _
      exact .from00 lead
  | two lead next made =>
    simp only [payload, List.length_cons, List.length_nil, leastValue] at made ⊢
    constructor
    · rintro (_ | ⟨lead, _⟩)
      simp only [Within] at lead next
      omega
    · rintro ⟨long, _⟩
      refine .fromC2 ?_ next
      simp only [Within] at lead next ⊢
      omega
  | @three first second third lead next last made =>
    simp only [payload, List.length_cons, List.length_nil, leastValue] at made ⊢
    constructor
    · intro sequence
      cases sequence with
      | fromE0 lead next | fromE1 lead next | fromED lead next | fromEE lead next =>
        simp only [Within] at lead next last
        omega
    · rintro ⟨long, ordinary, _⟩
      simp only [Within] at lead next last
      -- Only after the first byte of the shortest forms and of the surrogates the second decides.
      rcases Nat.lt_trichotomy first.toNat 0xED with below | same | above
      · by_cases shortest : first.toNat = 0xE0
        · exact .fromE0 ⟨by omega, by omega⟩ ⟨by omega, by omega⟩ last
        · exact .fromE1 ⟨by omega, by omega⟩ next last
      · exact .fromED ⟨by omega, by omega⟩ ⟨by omega, by omega⟩ last
      · exact .fromEE ⟨by omega, by omega⟩ next last
  | @four first second third fourth lead next afterNext last made =>
    simp only [payload, List.length_cons, List.length_nil, leastValue] at made ⊢
    constructor
    · intro sequence
      cases sequence with
      | fromF0 lead next | fromF1 lead next | fromF4 lead next =>
        simp only [Within] at lead next afterNext last
        omega
    · rintro ⟨long, _, bounded⟩
      simp only [Within] at lead next afterNext last
      rcases Nat.lt_trichotomy first.toNat 0xF4 with below | same | above
      · by_cases shortest : first.toNat = 0xF0
        · exact .fromF0 ⟨by omega, by omega⟩ ⟨by omega, by omega⟩ afterNext last
        · exact .fromF1 ⟨by omega, by omega⟩ next afterNext last
      · exact .fromF4 ⟨by omega, by omega⟩ ⟨by omega, by omega⟩ afterNext last
      · omega

theorem IsSequence.exists_shaped {bytes : List UInt8} (sequence : IsSequence bytes) :
    exists value, Shaped value bytes := by
  cases sequence with
  | from00 lead => exact ⟨_, .one lead rfl⟩
  | fromC2 lead next =>
    simp only [Within] at lead
    exact ⟨_, .two ⟨by omega, by omega⟩ next rfl⟩
  | fromE0 lead next last | fromE1 lead next last | fromED lead next last
  | fromEE lead next last =>
    simp only [Within] at lead next
    exact ⟨_, .three ⟨by omega, by omega⟩ ⟨by omega, by omega⟩ last rfl⟩
  | fromF0 lead next afterNext last | fromF1 lead next afterNext last
  | fromF4 lead next afterNext last =>
    simp only [Within] at lead next
    exact ⟨_, .four ⟨by omega, by omega⟩ ⟨by omega, by omega⟩ afterNext last rfl⟩

/-- The sequences that stand for one character are those of its shape that are not overlong and
make up neither a surrogate nor a value beyond the last code point. -/
theorem isSequence_iff_exists_shaped {bytes : List UInt8} :
    IsSequence bytes ↔ exists value, Shaped value bytes ∧ leastValue bytes.length <= value ∧
      ¬(0xD800 <= value ∧ value <= 0xDFFF) ∧ value <= 0x10FFFF := by
  constructor
  · intro sequence
    obtain ⟨value, shaped⟩ := sequence.exists_shaped
    exact ⟨value, shaped, shaped.isSequence_iff.mp sequence⟩
  · rintro ⟨value, shaped, ordinary⟩
    exact shaped.isSequence_iff.mpr ordinary

/-- The bytes of a character have its shape and are as few as its number needs. -/
theorem encodes_iff_shaped {character : Char} {bytes : List UInt8} :
    Encodes character bytes ↔
      Shaped character.toNat bytes ∧ leastValue bytes.length <= character.toNat := by
  constructor
  · intro encodes
    cases encodes with
    | one small code => exact ⟨.one ⟨Nat.zero_le _, Nat.le_of_lt_succ small⟩ code, Nat.zero_le _⟩
    | two lead continues long code =>
      rw [isContinuation_iff_within] at continues
      exact ⟨.two ⟨lead.1, Nat.le_of_lt_succ lead.2⟩ continues code, long⟩
    | three lead continues long code =>
      simp only [isContinuation_iff_within] at continues
      exact ⟨.three ⟨lead.1, Nat.le_of_lt_succ lead.2⟩ continues.1 continues.2 code, long⟩
    | four lead continues long code =>
      simp only [isContinuation_iff_within] at continues
      exact ⟨.four ⟨lead.1, Nat.le_of_lt_succ lead.2⟩ continues.1 continues.2.1 continues.2.2 code,
        long⟩
  · rintro ⟨shaped, long⟩
    cases shaped with
    | one lead made => exact .one (Nat.lt_succ_of_le lead.2) made
    | two lead next made =>
      exact .two ⟨lead.1, Nat.lt_succ_of_le lead.2⟩ (isContinuation_iff_within.mpr next) long made
    | three lead next last made =>
      refine .three ⟨lead.1, Nat.lt_succ_of_le lead.2⟩ ?_ long made
      exact ⟨isContinuation_iff_within.mpr next, isContinuation_iff_within.mpr last⟩
    | four lead next afterNext last made =>
      refine .four ⟨lead.1, Nat.lt_succ_of_le lead.2⟩ ?_ long made
      exact ⟨isContinuation_iff_within.mpr next, isContinuation_iff_within.mpr afterNext,
        isContinuation_iff_within.mpr last⟩

/-- A number that is neither a surrogate nor beyond the last code point is a character's. -/
theorem exists_toNat_eq_iff {value : Nat} : (exists character : Char, character.toNat = value) ↔
    ¬(0xD800 <= value ∧ value <= 0xDFFF) ∧ value <= 0x10FFFF := by
  constructor
  · rintro ⟨character, rfl⟩
    have valid := character.valid
    simp only [UInt32.isValidChar, Nat.isValidChar, Char.toNat_val] at valid
    omega
  · intro ordinary
    have valid : value.isValidChar := by
      unfold Nat.isValidChar
      omega
    exact ⟨Char.ofNatAux value valid, rfl⟩

/-- The sequences that stand for one character are the bytes of characters. -/
theorem isSequence_iff {bytes : List UInt8} :
    IsSequence bytes ↔ exists character, String.utf8EncodeChar character = bytes := by
  constructor
  · intro sequence
    obtain ⟨value, shaped, long, ordinary⟩ := isSequence_iff_exists_shaped.mp sequence
    obtain ⟨character, rfl⟩ := exists_toNat_eq_iff.mpr ordinary
    exact ⟨character, (eq_utf8EncodeChar_of_encodes (encodes_iff_shaped.mpr ⟨shaped, long⟩)).symm⟩
  · rintro ⟨character, rfl⟩
    obtain ⟨shaped, long⟩ := encodes_iff_shaped.mp (encodes_utf8EncodeChar character)
    have ordinary := exists_toNat_eq_iff.mp ⟨character, rfl⟩
    exact isSequence_iff_exists_shaped.mpr ⟨character.toNat, shaped, long, ordinary⟩

/-- The well-formed byte sequences are the bytes of texts. -/
theorem wellFormed_iff {bytes : List UInt8} :
    WellFormed bytes ↔ exists text, encode text = bytes := by
  constructor
  · intro wellFormed
    induction wellFormed with
    | nil => exact ⟨"", rfl⟩
    | cons sequence _ inductionHypothesis =>
      obtain ⟨character, rfl⟩ := isSequence_iff.mp sequence
      obtain ⟨text, rfl⟩ := inductionHypothesis
      exact ⟨String.ofList (character :: text.toList), by simp [encode]⟩
  · rintro ⟨text, rfl⟩
    rw [encode]
    induction text.toList with
    | nil => exact .nil
    | cons character characters inductionHypothesis =>
      rw [List.flatMap_cons]
      exact .cons (isSequence_iff.mpr ⟨character, rfl⟩) inductionHypothesis

/-- The well-formed bytes at the front beyond which no other such bytes go. -/
structure IsLongestWellFormed (bytes start : List UInt8) : Prop where
  begins : start <+: bytes
  wellFormed : WellFormed start
  longest : forall other, other <+: bytes -> WellFormed other -> other <+: start

/-- The longest text at the front has the longest well-formed bytes there. -/
theorem isLongestWellFormed_longestText (bytes : List UInt8) :
    IsLongestWellFormed bytes (encode (longestText bytes)) where
  begins := prefix_longestText_iff.mp (List.prefix_refl _)
  wellFormed := wellFormed_iff.mpr ⟨longestText bytes, rfl⟩
  longest := by
    intro other begins wellFormed
    obtain ⟨text, rfl⟩ := wellFormed_iff.mp wellFormed
    exact encode_prefix_iff.mpr (prefix_longestText_iff.mpr begins)

end StrategyHost.Text.Utf8
