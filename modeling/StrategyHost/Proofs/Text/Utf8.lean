import StrategyHost.Text.Utf8

/-!
# UTF-8 read back

`takeChar?` takes a character off a byte sequence exactly when the sequence begins
with the character's bytes, so `decode?` accepts exactly the byte sequences that
encode a text, and gives that text. Of any other bytes `longestText` reads as much as
there is of a text.
-/

namespace StrategyHost.Text.Utf8

/-- A code point is a character's if it is not too small and the character's own. -/
theorem scalar?_eq_some_iff {least code : Nat} {character : Char} :
    scalar? least code = some character ↔ least <= code ∧ character.toNat = code := by
  unfold scalar?
  by_cases fits : least <= code
  · rw [if_pos fits]
    by_cases valid : code.isValidChar
    · rw [dif_pos valid]
      constructor
      · intro read
        obtain rfl := Option.some.inj read
        exact ⟨fits, rfl⟩
      · rintro ⟨_, rfl⟩
        rfl
    · rw [dif_neg valid]
      constructor
      · intro read
        cases read
      · rintro ⟨_, rfl⟩
        exact absurd character.valid valid
  · rw [if_neg fits]
    constructor
    · intro read
      cases read
    · rintro ⟨high, _⟩
      exact absurd high fits

/-- A byte of a natural number below 256 has this number. -/
theorem toNat_ofNat_of_lt {value : Nat} (small : value < 256) :
    (UInt8.ofNat value).toNat = value := by
  rw [UInt8.toNat_ofNat']
  exact Nat.mod_eq_of_lt small

theorem isContinuation_iff {byte : UInt8} :
    isContinuation byte = true ↔ 0x80 <= byte.toNat ∧ byte.toNat < 0xC0 := by
  simp [isContinuation, UInt8.le_iff_toNat_le, UInt8.lt_iff_toNat_lt]

/-- How many bytes a character has, and which they are. -/
inductive Encodes (character : Char) : List UInt8 -> Prop where
  | one {first : UInt8} (small : first.toNat < 0x80) (code : character.toNat = first.toNat) :
      Encodes character [first]
  | two {first second : UInt8} (lead : 0xC0 <= first.toNat ∧ first.toNat < 0xE0)
      (continues : isContinuation second = true) (long : 0x80 <= character.toNat)
      (code : character.toNat = first.toNat % 0x20 * 0x40 + payload second) :
      Encodes character [first, second]
  | three {first second third : UInt8} (lead : 0xE0 <= first.toNat ∧ first.toNat < 0xF0)
      (continues : isContinuation second = true ∧ isContinuation third = true)
      (long : 0x800 <= character.toNat)
      (code : character.toNat =
        first.toNat % 0x10 * 0x1000 + payload second * 0x40 + payload third) :
      Encodes character [first, second, third]
  | four {first second third fourth : UInt8} (lead : 0xF0 <= first.toNat ∧ first.toNat < 0xF8)
      (continues : isContinuation second = true ∧ isContinuation third = true ∧
        isContinuation fourth = true)
      (long : 0x10000 <= character.toNat)
      (code : character.toNat = first.toNat % 8 * 0x40000 + payload second * 0x1000
        + payload third * 0x40 + payload fourth) :
      Encodes character [first, second, third, fourth]

/-- Bytes that encode a character are taken for it. -/
theorem takeChar?_of_encodes {character : Char} {first : List UInt8}
    (encodes : Encodes character first) (rest : List UInt8) :
    takeChar? (first ++ rest) = some (character, rest) := by
  cases encodes with
  | @one first small code =>
    have read := scalar?_eq_some_iff.mpr ⟨Nat.zero_le _, code⟩
    have isShort : first < 0x80 := UInt8.lt_iff_toNat_lt.mpr small
    simp only [List.cons_append, List.nil_append, takeChar?]
    rw [if_pos isShort, read]
    rfl
  | @two first second lead continues long code =>
    have read := scalar?_eq_some_iff.mpr ⟨code ▸ long, code⟩
    simp only [List.cons_append, List.nil_append, takeChar?, UInt8.lt_iff_toNat_lt,
      UInt8.le_iff_toNat_le, UInt8.reduceToNat]
    rw [if_neg (by omega), if_pos (by simpa using lead), if_pos continues, read]
    rfl
  | @three first second third lead continues long code =>
    have read := scalar?_eq_some_iff.mpr ⟨code ▸ long, code⟩
    simp only [List.cons_append, List.nil_append, takeChar?, UInt8.lt_iff_toNat_lt,
      UInt8.le_iff_toNat_le, UInt8.reduceToNat]
    rw [if_neg (by omega), if_neg (by simp; omega), if_pos (by simpa using lead),
      if_pos (by simpa using continues), read]
    rfl
  | @four first second third fourth lead continues long code =>
    have read := scalar?_eq_some_iff.mpr ⟨code ▸ long, code⟩
    simp only [List.cons_append, List.nil_append, takeChar?, UInt8.lt_iff_toNat_lt,
      UInt8.le_iff_toNat_le, UInt8.reduceToNat]
    rw [if_neg (by omega), if_neg (by simp; omega), if_neg (by simp; omega),
      if_pos (by simpa using lead), if_pos (by simpa [and_assoc] using continues), read]
    rfl

/-- What is left of a byte sequence is what was read, and the character's code point. -/
theorem scalar?_map_eq_some {least code : Nat} {character : Char} {after rest : List UInt8}
    (read : (scalar? least code).map (·, after) = some (character, rest)) :
    after = rest ∧ least <= character.toNat ∧ character.toNat = code := by
  obtain ⟨_, found, same⟩ := Option.map_eq_some_iff.mp read
  obtain ⟨rfl, rfl⟩ := Prod.mk.inj same
  obtain ⟨fits, own⟩ := scalar?_eq_some_iff.mp found
  exact ⟨rfl, own ▸ fits, own⟩

theorem between_iff {low high byte : UInt8} :
    (low <= byte && byte < high) = true ↔ low.toNat <= byte.toNat ∧ byte.toNat < high.toNat := by
  simp [UInt8.le_iff_toNat_le, UInt8.lt_iff_toNat_lt]

/-- A character is only taken from bytes that encode it. -/
theorem encodes_of_takeChar? {bytes rest : List UInt8} {character : Char}
    (taken : takeChar? bytes = some (character, rest)) :
    exists first, Encodes character first ∧ bytes = first ++ rest := by
  unfold takeChar? at taken
  split at taken
  · simp at taken
  · rename_i first others
    split at taken
    · rename_i small
      obtain ⟨rfl, _, code⟩ := scalar?_map_eq_some taken
      exact ⟨[first], .one (UInt8.lt_iff_toNat_lt.mp small) code, rfl⟩
    · split at taken
      · rename_i lead
        split at taken
        · rename_i second others
          split at taken
          · rename_i continues
            obtain ⟨rfl, long, code⟩ := scalar?_map_eq_some taken
            exact ⟨[first, second], .two (between_iff.mp lead) continues long code, rfl⟩
          · simp at taken
        · simp at taken
      · split at taken
        · rename_i lead
          split at taken
          · rename_i second third others
            split at taken
            · rename_i continues
              obtain ⟨rfl, long, code⟩ := scalar?_map_eq_some taken
              exact ⟨[first, second, third],
                .three (between_iff.mp lead) (by simpa using continues) long code, rfl⟩
            · simp at taken
          · simp at taken
        · split at taken
          · rename_i lead
            split at taken
            · rename_i second third fourth others
              split at taken
              · rename_i continues
                obtain ⟨rfl, long, code⟩ := scalar?_map_eq_some taken
                exact ⟨[first, second, third, fourth],
                  .four (between_iff.mp lead) (by simpa [and_assoc] using continues) long code,
                  rfl⟩
              · simp at taken
            · simp at taken
          · simp at taken

/-- A byte is the one with its own number. -/
theorem ofNat_of_toNat {byte : UInt8} {value : Nat} (same : value = byte.toNat) :
    UInt8.ofNat value = byte := by
  rw [same, UInt8.ofNat_toNat]

theorem toNat_lt (character : Char) : character.toNat < 0x110000 := by
  have valid := character.valid
  simp only [UInt32.isValidChar, Nat.isValidChar, Char.toNat_val] at valid
  omega

/-- Bytes that encode a character are the standard ones. -/
theorem eq_utf8EncodeChar_of_encodes {character : Char} {bytes : List UInt8}
    (encodes : Encodes character bytes) : bytes = String.utf8EncodeChar character := by
  have bounded := toNat_lt character
  unfold String.utf8EncodeChar
  simp only [Char.toNat_val]
  cases encodes with
  | @one first small code =>
    have firstByte : UInt8.ofNat character.toNat = first := ofNat_of_toNat code
    rw [if_pos (by omega), firstByte]
  | @two first second lead continues long code =>
    simp only [isContinuation_iff] at continues
    unfold payload at code
    have firstByte : UInt8.ofNat (character.toNat / 64 % 0x20 + 0xc0) = first :=
      ofNat_of_toNat (by omega)
    have secondByte : UInt8.ofNat (character.toNat % 0x40 + 0x80) = second :=
      ofNat_of_toNat (by omega)
    rw [if_neg (by omega), if_pos (by omega), firstByte, secondByte]
  | @three first second third lead continues long code =>
    simp only [isContinuation_iff] at continues
    unfold payload at code
    have firstByte : UInt8.ofNat (character.toNat / 4096 % 0x10 + 0xe0) = first :=
      ofNat_of_toNat (by omega)
    have secondByte : UInt8.ofNat (character.toNat / 64 % 0x40 + 0x80) = second :=
      ofNat_of_toNat (by omega)
    have thirdByte : UInt8.ofNat (character.toNat % 0x40 + 0x80) = third :=
      ofNat_of_toNat (by omega)
    rw [if_neg (by omega), if_neg (by omega), if_pos (by omega), firstByte, secondByte, thirdByte]
  | @four first second third fourth lead continues long code =>
    simp only [isContinuation_iff] at continues
    unfold payload at code
    have firstByte : UInt8.ofNat (character.toNat / 262144 % 0x08 + 0xf0) = first :=
      ofNat_of_toNat (by omega)
    have secondByte : UInt8.ofNat (character.toNat / 4096 % 0x40 + 0x80) = second :=
      ofNat_of_toNat (by omega)
    have thirdByte : UInt8.ofNat (character.toNat / 64 % 0x40 + 0x80) = third :=
      ofNat_of_toNat (by omega)
    have fourthByte : UInt8.ofNat (character.toNat % 0x40 + 0x80) = fourth :=
      ofNat_of_toNat (by omega)
    rw [if_neg (by omega), if_neg (by omega), if_neg (by omega), firstByte, secondByte, thirdByte,
      fourthByte]

/-- The standard bytes of a character encode it. -/
theorem encodes_utf8EncodeChar (character : Char) :
    Encodes character (String.utf8EncodeChar character) := by
  have bounded := toNat_lt character
  unfold String.utf8EncodeChar
  simp only [Char.toNat_val]
  split
  · refine .one ?_ ?_
    · rw [toNat_ofNat_of_lt (by omega)]
      omega
    · rw [toNat_ofNat_of_lt (by omega)]
  · split
    · refine .two ?_ ?_ (by omega) ?_
      all_goals
        simp (disch := omega) only [isContinuation_iff, payload, toNat_ofNat_of_lt]
        omega
    · split
      · refine .three ?_ ?_ (by omega) ?_
        all_goals
          simp (disch := omega) only [isContinuation_iff, payload, toNat_ofNat_of_lt]
          omega
      · refine .four ?_ ?_ (by omega) ?_
        all_goals
          simp (disch := omega) only [isContinuation_iff, payload, toNat_ofNat_of_lt]
          omega

/-- A character is taken exactly where its bytes stand at the front. -/
theorem takeChar?_eq_some_iff {bytes rest : List UInt8} {character : Char} :
    takeChar? bytes = some (character, rest) ↔
      bytes = String.utf8EncodeChar character ++ rest := by
  constructor
  · intro taken
    obtain ⟨first, encodes, rfl⟩ := encodes_of_takeChar? taken
    rw [eq_utf8EncodeChar_of_encodes encodes]
  · rintro rfl
    exact takeChar?_of_encodes (encodes_utf8EncodeChar character) rest

/-- The well-formed start of a text's bytes with more after them goes at least as far. -/
theorem decodeStart_append (characters : List Char) (rest : List UInt8) :
    decodeStart (characters.flatMap String.utf8EncodeChar ++ rest) =
      (characters ++ (decodeStart rest).1, (decodeStart rest).2) := by
  induction characters with
  | nil => rfl
  | cons character characters inductionHypothesis =>
    have taken : takeChar? ((character :: characters).flatMap String.utf8EncodeChar ++ rest) =
        some (character, characters.flatMap String.utf8EncodeChar ++ rest) := by
      rw [takeChar?_eq_some_iff, List.flatMap_cons, List.append_assoc]
    rw [decodeStart]
    split
    · simp_all
    · rename_i other after found
      obtain ⟨rfl, rfl⟩ : other = character ∧
          after = characters.flatMap String.utf8EncodeChar ++ rest := by simp_all
      rw [inductionHypothesis]
      rfl

/-- The characters of a well-formed start and what is left make up the bytes. -/
theorem append_of_decodeStart (bytes : List UInt8) :
    (decodeStart bytes).1.flatMap String.utf8EncodeChar ++ (decodeStart bytes).2 = bytes := by
  fun_induction decodeStart bytes with
  | case1 => rfl
  | case2 bytes character rest taken characters remaining after inductionHypothesis =>
    rw [after] at inductionHypothesis
    rw [List.flatMap_cons, List.append_assoc, inductionHypothesis, takeChar?_eq_some_iff.mp taken]

@[simp] theorem decodeStart_nil : decodeStart [] = ([], []) := by
  rw [decodeStart]
  split
  · rfl
  · simp_all [takeChar?]

/-- The bytes of a text are well formed throughout. -/
theorem decodeStart_encode (text : String) : decodeStart (encode text) = (text.toList, []) := by
  have start := decodeStart_append text.toList []
  rwa [decodeStart_nil, List.append_nil, List.append_nil] at start

/-- Exactly the bytes of a text are read as this text. -/
theorem decode?_eq_some_iff {bytes : List UInt8} {text : String} :
    decode? bytes = some text ↔ encode text = bytes := by
  constructor
  · intro read
    have whole := append_of_decodeStart bytes
    unfold decode? at read
    split at read
    · rename_i characters start
      obtain rfl := Option.some.inj read
      rw [start] at whole
      simpa [encode] using whole
    · simp at read
  · rintro rfl
    simp [decode?, decodeStart_encode]

/-- A byte sequence that cannot be read encodes no text. -/
theorem decode?_eq_none_iff {bytes : List UInt8} :
    decode? bytes = none ↔ ¬exists text, encode text = bytes := by
  rw [Option.eq_none_iff_forall_ne_some]
  simp [decode?_eq_some_iff]

theorem longestText_encode (text : String) : longestText (encode text) = text := by
  rw [longestText, decodeStart_encode, String.ofList_toList]

/-- The longest text at the front begins with a text exactly if the bytes begin with the bytes
of this text. So no text at the front goes further. -/
theorem prefix_longestText_iff {text : String} {bytes : List UInt8} :
    text.toList <+: (longestText bytes).toList ↔ encode text <+: bytes := by
  rw [longestText, String.toList_ofList]
  constructor
  · rintro ⟨more, start⟩
    have whole := append_of_decodeStart bytes
    rw [← start, List.flatMap_append, List.append_assoc] at whole
    exact ⟨_, whole⟩
  · rintro ⟨rest, rfl⟩
    rw [encode, decodeStart_append]
    exact List.prefix_append text.toList _

/-- What follows the longest text does not begin with all bytes of a character, with which more
could be read. -/
theorem not_prefix_of_longestText_append {bytes part : List UInt8} {character : Char}
    (whole : encode (longestText bytes) ++ part = bytes) :
    ¬String.utf8EncodeChar character <+: part := by
  rintro ⟨others, rfl⟩
  let longer := String.ofList ((longestText bytes).toList ++ [character])
  have begins : encode longer <+: bytes := by
    refine ⟨others, Eq.trans ?_ whole⟩
    simp [longer, encode]
  have lengths := (prefix_longestText_iff.mpr begins).length_le
  simp only [longer, String.toList_ofList, List.length_append, List.length_singleton] at lengths
  omega

/-- A text begins with another exactly if its bytes begin with the other's. -/
theorem encode_prefix_iff {text whole : String} :
    encode text <+: encode whole ↔ text.toList <+: whole.toList := by
  rw [← prefix_longestText_iff, longestText_encode]

/-- A byte of seven bits is only among the bytes of the character with its number. -/
theorem mem_utf8EncodeChar_iff {byte : UInt8} (small : byte.toNat < 0x80) {character : Char} :
    byte ∈ String.utf8EncodeChar character ↔ character.toNat = byte.toNat := by
  have encodes := encodes_utf8EncodeChar character
  generalize String.utf8EncodeChar character = bytes at encodes
  cases encodes with
  | one _ code => rw [List.mem_singleton, code, ← UInt8.toNat_inj, eq_comm]
  | two lead continues | three lead continues | four lead continues =>
    simp only [isContinuation_iff] at continues
    simp only [List.mem_cons, List.not_mem_nil, or_false, ← UInt8.toNat_inj]
    omega

/-- A byte of seven bits is among the bytes of a text if the character is in the text. -/
theorem mem_encode_iff {character : Char} (small : character.toNat < 0x80) {text : String} :
    UInt8.ofNat character.toNat ∈ encode text ↔ character ∈ text.toList := by
  have number := toNat_ofNat_of_lt (Nat.lt_trans small (by decide))
  simp only [encode, List.mem_flatMap, mem_utf8EncodeChar_iff (number ▸ small), number,
    Char.toNat_inj]
  simp

/-- Only the character NUL has a zero among its bytes. -/
theorem zero_mem_encode_iff {text : String} : 0 ∈ encode text ↔ '\x00' ∈ text.toList := by
  have small : '\x00'.toNat < 0x80 := by decide
  exact mem_encode_iff small

theorem encode_append (text more : String) : encode (text ++ more) = encode text ++ encode more := by
  simp [encode]

theorem length_encode (text : String) : (encode text).length = text.utf8ByteSize := by
  have bytes : text.toByteArray = text.toList.utf8Encode := by
    rw [← String.toByteArray_ofList, String.ofList_toList]
  rw [String.utf8ByteSize, bytes, List.utf8Encode, List.size_toByteArray]
  rfl

/-- A character of seven bits is one byte. -/
theorem utf8EncodeChar_of_small {character : Char} (small : character.toNat < 0x80) :
    String.utf8EncodeChar character = [UInt8.ofNat character.toNat] := by
  have encodes := encodes_utf8EncodeChar character
  generalize String.utf8EncodeChar character = bytes at encodes
  cases encodes with
  | one _ code => rw [code, UInt8.ofNat_toNat]
  | two _ _ long | three _ _ long | four _ _ long => omega

/-- Each character of a text of seven bits is one byte. -/
theorem encode_of_small {text : String}
    (small : ∀ character ∈ text.toList, character.toNat < 0x80) :
    encode text = text.toList.map fun character => UInt8.ofNat character.toNat := by
  have single : ∀ character ∈ text.toList,
      String.utf8EncodeChar character = [UInt8.ofNat character.toNat] :=
    fun character member => utf8EncodeChar_of_small (small character member)
  rw [encode, List.map_eq_flatMap, List.flatMap_def, List.flatMap_def, List.map_congr_left single]

/-- Bytes with a byte of seven bits behind them encode a text only if they do so without it. -/
theorem exists_of_encode_concat {text : String} {bytes : List UInt8} {character : Char}
    (small : character.toNat < 0x80)
    (same : encode text = bytes ++ [UInt8.ofNat character.toNat]) :
    ∃ shorter, encode shorter = bytes ∧ text.toList = shorter.toList ++ [character] := by
  obtain nothing | ⟨before, last, whole⟩ := List.eq_nil_or_concat text.toList
  · simp [encode, nothing] at same
  · rw [List.concat_eq_append] at whole
    have parts : before.flatMap String.utf8EncodeChar ++ String.utf8EncodeChar last =
        bytes ++ [UInt8.ofNat character.toNat] := by
      simpa [encode, whole] using same
    -- The last byte is one of the last character, which therefore is this byte alone.
    obtain rfl : last = character := by
      have number := toNat_ofNat_of_lt (Nat.lt_trans small (by decide : 0x80 < 256))
      have isSmall : (UInt8.ofNat character.toNat).toNat < 0x80 := number.symm ▸ small
      have ends := congrArg List.getLast? parts
      rw [List.getLast?_append, List.getLast?_eq_some_getLast String.utf8EncodeChar_ne_nil,
        Option.some_or, List.getLast?_concat] at ends
      have member := Option.some.inj ends ▸ List.getLast_mem String.utf8EncodeChar_ne_nil
      exact Char.toNat_inj.mp (((mem_utf8EncodeChar_iff isSmall).mp member).trans number)
    rw [utf8EncodeChar_of_small small] at parts
    refine ⟨String.ofList before, ?_, by simpa using whole⟩
    simpa [encode] using List.append_cancel_right parts

end StrategyHost.Text.Utf8
