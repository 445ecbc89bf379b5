/-!
# UTF-8

Encoding text as bytes and reading it back. `takeChar?` accepts exactly the
well-formed sequences: no overlong form, no surrogate, nothing above `U+10FFFF`.
-/

namespace StrategyHost.Text.Utf8

/-- The bytes of a text. -/
def encode (text : String) : List UInt8 :=
  text.toList.flatMap String.utf8EncodeChar

/-- The number of bytes of characters. -/
def size (characters : List Char) : Nat :=
  characters.foldr (fun character size => character.utf8Size + size) 0

/-- The characters up to a place, and those from it on. A place is the number of bytes
before it; within a character there is none. -/
def splitAt? (place : Nat) (characters : List Char) : Option (List Char × List Char) :=
  if place = 0 then some ([], characters)
  else
    match characters with
    | [] => none
    | character :: rest =>
      if character.utf8Size <= place then
        (splitAt? (place - character.utf8Size) rest).map fun (before, after) =>
          (character :: before, after)
      else none

/-- Characters are divided at the place after the first of two parts. -/
theorem splitAt?_size_append (before after : List Char) :
    splitAt? (size before) (before ++ after) = some (before, after) := by
  induction before with
  | nil => cases after <;> rfl
  | cons character before inductionHypothesis =>
    have positive := character.utf8Size_pos
    have sized : size (character :: before) = character.utf8Size + size before := by simp [size]
    rw [List.cons_append, splitAt?, if_neg (by omega), if_pos (by omega), sized,
      Nat.add_sub_cancel_left, inductionHypothesis]
    rfl

/-- Nothing is lost where characters are divided. -/
theorem append_of_splitAt? {place : Nat} {characters before after : List Char}
    (divided : splitAt? place characters = some (before, after)) :
    before ++ after = characters := by
  fun_induction splitAt? place characters generalizing before with
  | case1 => grind
  | case2 => simp at divided
  | case3 place _ character rest _ inductionHypothesis =>
    simp only [Option.map_eq_some_iff, Prod.exists, Prod.mk.injEq] at divided
    obtain ⟨_, _, found, rfl, rfl⟩ := divided
    rw [List.cons_append, inductionHypothesis found]
  | case4 => simp at divided

/-- Whether a byte continues a character. -/
def isContinuation (byte : UInt8) : Bool :=
  0x80 <= byte && byte < 0xC0

/-- The six payload bits of a continuation byte. -/
def payload (byte : UInt8) : Nat :=
  byte.toNat % 0x40

/-- The character with this code point, unless the code point is below `least`
(an overlong form), a surrogate, or beyond the last one. -/
def scalar? (least code : Nat) : Option Char :=
  if least <= code then
    if valid : code.isValidChar then some (Char.ofNatAux code valid) else none
  else none

/-- The first character of a byte sequence and the bytes after it. -/
def takeChar? : List UInt8 -> Option (Char × List UInt8)
  | [] => none
  | first :: rest =>
    if first < 0x80 then
      (scalar? 0 first.toNat).map (·, rest)
    else if 0xC0 <= first && first < 0xE0 then
      match rest with
      | second :: rest =>
        if isContinuation second then
          (scalar? 0x80 (first.toNat % 0x20 * 0x40 + payload second)).map (·, rest)
        else none
      | [] => none
    else if 0xE0 <= first && first < 0xF0 then
      match rest with
      | second :: third :: rest =>
        if isContinuation second && isContinuation third then
          (scalar? 0x800
            (first.toNat % 0x10 * 0x1000 + payload second * 0x40 + payload third)).map (·, rest)
        else none
      | _ => none
    else if 0xF0 <= first && first < 0xF8 then
      match rest with
      | second :: third :: fourth :: rest =>
        if isContinuation second && isContinuation third && isContinuation fourth then
          (scalar? 0x10000
            (first.toNat % 8 * 0x40000 + payload second * 0x1000 + payload third * 0x40
              + payload fourth)).map (·, rest)
        else none
      | _ => none
    else none

/-- A character takes at least one byte. -/
theorem takeChar?_length {bytes rest : List UInt8} {character : Char}
    (taken : takeChar? bytes = some (character, rest)) : rest.length < bytes.length := by
  unfold takeChar? at taken
  split at taken
  · simp at taken
  · repeat' split at taken
    all_goals
      simp only [Option.map_eq_some_iff, Prod.mk.injEq, reduceCtorEq] at taken
    all_goals
      obtain ⟨_, _, _, rfl⟩ := taken
      simp only [List.length_cons]
      omega

/-- The characters of the longest well-formed start, and the bytes after it. -/
def decodeStart (bytes : List UInt8) : List Char × List UInt8 :=
  match _ : takeChar? bytes with
  | none => ([], bytes)
  | some (character, rest) =>
    let (characters, remaining) := decodeStart rest
    (character :: characters, remaining)
termination_by bytes.length
decreasing_by exact takeChar?_length ‹_›

/-- The text of the longest well-formed start. -/
def longestText (bytes : List UInt8) : String :=
  String.ofList (decodeStart bytes).1

/-- The text of a byte sequence that is well formed throughout. -/
def decode? (bytes : List UInt8) : Option String :=
  match decodeStart bytes with
  | (characters, []) => some (String.ofList characters)
  | (_, _ :: _) => none

/-- The number of bytes of a character by its first byte, zero if none begins so. -/
def width (first : UInt8) : Nat :=
  if first < 0x80 then 1
  else if first < 0xC2 then 0
  else if first < 0xE0 then 2
  else if first < 0xF0 then 3
  else if first < 0xF5 then 4
  else 0

/-- Whether a byte may come second in a character that begins with `first`. -/
def mayFollow (first second : UInt8) : Bool :=
  if first = 0xE0 then 0xA0 <= second && second < 0xC0
  else if first = 0xED then 0x80 <= second && second < 0xA0
  else if first = 0xF0 then 0x90 <= second && second < 0xC0
  else if first = 0xF4 then 0x80 <= second && second < 0x90
  else isContinuation second

/-- What follows the bytes at the front that begin a character but do not complete
it, or the one byte there that begins none. -/
def dropIncomplete : List UInt8 -> List UInt8
  | [] => []
  | [_] => []
  | first :: second :: rest =>
    if 3 <= width first && mayFollow first second then
      match rest with
      | third :: after => if width first = 4 && isContinuation third then after else rest
      | [] => []
    else second :: rest

theorem dropIncomplete_length (first : UInt8) (rest : List UInt8) :
    (dropIncomplete (first :: rest)).length < (first :: rest).length := by
  match rest with
  | [] => simp [dropIncomplete]
  | second :: [] =>
    simp only [dropIncomplete]
    split <;> simp
  | second :: third :: after =>
    simp only [dropIncomplete]
    split
    · split
      · simp only [List.length_cons]
        omega
      · simp
    · simp

/-- The character that stands for bytes that are none. -/
def replacement : Char := '\uFFFD'

/-- The characters of a byte sequence, with a replacement for each ill-formed part. -/
def decodeReplacing (bytes : List UInt8) : List Char :=
  match _ : takeChar? bytes with
  | some (character, rest) => character :: decodeReplacing rest
  | none =>
    match bytes with
    | [] => []
    | first :: rest => replacement :: decodeReplacing (dropIncomplete (first :: rest))
termination_by bytes.length
decreasing_by
  · exact takeChar?_length ‹_›
  · exact dropIncomplete_length first rest

end StrategyHost.Text.Utf8
