import StrategyHost.Binary64.Decimal
import StrategyHost.Json.Syntax

/-!
# JSON tokens

Splitting a document into punctuation, literals, numbers and texts. Each reader
takes its token off the front of the characters and leaves the rest.
-/

namespace StrategyHost.Json

open StrategyHost.Binary64 (spanDigits ofDigits)
open StrategyHost.Text (hexDigit?)

/-- A token of a JSON document. -/
inductive Token where
  | openArray
  | closeArray
  | openObject
  | closeObject
  | comma
  | colon
  | null
  | boolean (value : Bool)
  | number (numeral : Numeral)
  | text (content? : Option String)
  deriving DecidableEq, Repr

namespace Token

/-- A piece of a text: a character, or a 16-bit unit given by its digits. -/
inductive Piece where
  | character (character : Char)
  | unit (code : Nat)
  deriving DecidableEq, Repr

/-- The unit with these four hexadecimal digits. -/
def unit? (first second third fourth : Char) : Option Nat :=
  match hexDigit? first, hexDigit? second, hexDigit? third, hexDigit? fourth with
  | some first, some second, some third, some fourth =>
    some (first * 0x1000 + second * 0x100 + third * 0x10 + fourth)
  | _, _, _, _ => none

/-- The character that a backslash and this mark stand for. -/
def escaped? : Char -> Option Char
  | '"' => some '"'
  | '\\' => some '\\'
  | '/' => some '/'
  | 'b' => some '\x08'
  | 'f' => some '\x0c'
  | 'n' => some '\n'
  | 'r' => some '\r'
  | 't' => some '\t'
  | _ => none

/-- The pieces up to the closing quote, and the characters after it. `done` holds
the pieces already read, last first. -/
def pieces? (done : List Piece) : List Char -> Option (List Piece × List Char)
  | '"' :: rest => some (done.reverse, rest)
  | '\\' :: 'u' :: first :: second :: third :: fourth :: rest =>
    match unit? first second third fourth with
    | some code => pieces? (.unit code :: done) rest
    | none => none
  | '\\' :: mark :: rest =>
    match escaped? mark with
    | some character => pieces? (.character character :: done) rest
    | none => none
  | character :: rest =>
    if character < ' ' || character = '\\' then none
    else pieces? (.character character :: done) rest
  | [] => none

/-- The characters of a text. Two units make one character where they are a
surrogate pair; a surrogate that stands alone is no character. -/
def assemble? : List Piece -> Option (List Char)
  | [] => some []
  | .character character :: rest => (assemble? rest).map (character :: ·)
  | .unit high :: .unit low :: rest =>
    if 0xD800 <= high && high < 0xDC00 then
      if 0xDC00 <= low && low < 0xE000 then
        (assemble? rest).map
          (Char.ofNat (0x10000 + (high - 0xD800) * 0x400 + (low - 0xDC00)) :: ·)
      else none
    else if 0xDC00 <= high && high < 0xE000 then none
    else (assemble? (.unit low :: rest)).map (Char.ofNat high :: ·)
  | .unit code :: rest =>
    if 0xD800 <= code && code < 0xE000 then none
    else (assemble? rest).map (Char.ofNat code :: ·)

/-- The digits before the point: a lone zero, or digits that begin with another. -/
def wholeDigits? (characters : List Char) : Option (List Nat × List Char) :=
  match characters with
  | '0' :: rest => some ([0], rest)
  | _ =>
    match spanDigits characters with
    | ([], _) => none
    | (digits, rest) => some (digits, rest)

/-- The digits after the point, if there is one. -/
def fractionDigits? (characters : List Char) : Option (List Nat × List Char) :=
  match characters with
  | '.' :: rest =>
    match spanDigits rest with
    | ([], _) => none
    | (digits, rest) => some (digits, rest)
  | _ => some ([], characters)

/-- The digits of an exponent. -/
def exponentDigits? (negative : Bool) (characters : List Char) :
    Option (Option Int × List Char) :=
  match spanDigits characters with
  | ([], _) => none
  | (digits, rest) =>
    some (some (if negative then -Int.ofNat (ofDigits digits) else Int.ofNat (ofDigits digits)),
      rest)

/-- The exponent, if there is one. -/
def exponentPart? (characters : List Char) : Option (Option Int × List Char) :=
  match characters with
  | 'e' :: '-' :: rest | 'E' :: '-' :: rest => exponentDigits? true rest
  | 'e' :: '+' :: rest | 'E' :: '+' :: rest => exponentDigits? false rest
  | 'e' :: rest | 'E' :: rest => exponentDigits? false rest
  | _ => some (none, characters)

/-- The number at the front. -/
def numeral? (characters : List Char) : Option (Numeral × List Char) :=
  let (negative, characters) :=
    match characters with
    | '-' :: rest => (true, rest)
    | _ => (false, characters)
  match wholeDigits? characters with
  | none => none
  | some (whole, rest) =>
    match fractionDigits? rest with
    | none => none
    | some (fraction, rest) =>
      match exponentPart? rest with
      | none => none
      | some (exponent?, rest) => some (⟨negative, whole, fraction, exponent?⟩, rest)

/-- The token at the front of characters that do not begin with a blank. -/
def take? : List Char -> Option (Token × List Char)
  | '[' :: rest => some (openArray, rest)
  | ']' :: rest => some (closeArray, rest)
  | '\x7b' :: rest => some (openObject, rest)
  | '\x7d' :: rest => some (closeObject, rest)
  | ',' :: rest => some (comma, rest)
  | ':' :: rest => some (colon, rest)
  | 'n' :: 'u' :: 'l' :: 'l' :: rest => some (null, rest)
  | 't' :: 'r' :: 'u' :: 'e' :: rest => some (boolean true, rest)
  | 'f' :: 'a' :: 'l' :: 's' :: 'e' :: rest => some (boolean false, rest)
  | '"' :: rest =>
    (pieces? [] rest).map fun (pieces, rest) =>
      (text ((assemble? pieces).map String.ofList), rest)
  | characters => (numeral? characters).map fun (numeral, rest) => (number numeral, rest)

/-- The blanks that may stand between tokens. -/
def isBlank (character : Char) : Bool :=
  character = ' ' || character = '\t' || character = '\n' || character = '\r'

theorem spanDigits_length (characters : List Char) :
    (spanDigits characters).2.length <= characters.length := by
  induction characters with
  | nil => simp [spanDigits]
  | cons character rest inductionHypothesis =>
    unfold spanDigits
    split
    · simp only [List.length_cons]
      omega
    · simp

theorem spanDigits_length_lt {characters rest : List Char} {digit : Nat} {digits : List Nat}
    (taken : spanDigits characters = (digit :: digits, rest)) :
    rest.length < characters.length := by
  cases characters with
  | nil => simp [spanDigits] at taken
  | cons character remaining =>
    unfold spanDigits at taken
    split at taken
    · simp only [Prod.mk.injEq, List.cons.injEq] at taken
      rw [← taken.2, List.length_cons]
      exact Nat.lt_succ_of_le (spanDigits_length remaining)
    · simp at taken

theorem wholeDigits?_length {characters rest : List Char} {digits : List Nat}
    (taken : wholeDigits? characters = some (digits, rest)) :
    rest.length < characters.length := by
  unfold wholeDigits? at taken
  split at taken
  · simp only [Option.some.injEq, Prod.mk.injEq] at taken
    simp [← taken.2]
  · split at taken
    · simp at taken
    · rename_i digits' rest' notEmpty spanned
      simp only [Option.some.injEq, Prod.mk.injEq] at taken
      cases digits' with
      | nil => exact (notEmpty rfl).elim
      | cons digit digits' => exact taken.2 ▸ spanDigits_length_lt spanned

theorem fractionDigits?_length {characters rest : List Char} {digits : List Nat}
    (taken : fractionDigits? characters = some (digits, rest)) :
    rest.length <= characters.length := by
  unfold fractionDigits? at taken
  split at taken
  · rename_i remaining
    have bound := spanDigits_length remaining
    split at taken
    · simp at taken
    · rename_i spanned
      simp only [Option.some.injEq, Prod.mk.injEq] at taken
      simp only [spanned] at bound
      simp only [← taken.2, List.length_cons]
      omega
  · simp only [Option.some.injEq, Prod.mk.injEq] at taken
    simp [← taken.2]

theorem exponentDigits?_length {characters rest : List Char} {negative : Bool}
    {exponent? : Option Int}
    (taken : exponentDigits? negative characters = some (exponent?, rest)) :
    rest.length <= characters.length := by
  unfold exponentDigits? at taken
  have bound := spanDigits_length characters
  split at taken
  · simp at taken
  · rename_i spanned
    simp only [Option.some.injEq, Prod.mk.injEq] at taken
    simpa only [spanned, taken.2] using bound

theorem exponentPart?_length {characters rest : List Char} {exponent? : Option Int}
    (taken : exponentPart? characters = some (exponent?, rest)) :
    rest.length <= characters.length := by
  unfold exponentPart? at taken
  split at taken
  case h_7 =>
    simp only [Option.some.injEq, Prod.mk.injEq] at taken
    simp [← taken.2]
  all_goals
    have bound := exponentDigits?_length taken
    simp only [List.length_cons]
    omega

theorem numeral?_length {characters rest : List Char} {numeral : Numeral}
    (taken : numeral? characters = some (numeral, rest)) :
    rest.length < characters.length := by
  unfold numeral? at taken
  split at taken
  rename_i negative body signed
  have shorter : body.length <= characters.length := by
    split at signed <;> simp only [Prod.mk.injEq] at signed <;> simp [← signed.2]
  split at taken
  · simp at taken
  · rename_i afterWhole wholeRead
    split at taken
    · simp at taken
    · rename_i afterFraction fractionRead
      split at taken
      · simp at taken
      · rename_i afterExponent exponentRead
        simp only [Option.some.injEq, Prod.mk.injEq] at taken
        have first := wholeDigits?_length wholeRead
        have second := fractionDigits?_length fractionRead
        have third := exponentPart?_length exponentRead
        rw [← taken.2]
        omega

theorem pieces?_length {done pieces : List Piece} {characters rest : List Char}
    (taken : pieces? done characters = some (pieces, rest)) :
    rest.length < characters.length := by
  fun_induction pieces? done characters with
  | case1 =>
    simp only [Option.some.injEq, Prod.mk.injEq] at taken
    simp [← taken.2]
  | case2 _ _ _ _ _ _ _ _ inductionHypothesis =>
    have bound := inductionHypothesis taken
    simp only [List.length_cons]
    omega
  | case4 _ _ _ _ _ _ inductionHypothesis =>
    have bound := inductionHypothesis taken
    simp only [List.length_cons]
    omega
  | case7 _ _ _ _ _ _ _ inductionHypothesis =>
    have bound := inductionHypothesis taken
    simp only [List.length_cons]
    omega
  | case3 | case5 | case6 | case8 => simp at taken

/-- A token takes at least one character. -/
theorem take?_length {characters rest : List Char} {token : Token}
    (taken : take? characters = some (token, rest)) : rest.length < characters.length := by
  unfold take? at taken
  split at taken
  case h_10 =>
    simp only [Option.map_eq_some_iff, Prod.mk.injEq] at taken
    obtain ⟨⟨pieces, after⟩, read, _, rfl⟩ := taken
    have bound := pieces?_length read
    simp only [List.length_cons]
    omega
  case h_11 =>
    simp only [Option.map_eq_some_iff, Prod.mk.injEq] at taken
    obtain ⟨⟨numeral, after⟩, read, _, rfl⟩ := taken
    exact numeral?_length read
  all_goals
    simp only [Option.some.injEq, Prod.mk.injEq] at taken
    simp only [← taken.2, List.length_cons]
    omega

/-- The tokens of a document, after those in `done`, last first. -/
def all? (done : List Token) (characters : List Char) : Option (List Token) :=
  match characters with
  | [] => some done.reverse
  | character :: rest =>
    if isBlank character then all? done rest
    else
      match _ : take? (character :: rest) with
      | some (token, remaining) => all? (token :: done) remaining
      | none => none
termination_by characters.length
decreasing_by
  · simp
  · exact take?_length ‹_›

end Token

end StrategyHost.Json
