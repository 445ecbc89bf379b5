import StrategyHost.Journal.Pattern.Bracket
import StrategyHost.Text.Letter

/-!
# Checking patterns

Whether a text is a pattern that can be matched. A pattern is read from left to
right: sequences of parts, alternatives of sequences, and groups of alternatives,
each with the mode that was switched to within it.
-/

namespace StrategyHost.Journal.Pattern

/-- Why a pattern cannot be used. -/
inductive Fault where
  | malformed
  /-- The bounds of words of characters are asked for. -/
  | textualBoundary
  deriving DecidableEq, Repr

/-- The wording of a fault. -/
def Fault.message : Fault -> String
  | malformed => "error building NFA"
  | textualBoundary =>
    "unsupported regex feature for DFAs: cannot build DFAs for regexes with Unicode word "
      ++ "boundaries; switch to ASCII word boundaries, or heuristically enable Unicode word "
      ++ "boundaries or use a different regex engine"

/-- A part of a sequence. -/
structure Part where
  depth : Nat
  /-- The part may be repeated: it is more than a switch of modes. -/
  repeats : Bool
  deriving DecidableEq, Repr

/-- Alternatives that are being read. -/
structure Level where
  /-- The mode in force. -/
  mode : Mode
  /-- The depths of the alternatives that are complete. -/
  complete : List Nat
  /-- The parts of the last alternative so far. -/
  parts : List Part
  deriving DecidableEq, Repr

/-- The depth of alternatives, of which the last is complete too. -/
def Level.depth (level : Level) : Nat :=
  depthTogether (depthTogether (level.parts.map Part.depth) :: level.complete)

/-- What has been read of a pattern. -/
structure Progress where
  /-- The level of the innermost open group. -/
  inner : Level
  /-- The levels around it, the nearest first. -/
  outer : List Level
  /-- The names of groups. -/
  names : List (List Char)
  /-- Whether the bounds of words of characters are asked for. -/
  hasBoundary : Bool
  deriving DecidableEq, Repr

namespace Progress

/-- Nothing read. -/
def start : Progress := ⟨⟨.start, [], []⟩, [], [], false⟩

/-- One more part, unless it is not admitted. -/
def add (progress : Progress) (part : Part) (admitted : Bool) : Option Progress :=
  if admitted then
    some { progress with
      inner := { progress.inner with parts := part :: progress.inner.parts } }
  else none

/-- One more part that holds no others. -/
def addLeaf (progress : Progress) (admitted : Bool) : Option Progress :=
  progress.add ⟨0, true⟩ admitted

/-- Open a group in which a mode is in force. -/
def openGroup (progress : Progress) (mode : Mode) : Progress :=
  { progress with inner := ⟨mode, [], []⟩, outer := progress.inner :: progress.outer }

/-- Close a group. -/
def closeGroup (progress : Progress) : Option Progress :=
  match progress.outer with
  | [] => none
  | around :: outer =>
    add { progress with inner := around, outer := outer } ⟨progress.inner.depth + 1, true⟩ true

/-- Begin another alternative. -/
def alternate (progress : Progress) : Progress :=
  let level := progress.inner
  let depth := depthTogether (level.parts.map Part.depth)
  { progress with inner := { level with complete := depth :: level.complete, parts := [] } }

/-- Repeat the last part. -/
def repeatLast (progress : Progress) : Option Progress :=
  match progress.inner.parts with
  | ⟨depth, true⟩ :: before =>
    some { progress with
      inner := { progress.inner with parts := ⟨depth + 1, true⟩ :: before } }
  | _ => none

/-- One more part that a backslash introduces. -/
def addEscape (progress : Progress) (escape : Escape) : Option Progress :=
  let mode := progress.inner.mode
  match escape with
  | .literal literal => progress.addLeaf (mode.admits literal)
  | .shorthand negated => progress.addLeaf (mode.admitsShorthand negated)
  | .boundary =>
    addLeaf { progress with hasBoundary := progress.hasBoundary || mode.isTextual } true
  | .anchor => progress.addLeaf true

end Progress

/-- The letters of the switches. -/
def switches : List Char := ['i', 'm', 's', 'U', 'u', 'R', 'x']

/-- Read switches up to a colon or a closing parenthesis. Those after a dash are
switched off. Each may be given once, and none has to follow the dash directly. -/
def readSwitches? (negated dangling : Bool) (given : List (Char × Bool)) :
    List Char -> Option (List (Char × Bool) × Char × List Char)
  | [] => none
  | character :: rest =>
    if character = ':' || character = ')' then
      if dangling then none else some (given.reverse, character, rest)
    else if character = '-' then
      if negated then none else readSwitches? true true given rest
    else if switches.contains character && given.all (·.1 != character) then
      readSwitches? negated false ((character, !negated) :: given) rest
    else none

/-- Read the name of a group up to the closing angle bracket. -/
def readGroupName? (characters : List Char) : Option (List Char × List Char) :=
  match characters.span (· != '>') with
  | (first :: more, _ :: rest) =>
    let mayFollow (character : Char) : Bool :=
      ['_', '.', '[', ']'].contains character || Text.isLetterOrDigit character
    if (first = '_' || Text.isLetter first) && more.all mayFollow then some (first :: more, rest)
    else none
  | _ => none

/-- Open a group that has a name, which no other group has. -/
def readNamedGroup? (progress : Progress) (characters : List Char) :
    Option (Progress × List Char) :=
  match readGroupName? characters with
  | none => none
  | some (name, rest) =>
    if progress.names.contains name then none
    else
      some (({ progress with names := name :: progress.names }).openGroup progress.inner.mode,
        rest)

/-- Read on after an opening parenthesis. -/
def readGroup? (progress : Progress) (characters : List Char) :
    Option (Progress × List Char) :=
  let mode := progress.inner.mode
  match mode.skip characters with
  | '?' :: '=' :: _ | '?' :: '!' :: _ | '?' :: '<' :: '=' :: _ | '?' :: '<' :: '!' :: _ => none
  | '?' :: 'P' :: '<' :: rest | '?' :: '<' :: rest => readNamedGroup? progress rest
  | '?' :: rest =>
    match readSwitches? false false [] rest with
    | none => none
    | some (given, last, after) =>
      let switched := given.foldl (fun mode (letter, on) => mode.switched letter on) mode
      if last = ':' then some (progress.openGroup switched, after)
      else if given.isEmpty then none
      else
        let changed := { progress with inner := { progress.inner with mode := switched } }
        (changed.add ⟨0, false⟩ true).map (·, after)
  | rest => some (progress.openGroup mode, rest)

/-- Read on from a character. Repetitions by number end with a brace, which is not
part of any pattern here. -/
def step (progress : Progress) (character : Char) (rest : List Char) :
    Option (Progress × List Char) :=
  let mode := progress.inner.mode
  match character with
  | '(' => readGroup? progress rest
  | ')' => progress.closeGroup.map (·, rest)
  | '|' => some (progress.alternate, rest)
  | '[' =>
    match Bracket.read? mode rest with
    | some (depth, after) => (progress.add ⟨depth, true⟩ true).map (·, after)
    | none => none
  | '?' | '*' | '+' =>
    progress.repeatLast.map (·, if rest.head? = some '?' then rest.drop 1 else rest)
  | '\x7b' => none
  | '\\' =>
    match Escape.read? mode rest with
    | some (escape, after) => (progress.addEscape escape).map (·, after)
    | none => none
  | '.' => (progress.addLeaf mode.admitsComplement).map (·, rest)
  | '^' | '$' => (progress.addLeaf true).map (·, rest)
  | _ => (progress.addLeaf (mode.admits ⟨character, false⟩)).map (·, rest)

/-- Read to the end. `fuel` bounds the number of steps, each of which takes a
character. -/
def readAll? (fuel : Nat) (progress : Progress) (characters : List Char) : Option Progress :=
  match progress.inner.mode.skip characters, fuel with
  | [], _ => some progress
  | _ :: _, 0 => none
  | character :: rest, fuel + 1 =>
    match step progress character rest with
    | some (progress, rest) => readAll? fuel progress rest
    | none => none

/-- The fault of a pattern, if it has one. -/
def fault? (given : List Char) : Option Fault :=
  match readAll? given.length .start given with
  | some progress =>
    if !progress.outer.isEmpty || deepest < progress.inner.depth then some .malformed
    else if progress.hasBoundary then some .textualBoundary
    else none
  | none => some .malformed

end StrategyHost.Journal.Pattern
