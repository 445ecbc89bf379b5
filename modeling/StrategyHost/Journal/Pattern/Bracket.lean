import StrategyHost.Journal.Pattern.Escape

/-!
# Bracketed classes in patterns

A class lists characters, ranges, classes by name and further classes between
brackets, and combines lists by doubled signs. What is read of a class is how deep
it nests.
-/

namespace StrategyHost.Journal.Pattern.Bracket

/-- What surrounds the list that is being read. -/
inductive Frame where
  /-- The depths of what a surrounding class lists so far. -/
  | listed (depths : List Nat)
  /-- The depth of what stands before a doubled sign. -/
  | combined (depth : Nat)
  deriving DecidableEq, Repr

/-- The names of classes of ASCII. -/
def names : List String :=
  ["alnum", "alpha", "ascii", "blank", "cntrl", "digit", "graph", "lower", "print", "punct",
   "space", "upper", "word", "xdigit"]

/-- Read a class of ASCII by its name after the bracket, and whether it is the class
of all others. -/
def readName? : List Char -> Option (Bool × List Char)
  | ':' :: rest =>
    let (negated, rest) :=
      match rest with
      | '^' :: rest => (true, rest)
      | _ => (false, rest)
    match rest.span (· != ':') with
    | (name, ':' :: ']' :: after) =>
      if names.contains (String.ofList name) then some (negated, after) else none
    | _ => none
  | _ => none

/-- The number of dashes at the front, and what follows them. -/
def leadingDashes (mode : Mode) (characters : List Char) : Nat × List Char :=
  match characters with
  | '-' :: rest =>
    let (count, after) := leadingDashes mode (mode.skip rest)
    (count + 1, after)
  | _ => (0, characters)
termination_by characters.length
decreasing_by
  have := mode.length_skip rest
  simp only [List.length_cons]
  omega

/-- Read what may stand only at the front of a class, after its bracket: a caret,
dashes, or a closing bracket as the first member. -/
def open? (mode : Mode) (characters : List Char) : Option (List Nat × List Char) :=
  let atFront := mode.skip characters
  let (negated, members) :=
    match atFront with
    | '^' :: rest => (true, mode.skip rest)
    | _ => (false, atFront)
  let (dashes, afterDashes) := leadingDashes mode members
  let (count, rest) :=
    match dashes, afterDashes with
    | 0, ']' :: rest => (1, mode.skip rest)
    | _, _ => (dashes, afterDashes)
  if rest.isEmpty || negated && !mode.admitsComplement then none
  else if 0 < count && !mode.admitsMember ⟨'-', false⟩ then none
  else some (List.replicate count 0, rest)

/-- Read one member, which may be the start of a range. -/
def readMember? (mode : Mode) : List Char -> Option (Escape × List Char)
  | [] => none
  | '\\' :: rest => Escape.read? mode rest
  | character :: rest => some (.literal ⟨character, false⟩, rest)

/-- The character after the one at the front, beyond those that are skipped. The text
of a comment is not skipped. -/
def peek? (mode : Mode) (rest : List Char) : Option Char :=
  if mode.skipsBlanks then
    let shown := rest.dropWhile Text.isBlank
    let shown :=
      match shown with
      | '#' :: comment => comment.dropWhile Text.isBlank
      | _ => shown
    (shown.head?).or rest.head?
  else rest.head?

/-- Read a member or a range. -/
def readRange? (mode : Mode) (characters : List Char) : Option (List Char) :=
  match readMember? mode characters with
  | none => none
  | some (first, rest) =>
    let alone (after : List Char) : Option (List Char) :=
      let admitted :=
        match first with
        | .literal literal => mode.admitsMember literal
        | .shorthand negated => mode.admitsShorthand negated
        | .boundary | .anchor => false
      if admitted then some after else none
    match mode.skip rest with
    | [] => none
    | '-' :: after =>
      if [some ']', some '-'].contains (peek? mode after) then alone ('-' :: after)
      else
        match first, readMember? mode (mode.skip after) with
        | .literal least, some (.literal greatest, after) =>
          if least.character <= greatest.character && mode.admitsMember least
              && mode.admitsMember greatest then some after
          else none
        | _, _ => none
    | after => alone after

/-- The depth of a list that is complete, combined with what stands before it, and what
surrounds them. -/
def combine (depths : List Nat) (frames : List Frame) : Nat × List Frame :=
  match frames with
  | .combined before :: outer => (1 + max before (depthTogether depths), outer)
  | _ => (depthTogether depths, frames)

/-- Read on in a class. `fuel` bounds the number of steps, each of which takes a
character. The result is the depth of the outermost class, and what follows it. -/
def readOn? (mode : Mode) (fuel : Nat) (depths : List Nat) (frames : List Frame)
    (characters : List Char) : Option (Nat × List Char) :=
  match fuel with
  | 0 => none
  | fuel + 1 =>
    let operate (rest : List Char) : Option (Nat × List Char) :=
      let (depth, outer) := combine depths frames
      readOn? mode fuel [] (.combined depth :: outer) rest
    match mode.skip characters with
    | [] => none
    | '[' :: rest =>
      match readName? rest with
      | some (negated, after) =>
        if mode.admitsNamed negated then readOn? mode fuel (0 :: depths) frames after else none
      | none =>
        match open? mode rest with
        | some (opened, after) => readOn? mode fuel opened (.listed depths :: frames) after
        | none => none
    | ']' :: rest =>
      let (depth, outer) := combine depths frames
      match outer with
      | .listed before :: outer => readOn? mode fuel ((depth + 1) :: before) outer rest
      | _ => some (depth + 1, rest)
    | '&' :: '&' :: rest | '-' :: '-' :: rest | '~' :: '~' :: rest => operate rest
    | member =>
      match readRange? mode member with
      | some after => readOn? mode fuel (0 :: depths) frames after
      | none => none

/-- Read a class after its bracket. -/
def read? (mode : Mode) (characters : List Char) : Option (Nat × List Char) :=
  match open? mode characters with
  | some (opened, after) => readOn? mode (after.length + 1) opened [] after
  | none => none

end StrategyHost.Journal.Pattern.Bracket
