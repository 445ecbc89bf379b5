import StrategyHost.Broker.Host

/-!
# Addresses of brokers

Taking an address apart into scheme, authority, path and query. The schemes of
brokers have no special rules, so a path may be missing or not begin with a
slash, and a host may be empty.
-/

namespace StrategyHost.Broker

/-- The path of an address. -/
inductive UrlPath where
  /-- The parts after each slash. -/
  | segments (parts : List (List Char))
  /-- Text that does not begin with a slash; the address has no authority. -/
  | bare (text : List Char)
  | missing
  deriving DecidableEq, Repr

namespace UrlPath

/-- The text of a path. -/
def text : UrlPath -> List Char
  | segments parts => parts.flatMap ('/' :: ·)
  | bare text => text
  | missing => []

end UrlPath

/-- An address. -/
structure Url where
  scheme : String
  user : List Char
  password? : Option (List Char)
  /-- The host, none where it is missing or empty. -/
  host? : Option String
  port? : Option Nat
  path : UrlPath
  query? : Option (List Char)
  deriving DecidableEq, Repr

namespace Url

/-- Whether a character is ignored at the ends of an address. -/
def isEdge (character : Char) : Bool := character <= ' '

/-- Whether a character is ignored everywhere in an address. -/
def isIgnored (character : Char) : Bool :=
  character = '\t' || character = '\n' || character = '\r'

/-- The characters of an address that count. -/
def significant (given : String) : List Char :=
  let trimmed := ((given.toList.dropWhile isEdge).reverse.dropWhile isEdge).reverse
  trimmed.filter fun character => !isIgnored character

/-- Whether a character may follow the first letter of a scheme. -/
def isSchemeChar (character : Char) : Bool :=
  character.isAlphanum || character = '+' || character = '-' || character = '.'

/-- The scheme in small letters, and what follows its colon. -/
def splitScheme? (characters : List Char) : Option (String × List Char) :=
  match characters with
  | first :: rest =>
    match first.isAlpha, rest.span isSchemeChar with
    | true, (more, ':' :: after) =>
      some (String.ofList ((first :: more).map Char.toLower), after)
    | _, _ => none
  | [] => none

/-- Whether a character ends the authority. -/
def endsAuthority (character : Char) : Bool :=
  character = '/' || character = '?' || character = '#'

/-- What stands before the last at sign, and what after it. -/
def splitCredentials (authority : List Char) : Option (List Char) × List Char :=
  let (afterReversed, beforeReversed) := authority.reverse.span (· != '@')
  match beforeReversed with
  | [] => (none, authority)
  | _ :: before => (some before.reverse, afterReversed.reverse)

/-- The host at the front of an authority without credentials, and what follows
it. A colon within brackets belongs to the host. -/
def splitHost (insideBrackets : Bool) : List Char -> List Char × List Char
  | [] => ([], [])
  | character :: rest =>
    if character = ':' && !insideBrackets then ([], character :: rest)
    else
      let inside :=
        if character = '[' then true else if character = ']' then false else insideBrackets
      let (host, after) := splitHost inside rest
      (character :: host, after)

/-- The number of a network port, and none where there are no digits. A backslash ends it. -/
def readPort (value? : Option Nat) : List Char -> Option (Option Nat × List Char)
  | [] => some (value?, [])
  | character :: rest =>
    if character.isDigit then
      let value := 10 * value?.getD 0 + (character.toNat - '0'.toNat)
      if value <= 65535 then readPort (some value) rest else none
    else if character = '\\' then some (value?, character :: rest)
    else none

/-- Whether a segment is a letter and a colon or bar. Such a segment is never
removed by the one after it. -/
def isDriveLetter : List Char -> Bool
  | [letter, mark] => letter.isAlpha && (mark = ':' || mark = '|')
  | _ => false

/-- A segment with its encoded dots decoded, in small letters. -/
def dotted (segment : List Char) : List Char :=
  match segment with
  | '%' :: '2' :: mark :: rest =>
    if mark = 'e' || mark = 'E' then '.' :: dotted rest else segment
  | '.' :: rest => '.' :: dotted rest
  | _ => segment

/-- Follow the segments of a path: one dot stays and two dots go up. `done` holds
the segments kept so far, last first; a dot at the end leaves an empty segment. -/
def resolve (done : List (List Char)) : List (List Char) -> List (List Char)
  | [] => done.reverse
  | segment :: rest =>
    let isLast := rest.isEmpty
    let closed (kept : List (List Char)) : List (List Char) := if isLast then [] :: kept else kept
    if dotted segment = ['.'] then resolve (closed done) rest
    else if dotted segment = ['.', '.'] then
      match done with
      | [] => resolve (closed []) rest
      | last :: before =>
        resolve (closed (if isDriveLetter last then last :: before else before)) rest
    else resolve (segment :: done) rest

/-- A path that begins after a slash. -/
def rooted (characters : List Char) : UrlPath :=
  .segments (resolve [] (Text.splitOn '/' characters))

/-- The part before the fragment, split into path and query. -/
def splitQuery (characters : List Char) : List Char × Option (List Char) :=
  let whole := characters.takeWhile (· != '#')
  match whole.span (· != '?') with
  | (path, _ :: query) => (path, some query)
  | (path, []) => (path, none)

/-- The path after an authority. -/
def pathAfterAuthority : List Char -> UrlPath
  | [] => .missing
  | '/' :: rest => rooted rest
  | characters => rooted characters

/-- The name and password in credentials. -/
def credentialsOf (characters : List Char) : List Char × Option (List Char) :=
  match characters.span (· != ':') with
  | (user, _ :: password) => (user, if password.isEmpty then none else some password)
  | (user, []) => (user, none)

/-- Read what follows the two slashes before an authority. -/
def readAuthority? (scheme : String) (characters : List Char) : Option Url :=
  let (authority, afterAuthority) := characters.span fun character => !endsAuthority character
  let (credentials?, location) := splitCredentials authority
  let (user, password?) := credentialsOf (credentials?.getD [])
  let named := !user.isEmpty || password?.isSome
  let (host, afterHost) := splitHost false location
  let missing := host.isEmpty
  if credentials? = some [] && location.isEmpty && !afterAuthority.isEmpty then none
  else if !Host.isValid host then none
  else if missing && (named || !afterHost.isEmpty) then none
  else
    match readPort none (afterHost.drop 1) with
    | none => none
    | some (port?, leftOver) =>
      let (path, query?) := splitQuery (leftOver ++ afterAuthority)
      some {
        scheme := scheme
        user := user
        password? := password?
        host? := if missing then none else some (String.ofList host)
        port? := port?
        path := pathAfterAuthority path
        query? := query? }

/-- Read an address. -/
def read? (given : String) : Option Url :=
  match splitScheme? (significant given) with
  | none => none
  | some (scheme, '/' :: '/' :: rest) => readAuthority? scheme rest
  | some (scheme, rest) =>
    let (path, query?) := splitQuery rest
    some {
      scheme := scheme
      user := []
      password? := none
      host? := none
      port? := none
      path := match path with
        | '/' :: rest => rooted rest
        | _ => .bare path
      query? := query? }

end Url

end StrategyHost.Broker
