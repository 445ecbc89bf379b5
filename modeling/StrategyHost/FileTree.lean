import StrategyHost.Text.Split
import StrategyHost.Text.Utf8

/-!
# Files and directories

A tree of files, and finding one by its path. A path is followed one name at a
time, so the fault that is reported is that of the first name that fails.
-/

namespace StrategyHost

/-- A file or a directory. -/
inductive FileTree where
  | file (content : List UInt8)
  | directory (entries : List (String × FileTree))
  deriving Repr, Inhabited

/-- Why a file cannot be opened or read. -/
inductive FileTree.Fault where
  | notFound
  | notDirectory
  | isDirectory
  | nameTooLong
  | nulInPath
  deriving DecidableEq, Repr

namespace FileTree.Fault

/-- The wording of a fault. -/
def message : FileTree.Fault -> String
  | notFound => "No such file or directory (os error 2)"
  | notDirectory => "Not a directory (os error 20)"
  | isDirectory => "Is a directory (os error 21)"
  | nameTooLong => "File name too long (os error 36)"
  | nulInPath => "file name contained an unexpected NUL byte"

end FileTree.Fault

namespace FileTree

/-- The greatest number of bytes of one name. -/
def longestName : Nat := 255

/-- The greatest number of bytes of a path. -/
def longestPath : Nat := 4095

/-- The parts of a path between slashes. -/
def pathParts (path : String) : List String :=
  (Text.splitOn '/' path.toList).map String.ofList

/-- Whether a path begins at the root. -/
def isAbsolute (path : String) : Bool :=
  path.toList.head? = some '/'

/-- The names that lead from the root to where a path begins. -/
def startOf (workingDirectory : List String) (path : String) : List String :=
  if isAbsolute path then [] else workingDirectory

/-- The entry of a directory with a name. -/
def child (tree : FileTree) (name : String) : Except Fault FileTree :=
  match tree with
  | file _ => .error .notDirectory
  | directory entries =>
    if longestName < name.utf8ByteSize then .error .nameTooLong
    else
      match entries.lookup name with
      | some entry => .ok entry
      | none => .error .notFound

/-- Follow one part of a path from a place, given as the way up to the root. An
empty part or a dot stays, and two dots go up; each of them needs a directory. -/
def follow (place : List FileTree) (part : String) : Except Fault (List FileTree) :=
  match place with
  | [] => .error .notFound
  | file _ :: _ => .error .notDirectory
  | directory entries :: above =>
    if part = "" || part = "." then .ok place
    else if part = ".." then .ok (if above.isEmpty then place else above)
    else (child (directory entries) part).map (· :: place)

/-- The file or directory that a path leads to. The path as a whole is looked at
before its first part is followed. -/
def find (root : FileTree) (workingDirectory : List String) (path : String) :
    Except Fault FileTree := do
  if path.toList.contains '\x00' then throw .nulInPath
  if path.isEmpty then throw .notFound
  if longestPath < path.utf8ByteSize then throw .nameTooLong
  let place <- (startOf workingDirectory path ++ pathParts path).foldlM follow [root]
  match place with
  | found :: _ => return found
  | [] => throw .notFound

/-- What is at a place, given as the names that lead to it. -/
def at? (tree : FileTree) : List String -> Option FileTree
  | [] => some tree
  | name :: rest =>
    match tree with
    | file _ => none
    | directory entries => (entries.lookup name).bind (·.at? rest)

/-- The tree with an entry at a place, unless something is there already. The
directory that is to hold it has to be there. -/
def insert (tree entry : FileTree) : List String -> Except Fault FileTree
  | [] => .ok tree
  | name :: rest =>
    match tree with
    | file _ => .error .notDirectory
    | directory entries =>
      if longestName < name.utf8ByteSize then .error .nameTooLong
      else
        match entries.lookup name, rest with
        | some found, rest =>
          (found.insert entry rest).map fun changed =>
            directory (entries.map fun (key, value) =>
              if key == name then (key, changed) else (key, value))
        | none, [] => .ok (directory (entries ++ [(name, entry)]))
        | none, _ :: _ => .error .notFound

/-- Follow one part of a path into a directory, which is created if it is
missing. A place is given as the names that lead to it. -/
def enter (state : FileTree × List String) (part : String) :
    Except Fault (FileTree × List String) := do
  let (tree, place) := state
  let next :=
    if part = "" || part = "." then place
    else if part = ".." then place.dropLast
    else place ++ [part]
  let changed <- tree.insert (directory []) next
  match changed.at? next with
  | some (directory _) => return (changed, next)
  | _ => throw .notDirectory

/-- The tree with another content of the file at a place, if there is one. -/
def overwrite (tree : FileTree) (content : List UInt8) : List String -> FileTree
  | [] =>
    match tree with
    | file _ => file content
    | directory _ => tree
  | name :: rest =>
    match tree with
    | file _ => tree
    | directory entries =>
      directory (entries.map fun (key, value) =>
        if key == name then (key, value.overwrite content rest) else (key, value))

/-- The tree with a file at a path, and the place of the file. Missing directories
on the way are created; a file that is there stays as it is. -/
def create (root : FileTree) (workingDirectory : List String) (path : String) :
    Except Fault (FileTree × List String) := do
  if path.toList.contains '\x00' then throw .nulInPath
  if path.isEmpty then throw .notFound
  if longestPath < path.utf8ByteSize then throw .nameTooLong
  let parts := pathParts path
  let (tree, place) <- parts.dropLast.foldlM enter (root, startOf workingDirectory path)
  let name := parts.getLast?.getD ""
  if ["", ".", ".."].contains name then throw .isDirectory
  let changed <- tree.insert (file []) (place ++ [name])
  match changed.at? (place ++ [name]) with
  | some (file _) => return (changed, place ++ [name])
  | _ => throw .isDirectory

/-- The tree with a file of a content at a path. Missing directories on the way are
created. -/
def write (root : FileTree) (workingDirectory : List String) (path : String)
    (content : List UInt8) : Except Fault FileTree :=
  (root.create workingDirectory path).map fun (tree, place) => tree.overwrite content place

/-- The names of the files in a directory, in alphabetical order. -/
def fileNames : FileTree -> List String
  | file _ => []
  | directory entries =>
    (entries.filterMap fun (name, entry) =>
      match entry with
      | file _ => some name
      | directory _ => none).mergeSort fun first second => first <= second

/-- A way to read the file at a path. -/
abbrev Reader := String -> Except Fault (List UInt8)

/-- The content of the file that a path leads to. -/
def read (root : FileTree) (workingDirectory : List String) (path : String) :
    Except Fault (List UInt8) := do
  match <- root.find workingDirectory path with
  | file content => return content
  | directory _ => throw .isDirectory

end FileTree

end StrategyHost
