import Bindery.Files.Path
import Bindery.Text.Octets

/-!
# Stored files

Directories and files as a tree. A path is followed name by name: every name but the last has to be
one of a directory.

## Main definitions

- `Node` — a file or a directory
- `Obstacle`, `FileError` — why a path leads nowhere, and how that is told
- `Store` — the tree and the directory in which one is
- `Store.find` — follows a path
- `Store.read`, `Store.list` — the content of a file and the names in a directory
-/

namespace Bindery

/-- A file or a directory. -/
inductive Node where
  | file (content : Octets)
  | directory (entries : List (String × Node))
  deriving Inhabited

namespace Node

/-- Whether it is a directory. -/
def isDirectory : Node → Bool
  | directory _ => true
  | file _ => false

/-- The names in a directory with what they name, none in a file. -/
def entries : Node → List (String × Node)
  | directory es => es
  | file _ => []

/-- What a name in a directory names. -/
def child? (n : Node) (name : String) : Option Node :=
  (n.entries.find? (·.1 == name)).map (·.2)

/-- What names lead to, one after another. -/
def at? : Node → List String → Option Node
  | n, [] => some n
  | n, name :: rest => (n.child? name).bind (at? · rest)

/-- The directory with a name that names something else than before. -/
def put (n : Node) (name : String) (new : Node) : Node :=
  directory (n.entries.filter (·.1 != name) ++ [(name, new)])

/-- The tree with something new at the place that names lead to. Directories on the way are made. -/
def insert : Node → List String → Node → Node
  | _, [], new => new
  | n, name :: rest, new =>
    n.put name (((n.child? name).getD (directory [])).insert rest new)

/-- The tree without what names lead to. -/
def remove : Node → List String → Node
  | n, [] => n
  | n, [name] => directory (n.entries.filter (·.1 != name))
  | n, name :: rest =>
    match n.child? name with
    | some inner => n.put name (inner.remove rest)
    | none => n

/-- The order of names: by their octets. -/
def nameLe (a b : String × Node) : Bool :=
  !decide (Octets.ofString b.1 < Octets.ofString a.1)

/-- The entries of a directory in the order of their names. -/
def sorted (n : Node) : List (String × Node) :=
  n.entries.mergeSort nameLe

end Node

/-- Why a path leads nowhere. -/
inductive Obstacle where
  | missing
  | notDirectory
  | isDirectory
  | nameTooLong
  | exists
  deriving DecidableEq, Repr

/-- The text of an obstacle. -/
def Obstacle.message : Obstacle → String
  | missing => "no such file or directory"
  | notDirectory => "not a directory"
  | isDirectory => "is a directory"
  | nameTooLong => "file name too long"
  | .exists => "file exists"

/-- What could not be done with a path, and why. -/
structure FileError where
  /-- What was to be done. -/
  action : String
  /-- The path. -/
  path : String
  /-- Why it could not be done. -/
  obstacle : Obstacle
  deriving DecidableEq, Repr

/-- The text of an error about a file. -/
def FileError.message (e : FileError) : String :=
  e.action ++ " " ++ e.path ++ ": " ++ e.obstacle.message

/-- A tree of files and the directory in which one is, as names from the root on. -/
structure Store where
  /-- The tree. -/
  root : Node
  /-- The directory in which one is. -/
  current : List String

namespace Store

/-- The longest name that can be stored, in octets. -/
def longestName : Nat := 255

/-- Follows names from a place: a point stays, two points go up. -/
def follow (root : Node) : (place : List String) → (names : List String) →
    Except Obstacle (List String × Node)
  | place, [] =>
    match root.at? place with
    | some n => .ok (place, n)
    | none => .error .missing
  | place, name :: rest =>
    match root.at? place with
    | none => .error .missing
    | some (.file _) => .error .notDirectory
    | some (.directory es) =>
      if name == "." then follow root place rest
      else if name == ".." then follow root place.dropLast rest
      else if longestName < name.utf8ByteSize then .error .nameTooLong
      else if es.any (·.1 == name) then follow root (place ++ [name]) rest
      else .error .missing

/-- Whether a path ends with a slash. -/
def endsWithSlash (path : String) : Bool :=
  path.toList.getLast? == some '/'

/-- What a path leads to. A path that ends with a slash has to lead to a directory. -/
def find (s : Store) (path : String) : Except Obstacle Node := do
  if path == "" then throw .missing
  let start := if Path.isAbsolute path then [] else s.current
  let (_, node) ← follow s.root start (Path.names path)
  if endsWithSlash path && !node.isDirectory then throw .notDirectory
  return node

/-- The directory in which one is, as a path. -/
def currentPath (s : Store) : String :=
  Path.text true s.current

/-- The path from the root on. -/
def absolute (s : Store) (path : String) : String :=
  Path.absolute s.currentPath path

/-- The content of a file. -/
def read (s : Store) (path : String) : Except FileError Octets :=
  match s.find path with
  | .error o => .error ⟨"open", path, o⟩
  | .ok (.file content) => .ok content
  | .ok (.directory _) => .error ⟨"read", path, .isDirectory⟩

/-- The names in a directory in order, none if the path does not lead to one. -/
def list (s : Store) (path : String) : List String :=
  match s.find path with
  | .ok n => n.sorted.map (·.1)
  | .error _ => []

end Store

end Bindery
