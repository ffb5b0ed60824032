import Bindery.Files.Store

/-!
# Writing files

A file is replaced at once or not at all: its new content is collected in a draft, a file next to it
under a name that is free, which then takes the name of the file.

## Main definitions

- `Node.add`, `Node.rename` — a new entry of a directory, and another name for a file
- `Store.makeDirectories` — makes the directories on the way to a place
- `Draws`, `Store.createDraft` — the numbers in the names of drafts, and an empty draft
- `Store.write` — replaces a file, making the directories on the way
- `Store.WriteError` — why a file cannot be written
-/

namespace Bindery

/-- The tree with a new entry in the directory at a place. The name has to be free. -/
def Node.add (root : Node) (place : List String) (name : String) (new : Node) :
    Except Obstacle Node :=
  match root.at? place with
  | none => .error .missing
  | some (.file _) => .error .notDirectory
  | some (.directory es) =>
    if Store.longestName < name.utf8ByteSize then .error .nameTooLong
    else if es.any (·.1 == name) then .error .exists
    else .ok (root.insert (place ++ [name]) new)

/-- The tree in which an entry of the directory at a place has another name. A file that has this name
is replaced, a directory is not. -/
def Node.rename (root : Node) (place : List String) (source target : String) :
    Except Obstacle Node :=
  match root.at? (place ++ [source]), root.at? (place ++ [target]) with
  | none, _ => .error .missing
  | some _, some (.directory _) => .error .exists
  | some n, _ => .ok ((root.remove (place ++ [source])).insert (place ++ [target]) n)

/-- The numbers that are drawn for the names of drafts, one after another. -/
abbrev Draws := Nat → UInt32

namespace Store

/-- Makes the directories that names lead to below a place. Returns the tree also when there is an
error: the directories that were made before stay. -/
def makeDirectories : (root : Node) → (place names : List String) → Node × Except FileError Unit
  | root, _, [] => (root, .ok ())
  | root, place, name :: rest =>
    let here := place ++ [name]
    let path := Path.text true here
    if longestName < name.utf8ByteSize then (root, .error ⟨"mkdir", path, .nameTooLong⟩)
    else match root.at? here with
      | some (.directory _) => makeDirectories root here rest
      | some (.file _) => (root, .error ⟨"mkdir", path, .notDirectory⟩)
      | none =>
        match root.add place name (.directory []) with
        | .error o => (root, .error ⟨"mkdir", path, o⟩)
        | .ok root => makeDirectories root here rest

/-- Why a file cannot be written. -/
inductive WriteError where
  /-- A path leads nowhere. -/
  | file (error : FileError)
  /-- The new file cannot take its place. -/
  | rename (source target : String) (obstacle : Obstacle)
  deriving DecidableEq, Repr

/-- The text of an error about writing. -/
def WriteError.message : WriteError → String
  | file e => e.message
  | rename source target o => "rename " ++ source ++ " " ++ target ++ ": " ++ o.message

/-- The name of a draft of a file: a point, the name of the file, a point and digits. -/
def draftName (name digits : String) : String :=
  "." ++ name ++ "." ++ digits

/-- So many numbers are drawn for one draft at most. -/
def draftTries : Nat := 10000

/-- Makes an empty draft of a file in the directory at a place, under the first of the drawn names that
is free. Returns its name and the tree. -/
def createDraft (root : Node) (place : List String) (name : String) :
    (numbers : List UInt32) → Except FileError (String × Node)
  | [] => .error ⟨"createtemp", Path.text true (place ++ [draftName name "*"]), .exists⟩
  | number :: rest =>
    let draft := draftName name (toString number)
    match root.add place draft (.file []) with
    | .ok root => .ok (draft, root)
    | .error .exists => createDraft root place name rest
    | .error o => .error ⟨"open", Path.text true (place ++ [draft]), o⟩

/-- Replaces a file at a path from the root on. The directories on the way are made first; the
content is collected in a draft, so that the file is replaced at once or not at all. Returns the
tree also when there is an error. -/
def write (s : Store) (draws : Draws) (path : String) (content : Octets) :
    Store × Except WriteError Unit :=
  let place := Path.names (Path.directory path)
  let name := Path.base path
  match makeDirectories s.root [] place with
  | (root, .error e) => ({ s with root }, .error (.file e))
  | (root, .ok ()) =>
    match createDraft root place name ((List.range draftTries).map draws) with
    | .error e => ({ s with root }, .error (.file e))
    | .ok (draft, root) =>
      let drafted := root.insert (place ++ [draft]) (.file content)
      let renamed := drafted.rename place draft name
      -- the draft is removed in any case, even though a renamed one is gone already
      ({ s with root := (renamed.toOption.getD drafted).remove (place ++ [draft]) },
        (renamed.mapError (.rename (Path.text true (place ++ [draft])) path)).map fun _ => ())

end Store

end Bindery
