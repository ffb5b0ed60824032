import Bindery.Files.Store

/-!
# Files below a path

## Main definitions

- `Node.filesBelow` — the files below a node
- `Store.walk` — the files below a path
-/

namespace Bindery

mutual

/-- The paths of the files below a node, directories and names in order. -/
def Node.filesBelow (path : String) : (fuel : Nat) → Node → List String
  | 0, _ => []
  | _ + 1, .file _ => [path]
  | fuel + 1, .directory es => Node.filesOf path fuel (Node.directory es).sorted

/-- The paths of the files below the entries of a directory. -/
def Node.filesOf (path : String) : (fuel : Nat) → List (String × Node) → List String
  | 0, _ => []
  | _, [] => []
  | fuel + 1, (name, n) :: rest =>
    n.filesBelow (Path.join [path, name]) fuel ++ Node.filesOf path (fuel + 1) rest

end

mutual

/-- How deep directories are nested. -/
def Node.depth : Node → Nat
  | .file _ => 0
  | .directory es => Node.depthOf es + 1

/-- How deep directories are nested in the entries of a directory. -/
def Node.depthOf : List (String × Node) → Nat
  | [] => 0
  | (_, n) :: rest => max n.depth (Node.depthOf rest)

end

/-- The files below a path, in the order of their names. -/
def Store.walk (s : Store) (path : String) : Except FileError (List String) :=
  match s.find path with
  | .error o => .error ⟨"lstat", path, o⟩
  | .ok n => .ok (n.filesBelow path (2 * n.depth + 2))

end Bindery
