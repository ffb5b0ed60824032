import Bindery.Files.Store

/-!
# Changed files

What has become of files is seen by comparing two trees.

## Main definitions

- `Node.files` — the files of a tree with their contents
- `Store.changes` — the files that are new or have new content
-/

namespace Bindery

mutual

/-- The files below a path with their contents. -/
def Node.files (path : List String) : Node → List (List String × Octets)
  | .file content => [(path, content)]
  | .directory es => Node.filesIn path es

/-- The files below the entries of a directory with their contents. -/
def Node.filesIn (path : List String) : List (String × Node) → List (List String × Octets)
  | [] => []
  | (name, n) :: rest => n.files (path ++ [name]) ++ Node.filesIn path rest

end

/-- Whether a tree has a file with a content. -/
def Node.holds (n : Node) (path : List String) (content : Octets) : Bool :=
  match n.at? path with
  | some (.file old) => old == content
  | _ => false

/-- The files that are new or have new content, as names from the root on. -/
def Store.changes (before after : Store) : List (List String × Octets) :=
  (after.root.files []).filter fun (path, content) => !before.root.holds path content

end Bindery
