/-!
# Paths

A path is a text of names with slashes between them. These operations look at the text alone and not
at what is stored.

## Main definitions

- `Path.clean` — the shortest path that means the same
- `Path.join` — several paths one after another
- `Path.directory`, `Path.base`, `Path.extension` — the parts of a path
- `Path.absolute` — a path from the root on
-/

namespace Bindery.Path

/-- Whether a path begins at the root. -/
def isAbsolute (path : String) : Bool :=
  path.toList.head? == some '/'

/-- The names between slashes, without empty ones. -/
def names (path : String) : List String :=
  ((path.toList.splitOn '/').filter (!·.isEmpty)).map String.ofList

/-- Adds a name to names in reverse order: a point adds nothing, and two points take the last name
away. Above the root there is only the root. -/
def step (rooted : Bool) (reversed : List String) (name : String) : List String :=
  match name, reversed with
  | ".", names => names
  | "..", [] => if rooted then [] else [".."]
  | "..", ".." :: names => ".." :: ".." :: names
  | "..", _ :: names => names
  | name, names => name :: names

/-- The text of names, from the root on or not. -/
def text (rooted : Bool) (names : List String) : String :=
  let rest := String.intercalate "/" names
  if rooted then "/" ++ rest else if rest == "" then "." else rest

/-- The shortest path that means the same. -/
def clean (path : String) : String :=
  let rooted := isAbsolute path
  text rooted ((names path).foldl (step rooted) []).reverse

/-- Paths one after another, in the shortest form. Empty ones are left out. -/
def join (paths : List String) : String :=
  match paths.filter (· != "") with
  | [] => ""
  | paths => clean (String.intercalate "/" paths)

/-- The path up to its last slash, and the name after it. -/
def split (path : String) : String × String :=
  let reversed := path.toList.reverse
  (String.ofList (reversed.dropWhile (· != '/')).reverse,
    String.ofList (reversed.takeWhile (· != '/')).reverse)

/-- The directory of a path. -/
def directory (path : String) : String :=
  clean (split path).1

/-- The last name of a path. -/
def base (path : String) : String :=
  if path == "" then "."
  else
    let trimmed := String.ofList (path.toList.reverse.dropWhile (· == '/')).reverse
    if trimmed == "" then "/" else (split trimmed).2

/-- The last name from its last point on, empty if it has none. -/
def extension (path : String) : String :=
  let reversed := (split path).2.toList.reverse
  match reversed.span (· != '.') with
  | (_, []) => ""
  | (letters, point :: _) => String.ofList (point :: letters.reverse)

/-- The path from the root on, when one is in the given directory. -/
def absolute (directory path : String) : String :=
  if isAbsolute path then clean path else join [directory, path]

end Bindery.Path
