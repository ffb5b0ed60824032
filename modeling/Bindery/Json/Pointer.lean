/-!
# Places in JSON values

A place is the path from the whole value down to a part of it, and errors of reading and writing
name the place at fault.

## Main definitions

- `Json.Pointer` — the names and numbers of the parts on the way
- `Json.Pointer.text` — the text of a place, such as `/data/0/name`
- `Json.Fault` — an error of form or of meaning, and its place
-/

namespace Bindery.Json

/-- The names of members and numbers of items on the way from the whole value to a part of it. -/
abbrev Pointer := List String

namespace Pointer

/-- The place of a member. -/
def member (p : Pointer) (name : String) : Pointer :=
  p ++ [name]

/-- The place of an item. -/
def item (p : Pointer) (index : Nat) : Pointer :=
  p ++ [toString index]

/-- The characters that stand for `c` in the text of a place. -/
def escapeChar : Char → List Char
  | '~' => ['~', '0']
  | '/' => ['~', '1']
  | c => [c]

/-- The text of a place: every step after a slash. -/
def text (p : Pointer) : String :=
  String.join (p.map fun s => "/" ++ String.ofList (s.toList.flatMap escapeChar))

end Pointer

/-- What kind of error a place is at fault of. -/
inductive FaultKind where
  /-- The text is no JSON. -/
  | form
  /-- The text is JSON but means something else than expected. -/
  | meaning
  deriving DecidableEq, Repr

/-- An error of reading or writing JSON. -/
structure Fault where
  /-- The kind of error. -/
  kind : FaultKind
  /-- The place at fault. -/
  pointer : Pointer
  deriving DecidableEq, Repr

/-- The error with a longer way to its place. -/
def Fault.under (f : Fault) (step : String) : Fault :=
  { f with pointer := step :: f.pointer }

end Bindery.Json
