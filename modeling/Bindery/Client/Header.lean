/-!
# Header fields

The header of a request: names, each with its values. Names are written in one form, with a capital
letter at the beginning of each word.

## Main definitions

- `canonicalName` — the form of a name
- `Header`, `Header.add`, `Header.set` — a header and the two ways to change it
-/

namespace Bindery

/-- Whether a character may stand in the name of a header field. -/
def isFieldChar (c : Char) : Bool :=
  c.isAlphanum || "!#$%&'*+-.^_\x60|~".toList.contains c

/-- The letters of a name: capital at the beginning and after a hyphen, small otherwise. -/
def capitalizeWords : (start : Bool) → List Char → List Char
  | _, [] => []
  | start, c :: rest =>
    (if start then c.toUpper else c.toLower) :: capitalizeWords (c == '-') rest

/-- The form of a name. A name with characters that may not stand in it stays as it is. -/
def canonicalName (name : String) : String :=
  if name.toList.all isFieldChar then String.ofList (capitalizeWords true name.toList) else name

/-- The fields of a header: names, each with its values. -/
abbrev Header := List (String × List String)

namespace Header

/-- Adds a value to a field. -/
def add (h : Header) (name value : String) : Header :=
  let name := canonicalName name
  if h.any (·.1 == name) then h.map fun f => if f.1 == name then (name, f.2 ++ [value]) else f
  else h ++ [(name, [value])]

/-- Gives a field one value in place of those it had. -/
def set (h : Header) (name value : String) : Header :=
  let name := canonicalName name
  h.filter (·.1 != name) ++ [(name, [value])]

/-- Adds all values of another header. -/
def addAll (h : Header) (more : Header) : Header :=
  more.foldl (fun h (name, values) => values.foldl (fun h v => h.add name v) h) h

/-- The first value of a field, empty if there is none. -/
def get (h : Header) (name : String) : String :=
  ((h.find? (·.1 == canonicalName name)).bind (·.2.head?)).getD ""

end Header

end Bindery
