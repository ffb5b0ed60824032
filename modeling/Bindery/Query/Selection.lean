import Bindery.Query.Argument

/-!
# Selections

A selection is a field below another selection, down from the root of an operation. Selections that
share a beginning share it for good: arguments given to a selection show in everything below it.

## Main definitions

- `Selection`, `Forest` — a selection with the one it lies below, and all selections of a program
- `Forest.root`, `Forest.select`, `Forest.withArguments` — the ways to make and change selections
- `Forest.chain` — the selections from the root down to one
- `Forest.path`, `Forest.operation` — their names
- `document` — the query document of a chain
- `Leaf` — where a chain ends, with the place it is sent to
-/

namespace Bindery

/-- A selection: a field, or the root of an operation. -/
structure Selection where
  /-- The name of the field or the keyword of the operation. -/
  name : Octets
  /-- The written arguments, or why they cannot be written. -/
  arguments : Written
  /-- The number of the selection it lies below, none for a root. -/
  parent : Option Nat

/-- All selections, each with a number. -/
structure Forest where
  /-- The selections in the order in which they were made. -/
  selections : List Selection

namespace Forest

/-- No selections. -/
def empty : Forest :=
  ⟨[]⟩

/-- Adds a selection and returns its number. -/
def add (f : Forest) (s : Selection) : Forest × Nat :=
  (⟨f.selections ++ [s]⟩, f.selections.length)

/-- Begins an operation. -/
def root (f : Forest) (operation : Octets) : Forest × Nat :=
  f.add ⟨operation, .ok [], none⟩

/-- Selects a field below a selection. -/
def select (f : Forest) (parent : Nat) (name : Octets) : Forest × Nat :=
  f.add ⟨name, .ok [], some parent⟩

/-- Gives written arguments to a selection. -/
def setArguments (f : Forest) (i : Nat) (w : Written) : Forest :=
  ⟨f.selections.modify i fun s => { s with arguments := w }⟩

/-- Gives arguments to a selection, or takes them away. None if a value that should write itself is
not there. -/
def withArguments (f : Forest) (i : Nat) (v : Option Value) : Option Forest :=
  match v with
  | none => some (f.setArguments i (.ok []))
  | some v =>
    match v.arguments false with
    | .error ⟨_, .missingWriter⟩ => none
    | w => some (f.setArguments i w)

/-- The selections from the root down to the one with a number. A selection lies below an earlier
one. -/
def chain (f : Forest) (i : Nat) : List Selection :=
  match f.selections[i]? with
  | none => []
  | some s =>
    match s.parent with
    | none => [s]
    | some p => if _ : p < i then f.chain p ++ [s] else [s]
termination_by i

/-- The names of the fields from the root down. -/
def path (f : Forest) (i : Nat) : List Octets :=
  (f.chain i).tail.map (·.name)

/-- The keyword of the operation. -/
def operation (f : Forest) (i : Nat) : Octets :=
  ((f.chain i).head?.map (·.name)).getD []

end Forest

/-- Why a selection has no document. -/
inductive DocumentError where
  /-- Nothing is selected. -/
  | emptySelection
  /-- The arguments of a field cannot be written. -/
  | arguments (field : Octets) (error : ArgumentError)
  deriving DecidableEq, Repr

/-- The text of an error, where `fault` words an error of JSON. -/
def DocumentError.message (fault : Json.Fault → String) : DocumentError → Octets
  | emptySelection => Octets.ofString "querybuilder: empty selection"
  | arguments field e =>
    Octets.ofString "querybuilder: arguments of " ++ field ++ Octets.ofString ": " ++ e.message fault

/-- An argument list in parentheses, nothing if there are no arguments. -/
def parenthesized : Octets → Octets
  | [] => []
  | o => 0x28 :: o ++ [0x29]

/-- The fields of a document, each in braces below the one before it. -/
def nest : List Selection → Except DocumentError Octets
  | [] => .ok []
  | s :: rest =>
    match s.arguments with
    | .error e => .error (.arguments s.name e)
    | .ok args =>
      (nest rest).map fun inner => 0x7b :: s.name ++ parenthesized args ++ inner ++ [0x7d]

/-- The query document of a chain: the operation and its fields. -/
def document : List Selection → Except DocumentError Octets
  | [] | [_] => .error .emptySelection
  | root :: fields => (nest fields).map (root.name ++ ·)

/-- The query document of a selection. -/
def Forest.build (f : Forest) (i : Nat) : Except DocumentError Octets :=
  document (f.chain i)

/-- The end of a chain: the port of the session and the selection, which may be missing. -/
structure Leaf where
  /-- The port of the session. -/
  port : Int
  /-- The number of the selection. -/
  selection : Option Nat

/-- The address of the session. -/
def Leaf.url (l : Leaf) : String :=
  "http://127.0.0.1:" ++ toString l.port ++ "/query"

/-- The query document of the end of a chain. -/
def Leaf.query (f : Forest) (l : Leaf) : Except DocumentError Octets :=
  match l.selection with
  | none => .error .emptySelection
  | some i => f.build i

end Bindery
