import Bindery.Data.Encode
import Bindery.Data.Tag

/-!
# Arguments of a field

A record or a map is written as the argument list of a field: names, colons and values in the
notation of the query language. What is not there is left out, the entries of a map come in the order
of their keys, and an enum value is written without quotes.

## Main definitions

- `ArgumentError`, `ArgumentError.message` — why a value is no argument list
- `Json.literal` — a JSON value in the notation of the query language
- `Value.write` — a value in the notation of the query language
- `Value.arguments` — the argument list of a record or a map, without parentheses
-/

namespace Bindery

/-- Why a value cannot be written. -/
inductive ArgumentCause where
  /-- An argument list is wanted from a value that is neither a record nor a map. -/
  | notArguments (type : String)
  /-- The keys of a map are no texts. -/
  | mapKey (type : String)
  /-- The query language has no values for the type. -/
  | unsupported (type : String)
  /-- The value has no JSON form. -/
  | json (fault : Json.Fault)
  /-- A value that should write itself is not there. -/
  | missingWriter
  deriving DecidableEq, Repr

/-- Why a value cannot be written, and the names on the way to it. -/
structure ArgumentError where
  /-- The names of the members and entries on the way to the value. -/
  path : List Octets
  /-- Why the value there cannot be written. -/
  cause : ArgumentCause
  deriving DecidableEq, Repr

/-- The text of a cause, where `fault` words an error of JSON. -/
def ArgumentCause.message (fault : Json.Fault → String) : ArgumentCause → String
  | notArguments type => "arguments must be a struct or a map, got " ++ type
  | mapKey type => "map key must be a string, got " ++ type
  | unsupported type => "unsupported argument type " ++ type
  | json f => fault f
  | missingWriter => "missing value"

/-- The text of an error: every name on the way, then the cause. -/
def ArgumentError.message (fault : Json.Fault → String) (e : ArgumentError) : Octets :=
  e.path.flatMap (· ++ Octets.ofString ": ") ++ Octets.ofString (e.cause.message fault)

/-- The error with one more name on the way. -/
def ArgumentError.under (name : Octets) (e : ArgumentError) : ArgumentError :=
  { e with path := name :: e.path }

/-- A written value, or why it cannot be written. -/
abbrev Written := Except ArgumentError Octets

namespace Written

/-- The failure for a cause. -/
def refuse (cause : ArgumentCause) : Written :=
  .error ⟨[], cause⟩

/-- Texts with a comma between each two of them. -/
def commaSeparated : List Octets → Octets
  | [] => []
  | [o] => o
  | o :: rest => o ++ 0x2c :: commaSeparated rest

/-- Items with commas between them, or the first failure. -/
def items (ws : List Written) : Written :=
  (ws.mapM id).map commaSeparated

/-- A name, a colon and the value, or the failure of the value under the name. -/
def named (name : Octets) (w : Written) : Written :=
  match w with
  | .ok o => .ok (name ++ 0x3a :: o)
  | .error e => .error (e.under name)

/-- Named values with commas between them, or the first failure. -/
def fields (ws : List (Octets × Written)) : Written :=
  items (ws.map fun (name, w) => named name w)

/-- A written value between two characters. -/
def between (left right : Char) (w : Written) : Written :=
  w.map fun o => Octets.ofString left.toString ++ o ++ Octets.ofString right.toString

end Written

namespace Json

mutual

/-- A JSON value in the notation of the query language: names stand without quotes, and members that
are null are left out. -/
def literal : Json → Octets
  | array items => 0x5b :: Written.commaSeparated (literalItems items) ++ [0x5d]
  | object members => 0x7b :: Written.commaSeparated (literalMembers members) ++ [0x7d]
  | j => Octets.ofString j.text

/-- The items of an array. -/
def literalItems : List Json → List Octets
  | [] => []
  | j :: rest => j.literal :: literalItems rest

/-- The members of an object that are not null. -/
def literalMembers : List (String × Json) → List Octets
  | [] => []
  | (_, null) :: rest => literalMembers rest
  | (name, j) :: rest => (Octets.ofString name ++ 0x3a :: j.literal) :: literalMembers rest

end

end Json

namespace Value

/-- The value in its JSON form. -/
def writeJson (v : Value) : Written :=
  match v.encode with
  | .ok j => .ok (Octets.ofString j.text)
  | .error f => .refuse (.json f)

/-- How a member of a record is written as an argument: its name, none if it is left out. -/
def argumentName? (label : MemberLabel) (v : Value) : Option Octets :=
  match label.written? with
  | none => none
  | some (name, tag) =>
    let omits := tag.has "omitempty" || tag.has "omitzero"
    if v.isAbsent || (omits && v.isZero) then none else some (Octets.ofString name)

/-- The order of the entries of a map: by the octets of their keys. -/
def entryLe (a b : Octets × Written) : Bool :=
  !decide (b.1 < a.1)

/-- The fields of a map whose keys have a type, or a failure if they are no texts. -/
def mapFields (key : DataType) (entries : List (Octets × Written)) : Written :=
  match key with
  | .text _ => .fields (entries.mergeSort entryLe)
  | key => .refuse (.mapKey key.name)

/-- The one member of a schema, with all that is in it. -/
def schemaFields (s : Schema) : List (Octets × Written) :=
  [(Octets.ofString "__schema", .ok s.json.literal)]

mutual

/-- A value in the notation of the query language. A value is `stored` if it lies at a place that can
be pointed to, which some enum values need in order to write themselves. -/
def write (stored : Bool) : Value → Written
  | text .enum o => .ok o
  | text .storedEnum o => if stored then .ok o else writeJson (text .storedEnum o)
  | integer .uintptr _ => .refuse (.unsupported IntegerKind.uintptr.name)
  | complex => .refuse (.unsupported DataType.complex.name)
  | routine _ => .refuse (.unsupported DataType.routine.name)
  | channel _ => .refuse (.unsupported DataType.channel.name)
  | nilInterface _ | nilPointer _ | nilSlice _ | nilMap _ _ => .ok (Octets.ofString "null")
  | interface .writer (nilPointer _) => .refuse .missingWriter
  | interface _ content => content.write false
  | pointer target => target.write true
  | slice _ items => .between '[' ']' (.items (writeItems true items))
  | array _ items => .between '[' ']' (.items (writeItems stored items))
  | map key _ entries => .between '\x7b' '\x7d' (mapFields key (writeEntries entries))
  | record members => .between '\x7b' '\x7d' (.fields (writeMembers stored members))
  | schema s => .between '\x7b' '\x7d' (.fields (schemaFields s))
  | v => v.writeJson

/-- The items of a list. -/
def writeItems (stored : Bool) : List Value → List Written
  | [] => []
  | v :: rest => v.write stored :: writeItems stored rest

/-- The entries of a map that are there. -/
def writeEntries : List (Value × Value) → List (Octets × Written)
  | [] => []
  | (text _ key, v) :: rest =>
    if v.isAbsent then writeEntries rest else (key, v.write false) :: writeEntries rest
  | _ :: rest => writeEntries rest

/-- The members of a record that are not left out. -/
def writeMembers (stored : Bool) : List (MemberLabel × Value) → List (Octets × Written)
  | [] => []
  | (label, v) :: rest =>
    match argumentName? label v with
    | some name => (name, v.write stored) :: writeMembers stored rest
    | none => writeMembers stored rest

end

/-- The argument list of a record or a map, without parentheses. Pointers are followed, and nothing
gives no arguments. -/
def arguments (stored : Bool) : Value → Written
  | nilInterface _ | nilPointer _ => .ok []
  | interface _ content => content.arguments false
  | pointer target => target.arguments true
  | record members => .fields (writeMembers stored members)
  | schema s => .fields (schemaFields s)
  | time _ => .ok []
  | nilMap key _ => mapFields key []
  | map key _ entries => mapFields key (writeEntries entries)
  | v => .refuse (.notArguments v.type.name)

end Value

end Bindery
