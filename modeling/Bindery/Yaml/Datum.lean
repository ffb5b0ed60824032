import Bindery.Data.Base64
import Bindery.Number.Literal
import Bindery.Text.Octets
import Bindery.Yaml.Node

/-!
# What a document stands for

A part of a document stands for a value by itself, whatever it is wanted for. A tag changes the kind of the
value, a reference stands for the part with its name, and a merge key adds the entries of another mapping.

## Main definitions

- `Yaml.Datum` — a value
- `Yaml.Datum.display` — its text
- `Yaml.Names` — the parts with names
- `Yaml.evaluate` — what a part stands for
-/

namespace Bindery.Yaml

/-- A value. -/
inductive Datum where
  | null
  | text (value : String)
  | bool (value : Bool)
  /-- A whole number with a minus sign. -/
  | signed (value : Int)
  /-- A whole number without a sign. -/
  | unsigned (value : Int)
  /-- A whole number by its tag. -/
  | whole (value : Int)
  | float (value : Binary)
  /-- Octets, as numbers below 256. -/
  | octets (values : List Nat)
  /-- A point in time. -/
  | moment
  | list (items : List Datum)
  | map (entries : List (String × Datum))
  deriving Inhabited

/-- A floating point number has an exponent if it is small or has more than six digits before the
point. -/
def floatText : FloatStyle := ⟨-4, 5, 2⟩

namespace Datum

/-- The value of a scalar. -/
def ofPlain : Plain → Datum
  | .null => null
  | .bool b => bool b
  | .integer negative n => if negative then signed n else unsigned n
  | .float x => float x
  | .text s => text s

/-- Whether a value is null. -/
def isNull : Datum → Bool
  | null => true
  | _ => false

/-- The name of the type of a value. -/
def typeName : Datum → String
  | null => "%!s(<nil>)"
  | text _ => "string"
  | bool _ => "bool"
  | signed _ => "int64"
  | unsigned _ => "uint64"
  | whole _ => "int"
  | float _ => "float64"
  | octets _ => "[]uint8"
  | moment => "time.Time"
  | list _ => "[]interface \x7b\x7d"
  | map _ => "map[string]interface \x7b\x7d"

mutual

/-- The text of a value. -/
def display : Datum → String
  | null => "<nil>"
  | text s => s
  | bool b => if b then "true" else "false"
  | signed n => toString n
  | unsigned n => toString n
  | whole n => toString n
  | float x => x.text .double floatText
  | octets ns => "[" ++ String.intercalate " " (ns.map toString) ++ "]"
  | moment => ""
  | list items => "[" ++ String.intercalate " " (displayItems items) ++ "]"
  | map entries =>
    let sorted := (displayEntries entries).mergeSort fun a b => decide (a.1 ≤ b.1)
    "map[" ++ String.intercalate " " (sorted.map fun e => e.1 ++ ":" ++ e.2) ++ "]"

/-- The texts of values. -/
def displayItems : List Datum → List String
  | [] => []
  | d :: rest => d.display :: displayItems rest

/-- The texts of the values of entries. -/
def displayEntries : List (String × Datum) → List (String × String)
  | [] => []
  | (k, d) :: rest => (k, d.display) :: displayEntries rest

end

/-- The text that a value is taken as where a text is wanted, none if it has no such text. -/
def asText? : Datum → Option String
  | null => some ""
  | octets ns => some (Octets.lossy (ns.map UInt8.ofNat))
  | moment => none
  | list _ => none
  | map _ => none
  | d => some d.display

/-- The number that a value is taken as by a tag. -/
def toFloat : Datum → Datum
  | signed n => ofInt n
  | unsigned n => ofInt n
  | whole n => ofInt n
  | float x => float x
  | text s => float ((Binary.literal? .double s.toList).getD .zero)
  | _ => whole 0
where
  /-- The floating point number nearest to a whole number. -/
  ofInt (n : Int) : Datum :=
    float (Binary.ofQuotient .double (n < 0) n.natAbs 1)

/-- The whole number that a value is taken as by a tag, zero if its text is none. -/
def toWhole (d : Datum) : Datum :=
  let limit : Int := Nat.pow 2 63
  match signedNumber? d.display.toList with
  | some n => whole (max (-limit) (min (limit - 1) n))
  | none => whole 0

/-- The truth value that a value is taken as by a tag. -/
def truth? (d : Datum) : Option Bool :=
  let s := String.ofList (d.display.toList.map Char.toLower)
  if ["1", "t", "true", "yes"].contains s then some true
  else if ["0", "f", "false", "no"].contains s then some false
  else none

end Datum

/-- Why a document does not fit what is wanted. -/
inductive DecodeError where
  /-- The document is none, or has something else than is wanted. -/
  | other (error : Error)
  /-- A value has another type than the field of a record, or than what is wanted by itself. -/
  | mismatch (place : Place) (source : String) (field : Option String) (target : String)
  deriving DecidableEq, Repr

/-- The text of an error of decoding. -/
def DecodeError.message : DecodeError → String
  | other e => e.message
  | mismatch place source field target =>
    let goal := match field with
      | none => "value"
      | some name => "struct field " ++ name
    (Error.located place
      ("cannot unmarshal " ++ source ++ " into Go " ++ goal ++ " of type " ++ target)).message

/-- The parts with names. A part whose value is not known yet is none. -/
structure Names where
  /-- The parts, the last one for each name first. -/
  nodes : List (String × Option Node) := []
  /-- The parts that were decoded, with the types they were decoded as. -/
  decoded : List (String × String × Node) := []

/-- Decoding that may fail. -/
abbrev Decoding := StateT Names (Except DecodeError)

/-- Fails. -/
def reject {α : Type} (e : Error) : Decoding α :=
  StateT.lift (.error (.other e))

/-- Fails at a place. -/
def rejectAt {α : Type} (p : Place) (text : String) : Decoding α :=
  reject (.located p text)

/-- Fails because parts of a document lead to parts more often than is allowed. -/
def tooDeep {α : Type} : Decoding α :=
  reject (.general "exceeded max depth")

/-- The part with a name. -/
def named? (name : String) : Decoding (Option (Option Node)) := do
  return ((← get).nodes.find? (·.1 == name)).map (·.2)

/-- Gives a name to a part. -/
def setName (name : String) (n : Option Node) : Decoding Unit :=
  modify fun s => { s with nodes := (name, n) :: s.nodes }

/-- The name of the kind of a part of a document. -/
def Node.kindName : Node → String
  | scalar _ v => v.kindName
  | block _ _ => "scalar"
  | mergeKey _ => "merge key"
  | sequence _ _ => "sequence"
  | mapping _ _ => "mapping"
  | anchor _ _ _ => "anchor"
  | reference _ _ => "alias"
  | tagged _ _ _ => "tag"
  | question _ _ => "key"
  | directive _ => "directive"

/-- The error that a part of a document is not of the wanted kind. -/
def wrongKind {α : Type} (n : Node) (wanted : String) : Decoding α :=
  rejectAt n.place (n.kindName ++ " was used where " ++ wanted ++ " is expected")

/-- The entries of a mapping. To merge, a sequence of mappings is taken as well. -/
def entriesOf (merges : Bool) : (fuel : Nat) → Node → Decoding (List (Node × Node))
  | 0, _ => tooDeep
  | fuel + 1, n => do
    match n with
    | .mapping _ entries => return entries
    | .tagged _ _ (.mapping _ entries) => return entries
    | .tagged _ _ _ => reject .broken
    | .anchor _ name value =>
      setName name (some value)
      entriesOf merges fuel value
    | .reference _ name =>
      match ← named? name.text with
      | some (some target) => entriesOf merges fuel target
      | _ => reject (.general ("cannot find anchor by alias name " ++ name.text))
    | .sequence _ items =>
      if merges then return (← items.mapM fun item => entriesOf false fuel item).flatten
      else wrongKind n "mapping"
    | n => if n.isNull then return [] else wrongKind n "mapping"

/-- The items of a sequence, none for null. -/
def itemsOf : (fuel : Nat) → Node → Decoding (Option (List Node))
  | 0, _ => tooDeep
  | fuel + 1, n => do
    match n with
    | .sequence _ items => return some items
    | .tagged _ _ (.sequence _ items) => return some items
    | .tagged _ _ _ => reject .broken
    | .anchor _ name value =>
      setName name (some value)
      itemsOf fuel value
    | .reference _ name =>
      match ← named? name.text with
      | some (some target) => itemsOf fuel target
      | _ => reject (.general ("cannot find anchor by alias name " ++ name.text))
    | n => if n.isNull then return none else wrongKind n "sequence"

/-- Parts may lead to parts, but not more often than this. -/
def depthLimit : Nat := 10000

/-- The entries after a new one, which takes the place of an old one with its key. -/
def putEntry {α : Type} (key : String) (value : α) (entries : List (String × α)) : List (String × α) :=
  if entries.any (·.1 == key) then entries.map fun e => if e.1 == key then (key, value) else e
  else entries ++ [(key, value)]

/-- The text of a value as a key. -/
def Datum.keyName : Datum → String
  | null => "null"
  | d => d.display

mutual

/-- What a part stands for. The names whose parts are being looked at stand for nothing. -/
def evaluate : (fuel : Nat) → (within : List String) → Node → Decoding Datum
  | 0, _, _ => tooDeep
  | fuel + 1, within, n => do
    match n with
    | .scalar _ v => return .ofPlain v
    | .block _ s => return .text s
    | .mergeKey _ => return .null
    | .directive _ => return .null
    | .question _ key => evaluate fuel within key
    | .sequence _ items => return .list (← items.mapM fun item => evaluate fuel within item)
    | .mapping _ entries => return .map (← entries.foldlM (addEntry fuel within) [])
    | .anchor _ name value =>
      setName name none
      let d ← evaluate fuel within value
      setName name (some value)
      return d
    | .reference _ name =>
      if within.contains name.text then return .null
      else match ← named? name.text with
        | none => rejectAt name.place ("could not find alias " ++ quoted name.text)
        | some none => return .null
        | some (some target) => evaluate fuel (name.text :: within) target
    | .tagged tag asText value =>
      let d ← if tag.text == "!!null" || tag.text == "!!timestamp" then pure .null
        else evaluate fuel within value
      if asText || tag.text == "!!str" then return .text (if d.isNull then "" else d.display)
      else match tag.text with
        | "!!timestamp" => return .moment
        | "!!int" => return d.toWhole
        | "!!float" => return d.toFloat
        | "!!binary" =>
          match d with
          | .text s => return .octets (unbase64Start (s.toList.filter (!isBreak ·)))
          | d => rejectAt value.place ("cannot convert " ++ quoted d.display ++ " to string")
        | "!!bool" =>
          match d.truth? with
          | some b => return .bool b
          | none => rejectAt value.place ("cannot convert " ++ quoted d.display ++ " to boolean")
        | _ => return d

/-- Adds what an entry of a mapping stands for to others. -/
def addEntry : (fuel : Nat) → (within : List String) → List (String × Datum) → Node × Node →
    Decoding (List (String × Datum))
  | 0, _, _, _ => tooDeep
  | fuel + 1, within, done, (key, value) => do
    if key.isMergeKey then (← entriesOf true depthLimit value).foldlM (addEntry fuel within) done
    else
      let name := (← evaluate fuel within key).keyName
      let d ← evaluate fuel within value
      return putEntry name d done

end

/-- What a part stands for. -/
def Node.datum (n : Node) : Decoding Datum :=
  evaluate depthLimit [] n

end Bindery.Yaml
