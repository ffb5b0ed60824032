import Bindery.Yaml.Datum

/-!
# Values from YAML

A document is decoded into values of given types. Where a text is wanted, a number or a truth value is
taken as the text of its value.

## Main definitions

- `Yaml.Decoder` — decodes parts of documents into values of a type
- `Yaml.text`, `Yaml.truth`, `Yaml.whole`, `Yaml.listOf`, `Yaml.mapOf` — decoders
- `Yaml.Field`, `Yaml.record` — a record by its fields, none of which may be unknown
- `Yaml.decodeFirst` — decodes the first document of a text
-/

namespace Bindery.Yaml

/-- Decodes parts of documents into values of a type. -/
structure Decoder (α : Type) where
  /-- The name of the type. -/
  target : String
  /-- Decodes a part. -/
  run : Node → Decoding α

namespace Decoder

variable {α : Type}

/-- Decodes a part with or without a name. -/
def decode (d : Decoder α) : Node → Decoding α
  | .anchor _ name value => do
    let a ← d.run value
    modify fun s => { s with decoded := (name, d.target, value) :: s.decoded }
    return a
  | n => d.run n

/-- The part that a reference stands for: the last one that was decoded as the same type, or else the last
one of all. -/
def follow (d : Decoder α) (n : Node) : Decoding Node := do
  match n with
  | .reference _ name =>
    let decoded := (← get).decoded.find? (·.1 == name.text)
    match decoded, ← named? name.text with
    | some (_, target, value), other => 
      if target == d.target then return value else return (other.bind id).getD n
    | none, other => return (other.bind id).getD n
  | n => return n

/-- Decodes a part of another one, null as a given value. -/
def part (d : Decoder α) (zero : α) (n : Node) : Decoding α := do
  let n ← d.follow n
  if n.isNull then return zero else d.decode n

/-- The error that a value has not the wanted type. -/
def mismatch (d : Decoder α) {β : Type} (n : Node) (source : String) : Decoding β :=
  StateT.lift (.error (.mismatch n.place source none d.target))

end Decoder

/-- The error that a value has another type. -/
def wrongType {α : Type} (p : Place) (source target : String) : Decoding α :=
  StateT.lift (.error (.mismatch p source none target))

/-- A text. -/
def text : Decoder String where
  target := "string"
  run n := do
    let d ← n.datum
    match d.asText? with
    | some s => return s
    | none => wrongType n.place d.typeName "string"

/-- A truth value. -/
def truth : Decoder Bool where
  target := "bool"
  run n := do
    match ← n.datum with
    | .bool b => return b
    | .null => return false
    | d => wrongType n.place d.typeName "bool"

/-- Whether a number is at most a power of two. -/
def isAtMost (x : Binary) (power : Nat) : Bool :=
  match x with
  | .nan => false
  | .infinite negative => negative
  | .finite negative m k =>
    negative || (if 0 ≤ k then m * Nat.pow 2 k.toNat ≤ Nat.pow 2 power
      else m ≤ Nat.pow 2 power * Nat.pow 2 (-k).toNat)

/-- Whether a number has a minus sign and is not zero. -/
def isBelowZero (x : Binary) : Bool :=
  match x with
  | .nan => true
  | .infinite negative => negative
  | .finite negative m _ => negative && m != 0

/-- A whole number that is looked at and not used. A floating point number is cut off, and a text may be
one. -/
def whole : Decoder Unit where
  target := "int"
  run n := do
    let d ← n.datum
    let fits ← match d with
      | .signed _ => pure true
      | .unsigned m => pure (decide (m < Nat.pow 2 63))
      | .float x => pure (isAtMost x 63)
      | .text s =>
        match Binary.literal? .double s.toList with
        | some x => pure (!isBelowZero x && isAtMost x 64)
        | none => wrongType n.place d.typeName "int"
      | _ => wrongType n.place d.typeName "int"
    if fits then return
    else rejectAt n.place ("cannot unmarshal " ++ d.display ++ " into Go value of type int ( overflow )")

/-- A list, none for null. -/
def listOf {α : Type} (item : Decoder α) (zero : α) : Decoder (Option (List α)) where
  target := "[]" ++ item.target
  run n := do
    match ← itemsOf depthLimit n with
    | none => return none
    | some items => return some (← items.mapM (item.part zero))

/-- The key of a map for a value. A whole number is the character with its number. -/
def keyOf (key : Node) : Datum → Decoding String
  | .text s => return s
  | .null => return ""
  | .signed n => return ofNumber n
  | .unsigned n => return ofNumber n
  | .whole n => return ofNumber n
  | .octets ns => return Octets.lossy (ns.map UInt8.ofNat)
  | d => wrongType key.place d.typeName "string"
where
  /-- The character with a number. -/
  ofNumber (n : Int) : String :=
    if 0 ≤ n && n < 0xd800 || 0xdfff < n && n < 0x110000 then (Char.ofNat n.toNat).toString else "�"

/-- Whether a value makes a key that may not be given twice. -/
def isUniqueKey : Datum → Bool
  | .text _ | .signed _ | .unsigned _ | .whole _ | .octets _ => true
  | _ => false

/-- Decodes an entry of a map into the others, next to which stand the keys that may not be given again.
Merged entries take the place of those before and give way to those after. -/
def decodeEntry {α : Type} (item : Decoder α) (zero : α) : (fuel : Nat) →
    List String × List (String × α) → Node × Node → Decoding (List String × List (String × α))
  | 0, _, _ => tooDeep
  | fuel + 1, (seen, done), (key, value) => do
    if key.isMergeKey then
      let merged ← (← entriesOf true depthLimit value).foldlM (decodeEntry item zero fuel) ([], [])
      return (seen, merged.2.foldl (fun es e => putEntry e.1 e.2 es) done)
    else
      let d ← key.datum
      let isUnique := isUniqueKey d
      if isUnique then
        let name ← keyOf key d
        if seen.contains name then rejectAt key.place ("duplicate key \"" ++ name ++ "\"")
      let a ← item.part zero value
      let name ← keyOf key d
      return (if isUnique then name :: seen else seen, putEntry name a done)

/-- A map from texts, none for null. -/
def mapOf {α : Type} (item : Decoder α) (zero : α) : Decoder (Option (List (String × α))) where
  target := "map[string]" ++ item.target
  run n := do
    if n.isNull then return none
    else
      let entries ← entriesOf false depthLimit n
      return some (← entries.foldlM (decodeEntry item zero depthLimit) ([], [])).2

/-- A field of a record: its key, its name in messages, and how its value changes the record. -/
structure Field (α : Type) where
  /-- The key. -/
  key : String
  /-- The name of the field in messages. -/
  name : String
  /-- Decodes the value into the record. -/
  decode : Node → α → Decoding α

/-- A field that decodes one part of a record. -/
def Field.of {α β : Type} (key name : String) (set : β → α → α) (d : Decoder β) (zero : β) : Field α where
  key := key
  name := name
  decode n a := do return set (← d.part zero n) a

/-- Adds the key and the value of an entry of a record by the text of the key, also of those that are
merged. None if a key is no text, and then no entry is added. -/
def addKeyed : (fuel : Nat) → Option (List (String × Node × Node)) → Node × Node →
    Decoding (Option (List (String × Node × Node)))
  | 0, _, _ => tooDeep
  | _ + 1, none, _ => return none
  | fuel + 1, some done, (key, value) => do
    let repeated := fun {α : Type} (p : Place) (name : String) =>
      (rejectAt p ("duplicate key \"" ++ name ++ "\"") : Decoding α)
    if key.isMergeKey then
      let others := (← (← entriesOf true depthLimit value).foldlM (addKeyed fuel) (some [])).getD []
      match others.find? fun e => done.any (·.1 == e.1) with
      | some (name, _, value) => repeated value.place name
      | none => return some (done ++ others)
    else match ← key.datum with
      | .text name =>
        if done.any (·.1 == name) then repeated key.place name
        else return some (done ++ [(name, key, value)])
      | _ => return none

/-- Names the field in which a value has the wrong type. -/
def inField {α : Type} (field : String) (d : Decoding α) : Decoding α := fun s =>
  (d s).mapError fun
    | .mismatch place source _ target => .mismatch place source (some field) target
    | e => e

/-- Decodes the fields of a record in the order of the record. -/
def decodeFields {α : Type} (record : String) (entries : List (String × Node × Node)) :
    List (Field α) → α → Decoding α
  | [], a => return a
  | f :: rest, a => do
    let a ← match entries.find? (·.1 == f.key) with
      | none => pure a
      | some (_, _, n) => inField (record ++ "." ++ f.name) (f.decode n a)
    decodeFields record entries rest a

/-- A record, the given one for null. A key that no field has is an error, but only if there is no
other. -/
def record {α : Type} (name : String) (fields : List (Field α)) (start : α) : Decoder α where
  target := name
  run n := do
    let entries := (← (← entriesOf false depthLimit n).foldlM (addKeyed depthLimit) (some [])).getD []
    let a ← decodeFields name entries fields start
    match entries.find? fun e => !fields.any (·.key == e.1) with
    | some (key, node, _) => rejectAt node.place ("unknown field \"" ++ key ++ "\"")
    | none => return a

/-- The documents that stand for something. All of them are looked at before one is decoded. -/
def presentDocuments (nodes : List Node) : Decoding (List Node) :=
  nodes.filterM fun n => do
    let d ← n.datum
    return !d.isNull || n.isNull

/-- Decodes the first document of a text. -/
def decodeFirst {α : Type} (d : Decoder α) (text : String) : Except DecodeError α := do
  let nodes ← (parse text).mapError .other
  let decoding : Decoding α := do
    match ← presentDocuments nodes with
    | [] => reject .empty
    | n :: _ => d.decode n
  return (← decoding.run {}).1

end Bindery.Yaml
