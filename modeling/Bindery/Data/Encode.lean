import Bindery.Data.OctetFormat
import Bindery.Data.RecordLayout
import Bindery.Data.TimeLayout
import Bindery.Json.Scan
import Bindery.Schema.Encoding

/-!
# Values as JSON

The JSON form of a value. What is not there is null, an empty array or an empty object; a list of
octets is a string in base 64. The record that a value belongs to can ask for another form.

## Main definitions

- `Json.ofText?` — the value of a JSON text
- `jsonNumber` — how floating point numbers are written
- `JsonStyle` — what is asked of the form of a value
- `Value.encodeAs` — the JSON form of a value in a style, or the place of what has none
- `Value.encode` — the JSON form of a value
-/

namespace Bindery

/-- The value of a JSON text, if it is one. -/
def Json.ofText? (o : Octets) : Option Json :=
  match Scan.read (charsOf o) with
  | (v, false) => v.json?
  | _ => none

/-- Floating point numbers are written without an exponent from a millionth up to 21 digits. -/
def jsonNumber : FloatStyle := ⟨-6, 20, 1⟩

/-- The format of the numbers of a floating point type. -/
def FloatFormat.ofSingle (single : Bool) : FloatFormat :=
  if single then .single else .double

/-- The text of a floating point number in JSON, none for those that JSON does not have. -/
def Binary.json? (single : Bool) (x : Binary) : Option String :=
  if x.isFinite then some (x.text (.ofSingle single) jsonNumber) else none

/-- The name of a floating point number that JSON does not have. -/
def Binary.specialName : Binary → String
  | infinite true => "-Infinity"
  | infinite false => "Infinity"
  | _ => "NaN"

/-- A text that refuses to be written begins with an exclamation mark. -/
def refuses (o : Octets) : Bool :=
  o.head? == some 0x21

/-- Whether a value would be written as null or as something without content. -/
def Json.isEmpty : Json → Bool
  | null => true
  | string s => s == ""
  | array items => items.isEmpty
  | object members => members.isEmpty
  | _ => false

/-- What is asked of the form of a value. -/
structure JsonStyle where
  /-- Numbers are written as strings. -/
  stringNumbers : Bool := false
  /-- The name of the form of this value, but not of its parts. -/
  format : Option String := none

/-- The style of the parts of a value. -/
def JsonStyle.inner (s : JsonStyle) : JsonStyle :=
  { s with format := none }

/-- The style of a member of a record that is written in a style. -/
def Slot.style (s : Slot) (outer : JsonStyle) : JsonStyle :=
  ⟨outer.stringNumbers || s.options.stringNumbers, s.options.format.filter (· != "")⟩

namespace Value

/-- The failure of a value that has no JSON form. -/
def refused {α : Type} : Except Json.Fault α :=
  .error ⟨.meaning, []⟩

/-- A result for a value that has no form but the usual one. -/
def unformatted {α : Type} (style : JsonStyle) (result : Except Json.Fault α) : Except Json.Fault α :=
  if style.format.isSome then refused else result

/-- A number, or a string of its digits. -/
def encodeNumber (style : JsonStyle) (digits : String) : Json :=
  if style.stringNumbers then .string digits else .number digits

/-- The JSON form of a floating point number. Those that JSON does not have can be written by their
names. -/
def encodeFloat (single : Bool) (x : Binary) (style : JsonStyle) : Except Json.Fault Json :=
  if style.format.any (· != "nonfinite") then refused
  else match x.json? single with
    | some digits => .ok (encodeNumber style digits)
    | none => if style.format.isSome then .ok (.string x.specialName) else refused

/-- The JSON form of a point in time. -/
def encodeTime (t : Time) (style : JsonStyle) : Except Json.Fault Json :=
  match style.format with
  | none => .ok (.string t.text)
  | some name =>
    match TimeFormat.ofName? isWordChar name with
    | none => refused
    | some f => .ok (if f.isNumeric then encodeNumber style (f.write t) else .string (f.write t))

/-- Whether what is missing is written as null, by the name of a form, none if there is no such form. -/
def asNull? : Option String → Option Bool
  | none | some "emitempty" => some false
  | some "emitnull" => some true
  | _ => none

/-- The JSON form of a text. -/
def encodeText (kind : TextKind) (o : Octets) : Except Json.Fault Json :=
  match kind with
  | .json => if refuses o then .error ⟨.meaning, []⟩ else (Json.ofText? o).elim (.error ⟨.meaning, []⟩) .ok
  | .textual =>
    if refuses o then .error ⟨.meaning, []⟩
    else o.string?.elim (.error ⟨.meaning, []⟩) fun s => .ok (.string s)
  | _ => o.string?.elim (.error ⟨.form, []⟩) fun s => .ok (.string s)

/-- Whether a text writes itself, in whatever form. -/
def writesItself (kind : TextKind) : Bool :=
  kind == .json || kind == .textual

/-- The numbers of a list of octets. -/
def octetValues : List Value → List Nat
  | [] => []
  | integer _ n :: rest => n.toNat :: octetValues rest
  | _ :: rest => octetValues rest

/-- The form that the name of a form gives to octets: a text, or an array of numbers. -/
inductive OctetsForm where
  | text (format : OctetFormat)
  | numbers

/-- The form that a name gives to octets, none if there is no such form. -/
def octetsForm? : Option String → Option OctetsForm
  | none => some (.text .base64)
  | some "array" => some .numbers
  | some name => (OctetFormat.ofName? name).map .text

/-- A part of a record: where it is, and its JSON form. -/
structure EncodedPart where
  /-- The places of the members on the way to the part. -/
  path : List Nat
  /-- The value. -/
  value : Value
  /-- The JSON form in a style. -/
  json : JsonStyle → Except Json.Fault Json
  /-- The entries if the value is a map with texts as keys. -/
  entries : List (Octets × (JsonStyle → Except Json.Fault Json))

/-- The members of a record that are written. -/
def encodeSlots (style : JsonStyle) (parts : List EncodedPart) :
    List Slot → Except Json.Fault (List (Slot × Json))
  | [] => .ok []
  | s :: rest => do
    match parts.find? (·.path == s.path) with
    | none => encodeSlots style parts rest
    | some part =>
      if s.options.omitZero && part.value.saysNothing then encodeSlots style parts rest
      else
        let first ← (part.json (s.style style)).mapError (·.under s.name)
        let more ← encodeSlots style parts rest
        return if s.options.omitEmpty && first.isEmpty then more else (s, first) :: more

/-- The members of a JSON text that is kept as it is. A name may occur only once. -/
def rawMembers (o : Octets) : Except Json.Fault (List (String × Json)) :=
  if o.isEmpty then .ok []
  else match Json.Scan.read (Json.charsOf o) with
    | (.object members .closed _, false) =>
      (Json.Scan.membersJson? members).elim refused .ok
    | (.object members (.cutAt name) _, _) =>
      if members.any (·.1 == name) then .error ⟨.form, [name]⟩ else refused
    | _ => refused

/-- The members that a record keeps for others. -/
def encodeRest (style : JsonStyle) (part : EncodedPart) : Except Json.Fault (List (String × Json)) :=
  match part.value with
  | raw kept | pointer (raw kept) => rawMembers (kept.getD [])
  | _ => part.entries.mapM fun (key, json) => do
    match key.string? with
    | none => refused
    | some name => return (name, ← (json style.inner).mapError (·.under name))

/-- The first name that stands for a member which is written already, or for one that another name
stands for. -/
def takenName? (layout : RecordLayout) : (taken : List (List Nat)) → List String → Option String
  | _, [] => none
  | taken, name :: rest =>
    match layout.find? name with
    | some s => if taken.contains s.path then some name else takenName? layout (s.path :: taken) rest
    | none => takenName? layout taken rest

/-- The members of the object that a record is written as, from the parts of the record. -/
def encodeRecord (style : JsonStyle) (members : List (MemberLabel × DataType)) (parts : List EncodedPart) :
    Except Json.Fault Json := do
  match RecordLayout.of? members with
  | none => refused
  | some layout =>
    let written ← encodeSlots style parts layout.inOrder
    let rest ← match layout.rest with
      | none => .ok []
      | some path => (parts.find? (·.path == path)).elim (.ok []) (encodeRest style)
    match takenName? layout (written.map (·.1.path)) (rest.map (·.1)) with
    | some name => .error ⟨.form, [name]⟩
    | none => return .object (written.map (fun (s, j) => (s.name, j)) ++ rest)

/-- The first name that occurs twice. -/
def repeatedName? : List (String × Json) → Option String
  | [] => none
  | (name, _) :: rest => if rest.any (·.1 == name) then some name else repeatedName? rest

/-- The name of an entry of a map, from its key and the JSON form of the key, which has to be a string. A
floating point number in an interface is no string. -/
def entryName (key : Value) (json : Except Json.Fault Json) (style : JsonStyle) :
    Except Json.Fault String := do
  match key, style.stringNumbers with
  | interface .any (float false x), false => if x.isFinite then refused else .ok x.specialName
  | _, _ =>
    match ← json with
    | .string s => .ok s
    | _ => refused

mutual

/-- The JSON form of a value in a style. -/
def encodeAs : Value → JsonStyle → Except Json.Fault Json
  | text kind o, style =>
    if writesItself kind then encodeText kind o else unformatted style (encodeText kind o)
  | bool b, style => unformatted style (.ok (.bool b))
  | integer _ n, style => unformatted style (.ok (encodeNumber style (toString n)))
  | float single x, style => encodeFloat single x style
  | complex, _ | routine _, _ | channel _, _ => refused
  | time t, style => encodeTime t style
  | raw none, _ => .ok .null
  | raw (some o), _ => (Json.ofText? o).elim refused .ok
  | schema s, style => unformatted style (.ok (.object [("__schema", s.json)]))
  | nilInterface _, style => unformatted style (.ok .null)
  | interface .any (float false x), style =>
    unformatted style
      (if style.stringNumbers then encodeFloat false x style
       else .ok ((x.json? false).elim (.string x.specialName) .number))
  | interface _ content, style => unformatted style (content.encodeAs style)
  | nilPointer _, _ => .ok .null
  | pointer target, style => target.encodeAs style
  | nilSlice (.integer .uint8), style =>
    match octetsForm? style.format with
    | none => refused
    | some (.text _) => .ok (.string "")
    | some .numbers => .ok (.array [])
  | nilSlice _, style =>
    (asNull? style.format).elim refused fun null => .ok (if null then .null else .array [])
  | slice (.integer .uint8) items, style | array (.integer .uint8) items, style =>
    match octetsForm? style.format with
    | none => refused
    | some (.text f) => .ok (.string (String.ofList (f.encode (octetValues items))))
    | some .numbers => (encodeItems 0 items style.inner).map .array
  | slice _ items, style =>
    if (asNull? style.format).isNone then refused
    else (encodeItems 0 items style.inner).map .array
  | array _ items, style => unformatted style ((encodeItems 0 items style).map .array)
  | nilMap _ _, style =>
    (asNull? style.format).elim refused fun null => .ok (if null then .null else .object [])
  | map _ _ entries, style => do
    if (asNull? style.format).isNone then refused
    else
      let members ← encodeEntries entries style.inner
      match repeatedName? members with
      | some name => .error ⟨.form, [name]⟩
      | none => return .object members
  | record members, style =>
    unformatted style (encodeRecord style (memberTypes members) (memberParts [] 0 members))

/-- The JSON forms of the items of a list from the given number on. -/
def encodeItems (index : Nat) : List Value → JsonStyle → Except Json.Fault (List Json)
  | [], _ => .ok []
  | v :: rest, style => do
    let first ← (v.encodeAs style).mapError (·.under (toString index))
    let more ← encodeItems (index + 1) rest style
    return first :: more

/-- The JSON forms of the entries of a map. -/
def encodeEntries : List (Value × Value) → JsonStyle → Except Json.Fault (List (String × Json))
  | [], _ => .ok []
  | (key, v) :: rest, style => do
    let name ← entryName key (key.encodeAs ⟨true, none⟩) style
    let first ← (v.encodeAs style).mapError (·.under name)
    let more ← encodeEntries rest style
    return (name, first) :: more

/-- The members of a record as its parts, from the given number on, with the parts of records in it. -/
def memberParts (path : List Nat) (index : Nat) : List (MemberLabel × Value) → List EncodedPart
  | [] => []
  | (_, v) :: rest =>
    let here := path ++ [index]
    ⟨here, v, v.encodeAs, entryParts v⟩ :: (innerParts here v ++ memberParts path (index + 1) rest)

/-- The parts of a record that is a member of another one. -/
def innerParts (path : List Nat) : Value → List EncodedPart
  | record members | pointer (record members) => memberParts path 0 members
  | _ => []

/-- The JSON forms of the entries of a map with texts as keys. -/
def entryParts : Value → List (Octets × (JsonStyle → Except Json.Fault Json))
  | map _ _ entries | pointer (map _ _ entries) => textEntries entries
  | _ => []

/-- The JSON forms of entries with texts as keys. -/
def textEntries : List (Value × Value) → List (Octets × (JsonStyle → Except Json.Fault Json))
  | [] => []
  | (text _ key, v) :: rest => (key, v.encodeAs) :: textEntries rest
  | _ :: rest => textEntries rest

end

/-- The JSON form of a value. -/
def encode (v : Value) : Except Json.Fault Json :=
  v.encodeAs {}

end Value

end Bindery
