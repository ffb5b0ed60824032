import Bindery.Json.Decode
import Bindery.Schema.Basic

/-!
# Schemas from JSON

The schema in the answer to an introspection query. Every part is a record whose members may be
missing or null, and unknown members are skipped.

## Main definitions

- `Schema.decode` — decodes the JSON form of a schema, with one decoder for each of its parts
- `Schema.parse` — reads an answer: a whole response, its data, or the schema alone
- `ParseError`, `ParseError.message` — why a text is no such answer
-/

namespace Bindery

open Json (Decoder Member decodeString decodeBool decodeOption decodeList decodeRecord)

/-- Decodes an optional text. -/
def decodeText? : Decoder (Option String) :=
  decodeOption decodeString

/-- Decodes a list that may be null and whose items may be null. -/
def decodeEntries {α : Type} [Inhabited α] (d : Decoder α) : Decoder (Entries α) :=
  decodeList (decodeOption d)

/-- Decodes the kind of a type. -/
def TypeKind.decode : Decoder TypeKind := fun p former v =>
  (decodeString p former.text v).map TypeKind.ofText

/-- Decodes a type reference that is nested at most as deep as `fuel`. -/
def TypeRef.decodeNested : (fuel : Nat) → Decoder TypeRef
  | 0 => fun p _ v => Json.unfit p v
  | fuel + 1 => decodeRecord
    [.of "name" TypeRef.name? (fun n r => .ofParts r.kind n r.inner?) decodeText?,
      .of "ofType" TypeRef.inner? (fun i r => .ofParts r.kind r.name? i)
        (decodeOption (decodeNested fuel)),
      .of "kind" TypeRef.kind (fun k r => .ofParts k r.name? r.inner?) TypeKind.decode]

/-- Decodes a type reference. -/
def TypeRef.decode : Decoder TypeRef := fun p former v =>
  decodeNested (v.depth + 1) p former v

/-- Decodes an argument or input field. -/
def InputValue.decode : Decoder InputValue :=
  decodeRecord
    [.of "type" InputValue.type (fun x v => { v with type := x }) TypeRef.decode,
      .of "description" InputValue.description (fun x v => { v with description := x }) decodeText?,
      .of "defaultValue" InputValue.defaultValue (fun x v => { v with defaultValue := x }) decodeText?,
      .of "name" InputValue.name (fun x v => { v with name := x }) decodeString]

/-- Decodes a field. -/
def FieldValue.decode : Decoder FieldValue :=
  decodeRecord
    [.of "type" FieldValue.type (fun x v => { v with type := x }) TypeRef.decode,
      .of "description" FieldValue.description (fun x v => { v with description := x }) decodeText?,
      .of "deprecationReason" FieldValue.deprecationReason
        (fun x v => { v with deprecationReason := x }) decodeText?,
      .of "name" FieldValue.name (fun x v => { v with name := x }) decodeString,
      .of "args" FieldValue.args (fun x v => { v with args := x }) (decodeEntries InputValue.decode),
      .of "isDeprecated" FieldValue.isDeprecated (fun x v => { v with isDeprecated := x }) decodeBool]

/-- Decodes an enum value. -/
def EnumValue.decode : Decoder EnumValue :=
  decodeRecord
    [.of "description" EnumValue.description (fun x v => { v with description := x }) decodeText?,
      .of "deprecationReason" EnumValue.deprecationReason
        (fun x v => { v with deprecationReason := x }) decodeText?,
      .of "name" EnumValue.name (fun x v => { v with name := x }) decodeString,
      .of "isDeprecated" EnumValue.isDeprecated (fun x v => { v with isDeprecated := x }) decodeBool]

/-- Decodes a type. -/
def FullType.decode : Decoder FullType :=
  decodeRecord
    [.of "kind" FullType.kind (fun x t => { t with kind := x }) TypeKind.decode,
      .of "name" FullType.name? (fun x t => { t with name? := x }) decodeText?,
      .of "description" FullType.description? (fun x t => { t with description? := x }) decodeText?,
      .of "fields" FullType.fields (fun x t => { t with fields := x })
        (decodeEntries FieldValue.decode),
      .of "inputFields" FullType.inputFields (fun x t => { t with inputFields := x })
        (decodeEntries InputValue.decode),
      .of "interfaces" FullType.interfaces (fun x t => { t with interfaces := x })
        (decodeEntries TypeRef.decode),
      .of "enumValues" FullType.enumValues (fun x t => { t with enumValues := x })
        (decodeEntries EnumValue.decode),
      .of "possibleTypes" FullType.possibleTypes (fun x t => { t with possibleTypes := x })
        (decodeEntries TypeRef.decode)]

/-- Decodes a directive. -/
def Directive.decode : Decoder Directive :=
  decodeRecord
    [.of "name" Directive.name (fun x d => { d with name := x }) decodeString,
      .of "description" Directive.description (fun x d => { d with description := x }) decodeText?,
      .of "locations" Directive.locations (fun x d => { d with locations := x })
        (decodeList decodeString),
      .of "args" Directive.args (fun x d => { d with args := x }) (decodeEntries InputValue.decode)]

/-- Decodes a root type. -/
def RootType.decode : Decoder RootType :=
  decodeRecord [.of "name" RootType.name? (fun x r => { r with name? := x }) decodeText?]

/-- Decodes a schema. -/
def Schema.decode : Decoder Schema :=
  decodeRecord
    [.of "queryType" Schema.queryType (fun x s => { s with queryType := x })
        (decodeOption RootType.decode),
      .of "mutationType" Schema.mutationType (fun x s => { s with mutationType := x })
        (decodeOption RootType.decode),
      .of "subscriptionType" Schema.subscriptionType (fun x s => { s with subscriptionType := x })
        (decodeOption RootType.decode),
      .of "types" Schema.types (fun x s => { s with types := x }) (decodeEntries FullType.decode),
      .of "directives" Schema.directives (fun x s => { s with directives := x })
        (decodeEntries Directive.decode)]

/-- The data of a response: the schema, which may be missing. -/
structure SchemaData where
  /-- The schema. -/
  schema : Option Schema
  deriving Inhabited

/-- A response around a schema, or around its data. -/
structure SchemaEnvelope where
  /-- The data of a whole response. -/
  data : Option SchemaData
  /-- The schema of the data alone. -/
  schema : Option Schema
  deriving Inhabited

/-- Decodes the data of a response. -/
def SchemaData.decode : Decoder SchemaData :=
  decodeRecord
    [.of "__schema" SchemaData.schema (fun x d => { d with schema := x }) (decodeOption Schema.decode)]

/-- Decodes a response or its data. -/
def SchemaEnvelope.decode : Decoder SchemaEnvelope :=
  decodeRecord
    [.of "data" SchemaEnvelope.data (fun x e => { e with data := x })
        (decodeOption SchemaData.decode),
      .of "__schema" SchemaEnvelope.schema (fun x e => { e with schema := x })
        (decodeOption Schema.decode)]

/-- The schema in a response, the one below its data first. -/
def SchemaEnvelope.content? (e : SchemaEnvelope) : Option Schema :=
  (e.data.bind (·.schema)).or e.schema

/-- Why a text is no answer to an introspection query. -/
inductive ParseError where
  /-- The text is no response. -/
  | response (fault : Json.Fault)
  /-- The text is no schema. -/
  | schema (fault : Json.Fault)
  /-- The schema has no types. -/
  | noTypes
  deriving DecidableEq, Repr

/-- The text of the error, where `fault` words an error of JSON. -/
def ParseError.message (fault : Json.Fault → String) : ParseError → String
  | response f => "decode introspection result: " ++ fault f
  | schema f => "decode introspection schema: " ++ fault f
  | noTypes => "introspection result contains no types"

/-- Reads the answer to an introspection query: a whole response, its data alone, or the schema
alone, which then has to have types. -/
def Schema.parse (text : List Char) : Except ParseError Schema := do
  let envelope ← (Json.decodeText SchemaEnvelope.decode default text).mapError .response
  match envelope.content? with
  | some s => return s
  | none =>
    let s ← (Json.decodeText Schema.decode default text).mapError .schema
    if s.types.toList.isEmpty then throw .noTypes
    return s

end Bindery
