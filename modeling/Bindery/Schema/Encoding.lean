import Bindery.Json.Basic
import Bindery.Schema.Basic

/-!
# Schemas as JSON

The JSON form of a schema, as an introspection query answers it. What is absent is written as null.

## Main definitions

- `Schema.json` — the JSON form of a schema, with one function for each of its parts
- `Schema.withoutBuiltins` — the schema without the types and directives that every schema has
-/

namespace Bindery

/-- A text, or null. -/
def Json.ofText : Option String → Json
  | none => .null
  | some s => .string s

/-- The entries of a list written by `f`, with null for an empty entry and for an absent list. -/
def Json.ofEntries {α : Type} (f : α → Json) : Entries α → Json
  | none => .null
  | some es => .array (es.map fun e => e.elim .null f)

/-- The JSON form of a type reference. -/
def TypeRef.json : TypeRef → Json
  | plain kind name =>
    .object [("name", .ofText name), ("ofType", .null), ("kind", .string kind.text)]
  | wrap kind name inner =>
    .object [("name", .ofText name), ("ofType", inner.json), ("kind", .string kind.text)]

/-- The JSON form of an argument or input field. -/
def InputValue.json (v : InputValue) : Json :=
  .object [("type", v.type.json), ("description", .ofText v.description),
    ("defaultValue", .ofText v.defaultValue), ("name", .string v.name)]

/-- The JSON form of a field. -/
def FieldValue.json (v : FieldValue) : Json :=
  .object [("type", v.type.json), ("description", .ofText v.description),
    ("deprecationReason", .ofText v.deprecationReason), ("name", .string v.name),
    ("args", .ofEntries InputValue.json v.args), ("isDeprecated", .bool v.isDeprecated)]

/-- The JSON form of an enum value. -/
def EnumValue.json (v : EnumValue) : Json :=
  .object [("description", .ofText v.description),
    ("deprecationReason", .ofText v.deprecationReason), ("name", .string v.name),
    ("isDeprecated", .bool v.isDeprecated)]

/-- The JSON form of a type. -/
def FullType.json (t : FullType) : Json :=
  .object [("kind", .string t.kind.text), ("name", .ofText t.name?),
    ("description", .ofText t.description?), ("fields", .ofEntries FieldValue.json t.fields),
    ("inputFields", .ofEntries InputValue.json t.inputFields),
    ("interfaces", .ofEntries TypeRef.json t.interfaces),
    ("enumValues", .ofEntries EnumValue.json t.enumValues),
    ("possibleTypes", .ofEntries TypeRef.json t.possibleTypes)]

/-- The JSON form of a directive. -/
def Directive.json (d : Directive) : Json :=
  .object [("name", .string d.name), ("description", .ofText d.description),
    ("locations", d.locations.elim .null fun ls => .array (ls.map .string)),
    ("args", .ofEntries InputValue.json d.args)]

/-- The JSON form of a root type. -/
def RootType.json (r : RootType) : Json :=
  .object [("name", .ofText r.name?)]

/-- The JSON form of a schema. -/
def Schema.json (s : Schema) : Json :=
  .object [("queryType", s.queryType.elim .null RootType.json),
    ("mutationType", s.mutationType.elim .null RootType.json),
    ("subscriptionType", s.subscriptionType.elim .null RootType.json),
    ("types", .ofEntries FullType.json s.types),
    ("directives", .ofEntries Directive.json s.directives)]

/-- The entries that satisfy `p`, as an absent list if none is left. -/
def Entries.keep {α : Type} (p : α → Bool) (es : Entries α) : Entries α :=
  match es.toList.filter fun e => e.all p with
  | [] => none
  | kept => some kept

/-- The names of the scalars that every schema has. -/
def builtinScalars : List String :=
  ["String", "Int", "Float", "Boolean", "ID"]

/-- The names of the directives that every schema has. -/
def builtinDirectives : List String :=
  ["include", "skip", "deprecated", "specifiedBy", "defer", "oneOf"]

/-- The schema without the types and directives that every schema has. -/
def Schema.withoutBuiltins (s : Schema) : Schema :=
  { s with
    types := s.types.keep fun t => !isReserved t.name && !builtinScalars.contains t.name
    directives := s.directives.keep fun d => !builtinDirectives.contains d.name }

end Bindery
