import Bindery.Schema.TypeRef

/-!
# Schemas

The model of a schema, as an introspection query answers it. Lists may be absent, and a list that is
there may hold empty entries, because both can occur in such an answer and both are told apart.

## Main definitions

- `Entries` — a list that may be absent, whose entries may be empty
- `InputValue`, `FieldValue`, `EnumValue`, `FullType`, `Directive` — the parts of a schema
- `Schema` — the root types, the types and the directives
- `Schema.roots` — the root operations with the names of their types
- `isReserved` — names that belong to introspection itself
-/

namespace Bindery

/-- A list that may be absent, whose entries may be empty. -/
abbrev Entries (α : Type) := Option (List (Option α))

/-- The entries of a list, none if the list is absent. -/
def Entries.toList {α : Type} (es : Entries α) : List (Option α) :=
  es.getD []

/-- The entries of a list that are not empty. -/
def Entries.values {α : Type} (es : Entries α) : List α :=
  es.toList.filterMap id

/-- An argument or an input field. -/
structure InputValue where
  /-- The type of the value. -/
  type : TypeRef
  /-- What the schema says about it. -/
  description : Option String
  /-- The default value in the notation of the schema language. -/
  defaultValue : Option String
  /-- The name of the argument or input field. -/
  name : String
  deriving DecidableEq, Repr, Inhabited

/-- A field of an object or an interface. -/
structure FieldValue where
  /-- The type of the field. -/
  type : TypeRef
  /-- What the schema says about it. -/
  description : Option String
  /-- Why the field should not be used. -/
  deprecationReason : Option String
  /-- The name of the field. -/
  name : String
  /-- The arguments of the field. -/
  args : Entries InputValue
  /-- Whether the field should not be used. -/
  isDeprecated : Bool
  deriving DecidableEq, Repr, Inhabited

/-- A value of an enum. -/
structure EnumValue where
  /-- What the schema says about it. -/
  description : Option String
  /-- Why the value should not be used. -/
  deprecationReason : Option String
  /-- The name of the value. -/
  name : String
  /-- Whether the value should not be used. -/
  isDeprecated : Bool
  deriving DecidableEq, Repr, Inhabited

/-- A type of the schema. Which lists are meaningful depends on its kind. -/
structure FullType where
  /-- The kind of the type. -/
  kind : TypeKind
  /-- The name of the type. -/
  name? : Option String
  /-- What the schema says about it. -/
  description? : Option String
  /-- The fields of an object or an interface. -/
  fields : Entries FieldValue
  /-- The fields of an input object. -/
  inputFields : Entries InputValue
  /-- The interfaces that an object or an interface implements. -/
  interfaces : Entries TypeRef
  /-- The values of an enum. -/
  enumValues : Entries EnumValue
  /-- The members of a union. -/
  possibleTypes : Entries TypeRef
  deriving DecidableEq, Repr, Inhabited

/-- The name of a type, empty if it has none. -/
def FullType.name (t : FullType) : String :=
  t.name?.getD ""

/-- The description of a type, empty if it has none. -/
def FullType.description (t : FullType) : String :=
  t.description?.getD ""

/-- A directive of the schema. -/
structure Directive where
  /-- The name of the directive. -/
  name : String
  /-- What the schema says about it. -/
  description : Option String
  /-- Where it may be used. -/
  locations : Option (List String)
  /-- The arguments of the directive. -/
  args : Entries InputValue
  deriving DecidableEq, Repr, Inhabited

/-- The type at the root of an operation, by name. -/
structure RootType where
  /-- The name, which may be missing. -/
  name? : Option String
  deriving DecidableEq, Repr, Inhabited

/-- A schema. -/
structure Schema where
  /-- The root of queries. -/
  queryType : Option RootType
  /-- The root of mutations. -/
  mutationType : Option RootType
  /-- The root of subscriptions. -/
  subscriptionType : Option RootType
  /-- The types of the schema. -/
  types : Entries FullType
  /-- The directives of the schema. -/
  directives : Entries Directive
  deriving DecidableEq, Repr, Inhabited

/-- The operations of a request. -/
inductive Operation where
  | query
  | mutation
  | subscription
  deriving DecidableEq, Repr

/-- The keyword of an operation. -/
def Operation.keyword : Operation → String
  | query => "query"
  | mutation => "mutation"
  | subscription => "subscription"

/-- The root type of an operation. -/
def Schema.root (s : Schema) : Operation → Option RootType
  | .query => s.queryType
  | .mutation => s.mutationType
  | .subscription => s.subscriptionType

/-- The operations that have a named root type, with its name, in the order query, mutation,
subscription. -/
def Schema.roots (s : Schema) : List (Operation × String) :=
  [Operation.query, .mutation, .subscription].filterMap fun op =>
    match (s.root op).bind (·.name?) with
    | none => none
    | some "" => none
    | some name => some (op, name)

/-- Names that begin with two underscores belong to introspection itself. -/
def isReserved (name : String) : Bool :=
  ['_', '_'].isPrefixOf name.toList

end Bindery
