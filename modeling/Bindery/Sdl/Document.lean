import Bindery.Schema.Basic
import Bindery.Sdl.Token

/-!
# Documents of the schema language

What a source text declares: types, extensions of types, directives and the roots of the schema.

## Main definitions

- `Sdl.TypeExpr` — the type of a field or an argument, with `Sdl.TypeExpr.text`
- `Sdl.Literal` — a default value or the value of an argument, with `Sdl.Literal.text`
- `Sdl.Definition`, `Sdl.DirectiveDefinition`, `Sdl.RootDefinition` — the declarations
- `Sdl.Document` — the declarations of a source text
-/

namespace Bindery.Sdl

/-- The type of a field or an argument. -/
inductive TypeExpr where
  | named (position : Position) (name : String) (nonNull : Bool)
  | list (position : Position) (elem : TypeExpr) (nonNull : Bool)
  deriving DecidableEq, Repr, Inhabited

namespace TypeExpr

/-- The place of a type. -/
def position : TypeExpr → Position
  | named p _ _ => p
  | list p _ _ => p

/-- The name below all lists. -/
def name : TypeExpr → String
  | named _ n _ => n
  | list _ e _ => e.name

/-- Whether the type excludes null. -/
def isNonNull : TypeExpr → Bool
  | named _ _ b => b
  | list _ _ b => b

/-- The mark of a type that excludes null. -/
def mark (nonNull : Bool) : String :=
  if nonNull then "!" else ""

/-- A type in the notation of the schema language. -/
def text : TypeExpr → String
  | named _ n b => n ++ mark b
  | list _ e b => "[" ++ e.text ++ "]" ++ mark b

end TypeExpr

/-- A value in the schema language. -/
inductive Literal where
  | reference (name : String)
  | int (digits : String)
  | float (digits : String)
  | string (value : String)
  | boolean (name : String)
  | null
  | enum (name : String)
  | list (items : List Literal)
  | object (fields : List (String × Literal))
  deriving Repr, Inhabited

namespace Literal

mutual

/-- A value in the notation of the schema language, without white space. Strings are quoted
literals. -/
def text : Literal → String
  | reference name => "$" ++ name
  | int digits => digits
  | float digits => digits
  | string value => quoted value
  | boolean name => name
  | null => "null"
  | enum name => name
  | list items => "[" ++ String.intercalate "," (itemTexts items) ++ "]"
  | object fields => "\x7b" ++ String.intercalate "," (fieldTexts fields) ++ "\x7d"

/-- The texts of the items of a list. -/
def itemTexts : List Literal → List String
  | [] => []
  | v :: rest => v.text :: itemTexts rest

/-- The texts of the fields of an object. -/
def fieldTexts : List (String × Literal) → List String
  | [] => []
  | (name, v) :: rest => (name ++ ":" ++ v.text) :: fieldTexts rest

end

/-- The text of a simple value as it was written, and the contents of a string. Lists and objects
have none. -/
def raw : Literal → String
  | reference name => name
  | int digits => digits
  | float digits => digits
  | string value => value
  | boolean name => name
  | null => "null"
  | enum name => name
  | list _ => ""
  | object _ => ""

/-- Whether the value is null. -/
def isNull : Literal → Bool
  | null => true
  | _ => false

end Literal

/-- An argument that is given to a directive. -/
structure Argument where
  /-- The place of the argument. -/
  position : Position
  /-- The name of the argument. -/
  name : String
  /-- The value of the argument. -/
  value : Literal
  deriving Repr, Inhabited

/-- A directive where it is used. -/
structure DirectiveUse where
  /-- The place of the directive. -/
  position : Position
  /-- The name of the directive. -/
  name : String
  /-- The arguments that are given to it. -/
  args : List Argument
  deriving Repr, Inhabited

/-- The declaration of an argument, or of a field of an input object. -/
structure InputDefinition where
  /-- The place of the declaration. -/
  position : Position
  /-- The description, empty if there is none. -/
  description : String
  /-- The name. -/
  name : String
  /-- The type. -/
  type : TypeExpr
  /-- The default value. -/
  default? : Option Literal
  /-- The directives on it. -/
  directives : List DirectiveUse
  deriving Repr, Inhabited

/-- The declaration of a field. -/
structure FieldDefinition where
  /-- The place of the declaration. -/
  position : Position
  /-- The description, empty if there is none. -/
  description : String
  /-- The name. -/
  name : String
  /-- The arguments. -/
  args : List InputDefinition
  /-- The type. -/
  type : TypeExpr
  /-- The default value of a field of an input object. -/
  default? : Option Literal
  /-- The directives on it. -/
  directives : List DirectiveUse
  deriving Repr, Inhabited

/-- The declaration of an enum value. -/
structure EnumValueDefinition where
  /-- The place of the declaration. -/
  position : Position
  /-- The description, empty if there is none. -/
  description : String
  /-- The name. -/
  name : String
  /-- The directives on it. -/
  directives : List DirectiveUse
  deriving Repr, Inhabited

/-- The kinds of types that can be declared. -/
inductive DefinitionKind where
  | scalar
  | object
  | interface
  | union
  | enum
  | inputObject
  deriving DecidableEq, Repr, Inhabited

/-- The kind as a kind of the schema model. -/
def DefinitionKind.toKind : DefinitionKind → TypeKind
  | scalar => .scalar
  | object => .object
  | interface => .interface
  | union => .union
  | enum => .enum
  | inputObject => .inputObject

/-- The name of a kind. -/
def DefinitionKind.text (k : DefinitionKind) : String :=
  k.toKind.text

/-- The declaration of a type, or of an extension of a type. Which lists are meaningful depends on
its kind. -/
structure Definition where
  /-- The kind of the type. -/
  kind : DefinitionKind
  /-- The place of the name. -/
  position : Position
  /-- The description, empty if there is none. -/
  description : String
  /-- The name. -/
  name : String
  /-- The interfaces that the type implements. -/
  interfaces : List String
  /-- The directives on it. -/
  directives : List DirectiveUse
  /-- The fields of an object, an interface or an input object. -/
  fields : List FieldDefinition
  /-- The members of a union. -/
  types : List String
  /-- The values of an enum. -/
  enumValues : List EnumValueDefinition
  /-- Whether the type belongs to every schema. -/
  builtIn : Bool
  deriving Repr, Inhabited

/-- The declaration of a directive. -/
structure DirectiveDefinition where
  /-- The place of the name. -/
  position : Position
  /-- The description, empty if there is none. -/
  description : String
  /-- The name. -/
  name : String
  /-- The arguments. -/
  args : List InputDefinition
  /-- Where the directive may be used. -/
  locations : List String
  deriving Repr, Inhabited

/-- The type at the root of an operation. -/
structure Entrypoint where
  /-- The place of the operation. -/
  position : Position
  /-- The operation. -/
  operation : Operation
  /-- The name of the type. -/
  type : String
  deriving Repr

/-- The declaration of the roots of the schema, or an extension of it. -/
structure RootDefinition where
  /-- The place of the declaration. -/
  position : Position
  /-- The directives on it. -/
  directives : List DirectiveUse
  /-- The roots. -/
  entrypoints : List Entrypoint
  deriving Repr

/-- The declarations of a source text. -/
structure Document where
  /-- The types. -/
  definitions : List Definition := []
  /-- The extensions of types. -/
  extensions : List Definition := []
  /-- The directives. -/
  directives : List DirectiveDefinition := []
  /-- The declarations of roots. -/
  roots : List RootDefinition := []
  /-- The extensions of the roots. -/
  rootExtensions : List RootDefinition := []
  deriving Repr, Inhabited

/-- The declarations of two documents. -/
def Document.append (a b : Document) : Document :=
  ⟨a.definitions ++ b.definitions, a.extensions ++ b.extensions, a.directives ++ b.directives,
   a.roots ++ b.roots, a.rootExtensions ++ b.rootExtensions⟩

end Bindery.Sdl
