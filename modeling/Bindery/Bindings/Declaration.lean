import Bindery.Bindings.Doc
import Bindery.Bindings.TypeExpr
import Bindery.Schema.Basic

/-!
# Declarations of the generated package

What the generator makes of a schema, before it is written as source text. Each schema type yields a
fragment, the declarations that bind it, in the order in which they are written.

## Main definitions

- `Member` — a member of an argument holder or of an input object
- `Constant` — the constant of an enum value
- `Result` — what an accessor returns: another object, or a leaf that ends the selection
- `Declaration` — a declaration of the generated package
- `Fragment` — the declarations of one schema type
-/

namespace Bindery

/-- A member of a struct that carries arguments or input fields. -/
structure Member where
  /-- What is said about the member. -/
  doc : Comment
  /-- The identifier of the member. -/
  ident : String
  /-- The type of the member. -/
  type : TypeExpr
  /-- The schema name of the argument or input field. -/
  name : String
  deriving DecidableEq, Repr

/-- The tag of a member for the writer of arguments: the schema name, and the mark that an absent
value is left out. -/
def Member.tag (m : Member) : String :=
  if m.type.isNullable then m.name ++ ",omitempty" else m.name

/-- The constant of an enum value. -/
structure Constant where
  /-- What is said about the value. -/
  doc : Comment
  /-- The identifier of the constant. -/
  ident : String
  /-- The schema name of the value. -/
  value : String
  deriving DecidableEq, Repr

/-- What an accessor returns. -/
inductive Result where
  /-- The handle of an object, from which the selection can go on. -/
  | object (ident : String)
  /-- A leaf, which ends the selection and has a value of the type. -/
  | leaf (type : TypeExpr)
  deriving DecidableEq, Repr

/-- A declaration of the generated package. -/
inductive Declaration where
  /-- A struct with one member per argument or input field. -/
  | inputs (doc : Comment) (ident : String) (members : List Member)
  /-- The handle of an object: a connection, a process and a selection. -/
  | handle (doc : Comment) (ident : String)
  /-- A function that returns the handle of a root type with an empty selection. -/
  | start (doc : Comment) (ident result : String) (operation : Operation)
  /-- A method that adds a field to the selection, with the holder of its arguments if it has any. -/
  | accessor (doc : Comment) (receiver method field : String) (holder : Option String)
      (result : Result)
  /-- A type of strings. -/
  | newtype (doc : Comment) (ident : String)
  /-- The constants of an enum. -/
  | constants (type : String) (values : List Constant)
  /-- The method that writes an enum value without quotes. -/
  | literal (type : String)
  deriving DecidableEq, Repr

/-- The declarations of one schema type. -/
structure Fragment where
  /-- The name of the schema type. -/
  name : String
  /-- The declarations that bind it. -/
  decls : List Declaration
  deriving DecidableEq, Repr

end Bindery
