import Bindery.Schema.TypeKind
import Bindery.Source.Import

/-!
# Type expressions

The type of the generated program that stands for a type of the schema. Whether a value can be
absent stays explicit at every level: an absent value is written as a pointer, a list as a slice.

## Main definitions

- `TypeShape` — a type of the generated program: a name, a pointer or a slice
- `TypeExpr` — a named type or a list, either of which may be absent
- `TypeExpr.text` — the expression with every package under the last element of its path
- `TypeExpr.shape` — the type that an expression is written as
- `TypeExpr.code` — this type with every package under its name in a file
-/

namespace Bindery

/-- A type as it is written. -/
inductive TypeShape where
  | name (package name : String)
  | pointer (target : TypeShape)
  | slice (elem : TypeShape)
  deriving DecidableEq, Repr

/-- The text of a type, with the package of a name written by `package`. -/
def TypeShape.text (package : String → String) : TypeShape → String
  | name p n => if p == "" then n else package p ++ "." ++ n
  | pointer target => "*" ++ target.text package
  | slice elem => "[]" ++ elem.text package

/-- The type of the generated program that stands for a type of the schema. -/
inductive TypeExpr where
  /-- A named type. The path of its package is empty if the type is predeclared or generated. -/
  | named (kind : TypeKind) (package name : String) (nullable : Bool)
  /-- A list. -/
  | list (elem : TypeExpr) (nullable : Bool)
  deriving DecidableEq, Repr

namespace TypeExpr

/-- The kind of a type expression. -/
def kind : TypeExpr → TypeKind
  | named k _ _ _ => k
  | list _ _ => .list

/-- Whether the value may be absent. -/
def isNullable : TypeExpr → Bool
  | named _ _ _ n => n
  | list _ n => n

/-- The expression with the given outermost nullability. -/
def withNullable (nullable : Bool) : TypeExpr → TypeExpr
  | named k p n _ => named k p n nullable
  | list e _ => list e nullable

/-- The last element of a slash-separated path, without slashes at its end. -/
def baseName (path : String) : String :=
  match path.toList with
  | [] => "."
  | cs =>
    match (cs.reverse.dropWhile (· == '/')).takeWhile (· != '/') with
    | [] => "/"
    | base => String.ofList base.reverse

/-- The mark of a value that may be absent. -/
def mark (nullable : Bool) : String :=
  if nullable then "*" else ""

/-- The expression with every package under the last element of its path, such as `*[]time.Time`. -/
def text : TypeExpr → String
  | named _ p n nullable => mark nullable ++ (if p == "" then n else baseName p ++ "." ++ n)
  | list e nullable => mark nullable ++ "[]" ++ e.text

/-- The type that an expression is written as. -/
def shape : TypeExpr → TypeShape
  | named _ p n nullable => if nullable then .pointer (.name p n) else .name p n
  | list e nullable => if nullable then .pointer (.slice e.shape) else .slice e.shape

/-- The expression with every package under its name in a file. -/
def code (imports : Source.Imports) (e : TypeExpr) : String :=
  e.shape.text imports.nameOf

/-- The paths of the packages that the expression uses. -/
def packages : TypeExpr → List String
  | named _ p _ _ => if p == "" then [] else [p]
  | list e _ => e.packages

/-- Whether the expression is accepted as a type: the named type below the lists has a legal name. -/
def isLegal : TypeExpr → Bool
  | named _ p n _ => if p == "" then Source.isTypeName n else Source.isIdentifier n
  | list e _ => e.isLegal

/-- Whether the expression can stand alone: it is accepted as a type, or its name is a number. -/
def standsAlone : TypeExpr → Bool
  | named k p n nullable => (named k p n nullable).isLegal || (p == "" && Source.isNumber n)
  | list e nullable => (list e nullable).isLegal

/-- The expression as it stands alone in a file of its own, if it can. -/
def standalone? (e : TypeExpr) : Option String :=
  if e.standsAlone then some (e.code (Source.Imports.ofPaths none e.packages)) else none

end TypeExpr

end Bindery
