import Bindery.Schema.TypeKind

/-!
# Type references

A reference names a type or wraps another reference. Introspection results may hold references that
no type system allows, such as a named type with a type inside it, so every shape can be written down.

## Main definitions

- `TypeRef` — a reference, with or without another one inside it
- `TypeRef.text` — writes a reference, such as `[String!]!`
- `TypeRef.named?` — the reference below the wrappers
- `TypeRef.isNonNull` — whether the reference excludes null
-/

namespace Bindery

/-- A reference to a type. -/
inductive TypeRef where
  /-- A reference with nothing inside it. -/
  | plain (kind : TypeKind) (name : Option String)
  /-- A reference with another one inside it. -/
  | wrap (kind : TypeKind) (name : Option String) (inner : TypeRef)
  deriving DecidableEq, Repr

namespace TypeRef

instance : Inhabited TypeRef :=
  ⟨plain .absent none⟩

/-- The kind of a reference. -/
def kind : TypeRef → TypeKind
  | plain k _ => k
  | wrap k _ _ => k

/-- The name that a reference gives, if any. -/
def name? : TypeRef → Option String
  | plain _ n => n
  | wrap _ n _ => n

/-- The reference inside a reference, if any. -/
def inner? : TypeRef → Option TypeRef
  | plain _ _ => none
  | wrap _ _ r => some r

/-- The name that a reference gives, empty if it gives none. -/
def name (r : TypeRef) : String :=
  r.name?.getD ""

/-- The reference with these parts. -/
def ofParts (kind : TypeKind) (name : Option String) : Option TypeRef → TypeRef
  | none => plain kind name
  | some inner => wrap kind name inner

/-- Whether the reference excludes null. -/
def isNonNull (r : TypeRef) : Bool :=
  r.kind == .nonNull

/-- The reference below all wrappers, none if a wrapper has nothing inside it. -/
def named? : TypeRef → Option TypeRef
  | plain k n => if k.isWrapper then none else some (plain k n)
  | wrap k n r => if k.isWrapper then r.named? else some (wrap k n r)

/-- A reference in the notation of the schema language, such as `[String!]!`. -/
def text : TypeRef → String
  | plain .nonNull _ => "!"
  | plain .list _ => "[]"
  | plain _ n => n.getD ""
  | wrap .nonNull _ r => r.text ++ "!"
  | wrap .list _ r => "[" ++ r.text ++ "]"
  | wrap _ n _ => n.getD ""

end TypeRef

end Bindery
