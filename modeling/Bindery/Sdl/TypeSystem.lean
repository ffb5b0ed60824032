import Bindery.Sdl.Document

/-!
# Type systems

The declarations of a document put together: extensions are added to the types that they extend, and
the roots of the operations are known.

## Main definitions

- `Sdl.TypeSystem` — types, directives and roots
- `Sdl.TypeSystem.type?` and `Sdl.TypeSystem.directive?` — what a name stands for
- `Sdl.TypeSystem.ofDocument` — the type system of a document, before it is checked
- `Sdl.TypeSystem.inferRoots` — the roots that are known by their names
-/

namespace Bindery.Sdl

/-- The declarations of a document put together. -/
structure TypeSystem where
  /-- The types, each under its own name. -/
  types : List Definition
  /-- The directives, each under its own name. -/
  directives : List DirectiveDefinition
  /-- The names of the root types. -/
  roots : List (Operation × String)
  deriving Repr, Inhabited

/-- The error at a place. -/
def errorAt {α : Type} (position : Position) (text : String) : Except SyntaxError α :=
  .error ⟨position, text⟩

namespace TypeSystem

/-- The type of a name. -/
def type? (s : TypeSystem) (name : String) : Option Definition :=
  s.types.find? (·.name == name)

/-- The directive of a name. -/
def directive? (s : TypeSystem) (name : String) : Option DirectiveDefinition :=
  s.directives.find? (·.name == name)

/-- Adds the declaration of a type, unless its name is taken. -/
def declare (types : List Definition) (d : Definition) : Except SyntaxError (List Definition) :=
  if types.any (·.name == d.name) then
    errorAt d.position ("Cannot redeclare type " ++ d.name ++ ".")
  else .ok (types ++ [d])

/-- The type with what an extension adds. -/
def extended (d ext : Definition) : Definition :=
  { d with
    directives := d.directives ++ ext.directives
    interfaces := d.interfaces ++ ext.interfaces
    fields := d.fields ++ ext.fields
    types := d.types ++ ext.types
    enumValues := d.enumValues ++ ext.enumValues }

/-- Adds an extension to the type that it extends. A type that is not declared is declared by its
extension. -/
def extend (types : List Definition) (ext : Definition) : Except SyntaxError (List Definition) :=
  match types.find? (·.name == ext.name) with
  | none => .ok (types ++ [{ ext with description := "", builtIn := false }])
  | some d =>
    if d.kind == ext.kind then
      .ok (types.map fun t => if t.name == ext.name then extended t ext else t)
    else
      errorAt ext.position ("Cannot extend type " ++ ext.name ++ " because the base type is a " ++
        d.kind.text ++ ", not " ++ ext.kind.text ++ ".")

/-- The directives that a document may declare although every schema has them. -/
def redeclarable : List String :=
  ["include", "skip", "deprecated", "specifiedBy", "defer", "oneOf"]

/-- Adds the declaration of a directive, unless its name is taken. A directive that every schema has
may be declared again, and the later declaration counts. -/
def declareDirective (ds : List DirectiveDefinition) (d : DirectiveDefinition) :
    Except SyntaxError (List DirectiveDefinition) :=
  if !ds.any (·.name == d.name) then .ok (ds ++ [d])
  else if redeclarable.contains d.name then .ok (ds.filter (·.name != d.name) ++ [d])
  else errorAt d.position ("Cannot redeclare directive " ++ d.name ++ ".")

/-- The roots with another one, which replaces an earlier one of the same operation. -/
def addRoot (types : List Definition) (roots : List (Operation × String)) (e : Entrypoint) :
    Except SyntaxError (List (Operation × String)) :=
  if types.any (·.name == e.type) then .ok (roots.filter (·.1 != e.operation) ++ [(e.operation, e.type)])
  else
    errorAt e.position ("Schema root " ++ e.operation.keyword ++ " refers to a type " ++ e.type ++
      " that does not exist.")

/-- The roots that are known by their names, where a document declares no roots. -/
def inferRoots (s : TypeSystem) : TypeSystem :=
  let inferred := [(Operation.query, "Query"), (.mutation, "Mutation"), (.subscription, "Subscription")]
  let missing := inferred.filter fun (op, name) =>
    !s.roots.any (·.1 == op) && (s.type? name).isSome
  { s with roots := s.roots ++ missing }

/-- The root type of an operation. -/
def root? (s : TypeSystem) (op : Operation) : Option String :=
  s.roots.lookup op

end TypeSystem

end Bindery.Sdl
