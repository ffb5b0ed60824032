import Bindery.Sdl.Parser
import Bindery.Sdl.Prelude
import Bindery.Sdl.Validation

/-!
# Loading schemas

The checked type system of source texts.

## Main definitions

- `Sdl.Source` — a named source text
- `Sdl.TypeSystem.ofDocument` — the checked type system of a document
- `Sdl.load` — the checked type system of source texts
-/

namespace Bindery.Sdl

/-- A named source text. -/
structure Source where
  /-- The name. -/
  name : String
  /-- The text. -/
  text : String
  deriving DecidableEq, Repr

/-- The roots of a declaration and its directives, checked against the types known so far. -/
def TypeSystem.addRoots (s : TypeSystem) (d : RootDefinition) : Except SyntaxError TypeSystem := do
  let roots ← d.entrypoints.foldlM (addRoot s.types) s.roots
  s.checkDirectives "SCHEMA" none d.directives
  return { s with roots }

/-- The checked type system of a document. -/
def TypeSystem.ofDocument (d : Document) : Except SyntaxError TypeSystem := do
  let types ← d.definitions.foldlM declare []
  let types ← d.extensions.foldlM extend types
  let directives ← d.directives.foldlM declareDirective []
  match d.roots with
  | _ :: second :: _ =>
    errorAt second.position
      "Cannot have multiple schema entry points, consider schema extensions instead."
  | roots =>
    let s ← (roots ++ d.rootExtensions).foldlM addRoots ⟨types, directives, []⟩
    s.check
    return if roots.isEmpty then s.inferRoots else s

/-- The checked type system of source texts, together with what every schema has. -/
def load (sources : List Source) : Except SyntaxError TypeSystem := do
  let builtin ← parseDocument true preludeName prelude
  let documents ← sources.mapM fun s => parseDocument false s.name s.text
  TypeSystem.ofDocument (documents.foldl Document.append builtin)

end Bindery.Sdl
