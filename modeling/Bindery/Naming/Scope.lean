import Bindery.Text.Quoted

/-!
# Scopes

A scope remembers which schema name claimed each identifier. Claiming an identifier again for the
same name is harmless; claiming it for another name is a collision.

## Main definitions

- `Collision` — two names that map to one identifier, and its message
- `Scope` — the claimed identifiers of one scope, in the order of their first claims
- `Scope.declare` — claims an identifier for a name
-/

namespace Bindery

/-- Two names that claim one identifier of a scope. -/
structure Collision where
  /-- The label of the scope. -/
  scope : String
  /-- The identifier claimed twice. -/
  identifier : String
  /-- The name that claimed it first. -/
  first : String
  /-- The name that claimed it again. -/
  second : String
  deriving DecidableEq, Repr

/-- The text of a collision. -/
def Collision.message (c : Collision) : String :=
  s!"gqlbuilder: name collision in {c.scope}: " ++ quoted c.first ++ " and " ++ quoted c.second ++
    s!" both map to {c.identifier}"

/-- The identifiers that are claimed in one scope, each with the name that claimed it, in the order
of their first claims. -/
structure Scope where
  /-- What the scope is called in messages. -/
  label : String
  /-- The claims. -/
  names : List (String × String)
  deriving DecidableEq, Repr

namespace Scope

/-- A scope without claims. -/
def empty (label : String) : Scope :=
  ⟨label, []⟩

/-- The name that claimed the identifier. -/
def owner? (s : Scope) (identifier : String) : Option String :=
  s.names.lookup identifier

/-- Claims an identifier for a name. -/
def declare (s : Scope) (identifier name : String) : Except Collision Scope :=
  match s.owner? identifier with
  | none => .ok { s with names := s.names ++ [(identifier, name)] }
  | some first => if first == name then .ok s else .error ⟨s.label, identifier, first, name⟩

end Scope

end Bindery
