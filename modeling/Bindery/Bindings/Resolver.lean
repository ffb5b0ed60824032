import Bindery.Bindings.Error
import Bindery.Bindings.TypeExpr
import Bindery.Naming.Identifier
import Bindery.Text.Blank

/-!
# Resolving type references

A resolver knows the scalars that stand for existing types and turns references into type
expressions. It looks at names only, so that types may refer to each other in circles.

## Main definitions

- `Resolver` — the scalars that stand for existing types
- `Resolver.ofBindings` — the built-in scalars and bindings such as `DateTime` to `time.Time`
- `Resolver.resolve` — the type expression of a reference
-/

namespace Bindery

/-- The scalars that stand for existing types: package path and name. -/
structure Resolver where
  /-- The type of each known scalar. -/
  scalars : List (String × String × String)
  deriving DecidableEq, Repr

/-- A scalar that is bound to something that is no type. -/
structure BindingError where
  /-- The scalar. -/
  scalar : String
  /-- What it is bound to. -/
  target : String
  deriving DecidableEq, Repr

/-- The text of a binding error. -/
def BindingError.message (e : BindingError) : String :=
  s!"scalar {e.scalar}: invalid Go type " ++ quoted e.target

namespace Resolver

/-- The types of the scalars that every schema has. -/
def builtin : List (String × String × String) :=
  [("String", "", "string"), ("Int", "", "int32"), ("Float", "", "float64"), ("Boolean", "", "bool"),
   ("ID", "", "string")]

/-- The package path and the name of a type: what stands before and after the last dot. -/
def splitTarget (target : String) : Option (String × String) :=
  let cs := target.toList
  if cs.contains '.' then
    let name := (cs.reverse.takeWhile (· != '.')).reverse
    let package := cs.take (cs.length - name.length - 1)
    if package.isEmpty then none else some (String.ofList package, String.ofList name)
  else some ("", target)

/-- The package path and the name of the type that a binding gives. -/
def parseTarget (target : String) : Option (String × String) :=
  (splitTarget target).filter fun (_, name) => Source.isIdentifier name

/-- The resolver of the built-in scalars and the given bindings, which win over the built-in ones.
Of several bad bindings the one with the least name is reported. -/
def ofBindings (bindings : List (String × String)) : Except BindingError Resolver := do
  let sorted := bindings.mergeSort fun a b => !(b.1 < a.1)
  let bound ← sorted.mapM fun (scalar, target) =>
    let target := trimBlank target
    match parseTarget target with
    | some parsed => .ok (scalar, parsed)
    | none => .error ⟨scalar, target⟩
  return ⟨bound ++ builtin⟩

/-- Whether the scalar stands for an existing type. -/
def isBound (r : Resolver) (scalar : String) : Bool :=
  (r.scalars.lookup scalar).isSome

/-- The expression of a named type that may be absent. -/
def named (r : Resolver) (kind : TypeKind) (name : String) : TypeExpr :=
  match (if kind == .scalar then r.scalars.lookup name else none) with
  | some (package, target) => .named .scalar package target true
  | none => .named kind "" (Naming.identifier name) true

/-- The expression of a reference that has nothing inside it. -/
def resolvePlain (r : Resolver) (kind : TypeKind) (name : Option String) : Except Defect TypeExpr :=
  match kind with
  | .nonNull => .error .nonNullWithoutInner
  | .list => .error .listWithoutInner
  | .interface => .error (.unsupportedReference kind (name.getD ""))
  | .union => .error (.unsupportedReference kind (name.getD ""))
  | .unknown _ _ => .error (.unknownReference kind (.plain kind name))
  | _ =>
    match name.getD "" with
    | "" => .error (.unnamedReference kind)
    | name => .ok (r.named kind name)

/-- The expression of a reference. Named types and lists may be absent unless a non-null wrapper
around them says otherwise. -/
def resolve (r : Resolver) : TypeRef → Except Defect TypeExpr
  | .plain kind name => r.resolvePlain kind name
  | .wrap kind name inner =>
    match kind with
    | .nonNull =>
      if inner.kind == .nonNull then .error (.nonNullTwice (.wrap kind name inner))
      else (r.resolve inner).map (·.withNullable false)
    | .list => (r.resolve inner).map (.list · true)
    | .interface => .error (.unsupportedReference kind (name.getD ""))
    | .union => .error (.unsupportedReference kind (name.getD ""))
    | .unknown _ _ => .error (.unknownReference kind (.wrap kind name inner))
    | _ =>
      match name.getD "" with
      | "" => .error (.unnamedReference kind)
      | name => .error (.namedWithInner kind name)

/-- The expression of a reference that may be missing. -/
def resolve? (r : Resolver) : Option TypeRef → Except Defect TypeExpr
  | none => .error .missingReference
  | some ref => r.resolve ref

end Resolver

end Bindery
