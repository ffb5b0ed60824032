import Bindery.Bindings.Arguments

/-!
# From schemas to declarations

Every type of the schema becomes a fragment: an object a handle with its accessors and the holders
of their arguments, an input object a struct, an enum and an unbound scalar a type of strings. Types
of introspection itself are left out. Interfaces and unions are refused.

## Main definitions

- `Settings` — what rendering depends on besides the schema
- `renderType` — the fragment of a type
- `render` — the fragments of a schema
-/

namespace Bindery

/-- What rendering depends on besides the types one by one. -/
structure Settings where
  /-- The scalars that stand for existing types. -/
  resolver : Resolver
  /-- Every holder is named for its object type as well. -/
  qualifyArgs : Bool
  /-- The identifiers of fields whose holders are named for their object types in any case. -/
  shared : List String
  /-- The operations with the names of their root types. -/
  roots : List (Operation × String)
  deriving DecidableEq, Repr

/-- The name of the holder of a field's arguments. -/
def Settings.holderName (s : Settings) (owner field : String) : String :=
  let ident := Naming.identifier field
  if s.qualifyArgs || s.shared.contains ident then Naming.identifier owner ++ ident ++ "Args"
  else ident ++ "Args"

/-- The operations rooted at a type. -/
def Settings.operations (s : Settings) (type : String) : List Operation :=
  (s.roots.filter (·.2 == type)).map (·.1)

/-- What an accessor of this type returns. -/
def Result.ofType (type : TypeExpr) : Result :=
  match type with
  | .named .object _ name _ => .object name
  | _ => .leaf type

/-- The declarations of a field: the holder of its arguments if it has any, and its accessor. The
scopes are that of the package and that of the methods of the object. -/
def renderField (s : Settings) (owner ident : String) (package methods : Scope) (field : FieldValue) :
    Except RenderError (Option Declaration × Declaration × Scope × Scope) :=
  if field.name == "" then .error (.schema (.of owner "" .unnamedField))
  else do
    let method := Naming.identifier field.name
    let methods ← methods.claim method field.name
    match s.resolver.resolve field.type with
    | .error defect => .error (.schema (.of owner field.name defect))
    | .ok type =>
      let doc := Comment.ofBlocks (field.description.getD "")
        [deprecationNotice field.isDeprecated field.deprecationReason]
      let accessor := fun holder =>
        Declaration.accessor doc ident method field.name holder (.ofType type)
      if field.args.toList.isEmpty then return (none, accessor none, package, methods)
      else do
        let holder := s.holderName owner field.name
        let package ← package.claim holder ("arguments of " ++ owner ++ "." ++ field.name)
        let decl ← renderHolder s.resolver owner holder field
        return (some decl, accessor (some holder), package, methods)

/-- The declarations of the fields of an object: the holders and the accessors. -/
def renderFields (s : Settings) (owner ident : String) :
    (package methods : Scope) → List (Option FieldValue) →
    Except RenderError (List Declaration × List Declaration × Scope)
  | package, _, [] => .ok ([], [], package)
  | _, _, none :: _ => .error (.schema (.of owner "" .emptyField))
  | package, methods, some field :: rest => do
    let (holder, accessor, package, methods) ← renderField s owner ident package methods field
    let (holders, accessors, package) ← renderFields s owner ident package methods rest
    return (holder.toList ++ holders, accessor :: accessors, package)

/-- The constructors of a type that roots these operations. The first one has the plain name, the
others are also named for their operation. -/
def renderStarts (type ident : String) :
    (package : Scope) → (first : Bool) → List Operation →
    Except RenderError (List Declaration × Scope)
  | package, _, [] => .ok ([], package)
  | package, first, op :: rest => do
    let plain := "New" ++ ident
    let start := if first then plain else plain ++ Naming.identifier op.keyword
    let package ← package.claim start (op.keyword ++ " constructor of " ++ type)
    let doc := Comment.ofBlocks
      (start ++ " returns the " ++ op.keyword ++ " root with an empty selection.") []
    let (more, package) ← renderStarts type ident package false rest
    return (.start doc start ident op :: more, package)

/-- The constants of an enum. -/
def renderConstants (type : String) :
    (package : Scope) → List (Option EnumValue) → Except RenderError (List Constant × Scope)
  | package, [] => .ok ([], package)
  | _, none :: _ => .error (.schema (.of type "" .unnamedEnumValue))
  | package, some value :: rest =>
    if value.name == "" then .error (.schema (.of type "" .unnamedEnumValue))
    else do
      let ident := Naming.constantIdentifier type value.name
      let package ← package.claim ident (type ++ "." ++ value.name)
      let doc := Comment.ofBlocks (value.description.getD "")
        [deprecationNotice value.isDeprecated value.deprecationReason]
      let (more, package) ← renderConstants type package rest
      return (⟨doc, ident, value.name⟩ :: more, package)

/-- The declarations of an object type. -/
def renderObject (s : Settings) (package : Scope) (t : FullType) :
    Except RenderError (List Declaration × Scope) := do
  let ident := Naming.identifier t.name
  let package ← package.claim ident t.name
  let (holders, accessors, package) ←
    renderFields s t.name ident package (Scope.empty ident) t.fields.toList
  let (starts, package) ← renderStarts t.name ident package true (s.operations t.name)
  let handle := Declaration.handle (Comment.ofBlocks t.description []) ident
  return (holders ++ handle :: starts ++ accessors, package)

/-- The declaration of an input object. -/
def renderInputObject (s : Settings) (package : Scope) (t : FullType) :
    Except RenderError (List Declaration × Scope) := do
  let ident := Naming.identifier t.name
  let package ← package.claim ident t.name
  let members ← renderInputs s.resolver t.name t.name "" .emptyInputField (Scope.empty ident)
    t.inputFields.toList
  return ([.inputs (Comment.ofBlocks t.description []) ident members], package)

/-- The declarations of an enum. -/
def renderEnum (package : Scope) (t : FullType) :
    Except RenderError (List Declaration × Scope) := do
  let ident := Naming.identifier t.name
  let package ← package.claim ident t.name
  let (values, package) ← renderConstants t.name package t.enumValues.toList
  let newtype := Declaration.newtype (Comment.ofBlocks t.description []) ident
  let constants := if values.isEmpty then [] else [Declaration.constants ident values]
  return (newtype :: constants ++ [.literal ident], package)

/-- The declaration of a scalar, none if the scalar stands for an existing type. -/
def renderScalar (s : Settings) (package : Scope) (t : FullType) :
    Except RenderError (List Declaration × Scope) :=
  if s.resolver.isBound t.name then .ok ([], package)
  else do
    let ident := Naming.identifier t.name
    let package ← package.claim ident t.name
    return ([.newtype (Comment.ofBlocks t.description []) ident], package)

/-- The fragment of a type, with its identifiers claimed in the scope of the package. -/
def renderType (s : Settings) (package : Scope) (t : FullType) :
    Except RenderError (Fragment × Scope) :=
  let decls := match t.kind with
    | .object => renderObject s package t
    | .inputObject => renderInputObject s package t
    | .enum => renderEnum package t
    | .scalar => renderScalar s package t
    | .interface => .error (.schema (.of t.name "" (.unsupportedType t.kind)))
    | .union => .error (.schema (.of t.name "" (.unsupportedType t.kind)))
    | _ => .error (.schema (.of t.name "" (.unknownType t.kind)))
  decls.map fun (decls, package) => (⟨t.name, decls⟩, package)

/-- The fragments of a list of types, with their identifiers claimed in the scope of the package.
Types of introspection itself are left out. -/
def renderTypes (s : Settings) :
    (package : Scope) → List (Option FullType) → Except RenderError (List Fragment)
  | _, [] => .ok []
  | _, none :: _ => .error (.schema (.of "" "" .emptyType))
  | package, some t :: rest =>
    if t.name == "" then .error (.schema (.of "" "" (.unnamedType t.kind)))
    else if isReserved t.name then renderTypes s package rest
    else do
      let (fragment, package) ← renderType s package t
      let more ← renderTypes s package rest
      return fragment :: more

/-- The fragments of a schema in a package of the given name. -/
def render (resolver : Resolver) (qualifyArgs : Bool) (package : String) (schema : Schema) :
    Except RenderError (List Fragment) :=
  renderTypes ⟨resolver, qualifyArgs, sharedArgs schema.types.toList, schema.roots⟩
    (Scope.empty ("package " ++ package)) schema.types.toList

end Bindery
