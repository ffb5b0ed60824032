import Bindery.Sdl.TypeSystem

/-!
# Checking type systems

The rules that a type system has to keep. Types are checked in the order of their names, then the
directives, and the first violation is reported.

## Main definitions

- `Sdl.TypeSystem.checkDirectives` — directives where they are used
- `Sdl.TypeSystem.checkImplements` — an interface that a type implements
- `Sdl.TypeSystem.checkDefinition` — a type
- `Sdl.TypeSystem.check` — all types and directives
-/

namespace Bindery.Sdl

/-- A check that passes or reports a violation. -/
abbrev Check := Except SyntaxError Unit

/-- A check that passes if the condition holds. -/
def require (condition : Bool) (position : Position) (text : String) : Check :=
  if condition then .ok () else errorAt position text

/-- A name that does not belong to introspection itself. -/
def checkName (position : Position) (name : String) : Check :=
  require (!isReserved name) position
    ("Name \"" ++ name ++ "\" must not begin with \"__\", which is reserved by GraphQL introspection.")

/-- The kinds in a message. -/
def kindList (kinds : List DefinitionKind) : String :=
  String.intercalate ", " (kinds.map DefinitionKind.text)

/-- The kinds of types that a field can have. -/
def outputKinds : List DefinitionKind :=
  [.scalar, .object, .interface, .union, .enum]

/-- The kinds of types that an argument or an input field can have. -/
def inputKinds : List DefinitionKind :=
  [.scalar, .enum, .inputObject]

/-- Whether an argument of the second type can stand for one of the first type. -/
def isCompatible : TypeExpr → TypeExpr → Bool
  | .named _ a m, .named _ b n => a == b && (!n || m)
  | .list _ a m, .list _ b n => isCompatible a b && (!n || m)
  | _, _ => false

namespace TypeSystem

/-- The names of the types that stand for the type of a name: the members of a union, and the types
that implement an interface. -/
def possibleTypes (s : TypeSystem) (name : String) : List String :=
  s.types.flatMap fun d =>
    match d.kind with
    | .union => if d.name == name then d.types else []
    | .interface => if d.interfaces.contains name then [d.name] else []
    | .object => if d.interfaces.contains name || d.name == name then [d.name] else []
    | .inputObject => if d.interfaces.contains name || d.name == name then [d.name] else []
    | _ => []

/-- Whether a field of the second type can stand for one of the first type. -/
def isCovariant (s : TypeSystem) : TypeExpr → TypeExpr → Bool
  | .named _ a m, .named _ b n => (!m || n) && (a == b || (s.possibleTypes a).contains b)
  | .list _ a m, .list _ b n => (!m || n) && s.isCovariant a b
  | _, _ => false

/-- A directive where it is used. -/
def checkDirective (s : TypeSystem) (location : String) (current : Option String) (use : DirectiveUse) :
    Check := do
  checkName use.position use.name
  require (current != some use.name) use.position
    ("Directive " ++ use.name ++ " cannot refer to itself.")
  match s.directive? use.name with
  | none => errorAt use.position ("Undefined directive " ++ use.name ++ ".")
  | some d =>
    require (d.locations.contains location) use.position
      ("Directive " ++ use.name ++ " is not applicable on " ++ location ++ ".")
    use.args.forM fun a =>
      require (d.args.any (·.name == a.name)) a.position
        ("Undefined argument " ++ a.name ++ " for directive " ++ use.name ++ ".")
    d.args.forM fun p =>
      let given := (use.args.find? (·.name == p.name)).any (!·.value.isNull)
      require (!p.type.isNonNull || p.default?.isSome || given) use.position
        ("Argument " ++ p.name ++ " for directive " ++ use.name ++ " cannot be null.")

/-- Directives at a place, inside the declaration of the directive `current` if there is one. -/
def checkDirectives (s : TypeSystem) (location : String) (current : Option String)
    (uses : List DirectiveUse) : Check :=
  uses.forM (s.checkDirective location current)

/-- A type that is declared. -/
def checkType (s : TypeSystem) (t : TypeExpr) : Check :=
  require (s.type? t.name).isSome t.position ("Undefined type " ++ t.name ++ ".")

/-- The arguments of a field, or of the directive `current`. -/
def checkArgs (s : TypeSystem) (current : Option String) (args : List InputDefinition) : Check :=
  args.forM fun a => do
    checkName a.position a.name
    s.checkType a.type
    (s.type? a.type.name).forM fun d =>
      require (inputKinds.contains d.kind) a.position
        ("cannot use " ++ a.type.text ++ " as argument " ++ a.name ++ " because " ++ d.kind.text ++
          " is not a valid input type")
    s.checkDirectives "ARGUMENT_DEFINITION" current a.directives

/-- A field of the type `d` that implements a field of an interface. -/
def checkImplementedField (s : TypeSystem) (d : Definition) (interface : String)
    (required : FieldDefinition) : Check :=
  let lead := "For " ++ d.name ++ " to implement " ++ interface
  match d.fields.find? (·.name == required.name) with
  | none => errorAt d.position (lead ++ " it must have a field called " ++ required.name ++ ".")
  | some found => do
    let lead' := lead ++ " the field " ++ required.name ++ " must have "
    require (s.isCovariant required.type found.type) found.position
      (lead' ++ "type " ++ required.type.text ++ ".")
    required.args.forM fun r =>
      match found.args.find? (·.name == r.name) with
      | none => errorAt found.position (lead' ++ "the same arguments but it is missing " ++ r.name ++ ".")
      | some a =>
        require (isCompatible r.type a.type) a.position
          (lead' ++ "the same arguments but " ++ r.name ++ " has the wrong type.")
    found.args.forM fun a =>
      require (required.args.any (·.name == a.name) || !a.type.isNonNull || a.default?.isSome) a.position
        (lead ++ " any additional arguments on " ++ found.name ++
          " must be optional or have a default value but " ++ a.name ++ " is required.")

/-- An interface that the type `d` implements. -/
def checkImplements (s : TypeSystem) (d : Definition) (name : String) : Check :=
  match s.type? name with
  | none => errorAt d.position ("Undefined type " ++ quoted name ++ ".")
  | some i => do
    require (i.kind == .interface) d.position
      (quoted name ++ " is a non interface type " ++ i.kind.text ++ ".")
    i.fields.forM (s.checkImplementedField d i.name)
    i.interfaces.forM fun ancestor =>
      require (d.interfaces.contains ancestor) d.position
        (if ancestor == d.name then
          "Type " ++ d.name ++ " cannot implement " ++ name ++
            " because it would create a circular reference."
        else
          "Type " ++ d.name ++ " must implement " ++ ancestor ++ " because it is implemented by " ++
            name ++ ".")

/-- A field of the type `d`. -/
def checkField (s : TypeSystem) (d : Definition) (f : FieldDefinition) : Check := do
  checkName f.position f.name
  s.checkType f.type
  s.checkArgs none f.args
  s.checkDirectives (if d.kind == .inputObject then "INPUT_FIELD_DEFINITION" else "FIELD_DEFINITION")
    none f.directives

/-- The member of a union. -/
def checkMember (s : TypeSystem) (d : Definition) (name : String) : Check :=
  match s.type? name with
  | none => errorAt d.position ("Undefined type " ++ quoted name ++ ".")
  | some m =>
    require (m.kind == .object) d.position
      (d.kind.text ++ " type " ++ quoted name ++ " must be OBJECT.")

/-- The rules for objects and interfaces. -/
def checkComposite (s : TypeSystem) (d : Definition) : Check := do
  let lead := d.kind.text ++ " " ++ d.name ++ ": "
  require (!d.fields.isEmpty) d.position (lead ++ "must define one or more fields.")
  d.fields.forM fun f =>
    (s.type? f.type.name).forM fun t =>
      require (outputKinds.contains t.kind) f.position
        (lead ++ "field must be one of " ++ kindList outputKinds ++ ".")

/-- The rules for enums. -/
def checkEnum (s : TypeSystem) (d : Definition) : Check := do
  let lead := d.kind.text ++ " " ++ d.name ++ ": "
  require (!d.enumValues.isEmpty) d.position (lead ++ "must define one or more unique enum values.")
  d.enumValues.forM fun v => do
    require (!(["true", "false", "null"].contains v.name)) d.position
      (lead ++ "non-enum value " ++ v.name ++ ".")
    s.checkDirectives "ENUM_VALUE" none v.directives

/-- The rules for input objects. -/
def checkInputObject (s : TypeSystem) (d : Definition) : Check := do
  let lead := d.kind.text ++ " " ++ d.name ++ ": "
  require (!d.fields.isEmpty) d.position (lead ++ "must define one or more input fields.")
  d.fields.forM fun f =>
    (s.type? f.type.name).forM fun t =>
      require (inputKinds.contains t.kind) f.position
        (t.kind.text ++ " " ++ f.name ++ ": field must be one of " ++ kindList inputKinds ++ ".")

/-- Each field name occurs once. -/
def checkDistinct (d : Definition) : List FieldDefinition → Check
  | [] => .ok ()
  | f :: rest => do
    match rest.find? (·.name == f.name) with
    | none => checkDistinct d rest
    | some again =>
      errorAt again.position ("Field " ++ d.name ++ "." ++ again.name ++ " can only be defined once.")

/-- A type. -/
def checkDefinition (s : TypeSystem) (d : Definition) : Check := do
  d.fields.forM (s.checkField d)
  d.types.forM (s.checkMember d)
  d.interfaces.forM (s.checkImplements d)
  match d.kind with
  | .object => s.checkComposite d
  | .interface => s.checkComposite d
  | .enum => s.checkEnum d
  | .inputObject => s.checkInputObject d
  | _ => pure ()
  checkDistinct d d.fields
  if !d.builtIn then checkName d.position d.name
  s.checkDirectives d.kind.text none d.directives

/-- The declaration of a directive. -/
def checkDirectiveDefinition (s : TypeSystem) (d : DirectiveDefinition) : Check := do
  checkName d.position d.name
  s.checkArgs (some d.name) d.args

/-- All types in the order of their names, then all directives in the order of theirs. -/
def check (s : TypeSystem) : Check := do
  (s.types.mergeSort fun a b => !(b.name < a.name)).forM s.checkDefinition
  (s.directives.mergeSort fun a b => !(b.name < a.name)).forM s.checkDirectiveDefinition

end TypeSystem

end Bindery.Sdl
