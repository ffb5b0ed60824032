import Bindery.Sdl.TypeSystem

/-!
# From type systems to schemas

The schema model of a type system, so that source texts and introspection results lead to the same
bindings. Types come in the order of their declarations, those of every schema first, and directives
in the order of their names.

## Main definitions

- `Sdl.TypeExpr.ref` — the reference of a type
- `Sdl.precedes` — the order of declarations
- `Sdl.TypeSystem.schema` — the schema of a type system
-/

namespace Bindery.Sdl

/-- A text that counts as absent if it is empty. -/
def optional (s : String) : Option String :=
  if s == "" then none else some s

/-- The reason of a deprecation that gives none. -/
def defaultReason : String := "No longer supported"

/-- Whether directives deprecate what they are on, and for which reason. -/
def deprecation (uses : List DirectiveUse) : Option String × Bool :=
  match uses.find? (·.name == "deprecated") with
  | none => (none, false)
  | some d =>
    match d.args.find? (·.name == "reason") with
    | none => (some defaultReason, true)
    | some a => (some a.value.raw, true)

/-- The wrapper of a type that excludes null. -/
def wrapNonNull (nonNull : Bool) (ref : TypeRef) : TypeRef :=
  if nonNull then .wrap .nonNull none ref else ref

/-- Whether the first declaration comes before the second one or is the same: declarations of every
schema first, then by source, place and name. -/
def precedes (a b : Definition) : Bool :=
  if a.builtIn != b.builtIn then a.builtIn
  else if a.position.source != b.position.source then a.position.source < b.position.source
  else if a.position.start != b.position.start then a.position.start < b.position.start
  else !(b.name < a.name)

namespace TypeSystem

/-- The reference to a name, without a kind if the name is not declared. -/
def namedRef (s : TypeSystem) (name : String) : TypeRef :=
  .plain ((s.type? name).elim .absent (·.kind.toKind)) (some name)

/-- The reference of a type. -/
def ref (s : TypeSystem) : TypeExpr → TypeRef
  | .named _ name nonNull => wrapNonNull nonNull (s.namedRef name)
  | .list _ elem nonNull => wrapNonNull nonNull (.wrap .list none (s.ref elem))

/-- The model of an argument. -/
def inputValue (s : TypeSystem) (d : InputDefinition) : InputValue :=
  ⟨s.ref d.type, optional d.description, d.default?.map Literal.text, d.name⟩

/-- The model of a field of an input object. -/
def inputField (s : TypeSystem) (d : FieldDefinition) : InputValue :=
  ⟨s.ref d.type, optional d.description, d.default?.map Literal.text, d.name⟩

/-- The model of a field. -/
def fieldValue (s : TypeSystem) (d : FieldDefinition) : FieldValue :=
  let (reason, deprecated) := deprecation d.directives
  ⟨s.ref d.type, optional d.description, reason, d.name,
   some (d.args.map fun a => some (s.inputValue a)), deprecated⟩

/-- The model of an enum value. -/
def enumValue (d : EnumValueDefinition) : EnumValue :=
  let (reason, deprecated) := deprecation d.directives
  ⟨optional d.description, reason, d.name, deprecated⟩

/-- References to names, absent if there are none. -/
def namedRefs (s : TypeSystem) (names : List String) : Entries TypeRef :=
  if names.isEmpty then none else some (names.map fun n => some (s.namedRef n))

/-- The model of a type. Each kind has its own lists, and the other ones are absent. -/
def fullType (s : TypeSystem) (d : Definition) : FullType :=
  let composite := d.kind == .object || d.kind == .interface
  { kind := d.kind.toKind
    name? := some d.name
    description? := optional d.description
    fields :=
      if composite then
        some ((d.fields.filter (!isReserved ·.name)).map fun f => some (s.fieldValue f))
      else none
    inputFields :=
      if d.kind == .inputObject then some (d.fields.map fun f => some (s.inputField f)) else none
    interfaces := if composite then s.namedRefs d.interfaces else none
    enumValues :=
      if d.kind == .enum then some (d.enumValues.map fun v => some (enumValue v)) else none
    possibleTypes := if d.kind == .union then s.namedRefs d.types else none }

/-- The model of a directive. -/
def directive (s : TypeSystem) (d : DirectiveDefinition) : Directive :=
  ⟨d.name, optional d.description,
   if d.locations.isEmpty then none else some d.locations,
   if d.args.isEmpty then none else some (d.args.map fun a => some (s.inputValue a))⟩

/-- The schema of a type system. -/
def schema (s : TypeSystem) : Schema :=
  let root := fun op => (s.root? op).map fun name => RootType.mk (some name)
  let directives := s.directives.mergeSort fun a b => !(b.name < a.name)
  { queryType := root .query
    mutationType := root .mutation
    subscriptionType := root .subscription
    types := some ((s.types.mergeSort precedes).map fun d => some (s.fullType d))
    directives :=
      if directives.isEmpty then none else some (directives.map fun d => some (s.directive d)) }

end TypeSystem

end Bindery.Sdl
