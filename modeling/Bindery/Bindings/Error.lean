import Bindery.Naming.Scope
import Bindery.Schema.Basic

/-!
# Errors of the generator

A schema that cannot be bound is reported with the type and the field at fault. Defects say what is
wrong; their texts are written in one place.

## Main definitions

- `Category` — the classes of errors that a caller can ask for
- `Defect` — what is wrong with a schema, with `Defect.message` and `Defect.category`
- `SchemaError` — a defect, where it is, and what lies below it
- `RenderError` — why no declarations come out of a schema
-/

namespace Bindery

/-- The classes of errors that a caller can ask for. -/
inductive Category where
  /-- A type or a reference that violates the model of a schema. -/
  | shape
  /-- A kind of type that has no binding. -/
  | unsupported
  /-- Two names with one identifier. -/
  | collision
  deriving DecidableEq, Repr

/-- What is wrong with a schema. -/
inductive Defect where
  | missingReference
  | nonNullWithoutInner
  | nonNullTwice (ref : TypeRef)
  | listWithoutInner
  | unnamedReference (kind : TypeKind)
  | namedWithInner (kind : TypeKind) (name : String)
  | unsupportedReference (kind : TypeKind) (name : String)
  | unknownReference (kind : TypeKind) (ref : TypeRef)
  | emptyType
  | unnamedType (kind : TypeKind)
  | unsupportedType (kind : TypeKind)
  | unknownType (kind : TypeKind)
  | emptyField
  | unnamedField
  | emptyArgument
  | emptyInputField
  | unnamedInput
  | unnamedEnumValue
  | described (category : Option Category) (text : String)
  deriving DecidableEq, Repr

namespace Defect

/-- The text of a defect. -/
def message : Defect → String
  | missingReference => "missing type reference"
  | nonNullWithoutInner => "NON_NULL reference without ofType"
  | nonNullTwice ref => "NON_NULL wrapping NON_NULL in " ++ ref.text
  | listWithoutInner => "LIST reference without ofType"
  | unnamedReference kind => kind.text ++ " reference without name"
  | namedWithInner kind name => kind.text ++ " reference to " ++ name ++ " carries ofType"
  | unsupportedReference kind name =>
    kind.text ++ " reference to " ++ name ++ " is not supported"
  | unknownReference kind ref =>
    "unknown type kind " ++ quoted kind.text ++ " in reference " ++ ref.text
  | emptyType => "nil type"
  | unnamedType kind => kind.text ++ " type without name"
  | unsupportedType kind => kind.text ++ " types are not supported"
  | unknownType kind => "cannot render type of kind " ++ quoted kind.text
  | emptyField => "nil field"
  | unnamedField => "field without name"
  | emptyArgument => "nil argument"
  | emptyInputField => "nil input field"
  | unnamedInput => "input value without name"
  | unnamedEnumValue => "enum value without name"
  | described _ text => text

/-- The class of a defect. -/
def category : Defect → Option Category
  | unsupportedReference _ _ => some .unsupported
  | unsupportedType _ => some .unsupported
  | described category _ => category
  | _ => some .shape

end Defect

/-- A defect and where it is. -/
structure Finding where
  /-- The type at fault, empty if it is not known. -/
  type : String
  /-- The field, argument or enum value at fault, empty if there is none. -/
  field : String
  /-- What is wrong. -/
  defect : Defect
  deriving DecidableEq, Repr

/-- The text of a finding. -/
def Finding.message (f : Finding) : String :=
  "gqlbuilder: schema error" ++
    (if f.type == "" then "" else " on type " ++ f.type) ++
    (if f.field == "" then "" else " field " ++ f.field) ++
    (if f.defect.message == "" then "" else ": " ++ f.defect.message)

/-- A schema that is refused: a finding, the findings that caused it, nearest first, and the plain
text at the bottom of them, if any. -/
structure SchemaError where
  /-- The finding that is reported. -/
  finding : Finding
  /-- The findings below it. -/
  causes : List Finding := []
  /-- The text below all findings. -/
  root : Option String := none
  deriving DecidableEq, Repr

namespace SchemaError

/-- An error without a cause. -/
def of (type field : String) (defect : Defect) : SchemaError :=
  ⟨⟨type, field, defect⟩, [], none⟩

/-- The text of an error, with the texts of its causes. -/
def message (e : SchemaError) : String :=
  String.intercalate ": " (e.finding.message :: e.causes.map Finding.message ++ e.root.toList)

/-- Whether the error or one of its causes belongs to the class. -/
def isA (e : SchemaError) (c : Category) : Bool :=
  (e.finding :: e.causes).any (·.defect.category == some c)

/-- Whether something caused the error. -/
def hasCause (e : SchemaError) : Bool :=
  !e.causes.isEmpty || e.root.isSome

/-- The error with a type and a field where it names none. -/
def located (e : SchemaError) (type field : String) : SchemaError :=
  { e with
    finding :=
      { e.finding with
        type := if e.finding.type == "" then type else e.finding.type
        field := if e.finding.field == "" then field else e.finding.field } }

end SchemaError

/-- Why no declarations come out of a schema. -/
inductive RenderError where
  | schema (error : SchemaError)
  | collision (error : Collision)
  deriving DecidableEq, Repr

namespace RenderError

/-- The text of an error. -/
def message : RenderError → String
  | schema e => e.message
  | collision c => c.message

/-- The error with a type and a field where it names none. -/
def located (e : RenderError) (type field : String) : RenderError :=
  match e with
  | schema e => schema (e.located type field)
  | collision c => collision c

end RenderError

end Bindery
