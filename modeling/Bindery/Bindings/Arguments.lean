import Bindery.Bindings.Declaration
import Bindery.Bindings.Resolver

/-!
# Arguments and input fields

Arguments of a field are carried by a struct of their own, the holder. Holders are named for their
field. A field that takes arguments on several object types gets one holder for each of them, named
for the object type as well.

## Main definitions

- `splitArgs` — the required and the optional arguments
- `sharedArgs` — the identifiers of fields that take arguments on several object types
- `renderInput` — the member of an argument or input field
- `renderHolder` — the holder of the arguments of a field
-/

namespace Bindery

/-- The required arguments, which exclude null, and the optional ones, both in their order. -/
def splitArgs (args : List InputValue) : List InputValue × List InputValue :=
  args.partition (·.type.isNonNull)

/-- The required and the optional arguments of a list, none if an entry is empty: whether an empty
entry excludes null cannot be told. -/
def splitEntries? (args : List (Option InputValue)) : Option (List InputValue × List InputValue) :=
  (args.mapM id).map splitArgs

/-- The identifiers of the fields of an object type that take arguments. Types of other kinds and
types of introspection itself have none. -/
def FullType.argIdentifiers (t : FullType) : List String :=
  if t.kind != .object || isReserved t.name then []
  else
    ((t.fields.values.filter (!·.args.toList.isEmpty)).map (Naming.identifier ·.name)).eraseDups

/-- The identifiers of the fields that take arguments on several object types. -/
def sharedArgs (types : List (Option FullType)) : List String :=
  let idents := (types.filterMap id).flatMap FullType.argIdentifiers
  idents.eraseDups.filter fun i => 1 < idents.count i

/-- Claims an identifier, where a collision is an error of rendering. -/
def Scope.claim (s : Scope) (ident source : String) : Except RenderError Scope :=
  (s.declare ident source).mapError .collision

/-- The member of an argument or input field of `owner`, claimed in the scope of its struct. -/
def renderInput (r : Resolver) (owner : String) (members : Scope) (input : InputValue) :
    Except RenderError (Member × Scope) :=
  if input.name == "" then .error (.schema (.of owner "" .unnamedInput))
  else do
    let ident := Naming.identifier input.name
    let members ← members.claim ident input.name
    match r.resolve input.type with
    | .error defect => .error (.schema (.of owner input.name defect))
    | .ok type =>
      let doc := Comment.ofBlocks (input.description.getD "") [defaultNotice input.defaultValue]
      return (⟨doc, ident, type, input.name⟩, members)

/-- The members of a list of arguments or input fields in a scope. An empty entry is the defect
`empty`, found at `type` and `field`. -/
def renderInputs (r : Resolver) (owner type field : String) (empty : Defect) :
    Scope → List (Option InputValue) → Except RenderError (List Member)
  | _, [] => .ok []
  | _, none :: _ => .error (.schema (.of type field empty))
  | members, some input :: rest => do
    let (member, members) ← renderInput r owner members input
    let more ← renderInputs r owner type field empty members rest
    return member :: more

/-- The holder of the arguments of a field. -/
def renderHolder (r : Resolver) (owner holder : String) (field : FieldValue) :
    Except RenderError Declaration := do
  let members ← renderInputs r (owner ++ "." ++ field.name) owner field.name .emptyArgument
    (Scope.empty holder) field.args.toList
  let required := (splitArgs field.args.values).1.map (Naming.identifier ·.name)
  let doc := Comment.ofBlocks
    (holder ++ " holds the arguments of " ++ owner ++ "." ++ field.name ++ ".")
    [requiredNotice required]
  return .inputs doc holder members

end Bindery
