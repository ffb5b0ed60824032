import Bindery.Bindings.Print
import Bindery.Bindings.Render

/-!
# Generating bindings

The whole way from a schema to a formatted source file. Either the whole file comes out, or an error
and nothing else.

## Main definitions

- `Options` — what a run can be told, with defaults for what it is not told
- `GenerateError` — why no file comes out
- `generate` — the source file of a schema
-/

namespace Bindery

/-- What a run can be told. An empty text stands for its default. -/
structure Options where
  /-- The name of the generated package. -/
  package : String
  /-- The name under which the output is known in messages. -/
  filename : String
  /-- The import path of the package of connections, selections and leaves. -/
  runtime : String
  /-- The scalars that are bound to existing types. -/
  scalars : List (String × String)
  /-- Every argument holder is named for its object type as well. -/
  qualifyArgs : Bool
  deriving DecidableEq, Repr

namespace Options

/-- The package name of a run that is told none. -/
def defaultPackage : String := "gen"

/-- The file name of a run that is told none. -/
def defaultFilename : String := "bindings_gen.go"

/-- The runtime of a run that is told none. -/
def defaultRuntime : String := "github.com/Yamashou/gqlbuilder/querybuilder"

/-- The name by which the generated file knows its runtime. -/
def runtimeName : String := "querybuilder"

/-- The options with the defaults where a text is empty. -/
def withDefaults (o : Options) : Options :=
  { o with
    package := if o.package == "" then defaultPackage else o.package
    filename := if o.filename == "" then defaultFilename else o.filename
    runtime := if o.runtime == "" then defaultRuntime else o.runtime }

end Options

/-- Why no file comes out. -/
inductive GenerateError where
  | noSchema
  | packageName (name : String)
  | binding (error : BindingError)
  | render (error : RenderError)
  /-- A name or a comment cannot stand in a source file. -/
  | illegalSource (filename : String)
  deriving DecidableEq, Repr

/-- The text of an error. -/
def GenerateError.message : GenerateError → String
  | noSchema => "gqlbuilder: nil schema"
  | packageName name => "gqlbuilder: invalid package name " ++ quoted name
  | binding e => "gqlbuilder: " ++ e.message
  | render e => e.message
  | illegalSource filename => s!"render {filename}: Error in the generated source"

/-- The comment at the top of a generated file. -/
def headerComment : String := "Code generated by gqlbuilder. DO NOT EDIT."

/-- The source file of the fragments. -/
def sourceFile (package runtime : String) (fragments : List Fragment) : Source.File :=
  let decls := fragments.flatMap (·.decls)
  let imports := Source.Imports.ofPaths (some (runtime, Options.runtimeName))
    (decls.flatMap (Declaration.packages runtime))
  ⟨headerComment, package, imports, decls.map (Declaration.item imports runtime)⟩

/-- The formatted text of the fragments, none if it would not be legal. -/
def emit? (package runtime : String) (fragments : List Fragment) : Option String :=
  let file := sourceFile package runtime fragments
  if fragments.all (·.decls.all Declaration.isLegal) && !file.hasIllegalComment then some file.render
  else none

/-- The source file of a schema. -/
def generate (schema : Option Schema) (options : Options) : Except GenerateError String := do
  let some schema := schema | .error .noSchema
  let options := options.withDefaults
  if !Source.isIdentifier options.package then .error (.packageName options.package)
  let resolver ← (Resolver.ofBindings options.scalars).mapError .binding
  let fragments ← (render resolver options.qualifyArgs options.package schema).mapError .render
  match emit? options.package options.runtime fragments with
  | some source => return source
  | none => .error (.illegalSource options.filename)

end Bindery
