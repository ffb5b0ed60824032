import Bindery.Config.Environment
import Bindery.Config.Introspection
import Bindery.Config.SchemaFiles

/-!
# Loading the configuration

The file of the configuration is looked for from a directory upwards, read and checked. The schema it
names is loaded afterwards.

## Main definitions

- `Store.findConfig` — the nearest file of the configuration
- `Config.load` — reads and checks a configuration
- `Config.loadSchema` — loads the schema of a configuration
- `Project`, `Project.loadSchema` — a configuration with the schema that was loaded for it
- `FindError`, `LoadError`, `SchemaLoadError` — why there is no file, no configuration, no schema
-/

namespace Bindery

/-- Why there is no file of the configuration: none of the names was found. -/
structure FindError where
  /-- The names. -/
  names : List String
  deriving DecidableEq, Repr

/-- The text of an error about a missing configuration. -/
def FindError.message (e : FindError) : String :=
  "unable to find config file, looked for " ++ String.intercalate ", " e.names

/-- Whether a path leads to something that is no directory. -/
def Store.hasFile (s : Store) (path : String) : Bool :=
  match s.find path with
  | .ok n => !n.isDirectory
  | .error _ => false

/-- The directories of names: the names themselves, and those with fewer names, down to none. The names
are given from the last to the first. -/
def ancestors : List String → List (List String)
  | [] => [[]]
  | name :: rest => (name :: rest) :: ancestors rest

/-- The first of some names that is a file in a directory. -/
def Store.fileIn? (s : Store) (names : List String) (directory : String) : Option String :=
  (names.map fun name => Path.join [directory, name]).find? s.hasFile

/-- The nearest file that has one of some names, in a directory or above it. -/
def Store.findConfig (s : Store) (directory : String) (names : List String) :
    Except FindError String :=
  let reversed := (Path.names (s.absolute directory)).reverse
  let directories := (ancestors reversed).map fun names => Path.text true names.reverse
  match directories.findSome? (s.fileIn? names) with
  | some path => .ok path
  | none => .error ⟨names⟩

/-- Why there is no configuration. -/
inductive LoadError where
  | read (error : FileError)
  | parse (error : Yaml.DecodeError)
  | twoSources
  | noSource
  | noUrl
  | output (error : OutputError)
  | files (error : PatternsError)

/-- What a configuration should say about the source of the schema. -/
def sourceAdvice : String :=
  ". Use schema to load from a local file, use endpoint to load from a remote server (using introspection)"

/-- The text of the error that no source is given. -/
def noSourceMessage : String :=
  "neither 'schema' nor 'endpoint' specified" ++ sourceAdvice

/-- The text of an error of loading a configuration. -/
def LoadError.message : LoadError → String
  | read e => "unable to read config: " ++ e.message
  | parse e => "unable to parse config: " ++ e.message
  | twoSources => "'schema' and 'endpoint' both specified" ++ sourceAdvice
  | noSource => noSourceMessage
  | noUrl => "endpoint: url must be specified"
  | output e => "output: " ++ e.message
  | files e => e.message

namespace Config

/-- A configuration is usable if it gives one source and an output. The output becomes an absolute path
and the patterns become the files they name. -/
def check (c : Config) (s : Store) : Except LoadError Config := do
  if c.schema.isSome && c.endpoint.isSome then throw .twoSources
  if c.schema.isNone && c.endpoint.isNone then throw .noSource
  if c.endpoint.any (·.url == "") then throw .noUrl
  let output ← (c.output.check s).mapError .output
  match c.schema with
  | none => return { c with output }
  | some patterns =>
    let files ← (s.schemaFiles patterns).mapError .files
    return { c with output, schema := some files }

/-- Reads and checks a configuration. Variables of the environment are put in before it is parsed. -/
def load (s : Store) (environment : Environment) (path : String) : Except LoadError Config := do
  let content ← (s.read path).mapError .read
  let config ← (parse (environment.expand content.lossy)).mapError .parse
  config.check s

end Config

/-- Why there is no schema. -/
inductive SchemaLoadError where
  | files (error : SchemaFilesError)
  | fetch (error : FetchError)
  | noSource

/-- The text of an error of loading a schema, where `fault` words an error of JSON. -/
def SchemaLoadError.message (fault : Json.Fault → String) : SchemaLoadError → Octets
  | files e => Octets.ofString ("load local schema failed: " ++ e.message fault)
  | fetch e => Octets.ofString "introspect schema failed: " ++ e.message fault
  | noSource => Octets.ofString noSourceMessage

/-- Loads the schema of a configuration. Returns the request that was sent for it, if any. -/
def Config.loadSchema (c : Config) (s : Store) (transport : Transport) :
    Option HttpRequest × Except SchemaLoadError Schema :=
  match c.schema, c.endpoint with
  | some files, _ => (none, (s.loadSchema files).mapError .files)
  | none, some endpoint =>
    let (request, result) := endpoint.fetch transport
    (request, result.mapError .fetch)
  | none, none => (none, .error .noSource)

/-- A configuration and the schema that was loaded for it, if any. -/
structure Project where
  /-- The configuration. -/
  config : Config
  /-- The schema that was loaded last. -/
  schema : Option Schema

/-- Loads the schema of a project and keeps it in the project, which stays as it is if there is no
schema. Returns the request that was sent, if any, and whether there is a schema. -/
def Project.loadSchema (p : Project) (s : Store) (transport : Transport) :
    Project × Option HttpRequest × Except SchemaLoadError Unit :=
  let (request, result) := p.config.loadSchema s transport
  match result with
  | .ok schema => ({ p with schema := some schema }, request, .ok ())
  | .error e => (p, request, .error e)

end Bindery
