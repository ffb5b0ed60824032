import Bindery.Command.Flags
import Bindery.Command.Log
import Bindery.Command.Write

/-!
# Running the program

A run reads its arguments, finds and loads the configuration, loads the schema and writes the bindings.
All it can see is given, and all it does is in its outcome.

## Main definitions

- `World` — what a run can see
- `Outcome` — what a run has done
- `RunError` — why it failed
- `run` — runs the program
-/

namespace Bindery

/-- What a run can see: the files, the environment, the network and the numbers it draws. -/
structure World where
  store : Store
  environment : Environment
  transport : Transport
  draws : Draws

/-- Why a run failed. -/
inductive RunError where
  | flags (error : FlagError)
  | unknownCommand (argument : String)
  | find (error : FindError)
  | config (error : LoadError)
  | schema (error : SchemaLoadError)
  | bindings (error : BindingsError)

/-- The text of an error of a run, where `fault` words an error of JSON. -/
def RunError.message (fault : Json.Fault → String) : RunError → Octets
  | flags e => Octets.ofString e.message
  | unknownCommand argument => Octets.ofString ("unknown command " ++ quoted argument ++ " for \"gqlbuilder\"")
  | find e => Octets.ofString ("failed to find config file: " ++ e.message)
  | config e => Octets.ofString ("failed to load config file: " ++ e.message)
  | schema e => Octets.ofString "failed to load schema: " ++ e.message fault
  | bindings e => Octets.ofString ("failed to generate code: " ++ e.message)

/-- What a run has done. -/
structure Outcome where
  /-- The files afterwards. -/
  store : Store
  /-- What it has printed. -/
  printed : String
  /-- What it has logged. -/
  log : List LogEntry
  /-- Why it failed, if so. -/
  result : Except RunError Unit

/-- The names that a file of the configuration may have, in the order in which they are looked for. -/
def configNames : List String :=
  [".gqlbuilder.yml", "gqlbuilder.yml", ".gqlbuilder.yaml", "gqlbuilder.yaml"]

namespace World

/-- The file of the configuration: the given one, or the one that is found. -/
def configFile (w : World) (given : String) : Except FindError String :=
  if given == "" then w.store.findConfig "." configNames else .ok given

/-- Writes the bindings for a schema. -/
def bind (w : World) (config : Config) (schema : Schema) (log : List LogEntry) : Outcome :=
  match config.writeBindings w.store w.draws (some schema) with
  | (store, .error e) => ⟨store, "", log, .error (.bindings e)⟩
  | (store, .ok source) =>
    let entry : LogEntry := ⟨.info, "generated bindings",
      [("plugin", "bindgen"), ("file", config.output.filename), ("bytes", toString source.utf8ByteSize)]⟩
    ⟨store, "", log ++ [entry], .ok ()⟩

/-- Finds and loads the configuration and its schema, and writes the bindings. -/
def generate (w : World) (given : String) : Outcome :=
  match w.configFile given with
  | .error e => ⟨w.store, "", [], .error (.find e)⟩
  | .ok file =>
    let loading : LogEntry := ⟨.debug, "loading config", [("file", file)]⟩
    match Config.load w.store w.environment file with
    | .error e => ⟨w.store, "", [loading], .error (.config e)⟩
    | .ok config =>
      match (config.loadSchema w.store w.transport).2 with
      | .error e => ⟨w.store, "", [loading], .error (.schema e)⟩
      | .ok schema =>
        let loaded : LogEntry :=
          ⟨.debug, "loaded schema", [("types", toString schema.types.toList.length)]⟩
        w.bind config schema [loading, loaded]

/-- Does what the arguments ask for. Without being asked to, a run does not tell details. -/
def serve (w : World) (r : Request) : Outcome :=
  if r.help then ⟨w.store, helpText configNames, [], .ok ()⟩
  else if r.version then ⟨w.store, versionText, [], .ok ()⟩
  else match r.positional with
    | argument :: _ => ⟨w.store, "", [], .error (.unknownCommand argument)⟩
    | [] =>
      let outcome := w.generate r.config
      if r.verbose then outcome
      else { outcome with log := outcome.log.filter (·.level != .debug) }

/-- Runs the program. -/
def run (w : World) (arguments : List String) : Outcome :=
  match parseArguments arguments with
  | .error e => ⟨w.store, "", [], .error (.flags e)⟩
  | .ok request => w.serve request

end World

/-- The lines that a run has logged. -/
def Outcome.logText (o : Outcome) : String :=
  String.join (o.log.map LogEntry.line)

end Bindery
