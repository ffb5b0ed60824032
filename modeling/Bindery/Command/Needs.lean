import Bindery.Command.Run

/-!
# What a run needs to see

Only a part of all files matters to a run. The part beyond the directory in which one is follows from
the arguments and from the configuration.

## Main definitions

- `configPaths` — where the configuration may be
- `fixedPart` — the directory of a pattern up to the first character with a meaning
- `World.directories` — the directories that a configuration speaks of
-/

namespace Bindery

/-- Where the configuration may be: at the given place, or in one of the directories above. -/
def configPaths (directory : String) (arguments : List String) : List String :=
  match parseArguments arguments with
  | .error _ => []
  | .ok r =>
    if r.config != "" then [r.config]
    else (ancestors (Path.names directory).reverse).flatMap fun names =>
      configNames.map fun name => Path.join [Path.text true names.reverse, name]

/-- The directory of a pattern up to the first character with a meaning. -/
def fixedPart (pattern : String) : String :=
  let marks := ['*', '?', '[', '\\', '\x7b']
  Path.directory (String.ofList (pattern.toList.takeWhile fun c => !marks.contains c))

/-- The directories that the configuration of a run speaks of: those of the schema and of the output. -/
def World.directories (w : World) (arguments : List String) : List String :=
  let config? := do
    let r ← (parseArguments arguments).toOption
    let file ← (w.configFile r.config).toOption
    let content ← (w.store.read file).toOption
    (Config.parse (w.environment.expand content.lossy)).toOption
  match config? with
  | none => []
  | some c => Path.directory c.output.filename :: (c.schema.getD []).map fixedPart

end Bindery
