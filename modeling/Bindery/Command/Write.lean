import Bindery.Config.Load
import Bindery.Files.Write

/-!
# Writing the bindings

The bindings for a schema are made and written to the output of the configuration.

## Main definitions

- `Config.writeBindings` — makes the bindings and writes them
- `BindingsError` — why they are not written
-/

namespace Bindery

/-- Why bindings are not written. -/
inductive BindingsError where
  | noSchema
  | generate (error : GenerateError)
  | write (path : String) (error : Store.WriteError)

/-- The text of an error about bindings. -/
def BindingsError.message (e : BindingsError) : String :=
  "bindgen failed: " ++
    match e with
    | noSchema => "schema is not loaded"
    | generate e => "generating bindings: " ++ e.message
    | write path e => "writing " ++ path ++ ": " ++ e.message

/-- Makes the bindings for a schema and writes them. Returns the files afterwards, and the source that
was written. -/
def Config.writeBindings (c : Config) (s : Store) (draws : Draws) (schema : Option Schema) :
    Store × Except BindingsError String :=
  match schema with
  | none => (s, .error .noSchema)
  | some schema =>
    match generate (some schema) c.options with
    | .error e => (s, .error (.generate e))
    | .ok source =>
      let (s, result) := s.write draws c.output.filename (Octets.ofString source)
      (s, (result.mapError (.write c.output.filename)).map fun _ => source)

end Bindery
