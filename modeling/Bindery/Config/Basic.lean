import Bindery.Bindings.Generate
import Bindery.Client.Header
import Bindery.Config.Output
import Bindery.Yaml.Decode

/-!
# The configuration

Where the schema comes from, where the bindings go, and how they are made.

## Main definitions

- `Endpoint` — a server that can be asked for its schema
- `Config` — the configuration
- `Config.decoder` — decodes documents into configurations
- `Config.parse` — the configuration in a text
- `Config.options` — the options of the bindings
-/

namespace Bindery

/-- A server that can be asked for its schema. -/
structure Endpoint where
  /-- The fields of the header of a request, none if they are not given. -/
  headers : Option (List (String × Option (List String)))
  /-- The address of the server. -/
  url : String
  deriving DecidableEq, Repr, Inhabited

/-- The header of a request to the server. -/
def Endpoint.header (e : Endpoint) : Header :=
  (e.headers.getD []).map fun (name, values) => (name, values.getD [])

/-- The configuration. -/
structure Config where
  /-- The files of the schema. -/
  schema : Option (List String)
  /-- The server that has the schema. -/
  endpoint : Option Endpoint
  /-- Where the bindings are written. -/
  output : Output
  /-- The import path of the package that builds queries. -/
  runtime : String
  /-- The types for scalars, none if they are not given. -/
  scalars : Option (List (String × String))
  /-- Whether the names of all argument types have the name of the object before them. -/
  qualifyArgs : Bool
  deriving DecidableEq, Repr, Inhabited

namespace Config

open Yaml (Decoder Field)

/-- A list of texts, where a text alone stands for a list of one. -/
def texts : Decoder (Option (List String)) where
  target := "[]string"
  run n :=
    try return some [← Yaml.text.run n]
    catch _ => (Yaml.listOf Yaml.text "").run n

/-- The configuration of a server. -/
def server : Decoder (Option Endpoint) where
  target := "EndPointConfig"
  run n := some <$> (Yaml.record "EndPointConfig"
    [.of "headers" "Headers" (fun h e => { e with headers := h })
        (Yaml.mapOf (Yaml.listOf Yaml.text "") none) none,
      .of "url" "URL" (fun u e => { e with url := u }) Yaml.text ""] default).run n

/-- The configuration of the output. Some of its fields are taken and not used. -/
def package : Decoder Output :=
  Yaml.record "PackageConfig"
    [.of "filename" "Filename" (fun f o => { o with filename := f }) Yaml.text "",
      .of "package" "Package" (fun p o => { o with package := p }) Yaml.text "",
      .of "version" "Version" (fun _ o => o) Yaml.whole (),
      .of "model_template" "ModelTemplate" (fun _ o => o) Yaml.text "",
      .of "options" "Options" (fun _ o => o) (Yaml.mapOf Yaml.truth false) none] default

/-- The configuration from a document. -/
def decoder : Decoder Config :=
  Yaml.record "Config"
    [.of "schema" "Schema" (fun s c => { c with schema := s }) texts none,
      .of "endpoint" "Endpoint" (fun e c => { c with endpoint := e }) server none,
      .of "output" "Output" (fun o c => { c with output := o }) package default,
      .of "runtime" "Runtime" (fun r c => { c with runtime := r }) Yaml.text "",
      .of "scalars" "Scalars" (fun s c => { c with scalars := s }) (Yaml.mapOf Yaml.text "") none,
      .of "qualify_args" "QualifyArgs" (fun q c => { c with qualifyArgs := q }) Yaml.truth false] default

/-- The configuration in a text. -/
def parse (text : String) : Except Yaml.DecodeError Config :=
  Yaml.decodeFirst decoder text

/-- The options of the bindings. -/
def options (c : Config) : Options where
  package := c.output.package
  filename := Path.base c.output.filename
  runtime := c.runtime
  scalars := c.scalars.getD []
  qualifyArgs := c.qualifyArgs

end Config

end Bindery
