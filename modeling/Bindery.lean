import Bindery.Bindings.Arguments
import Bindery.Bindings.Declaration
import Bindery.Bindings.Doc
import Bindery.Bindings.Error
import Bindery.Bindings.Generate
import Bindery.Bindings.Print
import Bindery.Bindings.Render
import Bindery.Bindings.Resolver
import Bindery.Bindings.TypeExpr
import Bindery.Client.Header
import Bindery.Client.IpAddress
import Bindery.Client.Post
import Bindery.Client.Request
import Bindery.Client.ServerError
import Bindery.Client.Session
import Bindery.Client.Url
import Bindery.Command.Flags
import Bindery.Command.Log
import Bindery.Command.Needs
import Bindery.Command.Run
import Bindery.Command.Write
import Bindery.Config.Basic
import Bindery.Config.Environment
import Bindery.Config.Introspection
import Bindery.Config.Load
import Bindery.Config.Output
import Bindery.Config.SchemaFiles
import Bindery.Data.Base64
import Bindery.Data.Decode
import Bindery.Data.Encode
import Bindery.Data.MemberOptions
import Bindery.Data.OctetFormat
import Bindery.Data.RecordLayout
import Bindery.Data.Tag
import Bindery.Data.Time
import Bindery.Data.TimeLayout
import Bindery.Data.Type
import Bindery.Data.Value
import Bindery.Files.Changes
import Bindery.Files.Matcher
import Bindery.Files.Path
import Bindery.Files.Pattern
import Bindery.Files.PatternMatcher
import Bindery.Files.Store
import Bindery.Files.Walk
import Bindery.Files.Wildcard
import Bindery.Files.Write
import Bindery.Json.Basic
import Bindery.Json.Decode
import Bindery.Json.Pointer
import Bindery.Json.Scan
import Bindery.Main
import Bindery.Naming.Identifier
import Bindery.Naming.Scope
import Bindery.Naming.Words
import Bindery.Number.Binary
import Bindery.Number.Literal
import Bindery.Number.Read
import Bindery.Number.Shortest
import Bindery.Proofs.Bindings.Collisions
import Bindery.Proofs.Bindings.Comments
import Bindery.Proofs.Bindings.Confinement
import Bindery.Proofs.Bindings.Containment
import Bindery.Proofs.Bindings.Contents
import Bindery.Proofs.Bindings.Declared
import Bindery.Proofs.Bindings.Defects
import Bindery.Proofs.Bindings.Descriptions
import Bindery.Proofs.Bindings.Exported
import Bindery.Proofs.Bindings.Holders
import Bindery.Proofs.Bindings.Navigation
import Bindery.Proofs.Bindings.Notation
import Bindery.Proofs.Bindings.Printing
import Bindery.Proofs.Bindings.References
import Bindery.Proofs.Bindings.Relevance
import Bindery.Proofs.Bindings.Rendered
import Bindery.Proofs.Bindings.Required
import Bindery.Proofs.Bindings.TypeNames
import Bindery.Proofs.Bindings.TypeOrder
import Bindery.Proofs.Bindings.Undocumented
import Bindery.Proofs.Client.Request
import Bindery.Proofs.Client.Response
import Bindery.Proofs.Client.Session
import Bindery.Proofs.Command.Effect
import Bindery.Proofs.Config.Fetching
import Bindery.Proofs.Config.Gathering
import Bindery.Proofs.Config.Search
import Bindery.Proofs.Config.Selection
import Bindery.Proofs.Config.Sources
import Bindery.Proofs.Files.Beginnings
import Bindery.Proofs.Files.Path
import Bindery.Proofs.Files.Relative
import Bindery.Proofs.Files.Tree
import Bindery.Proofs.Files.Write
import Bindery.Proofs.Json.Decoding
import Bindery.Proofs.Json.Grammar
import Bindery.Proofs.Json.Reading
import Bindery.Proofs.Json.Record
import Bindery.Proofs.Naming.Exported
import Bindery.Proofs.Naming.Identifier
import Bindery.Proofs.Naming.Scope
import Bindery.Proofs.Naming.Stability
import Bindery.Proofs.Query.Chain
import Bindery.Proofs.Query.Document
import Bindery.Proofs.Query.Indirection
import Bindery.Proofs.Query.Maps
import Bindery.Proofs.Query.ReadBack
import Bindery.Proofs.Query.Sharing
import Bindery.Proofs.Query.Writers
import Bindery.Proofs.Schema.Forms
import Bindery.Proofs.Schema.Parsing
import Bindery.Proofs.Schema.Typeless
import Bindery.Proofs.Sdl.Conversion
import Bindery.Proofs.Sdl.Lexing
import Bindery.Proofs.Sdl.Literal
import Bindery.Proofs.Sdl.Name
import Bindery.Proofs.Sdl.Order
import Bindery.Proofs.Sdl.References
import Bindery.Proofs.Sorting
import Bindery.Proofs.Source.Directives
import Bindery.Proofs.Source.Words
import Bindery.Proofs.Text.EncodedLines
import Bindery.Proofs.Text.Lines
import Bindery.Proofs.Text.Octets
import Bindery.Query.Argument
import Bindery.Query.Selection
import Bindery.Schema.Basic
import Bindery.Schema.Decoding
import Bindery.Schema.Encoding
import Bindery.Schema.TypeKind
import Bindery.Schema.TypeRef
import Bindery.Sdl.Conversion
import Bindery.Sdl.Document
import Bindery.Sdl.Lexer
import Bindery.Sdl.Load
import Bindery.Sdl.Parser
import Bindery.Sdl.Prelude
import Bindery.Sdl.Token
import Bindery.Sdl.TypeSystem
import Bindery.Sdl.Validation
import Bindery.Source.Constraint
import Bindery.Source.Identifier
import Bindery.Source.Import
import Bindery.Source.Layout
import Bindery.Source.Prose.Block
import Bindery.Source.Prose.Inline
import Bindery.Source.Prose.Line
import Bindery.Source.Prose.Span
import Bindery.Source.Token
import Bindery.Text.Blank
import Bindery.Text.CharRange
import Bindery.Text.Letter
import Bindery.Text.LetterCase
import Bindery.Text.Octets
import Bindery.Text.Printable
import Bindery.Text.Quoted
import Bindery.Yaml.BlockScalar
import Bindery.Yaml.Datum
import Bindery.Yaml.Decode
import Bindery.Yaml.Node
import Bindery.Yaml.Phrase
import Bindery.Yaml.Plain
import Bindery.Yaml.Quoted
import Bindery.Yaml.Scan
import Bindery.Yaml.Scanner
import Bindery.Yaml.Token
