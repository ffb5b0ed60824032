import Bindery.Files.Store
import Bindery.Source.Token

/-!
# The output of a run

Where the bindings are written, and the name of their package, which is that of the directory if none
is given.

## Main definitions

- `Output` — a file and a package
- `Output.check` — the output with an absolute path and a package name
- `packageClause?` — the package name that a source file gives
-/

namespace Bindery

/-- A file and a package. -/
structure Output where
  /-- The path of the file. -/
  filename : String
  /-- The name of the package. -/
  package : String
  deriving DecidableEq, Repr, Inhabited

/-- Why an output cannot be used. -/
inductive OutputError where
  | packagePath
  | noFilename
  | notSource
  deriving DecidableEq, Repr

/-- The text of an error about the output. -/
def OutputError.message : OutputError → String
  | packagePath =>
    "package should be the output package name only, do not include the output filename"
  | noFilename => "filename must be specified"
  | notSource => "filename should be path to a go source file"

/-- The text after the clause of a source file that names its package, whose name it follows: after
the end of the line or a semicolon one more token has to be well formed. A closing bracket is taken for
the end, too. -/
def clauseEnd? (fuel : Nat) (cs : List Char) : Option (List Char) := do
  let (newline, rest) ← Source.skipTrivia? fuel false false cs
  let (token, after) ← Source.token? rest
  if newline || token == .endOfText || token == .mark ")" || token == .mark "\x7d" then some after
  else if token == .mark ";" then
    let (_, rest) ← Source.skipTrivia? fuel false false after
    (Source.token? rest).map (·.2)
  else none

/-- Whether a character may not stand in a source file: the zero character, and the mark of the order of
octets except at the beginning. -/
def isForeign (c : Char) : Bool :=
  c.toNat == 0 || c.toNat == 0xfeff

/-- The package name that a source file gives. All that is read up to the end of the clause, and the
character after it, has to be well formed. -/
def packageClause? (source : List Char) : Option String := do
  let marked := source.head?.any (·.toNat == 0xfeff)
  let cs := if marked then source.tail else source
  let fuel := cs.length + 1
  let (_, rest) ← Source.skipTrivia? fuel (!marked) false cs
  let (.word "package", rest) ← Source.token? rest | none
  let (_, rest) ← Source.skipTrivia? fuel false false rest
  let (.word name, rest) ← Source.token? rest | none
  let rest ← clauseEnd? fuel rest
  if Source.isIdentifier name && !(cs.take (cs.length - rest.length + 1)).any isForeign then some name
  else none

/-- A name in which underscores stand for the characters that cannot stand in a package name. -/
def packageNameOf (name : String) : String :=
  String.ofList (name.toList.map fun c => if c.isAlphanum || c == '_' then c else '_')

/-- Whether the name of a file says that it is a source file. -/
def isSourceName (name : String) : Bool :=
  ".go".toList.isSuffixOf (name.toList.map Char.toLower)

/-- The package of a directory: that of its first source file which gives one, or the name of the
directory. -/
def Store.packageOf (s : Store) (directory : String) : String :=
  let sources := (s.list directory).filter isSourceName
  let given := sources.findSome? fun name =>
    match s.read (Path.join [directory, name]) with
    | .ok content => packageClause? (content.decode fun _ => [Char.ofNat 0])
    | .error _ => none
  given.getD (packageNameOf (Path.base directory))

/-- The output with an absolute path and a package name. -/
def Output.check (o : Output) (s : Store) : Except OutputError Output := do
  if o.package.toList.any fun c => c == '.' || c == '/' || c == '\\' then throw .packagePath
  if o.filename == "" then throw .noFilename
  if !".go".toList.isSuffixOf o.filename.toList then throw .notSource
  let filename := s.absolute o.filename
  let package := if o.package == "" then s.packageOf (Path.directory filename) else o.package
  return ⟨filename, package⟩

end Bindery
