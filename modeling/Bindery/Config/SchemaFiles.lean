import Bindery.Files.PatternMatcher
import Bindery.Files.Walk
import Bindery.Files.Wildcard
import Bindery.Schema.Decoding
import Bindery.Sdl.Conversion
import Bindery.Sdl.Load

/-!
# Schemas in files

Patterns name the files of a schema. It is either in one file with the answer to an introspection
query, or in files of the schema language.

## Main definitions

- `Store.expand` — the files that one pattern names
- `Store.schemaFiles` — the files that patterns name, each once
- `Store.loadSchema` — the schema in files
- `PatternsError`, `SchemaFilesError` — why there are no files, or no schema in them
-/

namespace Bindery

/-- Why patterns name no files. -/
inductive PatternsError where
  /-- A pattern with two stars is none. -/
  | pattern (text : String) (error : PatternError)
  /-- The directory before two stars cannot be looked through. -/
  | walk (root : String) (error : FileError)
  /-- The comparison of a path with a pattern reads beyond the end of the path. -/
  | beyondEnd
  /-- A pattern without two stars is none. -/
  | glob (text : String)
  /-- No file fits. -/
  | noMatch (patterns : List String)

/-- The text of an error about patterns. -/
def PatternsError.message : PatternsError → String
  | pattern text e => "failed to compile schema pattern " ++ text ++ ": " ++ e.message
  | walk root e => "failed to walk schema at root " ++ root ++ ": " ++ e.message
  | beyondEnd => "slice bounds out of range"
  | glob text => "failed to glob schema filename " ++ text ++ ": syntax error in pattern"
  | noMatch patterns => "no schema files match " ++ String.intercalate ", " patterns

/-- The text before two stars, none if there are no two stars. -/
def beforeStars? : List Char → Option (List Char)
  | [] => none
  | c :: rest =>
    if c == '*' && rest.head? == some '*' then some []
    else (beforeStars? rest).map (c :: ·)

/-- The files that a pattern names. With two stars the pattern is for whole paths, of the files below
the directory before the stars. -/
def Store.expand (s : Store) (pattern : String) : Except PatternsError (List String) :=
  match beforeStars? pattern.toList with
  | some root => do
    let root := String.ofList root
    let parsed ← (Pattern.parse pattern).mapError (.pattern pattern)
    let files ← (s.walk root).mapError (.walk root)
    match files.filterM parsed.fits? with
    | some files => return files
    | none => throw .beyondEnd
  | none =>
    match s.glob pattern with
    | some files => .ok files
    | none => .error (.glob pattern)

/-- Adds the names that are not yet in a list. -/
def addNew (names : List String) : List String → List String
  | [] => names
  | name :: rest => addNew (if names.contains name then names else names ++ [name]) rest

/-- The files that patterns name, each at its first place. There has to be one. -/
def Store.schemaFiles (s : Store) (patterns : List String) : Except PatternsError (List String) := do
  let found ← patterns.mapM s.expand
  match addNew [] found.flatten with
  | [] => .error (.noMatch patterns)
  | files => return files

/-- Why there is no schema in files. -/
inductive SchemaFilesError where
  | mixed (answers definitions : List String)
  | severalAnswers (answers : List String)
  | read (error : FileError)
  | answer (file : String) (error : ParseError)
  | definitions (error : Sdl.SyntaxError)

/-- The text of an error about schema files, where `fault` words an error of JSON. -/
def SchemaFilesError.message (fault : Json.Fault → String) : SchemaFilesError → String
  | mixed first second =>
    "cannot mix introspection results (" ++ String.intercalate ", " first ++ ") with SDL files (" ++
      String.intercalate ", " second ++ ")"
  | severalAnswers files =>
    "only one introspection result can be loaded, got " ++ String.intercalate ", " files
  | read e => "unable to open schema: " ++ e.message
  | answer file e => file ++ ": " ++ e.message fault
  | definitions e => e.message

/-- Whether the extension of a file says that it holds an answer, in letters of any case. The long s
is the letter s, too. -/
def isAnswerFile (file : String) : Bool :=
  (Path.extension file).toList.map (fun c => if c == 'ſ' then 's' else c.toLower) == ".json".toList

/-- The content of a file of a schema. -/
def Store.readSchema (s : Store) (file : String) : Except SchemaFilesError Octets :=
  (s.read file).mapError .read

/-- The schema in files. -/
def Store.loadSchema (s : Store) (files : List String) : Except SchemaFilesError Schema :=
  match files.partition isAnswerFile with
  | ([], definitions) => do
    let sources ← definitions.mapM fun file => do
      return (⟨file, (← s.readSchema file).lossy⟩ : Sdl.Source)
    let document ← (Sdl.load sources).mapError .definitions
    return document.schema
  | ([file], []) => do
    (Schema.parse (Json.charsOf (← s.readSchema file))).mapError (.answer file)
  | (answers, []) => .error (.severalAnswers answers)
  | (answers, definitions) => .error (.mixed answers definitions)

end Bindery
