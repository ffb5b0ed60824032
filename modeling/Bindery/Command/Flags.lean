import Bindery.Text.Octets
import Bindery.Text.Quoted

/-!
# The command line

Flags have a long name and may have a letter. A flag that takes a value finds it after an equals sign,
right after its letter or in the next argument.

## Main definitions

- `Flag` — the flags of the program
- `Request` — what the arguments ask for
- `parseArguments` — reads the arguments
- `FlagError` — why they cannot be read
- `helpText`, `versionText` — what the program says about itself
-/

namespace Bindery

/-- The flags of the program. -/
inductive Flag where
  | config
  | help
  | verbose
  | version
  deriving DecidableEq, Repr

namespace Flag

/-- All flags in the order of their names. -/
def all : List Flag := [config, help, verbose, version]

/-- The long name of a flag. -/
def name : Flag → String
  | config => "config"
  | help => "help"
  | verbose => "verbose"
  | version => "version"

/-- The letter of a flag. -/
def letter? : Flag → Option Char
  | config => some 'c'
  | help => some 'h'
  | verbose => some 'v'
  | version => none

/-- Whether a flag takes a text; the others take a truth value, which may be left out. -/
def takesText : Flag → Bool
  | config => true
  | _ => false

/-- A flag as messages name it. -/
def shown (f : Flag) : String :=
  match f.letter? with
  | some c => "-" ++ c.toString ++ ", --" ++ f.name
  | none => "--" ++ f.name

/-- What a flag is for. -/
def usage (configNames : List String) : Flag → String
  | config => "config file (default: first of " ++ String.intercalate ", " configNames ++
      " found upwards from the working directory)"
  | help => "help for gqlbuilder"
  | verbose => "enable debug logging"
  | version => "version for gqlbuilder"

end Flag

/-- What the arguments ask for. -/
structure Request where
  /-- The file of the configuration, empty if it has to be found. -/
  config : String
  help : Bool
  verbose : Bool
  version : Bool
  /-- The arguments that are no flags. -/
  positional : List String
  deriving DecidableEq, Repr, Inhabited

/-- Why arguments cannot be read. -/
inductive FlagError where
  | badForm (argument : String)
  | unknown (name : String)
  | unknownLetter (letter : Char) (cluster : String)
  | noValue (name : String)
  | noLetterValue (letter : Char) (cluster : String)
  | badValue (flag : Flag) (value : String)
  deriving DecidableEq, Repr

/-- The text of an error about flags. -/
def FlagError.message : FlagError → String
  | badForm argument => "bad flag syntax: " ++ argument
  | unknown name => "unknown flag: --" ++ name
  | unknownLetter c cluster => "unknown shorthand flag: " ++ quotedChar c ++ " in -" ++ cluster
  | noValue name => "flag needs an argument: --" ++ name
  | noLetterValue c cluster => "flag needs an argument: " ++ quotedChar c ++ " in -" ++ cluster
  | badValue f v =>
    "invalid argument " ++ quoted v ++ " for " ++ quoted f.shown ++
      " flag: strconv.ParseBool: parsing " ++ quoted v ++ ": invalid syntax"
where
  /-- A letter in quotes. Of a letter that takes several octets, the first one is shown. -/
  quotedChar (c : Char) : String :=
    let c := Char.ofNat (((Octets.ofString c.toString).head?.map (·.toNat)).getD 0)
    "'" ++ (if c == '\'' then "\\'" else if c == '"' then "\"" else String.ofList (quoteChar c)) ++ "'"

/-- The truth value that a text stands for. -/
def truthValue? (text : String) : Option Bool :=
  if ["1", "t", "T", "TRUE", "true", "True"].contains text then some true
  else if ["0", "f", "F", "FALSE", "false", "False"].contains text then some false
  else none

/-- The request with the value of a flag. -/
def Request.set (r : Request) (f : Flag) (value : String) : Except FlagError Request :=
  match f with
  | .config => .ok { r with config := value }
  | f =>
    match truthValue? value with
    | none => .error (.badValue f value)
    | some b => .ok (match f with
      | .help => { r with help := b }
      | .verbose => { r with verbose := b }
      | .version => { r with version := b }
      | .config => r)

/-- Reads a flag with a long name, given without its hyphens. Returns the arguments after it. -/
def parseLong (r : Request) (text : String) (rest : List String) : Except FlagError (Request × List String) :=
  match text.toList with
  | [] => .error (.badForm ("--" ++ text))
  | c :: _ =>
    if c == '-' || c == '=' then .error (.badForm ("--" ++ text))
    else
      let (name, value) := text.toList.span (· != '=')
      let name := String.ofList name
      match Flag.all.find? (·.name == name) with
      | none => .error (.unknown name)
      | some f =>
        match value with
        | _ :: value => (r.set f (String.ofList value)).map (·, rest)
        | [] =>
          if !f.takesText then (r.set f "true").map (·, rest)
          else match rest with
            | value :: rest => (r.set f value).map (·, rest)
            | [] => .error (.noValue name)

/-- The beginning of flags for test programs, which are skipped. -/
def testFlagStart : List Char := "test.".toList

/-- Reads flags that are written as letters after one hyphen. Returns the arguments after them. -/
def parseLetters (r : Request) : List Char → (rest : List String) → Except FlagError (Request × List String)
  | [], rest => .ok (r, rest)
  | c :: more, rest =>
    if testFlagStart.isPrefixOf (c :: more) then .ok (r, rest)
    else match Flag.all.find? (·.letter? == some c) with
    | none => .error (.unknownLetter c (String.ofList (c :: more)))
    | some f =>
      match more with
      | '=' :: d :: value => (r.set f (String.ofList (d :: value))).map (·, rest)
      | more =>
        if !f.takesText then
          match r.set f "true" with
          | .ok r => parseLetters r more rest
          | .error e => .error e
        else match more, rest with
          | d :: value, rest => (r.set f (String.ofList (d :: value))).map (·, rest)
          | [], value :: rest => (r.set f value).map (·, rest)
          | [], [] => .error (.noLetterValue c (String.ofList [c]))

/-- Reads arguments, of which there are at most as many as `fuel`. -/
def parseArgumentsFrom : (fuel : Nat) → Request → List String → Except FlagError Request
  | 0, r, _ => .ok r
  | _ + 1, r, [] => .ok r
  | fuel + 1, r, argument :: rest =>
    match argument.toList with
    | ['-', '-'] => .ok { r with positional := r.positional ++ rest }
    | '-' :: '-' :: text =>
      match parseLong r (String.ofList text) rest with
      | .error e => .error e
      | .ok (r, rest) => parseArgumentsFrom fuel r rest
    | '-' :: c :: letters =>
      match parseLetters r (c :: letters) rest with
      | .error e => .error e
      | .ok (r, rest) => parseArgumentsFrom fuel r rest
    | _ => parseArgumentsFrom fuel { r with positional := r.positional ++ [argument] } rest

/-- Reads the arguments. -/
def parseArguments (arguments : List String) : Except FlagError Request :=
  parseArgumentsFrom (arguments.length + 1) default arguments

/-- A flag in the list of flags, before what it is for. -/
def flagColumn (f : Flag) : String :=
  let letter := match f.letter? with
    | some c => "  -" ++ c.toString ++ ", "
    | none => "      "
  letter ++ "--" ++ f.name ++ (if f.takesText then " string" else "")

/-- The list of flags: what they are for stands in one column. -/
def flagList (configNames : List String) : String :=
  let width := (Flag.all.map fun f => (flagColumn f).length).foldl max 0
  String.join (Flag.all.map fun f =>
    let column := flagColumn f
    column ++ String.ofList (List.replicate (width - column.length + 3) ' ') ++ f.usage configNames ++ "\n")

/-- What the program says when it is asked for help. -/
def helpText (configNames : List String) : String :=
  "Generate fluent Go query builders from a GraphQL schema\n\nUsage:\n  gqlbuilder [flags]\n\nFlags:\n" ++
    flagList configNames

/-- What the program says when it is asked for its version. -/
def versionText : String := "gqlbuilder v0.1.0\n"

end Bindery
