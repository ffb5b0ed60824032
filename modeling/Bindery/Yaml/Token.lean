import Bindery.Yaml.Plain

/-!
# Tokens of YAML

A text in YAML is cut into tokens, each with the place where it begins. Lines and columns count from
one.

## Main definitions

- `Yaml.Place` — a line and a column
- `Yaml.Error` — an error at a place
- `Yaml.TokenKind`, `Yaml.Token` — a token
-/

namespace Bindery.Yaml

/-- A line and a column, counted from one. -/
structure Place where
  line : Nat
  column : Nat
  deriving DecidableEq, Repr, Inhabited

/-- The place some columns further. -/
def Place.shift (p : Place) (count : Nat) : Place :=
  { p with column := p.column + count }

/-- An error of reading YAML. -/
inductive Error where
  /-- There is no document. -/
  | empty
  /-- Something is wrong at a place. -/
  | located (place : Place) (text : String)
  /-- Something is wrong with the document as a whole. -/
  | general (text : String)
  /-- A value is asked for entries or items that it cannot have, which ends the whole run. -/
  | broken
  deriving DecidableEq, Repr

/-- The text of an error. -/
def Error.message : Error → String
  | empty => "EOF"
  | located place text =>
    "[" ++ toString place.line ++ ":" ++ toString place.column ++ "] " ++ text
  | general text => text
  | broken => ""

/-- What a token is. -/
inductive TokenKind where
  /-- A scalar without quotes, or the lines of a block scalar. -/
  | scalar (value : Plain)
  /-- A scalar in quotes. -/
  | quoted
  /-- The key that takes over the entries of another mapping. -/
  | mergeKey
  /-- The mark before a block scalar, with its options. -/
  | block
  /-- The colon after a key. -/
  | colon
  /-- The question mark before a key. -/
  | question
  /-- The hyphen before an item. -/
  | entry
  | sequenceStart
  | sequenceEnd
  | mappingStart
  | mappingEnd
  | comma
  /-- The mark before a name that is given to a part. -/
  | anchor
  /-- The mark before a name that stands for a part. -/
  | reference
  | tag
  | directive
  /-- The line before a document. -/
  | documentStart
  /-- The line after a document. -/
  | documentEnd
  | comment
  deriving DecidableEq, Repr, Inhabited

/-- A token: what it is, its text, the characters it was read from, and the place where it begins. -/
structure Token where
  kind : TokenKind
  text : String
  source : List Char
  place : Place
  deriving DecidableEq, Repr, Inhabited

namespace Token

/-- Whether a token is a text without quotes. -/
def isText (t : Token) : Bool :=
  match t.kind with
  | .scalar v => v.isText
  | _ => false

/-- A null that is not written, right after another token. -/
def implicitNull (t : Token) : Token :=
  ⟨.scalar .null, "null", " null".toList, t.place.shift 1⟩

end Token

/-- The tags that say which kind of value follows. -/
def knownTags : List String :=
  ["!!int", "!!float", "!!null", "!!seq", "!!map", "!!merge", "!!omap", "!!str", "!!binary", "!!timestamp",
    "!!set", "!!bool"]

end Bindery.Yaml
