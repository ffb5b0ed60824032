import Bindery.Text.Quoted

/-!
# Tokens of the schema language

## Main definitions

- `Sdl.Position` — a place in a source text
- `Sdl.TokenKind` and `Sdl.Token` — a token, its value and its place
- `Sdl.SyntaxError` — a message about a place
-/

namespace Bindery.Sdl

/-- A place in a source text. -/
structure Position where
  /-- The name of the source text. -/
  source : String
  /-- How many characters stand before the place. -/
  start : Nat
  /-- The line, counted from one. -/
  line : Nat
  /-- The column, counted from one. It can fall below one in a token of several lines. -/
  column : Int
  deriving DecidableEq, Repr, Inhabited

/-- A message about a place. -/
structure SyntaxError where
  /-- The place. -/
  position : Position
  /-- What is wrong there. -/
  text : String
  deriving DecidableEq, Repr

/-- The message with its place before it. A source text without a name is called `input`. -/
def SyntaxError.message (e : SyntaxError) : String :=
  let source := if e.position.source == "" then "input" else e.position.source
  s!"{source}:{e.position.line}:{e.position.column}: " ++ e.text

/-- The kinds of tokens. -/
inductive TokenKind where
  | invalid
  | eof
  | bang
  | dollar
  | amp
  | parenL
  | parenR
  | spread
  | colon
  | equals
  | atSign
  | bracketL
  | bracketR
  | braceL
  | braceR
  | pipe
  | name
  | int
  | float
  | string
  | blockString
  deriving DecidableEq, Repr, Inhabited

/-- How a kind of token is called in messages. -/
def TokenKind.text : TokenKind → String
  | invalid => "<Invalid>"
  | eof => "<EOF>"
  | bang => "!"
  | dollar => "$"
  | amp => "&"
  | parenL => "("
  | parenR => ")"
  | spread => "..."
  | colon => ":"
  | equals => "="
  | atSign => "@"
  | bracketL => "["
  | bracketR => "]"
  | braceL => "\x7b"
  | braceR => "\x7d"
  | pipe => "|"
  | name => "Name"
  | int => "Int"
  | float => "Float"
  | string => "String"
  | blockString => "BlockString"

/-- A token. The value of an invalid token says what is wrong with it. -/
structure Token where
  /-- The kind of the token. -/
  kind : TokenKind
  /-- The text of a name or number, or the contents of a string. -/
  value : String
  /-- The place of the token. -/
  position : Position
  deriving DecidableEq, Repr, Inhabited

/-- How a token is called in messages: by its kind, and by its value if it has one. -/
def Token.text (t : Token) : String :=
  if t.value == "" || t.kind == .invalid then t.kind.text else t.kind.text ++ " " ++ quoted t.value

end Bindery.Sdl
