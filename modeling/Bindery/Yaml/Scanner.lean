import Bindery.Yaml.BlockScalar
import Bindery.Yaml.Token

/-!
# The state of cutting a text into tokens

Characters are collected until something ends the scalar that they make up: a mark, a comment, or a line
that is not indented deeper than the last key or hyphen.

## Main definitions

- `Yaml.Scanner` — the text that is left, the tokens, and what is collected
- `Yaml.Scanner.flush` — makes a token of what is collected
- `Yaml.Scanner.newLine`, `Yaml.Scanner.advance` — move on in the text
-/

namespace Bindery.Yaml

/-- How a line is indented in comparison with the last key or hyphen. -/
inductive Indentation where
  /-- It is the same line. -/
  | same
  | deeper
  | notDeeper
  deriving DecidableEq, Repr, Inhabited

/-- The text that is left, the tokens, and what is collected. -/
structure Scanner where
  /-- The characters that are left. -/
  rest : List Char
  /-- The character before them. -/
  previous : Option Char := none
  /-- The place of the next character. -/
  place : Place := ⟨1, 1⟩
  /-- The tokens, the last one first. -/
  tokens : List Token := []
  /-- The column of the last key or hyphen, zero if there is none. -/
  delimiter : Nat := 0
  /-- The number of blanks at the beginning of the line. -/
  indent : Nat := 0
  /-- Whether only blanks were seen on the line. -/
  atLineStart : Bool := true
  indentation : Indentation := .same
  /-- Whether the name of an anchor or of a reference is collected. -/
  inName : Bool := false
  /-- Whether the line is a directive. -/
  inDirective : Bool := false
  /-- How many more brackets were opened than closed. -/
  sequences : Int := 0
  /-- How many more braces were opened than closed. -/
  mappings : Int := 0
  /-- Where the collected scalar begins, if it began on a line before. -/
  saved : Option Place := none
  /-- The characters of the scalar. -/
  text : Collected := {}
  /-- The characters of the scalar as they stand in the text. -/
  source : Collected := {}
  /-- The block scalar that is collected. -/
  block : Option BlockScalar := none

/-- Whether a character ends a line. -/
def isBreak (c : Char) : Bool :=
  c == '\n' || c == '\r'

/-- The number of characters before the first place where a part stands in a text. -/
def indexOf? (part : List Char) : List Char → Option Nat
  | [] => if part.isEmpty then some 0 else none
  | c :: cs => if part.isPrefixOf (c :: cs) then some 0 else (indexOf? part cs).map (· + 1)

/-- Whether a text begins with a line before or after a document. -/
def startsWithSeparator (cs : List Char) : Bool :=
  let marker := BlockScalar.dropEnd (fun c => c == ' ' || c == '\t' || isBreak c) (cs.take 4)
  2 < cs.length && (marker == ['-', '-', '-'] || marker == ['.', '.', '.'])

namespace Scanner

/-- Whether brackets or braces are open. -/
def inFlow (s : Scanner) : Bool :=
  0 < s.sequences || 0 < s.mappings

/-- The next character but one. -/
def following (s : Scanner) : Option Char :=
  (s.rest.drop 1).head?

/-- Whether at most one character is left. -/
def isLast (s : Scanner) : Bool :=
  s.rest.length ≤ 1

/-- Passes characters without moving on in the line. -/
def skip (s : Scanner) (count : Nat) : Scanner :=
  { s with
    rest := s.rest.drop count
    previous := (s.rest.take count).getLast?.or s.previous }

/-- Passes characters of the line. -/
def advance (s : Scanner) (count : Nat) : Scanner :=
  { s.skip count with place := s.place.shift count }

/-- Passes a character that ends the line. -/
def newLine (s : Scanner) : Scanner :=
  { s.skip 1 with
    place := ⟨s.place.line + 1, 1⟩
    indent := 0
    atLineStart := true
    inName := false
    inDirective := false }

/-- Adds a character to the scalar. -/
def addText (s : Scanner) (c : Char) : Scanner :=
  { s with text := s.text.add c }

/-- Adds a character to the scalar as it stands in the text. -/
def addSource (s : Scanner) (c : Char) : Scanner :=
  { s with source := s.source.append [' ', '\t'] c }

/-- Forgets what is collected. -/
def clear (s : Scanner) : Scanner :=
  { s with text := {}, source := {}, block := none }

/-- Adds a token. -/
def emit (s : Scanner) (t : Token) : Scanner :=
  { s with tokens := t :: s.tokens }

/-- The scalar that is collected. -/
def collected (s : Scanner) : List Char :=
  match s.block with
  | some b => b.result s.text.trimmed
  | none => s.text.trimmed

/-- Whether a scalar is collected. -/
def isCollecting (s : Scanner) : Bool :=
  !s.collected.isEmpty

/-- The value of the scalar. After a tag that is not a known one it is a text. -/
def valueOf (s : Scanner) (text : String) : Plain :=
  let afterTag := s.tokens.head?.any fun t => t.kind == .tag && !knownTags.contains t.text
  if s.block.isSome || afterTag then .text text else .ofText text

/-- The place of the scalar that is collected. The column of a block scalar is that of its characters among
those it was read from, zero if its lines do not stand there as they are. -/
def start (s : Scanner) : Place :=
  match s.block with
  | none => ⟨s.place.line, s.place.column - s.text.length⟩
  | some _ =>
    let breaks := (s.text.characters.filter isBreak).length
    ⟨s.place.line - breaks, ((indexOf? s.text.all s.source.all).map (· + 1)).getD 0⟩

/-- Makes a token of the scalar that is collected. -/
def flush (s : Scanner) : Scanner :=
  let characters := s.collected
  if characters.isEmpty then { s with text := {}, saved := none }
  else
    let text := String.ofList characters
    let place := s.saved.getD s.start
    { s.emit ⟨.scalar (s.valueOf text), text, s.source.all, place⟩ with
      text := {}, source := {}, saved := none }

/-- Makes a token of a mark of some characters. -/
def mark (s : Scanner) (kind : TokenKind) (text : String) : Scanner :=
  let t : Token := ⟨kind, text, s.source.all ++ text.toList, s.place⟩
  ((s.emit t).advance text.length).clear

/-- Compares the line with the last key or hyphen when its first character is seen. -/
def beginCharacter (s : Scanner) (c : Char) : Scanner :=
  if !s.atLineStart then { s with indentation := .same }
  else if isBreak c || c == '\t' then s
  else if c == ' ' then { s with indent := s.indent + 1 }
  else
    let indentation :=
      if s.delimiter == 0 then s.indentation
      else if s.delimiter < s.place.column then .deeper
      else .notDeeper
    { s with indentation, atLineStart := false }

end Scanner

/-- An error at a place. -/
def fail {α : Type} (p : Place) (text : String) : Except Error α :=
  .error (.located p text)

end Bindery.Yaml
