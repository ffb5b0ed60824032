import Bindery.Number.Read

/-!
# Block scalars

The lines under a mark are one scalar as long as they are indented. The first line says how deep, unless
the options of the mark do. Folded lines are joined by blanks where two of the same depth follow each
other, and the options say which line breaks at the end are kept.

## Main definitions

- `Yaml.Collected` — characters that are collected for a scalar
- `Yaml.BlockScalar` — what is known about the lines of a block scalar
- `Yaml.BlockScalar.result` — the text of the scalar
-/

namespace Bindery.Yaml

/-- Characters that are collected for a scalar, the last one first, and how many of them there are up to
the last one that is no blank. -/
structure Collected where
  characters : List Char := []
  kept : Nat := 0
  deriving Inhabited

namespace Collected

/-- The number of characters. -/
def length (b : Collected) : Nat :=
  b.characters.length

/-- The characters up to the last one that is no blank, in order. -/
def trimmed (b : Collected) : List Char :=
  (b.characters.drop (b.characters.length - b.kept)).reverse

/-- The characters in order. -/
def all (b : Collected) : List Char :=
  b.characters.reverse

/-- Adds a character that counts as no blank. -/
def push (b : Collected) (c : Char) : Collected :=
  ⟨c :: b.characters, b.characters.length + 1⟩

/-- Adds a character that counts as a blank if it is one of `blanks`. -/
def append (blanks : List Char) (b : Collected) (c : Char) : Collected :=
  if blanks.contains c then { b with characters := c :: b.characters } else b.push c

/-- Adds a character, but a blank only after others. -/
def add (b : Collected) (c : Char) : Collected :=
  if b.characters.isEmpty && (c == ' ' || c == '\t') then b else b.append [' ', '\t'] c

/-- Adds a character, but a space only after others. -/
def addWithTab (b : Collected) (c : Char) : Collected :=
  if b.characters.isEmpty && c == ' ' then b else b.append [' '] c

/-- Only the characters up to the last one that is no blank. -/
def trim (b : Collected) : Collected :=
  { b with characters := b.characters.drop (b.characters.length - b.kept) }

/-- Puts a character in the place of the last one. -/
def replaceLast (b : Collected) (c : Char) : Collected :=
  { b with characters := c :: b.characters.drop 1 }

end Collected

/-- What becomes of the line breaks between the lines of a scalar. -/
inductive BlockStyle where
  /-- They are kept. -/
  | literal
  /-- They are folded. -/
  | folded
  /-- They are folded, and the scalar began on the line of its key. -/
  | continued
  deriving DecidableEq, Repr, Inhabited

/-- What is known about the lines of a block scalar. Columns are zero as long as they are not known. -/
structure BlockScalar where
  style : BlockStyle
  /-- The characters after the mark. -/
  options : List Char := []
  /-- The column where the first line begins. -/
  first : Nat := 0
  /-- The column where the line before begins. -/
  previous : Nat := 0
  /-- The column where the line begins. -/
  line : Nat := 0
  /-- The column where the last line that is not empty begins. -/
  lastFull : Nat := 0
  /-- The number of blanks on the last line that has nothing else, if it comes before the first line. -/
  blanks : Nat := 0
  /-- Whether a line break was just read. -/
  afterBreak : Bool := false
  deriving Inhabited

namespace BlockScalar

/-- The options without their signs. -/
def digitsOf (options : List Char) : List Char :=
  let dropFirst := fun (c : Char) (cs : List Char) => if cs.head? == some c then cs.drop 1 else cs
  let front := dropFirst '+' (dropFirst '-' options)
  (dropFirst '+' (dropFirst '-' front.reverse)).reverse

/-- The depth that the options ask for, zero if they do not. -/
def depthOf (options : List Char) : Int :=
  (signedNumber? (digitsOf options)).getD 0

/-- Whether the options are signs and at most one digit. -/
def optionsFit (options : List Char) : Bool :=
  let digits := digitsOf options
  digits.isEmpty || digits != ['0'] && (signedNumber? digits).any (· ≤ 9)

/-- A block scalar under a key in a column. -/
def start (style : BlockStyle) (column : Nat) (options : List Char) : BlockScalar :=
  let depth := depthOf options
  { style, options, first := if 0 < depth then column + depth.toNat else 0 }

/-- A line begins in a column. -/
def beginLine (b : BlockScalar) (column : Nat) : BlockScalar :=
  { b with
    first := if b.first == 0 then column else b.first
    line := if b.line == 0 then column else b.line }

/-- A line ends in a column. -/
def endLine (b : BlockScalar) (column : Nat) : BlockScalar :=
  { b with
    blanks := if b.first == 0 then column - 1 else b.blanks
    previous := b.line
    lastFull := if b.line == 0 then b.lastFull else b.line
    afterBreak := true
    line := 0 }

/-- Whether lines with blanks alone were deeper than a column. -/
def isTooShallow (b : BlockScalar) (column : Nat) : Bool :=
  b.first == 0 && column < b.blanks

/-- Whether the line is less deep than the options ask for. -/
def breaksOptions (b : BlockScalar) : Bool :=
  depthOf b.options != 0 && b.line < b.first

/-- Whether a column belongs to the indentation. -/
def isIndentation (b : BlockScalar) (column : Nat) : Bool :=
  if b.first == 0 then column == 1 else column < b.first

/-- Adds a blank before the first character of a line, if it is deeper than the first line. -/
def addIndentation (b : BlockScalar) (text : Collected) (column : Nat) : BlockScalar × Collected :=
  if b.first == 0 || column < b.first then (b, text)
  else ({ b with afterBreak := b.afterBreak && b.style == .literal }, text.push ' ')

/-- Folds the line break before the first character of a line: between two lines of the same depth it
becomes a blank, and after an empty line it is dropped. -/
def fold (b : BlockScalar) (text : Collected) (column : Nat) : BlockScalar × Collected :=
  if b.style == .literal || !b.afterBreak then (b, text)
  else
    let folded :=
      if b.line == b.previous then
        if text.characters.head? == some '\n' then text.replaceLast ' ' else text
      else if b.previous == 0 && b.lastFull == column then
        match text.characters with
        | '\n' :: '\n' :: rest => ⟨'\n' :: rest, rest.length + 1⟩
        | _ => text
      else text
    ({ b with afterBreak := false }, folded)

/-- Whether no line break at the end is kept. -/
def strips (b : BlockScalar) : Bool :=
  b.options.head? == some '-' || b.options.getLast? == some '-' || b.style == .continued

/-- Whether all line breaks at the end are kept. -/
def keeps (b : BlockScalar) : Bool :=
  b.options.head? == some '+' || b.options.getLast? == some '+'

/-- The text without some characters at its end. -/
def dropEnd (p : Char → Bool) (cs : List Char) : List Char :=
  (cs.reverse.dropWhile p).reverse

/-- The text of the scalar. -/
def result (b : BlockScalar) (text : List Char) : List Char :=
  let body := dropEnd (· == '\n') text
  let cut :=
    if b.strips then dropEnd (· == ' ') body
    else if b.keeps || body.length == text.length then text
    else body ++ ['\n']
  let shown := if cut == ['\n'] then [] else cut
  if b.keeps && shown.isEmpty then ['\n'] else shown

end BlockScalar

end Bindery.Yaml
