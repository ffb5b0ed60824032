import Bindery.Bindings.Doc
import Bindery.Sdl.Token

/-!
# Reading tokens

The tokens of a source text, with white space, commas and comments left out. Reading ends with the
end of the text or with the first invalid token.

## Main definitions

- `Sdl.Cursor` — how far a source text is read
- `Sdl.nextToken` — the next token
- `Sdl.tokens` — the tokens of a source text
- `Sdl.blockValue` — the contents of a block string without its indentation
-/

namespace Bindery.Sdl

/-- How far a source text is read. -/
structure Cursor where
  /-- The name of the source text. -/
  source : String
  /-- The characters that are not read yet. -/
  rest : List Char
  /-- How many characters are read. -/
  offset : Nat
  /-- The current line. -/
  line : Nat
  /-- How many characters stand before the current line. -/
  lineStart : Nat
  deriving Repr

namespace Cursor

/-- The beginning of a source text. -/
def ofText (source text : String) : Cursor :=
  ⟨source, text.toList, 0, 1, 0⟩

/-- The cursor after `n` more characters on the same line. -/
def skip (c : Cursor) (n : Nat) : Cursor :=
  { c with rest := c.rest.drop n, offset := c.offset + n }

/-- The cursor at the beginning of the next line. -/
def newLine (c : Cursor) : Cursor :=
  { c with line := c.line + 1, lineStart := c.offset }

/-- The place `back` characters after the cursor, called by the column at the cursor. -/
def positionAt (c : Cursor) (start : Nat) : Position :=
  ⟨c.source, start, c.line, (c.offset : Int) - c.lineStart + 1⟩

/-- The place of the cursor. -/
def position (c : Cursor) : Position :=
  c.positionAt c.offset

/-- An invalid token at the cursor. -/
def invalid (c : Cursor) (text : String) : Token :=
  ⟨.invalid, text, c.position⟩

end Cursor

/-- Passes over white space, commas and byte order marks. A carriage return begins a new line before
the line feed after it is passed over. -/
def skipBlank (c : Cursor) : (fuel : Nat) → Cursor
  | 0 => c
  | fuel + 1 =>
    match c.rest with
    | [] => c
    | '\n' :: _ => skipBlank (c.skip 1).newLine fuel
    | '\r' :: '\n' :: _ => skipBlank ((c.skip 1).newLine.skip 1) fuel
    | '\r' :: _ => skipBlank (c.skip 1).newLine fuel
    | ch :: _ =>
      if ch == ' ' || ch == '\t' || ch == ',' || ch.toNat == 0xfeff then skipBlank (c.skip 1) fuel
      else c

/-- A letter of ASCII or an underscore. -/
def isNameStart (c : Char) : Bool :=
  c == '_' || c.isAlpha

/-- A letter or digit of ASCII or an underscore. -/
def isNameChar (c : Char) : Bool :=
  c == '_' || c.isAlphanum

/-- How the next character is called in a message. -/
def describeNext : List Char → String
  | [] => "<EOF>"
  | c :: _ => "\"" ++ String.singleton c ++ "\""

/-- The token of the first `n` characters and the cursor after it. -/
def takeToken (kind : TokenKind) (c : Cursor) (n : Nat) : Token × Cursor :=
  (⟨kind, String.ofList (c.rest.take n), c.position⟩, c.skip n)

/-- A token without a value. -/
def bareToken (kind : TokenKind) (c : Cursor) (n : Nat) : Token × Cursor :=
  (⟨kind, "", c.position⟩, c.skip n)

/-- An invalid token and the cursor at it. -/
def badToken (c : Cursor) (text : String) : Token × Cursor :=
  (c.invalid text, c)

/-- The number of digits with which the characters begin. -/
def digitCount (cs : List Char) : Nat :=
  (cs.takeWhile Char.isDigit).length

/-- Reads a number: an optional sign, digits without a leading zero, an optional fraction and an
optional exponent. -/
def readNumber (c : Cursor) : Token × Cursor :=
  let missing := fun n =>
    let c := c.skip n
    badToken c ("Invalid number, expected digit but got: " ++ describeNext c.rest ++ ".")
  let after := fun n => c.rest.drop n
  let sign := if (after 0).head? == some '-' then 1 else 0
  let whole := digitCount (after sign)
  if whole == 0 then missing sign
  else if (after sign).head? == some '0' && 1 < whole then
    let c := c.skip (sign + 1)
    badToken c ("Invalid number, unexpected digit after 0: " ++ describeNext c.rest ++ ".")
  else
    let n := sign + whole
    let point := (after n).head? == some '.'
    let fraction := if point then digitCount (after (n + 1)) else 0
    if point && fraction == 0 then missing (n + 1)
    else
      let n := if point then n + 1 + fraction else n
      let mark := (after n).head? == some 'e' || (after n).head? == some 'E'
      if !mark then takeToken (if point then .float else .int) c n
      else
        let signed := (after (n + 1)).head? == some '-' || (after (n + 1)).head? == some '+'
        let n := if signed then n + 2 else n + 1
        let exponent := digitCount (after n)
        if exponent == 0 then missing n else takeToken .float c (n + exponent)

/-- The value of a hexadecimal digit. -/
def hexValue? (c : Char) : Option Nat :=
  if c.isDigit then some (c.toNat - 48)
  else if 'a' ≤ c && c ≤ 'f' then some (c.toNat - 87)
  else if 'A' ≤ c && c ≤ 'F' then some (c.toNat - 55)
  else none

/-- The character of a code point, the replacement character if it has none. -/
def charOfCode (n : Nat) : Char :=
  if n.isValidChar then Char.ofNat n else Char.ofNat 0xfffd

/-- The code point of hexadecimal digits. -/
def hexCode? (cs : List Char) : Option Nat :=
  cs.foldlM (fun n c => (hexValue? c).map (n * 16 + ·)) 0

/-- The character of a one-letter escape. -/
def escape? : Char → Option Char
  | '"' => some '"'
  | '/' => some '/'
  | '\\' => some '\\'
  | 'b' => some '\x08'
  | 'f' => some '\x0c'
  | 'n' => some '\n'
  | 'r' => some '\r'
  | 't' => some '\t'
  | _ => none

/-- The message about a control character inside a string. -/
def controlText (c : Char) : String :=
  let digits := Nat.toDigits 10 c.toNat
  let digits := List.replicate (4 - digits.length) '0' ++ digits
  "Invalid character within String: \"\\u" ++ String.ofList digits ++ "\"."

/-- An invalid token at the character after a backslash. -/
def badEscape (c : Cursor) (text : String) : Token × Cursor :=
  badToken (c.skip 1) ("Invalid character escape sequence" ++ text ++ ".")

/-- Reads on in a string after its opening quote at `start`, where `value` is its contents so far,
latest first. -/
def readString (start : Cursor) (value : List Char) (c : Cursor) : (fuel : Nat) → Token × Cursor
  | 0 => badToken c "Unterminated string."
  | fuel + 1 =>
    match c.rest with
    | [] => badToken c "Unterminated string."
    | '"' :: _ =>
      (⟨.string, String.ofList value.reverse, start.positionAt (start.offset - 1)⟩, c.skip 1)
    | ['\\'] => badEscape c ""
    | '\\' :: 'u' :: more =>
      if more.length < 5 then badEscape c (": \\u" ++ String.ofList more)
      else match hexCode? (more.take 4) with
        | none => badEscape c (": \\u" ++ String.ofList (more.take 4))
        | some n => readString start (charOfCode n :: value) (c.skip 6) fuel
    | '\\' :: e :: _ =>
      match escape? e with
      | none => badEscape c (": \\" ++ String.singleton e)
      | some d => readString start (d :: value) (c.skip 2) fuel
    | ch :: _ =>
      if ch == '\n' || ch == '\r' then badToken c "Unterminated string."
      else if ch.toNat < 0x20 && ch != '\t' then badToken c (controlText ch)
      else readString start (ch :: value) (c.skip 1) fuel

/-- The number of spaces and tabs with which a line begins. -/
def indentWidth (line : List Char) : Nat :=
  (line.takeWhile fun c => c == ' ' || c == '\t').length

/-- Whether a line holds spaces and tabs only. -/
def isBlankLine (line : List Char) : Bool :=
  indentWidth line == line.length

/-- The contents of a block string without the indentation that its lines share and without blank
lines around them. The first line keeps its indentation. -/
def blockValue (raw : List Char) : String :=
  let lines := splitWhen (· == '\n') raw
  let indents := (lines.filter (!isBlankLine ·)).map indentWidth
  let lines := match indents, lines with
    | [], lines => lines
    | _, [] => []
    | i :: is, first :: others => first :: others.map (List.drop (is.foldl min i))
  let lines := ((lines.dropWhile isBlankLine).reverse.dropWhile isBlankLine).reverse
  String.ofList ((lines.intersperse ['\n']).flatten)

/-- Reads on in a block string after its opening quotes at `start`, where `value` is its contents so
far, latest first. Of more than two quotes in a row the last three end the string. -/
def readBlock (start : Nat) (value : List Char) (c : Cursor) : (fuel : Nat) → Token × Cursor
  | 0 => badToken c "Unterminated string."
  | fuel + 1 =>
    let quotes := (c.rest.takeWhile (· == '"')).length
    if 3 ≤ quotes then
      let value := value.reverse ++ List.replicate (quotes - 3) '"'
      let position : Position :=
        ⟨c.source, start, c.line, (start + 3 : Int) - c.lineStart + 1⟩
      (⟨.blockString, blockValue value, position⟩, c.skip quotes)
    else match c.rest with
      | [] => badToken c "Unterminated string."
      | '\\' :: '"' :: '"' :: '"' :: _ =>
        readBlock start ('"' :: '"' :: '"' :: value) (c.skip 4) fuel
      | '\r' :: '\n' :: _ => readBlock start ('\n' :: value) (c.skip 2).newLine fuel
      | '\r' :: _ => readBlock start ('\n' :: value) (c.skip 1).newLine fuel
      | '\n' :: _ => readBlock start ('\n' :: value) (c.skip 1).newLine fuel
      | ch :: _ =>
        if ch.toNat < 0x20 && ch != '\t' then badToken c (controlText ch)
        else readBlock start (ch :: value) (c.skip 1) fuel

/-- The message about a character with which no token begins. Characters are called by the first
octet of their encoding. -/
def strayText (c : Char) : String :=
  if c.toNat < 0x20 then
    let digits := Nat.toDigits 10 c.toNat
    let digits := List.replicate (4 - digits.length) '0' ++ digits
    "Cannot contain the invalid character \"\\u" ++ String.ofList digits ++ "\""
  else if c == '\'' then
    "Unexpected single quote character ('), did you mean to use a double quote (\")?"
  else
    let octet := (String.singleton c).toUTF8.toList.headD 0
    "Cannot parse the unexpected character \"" ++ String.singleton (Char.ofNat octet.toNat) ++ "\""

/-- The next token, or none for a comment, and the cursor after it. -/
def readToken (c : Cursor) : Option Token × Cursor :=
  let some' := fun (p : Token × Cursor) => (some p.1, p.2)
  match c.rest with
  | [] => some' (bareToken .eof c 0)
  | '#' :: more =>
    (none, c.skip (1 + (more.takeWhile fun ch => 0x1f < ch.toNat || ch == '\t').length))
  | '!' :: _ => some' (bareToken .bang c 1)
  | '$' :: _ => some' (bareToken .dollar c 1)
  | '&' :: _ => some' (bareToken .amp c 1)
  | '(' :: _ => some' (bareToken .parenL c 1)
  | ')' :: _ => some' (bareToken .parenR c 1)
  | '.' :: '.' :: '.' :: _ => some' (bareToken .spread c 3)
  | ':' :: _ => some' (bareToken .colon c 1)
  | '=' :: _ => some' (bareToken .equals c 1)
  | '@' :: _ => some' (bareToken .atSign c 1)
  | '[' :: _ => some' (bareToken .bracketL c 1)
  | ']' :: _ => some' (bareToken .bracketR c 1)
  | '\x7b' :: _ => some' (bareToken .braceL c 1)
  | '\x7d' :: _ => some' (bareToken .braceR c 1)
  | '|' :: _ => some' (bareToken .pipe c 1)
  | '"' :: '"' :: '"' :: more => some' (readBlock c.offset [] (c.skip 3) (more.length + 1))
  | '"' :: more => some' (readString (c.skip 1) [] (c.skip 1) (more.length + 1))
  | ch :: _ =>
    if isNameStart ch then some' (takeToken .name c (c.rest.takeWhile isNameChar).length)
    else if ch == '-' || ch.isDigit then some' (readNumber c)
    else some' (badToken c (strayText ch))

/-- The tokens from a cursor on. -/
def tokensFrom (c : Cursor) : (fuel : Nat) → List Token
  | 0 => [⟨.eof, "", c.position⟩]
  | fuel + 1 =>
    match readToken (skipBlank c c.rest.length) with
    | (none, c) => tokensFrom c fuel
    | (some t, c) => if t.kind == .eof || t.kind == .invalid then [t] else t :: tokensFrom c fuel

/-- The tokens of a source text. The last one is the end of the text or an invalid token. -/
def tokens (source text : String) : List Token :=
  tokensFrom (Cursor.ofText source text) (text.length + 1)

end Bindery.Sdl
