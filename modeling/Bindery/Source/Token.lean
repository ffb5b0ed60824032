import Bindery.Source.Identifier

/-!
# Tokens of Go

The words, numbers, literals and marks of a source file, each with the text after it. A token or a
comment that is not well formed gives none.

## Main definitions

- `Source.escape?`, `Source.stringLiteral?`, `Source.charLiteral?` — the text after an escape or a literal
- `Source.number?` — the text after a number
- `Source.isLineDirective`, `Source.skipTrivia?` — the text after white space and comments
- `Source.Token`, `Source.token?` — a token and the text after it
-/

namespace Bindery.Source

/-- The value of a digit of base sixteen, sixteen if there is none. -/
def digitValue (c : Char) : Nat :=
  if c.isDigit then c.toNat - 48
  else if 'a' ≤ c && c ≤ 'f' then c.toNat - 87
  else if 'A' ≤ c && c ≤ 'F' then c.toNat - 55
  else 16

/-- The text after `n` digits of a base whose value is a code point up to `most`. -/
def escapedNumber? (n base most : Nat) (cs : List Char) : Option (List Char) :=
  let digits := cs.take n
  let value := digits.foldl (fun v c => v * base + digitValue c) 0
  if digits.length == n && digits.all (fun c => digitValue c < base) && value ≤ most
    && !(0xd800 ≤ value && value < 0xe000) then some (cs.drop n)
  else none

/-- The text after an escape, whose backslash is left out, between two of `quote`. -/
def escape? (quote : Char) : List Char → Option (List Char)
  | [] => none
  | c :: rest =>
    if c == quote || ['a', 'b', 'f', 'n', 'r', 't', 'v', '\\'].contains c then some rest
    else if '0' ≤ c && c ≤ '7' then escapedNumber? 3 8 255 (c :: rest)
    else if c == 'x' then escapedNumber? 2 16 255 rest
    else if c == 'u' then escapedNumber? 4 16 0x10ffff rest
    else if c == 'U' then escapedNumber? 8 16 0x10ffff rest
    else none

/-- The text after a string literal, whose opening quote is left out. -/
def stringLiteral? : (fuel : Nat) → List Char → Option (List Char)
  | 0, _ | _, [] | _, '\n' :: _ => none
  | _, '"' :: rest => some rest
  | fuel + 1, '\\' :: rest => (escape? '"' rest).bind (stringLiteral? fuel)
  | fuel + 1, _ :: rest => stringLiteral? fuel rest

/-- The text after a raw string literal, whose opening quote is left out. -/
def rawLiteral? (cs : List Char) : Option (List Char) :=
  match cs.dropWhile (· != '\x60') with
  | [] => none
  | _ :: rest => some rest

/-- The text after the literal of a character, whose opening quote is left out. -/
def charLiteral? (cs : List Char) : Option (List Char) := do
  let rest ← match cs with
    | [] | '\n' :: _ | '\'' :: _ => none
    | '\\' :: rest => escape? '\'' rest
    | _ :: rest => some rest
  match rest with
  | '\'' :: rest => some rest
  | _ => none

/-- The ways to write a number. -/
inductive Radix where
  | decimal
  /-- After a zero. -/
  | octal
  /-- After a zero and a letter. -/
  | letter (base : Nat)
  deriving DecidableEq

/-- The base of the digits of a number. -/
def Radix.base : Radix → Nat
  | decimal => 10
  | octal => 8
  | letter base => base

/-- The way in which a number is written, and its text after the zero and the letter that tell it. -/
def radixOf : List Char → Radix × List Char
  | '0' :: c :: rest =>
    if c == 'x' || c == 'X' then (.letter 16, rest)
    else if c == 'o' || c == 'O' then (.letter 8, rest)
    else if c == 'b' || c == 'B' then (.letter 2, rest)
    else (.octal, c :: rest)
  | ['0'] => (.octal, [])
  | cs => (.decimal, cs)

/-- The digits and underscores at the beginning of a text. Decimal digits are taken for every base up to
ten. -/
def digitsOf (base : Nat) (cs : List Char) : List Char × List Char :=
  cs.span fun c => c == '_' || digitValue c < max base 10

/-- Whether each underscore stands between two digits of a text, where `afterDigit` says that one comes
before it. -/
def areSeparated (isDigit : Char → Bool) (afterDigit : Bool) : List Char → Bool
  | [] => true
  | '_' :: rest => afterDigit && rest.head?.any isDigit && areSeparated isDigit false rest
  | c :: rest => areSeparated isDigit (isDigit c) rest

/-- The exponent of a number, whose mantissa has a point if `point` says so. -/
def exponent? (radix : Radix) (point : Bool) (cs : List Char) : Option (Bool × List Char) :=
  match cs with
  | c :: rest =>
    if c == 'e' || c == 'E' || c == 'p' || c == 'P' then
      let binary := c == 'p' || c == 'P'
      let fits := match radix with
        | .letter base => binary && base == 16
        | _ => !binary
      let rest := match rest with
        | '+' :: rest | '-' :: rest => rest
        | rest => rest
      let (digits, rest) := digitsOf 10 rest
      if fits && digits.any (· != '_') then some (true, rest) else none
    else if point && radix == .letter 16 then none
    else some (false, cs)
  | [] => if point && radix == .letter 16 then none else some (false, [])

/-- The text after a number. -/
def number? (cs : List Char) : Option (List Char) := do
  let (radix, body) := radixOf cs
  let (whole, rest) := digitsOf radix.base body
  let (point, fraction, rest) := match rest with
    | '.' :: rest => let (fraction, rest) := digitsOf radix.base rest; (true, fraction, rest)
    | rest => (false, [], rest)
  if point && (radix == .letter 8 || radix == .letter 2) then none
  else if radix != .octal && !(whole ++ fraction).any (· != '_') then none
  else
    let (scaled, rest) ← exponent? radix point rest
    let (imaginary, rest) := match rest with
      | 'i' :: rest => (true, rest)
      | rest => (false, rest)
    let inBase := whole.all fun c => c == '_' || digitValue c < radix.base
    let isDigit := fun c => c.isDigit || radix == .letter 16 && digitValue c < 16
    let written := match radix with
      | .letter _ => body
      | _ => cs
    let text := written.take (written.length - rest.length)
    let hasLetter := match radix with
      | .letter _ => true
      | _ => false
    if (point || scaled || imaginary || inBase) && areSeparated isDigit hasLetter text then some rest
    else none

/-- The number after the last colon of a text and the text before it. The number is none if there are
no digits or too many, and it is taken to 64 bits with a sign. -/
def lastNumber (cs : List Char) : Option (List Char × Option Int) :=
  match cs.reverse.span (· != ':') with
  | (_, []) => none
  | (digits, _ :: before) =>
    let value := digits.reverse.foldl (fun v c => v * 10 + digitValue c) 0
    let number :=
      if digits.isEmpty || !digits.all Char.isDigit || value ≥ Nat.pow 2 64 then none
      else some (if value ≥ Nat.pow 2 63 then (value : Int) - (Nat.pow 2 64 : Nat) else value)
    some (before.reverse, number)

/-- Whether a number can be that of a line or a column. -/
def isPlaceNumber (n : Int) : Bool :=
  n != 0 && n ≤ (Nat.pow 2 30 : Nat)

/-- Whether the text of a comment that begins with the word for a line names one properly: it ends with
a colon and a number, or with two of them. A text without a colon names none. -/
def isLineDirective (cs : List Char) : Bool :=
  match lastNumber cs with
  | none => true
  | some (_, none) => false
  | some (before, some n) =>
    match lastNumber before with
    | some (_, some line) => isPlaceNumber n && isPlaceNumber line
    | _ => isPlaceNumber n

/-- Whether a comment is well formed, where `atStart` says that its text may name a line. -/
def isComment (atStart : Bool) (cs : List Char) : Bool :=
  match cs with
  | 'l' :: 'i' :: 'n' :: 'e' :: ' ' :: rest => !atStart || isLineDirective rest
  | _ => true

/-- The text of a comment that goes up to a star and a slash, and the text after it. -/
def blockComment? : List Char → Option (List Char × List Char)
  | [] => none
  | '*' :: '/' :: rest => some ([], rest)
  | c :: rest => (blockComment? rest).map fun (text, rest) => (c :: text, rest)

/-- The text after white space and comments, none if a comment is malformed. Tells whether a line has
ended on the way. The first character stands at the beginning of a line if `atStart` says so. -/
def skipTrivia? : (fuel : Nat) → (atStart newline : Bool) → List Char → Option (Bool × List Char)
  | 0, _, _, _ => none
  | fuel + 1, atStart, newline, cs =>
    match cs with
    | '/' :: '/' :: rest =>
      let (text, rest) := rest.span (· != '\n')
      let text := if text.getLast? == some '\r' then text.dropLast else text
      if isComment atStart text then skipTrivia? fuel false newline rest else none
    | '/' :: '*' :: rest => do
      let (text, rest) ← blockComment? rest
      if isComment true text then skipTrivia? fuel false (newline || text.contains '\n') rest else none
    | '\n' :: rest => skipTrivia? fuel true true rest
    | c :: rest =>
      if c == ' ' || c == '\t' || c == '\r' then skipTrivia? fuel false newline rest
      else some (newline, cs)
    | [] => some (newline, [])

/-- The marks of the language, longer ones before their beginnings. -/
def marks : List String :=
  ["<<=", ">>=", "&^=", "...", "++", "+=", "--", "-=", "*=", "/=", "%=", "&=", "&&", "&^", "|=", "||",
   "^=", "<=", "<-", "<<", ">=", ">>", "==", "!=", ":=", "+", "-", "*", "/", "%", "&", "|", "^", "<",
   ">", "=", "!", "(", ")", "[", "]", "\x7b", "\x7d", ",", ";", ".", ":", "~"]

/-- A token. -/
inductive Token where
  | word (text : String)
  | mark (text : String)
  | value
  | endOfText
  deriving DecidableEq, Repr

/-- The first token of a text that does not begin with white space or a comment, and the text after
it. -/
def token? (cs : List Char) : Option (Token × List Char) :=
  let value := fun (rest : Option (List Char)) => rest.map fun rest => (Token.value, rest)
  match cs with
  | [] => some (.endOfText, [])
  | '"' :: rest => value (stringLiteral? cs.length rest)
  | '\'' :: rest => value (charLiteral? rest)
  | '\x60' :: rest => value (rawLiteral? rest)
  | c :: rest =>
    if isIdentifierStart c then
      let (word, rest) := cs.span fun d => isIdentifierStart d || isDigit d
      some (.word (String.ofList word), rest)
    else if c.isDigit || c == '.' && rest.head?.any Char.isDigit then value (number? cs)
    else
      (marks.find? fun m => m.toList.isPrefixOf cs).map fun m => (.mark m, cs.drop m.length)

end Bindery.Source
