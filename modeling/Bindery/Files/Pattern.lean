/-!
# Patterns for whole paths

A pattern in which one star stands for characters without a slash and two stars for any characters.
Alternatives are written in braces, and classes in brackets.

## Main definitions

- `Pattern` — a pattern as a tree
- `PatternError`, `PatternError.message` — why a text is no pattern
- `Pattern.parse` — reads a pattern
- `Pattern.same` — whether two patterns are the same
-/

namespace Bindery

/-- A pattern. -/
inductive Pattern where
  | text (s : List Char)
  | single
  | any
  | anyPath
  /-- One of some characters, or none of them. -/
  | list (negated : Bool) (chars : List Char)
  /-- One of the characters between two bounds, or none of them. -/
  | range (negated : Bool) (lo hi : Char)
  /-- No characters. -/
  | nothing
  /-- One pattern after the other. -/
  | sequence (parts : List Pattern)
  /-- One of several patterns. -/
  | oneOf (alternatives : List Pattern)

/-- Why a text is no pattern. -/
inductive PatternError where
  | unreadable
  | unexpectedEnd
  | unclosedClass
  | order (hi lo : Char)
  | emptyClass
  deriving DecidableEq, Repr

/-- The text of an error about a pattern. -/
def PatternError.message : PatternError → String
  | unreadable => "could not read rune"
  | unexpectedEnd => "unexpected end of input"
  | unclosedClass => "expected close range character"
  | order hi lo => "hi character '" ++ hi.toString ++ "' should be greater than lo '" ++ lo.toString ++ "'"
  | emptyClass => "could not parse range"

namespace Pattern

/-- Whether a pattern cannot go on with a character: the zero character ends it and the replacement
character cannot be read. -/
def isEnd (c : Char) : Bool :=
  c == '\x00' || c == '�'

/-- The characters up to one that `stop` holds of. A backslash takes the next character as it is, and a
zero character ends the text and is left out. -/
def plainText (stop : Char → Bool) : List Char → List Char × List Char
  | [] | ['\\'] => ([], [])
  | '\x00' :: rest | '\\' :: '\x00' :: rest => ([], rest)
  | '�' :: rest | '\\' :: '�' :: rest => ([], '�' :: rest)
  | '\\' :: c :: rest =>
    let (taken, rest) := plainText stop rest
    (c :: taken, rest)
  | c :: rest =>
    if stop c then ([], c :: rest)
    else
      let (taken, rest) := plainText stop rest
      (c :: taken, rest)

/-- A class that is read, if its closing bracket follows. -/
def closeClass (p : Pattern) : List Char → Except PatternError (Pattern × List Char)
  | [] => .error .unexpectedEnd
  | c :: rest =>
    if isEnd c then .error .unexpectedEnd
    else if c == ']' then .ok (p, rest)
    else .error .unclosedClass

/-- A class after its opening bracket, and the text after its closing one. -/
def parseClass (cs : List Char) : Except PatternError (Pattern × List Char) := do
  let (negated, cs) := match cs with
    | '!' :: rest => (true, rest)
    | cs => (false, cs)
  if cs.head?.all isEnd then throw .unexpectedEnd
  match cs with
  | lo :: '-' :: rest =>
    match rest with
    | [] => throw .unexpectedEnd
    | hi :: rest =>
      if isEnd hi then throw .unexpectedEnd
      let parsed ← closeClass (range negated lo hi) rest
      if hi < lo then throw (.order hi lo)
      return parsed
  | cs =>
    let (chars, rest) := plainText (· == ']') cs
    let parsed ← closeClass (list negated chars) rest
    if chars.isEmpty then throw .emptyClass
    return parsed

/-- Whether a character of a pattern means something else than itself, where `inside` says that it
stands in braces. -/
def isSpecial (inside : Bool) (c : Char) : Bool :=
  ['?', '*', '[', '\x7b'].contains c || inside && (c == '\x7d' || c == ',')

mutual

/-- The parts of a pattern up to the end of its alternative, and the text from there on. -/
def parseParts : (fuel : Nat) → (inside : Bool) → List Char →
    Except PatternError (List Pattern × List Char)
  | 0, _, _ => .error .unexpectedEnd
  | fuel + 1, inside, cs =>
    let more := fun (p : Pattern) (rest : List Char) => do
      let (ps, rest) ← parseParts fuel inside rest
      return (p :: ps, rest)
    match cs with
    | [] | '\x00' :: _ => .ok ([], [])
    | '�' :: _ => .error .unreadable
    | '*' :: '*' :: rest => more anyPath rest
    | '*' :: rest => more any rest
    | '?' :: rest => more single rest
    | '[' :: rest => do
      let (p, rest) ← parseClass rest
      more p rest
    | '\x7b' :: rest => do
      let (alternatives, rest) ← parseAlternatives fuel rest
      more (oneOf alternatives) rest
    | cs =>
      if cs.head?.any (isSpecial inside) then .ok ([], cs)
      else
        match plainText (isSpecial inside) cs with
        | ([], rest) => parseParts fuel inside rest
        | (s, rest) => more (text s) rest

/-- The alternatives after an opening brace, and the text after the closing one. A brace that is not
closed ends with the text. -/
def parseAlternatives : (fuel : Nat) → List Char → Except PatternError (List Pattern × List Char)
  | 0, _ => .error .unexpectedEnd
  | fuel + 1, cs => do
    let (first, rest) ← parseParts fuel true cs
    match rest with
    | ',' :: rest =>
      let (others, rest) ← parseAlternatives fuel rest
      return (sequence first :: others, rest)
    | '\x7d' :: rest => return ([sequence first], rest)
    | rest => return ([sequence first], rest)

end

/-- Reads a pattern. -/
def parse (pattern : String) : Except PatternError Pattern :=
  (parseParts (2 * pattern.length + 2) false pattern.toList).map fun (parts, _) => sequence parts

mutual

/-- Whether two patterns are the same. -/
def same : Pattern → Pattern → Bool
  | text s, text t => s == t
  | single, single | any, any | anyPath, anyPath | nothing, nothing => true
  | list n cs, list m ds => n == m && cs == ds
  | range n a b, range m c d => n == m && a == c && b == d
  | sequence ps, sequence qs | oneOf ps, oneOf qs => sameAll ps qs
  | _, _ => false

/-- Whether two lists hold the same patterns. -/
def sameAll : List Pattern → List Pattern → Bool
  | [], [] => true
  | p :: ps, q :: qs => same p q && sameAll ps qs
  | _, _ => false

end

mutual

/-- The number of patterns in a tree. -/
def size : Pattern → Nat
  | sequence ps | oneOf ps => sizeAll ps + 1
  | _ => 1

/-- The number of patterns in trees. -/
def sizeAll : List Pattern → Nat
  | [] => 0
  | p :: ps => size p + sizeAll ps

end

end Pattern

end Bindery
