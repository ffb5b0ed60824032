import Bindery.Data.Type
import Bindery.Text.LetterCase
import Bindery.Text.Letter
import Bindery.Text.Octets

/-!
# How members of a record are written in JSON

The tag of a member gives its name in JSON and options after commas. A name or an option with unusual
characters stands between single quotes, with the escapes of a string literal. A tag that is malformed
makes the whole record unfit for JSON.

## Main definitions

- `TagWord`, `tagWord?` — a word of a tag, and the text after it
- `MemberOptions` — how a member is written
- `MemberOptions.parse` — reads the tag of a member
- `foldedName` — what two names share that differ in case, hyphens and underscores only
-/

namespace Bindery

/-- A word of a tag. -/
structure TagWord where
  /-- What the word stands for. -/
  text : Octets
  /-- Whether it stood in quotes. -/
  quoted : Bool

/-- Whether a character can stand in a word of a tag without quotes. -/
def isWordChar (c : Char) : Bool :=
  c == '_' || isLetter c || isNumeral c

/-- The value of a digit of a base, if there is one. -/
def digitOf? (base : Nat) (c : Char) : Option Nat :=
  let n :=
    if c.isDigit then c.toNat - 48
    else if 'a' ≤ c && c ≤ 'f' then c.toNat - 87
    else if 'A' ≤ c && c ≤ 'F' then c.toNat - 55
    else 16
  if n < base then some n else none

/-- The number of `count` digits of a base, and the text after them. -/
def digitsOf? (count base : Nat) (cs : List Char) : Option (Nat × List Char) := do
  let digits ← (cs.take count).mapM (digitOf? base)
  if digits.length == count then some (digits.foldl (fun n d => n * base + d) 0, cs.drop count) else none

/-- The octets of an escape whose backslash is left out, and the text after it. Single quotes are
escaped in place of double ones. -/
def tagEscape? : List Char → Option (Octets × List Char)
  | [] => none
  | c :: rest =>
    let codePoint := fun (count : Nat) => do
      let (n, rest) ← digitsOf? count 16 rest
      if n.isValidChar then some (Octets.ofString (Char.ofNat n).toString, rest) else none
    match c with
    | 'a' => some ([0x07], rest)
    | 'b' => some ([0x08], rest)
    | 'f' => some ([0x0c], rest)
    | 'n' => some ([0x0a], rest)
    | 'r' => some ([0x0d], rest)
    | 't' => some ([0x09], rest)
    | 'v' => some ([0x0b], rest)
    | '\\' => some ([0x5c], rest)
    | '\'' => some ([0x27], rest)
    | '"' => some ([0x22], rest)
    | 'x' => (digitsOf? 2 16 rest).map fun (n, rest) => ([UInt8.ofNat n], rest)
    | 'u' => codePoint 4
    | 'U' => codePoint 8
    | c => do
      let (n, rest) ← digitsOf? 3 8 (c :: rest)
      if n < 256 then some ([UInt8.ofNat n], rest) else none

/-- The octets of a word up to the quote that ends it, and the text after that. -/
def quotedWord? : (fuel : Nat) → List Char → Option (Octets × List Char)
  | 0, _ | _, [] | _, '\n' :: _ => none
  | _, '\'' :: rest => some ([], rest)
  | fuel + 1, '\\' :: rest => do
    let (first, rest) ← tagEscape? rest
    let (more, rest) ← quotedWord? fuel rest
    return (first ++ more, rest)
  | fuel + 1, c :: rest => do
    let (more, rest) ← quotedWord? fuel rest
    return (Octets.ofString c.toString ++ more, rest)

/-- A word at the beginning of a text, and the text after it. -/
def tagWord? (cs : List Char) : Option (TagWord × List Char) :=
  match cs with
  | '\'' :: rest => (quotedWord? cs.length rest).map fun (o, rest) => (⟨o, true⟩, rest)
  | c :: _ =>
    if c == '_' || isLetter c then
      let (word, rest) := cs.span isWordChar
      some (⟨Octets.ofString (String.ofList word), false⟩, rest)
    else none
  | [] => none

/-- How a member of a record is written in JSON. -/
structure MemberOptions where
  /-- The name. -/
  name : String
  /-- Whether the tag gives the name. -/
  named : Bool := false
  /-- The parts of the member are written as if they were members of the record. -/
  inline : Bool := false
  /-- The member keeps what no other member takes. -/
  rest : Bool := false
  /-- The member is left out if it says nothing. -/
  omitZero : Bool := false
  /-- The member is left out if it would be written without content. -/
  omitEmpty : Bool := false
  /-- Numbers are written as strings. -/
  stringNumbers : Bool := false
  /-- Names that differ in case, hyphens and underscores are taken for the name. -/
  anyCase : Bool := false
  /-- Only the name itself is taken. -/
  ownCase : Bool := false
  /-- How the value is written. -/
  format : Option String := none
  deriving DecidableEq, Repr

namespace MemberOptions

/-- What the tag of a member says about it. -/
inductive Reading where
  /-- The member has no place in JSON. -/
  | ignored
  /-- The tag is malformed. -/
  | malformed
  | options (options : MemberOptions)

/-- The options that have a meaning. -/
def known : List String :=
  ["case", "inline", "unknown", "omitzero", "omitempty", "string", "format"]

/-- Whether a word looks like one of the options without being it. -/
def resembles (word : String) : Bool :=
  !known.contains word && known.contains (String.ofList ((lowerCase word.toList).filter (· != '_')))

/-- Reads one option, and the text after it. -/
def readOption? (o : MemberOptions) (word : String) (cs : List Char) :
    Option (MemberOptions × List Char) :=
  match word with
  | "inline" => some ({ o with inline := true }, cs)
  | "unknown" => some ({ o with rest := true }, cs)
  | "omitzero" => some ({ o with omitZero := true }, cs)
  | "omitempty" => some ({ o with omitEmpty := true }, cs)
  | "string" => some ({ o with stringNumbers := true }, cs)
  | "case" =>
    match cs with
    | ':' :: cs => do
      let (value, cs) ← tagWord? cs
      let o ← match value.quoted, value.text.lossy with
        | false, "ignore" => some { o with anyCase := true }
        | false, "strict" => some { o with ownCase := true }
        | _, _ => none
      if o.anyCase && o.ownCase then none else some (o, cs)
    | _ => none
  | "format" =>
    match cs with
    | ':' :: cs => (tagWord? cs).map fun (value, cs) => ({ o with format := some value.text.lossy }, cs)
    | _ => none
  | word => if resembles word then none else some (o, cs)

/-- Reads the options after a name, where the words in `seen` have occurred. Nothing may follow a
format. -/
def readOptions? : (fuel : Nat) → MemberOptions → (seen : List Octets) → List Char → Option MemberOptions
  | 0, _, _, _ => none
  | _ + 1, o, _, [] => some o
  | fuel + 1, o, seen, ',' :: cs => do
    let (word, cs) ← tagWord? cs
    let text := word.text.lossy
    if o.format.isSome || seen.contains word.text || word.quoted && text.toList.all isWordChar then none
    else
      let (o, cs) ← o.readOption? text cs
      readOptions? fuel o (word.text :: seen) cs
  | _ + 1, _, _, _ => none

/-- The name at the beginning of a tag, and the text after it. Without quotes it goes up to a comma and
may not hold a quote or a backslash. -/
def readName? (cs : List Char) : Option (String × List Char) :=
  match cs with
  | '\'' :: _ => do
    let (word, rest) ← tagWord? cs
    let name ← word.text.string?
    return (name, rest)
  | cs =>
    let (name, rest) := cs.span (· != ',')
    if name.any fun c => ['\\', '\'', '"', '\x60'].contains c then none
    else some (String.ofList name, rest)

/-- Reads the tag of a member. A member that cannot be seen has no place in JSON and may have no tag. -/
def parse (label : MemberLabel) : Reading :=
  let cs := label.tag.toList
  let read : Option MemberOptions := do
    let plain : MemberOptions := { name := label.name }
    let (o, rest) ← match cs with
      | [] | ',' :: _ => some (plain, cs)
      | cs => (readName? cs).map fun (name, rest) => ({ plain with name, named := true }, rest)
    readOptions? (cs.length + 1) o [] rest
  if label.tag == "-" then .ignored
  else if !label.isVisible then if label.tag == "" then .ignored else .malformed
  else read.elim .malformed .options

end MemberOptions

/-- A character for all that differ from it in case only. The two letters i of Turkish have no
counterpart. -/
def foldedChar (c : Char) : Char :=
  if c.toNat == 0x130 || c.toNat == 0x131 then c else lowerChar (upperChar c)

/-- What two names share that differ in case, hyphens and underscores only. -/
def foldedName (name : String) : List Char :=
  (name.toList.filter fun c => c != '_' && c != '-').map foldedChar

end Bindery
