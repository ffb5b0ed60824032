import Bindery.Text.Letter

/-!
# Identifiers of Go

An identifier of the generated language is a letter or an underscore, then letters, digits and
underscores, and it is no keyword.

## Main definitions

- `Source.keywords` — the reserved words of the language
- `Source.isIdentifier` — whether a text is an identifier
- `Source.isTypeName` — an identifier, or two of them joined by a dot
- `Source.isNumber` — whether a text is a number
-/

namespace Bindery.Source

/-- The reserved words of the language. -/
def keywords : List String :=
  ["break", "case", "chan", "const", "continue", "default", "defer", "else", "fallthrough", "for",
   "func", "go", "goto", "if", "import", "interface", "map", "package", "range", "return", "select",
   "struct", "switch", "type", "var"]

/-- A character with which an identifier can begin. -/
def isIdentifierStart (c : Char) : Bool :=
  c == '_' || isLetter c

/-- Whether a text is an identifier. -/
def isIdentifier (s : String) : Bool :=
  !keywords.contains s &&
    match s.toList with
    | [] => false
    | c :: rest => isIdentifierStart c && rest.all fun d => isIdentifierStart d || isDigit d

/-- Whether a text can stand where a type is named: an identifier, or a package name and an
identifier with a dot between them. -/
def isTypeName (s : String) : Bool :=
  match s.toList.splitOn '.' with
  | [name] => isIdentifier (String.ofList name)
  | [package, name] => isIdentifier (String.ofList package) && isIdentifier (String.ofList name)
  | _ => false

/-- Whether a text consists of digits of a base, at least one, with single underscores between them. -/
def areDigits (isDigit : Char → Bool) (cs : List Char) : Bool :=
  (cs.splitOn '_').all fun run => !run.isEmpty && run.all isDigit

/-- Whether a character is a digit of base sixteen. -/
def isHexDigit (c : Char) : Bool :=
  c.isDigit || ('a' ≤ c && c ≤ 'f') || ('A' ≤ c && c ≤ 'F')

/-- Whether a text is a whole number: in base ten without a leading zero, in base eight with one, or in
another base with its letter. -/
def isWholeNumber : List Char → Bool
  | '0' :: 'x' :: rest => areDigits isHexDigit rest
  | '0' :: 'o' :: rest => areDigits (fun c => '0' ≤ c && c ≤ '7') rest
  | '0' :: 'b' :: rest => areDigits (fun c => c == '0' || c == '1') rest
  | '0' :: rest => areDigits (fun c => '0' ≤ c && c ≤ '7') ('0' :: rest)
  | cs => areDigits Char.isDigit cs

/-- Whether a text is a number: a whole one, one with an exponent, or an imaginary one. -/
def isNumber (s : String) : Bool :=
  let cs := s.toList
  let real := fun (cs : List Char) =>
    match cs.span (· != 'e') with
    | (digits, _ :: exponent) => areDigits Char.isDigit digits && areDigits Char.isDigit exponent
    | (_, []) => false
  isWholeNumber cs || real cs ||
    match cs.reverse with
    | 'i' :: rest => areDigits Char.isDigit rest.reverse || real rest.reverse || isWholeNumber rest.reverse
    | _ => false

end Bindery.Source
