import Bindery.Naming.Words

/-!
# Identifiers of schema names

Every schema name gets an exported identifier: its words side by side, initialisms in capitals, and
words of one case with a capital first letter.

## Main definitions

- `Naming.identifier` — the identifier of a type, field, argument or input field
- `Naming.isScreaming` — upper case letters and no lower case ones
- `Naming.constantIdentifier` — the identifier of an enum value
-/

namespace Bindery.Naming

/-- The characters with the first one in upper case. -/
def capitalize : List Char → List Char
  | [] => []
  | c :: rest => upperChar c :: rest

/-- How a word is spelled in an identifier. -/
def Word.spelling (w : Word) : List Char :=
  if w.whole then upperCase w.chars
  else if !w.partly && (upperCase w.chars == w.chars || lowerCase w.chars == w.chars) then
    capitalize (lowerCase w.chars)
  else w.chars

/-- The identifier of a type, field, argument or input field. -/
def identifier (name : String) : String :=
  if name == "_" then "_"
  else String.ofList ((words name.toList).flatMap Word.spelling)

/-- Whether a name has an upper case letter and no lower case letter. -/
def isScreaming (name : String) : Bool :=
  name.toList.all (!isLower ·) && name.toList.any isUpper

/-- The identifier of the constant for an enum value: the identifier of the enum, then that of the
value, which is put in lower case first if it is screaming. -/
def constantIdentifier (enum value : String) : String :=
  let value := if isScreaming value then String.ofList (lowerCase value.toList) else value
  identifier enum ++ identifier value

end Bindery.Naming
