import Bindery.Text.Blank
import Bindery.Text.Letter
import Bindery.Text.LetterCase

/-!
# The words of a name

A schema name is cut into words before it becomes an identifier. Dashes, underscores and blanks
separate words and disappear, except that one of them stays between two digits. A word also ends
where a lower case letter is followed by anything else, and after an initialism that no lower case
letter follows.

## Main definitions

- `Naming.initialisms` — the abbreviations that are written in capitals
- `Naming.marked` — the characters of a name without its separators, each with the mark of a word's end
- `Naming.Word` — a word and what is known about initialisms in it
- `Naming.words` — the words of a name
-/

namespace Bindery.Naming

/-- The abbreviations that are written in capitals. -/
def initialisms : List String :=
  ["ACL", "API", "ASCII", "CPU", "CSS", "CSV", "DNS", "EOF", "GUID", "HTML", "HTTP", "HTTPS", "ICMP",
   "ID", "IP", "JSON", "KVK", "LHS", "PDF", "PGP", "QPS", "QR", "RAM", "RHS", "RPC", "SLA", "SMTP",
   "SQL", "SSH", "SVG", "TCP", "TLS", "TTL", "UDP", "UI", "UID", "URI", "URL", "UTF8", "UUID", "VM",
   "XML", "XMPP", "XSRF", "XSS", "AWS", "GCP"]

/-- Whether the characters spell an initialism in capitals. -/
def isInitialism (cs : List Char) : Bool :=
  initialisms.contains (String.ofList cs)

/-- A dash, an underscore or a blank. -/
def isSeparator (c : Char) : Bool :=
  c == '-' || c == '_' || isBlank c

/-- Reads on after the character `last`, with the separator `gap` seen since, if any. A character
is marked when a separator follows it or when the name ends with it. Between two digits the
separator nearest to the second one stays. -/
def markedFrom (last : Char) (gap : Option Char) : List Char → List (Char × Bool)
  | [] => [(last, true)]
  | c :: rest =>
    if isSeparator c then markedFrom last (some c) rest
    else match gap with
      | none => (last, false) :: markedFrom c none rest
      | some g =>
        if isDigit last && isDigit c then (last, true) :: (g, false) :: markedFrom c none rest
        else (last, true) :: markedFrom c none rest

/-- The characters of a name without its separators, each with the mark of a word's end. -/
def marked (name : List Char) : List (Char × Bool) :=
  match trimEnds isSeparator name with
  | [] => []
  | c :: rest => markedFrom c none rest

/-- A word of a name. -/
structure Word where
  /-- The characters of the word. -/
  chars : List Char
  /-- The word is an initialism in some spelling. -/
  whole : Bool
  /-- The word holds an initialism. -/
  partly : Bool
  deriving DecidableEq, Repr

/-- The word that ends with these characters. -/
def Word.ofChars (partly : Bool) (cs : List Char) : Word :=
  if isInitialism (upperCase cs) then ⟨cs, true, true⟩ else ⟨cs, false, partly⟩

/-- `ID` and `IP` are no initialisms when the second character after them follows the first one
directly and is upper case. The characters after the word are given. -/
def runsOn (word : List Char) (after : List (Char × Bool)) : Bool :=
  (word == ['I', 'D'] || word == ['I', 'P']) &&
    match after with
    | (_, false) :: (c, _) :: _ => isUpper c
    | _ => false

/-- The words of the marked characters, after the characters `word` of a word that has begun and
that holds an initialism if `partly`. -/
def wordsFrom (partly : Bool) (word : List Char) : List (Char × Bool) → List Word
  | [] => []
  | (c, mark) :: rest =>
    let word := word ++ [c]
    match rest with
    | [] => [Word.ofChars partly word]
    | (next, _) :: _ =>
      if mark || (isLower c && !isLower next) then
        Word.ofChars partly word :: wordsFrom false [] rest
      else if isInitialism word then
        if isLower next then wordsFrom true word rest
        else if runsOn word rest then wordsFrom partly word rest
        else Word.ofChars partly word :: wordsFrom false [] rest
      else wordsFrom partly word rest

/-- The words of a name. -/
def words (name : List Char) : List Word :=
  wordsFrom false [] (marked name)

end Bindery.Naming
