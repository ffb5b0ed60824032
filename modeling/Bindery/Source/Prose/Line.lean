import Bindery.Text.Blank
import Bindery.Text.Letter
import Bindery.Text.LetterCase

/-!
# Lines of a documentation comment

What a single line of a documentation comment can be: an indented line, an item of a list, a heading
with a mark, a heading without one, or the definition of a link.

## Main definitions

- `Prose.Line` — a line without its line feed
- `Prose.unindent` — lines without their common indentation and without blank lines around them
- `Prose.listMarker?` — the number of a list item and the text after its marker
- `Prose.isHeading`, `Prose.isPlainHeading` — headings with and without a mark
- `Prose.LinkDef` and `Prose.linkDef?` — the definition of a link
-/

namespace Bindery.Prose

/-- A line of a documentation comment, without its line feed. -/
abbrev Line := List Char

/-- A space or a tab. -/
def isIndent (c : Char) : Bool :=
  c == ' ' || c == '\t'

/-- The spaces and tabs with which a line begins. -/
def indentation (l : Line) : Line :=
  l.takeWhile isIndent

/-- Whether a line begins with a space or a tab. -/
def isIndented (l : Line) : Bool :=
  match l with
  | [] => false
  | c :: _ => isIndent c

/-- The line without the white space at its ends. -/
def trimmed (l : Line) : Line :=
  trimEnds isBlank l

/-- The longest common beginning of two lines. -/
def commonStart : Line → Line → Line
  | a :: as, b :: bs => if a == b then a :: commonStart as bs else []
  | _, _ => []

/-- The lines without the empty ones at both ends. -/
def trimEmpty (ls : List Line) : List Line :=
  ((ls.dropWhile List.isEmpty).reverse.dropWhile List.isEmpty).reverse

/-- The lines without their common indentation and without blank lines around them. A line of white
space becomes empty. -/
def unindent (ls : List Line) : List Line :=
  match trimEmpty ls with
  | [] => []
  | l :: rest =>
    let common := (rest.filter (!·.isEmpty)).foldl
      (fun common l => commonStart common (indentation l)) (indentation l)
    trimEmpty ((l :: rest).map fun l =>
      let l := if common.isPrefixOf l then l.drop common.length else l
      if (trimmed l).isEmpty then [] else l)

/-- The number of a list item, empty for a bullet, and the text after its marker. -/
def listMarker? (l : Line) : Option (List Char × Line) :=
  let marker := match trimmed l with
    | [] => none
    | c :: rest =>
      if c == '•' || c == '*' || c == '+' || c == '-' then some ([], rest)
      else
        let digits := (c :: rest).takeWhile Char.isDigit
        match digits, (c :: rest).drop digits.length with
        | [], _ => none
        | _, d :: rest => if d == '.' || d == ')' then some (digits, rest) else none
        | _, [] => none
  marker.filter fun (_, rest) => isIndented rest && !(trimmed rest).isEmpty

/-- Whether a line is an item of a list. -/
def isItem (l : Line) : Bool :=
  (listMarker? l).isSome

/-- Whether a line is a heading with a mark. -/
def isHeading : Line → Bool
  | '#' :: c :: rest => isIndent c && !(trimmed rest).isEmpty
  | _ => false

/-- Characters that a heading without a mark cannot have. -/
def headingExcludes : List Char :=
  ";:!?+*/=[]\x7b\x7d_^°&§~%#@<\">\\".toList

/-- Whether each apostrophe of a heading belongs to a possessive `'s`. -/
def apostrophesFit : Line → Bool
  | [] => true
  | '\'' :: rest =>
    (rest == ['s'] || ['s', ' '].isPrefixOf rest) && apostrophesFit rest
  | _ :: rest => apostrophesFit rest

/-- Whether each full stop of a heading is followed by something other than a space. -/
def stopsFit : Line → Bool
  | [] => true
  | '.' :: rest =>
    (match rest with
      | [] => false
      | c :: _ => c != ' ') && stopsFit rest
  | _ :: rest => stopsFit rest

/-- Whether the text of a line reads as a heading without a mark: it begins with a capital letter,
ends in a letter or a digit and has no punctuation but parentheses and commas. -/
def isPlainHeading (l : Line) : Bool :=
  let l := trimmed l
  (match l.head?, l.getLast? with
    | some a, some z => isLetter a && isUpper a && (isLetter z || isDigit z)
    | _, _ => false) &&
  l.all (!headingExcludes.contains ·) && apostrophesFit l && stopsFit l

/-- The definition of a link. -/
structure LinkDef where
  /-- The text that is a link. -/
  text : List Char
  /-- The address behind it. -/
  url : List Char
  deriving DecidableEq, Repr

/-- The schemes of addresses that count as links. -/
def schemes : List String :=
  ["file", "ftp", "gopher", "http", "https", "mailto", "nntp"]

/-- The text before the first occurrence of `pattern` and the text after it. -/
def cut? (pattern : List Char) : List Char → Option (List Char × List Char)
  | [] => if pattern.isEmpty then some ([], []) else none
  | c :: rest =>
    if pattern.isPrefixOf (c :: rest) then some ([], (c :: rest).drop pattern.length)
    else (cut? pattern rest).map fun (before, after) => (c :: before, after)

/-- The definition of a link on a line, such as `[text]: https://host`. -/
def linkDef? : Line → Option LinkDef
  | '[' :: rest =>
    match cut? "]:".toList rest with
    | some (text, gap :: url) =>
      let url' := trimmed url
      match cut? "://".toList url' with
      | some (scheme, _) =>
        if isIndent gap && !url.isEmpty && schemes.contains (String.ofList scheme) then
          some ⟨text, url'⟩
        else none
      | none => none
    | _ => none
  | _ => none

end Bindery.Prose
