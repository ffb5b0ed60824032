import Bindery.Text.Blank
import Bindery.Text.Octets

/-!
# Documentation of declarations

Descriptions of the schema become line comments. Every line of a comment starts with the comment
mark, so that no text of the schema can leave its comment. The lines of a text are the same whether it is
given by its characters or by its octets.

## Main definitions

- `linesOf` — the lines of a text, whatever it is written in
- `docLines`, `Octets.docLines` — the lines of a description
- `Comment` — the lines of a comment, each with its mark, and `Comment.text`
- `Comment.ofBlocks`, `Octets.docComment` — the comment of a description and further paragraphs
- `deprecationNotice`, `defaultNotice`, `requiredNotice` — the paragraphs that are added to a description
-/

namespace Bindery

/-- The pieces between the units that satisfy `p`, at least one. -/
def splitWhen {α : Type} (p : α → Bool) : List α → List (List α)
  | [] => [[]]
  | c :: rest =>
    if p c then [] :: splitWhen p rest
    else match splitWhen p rest with
      | [] => [[c]]
      | piece :: pieces => (c :: piece) :: pieces

section Lines

variable {α : Type} [BEq α] (unit : Char → α)

/-- The text with every carriage return that stands before a line feed left out, where `unit` gives
the unit of an ASCII character. -/
def unixLines : List α → List α
  | [] => []
  | c :: rest =>
    if c == unit '\r' && rest.head? == some (unit '\n') then unixLines rest
    else c :: unixLines rest

/-- Whether a unit is that of one of some characters. -/
def isAnyOf (chars : List Char) (c : α) : Bool :=
  chars.any fun d => c == unit d

/-- The lines of a text without the blanks at their ends. Line feeds and blanks at the end of the text
are dropped. -/
def linesOf (text : List α) : List (List α) :=
  match trimEnd (isAnyOf unit ['\n', ' ', '\t']) (unixLines unit text) with
  | [] => []
  | text => (splitWhen (· == unit '\n') text).map (trimEnd (isAnyOf unit [' ', '\t', '\r']))

end Lines

/-- The lines of a description. -/
def docLines (description : String) : List String :=
  (linesOf id description.toList).map String.ofList

/-- The lines of a description that is given by its octets. -/
def Octets.docLines (description : Octets) : List Octets :=
  linesOf Char.toUInt8 description

/-- The lines of a comment, each with its mark and without its line feed. -/
abbrev Comment := List String

namespace Comment

/-- The comment line of a line of text. -/
def line (text : String) : String :=
  if text == "" then "//" else "// " ++ text

/-- The lines of the blocks that have lines, each written by `line`, with a line for `empty` between the
blocks. -/
def layout {β : Type} (line : β → β) (empty : β) (blocks : List (List β)) : List β :=
  (((blocks.filter (!·.isEmpty)).map (·.map line)).intersperse [line empty]).flatten

/-- The comment of a description and the paragraphs that follow it. -/
def ofBlocks (description : String) (paragraphs : List String) : Comment :=
  layout line "" ((description :: paragraphs).map docLines)

/-- The text of a comment: its lines, each ended by a line feed. -/
def text (c : Comment) : String :=
  String.join (c.map (· ++ "\n"))

end Comment

namespace Octets

/-- The comment line of a line of text. -/
def commentLine (text : Octets) : Octets :=
  if text.isEmpty then ofString "//" else ofString "// " ++ text

/-- The text of the comment of a description and the paragraphs that follow it, all given by their
octets. -/
def docComment (description : Octets) (paragraphs : List Octets) : Octets :=
  (Comment.layout commentLine [] ((description :: paragraphs).map docLines)).flatMap
    (· ++ ofString "\n")

end Octets

/-- The paragraph on the deprecation of a field or an enum value. -/
def deprecationNotice (deprecated : Bool) (reason : Option String) : String :=
  if !deprecated then ""
  else match trimBlank (reason.getD "") with
    | "" => "Deprecated: no longer supported."
    | text => "Deprecated: " ++ text

/-- The paragraph on the default value of an argument or an input field. -/
def defaultNotice : Option String → String
  | none => ""
  | some value => "Defaults to " ++ value ++ "."

/-- The paragraph that lists the required members of an argument holder. -/
def requiredNotice : List String → String
  | [] => ""
  | members => "Required: " ++ String.intercalate ", " members ++ "."

end Bindery
