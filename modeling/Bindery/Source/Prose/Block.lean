import Bindery.Source.Prose.Inline
import Bindery.Source.Prose.Span

/-!
# Blocks of a documentation comment

A documentation comment is read into blocks and written again in one canonical form: code by a tab,
list items by a dash or their number, headings by a mark, and the definitions of links at the end.

## Main definitions

- `Prose.Block` — a paragraph, a heading, code or a list
- `Prose.Document` — the blocks of a comment and its link definitions
- `Prose.Document.ofLines` — reads the lines of a comment
- `Prose.Document.render` — writes a document as lines
- `Prose.reflow` — a comment in its canonical form
-/

namespace Bindery.Prose

/-- An item of a list: its number, empty for a bullet, and its paragraphs. -/
structure Item where
  /-- The number of the item, empty for a bullet. -/
  number : List Char
  /-- The paragraphs of the item. -/
  paragraphs : List (List Char)
  deriving DecidableEq, Repr

/-- A part of a documentation comment. -/
inductive Block where
  | paragraph (text : List Char)
  | heading (text : List Char)
  | code (lines : List Line)
  /-- A list, with a blank line before it and between its items if it is `spaced` and `loose`. -/
  | list (items : List Item) (spaced loose : Bool)
  deriving DecidableEq, Repr

/-- A documentation comment. -/
structure Document where
  /-- The parts of the comment. -/
  blocks : List Block
  /-- The definitions of links. -/
  links : List LinkDef
  deriving DecidableEq, Repr

/-- The lines joined by line feeds. -/
def joinLines (ls : List Line) : List Char :=
  (ls.intersperse ['\n']).flatten

/-- Lines that are either a paragraph or only link definitions. -/
def paragraph (ls : List Line) : Option (List Char) × List LinkDef :=
  match ls.mapM linkDef? with
  | some defs => (none, defs)
  | none => (some (joinLines ls), [])

/-- The state of reading a list: the items so far, the lines of the paragraph that goes on, the link
definitions and whether a blank line was seen. -/
structure ListState where
  /-- The items that have begun, latest first. -/
  items : List Item
  /-- The lines of the paragraph that goes on. -/
  lines : List Line
  /-- The link definitions inside the items. -/
  links : List LinkDef
  /-- Whether a blank line was seen. -/
  loose : Bool

/-- Ends the paragraph that goes on. -/
def ListState.flush (s : ListState) : ListState :=
  match s.items with
  | [] => { s with lines := [] }
  | item :: earlier =>
    let (text, defs) := paragraph s.lines
    { s with
      items := { item with paragraphs := item.paragraphs ++ text.toList } :: earlier
      lines := []
      links := s.links ++ defs }

/-- Reads a line of a list whose items are numbered or not. -/
def ListState.read (numbered : Bool) (s : ListState) (l : Line) : ListState :=
  let (s, l) := match listMarker? l with
    | some (number, rest) =>
      if !number.isEmpty == numbered then
        let s := s.flush
        ({ s with items := ⟨number, []⟩ :: s.items }, rest)
      else (s, l)
    | none => (s, l)
  match trimmed l with
  | [] => { s.flush with loose := true }
  | l => { s with lines := s.lines ++ [l] }

/-- The list of a span, and the link definitions in it. -/
def listOfLines (ls : List Line) (spaced : Bool) : Block × List LinkDef :=
  let numbered := ((ls.head?.bind listMarker?).elim [] (·.1)) != []
  let s := (ls.foldl (ListState.read numbered) ⟨[], [], [], false⟩).flush
  (.list s.items.reverse spaced s.loose, s.links)

/-- The block of a span, none if the span only defines links, and the link definitions in it. -/
def blockOfSpan (s : Span) : Option Block × List LinkDef :=
  match s.kind with
  | .code => (some (.code (unindent s.lines)), [])
  | .list =>
    let (block, defs) := listOfLines s.lines s.spaced
    (some block, defs)
  | .heading => (some (.heading (trimmed (joinLines s.lines |>.drop 1))), [])
  | .plainHeading => (some (.heading (trimmed (joinLines s.lines))), [])
  | .paragraph =>
    let (text, defs) := paragraph s.lines
    (text.map .paragraph, defs)

/-- Reads the lines of a comment. -/
def Document.ofLines (ls : List Line) : Document :=
  let parts := (spans (unindent ls)).map blockOfSpan
  ⟨parts.filterMap (·.1), parts.flatMap (·.2)⟩

/-- Whether blank lines stand between the items of a list. -/
def isLoose (items : List Item) (loose : Bool) : Bool :=
  loose || items.any (·.paragraphs.length != 1)

/-- Whether a blank line stands before the block. -/
def Block.blankBefore : Block → Bool
  | list items spaced loose => spaced || isLoose items loose
  | _ => true

/-- The text with `indent` after each line feed. -/
def indentLines (indent : List Char) : List Char → List Char
  | [] => []
  | '\n' :: rest => '\n' :: indent ++ indentLines indent rest
  | c :: rest => c :: indentLines indent rest

/-- The text of an item with its marker. -/
def Item.render (inner : List Char → List Char) (i : Item) : List Char :=
  let marker := if i.number.isEmpty then "  - ".toList else ' ' :: i.number ++ ['.', ' ']
  let indent := "    ".toList
  let texts := i.paragraphs.map fun p => indentLines indent (inner p) ++ ['\n']
  marker ++ (texts.intersperse ('\n' :: indent)).flatten

/-- The text of a block, with the text of paragraphs set by `inner`. -/
def Block.render (inner : List Char → List Char) : Block → List Char
  | paragraph text => inner text ++ ['\n']
  | heading text => '#' :: ' ' :: text ++ ['\n']
  | code ls => ls.flatMap fun l => if l.isEmpty then ['\n'] else '\t' :: l ++ ['\n']
  | list items _ loose =>
    let gap := if isLoose items loose then ['\n'] else []
    ((items.map (Item.render inner)).intersperse gap).flatten

/-- The paragraphs of a block. -/
def Block.paragraphs : Block → List (List Char)
  | paragraph text => [text]
  | list items _ _ => items.flatMap (·.paragraphs)
  | _ => []

/-- A link definition as a line. -/
def LinkDef.render (d : LinkDef) : List Char :=
  '[' :: d.text ++ "]: ".toList ++ d.url ++ ['\n']

/-- Blocks of text, with a blank line before each block but the first that asks for one. -/
def renderBlocks (inner : List Char → List Char) : List Block → List Char
  | [] => []
  | b :: rest =>
    b.render inner ++ rest.flatMap fun b => (if b.blankBefore then ['\n'] else []) ++ b.render inner

/-- The text of a document: its blocks, the link definitions that it uses, and the other ones. Of
several definitions of one text only the first is used. -/
def Document.render (d : Document) : List Char :=
  let inner := fun text => (inline d.links text).1
  let keys := d.blocks.flatMap fun b => b.paragraphs.flatMap fun p => (inline d.links p).2
  let rec split (seen : List (List Char)) : List LinkDef → List LinkDef × List LinkDef
    | [] => ([], [])
    | l :: rest =>
      let (used, unused) := split (l.text :: seen) rest
      if keys.contains l.text && !seen.contains l.text then (l :: used, unused)
      else (used, l :: unused)
  let (used, unused) := split [] d.links
  let group := fun (ls : List LinkDef) =>
    if ls.isEmpty then [] else '\n' :: ls.flatMap LinkDef.render
  renderBlocks inner d.blocks ++ group used ++ group unused

/-- The lines of a text, each of which ends in a line feed. -/
def textLines (text : List Char) : List Line :=
  match (text.splitOn '\n').reverse with
  | [] :: rest => rest.reverse
  | ls => ls.reverse

/-- The comment line of a line of a document. -/
def commentLine (l : Line) : String :=
  if l.isEmpty then "//"
  else if l.head? == some '\t' then String.ofList ('/' :: '/' :: l)
  else String.ofList ('/' :: '/' :: ' ' :: l)

/-- The line of a document that a comment line holds. -/
def uncomment (s : String) : Line :=
  match s.toList.drop 2 with
  | ' ' :: rest => rest
  | l => l

/-- A documentation comment in its canonical form. -/
def reflow (comment : List String) : List String :=
  if comment.isEmpty then []
  else
    (textLines (Document.ofLines (comment.map uncomment)).render).map fun l =>
      String.ofList (trimEnd isBlank (commentLine l).toList)

end Bindery.Prose
