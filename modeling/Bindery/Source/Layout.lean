import Bindery.Source.Constraint
import Bindery.Source.Import
import Bindery.Source.Prose.Block

/-!
# Layout of a source file

A source file is a package clause, its imports and its declarations. Members of a struct and of a
constant block are rows of cells, which are aligned in sections; a comment begins a new section.
Comments above declarations are brought into canonical form, comments inside them are not.

## Main definitions

- `Source.Row` — a comment or a row of cells inside a declaration
- `Source.Item` — a declaration with its comment
- `Source.File` — a source file
- `Source.File.hasIllegalComment` — whether a comment makes the file illegal
- `Source.File.render` — the formatted text of a file
-/

namespace Bindery.Source

/-- A line inside a struct or a constant block. -/
inductive Row where
  | comment (line : String)
  | cells (texts : List String)
  deriving DecidableEq, Repr

/-- What a declaration consists of. -/
inductive Body where
  /-- Lines that stand as they are. -/
  | lines (texts : List String)
  /-- Rows between an opening and a closing line. -/
  | table (opening : String) (rows : List Row) (closing : String)
  deriving DecidableEq, Repr

/-- A declaration with the comment above it. -/
structure Item where
  /-- The comment above the declaration, line by line. -/
  doc : List String
  /-- The declaration. -/
  body : Body
  deriving DecidableEq, Repr

/-- A source file. -/
structure File where
  /-- The comment at the top of the file. -/
  header : String
  /-- The name of the package. -/
  package : String
  /-- The imports of the file. -/
  imports : Imports
  /-- The declarations of the file. -/
  items : List Item
  deriving DecidableEq, Repr

/-- The text filled with spaces to a width. -/
def padRight (width : Nat) (s : String) : String :=
  s ++ String.ofList (List.replicate (width - s.length) ' ')

/-- Rows of at most `columns` cells with their columns aligned. A column is as wide as its widest
cell and a space, over neighbouring rows that go on after it. -/
def alignCells : (columns : Nat) → List (List String) → List String
  | 0, rows => rows.map String.join
  | columns + 1, rows =>
    (rows.splitBy fun a b => decide (1 < a.length) == decide (1 < b.length)).flatMap fun group =>
      if group.all (1 < ·.length) then
        let width := (group.map fun r => (r.headD "").length).foldl max 0
        List.zipWith (fun r rest => padRight (width + 1) (r.headD "") ++ rest) group
          (alignCells columns (group.map List.tail))
      else group.map String.join

/-- The lines of the rows. A single row of cells is not aligned; several are aligned in the sections
between comments. -/
def alignRows (rows : List Row) : List String :=
  let isCells : Row → Bool := fun r => match r with
    | .comment _ => false
    | .cells _ => true
  if (rows.filter isCells).length == 1 then
    rows.map fun r => match r with
      | .comment l => l
      | .cells cs => String.intercalate " " cs
  else
    (rows.splitBy fun a b => isCells a == isCells b).flatMap fun group =>
      let cells := group.filterMap fun r => match r with
        | .comment _ => none
        | .cells cs => some cs
      let comments := group.filterMap fun r => match r with
        | .comment l => some l
        | .cells _ => none
      comments ++ alignCells (cells.foldl (fun n cs => max n cs.length) 0) cells

/-- The lines of a declaration. -/
def Body.render : Body → List String
  | lines texts => texts
  | table opening rows closing => opening :: (alignRows rows).map ("\t" ++ ·) ++ [closing]

/-- A comment line without carriage returns and without white space at its end. -/
def cleanComment (line : String) : String :=
  String.ofList (trimEnd isBlank (line.toList.filter (· != '\r')))

/-- A row with its comment cleaned. -/
def Row.clean : Row → Row
  | comment l => comment (cleanComment l)
  | cells cs => cells cs

/-- The comment lines of a declaration, those above it first. -/
def Item.comments (i : Item) : List String :=
  i.doc ++ match i.body with
    | .lines _ => []
    | .table _ rows _ => rows.filterMap fun r => match r with
      | .comment l => some l
      | .cells _ => none

/-- The declaration with every comment line cleaned. -/
def Item.clean (i : Item) : Item where
  doc := i.doc.map cleanComment
  body := match i.body with
    | .lines ls => .lines ls
    | .table opening rows closing => .table opening (rows.map Row.clean) closing

/-- The declaration without the comment lines that are build constraints. -/
def Item.withoutConstraints (i : Item) : Item where
  doc := i.doc.filter fun l => (Constraint.ofComment? l).isNone
  body := match i.body with
    | .lines ls => .lines ls
    | .table opening rows closing =>
      .table opening
        (rows.filter fun r => match r with
          | .comment l => (Constraint.ofComment? l).isNone
          | .cells _ => true)
        closing

/-- The lines of a declaration under its comment in canonical form. Bringing a comment into form once
can show marks that were hidden before, so it is done three times. -/
def Item.render (i : Item) : List String :=
  Prose.reflow (Prose.reflow (Prose.reflow i.doc)) ++ i.body.render

/-- Whether a comment holds a character that no source file may hold. -/
def hasIllegalChar (line : String) : Bool :=
  line.toList.any fun c => c.toNat == 0 || c.toNat == 0xfeff

/-- Whether a comment of the file holds a character that no source file may hold. -/
def File.hasIllegalComment (f : File) : Bool :=
  f.items.any fun i => i.comments.any hasIllegalChar

/-- Lines of text, each ended by a line feed. -/
def unlines (ls : List String) : String :=
  String.join (ls.map (· ++ "\n"))

/-- The formatted text of a file. -/
def File.render (f : File) : String :=
  let items := f.items.map Item.clean
  let constraints := (items.flatMap Item.comments).filterMap Constraint.ofComment?
  let parts :=
    [["// " ++ f.header], constraintLines constraints, ["package " ++ f.package], f.imports.render] ++
      items.map fun i => i.withoutConstraints.render
  unlines ((parts.filter (!·.isEmpty)).intersperse [""]).flatten

end Bindery.Source
