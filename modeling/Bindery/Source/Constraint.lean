import Bindery.Text.Blank
import Bindery.Text.Letter

/-!
# Build constraints

A comment line that begins with `+build` is a build constraint wherever it stands. The constraints of
a file are collected before its package clause, in the newer and in the older notation.

## Main definitions

- `Source.Constraint` — the tags of a constraint line, joined by and, joined by or
- `Source.Constraint.ofComment?` — the constraint of a comment line
- `Source.constraintLines` — the lines that state all constraints of a file
-/

namespace Bindery.Source

/-- A tag that must be set, or that must not be set. -/
structure Tag where
  /-- The tag must not be set. -/
  negated : Bool
  /-- The name of the tag. -/
  name : String
  deriving DecidableEq, Repr

/-- A constraint line: one of the clauses holds, and a clause holds if all its tags do. -/
abbrev Constraint := List (List Tag)

/-- The text of a tag. -/
def Tag.text (t : Tag) : String :=
  if t.negated then "!" ++ t.name else t.name

/-- Whether a text can be a tag. -/
def isTag (cs : List Char) : Bool :=
  !cs.isEmpty && cs.all fun c => isLetter c || isDigit c || c == '_' || c == '.'

/-- The tag of a text. What is no tag stands for a tag that is never set. -/
def Tag.ofText (cs : List Char) : Tag :=
  let name := fun cs => if isTag cs then String.ofList cs else "ignore"
  match cs with
  | ['!'] => ⟨false, "ignore"⟩
  | '!' :: '!' :: _ => ⟨false, "ignore"⟩
  | '!' :: rest => ⟨true, name rest⟩
  | cs => ⟨false, name cs⟩

/-- The pieces of a text between white space. -/
def fields (cs : List Char) : List (List Char) :=
  (cs.splitOnP isBlank).filter (!·.isEmpty)

namespace Constraint

/-- The constraint of a comment line, if it is one. -/
def ofComment? (line : String) : Option Constraint :=
  let mark := "+build".toList
  let text := trimEnds isBlank (line.toList.drop 2)
  if !mark.isPrefixOf text then none
  else
    let rest := text.drop mark.length
    match rest with
    | [] => some [[⟨false, "ignore"⟩]]
    | c :: _ =>
      if isBlank c then some ((fields rest).map fun clause => (clause.splitOn ',').map Tag.ofText)
      else none

/-- A clause in the newer notation, in parentheses if it stands among others. -/
def clauseText (among : Bool) (clause : List Tag) : String :=
  let text := String.intercalate " && " (clause.map Tag.text)
  if among && 1 < clause.length then "(" ++ text ++ ")" else text

/-- A constraint in the newer notation, in parentheses if it stands among others. -/
def text (among : Bool) (c : Constraint) : String :=
  let text := String.intercalate " || " (c.map (clauseText (1 < c.length)))
  if among && 1 < c.length then "(" ++ text ++ ")" else text

/-- The constraints that together say the same: a constraint with one clause is cut into its tags. -/
def split (c : Constraint) : List Constraint :=
  match c with
  | [clause] => clause.map fun t => [[t]]
  | c => [c]

/-- A constraint as a line in the older notation. -/
def oldLine (c : Constraint) : String :=
  "// +build" ++ String.join (c.map fun clause => " " ++ String.intercalate "," (clause.map Tag.text))

end Constraint

/-- The lines that state all constraints of a file: one in the newer notation, then those in the
older one. Constraints without alternatives share a line. -/
def constraintLines : List Constraint → List String
  | [] => []
  | cs =>
    let newer := "//go:build " ++ String.intercalate " && " (cs.map (Constraint.text (1 < cs.length)))
    let parts := cs.flatMap Constraint.split
    let parts := if parts.all (·.length == 1) then [[parts.flatten.flatten]] else parts
    newer :: parts.map Constraint.oldLine

end Bindery.Source
