import Bindery.Data.Type

/-!
# Member tags

A member of a struct can carry a tag: the name under which it is written and options, separated by
commas.

## Main definitions

- `MemberTag` — a name and options
- `MemberTag.parse` — reads a tag
- `MemberLabel.written?` — the name under which a member is written, and its tag
-/

namespace Bindery

/-- The name under which a member is written, and options. -/
structure MemberTag where
  /-- The name, empty if the tag gives none. -/
  name : String
  /-- The options after the name, none if there is no tag at all. -/
  options : Option (List String)
  deriving DecidableEq, Repr

/-- Reads a tag: its parts between commas, the first of which is the name. -/
def MemberTag.parse (tag : String) : MemberTag :=
  if tag == "" then ⟨"", none⟩
  else match tag.toList.splitOn ',' with
    | [] => ⟨"", none⟩
    | name :: options => ⟨String.ofList name, some (options.map String.ofList)⟩

/-- Whether a tag has an option. -/
def MemberTag.has (t : MemberTag) (option : String) : Bool :=
  (t.options.getD []).contains option

/-- How a member of a record is written: its name, and its tag, none if it is not written. -/
def MemberLabel.written? (label : MemberLabel) : Option (String × MemberTag) :=
  let tag := MemberTag.parse label.tag
  if !label.isVisible || (tag.name == "-" && (tag.options.getD []).isEmpty) then none
  else some (if tag.name == "" then label.name else tag.name, tag)

end Bindery
