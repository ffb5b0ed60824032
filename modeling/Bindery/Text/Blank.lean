import Bindery.Text.CharRange

/-!
# White space

The white space of every script, and trimming by it.

## Main definitions

- `isBlank` — white space
- `trimBlank` — a text without the white space at its two ends
-/

namespace Bindery

/-- White space: the ASCII blanks, next line, and the blanks of other scripts. -/
def blankRanges : List CharRange :=
  [⟨0x9, 0xd, 1⟩, ⟨0x20, 0x20, 1⟩, ⟨0x85, 0x85, 1⟩, ⟨0xa0, 0xa0, 1⟩, ⟨0x1680, 0x1680, 1⟩,
   ⟨0x2000, 0x200a, 1⟩, ⟨0x2028, 0x2029, 1⟩, ⟨0x202f, 0x202f, 1⟩, ⟨0x205f, 0x205f, 1⟩,
   ⟨0x3000, 0x3000, 1⟩]

/-- White space of any script. -/
def isBlank (c : Char) : Bool :=
  CharRange.covers blankRanges c

/-- The characters without the leading ones that satisfy `p`, and without the trailing ones. -/
def trimEnds (p : Char → Bool) (cs : List Char) : List Char :=
  ((cs.dropWhile p).reverse.dropWhile p).reverse

/-- The units of a text without the trailing ones that satisfy `p`. -/
def trimEnd {α : Type} (p : α → Bool) (cs : List α) : List α :=
  (cs.reverse.dropWhile p).reverse

/-- The text without the white space at its two ends. -/
def trimBlank (s : String) : String :=
  String.ofList (trimEnds isBlank s.toList)

end Bindery
