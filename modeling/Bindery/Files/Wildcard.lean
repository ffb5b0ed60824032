import Bindery.Files.Store

/-!
# Wildcards

A pattern for the names on a path: a star stands for any octets, a question mark for one character, a
class in brackets for one of its characters. Neither a star nor a question mark stands for a slash.
The stars divide a pattern into sections, and a fault in a section is only noticed when a name is
compared with that section.

## Main definitions

- `Wildcard` — a part of a pattern that stands for one character
- `PatternSection`, `PatternSection.ofPattern` — the parts between two stars of a pattern
- `PatternSection.fits?` — whether a name fits the sections of a pattern
- `Store.glob` — the paths that fit a pattern
-/

namespace Bindery

/-- A part of a pattern that stands for one character. -/
inductive Wildcard where
  | char (c : Char)
  | single
  /-- One of the characters between two bounds, or none of them. -/
  | oneOf (negated : Bool) (ranges : List (Char × Char))
  deriving DecidableEq, Repr

namespace Wildcard

/-- A character of a class, and the text after it, which has to go on. -/
def classChar? : List Char → Option (Char × List Char)
  | [] | '-' :: _ | ']' :: _ => none
  | '\\' :: c :: r :: rest => some (c, r :: rest)
  | '\\' :: _ => none
  | c :: r :: rest => some (c, r :: rest)
  | [_] => none

/-- The ranges of a class after its opening bracket, and the text after its closing one. -/
def classRanges? : (fuel : Nat) → (first : Bool) → List Char →
    Option (List (Char × Char) × List Char)
  | 0, _, _ => none
  | fuel + 1, first, cs =>
    match first, cs with
    | false, ']' :: rest => some ([], rest)
    | _, cs => do
      let (lo, rest) ← classChar? cs
      let (hi, rest) ← match rest with
        | '-' :: rest => classChar? rest
        | rest => some (lo, rest)
      let (ranges, rest) ← classRanges? fuel false rest
      return ((lo, hi) :: ranges, rest)

/-- The parts of a section, none if it is malformed. -/
def partsFrom? : (fuel : Nat) → List Char → Option (List Wildcard)
  | 0, _ => none
  | _ + 1, [] => some []
  | fuel + 1, '?' :: rest => (partsFrom? fuel rest).map (.single :: ·)
  | _ + 1, ['\\'] => none
  | fuel + 1, '\\' :: c :: rest => (partsFrom? fuel rest).map (.char c :: ·)
  | fuel + 1, '[' :: '^' :: rest => do
    let (ranges, rest) ← classRanges? (rest.length + 1) true rest
    return .oneOf true ranges :: (← partsFrom? fuel rest)
  | fuel + 1, '[' :: rest => do
    let (ranges, rest) ← classRanges? (rest.length + 1) true rest
    return .oneOf false ranges :: (← partsFrom? fuel rest)
  | fuel + 1, c :: rest => (partsFrom? fuel rest).map (.char c :: ·)

/-- The parts of a section, none if it is malformed. -/
def parts? (cs : List Char) : Option (List Wildcard) :=
  partsFrom? (cs.length + 1) cs

/-- The first character of a name, the replacement character if it is none, and the text after it. -/
def firstChar? (name : Octets) : Option (Char × Octets) :=
  match name, name.first? with
  | [], _ => none
  | name, some (c, n) => some (c, name.drop n)
  | _ :: rest, none => some (Char.ofNat 0xfffd, rest)

/-- The text after the character that a part stands for, none if the name does not begin with it. -/
def take? (w : Wildcard) (name : Octets) : Option Octets := do
  let (c, rest) ← firstChar? name
  match w with
  | .char x =>
    let octets := Octets.ofString x.toString
    if name.take octets.length == octets then some (name.drop octets.length) else none
  | .single => if c == '/' then none else some rest
  | .oneOf negated ranges =>
    if (ranges.any fun (lo, hi) => lo ≤ c && c ≤ hi) != negated then some rest else none

/-- The text after the characters that parts stand for, none if the name does not begin with them. -/
def takeAll? : List Wildcard → Octets → Option Octets
  | [], name => some name
  | w :: rest, name => (w.take? name).bind (takeAll? rest)

end Wildcard

/-- A section of a pattern. -/
structure PatternSection where
  /-- Whether a star stands before the section. -/
  star : Bool
  /-- The parts, none if the section is malformed. -/
  parts : Option (List Wildcard)
  deriving DecidableEq, Repr

namespace PatternSection

/-- The text up to the next star, and the text from there on. A star between brackets is none, where
the brackets need not form a class. -/
def cutStar : (inClass : Bool) → List Char → List Char × List Char
  | _, [] => ([], [])
  | inClass, '\\' :: c :: rest =>
    let (before, after) := cutStar inClass rest
    ('\\' :: c :: before, after)
  | inClass, c :: rest =>
    if c == '*' && !inClass then ([], c :: rest)
    else
      let (before, after) := cutStar ((inClass || c == '[') && c != ']') rest
      (c :: before, after)

/-- The sections of a pattern. -/
def ofChars : (fuel : Nat) → List Char → List PatternSection
  | 0, _ | _, [] => []
  | fuel + 1, cs =>
    let (text, rest) := cutStar false (cs.dropWhile (· == '*'))
    ⟨cs.head? == some '*', Wildcard.parts? text⟩ :: ofChars fuel rest

/-- The sections of a pattern. -/
def ofPattern (pattern : String) : List PatternSection :=
  ofChars pattern.length pattern.toList

/-- The texts that may be left after the octets that a star stands for. -/
def afterStar : Octets → List Octets
  | [] => [[]]
  | b :: rest => (b :: rest) :: (if b == 0x2f then [] else afterStar rest)

/-- Whether a name fits sections, each of which takes its first place. The last section has to reach
the end of the name. A malformed section that is reached gives none. -/
def fits? : List PatternSection → Octets → Option Bool
  | [], name => some name.isEmpty
  | s :: rest, name =>
    match s.parts with
    | none => none
    | some parts =>
      if s.star && parts.isEmpty then some (!name.contains 0x2f)
      else
        let starts := if s.star then afterStar name else [name]
        let left := starts.findSome? fun start =>
          (Wildcard.takeAll? parts start).filter fun left => left.isEmpty || !rest.isEmpty
        match left with
        | some left => fits? rest left
        | none => some false

end PatternSection

/-- Whether a path has characters that mean something in a pattern. -/
def hasWildcard (path : String) : Bool :=
  path.toList.any fun c => c == '*' || c == '?' || c == '[' || c == '\\'

/-- The directory before the last name of a pattern: the present one if there is none, and without its
slash otherwise. -/
def patternDirectory (directory : String) : String :=
  if directory == "" then "."
  else if directory == "/" then directory
  else String.ofList directory.toList.dropLast

namespace Store

/-- The paths of the names in a directory that fit a pattern. A malformed pattern is only noticed if
there is a name that reaches the fault. -/
def globIn (s : Store) (directory pattern : String) : Option (List String) := do
  let sections := PatternSection.ofPattern pattern
  let names ← (s.list directory).filterM fun n => PatternSection.fits? sections (Octets.ofString n)
  return names.map fun n => Path.join [directory, n]

/-- The paths that fit a pattern, going up through its directories, none if a fault in the pattern or
one of its directories is noticed. -/
def globFrom (s : Store) : (fuel : Nat) → (pattern : String) → Option (List String)
  | 0, _ => none
  | fuel + 1, pattern => do
    let _ ← PatternSection.fits? (PatternSection.ofPattern pattern) []
    if hasWildcard pattern then
      let (directory, name) := Path.split pattern
      let directory := patternDirectory directory
      if hasWildcard directory then
        let found ← (← s.globFrom fuel directory).mapM fun d => s.globIn d name
        return found.flatten
      else s.globIn directory name
    else match s.find pattern with
      | .ok _ => some [pattern]
      | .error _ => some []

/-- The paths that fit a pattern, in order, none if the pattern is malformed. -/
def glob (s : Store) (pattern : String) : Option (List String) :=
  s.globFrom (pattern.length + 1) pattern

end Store

end Bindery
