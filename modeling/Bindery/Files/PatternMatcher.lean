import Bindery.Files.Matcher
import Bindery.Files.Pattern

/-!
# The matcher of a pattern

A pattern is carried out by a matcher that is put together in steps: alternatives lose the beginning and
the end that they share, neighbours that can be compared at once are glued together, and what is left is
arranged around its widest part. The steps do not always keep what a pattern says, and what a path fits
is what the matcher takes.

## Main definitions

- `Pattern.shared` — how many parts alternatives share at their beginning and at their end
- `Pattern.factored?` — alternatives without the parts that they share
- `Matcher.glue?`, `Matcher.glueAll` — matchers that are compared at once
- `Matcher.arrange` — one matcher from a list of them
- `Matcher.simplify` — a matcher in a simpler form
- `Pattern.matcher` — the matcher of a pattern
- `Pattern.fits?` — whether a path fits a pattern
-/

namespace Bindery

namespace Pattern

/-- The parts of a sequence. -/
def parts : Pattern → List Pattern
  | sequence ps => ps
  | _ => []

/-- Whether parts at a place are the same. -/
def sameAt (ps : List Pattern) (i : Nat) (qs : List Pattern) (j : Nat) : Bool :=
  match ps[i]?, qs[j]? with
  | some p, some q => same p q
  | _, _ => false

/-- How many parts the least of several sequences shares with the others at its beginning and at its
end, from place `i` on, where `left` and `right` are counted already and `goLeft` and `goRight` say that
the counts may grow. -/
def sharedFrom (least : List Pattern) (others : List (List Pattern)) :
    (fuel i left right : Nat) → (goLeft goRight : Bool) → Nat × Nat
  | 0, _, left, right, _, _ => (left, right)
  | fuel + 1, i, left, right, goLeft, goRight =>
    let n := least.length
    if n ≤ left + right || n ≤ i || !(goLeft || goRight) then (left, right)
    else
      let j := n - 1 - i
      let (goLeft, goRight) := others.foldl (fun (goLeft, goRight) other =>
        let goLeft := goLeft && sameAt least i other i
        let goRight := goRight && !(goLeft && j ≤ i) && sameAt least j other (j + other.length - n)
        (goLeft, goRight)) (goLeft, goRight)
      sharedFrom least others fuel (i + 1) (if goLeft then left + 1 else left)
        (if goRight then right + 1 else right) goLeft goRight

/-- The place of the first sequence with the fewest parts. -/
def leastPlace (lists : List (List Pattern)) : Nat :=
  let least := lists.foldl (fun n ps => min n ps.length) ((lists.head?.map (·.length)).getD 0)
  lists.findIdx (·.length == least)

/-- How many parts several sequences share at their beginning and at their end. -/
def shared (lists : List (List Pattern)) : Nat × Nat :=
  if lists.length ≤ 1 then (0, 0)
  else
    let i := leastPlace lists
    let least := lists[i]?.getD []
    sharedFrom least (lists.eraseIdx i) (least.length + 1) 0 0 0 true true

/-- Adds a pattern that is not yet in a list. -/
def addUnique (ps : List Pattern) (p : Pattern) : List Pattern :=
  if ps.any (same p) then ps else ps ++ [p]

/-- Whether a pattern is a sequence. -/
def isSequence : Pattern → Bool
  | sequence _ => true
  | _ => false

/-- Alternatives without the parts that they share, between these parts, none if they share none. -/
def factored? (alternatives : List Pattern) : Option (List Pattern) :=
  if !alternatives.all isSequence then none
  else
    let lists := alternatives.map parts
    match shared lists with
    | (0, 0) => none
    | (left, right) =>
      let first := lists.head?.getD []
      let rests := lists.map fun ps => (ps.take (ps.length - right)).drop left
      let choices := rests.foldl (fun found rest =>
        addUnique found (if rest.isEmpty then nothing else sequence rest)) []
      let middle := match choices with
        | [nothing] => []
        | [p] => [p]
        | ps => [oneOf ps]
      let side := fun (ps : List Pattern) => if ps.isEmpty then [] else [sequence ps]
      some (side (first.take left) ++ middle ++ side (first.drop (first.length - right)))

end Pattern

namespace Matcher

/-- A matcher in a simpler form, where a text with free text beside it is looked for at once. -/
def simplify : Matcher → Matcher
  | oneOf [m] => m
  | list false [c] => text (Octets.ofString c.toString)
  | around value left right =>
    let left := simplifySide left
    let right := simplifySide right
    match value, left, right with
    | text o, none, none => text o
    | text o, some anyPath, some anyPath => contains o
    | text o, some anyPath, none => endsWith o
    | text o, none, some anyPath => startsWith o
    | text o, none, some (endsWith stop) => startsAndEnds o stop
    | text o, some (startsWith start), none => startsAndEnds start o
    | text o, some any, none => anyThenEnds o
    | text o, none, some any => startsThenAny o
    | value, left, right => around value left right
  | m => m
where
  /-- A side of a matcher in a simpler form. -/
  simplifySide : Option Matcher → Option Matcher
    | none => none
    | some m => some (simplify m)

/-- The parts that can be glued together as a run of characters. -/
inductive RunPart where
  | one
  | any
  | anyPath
  deriving DecidableEq

/-- What a matcher adds to a run, and the characters that the run is without. -/
def runPart? : Matcher → Option (RunPart × List Char)
  | anyPath => some (.anyPath, [])
  | any => some (.any, ['/'])
  | single => some (.one, ['/'])
  | list true chars => some (.one, chars)
  | _ => none

/-- Several matchers as a run of characters. -/
def glueRun? (ms : List Matcher) : Option Matcher := do
  let parts ← ms.mapM runPart?
  let (_, without) ← parts.head?
  if !parts.all fun (_, w) => w == without then none
  else if parts.all (·.1 == .anyPath) then some anyPath
  else if parts.all (·.1 == .any) then some any
  else
    let count := parts.countP (·.1 == .one)
    some (run count (count == parts.length) (Octets.ofString (String.ofList without)))

/-- Several matchers as one, if they can be compared at once. -/
def glue? (ms : List Matcher) : Option Matcher :=
  if ms.length ≤ 1 then none
  else match glueRun? ms with
    | some m => some m
    | none => if (widthAll? ms).isSome then some (row ms) else none

/-- The best glued neighbours of a list that begin at or after those tried: those with the most
matchers, or the widest. -/
structure Glued where
  /-- The glued matcher. -/
  matcher : Matcher
  /-- The place of the first neighbour. -/
  start : Nat
  /-- The number of neighbours. -/
  count : Nat

/-- The better of two glued neighbours, where the first was found before. -/
def Glued.better (known : Option Glued) (g : Glued) : Option Glued :=
  match known with
  | none => some g
  | some k =>
    let wider := match k.matcher.width?, g.matcher.width? with
      | some a, some b => a < b
      | _, _ => false
    if wider || k.count < g.count then some g else some k

/-- The best glued neighbours in a list. -/
def bestGlued (ms : List Matcher) : Option Glued :=
  let n := ms.length
  let ranges := (List.range n).flatMap fun l => (List.range (n - l)).map fun k => (l, n - l - k)
  ranges.foldl (fun known (l, count) =>
    match glue? ((ms.drop l).take count) with
    | some m => Glued.better known ⟨m, l, count⟩
    | none => known) none

/-- A list of matchers with neighbours glued together. -/
def glueAll : (fuel : Nat) → List Matcher → List Matcher
  | 0, ms => ms
  | fuel + 1, ms =>
    match bestGlued ms with
    | none => ms
    | some g => glueAll fuel (ms.take g.start ++ g.matcher :: ms.drop (g.start + g.count))

/-- The place of the last of the widest matchers, none if no width is fixed. -/
def widestPlace? (ms : List Matcher) : Option Nat :=
  (ms.zipIdx.foldl (fun (known : Option (Nat × Nat)) (m, i) =>
    match m.width?, known with
    | some n, some (most, _) => if most ≤ n then some (n, i) else known
    | some n, none => some (n, i)
    | none, _ => known) none).map (·.2)

/-- One matcher from a list: the widest with those before it on its left and those after it on its
right. -/
def arrange : (fuel : Nat) → List Matcher → Matcher
  | 0, _ | _, [] => nothing
  | _, [m] => m
  | fuel + 1, m :: ms =>
    match glue? (m :: ms) with
    | some glued => glued
    | none =>
      match widestPlace? (m :: ms) with
      | none => around m none (some (arrange fuel ms))
      | some i =>
        let side := fun (part : List Matcher) => if part.isEmpty then none else some (arrange fuel part)
        around ((m :: ms)[i]?.getD m) (side ((m :: ms).take i)) (side ((m :: ms).drop (i + 1)))

end Matcher

namespace Pattern

/-- The matcher of a pattern. -/
def matcherFrom : (fuel : Nat) → Pattern → Matcher
  | 0, _ => .nothing
  | fuel + 1, p =>
    match p with
    | oneOf alternatives =>
      match factored? alternatives with
      | some ps => matcherFrom fuel (sequence ps)
      | none => .oneOf (alternatives.map fun q => (matcherFrom fuel q).simplify)
    | sequence [] => .nothing
    | sequence ps =>
      let ms := ps.map fun q => (matcherFrom fuel q).simplify
      (Matcher.arrange ms.length (Matcher.glueAll ms.length ms)).simplify
    | text s => .text (Octets.ofString (String.ofList s))
    | single => .single
    | any => .any
    | anyPath => .anyPath
    | list negated chars => (Matcher.list negated chars).simplify
    | range negated lo hi => .range negated lo hi
    | nothing => .nothing

/-- The matcher of a pattern. -/
def matcher (p : Pattern) : Matcher :=
  matcherFrom (3 * p.size + 3) p

/-- Whether a path fits the matcher of a pattern, none if the comparison reads beyond the end of the
path. -/
def fits? (p : Pattern) (path : String) : Option Bool :=
  p.matcher.fits? (Octets.ofString path)

end Pattern

end Bindery
