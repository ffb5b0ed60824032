import Bindery.Text.Octets

/-!
# Matchers

What a pattern is carried out as: a tree of comparisons with the octets of a path. A matcher either
takes a text as a whole, or finds the first place in a text where it can begin, with the lengths that it
can take there. The lengths of matchers are counted in characters and used as numbers of octets, so a
text with characters of several octets may miss a pattern that it seems to fit.

## Main definitions

- `Matcher` — a comparison
- `Matcher.width?` — how many characters a matcher takes, if that is fixed
- `Matcher.fits?` — whether a matcher takes a whole text
- `Matcher.find?` — where a matcher takes a part of a text
-/

namespace Bindery

/-- A comparison with a text. -/
inductive Matcher where
  /-- No characters. -/
  | nothing
  | text (o : Octets)
  /-- One character that is no slash. -/
  | single
  | list (negated : Bool) (chars : List Char)
  | range (negated : Bool) (lo hi : Char)
  /-- Characters without a slash. -/
  | any
  /-- Any characters. -/
  | anyPath
  | startsWith (o : Octets)
  | endsWith (o : Octets)
  /-- A beginning and an end, which may overlap. -/
  | startsAndEnds (start stop : Octets)
  /-- A beginning, and no slash after it. -/
  | startsThenAny (o : Octets)
  /-- An end, and no slash before it. -/
  | anyThenEnds (o : Octets)
  | contains (o : Octets)
  /-- At least `count` characters, or exactly so many, without a text. -/
  | run (count : Nat) (exact : Bool) (without : Octets)
  /-- Matchers of fixed width one after the other. -/
  | row (parts : List Matcher)
  | oneOf (alternatives : List Matcher)
  /-- A matcher with a text before and a text after it. -/
  | around (value : Matcher) (left right : Option Matcher)

/-- A place where a matcher can begin, and the lengths that it can take there. -/
structure Found where
  /-- The number of octets before the place. -/
  start : Nat
  /-- The lengths, counted in octets. -/
  lengths : List Nat

namespace Octets

/-- The characters of the first `fuel` steps with their places, of which the first is `start`. -/
def placesFrom : (fuel start : Nat) → Octets → List (Nat × Char)
  | 0, _, _ | _, _, [] => []
  | fuel + 1, start, b :: rest =>
    match first? (b :: rest) with
    | some (c, n) => (start, c) :: placesFrom fuel (start + n) (rest.drop (n - 1))
    | none => (start, '�') :: placesFrom fuel (start + 1) rest

/-- The characters of a text with their places, the replacement character for an octet outside of a
character. -/
def places (o : Octets) : List (Nat × Char) :=
  placesFrom o.length 0 o

/-- The places where characters end, as far as they are what they are read as. -/
def ends (o : Octets) : List Nat :=
  o.places.map fun (i, c) => i + c.utf8Size

/-- The first place of a text in a text. -/
def indexOf? (part : Octets) : Octets → Option Nat
  | [] => if part.isEmpty then some 0 else none
  | b :: rest => if part.isPrefixOf (b :: rest) then some 0 else (indexOf? part rest).map (· + 1)

/-- The last place of a text in a text. -/
def lastIndexOf? (part : Octets) (o : Octets) : Option Nat :=
  (indexOf? part.reverse o.reverse).map fun i => o.length - i - part.length

end Octets

namespace Matcher

mutual

/-- How many characters a matcher takes, if that is fixed. Alternatives are as wide as the first of
them whose width is fixed, if all after it are as wide. -/
def width? : Matcher → Option Nat
  | nothing => some 0
  | text o => some o.places.length
  | single | list _ _ | range _ _ _ => some 1
  | row parts => widthAll? parts
  | oneOf alternatives => widthAny? none alternatives
  | around value left right => do
    return (← width? value) + (← widthSide? left) + (← widthSide? right)
  | _ => none

/-- How many characters a side of a matcher takes. -/
def widthSide? : Option Matcher → Option Nat
  | none => some 0
  | some m => width? m

/-- How many characters matchers take together. -/
def widthAll? : List Matcher → Option Nat
  | [] => some 0
  | m :: ms => do return (← width? m) + (← widthAll? ms)

/-- How many characters each of several matchers takes, after those that take `known`. -/
def widthAny? (known : Option Nat) : List Matcher → Option Nat
  | [] => known
  | m :: ms =>
    match known with
    | none => widthAny? (width? m) ms
    | some n => if width? m == some n then widthAny? known ms else none

end

/-- The slash. -/
def slash : UInt8 := 0x2f

/-- The only character of a text, which is the replacement character if there is none. -/
def only? (o : Octets) : Option Char :=
  match o.places with
  | [] => some '�'
  | [(_, c)] => some c
  | _ => none

/-- The place and the length of the first character that `takes` holds of. -/
def findChar (takes : Char → Bool) (o : Octets) : Option Found :=
  (o.places.find? fun (_, c) => takes c).map fun (i, c) => ⟨i, [c.utf8Size]⟩

/-- Whether a class takes a character. -/
def listTakes (negated : Bool) (chars : List Char) (c : Char) : Bool :=
  chars.contains c != negated

/-- Whether a range takes a character. -/
def rangeTakes (negated : Bool) (lo hi c : Char) : Bool :=
  (lo ≤ c && c ≤ hi) != negated

/-- The places where characters begin, and the end of the text. -/
def starts (o : Octets) : List Nat :=
  o.places.map (·.1) ++ [o.length]

/-- The ends of parts of a text that end with `stop`, the last first. -/
def endsAt (stop : Octets) : (fuel : Nat) → Octets → List Nat
  | 0, _ => []
  | fuel + 1, o =>
    match Octets.lastIndexOf? stop o with
    | none => []
    | some i => (i + stop.length) :: endsAt stop fuel (o.take i)

/-- Both of two sorted lists of numbers, each number once. -/
def mergeLengths : (fuel : Nat) → List Nat → List Nat → List Nat
  | 0, _, _ => []
  | _, [], ys => ys
  | _, xs, [] => xs
  | fuel + 1, x :: xs, y :: ys =>
    if x == y then x :: mergeLengths fuel xs ys
    else if x < y then x :: mergeLengths fuel xs (y :: ys)
    else y :: mergeLengths fuel (x :: xs) ys

/-- The first of two places, with the lengths of both if they are the same. -/
def Found.join (a b : Option Found) : Option Found :=
  match a, b with
  | none, f | f, none => f
  | some a, some b =>
    if b.start < a.start then some b
    else if a.start < b.start then some a
    else some ⟨a.start, mergeLengths (a.lengths.length + b.lengths.length) a.lengths b.lengths⟩

/-- The lengths of a run of characters at the beginning of a text. -/
def findRun (count : Nat) (exact : Bool) (without : Octets) (o : Octets) : Option Found :=
  if o.length < count then none
  else
    let least := o.ends.drop (count - 1)
    let least := if exact then least.flatMap fun n => (0 :: o.ends.take count).filter (· == n) else least
    let free := (Octets.indexOf? without o).elim o (o.take ·)
    match least.flatMap fun n => (starts free).filter (· == n) with
    | [] => none
    | lengths => some ⟨0, lengths⟩

/-- Whether a run of characters takes a whole text. -/
def fitsRun (count : Nat) (exact : Bool) (without : Octets) (o : Octets) : Bool :=
  let n := o.places.length
  count ≤ n && (!exact || n ≤ count) && (Octets.indexOf? without o).isNone

/-- Looks for a value between `offset` and `limit` whose left side takes all before it and whose right
side takes all after it. -/
def fitsAround (find : Octets → Option (Option Found)) (left right : Octets → Option Bool) (o : Octets)
    (limit : Nat) : (fuel offset : Nat) → Option Bool
  | 0, _ => some false
  | fuel + 1, offset =>
    if limit ≤ offset then some false
    else do
      match ← find ((o.take limit).drop offset) with
      | none => return false
      | some f =>
        let place := offset + f.start
        if ← left (o.take place) then
          if ← f.lengths.reverse.anyM fun n => right (o.drop (place + n)) then return true
        let step := ((Octets.first? (o.drop place)).map (·.2)).getD 1
        fitsAround find left right o limit fuel (place + step)

/-- The first place where a row takes the beginning of what is left of a text. -/
def findRow (fits : Octets → Option Bool) (width : Nat) (o : Octets) :
    List Nat → Option (Option Found)
  | [] => some none
  | i :: rest =>
    if (o.drop i).length < width then some none
    else do if ← fits (o.drop i) then return some ⟨i, [width]⟩ else findRow fits width o rest

mutual

/-- Whether a matcher takes a whole text, none if it reads beyond the end of the text. -/
def fits? : Matcher → Octets → Option Bool
  | nothing, o => some o.isEmpty
  | text t, o => some (t == o)
  | single, o => some ((only? o).any (· != '/'))
  | list negated chars, o => some ((only? o).any (listTakes negated chars))
  | range negated lo hi, o => some ((only? o).any (rangeTakes negated lo hi))
  | any, o => some (!o.contains slash)
  | anyPath, _ => some true
  | startsWith t, o => some (t.isPrefixOf o)
  | endsWith t, o => some (t.isSuffixOf o)
  | startsAndEnds start stop, o => some (start.isPrefixOf o && stop.isSuffixOf o)
  | startsThenAny t, o => some (t.isPrefixOf o && !(o.drop t.length).contains slash)
  | anyThenEnds t, o => some (t.isSuffixOf o && !(o.take (o.length - t.length)).contains slash)
  | contains t, o => some (Octets.indexOf? t o).isSome
  | run count exact without, o => some (fitsRun count exact without o)
  | row parts, o =>
    if widthAll? parts == some o.places.length then fitsRow? parts o else some false
  | oneOf alternatives, o => fitsAny? alternatives o
  | around value left right, o =>
    let width := (width? (around value left right)).getD 0
    if o.length < width then some false
    else
      let offset := (widthSide? left).getD 0
      let limit := o.length - (widthSide? right).getD 0
      fitsAround (find? value) (fitsSide? left) (fitsSide? right) o limit (o.length + 1) offset

/-- Whether a side of a matcher takes a whole text. -/
def fitsSide? : Option Matcher → Octets → Option Bool
  | none, o => some o.isEmpty
  | some m, o => fits? m o

/-- Whether one of several matchers takes a whole text. -/
def fitsAny? : List Matcher → Octets → Option Bool
  | [], _ => some false
  | m :: ms, o => do if ← fits? m o then return true else fitsAny? ms o

/-- Whether matchers take the beginning of a text, one after the other. Each is given as many characters
as it is wide, the last of them with its first octet only, and one without a width is given all. -/
def fitsRow? : List Matcher → Octets → Option Bool
  | [], _ => some true
  | m :: ms, o =>
    let width := (width? m).getD 0
    let places := o.places.map (·.1)
    if places.length < width then some false
    else
      let last := if width == 0 then places.getLast? else places[width - 1]?
      let stop := last.getD 0 + 1
      if o.length < stop then none
      else do if ← fits? m (o.take stop) then fitsRow? ms (o.drop stop) else return false

/-- Where a matcher takes a part of a text first, none outside if it reads beyond the end of the text.
A matcher with sides is never found. -/
def find? : Matcher → Octets → Option (Option Found)
  | nothing, _ => some (some ⟨0, [0]⟩)
  | text t, o => some ((Octets.indexOf? t o).map (⟨·, [t.length]⟩))
  | single, o => some (findChar (· != '/') o)
  | list negated chars, o => some (findChar (listTakes negated chars) o)
  | range negated lo hi, o => some (findChar (rangeTakes negated lo hi) o)
  | any, o => some (some ⟨0, starts (o.takeWhile (· != slash))⟩)
  | anyPath, o => some (some ⟨0, starts o⟩)
  | startsWith t, o =>
    some ((Octets.indexOf? t o).map fun i =>
      ⟨i, t.length :: (Octets.ends (o.drop (i + t.length))).map (t.length + ·)⟩)
  | endsWith t, o => some ((Octets.indexOf? t o).map fun i => ⟨0, [i + t.length]⟩)
  | startsAndEnds start stop, o =>
    some ((Octets.indexOf? start o).bind fun i =>
      match endsAt stop (o.length + 1) (o.drop i) with
      | [] => none
      | lengths => some ⟨i, lengths.reverse⟩)
  | startsThenAny t, o =>
    some ((Octets.indexOf? t o).map fun i =>
      let free := (o.drop (i + t.length)).takeWhile (· != slash)
      ⟨i, t.length :: (Octets.ends free).map (t.length + ·)⟩)
  | anyThenEnds t, o =>
    some ((Octets.indexOf? t o).map fun i =>
      let start := ((Octets.lastIndexOf? [slash] (o.take i)).map (· + 1)).getD 0
      ⟨start, [i + t.length - start]⟩)
  | contains t, o =>
    some ((Octets.indexOf? t o).map fun i =>
      let offset := i + t.length
      ⟨0, (starts (o.drop offset)).map (offset + ·)⟩)
  | run count exact without, o => some (findRun count exact without o)
  | row parts, o =>
    let width := (widthAll? parts).getD 0
    findRow (fitsRow? parts) width o (o.places.map (·.1))
  | oneOf alternatives, o => findAny? none alternatives o
  | around _ _ _, _ => some none

/-- Where one of several matchers takes a part of a text first, after those that are found at
`known`. -/
def findAny? (known : Option Found) : List Matcher → Octets → Option (Option Found)
  | [], _ => some known
  | m :: ms, o => do findAny? (Found.join known (← find? m o)) ms o

end

end Matcher

end Bindery
