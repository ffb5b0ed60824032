/-!
# Texts of octets

A text that need not be valid UTF-8 is a list of octets.

## Main definitions

- `Octets` — a list of octets
- `Octets.ofString` — the UTF-8 encoding of a string
- `Octets.string?` — the string that the octets encode, if they are valid
- `Octets.decode` — the characters of the octets, with a stand-in for each octet outside of a character
- `Octets.lossy` — the characters, with the replacement character for each such octet
-/

namespace Bindery

/-- A text that need not be valid UTF-8. -/
abbrev Octets := List UInt8

namespace Octets

/-- The UTF-8 encoding of a string. -/
def ofString (s : String) : Octets :=
  s.toUTF8.toList

/-- The string that the octets encode, if they are valid UTF-8. -/
def string? (o : Octets) : Option String :=
  String.fromUTF8? (ByteArray.mk o.toArray)

/-- Whether the octet continues a character of several octets. -/
def isTail (b : UInt8) : Bool :=
  b &&& 0xc0 == 0x80

/-- The six bits that a continuing octet adds to a code point. -/
def addTail (n : Nat) (b : UInt8) : Nat :=
  n * 64 + (b &&& 0x3f).toNat

/-- The first character of a text and how many octets it takes, or none if the text does not begin
with the shortest encoding of a character. -/
def first? : Octets → Option (Char × Nat)
  | [] => none
  | a :: rest =>
    if a < 0x80 then some (Char.ofNat a.toNat, 1)
    else
      let (count, least, start) :=
        if a &&& 0xe0 == 0xc0 then (1, 0x80, (a &&& 0x1f).toNat)
        else if a &&& 0xf0 == 0xe0 then (2, 0x800, (a &&& 0x0f).toNat)
        else if a &&& 0xf8 == 0xf0 then (3, 0x10000, (a &&& 0x07).toNat)
        else (0, 1, 0)
      let tail := (rest.take count).takeWhile isTail
      let n := tail.foldl addTail start
      if count != 0 && tail.length == count && least ≤ n && n.isValidChar then
        some (Char.ofNat n, count + 1)
      else none

/-- The characters of the first `fuel` steps. -/
def decodeSteps (stray : UInt8 → List Char) : (fuel : Nat) → Octets → List Char
  | 0, _ => []
  | _ + 1, [] => []
  | fuel + 1, a :: rest =>
    match first? (a :: rest) with
    | some (c, n) => c :: decodeSteps stray fuel (rest.drop (n - 1))
    | none => stray a ++ decodeSteps stray fuel rest

/-- The characters of the octets, with those that `stray` gives for each octet that belongs to no
character. -/
def decode (stray : UInt8 → List Char) (o : Octets) : List Char :=
  decodeSteps stray o.length o

/-- The characters of the octets, with the replacement character for each octet that belongs to no
character. -/
def lossy (o : Octets) : String :=
  String.ofList (o.decode fun _ => [Char.ofNat 0xfffd])

end Octets

end Bindery
