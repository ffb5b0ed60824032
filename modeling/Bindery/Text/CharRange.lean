/-!
# Ranges of characters

A character class is given as a list of ranges of code points, each with a stride, because scripts
with paired letters alternate the two cases.

## Main definitions

- `CharRange` — every `step`-th code point from `lo` to `hi`
- `CharRange.covers` — whether a list of ranges holds a character
-/

namespace Bindery

/-- Every `step`-th code point from `lo` to `hi`, both ends included. -/
structure CharRange where
  /-- The first code point. -/
  lo : Nat
  /-- The last code point. -/
  hi : Nat
  /-- The distance of neighbouring members. -/
  step : Nat
  deriving DecidableEq, Repr

namespace CharRange

/-- Whether the code point `n` is a member of the range. -/
def has (r : CharRange) (n : Nat) : Bool :=
  r.lo ≤ n && n ≤ r.hi && (n - r.lo) % r.step == 0

/-- Whether one of the ranges holds the character. -/
def covers (rs : List CharRange) (c : Char) : Bool :=
  rs.any (·.has c.toNat)

end CharRange

end Bindery
