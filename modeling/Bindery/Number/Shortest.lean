import Bindery.Number.Binary

/-!
# Shortest decimal digits

The fewest decimal digits that are read back as the same floating point number, and of those the ones
nearest to it.

## Main definitions

- `Decimal` — digits and the exponent of the first one
- `Binary.shortest` — the shortest digits of a number
- `Decimal.positional`, `Decimal.scientific` — the two ways to write digits
-/

namespace Bindery

/-- A decimal number `d₁.d₂d₃…` times ten to the `exponent`. -/
structure Decimal where
  /-- The digits as a whole number. -/
  digits : Nat
  /-- How many digits there are. -/
  count : Nat
  /-- The exponent of the first digit. -/
  exponent : Int
  deriving DecidableEq, Repr

namespace Binary

/-- Whether `a / b ≤ c / d`. -/
def quotientLe (a b c d : Nat) : Bool :=
  a * d ≤ c * b

/-- The exponent of the greatest power of ten that is at most `num / den`, starting from a guess that
is at most `fuel` too small. -/
def floorLog10 (num den : Nat) : (fuel : Nat) → (guess : Int) → Int
  | 0, guess => guess
  | fuel + 1, guess =>
    let next := guess + 1
    let fits :=
      if 0 ≤ next then quotientLe (Nat.pow 10 next.toNat) 1 num den
      else quotientLe 1 (Nat.pow 10 (-next).toNat) num den
    if fits then floorLog10 num den fuel next else guess

/-- The ends of the interval of quotients that round to `m * 2 ^ k`, in units of `2 ^ (k - 2)`, and
whether the ends belong to it. -/
def interval (f : FloatFormat) (m : Nat) (k : Int) : Nat × Nat × Bool :=
  let lower := if m == Nat.pow 2 (f.precision - 1) && f.least < k then 4 * m - 1 else 4 * m - 2
  (lower, 4 * m + 2, m % 2 == 0)

/-- The shortest digits of `v = 4m` units among those with at least `n` digits, where a unit is
`num / den` and `exponent` belongs to the first digit of `v`. -/
def shortestFrom (lo v hi : Nat) (closed : Bool) (num den : Nat) (exponent : Int) :
    (fuel n : Nat) → Decimal
  | 0, n => ⟨0, n, exponent⟩
  | fuel + 1, n =>
    -- the distance of neighbouring decimals with `n` digits is ten to the `step`
    let step : Int := exponent - n + 1
    let (up, down) : Nat × Nat :=
      if 0 ≤ step then (1, Nat.pow 10 step.toNat) else (Nat.pow 10 (-step).toNat, 1)
    -- `x / scale` counts such steps in a quotient of `x` units
    let times := num * up
    let scale := den * down
    let below := v * times / scale
    let inside := fun (d : Nat) =>
      if closed then lo * times ≤ d * scale && d * scale ≤ hi * times
      else lo * times < d * scale && d * scale < hi * times
    let above := below + 1
    let gapBelow := v * times - below * scale
    let gapAbove := above * scale - v * times
    let pick :=
      if inside below && inside above then
        if gapBelow < gapAbove || (gapBelow == gapAbove && below % 2 == 0) then some below else some above
      else if inside below then some below
      else if inside above then some above
      else none
    match pick with
    | some d => if d == Nat.pow 10 n then ⟨1, 1, exponent + 1⟩ else ⟨d, n, exponent⟩
    | none => shortestFrom lo v hi closed num den exponent fuel (n + 1)

/-- The shortest digits that are read back as `m * 2 ^ k`, for a positive `m`. -/
def shortest (f : FloatFormat) (m : Nat) (k : Int) : Decimal :=
  let (lo, hi, closed) := interval f m k
  let unit := k - 2
  let (num, den) : Nat × Nat := if 0 ≤ unit then (Nat.pow 2 unit.toNat, 1) else (1, Nat.pow 2 (-unit).toNat)
  let top := floorLog2 (4 * m * num) den
  let guess := Int.fdiv (top * 30103) 100000 - 1
  let exponent := floorLog10 (4 * m * num) den 4 guess
  shortestFrom lo (4 * m) hi closed num den exponent 20 1

end Binary

namespace Decimal

/-- The digits as characters. -/
def chars (d : Decimal) : List Char :=
  let cs := Nat.toDigits 10 d.digits
  List.replicate (d.count - cs.length) '0' ++ cs

/-- The number without an exponent. -/
def positional (d : Decimal) : List Char :=
  let cs := d.chars
  if d.exponent < 0 then
    '0' :: '.' :: List.replicate ((-d.exponent).toNat - 1) '0' ++ cs
  else
    let whole := d.exponent.toNat + 1
    if cs.length ≤ whole then cs ++ List.replicate (whole - cs.length) '0'
    else cs.take whole ++ '.' :: cs.drop whole

/-- The number with an exponent that has a sign and at least `width` digits. -/
def scientific (width : Nat) (d : Decimal) : List Char :=
  let mantissa := match d.chars with
    | [] => []
    | [c] => [c]
    | c :: cs => c :: '.' :: cs
  let exponent := Nat.toDigits 10 d.exponent.natAbs
  let sign := if d.exponent < 0 then '-' else '+'
  mantissa ++ 'e' :: sign :: List.replicate (width - exponent.length) '0' ++ exponent

end Decimal

/-- How a floating point number is written. -/
structure FloatStyle where
  /-- The least exponent that is written without an exponent. -/
  least : Int
  /-- The greatest exponent that is written without an exponent. -/
  greatest : Int
  /-- The least number of digits of a written exponent. -/
  width : Nat
  deriving DecidableEq, Repr

/-- The text of a floating point number of a format: its shortest digits in a style. -/
def Binary.text (f : FloatFormat) (style : FloatStyle) : Binary → String
  | nan => "NaN"
  | infinite negative => if negative then "-Inf" else "+Inf"
  | finite negative m k =>
    let digits :=
      if m == 0 then ['0']
      else
        let d := shortest f m k
        if style.least ≤ d.exponent && d.exponent ≤ style.greatest then d.positional
        else d.scientific style.width
    String.ofList (if negative then '-' :: digits else digits)

end Bindery
