/-!
# Binary floating point numbers

A floating point number is a sign and a whole number times a power of two. Rounding a quotient to a
format is done in exact arithmetic, to the nearest number of the format and to an even one in a tie.

## Main definitions

- `FloatFormat` — the precision and the exponents of a format, with `FloatFormat.single` and
  `FloatFormat.double`
- `Binary` — a number of some format, an infinity or no number
- `Binary.ofQuotient` — the number nearest to a quotient
- `Binary.ofDecimal` — the number nearest to a decimal number
-/

namespace Bindery

/-- The precision and the exponents of a floating point format. -/
structure FloatFormat where
  /-- How many binary digits a number has. -/
  precision : Nat
  /-- The least exponent of a number's last digit. -/
  least : Int
  /-- The greatest exponent of a number's last digit. -/
  greatest : Int
  deriving DecidableEq, Repr

namespace FloatFormat

/-- The format of 32 bits. -/
def single : FloatFormat := ⟨24, -149, 104⟩

/-- The format of 64 bits. -/
def double : FloatFormat := ⟨53, -1074, 971⟩

end FloatFormat

/-- A floating point number: `mantissa` times two to the `exponent`, with a sign. -/
inductive Binary where
  | nan
  | infinite (negative : Bool)
  | finite (negative : Bool) (mantissa : Nat) (exponent : Int)
  deriving DecidableEq, Repr, Inhabited

namespace Binary

/-- Zero. -/
def zero : Binary :=
  finite false 0 0

/-- Whether the number is zero, with either sign. -/
def isZero : Binary → Bool
  | finite _ 0 _ => true
  | _ => false

/-- Whether the number is neither infinite nor no number. -/
def isFinite : Binary → Bool
  | finite _ _ _ => true
  | _ => false

/-- The numerator and denominator of a quotient times two to the minus `k`. -/
def scale (num den : Nat) (k : Int) : Nat × Nat :=
  if 0 ≤ k then (num, den * Nat.pow 2 k.toNat) else (num * Nat.pow 2 (-k).toNat, den)

/-- The quotient rounded to the nearest whole number, to an even one in a tie. -/
def roundDiv (num den : Nat) : Nat :=
  let q := num / den
  let twice := 2 * (num % den)
  if twice < den then q
  else if den < twice then q + 1
  else if q % 2 == 0 then q else q + 1

/-- The exponent of the greatest power of two that is at most the quotient. -/
def floorLog2 (num den : Nat) : Int :=
  let guess : Int := (Nat.log2 num : Int) - Nat.log2 den
  let (n, d) := scale num den guess
  if n < d then guess - 1 else guess

/-- The number of a format nearest to a quotient, infinite if the quotient is too large. -/
def ofQuotient (f : FloatFormat) (negative : Bool) (num den : Nat) : Binary :=
  if num == 0 then finite negative 0 0
  else
    let k := max (floorLog2 num den - f.precision + 1) f.least
    let (n, d) := scale num den k
    let m := roundDiv n d
    let (m, k) := if m == Nat.pow 2 f.precision then (m / 2, k + 1) else (m, k)
    if f.greatest < k then infinite negative
    else if m == 0 then finite negative 0 0
    else finite negative m k

/-- The number of a format nearest to `digits` times ten to the `exponent`. Exponents far outside of
every format are not computed with. -/
def ofDecimal (f : FloatFormat) (negative : Bool) (digits : Nat) (exponent : Int) : Binary :=
  let size : Int := (Nat.toDigits 10 digits).length + exponent
  if digits == 0 then finite negative 0 0
  else if 400 < size then infinite negative
  else if size < -400 then finite negative 0 0
  else if 0 ≤ exponent then ofQuotient f negative (digits * Nat.pow 10 exponent.toNat) 1
  else ofQuotient f negative digits (Nat.pow 10 (-exponent).toNat)

/-- The number in another format. -/
def round (f : FloatFormat) : Binary → Binary
  | finite negative m k =>
    if 0 ≤ k then ofQuotient f negative (m * Nat.pow 2 k.toNat) 1
    else ofQuotient f negative m (Nat.pow 2 (-k).toNat)
  | x => x

end Binary

end Bindery
