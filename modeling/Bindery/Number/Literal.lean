import Bindery.Number.Read

/-!
# Literals of floating point numbers

A number as it may be written in a program: decimal or hexadecimal, with underscores between its digits,
or the name of a number that has no digits.

## Main definitions

- `underscoresFit` — whether the underscores of a literal stand between digits
- `Binary.literal?` — the number that a literal stands for
-/

namespace Bindery

/-- Whether every underscore of a literal stands between two digits. -/
def underscoresFit (isDigit : Char → Bool) : (afterDigit afterUnderscore : Bool) → List Char → Bool
  | _, afterUnderscore, [] => !afterUnderscore
  | afterDigit, afterUnderscore, c :: rest =>
    if c == '_' then afterDigit && underscoresFit isDigit false true rest
    else if isDigit c then underscoresFit isDigit true false rest
    else !afterUnderscore && underscoresFit isDigit false false rest

/-- The value of a hexadecimal digit. -/
def hexValue? (c : Char) : Option Nat :=
  if c.isDigit then some (c.toNat - 48)
  else if 'a' ≤ c && c ≤ 'f' then some (c.toNat - 87)
  else if 'A' ≤ c && c ≤ 'F' then some (c.toNat - 55)
  else none

/-- The number of hexadecimal digits with or without a fraction, followed by a binary exponent. -/
def Binary.hexadecimal? (f : FloatFormat) (negative : Bool) (cs : List Char) : Option Binary := do
  let (mantissa, mark) := cs.span fun c => c != 'p' && c != 'P'
  let exponent ← match mark with
    | [] => none
    | _ :: digits => signedNumber? digits
  let (whole, point) := mantissa.span fun c => (hexValue? c).isSome
  let fraction ← match point with
    | [] => some []
    | '.' :: digits => if digits.all fun c => (hexValue? c).isSome then some digits else none
    | _ => none
  let digits := whole ++ fraction
  if digits.isEmpty then none
  else
    let m := digits.foldl (fun n c => n * 16 + (hexValue? c).getD 0) 0
    let k := exponent - 4 * fraction.length
    if m == 0 then some (finite negative 0 0)
    else if 5000 < k + digits.length * 4 then some (infinite negative)
    else if k + digits.length * 4 < -5000 then some (finite negative 0 0)
    else if 0 ≤ k then some (ofQuotient f negative (m * Nat.pow 2 k.toNat) 1)
    else some (ofQuotient f negative m (Nat.pow 2 (-k).toNat))

/-- The number of a literal without a sign. -/
def Binary.unsignedLiteral? (f : FloatFormat) (negative : Bool) (cs : List Char) : Option Binary :=
  let name := cs.map Char.toLower
  if name == "inf".toList || name == "infinity".toList then some (infinite negative)
  else
    let bare := cs.filter (· != '_')
    let number := match cs with
      | '0' :: x :: rest =>
        if x.toLower == 'x' then
          if underscoresFit (fun c => (hexValue? c).isSome) true false rest then
            hexadecimal? f negative (bare.drop 2)
          else none
        else if underscoresFit Char.isDigit false false cs then readUnsigned? f negative bare
        else none
      | cs => if underscoresFit Char.isDigit false false cs then readUnsigned? f negative bare else none
    number.filter isFinite

/-- The number that a literal stands for, none if it is too large. -/
def Binary.literal? (f : FloatFormat) : List Char → Option Binary
  | '-' :: cs => unsignedLiteral? f true cs
  | '+' :: cs => unsignedLiteral? f false cs
  | cs => if cs.map Char.toLower == "nan".toList then some nan else unsignedLiteral? f false cs

end Bindery
