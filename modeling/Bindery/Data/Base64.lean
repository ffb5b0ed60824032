/-!
# Base 64

Octets as texts of letters, digits, `+` and `/`: three octets are four digits, and equal signs fill
the last group.

## Main definitions

- `base64` — numbers below 256 as digits of base 64
- `unbase64?` — the numbers that such digits stand for
- `unbase64Start` — the numbers up to the first group that is wrong
-/

namespace Bindery

/-- A digit of base 64. -/
def base64Digit (n : Nat) : Char :=
  if n < 26 then Char.ofNat (65 + n)
  else if n < 52 then Char.ofNat (71 + n)
  else if n < 62 then Char.ofNat (n - 4)
  else if n == 62 then '+'
  else '/'

/-- The value of a digit of base 64. -/
def base64Value? (c : Char) : Option Nat :=
  if 'A' ≤ c && c ≤ 'Z' then some (c.toNat - 65)
  else if 'a' ≤ c && c ≤ 'z' then some (c.toNat - 71)
  else if '0' ≤ c && c ≤ '9' then some (c.toNat + 4)
  else if c == '+' then some 62
  else if c == '/' then some 63
  else none

/-- Numbers below 256 as digits of base 64. -/
def base64 : List Nat → List Char
  | a :: b :: c :: rest =>
    base64Digit (a / 4) :: base64Digit (a % 4 * 16 + b / 16) :: base64Digit (b % 16 * 4 + c / 64) ::
      base64Digit (c % 64) :: base64 rest
  | [a, b] => [base64Digit (a / 4), base64Digit (a % 4 * 16 + b / 16), base64Digit (b % 16 * 4), '=']
  | [a] => [base64Digit (a / 4), base64Digit (a % 4 * 16), '=', '=']
  | [] => []

/-- The numbers that digits of base 64 stand for. Bits that the last group does not need are
ignored. -/
def unbase64? : List Char → Option (List Nat)
  | [] => some []
  | [a, b, '=', '='] => do
    let a ← base64Value? a
    let b ← base64Value? b
    return [a * 4 + b / 16]
  | [a, b, c, '='] => do
    let a ← base64Value? a
    let b ← base64Value? b
    let c ← base64Value? c
    return [a * 4 + b / 16, b % 16 * 16 + c / 4]
  | a :: b :: c :: d :: rest => do
    let a ← base64Value? a
    let b ← base64Value? b
    let c ← base64Value? c
    let d ← base64Value? d
    let more ← unbase64? rest
    return (a * 4 + b / 16) :: (b % 16 * 16 + c / 4) :: (c % 4 * 64 + d) :: more
  | _ => none

/-- The numbers that digits of base 64 stand for, up to the first group that is none. -/
def unbase64Start : List Char → List Nat
  | a :: b :: c :: d :: rest =>
    match unbase64? [a, b, c, d] with
    | some ns => if d == '=' then ns else ns ++ unbase64Start rest
    | none => []
  | _ => []

end Bindery
