import Bindery.Data.Base64
import Bindery.Text.Quoted

/-!
# Octets as texts

The ways to write octets as a text: digits of base 64 with one of two last digits, digits of base 32
with one of two alphabets, or hexadecimal digits.

## Main definitions

- `OctetFormat` — a way to write octets
- `OctetFormat.ofName?` — the way that a name stands for
- `OctetFormat.encode`, `OctetFormat.decode?` — writes octets and reads them back
-/

namespace Bindery

/-- A way to write octets. -/
inductive OctetFormat where
  | base64
  | base64url
  | base32
  | base32hex
  | base16
  deriving DecidableEq, Repr

namespace OctetFormat

/-- The way that a name stands for. -/
def ofName? : String → Option OctetFormat
  | "base64" => some base64
  | "base64url" => some base64url
  | "base32" => some base32
  | "base32hex" => some base32hex
  | "base16" | "hex" => some base16
  | _ => none

/-- A digit of base 32. -/
def digit32 (hex : Bool) (n : Nat) : Char :=
  if hex then (if n < 10 then Char.ofNat (48 + n) else Char.ofNat (55 + n))
  else if n < 26 then Char.ofNat (65 + n) else Char.ofNat (24 + n)

/-- The value of a digit of base 32. -/
def value32? (hex : Bool) (c : Char) : Option Nat :=
  (List.range 32).find? fun n => digit32 hex n == c

/-- Digits of base 32 for up to five octets, filled with equal signs. -/
def group32 (hex : Bool) (octets : List Nat) : List Char :=
  let filled := octets ++ List.replicate (5 - octets.length) 0
  let n := filled.foldl (fun n o => n * 256 + o) 0
  let digits := (List.range 8).map fun i => digit32 hex (n / Nat.pow 32 (7 - i) % 32)
  let count := (octets.length * 8 + 4) / 5
  digits.take count ++ List.replicate (8 - count) '='

/-- Digits of base 32 for octets. -/
def encode32 (hex : Bool) : List Nat → List Char
  | [] => []
  | a :: b :: c :: d :: e :: rest => group32 hex [a, b, c, d, e] ++ encode32 hex rest
  | octets => group32 hex octets

/-- The octets of eight digits of base 32, of which the last ones may be equal signs if the group is
the last one. -/
def ungroup32? (hex last : Bool) (group : List Char) : Option (List Nat) := do
  let digits := group.takeWhile (· != '=')
  let count := digits.length
  let values ← digits.mapM (value32? hex)
  let closed := (group.drop count).all (· == '=') && [2, 4, 5, 7, 8].contains count
  if !closed || !last && count != 8 then none
  else
    let n := (values ++ List.replicate (8 - count) 0).foldl (fun n v => n * 32 + v) 0
    some (((List.range 5).map fun i => n / Nat.pow 256 (4 - i) % 256).take (count * 5 / 8))

/-- The octets that digits of base 32 stand for. -/
def decode32? (hex : Bool) : List Char → Option (List Nat)
  | [] => some []
  | a :: b :: c :: d :: e :: f :: g :: h :: rest => do
    let first ← ungroup32? hex rest.isEmpty [a, b, c, d, e, f, g, h]
    return first ++ (← decode32? hex rest)
  | _ => none

/-- The octets that hexadecimal digits stand for. -/
def decode16? : List Char → Option (List Nat)
  | [] => some []
  | a :: b :: rest => do
    let value := fun (c : Char) =>
      if c.isDigit then some (c.toNat - 48)
      else if 'a' ≤ c && c ≤ 'f' then some (c.toNat - 87)
      else if 'A' ≤ c && c ≤ 'F' then some (c.toNat - 55)
      else none
    return ((← value a) * 16 + (← value b)) :: (← decode16? rest)
  | _ => none

/-- Writes octets. -/
def encode (f : OctetFormat) (octets : List Nat) : List Char :=
  match f with
  | base64 => Bindery.base64 octets
  | base64url =>
    (Bindery.base64 octets).map fun c => if c == '+' then '-' else if c == '/' then '_' else c
  | base32 => encode32 false octets
  | base32hex => encode32 true octets
  | base16 => octets.flatMap (hexDigits 2)

/-- Reads octets back. -/
def decode? (f : OctetFormat) (cs : List Char) : Option (List Nat) :=
  match f with
  | base64 => unbase64? cs
  | base64url =>
    if cs.any fun c => c == '+' || c == '/' then none
    else unbase64? (cs.map fun c => if c == '-' then '+' else if c == '_' then '/' else c)
  | base32 => decode32? false cs
  | base32hex => decode32? true cs
  | base16 => decode16? cs

end OctetFormat

end Bindery
