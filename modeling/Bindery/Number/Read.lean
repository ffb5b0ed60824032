import Bindery.Number.Binary

/-!
# Reading numbers

The floating point number nearest to a decimal text, and the whole number of a text of digits.

## Main definitions

- `wholeNumber?` — a text of digits with or without a minus sign
- `Binary.read?` — a decimal text with or without a sign, a fraction and an exponent
-/

namespace Bindery

/-- The number that a list of digits stands for. -/
def digitsValue (cs : List Char) : Nat :=
  cs.foldl (fun n c => n * 10 + (c.toNat - 48)) 0

/-- The whole number of a text of at least one digit, with or without a minus sign. -/
def wholeNumber? : List Char → Option Int
  | '-' :: cs => if !cs.isEmpty && cs.all Char.isDigit then some (-(digitsValue cs : Int)) else none
  | cs => if !cs.isEmpty && cs.all Char.isDigit then some (digitsValue cs : Int) else none

/-- The whole number of a text that may also have a plus sign. -/
def signedNumber? : List Char → Option Int
  | '+' :: '-' :: _ => none
  | '+' :: cs => wholeNumber? cs
  | cs => wholeNumber? cs

/-- Whether a character begins an exponent. -/
def isExponentMark (c : Char) : Bool :=
  c == 'e' || c == 'E'

/-- The number of a format nearest to a decimal text without a sign. -/
def Binary.readUnsigned? (f : FloatFormat) (negative : Bool) (cs : List Char) : Option Binary := do
  let (mantissa, mark) := cs.span (!isExponentMark ·)
  let exponent ← match mark with
    | [] => some 0
    | _ :: digits => signedNumber? digits
  let (whole, point) := mantissa.span Char.isDigit
  let fraction ← match point with
    | [] => some []
    | '.' :: digits => if digits.all Char.isDigit then some digits else none
    | _ => none
  if whole.isEmpty && fraction.isEmpty then none
  else some (ofDecimal f negative (digitsValue (whole ++ fraction)) (exponent - fraction.length))

/-- The number of a format nearest to a decimal text. -/
def Binary.read? (f : FloatFormat) : List Char → Option Binary
  | '-' :: cs => readUnsigned? f true cs
  | '+' :: cs => readUnsigned? f false cs
  | cs => readUnsigned? f false cs

end Bindery
