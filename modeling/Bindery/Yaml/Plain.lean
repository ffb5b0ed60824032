import Bindery.Number.Read
import Bindery.Number.Shortest

/-!
# Plain scalars

A scalar without quotes is null, a truth value, a number or a text, and its characters alone decide which.

## Main definitions

- `Yaml.Plain` — what a scalar is
- `Yaml.number?` — the number that a text is
- `Yaml.Plain.ofText` — what a scalar without quotes is
-/

namespace Bindery.Yaml

/-- What a scalar is. -/
inductive Plain where
  | null
  | bool (value : Bool)
  /-- A whole number, with or without a minus sign. -/
  | integer (signed : Bool) (value : Int)
  | float (value : Binary)
  | text (value : String)
  deriving DecidableEq, Repr, Inhabited

/-- The number that digits of a base stand for. -/
def digitsOf? (base : Nat) (cs : List Char) : Option Nat :=
  if cs.isEmpty then none
  else cs.foldlM (fun n c =>
    let d := if c.isDigit then c.toNat - 48
      else if 'a' ≤ c && c ≤ 'z' then c.toNat - 87
      else if 'A' ≤ c && c ≤ 'Z' then c.toNat - 55
      else 99
    if d < base then some (n * base + d) else none) 0

/-- The number that a text is, if it is one. Underscores are ignored, a leading zero is for base
eight, and only a point makes a floating point number. -/
def number? (text : String) : Option Plain :=
  let cs := text.toList
  let points := (cs.filter (· == '.')).length
  if cs.isEmpty || cs.head? == some '_' || 1 < points then none
  else
    let negative := cs.head? == some '-'
    let unsigned := match cs with
      | '+' :: '-' :: rest => rest
      | '+' :: rest => rest
      | '-' :: rest => rest
      | cs => cs
    let digits := unsigned.filter (· != '_')
    let whole := fun (base : Nat) (cs : List Char) => do
      let n ← digitsOf? base cs
      if negative then
        if n ≤ Nat.pow 2 63 then some (Plain.integer true (-(n : Int))) else none
      else if n < Nat.pow 2 64 then some (Plain.integer false n)
      else none
    match digits with
    | '0' :: 'x' :: rest => whole 16 rest
    | '0' :: 'o' :: rest => whole 8 rest
    | '0' :: 'b' :: rest => whole 2 rest
    | digits =>
      if points == 1 then
        match Binary.readUnsigned? .double negative digits with
        | some x => if x.isFinite then some (.float x) else none
        | none => none
      else if digits.head? == some '0' && 1 < digits.length then whole 8 (digits.drop 1)
      else whole 10 digits

namespace Plain

/-- What a scalar without quotes is. -/
def ofText (s : String) : Plain :=
  if ["null", "Null", "NULL", "~"].contains s then null
  else if ["true", "True", "TRUE"].contains s then bool true
  else if ["false", "False", "FALSE"].contains s then bool false
  else if [".inf", ".Inf", ".INF"].contains s then float (.infinite false)
  else if ["-.inf", "-.Inf", "-.INF"].contains s then float (.infinite true)
  else if [".nan", ".NaN", ".NAN"].contains s then float .nan
  else (number? s).getD (text s)

/-- Whether a scalar is a text. -/
def isText : Plain → Bool
  | text _ => true
  | _ => false

/-- The name of the kind of a scalar. -/
def kindName : Plain → String
  | null => "null"
  | bool _ => "boolean"
  | integer _ _ => "int"
  | float .nan => "nan"
  | float (.infinite _) => "inf"
  | float _ => "float"
  | text _ => "string"

end Plain

end Bindery.Yaml
