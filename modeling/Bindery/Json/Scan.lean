import Bindery.Json.Basic
import Bindery.Json.Pointer
import Bindery.Text.Octets

/-!
# Reading JSON

A text is read as far as it is JSON. What is wrong with it is kept where it was met, so that a reader
who only looks at a part of the value, in the order of the text, meets a fault neither earlier nor
later than that.

## Main definitions

- `Json.Scan` — a value that may end in a fault
- `Json.Scan.read` — reads a text, and tells whether anything follows the value
- `Json.Scan.fault?` — the place of the fault in a value
- `Json.Scan.json?` — the value, if it has no fault
-/

namespace Bindery.Json

/-- A part of a text: from one place up to another. -/
structure Extent where
  /-- The text from the beginning of the part on. -/
  start : List Char
  /-- The text after the part. -/
  rest : List Char

/-- The characters of the part. -/
def Extent.chars (e : Extent) : List Char :=
  e.start.take (e.start.length - e.rest.length)

/-- How the items of an array end. -/
inductive ArrayEnd where
  /-- With the closing bracket. -/
  | closed
  /-- With the end of the text, or with something that cannot follow an item. -/
  | cut
  /-- With a comma or colon before the first item, or with a closing delimiter after a comma. -/
  | misplaced
  /-- With a closing brace after an item. -/
  | brace
  deriving DecidableEq, Repr

/-- How the members of an object end. -/
inductive ObjectEnd where
  /-- With the closing brace. -/
  | closed
  /-- With something that is no name or that cannot follow a member. -/
  | cut
  /-- With a name that occurs twice or that no colon follows. -/
  | cutAt (name : String)
  deriving DecidableEq, Repr

/-- A value that may end in a fault. Nothing follows a fault. -/
inductive Scan where
  | null
  | bool (value : Bool)
  | number (digits : String)
  | string (value : String) (extent : Extent)
  | array (items : List Scan) (stop : ArrayEnd) (extent : Extent)
  | object (members : List (String × Scan)) (stop : ObjectEnd) (extent : Extent)
  /-- Something that is no value. -/
  | broken

namespace Scan

/-- White space between tokens. -/
def isSpace (c : Char) : Bool :=
  c == ' ' || c == '\t' || c == '\n' || c == '\r'

/-- The text after white space. -/
def skipSpace (cs : List Char) : List Char :=
  cs.dropWhile isSpace

/-- The value of a hexadecimal digit. -/
def hexDigit? (c : Char) : Option Nat :=
  if c.isDigit then some (c.toNat - 48)
  else if 'a' ≤ c && c ≤ 'f' then some (c.toNat - 87)
  else if 'A' ≤ c && c ≤ 'F' then some (c.toNat - 55)
  else none

/-- The number of four hexadecimal digits. -/
def hex4? (a b c d : Char) : Option Nat := do
  return (((← hexDigit? a) * 16 + (← hexDigit? b)) * 16 + (← hexDigit? c)) * 16 + (← hexDigit? d)

/-- The character of a one-letter escape. -/
def escape? : Char → Option Char
  | '"' => some '"'
  | '\\' => some '\\'
  | '/' => some '/'
  | 'b' => some '\x08'
  | 'f' => some '\x0c'
  | 'n' => some '\n'
  | 'r' => some '\r'
  | 't' => some '\t'
  | _ => none

/-- Puts a character before the characters that were read after it. -/
def before (c : Char) : Option (List Char × List Char) → Option (List Char × List Char)
  | none => none
  | some (cs, rest) => some (c :: cs, rest)

/-- The characters of a string after its opening quote, and the text after its closing one. Escapes
of half a character have to come in pairs. -/
def readString : List Char → Option (List Char × List Char)
  | [] => none
  | '"' :: rest => some ([], rest)
  | '\\' :: 'u' :: a :: b :: c :: d :: '\\' :: 'u' :: e :: f :: g :: h :: rest =>
    match hex4? a b c d with
    | none => none
    | some n =>
      if 0xd800 ≤ n && n < 0xdc00 then
        match hex4? e f g h with
        | none => none
        | some m =>
          if 0xdc00 ≤ m && m < 0xe000 then
            before (Char.ofNat (0x10000 + (n - 0xd800) * 0x400 + (m - 0xdc00))) (readString rest)
          else none
      else if 0xdc00 ≤ n && n < 0xe000 then none
      else before (Char.ofNat n) (readString ('\\' :: 'u' :: e :: f :: g :: h :: rest))
  | '\\' :: 'u' :: a :: b :: c :: d :: rest =>
    match hex4? a b c d with
    | none => none
    | some n => if 0xd800 ≤ n && n < 0xe000 then none else before (Char.ofNat n) (readString rest)
  | '\\' :: e :: rest =>
    match escape? e with
    | none => none
    | some c => before c (readString rest)
  | c :: rest => if c.toNat < 0x20 || c == '\\' then none else before c (readString rest)

/-- At least one digit, and the text after the digits. -/
def readDigits (cs : List Char) : Option (List Char × List Char) :=
  match cs.span Char.isDigit with
  | ([], _) => none
  | parts => some parts

/-- The fraction of a number, if there is one. -/
def readFraction : List Char → Option (List Char × List Char)
  | '.' :: rest => before '.' (readDigits rest)
  | cs => some ([], cs)

/-- The exponent of a number, if there is one. -/
def readExponent : List Char → Option (List Char × List Char)
  | c :: rest =>
    if c == 'e' || c == 'E' then
      match rest with
      | '+' :: more => before c (before '+' (readDigits more))
      | '-' :: more => before c (before '-' (readDigits more))
      | more => before c (readDigits more)
    else some ([], c :: rest)
  | [] => some ([], [])

/-- The digits of a number without its sign, and the text after it. A zero ends the whole part. -/
def readUnsigned (cs : List Char) : Option (List Char × List Char) := do
  let (whole, rest) ← match cs with
    | '0' :: rest => some (['0'], rest)
    | cs => readDigits cs
  let (fraction, rest) ← readFraction rest
  let (exponent, rest) ← readExponent rest
  return (whole ++ fraction ++ exponent, rest)

/-- The text of a number, and the text after it. -/
def readNumber : List Char → Option (List Char × List Char)
  | '-' :: rest => before '-' (readUnsigned rest)
  | cs => readUnsigned cs

mutual

/-- Reads a value at the beginning of the text, in which arrays and objects are nested at most `levels`
deep. Returns the text after it, none after a fault. -/
def readValue : (fuel levels : Nat) → List Char → Scan × Option (List Char)
  | 0, _, _ => (.broken, none)
  | fuel + 1, levels, cs =>
    match cs, levels with
    | '"' :: rest, _ =>
      match readString rest with
      | none => (.broken, none)
      | some (s, rest) => (.string (String.ofList s) ⟨cs, rest⟩, some rest)
    | '[' :: _, 0 => (.broken, none)
    | '[' :: rest, levels + 1 =>
      let (items, stop, rest) := readItems fuel levels true rest
      (.array items stop ⟨cs, rest.getD []⟩, rest)
    | '\x7b' :: _, 0 => (.broken, none)
    | '\x7b' :: rest, levels + 1 =>
      let (members, stop, rest) := readMembers fuel levels [] true rest
      (.object members stop ⟨cs, rest.getD []⟩, rest)
    | 'n' :: 'u' :: 'l' :: 'l' :: rest, _ => (.null, some rest)
    | 't' :: 'r' :: 'u' :: 'e' :: rest, _ => (.bool true, some rest)
    | 'f' :: 'a' :: 'l' :: 's' :: 'e' :: rest, _ => (.bool false, some rest)
    | cs, _ =>
      match readNumber cs with
      | none => (.broken, none)
      | some (digits, rest) => (.number (String.ofList digits), some rest)

/-- Reads the items of an array after its opening bracket or after an item. -/
def readItems : (fuel levels : Nat) → (first : Bool) → List Char →
    List Scan × ArrayEnd × Option (List Char)
  | 0, _, _, _ => ([], .cut, none)
  | fuel + 1, levels, first, cs =>
    let due : (misplaced : Char → Bool) → List Char → List Scan × ArrayEnd × Option (List Char) :=
      fun misplaced cs =>
        match cs with
        | [] => ([], .cut, none)
        | c :: _ =>
          if misplaced c then ([], .misplaced, none)
          else
            let (item, rest) := readValue fuel levels cs
            match rest with
            | none => ([item], .cut, none)
            | some rest =>
              let (items, stop, rest) := readItems fuel levels false rest
              (item :: items, stop, rest)
    match skipSpace cs with
    | ']' :: rest => ([], .closed, some rest)
    | cs =>
      if first then due (fun c => c == ',' || c == ':') cs
      else match cs with
        | ',' :: rest => due (fun c => c == ']' || c == '\x7d') (skipSpace rest)
        | '\x7d' :: _ => ([], .brace, none)
        | _ => ([], .cut, none)

/-- Reads the members of an object after its opening brace or after a member, where the names in
`seen` have occurred. -/
def readMembers : (fuel levels : Nat) → (seen : List String) → (first : Bool) → List Char →
    List (String × Scan) × ObjectEnd × Option (List Char)
  | 0, _, _, _, _ => ([], .cut, none)
  | fuel + 1, levels, seen, first, cs =>
    let due : List Char → List (String × Scan) × ObjectEnd × Option (List Char) := fun cs =>
      match cs with
      | '"' :: rest =>
        match readString rest with
        | none => ([], .cut, none)
        | some (name, rest) =>
          let name := String.ofList name
          if seen.contains name then ([], .cutAt name, none)
          else match skipSpace rest with
            | ':' :: rest =>
              let (value, rest) := readValue fuel levels (skipSpace rest)
              match rest with
              | none => ([(name, value)], .cut, none)
              | some rest =>
                let (members, stop, rest) := readMembers fuel levels (name :: seen) false rest
                ((name, value) :: members, stop, rest)
            | _ => ([], .cutAt name, none)
      | _ => ([], .cut, none)
    match skipSpace cs with
    | '\x7d' :: rest => ([], .closed, some rest)
    | cs =>
      if first then due cs
      else match cs with
        | ',' :: rest => due (skipSpace rest)
        | _ => ([], .cut, none)

end

/-- Arrays and objects may be nested so deep. -/
def levelLimit : Nat := 10000

/-- Reads a text: its value, and whether anything but white space follows. -/
def read (cs : List Char) : Scan × Bool :=
  let (value, rest) := readValue (cs.length + 1) levelLimit (skipSpace cs)
  (value, rest.any fun rest => !(skipSpace rest).isEmpty)

mutual

/-- The place of the fault in a value, with the way to it from the value. Whether a delimiter that
has no place in an array is a fault of the array or of the item that is due there depends on whether
the value is read as a whole. -/
def fault? (whole : Bool) : Scan → Option Pointer
  | broken => some []
  | array items stop _ => faultInItems whole stop 0 items
  | object members stop _ => faultInMembers whole stop members
  | _ => none

/-- The place of the fault in the items of an array from the given number on. -/
def faultInItems (whole : Bool) (stop : ArrayEnd) (index : Nat) : List Scan → Option Pointer
  | [] =>
    match stop with
    | .closed => none
    | .cut => some []
    | .misplaced => if whole then some [toString index] else some []
    | .brace => if whole then some [] else some [toString index]
  | item :: rest =>
    match item.fault? whole with
    | some p => some (toString index :: p)
    | none => faultInItems whole stop (index + 1) rest

/-- The place of the fault in the members of an object. -/
def faultInMembers (whole : Bool) (stop : ObjectEnd) : List (String × Scan) → Option Pointer
  | [] =>
    match stop with
    | .closed => none
    | .cut => some []
    | .cutAt name => some [name]
  | (name, value) :: rest =>
    match value.fault? whole with
    | some p => some (name :: p)
    | none => faultInMembers whole stop rest

end

mutual

/-- The value, if it has no fault. -/
def json? : Scan → Option Json
  | null => some .null
  | bool b => some (.bool b)
  | number digits => some (.number digits)
  | string s _ => some (.string s)
  | array items .closed _ => (itemsJson? items).map .array
  | object members .closed _ => (membersJson? members).map .object
  | _ => none

/-- The items of an array, if they have no fault. -/
def itemsJson? : List Scan → Option (List Json)
  | [] => some []
  | item :: rest => do
    let first ← item.json?
    let more ← itemsJson? rest
    return first :: more

/-- The members of an object, if they have no fault. -/
def membersJson? : List (String × Scan) → Option (List (String × Json))
  | [] => some []
  | (name, value) :: rest => do
    let first ← value.json?
    let more ← membersJson? rest
    return (name, first) :: more

end

mutual

/-- How deep values are nested in a value. -/
def depth : Scan → Nat
  | array items _ _ => itemsDepth items + 1
  | object members _ _ => membersDepth members + 1
  | _ => 0

/-- How deep values are nested in the items of an array. -/
def itemsDepth : List Scan → Nat
  | [] => 0
  | item :: rest => max item.depth (itemsDepth rest)

/-- How deep values are nested in the members of an object. -/
def membersDepth : List (String × Scan) → Nat
  | [] => 0
  | (_, value) :: rest => max value.depth (membersDepth rest)

end

/-- The text of a value as it was written. -/
def rawText : Scan → List Char
  | null => "null".toList
  | bool true => "true".toList
  | bool false => "false".toList
  | number digits => digits.toList
  | string _ e => e.chars
  | array _ _ e => e.chars
  | object _ _ e => e.chars
  | broken => []

end Scan

/-- The characters of a text for reading JSON: octets outside of a character become a control
character, which no JSON text may hold. -/
def charsOf (o : Octets) : List Char :=
  o.decode fun _ => [Char.ofNat 0]

end Bindery.Json
