import Bindery.Source.Prose.Line
import Bindery.Text.Octets

/-!
# Text inside a documentation comment

In the text of a paragraph, two back quotes become an opening quotation mark and two apostrophes a
closing one, except inside an address. A bracketed text that has a link definition is a link.

## Main definitions

- `Prose.urlLength?` — the length of the address with which a text begins
- `Prose.setQuotes` — a text with its quotation marks
- `Prose.inline` — the text of a paragraph and the link definitions that it uses
-/

namespace Bindery.Prose

/-- Whether the octet is one of the ASCII characters. -/
def isOneOf (chars : String) (b : UInt8) : Bool :=
  chars.toList.any (·.toNat == b.toNat)

/-- A letter or digit of ASCII. -/
def isAlnum (b : UInt8) : Bool :=
  (Char.ofNat b.toNat).isAlphanum

/-- Punctuation that can stand inside an address but not at its end. -/
def isPunctuation (b : UInt8) : Bool :=
  isOneOf ".,:;?!" b

/-- An octet of the host of an address. -/
def isHost (b : UInt8) : Bool :=
  isAlnum b || isOneOf "_@-.[]:" b

/-- An octet of the path of an address, punctuation apart. -/
def isPath (b : UInt8) : Bool :=
  isAlnum b || isOneOf "$'()*+&#=@~_/-[]\x7b\x7d%" b

/-- The closing bracket of an opening one. -/
def closing? (b : UInt8) : Option UInt8 :=
  if isOneOf "(" b then some 0x29
  else if isOneOf "\x7b" b then some 0x7d
  else if isOneOf "[" b then some 0x5d
  else none

/-- The end of the host that goes on at `i`, where `stop` is its end so far. -/
def hostEnd (i stop : Nat) : Octets → Nat
  | [] => stop
  | b :: rest =>
    if isHost b then hostEnd (i + 1) (if isPunctuation b then stop else i + 1) rest else stop

/-- The end of the path that goes on at `i` inside the brackets `opened`, where `stop` is its end so
far. The path ends only where all brackets are closed. -/
def pathEnd (i stop : Nat) (opened : List UInt8) : Octets → Nat
  | [] => stop
  | b :: rest =>
    if isPunctuation b then pathEnd (i + 1) stop opened rest
    else if !isPath b then stop
    else match closing? b with
      | some close => pathEnd (i + 1) stop (close :: opened) rest
      | none =>
        if isOneOf ")\x7d]" b then
          match opened with
          | [] => stop
          | close :: opened =>
            if close == b then
              pathEnd (i + 1) (if opened.isEmpty then i + 1 else stop) opened rest
            else stop
        else pathEnd (i + 1) (if opened.isEmpty then i + 1 else stop) opened rest

/-- The length of the address with which the octets begin. -/
def urlLength? (o : Octets) : Option Nat :=
  if o.length < 7 then none
  else
    match [3, 4, 5, 6].find? fun i => o.getD i 0 == 0x3a with
    | none => none
    | some i =>
      let isScheme := schemes.any fun s => Octets.ofString s == o.take i
      let isMark := (o.drop i).take 3 == Octets.ofString "://"
      let host := o.drop (i + 3)
      match host with
      | [] => none
      | b :: rest =>
        if isScheme && isMark && isHost b && !isPunctuation b then
          let stop := hostEnd (i + 4) (i + 4) rest
          some (pathEnd stop stop [] (o.drop stop))
        else none

/-- The length of the identifier with which the octets begin, looking at `fuel` characters. -/
def identLength (fuel : Nat) (first : Bool) (o : Octets) : Nat :=
  match fuel, Octets.first? o with
  | fuel + 1, some (c, n) =>
    if c == '_' || isLetter c || (!first && c.isDigit) then n + identLength fuel false (o.drop n)
    else 0
  | _, _ => 0

/-- How many back quotes stand at the beginning. -/
def backQuotes (o : Octets) : Nat :=
  (o.takeWhile (· == 0x60)).length

/-- What the octets `o` begin with where they are neither an address nor an identifier: how many
octets, and what stands for them. Three back quotes stay as they are, with as many octets after them
as there are back quotes from `2 * i + 3` of the whole on, where `o` begins at `i` of the whole. -/
def markStep (whole : Octets) (i : Nat) (o : Octets) : Nat × Octets :=
  match o with
  | 0x60 :: 0x60 :: 0x60 :: _ =>
    let n := 3 + backQuotes (whole.drop (2 * i + 3))
    (n, o.take n)
  | 0x60 :: 0x60 :: _ => (2, Octets.ofString "“")
  | 0x27 :: 0x27 :: _ => (2, Octets.ofString "”")
  | _ => (1, o.take 1)

/-- What the octets `o` begin with: how many octets, and what stands for them. Addresses and
identifiers stay as they are if `links` holds. -/
def quoteStep (links : Bool) (whole : Octets) (i : Nat) (o : Octets) : Nat × Octets :=
  if links then
    match urlLength? o with
    | some n => (n, o.take n)
    | none =>
      match identLength o.length true o with
      | 0 => markStep whole i o
      | n => (n, o.take n)
  else markStep whole i o

/-- The text `o` with its quotation marks, where `o` begins at `i` of `whole`. -/
def quotesFrom (links : Bool) (whole : Octets) : (fuel i : Nat) → Octets → Octets
  | 0, _, o => o
  | _ + 1, _, [] => []
  | fuel + 1, i, o =>
    let (n, text) := quoteStep links whole i o
    text ++ quotesFrom links whole fuel (i + n) (o.drop n)

/-- A text with its quotation marks. Addresses are left alone if `links` holds. -/
def setQuotes (links : Bool) (text : List Char) : List Char :=
  let o := Octets.ofString (String.ofList text)
  (Octets.lossy (quotesFrom links o o.length 0 o)).toList

/-- Reads on in the text of a paragraph. `before` is the text since the last link, and `inside` is
the text since an opening bracket after it, with the key under which a definition is looked up.
Returns the text with its quotation marks and the keys of the links. -/
def inlineFrom (defs : List LinkDef) (before : List Char) (inside : Option (List Char × List Char)) :
    List Char → List Char × List (List Char)
  | [] =>
    let rest := inside.elim [] fun (text, _) => '[' :: text
    (setQuotes true (before ++ rest), [])
  | c :: rest =>
    match inside with
    | none =>
      if c == '[' then inlineFrom defs before (some ([], [])) rest
      else inlineFrom defs (before ++ [c]) none rest
    | some (text, key) =>
      if c == '[' then inlineFrom defs (before ++ '[' :: text) (some ([], key)) rest
      else if c == ']' then
        if defs.any (·.text == key) then
          let (more, used) := inlineFrom defs [] none rest
          (setQuotes true before ++ '[' :: setQuotes false text ++ ']' :: more, key :: used)
        else inlineFrom defs (before ++ '[' :: text ++ [']']) none rest
      else
        let k := if c == '\n' || c == '\t' then ' ' else c
        inlineFrom defs before (some (text ++ [c], key ++ [k])) rest

/-- The text of a paragraph with its quotation marks, and the texts of the links in it. -/
def inline (defs : List LinkDef) (text : List Char) : List Char × List (List Char) :=
  inlineFrom defs [] none text

end Bindery.Prose
