import Bindery.Text.Octets
import Bindery.Text.Printable

/-!
# Quoted literals

A text between double quotes, with the escapes of an interpreted string literal: the quote and the
backslash are escaped, printable characters stand for themselves, and the rest is written by its
one-letter escape or by its code point in hexadecimal.

## Main definitions

- `hexDigits` — a number in lower case hexadecimal, filled with zeros to a width
- `quoteChar` — the characters that stand for one character in a quoted literal
- `quoted` — the quoted literal of a text
- `quotedCharacter` — the literal of one character
- `Octets.quoted` — the quoted literal of a text of octets
-/

namespace Bindery

/-- The number in lower case hexadecimal, with leading zeros up to `width` digits. -/
def hexDigits (width n : Nat) : List Char :=
  let digits := Nat.toDigits 16 n
  List.replicate (width - digits.length) '0' ++ digits

/-- The characters that stand for `c` between the quotes of a literal. -/
def quoteChar (c : Char) : List Char :=
  if c == '"' || c == '\\' then ['\\', c]
  else if isPrintable c then [c]
  else match c.toNat with
    | 0x07 => ['\\', 'a']
    | 0x08 => ['\\', 'b']
    | 0x0c => ['\\', 'f']
    | 0x0a => ['\\', 'n']
    | 0x0d => ['\\', 'r']
    | 0x09 => ['\\', 't']
    | 0x0b => ['\\', 'v']
    | n =>
      if n < 0x20 || n == 0x7f then '\\' :: 'x' :: hexDigits 2 n
      else if n < 0x10000 then '\\' :: 'u' :: hexDigits 4 n
      else '\\' :: 'U' :: hexDigits 8 n

/-- The quoted literal of a text. -/
def quoted (s : String) : String :=
  String.ofList ('"' :: s.toList.flatMap quoteChar ++ ['"'])

/-- The literal of one character, between single quotes. -/
def quotedCharacter (c : Char) : String :=
  let shown := if c == '\'' then ['\\', c] else if c == '"' then [c] else quoteChar c
  String.ofList ('\'' :: shown ++ ['\''])

/-- The quoted literal of a text of octets. An octet outside of a character is written in
hexadecimal. -/
def Octets.quoted (o : Octets) : String :=
  let shown := o.decode fun b => '\\' :: 'x' :: hexDigits 2 b.toNat
  String.ofList ('"' :: shown ++ ['"'])

end Bindery
