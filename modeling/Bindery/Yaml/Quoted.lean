import Bindery.Text.Quoted
import Bindery.Yaml.Scanner

/-!
# Scalars in quotes

A scalar in quotes may go over several lines: a line break is a blank, and of several line breaks the
first is dropped. In single quotes only the quote can be escaped, by a second one; in double quotes a
backslash begins an escape.

## Main definitions

- `Yaml.Scanner.readSingle` — a scalar in single quotes
- `Yaml.Scanner.readDouble` — a scalar in double quotes
-/

namespace Bindery.Yaml

/-- The value of a character as a hexadecimal digit, whether it is one or not. -/
def digitValue (c : Char) : Int :=
  if 'A' ≤ c && c ≤ 'F' then c.toNat - 55
  else if 'a' ≤ c && c ≤ 'f' then c.toNat - 87
  else c.toNat - 48

/-- The number of some digits. -/
def digitsNumber (cs : List Char) : Int :=
  cs.foldl (fun n c => n * 16 + digitValue c) 0

/-- The character with a number of 32 bits, the replacement character if there is none. -/
def characterOf (n : Int) : Char :=
  let code := n % 4294967296
  if code < 0xd800 || 0xdfff < code && code < 0x110000 then Char.ofNat code.toNat else '�'

/-- The character of an escape of one letter. -/
def escape? : Char → Option Char
  | '0' => some (Char.ofNat 0)
  | 'a' => some (Char.ofNat 7)
  | 'b' => some (Char.ofNat 8)
  | 't' => some '\t'
  | '\t' => some '\t'
  | 'n' => some '\n'
  | 'v' => some (Char.ofNat 11)
  | 'f' => some (Char.ofNat 12)
  | 'r' => some '\r'
  | 'e' => some (Char.ofNat 27)
  | ' ' => some ' '
  | '"' => some '"'
  | '/' => some '/'
  | '\\' => some '\\'
  | 'N' => some (Char.ofNat 0x85)
  | '_' => some (Char.ofNat 0xa0)
  | 'L' => some (Char.ofNat 0x2028)
  | 'P' => some (Char.ofNat 0x2029)
  | _ => none

/-- The character of an escape by its number, and the number of characters of the escape. The text
begins with the backslash. -/
def numberEscape (p : Place) (cs : List Char) : Except Error (Char × Nat) :=
  let number := fun (skipped count : Nat) => digitsNumber ((cs.drop skipped).take count)
  match (cs.drop 1).head? with
  | some 'x' => if cs.length < 4 then .ok ('x', 2) else .ok (characterOf (number 2 2), 4)
  | some 'u' =>
    if cs.length < 6 then fail p "not enough length for escaped UTF-16 character"
    else
      let high := number 2 4
      if high < 0xd800 || 0xdbff < high then .ok (characterOf high, 6)
      else if cs.length < 12 then fail p "not enough length for escaped UTF-16 surrogate pair"
      else if (cs.drop 6).take 2 != ['\\', 'u'] then
        fail p "found unexpected character after high surrogate for UTF-16 surrogate pair"
      else
        let low := number 8 4
        if low < 0xdc00 || 0xdfff < low then
          fail p "found unexpected low surrogate after high surrogate"
        else .ok (characterOf ((high - 0xd800) * 0x400 + (low - 0xdc00) + 0x10000), 12)
  | _ =>
    if cs.length < 10 then fail p "not enough length for escaped UTF-32 character"
    else .ok (characterOf (number 2 8), 10)

namespace Scanner

/-- The scalar after a line break, the last character first. -/
def breakQuoted (value : List Char) (afterBreak : Bool) : List Char :=
  (if afterBreak then '\n' else ' ') :: value.dropWhile (· == ' ')

/-- Passes a line break inside of quotes. -/
def breakLine (s : Scanner) (c : Char) : Except Error Scanner :=
  let s := (s.addSource c).newLine
  if startsWithSeparator s.rest then fail s.place "found unexpected document separator" else .ok s

/-- Passes a tab at the beginning of a line inside of quotes. -/
def passTab (s : Scanner) (quotes : String) : Except Error Scanner :=
  if s.place.column ≤ s.delimiter then
    fail s.place ("tab character cannot be used for indentation in " ++ quotes ++ "-quoted text")
  else .ok ((s.addSource '\t').advance 1)

/-- Reads a scalar in single quotes after the opening one. -/
def readSingle (start : Place) : (fuel : Nat) → (afterBreak : Bool) → (value : List Char) → Scanner →
    Except Error (List Char × Scanner)
  | 0, _, _, _ => fail start "could not find end character of single-quoted text"
  | fuel + 1, afterBreak, value, s => do
    match s.rest with
    | [] => fail start "could not find end character of single-quoted text"
    | c :: rest =>
      if isBreak c then
        readSingle start fuel true (breakQuoted value afterBreak) (← s.breakLine c)
      else if afterBreak && c == ' ' then
        readSingle start fuel true value ((s.addSource c).advance 1)
      else if afterBreak && c == '\t' then
        readSingle start fuel true value (← s.passTab "single")
      else if c != '\'' then
        readSingle start fuel false (c :: value) ((s.addSource c).advance 1)
      else if rest.head? == some '\'' then
        readSingle start fuel afterBreak (c :: value) (((s.addSource c).addSource c).advance 2)
      else return (value.reverse, (s.addSource c).advance 1)

/-- Reads a scalar in double quotes after the opening one. -/
def readDouble (start : Place) : (fuel : Nat) → (afterBreak : Bool) → (value : List Char) → Scanner →
    Except Error (List Char × Scanner)
  | 0, _, _, _ => fail start "could not find end character of double-quoted text"
  | fuel + 1, afterBreak, value, s => do
    match s.rest with
    | [] => fail start "could not find end character of double-quoted text"
    | c :: rest =>
      if isBreak c then
        readDouble start fuel true (breakQuoted value afterBreak) (← s.breakLine c)
      else if afterBreak && c == ' ' then
        readDouble start fuel true value ((s.addSource c).advance 1)
      else if afterBreak && c == '\t' then
        readDouble start fuel true value (← s.passTab "double")
      else if c == '\\' then
        match rest with
        | [] => readDouble start fuel false (c :: value) ((s.addSource c).advance 1)
        | e :: more =>
          let s := s.addSource c
          if isBreak e then
            let s := ((s.addSource e).advance 1).newLine
            let s := if e == '\r' && more.head? == some '\n' then (s.addSource '\n').skip 1 else s
            readDouble start fuel true value s
          else if e == 'x' || e == 'u' || e == 'U' then
            let (character, count) ← numberEscape s.place s.rest
            readDouble start fuel false (character :: value) (s.advance count)
          else match escape? e with
            | some character => readDouble start fuel false (character :: value) ((s.addSource e).advance 2)
            | none => fail (s.place.shift 1) ("found unknown escape character " ++ quotedCharacter e)
      else if c == '\t' then
        let s := s.addSource c
        let line := rest.takeWhile (!isBreak ·)
        if line.any fun d => d != ' ' && d != '\t' then
          readDouble start fuel false (c :: value) (s.advance 1)
        else readDouble start fuel afterBreak value (s.advance (1 + line.length))
      else if c != '"' then
        readDouble start fuel false (c :: value) ((s.addSource c).advance 1)
      else return (value.reverse, (s.addSource c).advance 1)

end Scanner

end Bindery.Yaml
