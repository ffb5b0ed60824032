import Bindery.Text.Quoted

/-!
# JSON values

A JSON value and its shortest text. Objects keep the order of their members, and numbers keep their
digits.

## Main definitions

- `Json` — a JSON value
- `Json.quoteChar`, `Json.quote` — a text as a JSON string
- `Json.text` — the text of a value without white space
-/

namespace Bindery

/-- A JSON value. -/
inductive Json where
  | null
  | bool (value : Bool)
  | number (digits : String)
  | string (value : String)
  | array (items : List Json)
  | object (members : List (String × Json))
  deriving Repr, Inhabited

namespace Json

/-- The characters that stand for `c` in a JSON string: only the quote, the backslash and control
characters are escaped. -/
def quoteChar (c : Char) : List Char :=
  match c.toNat with
  | 0x22 => ['\\', '"']
  | 0x5c => ['\\', '\\']
  | 0x08 => ['\\', 'b']
  | 0x09 => ['\\', 't']
  | 0x0a => ['\\', 'n']
  | 0x0c => ['\\', 'f']
  | 0x0d => ['\\', 'r']
  | n => if n < 0x20 then '\\' :: 'u' :: hexDigits 4 n else [c]

/-- A text as a JSON string. -/
def quote (s : String) : String :=
  String.ofList ('"' :: s.toList.flatMap quoteChar ++ ['"'])

mutual

/-- The text of a value without white space. -/
def text : Json → String
  | null => "null"
  | bool true => "true"
  | bool false => "false"
  | number digits => digits
  | string s => quote s
  | array items => "[" ++ String.intercalate "," (itemTexts items) ++ "]"
  | object members => "\x7b" ++ String.intercalate "," (memberTexts members) ++ "\x7d"

/-- The texts of the items of an array. -/
def itemTexts : List Json → List String
  | [] => []
  | v :: rest => v.text :: itemTexts rest

/-- The texts of the members of an object. -/
def memberTexts : List (String × Json) → List String
  | [] => []
  | (name, v) :: rest => (quote name ++ ":" ++ v.text) :: memberTexts rest

end

end Json

end Bindery
