import Bindery.Text.Blank
import Bindery.Text.Printable
import Bindery.Text.Quoted

/-!
# Log lines

A line has a level, a message and attributes, each as a name, an equals sign and a value.

## Main definitions

- `LogLevel`, `LogEntry` — a level, and what is logged
- `LogEntry.line` — the line of an entry
-/

namespace Bindery

/-- How important an entry is. -/
inductive LogLevel where
  | debug
  | info
  deriving DecidableEq, Repr

/-- The name of a level. -/
def LogLevel.text : LogLevel → String
  | debug => "DEBUG"
  | info => "INFO"

/-- What is logged. -/
structure LogEntry where
  level : LogLevel
  message : String
  /-- Names with values. -/
  attributes : List (String × String)
  deriving DecidableEq, Repr

/-- Whether a character could be misread in a value without quotes. -/
def isUnclear (c : Char) : Bool :=
  if c.toNat < 128 then c.toNat ≤ 32 || c == '=' || c == '"'
  else isBlank c || !isPrintable c || c.toNat == 0xfffd

/-- Whether a value needs quotes: it is empty, or it has a character that could be misread. -/
def needsQuotes (value : String) : Bool :=
  value == "" || value.toList.any isUnclear

/-- A value, in quotes if it needs them. -/
def logValue (value : String) : String :=
  if needsQuotes value then quoted value else value

/-- The line of an entry. -/
def LogEntry.line (e : LogEntry) : String :=
  let parts := ("level", e.level.text) :: ("msg", e.message) :: e.attributes
  String.intercalate " " (parts.map fun (name, value) => logValue name ++ "=" ++ logValue value) ++ "\n"

end Bindery
