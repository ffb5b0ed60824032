import Bindery.Text.Quoted

/-!
# Types of data

The types of the values that a program passes as arguments and reads answers into.

## Main definitions

- `TextKind`, `IntegerKind`, `InterfaceKind` — the variants of texts, whole numbers and interfaces
- `DataType` — a type
- `DataType.name` — the name of a type in messages
-/

namespace Bindery

/-- The types whose values are texts. -/
inductive TextKind where
  /-- Texts that are written as strings. -/
  | plain
  /-- Enum values, which write themselves. -/
  | enum
  /-- Enum values of which only the place they are stored at can write them. -/
  | storedEnum
  /-- Texts that are JSON. -/
  | json
  /-- Texts that are made when they are written. -/
  | textual
  deriving DecidableEq, Repr

/-- The name of a type of texts. -/
def TextKind.name : TextKind → String
  | plain => "string"
  | enum => "main.enum"
  | storedEnum => "main.penum"
  | json => "main.jsonraw"
  | textual => "main.textual"

/-- The types of whole numbers. -/
inductive IntegerKind where
  | int
  | int8
  | int16
  | int32
  | int64
  | uint
  | uint8
  | uint16
  | uint32
  | uint64
  | uintptr
  deriving DecidableEq, Repr

namespace IntegerKind

/-- The name of a type of whole numbers. -/
def name : IntegerKind → String
  | int => "int"
  | int8 => "int8"
  | int16 => "int16"
  | int32 => "int32"
  | int64 => "int64"
  | uint => "uint"
  | uint8 => "uint8"
  | uint16 => "uint16"
  | uint32 => "uint32"
  | uint64 => "uint64"
  | uintptr => "uintptr"

/-- How many bits a number of the type has. -/
def bits : IntegerKind → Nat
  | int8 | uint8 => 8
  | int16 | uint16 => 16
  | int32 | uint32 => 32
  | _ => 64

/-- Whether the type has negative numbers. -/
def isSigned : IntegerKind → Bool
  | int | int8 | int16 | int32 | int64 => true
  | _ => false

/-- Whether a number belongs to the type. -/
def holds (k : IntegerKind) (n : Int) : Bool :=
  if k.isSigned then -(Nat.pow 2 (k.bits - 1) : Int) ≤ n && n < Nat.pow 2 (k.bits - 1)
  else 0 ≤ n && n < Nat.pow 2 k.bits

end IntegerKind

/-- The types that hold values of several types. -/
inductive InterfaceKind where
  /-- Any value. -/
  | any
  /-- Values that can write themselves. -/
  | writer
  deriving DecidableEq, Repr

/-- The name of an interface. -/
def InterfaceKind.name : InterfaceKind → String
  | any => "interface {}"
  | writer => "graphql.Marshaler"

/-- The name of a member of a record and its tag. -/
structure MemberLabel where
  /-- The name of the member. -/
  name : String
  /-- How the member is written, empty if nothing is said about it. -/
  tag : String
  deriving DecidableEq, Repr

/-- Members whose names begin with a capital letter can be seen from outside. -/
def MemberLabel.isVisible (l : MemberLabel) : Bool :=
  match l.name.toList with
  | c :: _ => 'A' ≤ c && c ≤ 'Z'
  | [] => false

/-- A type. -/
inductive DataType where
  | text (kind : TextKind)
  | bool
  | integer (kind : IntegerKind)
  | float (single : Bool)
  | complex
  | time
  /-- JSON that is kept as it is. -/
  | raw
  /-- The answer to an introspection query. -/
  | schema
  | routine
  | channel
  | interface (kind : InterfaceKind)
  | pointer (target : DataType)
  | slice (item : DataType)
  | array (item : DataType) (length : Nat)
  | map (key item : DataType)
  | record (members : List (MemberLabel × DataType))
  deriving Repr, Inhabited

namespace DataType

/-- A member of a record in the name of the record's type. -/
def memberName (l : MemberLabel) (type : String) : String :=
  let tag := if l.tag == "" then "" else " " ++ quoted ("json:" ++ quoted l.tag)
  l.name ++ " " ++ type ++ tag

mutual

/-- The name of a type in messages. -/
def name : DataType → String
  | text kind => kind.name
  | bool => "bool"
  | integer kind => kind.name
  | float single => if single then "float32" else "float64"
  | complex => "complex128"
  | time => "time.Time"
  | raw => "jsontext.Value"
  | schema => "introspection.Query"
  | routine => "func()"
  | channel => "chan int"
  | interface kind => kind.name
  | pointer target => "*" ++ target.name
  | slice item => "[]" ++ item.name
  | array item length => "[" ++ toString length ++ "]" ++ item.name
  | map key item => "map[" ++ key.name ++ "]" ++ item.name
  | record [] => "struct \x7b\x7d"
  | record members => "struct \x7b " ++ String.intercalate "; " (memberNames members) ++ " \x7d"

/-- The members of a record in the name of its type. -/
def memberNames : List (MemberLabel × DataType) → List String
  | [] => []
  | (label, type) :: rest => memberName label type.name :: memberNames rest

end

end DataType

end Bindery
