import Bindery.Data.Time
import Bindery.Data.Type
import Bindery.Number.Shortest
import Bindery.Schema.Basic
import Bindery.Text.Octets

/-!
# Values

A value knows its type. What can be missing has a value of its own for that: no pointer, no slice, no
map, no content of an interface.

## Main definitions

- `Value` — a value
- `Value.type` — the type of a value
- `DataType.zero` — the value of a type that says nothing
- `Value.isAbsent` — whether a value is missing
- `Value.isZero`, `Value.saysNothing` — whether a value is the one that says nothing
-/

namespace Bindery

/-- A value. -/
inductive Value where
  | text (kind : TextKind) (octets : Octets)
  | bool (value : Bool)
  | integer (kind : IntegerKind) (value : Int)
  | float (single : Bool) (value : Binary)
  | complex
  | time (value : Time)
  /-- JSON that is kept as it is, or none. -/
  | raw (text : Option Octets)
  | schema (value : Schema)
  | routine (present : Bool)
  | channel (present : Bool)
  | nilInterface (kind : InterfaceKind)
  | interface (kind : InterfaceKind) (content : Value)
  | nilPointer (target : DataType)
  | pointer (target : Value)
  | nilSlice (item : DataType)
  | slice (item : DataType) (items : List Value)
  | array (item : DataType) (items : List Value)
  | nilMap (key item : DataType)
  | map (key item : DataType) (entries : List (Value × Value))
  | record (members : List (MemberLabel × Value))
  deriving Inhabited

namespace Value

mutual

/-- The type of a value. -/
def type : Value → DataType
  | text kind _ => .text kind
  | bool _ => .bool
  | integer kind _ => .integer kind
  | float single _ => .float single
  | complex => .complex
  | time _ => .time
  | raw _ => .raw
  | schema _ => .schema
  | routine _ => .routine
  | channel _ => .channel
  | nilInterface kind => .interface kind
  | interface kind _ => .interface kind
  | nilPointer target => .pointer target
  | pointer target => .pointer target.type
  | nilSlice item => .slice item
  | slice item _ => .slice item
  | array item items => .array item items.length
  | nilMap key item => .map key item
  | map key item _ => .map key item
  | record members => .record (memberTypes members)

/-- The types of the members of a record. -/
def memberTypes : List (MemberLabel × Value) → List (MemberLabel × DataType)
  | [] => []
  | (label, value) :: rest => (label, value.type) :: memberTypes rest

end

/-- A value as the content of an interface that holds anything. The content of another interface is
passed on. -/
def inInterface : Value → Value
  | nilInterface _ => nilInterface .any
  | interface _ content => interface .any content
  | v => interface .any v

/-- Whether a value stands for something that was not given. -/
def isAbsent : Value → Bool
  | raw none | nilInterface _ | nilPointer _ | nilSlice _ | nilMap _ _ => true
  | _ => false

mutual

/-- Whether a value is the one of its type that says nothing. -/
def isZero : Value → Bool
  | text _ o => o.isEmpty
  | bool b => !b
  | integer _ n => n == 0
  | float _ x => x.isZero
  | complex => true
  | time t => t == .zero
  | raw kept => kept.isNone
  | schema s => s == default
  | routine present => !present
  | channel present => !present
  | nilInterface _ | nilPointer _ | nilSlice _ | nilMap _ _ => true
  | interface _ _ | pointer _ | slice _ _ | map _ _ _ => false
  | array _ items => allZero items
  | record members => allMembersZero members

/-- Whether all items say nothing. -/
def allZero : List Value → Bool
  | [] => true
  | v :: rest => v.isZero && allZero rest

/-- Whether all members say nothing. -/
def allMembersZero : List (MemberLabel × Value) → Bool
  | [] => true
  | (_, v) :: rest => v.isZero && allMembersZero rest

end

/-- Whether a member with this value is left out if it says nothing. A point in time says nothing if it
is the first one, wherever its clock is. -/
def saysNothing : Value → Bool
  | time t | pointer (time t) => t.isFirst
  | v => v.isZero

end Value

namespace DataType

mutual

/-- The value of a type that says nothing. -/
def zero : DataType → Value
  | text kind => .text kind []
  | bool => .bool false
  | integer kind => .integer kind 0
  | float single => .float single .zero
  | complex => .complex
  | time => .time .zero
  | raw => .raw none
  | schema => .schema default
  | routine => .routine false
  | channel => .channel false
  | interface kind => .nilInterface kind
  | pointer target => .nilPointer target
  | slice item => .nilSlice item
  | array item length => .array item (List.replicate length item.zero)
  | map key item => .nilMap key item
  | record members => .record (zeroMembers members)

/-- The members of a record that say nothing. -/
def zeroMembers : List (MemberLabel × DataType) → List (MemberLabel × Value)
  | [] => []
  | (label, type) :: rest => (label, type.zero) :: zeroMembers rest

end

end DataType

end Bindery
