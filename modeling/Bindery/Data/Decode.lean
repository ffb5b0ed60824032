import Bindery.Data.Encode
import Bindery.Json.Decode
import Bindery.Number.Read
import Bindery.Schema.Decoding

/-!
# Values from JSON

JSON is decoded over a former value, which says what type is wanted. Records, maps and what pointers
point to keep what the JSON does not mention; lists are made anew.

## Main definitions

- `Value.decodeAny` — the value of JSON when nothing is said about its type
- `Value.decode` — decodes JSON over a former value
- `Value.size` — the measure that bounds how deep decoding goes
-/

namespace Bindery

open Json (Scan Fault Pointer Decoder ArrayEnd ObjectEnd misfit malformed unfit checkForm decodeItems)

/-- The floating point number of a type that JSON digits stand for. -/
def decodeFloat (single : Bool) (p : Pointer) (digits : String) : Except Fault Value :=
  match Binary.read? (.ofSingle single) digits.toList with
  | some x => if x.isFinite then .ok (.float single x) else misfit p
  | none => misfit p

namespace Value

/-- A value as the content of an interface that holds anything. -/
def asAny (v : Value) : Value :=
  interface .any v

mutual

/-- The value of JSON when nothing is said about its type: numbers are floating point numbers, arrays
are lists of anything, objects are maps from texts to anything. -/
def decodeAny (p : Pointer) : Scan → Except Fault Value
  | .null => .ok (nilInterface .any)
  | .bool b => .ok (asAny (bool b))
  | .number digits => (decodeFloat false p digits).map asAny
  | .string s _ => .ok (asAny (text .plain (Octets.ofString s)))
  | .array items stop _ =>
    (decodeAnyItems p stop 0 items).map fun vs => asAny (slice (.interface .any) vs)
  | .object members stop _ =>
    (decodeAnyMembers p stop members).map fun es => asAny (map (.text .plain) (.interface .any) es)
  | .broken => malformed p

/-- The items of an array from the given number on. -/
def decodeAnyItems (p : Pointer) (stop : ArrayEnd) (index : Nat) :
    List Scan → Except Fault (List Value)
  | [] =>
    match Scan.faultInItems false stop index [] with
    | some steps => malformed (p ++ steps)
    | none => .ok []
  | v :: rest => do
    let first ← decodeAny (p.item index) v
    let more ← decodeAnyItems p stop (index + 1) rest
    return first :: more

/-- The members of an object. -/
def decodeAnyMembers (p : Pointer) (stop : ObjectEnd) :
    List (String × Scan) → Except Fault (List (Value × Value))
  | [] =>
    match Scan.faultInMembers false stop [] with
    | some steps => malformed (p ++ steps)
    | none => .ok []
  | (name, v) :: rest => do
    let first ← decodeAny (p.member name) v
    let more ← decodeAnyMembers p stop rest
    return (text .plain (Octets.ofString name), first) :: more

end

/-- The whole number of a text without zeros before it. A sign is only allowed if the type has
negative numbers. -/
def plainNumber? (kind : IntegerKind) (cs : List Char) : Option Int := do
  let digits := match cs with
    | '-' :: digits => digits
    | digits => digits
  let n ← wholeNumber? cs
  if digits.head? == some '0' && digits.length != 1 || !kind.isSigned && cs.head? == some '-' then none
  else if kind.holds n then some n
  else none

/-- The text of a number, which is a string if the style asks for it. -/
def numberText? (style : JsonStyle) : Scan → Option String
  | .number digits => if style.stringNumbers then none else some digits
  | .string s _ => if style.stringNumbers then some s else none
  | _ => none

/-- A result for a value that has no form but the usual one. -/
def unformattedAt {α : Type} (style : JsonStyle) (p : Pointer) (result : Except Fault α) :
    Except Fault α :=
  if style.format.isSome then misfit p else result

/-- A whole number of a type. It has neither a fraction nor an exponent, and no sign if the type has
none. -/
def decodeInteger (kind : IntegerKind) (style : JsonStyle) (p : Pointer) (v : Scan) :
    Except Fault Value := do
  checkForm true p v
  match v with
  | .null => return integer kind 0
  | v =>
    match (numberText? style v).bind fun digits => plainNumber? kind digits.toList with
    | some n => return integer kind n
    | none => misfit p

/-- Whether a text is a number of JSON. -/
def isJsonNumber (s : String) : Bool :=
  match Scan.readNumber s.toList with
  | some (_, rest) => rest.isEmpty
  | none => false

/-- The floating point number that a name of one stands for. -/
def specialNumber? : String → Option Binary
  | "NaN" => some .nan
  | "Infinity" => some (.infinite false)
  | "-Infinity" => some (.infinite true)
  | _ => none

/-- A floating point number of a type. One that JSON does not have is read by its name if the style asks
for it. -/
def decodeReal (single : Bool) (style : JsonStyle) (p : Pointer) (v : Scan) : Except Fault Value := do
  if style.format.any (· != "nonfinite") then misfit p
  else
    checkForm true p v
    let special := match v with
      | .string s _ => if style.format.isSome then specialNumber? s else none
      | _ => none
    match v, special with
    | .null, _ => return float single .zero
    | _, some x => return float single x
    | v, none =>
      match numberText? style v with
      | some digits => if isJsonNumber digits then decodeFloat single p digits else misfit p
      | none => misfit p

/-- A point in time. -/
def decodeTime (style : JsonStyle) (p : Pointer) (v : Scan) : Except Fault Value := do
  let format : Option TimeFormat := match style.format with
    | none => some (.standard true)
    | some name => TimeFormat.ofName? isWordChar name
  match format with
  | none => misfit p
  | some f =>
    checkForm true p v
    let text := match v with
      | .string s _ => if f.isNumeric && !style.stringNumbers then none else some s
      | .number digits => if f.isNumeric && !style.stringNumbers then some digits else none
      | _ => none
    match v with
    | .null => return time .zero
    | _ => (text.bind fun s => f.read? s.toList).elim (misfit p) fun t => .ok (time t)

/-- The octets that a string stands for, null being none. -/
def decodeOctets (f : OctetFormat) (p : Pointer) (v : Scan) : Except Fault (Option (List Value)) := do
  checkForm true p v
  match v with
  | .null => return none
  | .string s _ =>
    match f.decode? s.toList with
    | some ns => return some (ns.map fun n => integer .uint8 (Int.ofNat n))
    | none => misfit p
  | _ => misfit p

/-- The key of a type that the name of a member stands for. -/
def decodeKey (p : Pointer) (name : String) : DataType → Except Fault Value
  | .text kind => .ok (text kind (Octets.ofString name))
  | .interface .any => .ok (asAny (text .plain (Octets.ofString name)))
  | .integer kind => (plainNumber? kind name.toList).elim (misfit p) fun n => .ok (integer kind n)
  | .float single => if isJsonNumber name then decodeFloat single p name else misfit p
  | .time => (Time.parse name.toList).elim (misfit p) fun t => .ok (time t)
  | .pointer target => (decodeKey p name target).map pointer
  | _ => misfit p

/-- Whether two keys are the same. -/
def sameKey : Value → Value → Bool
  | text _ a, text _ b => a == b
  | integer _ a, integer _ b => a == b
  | float _ a, float _ b => a == b || a.isZero && b.isZero
  | time a, time b => a == b
  | interface _ (text _ a), interface _ (text _ b) => a == b
  | _, _ => false

/-- The entry of a key. -/
def lookup (key : Value) (entries : List (Value × Value)) : Option Value :=
  (entries.find? fun e => sameKey key e.1).map (·.2)

/-- The entries with a new value for a key, which comes last if it is new. -/
def store (key value : Value) (entries : List (Value × Value)) : List (Value × Value) :=
  if entries.any fun e => sameKey key e.1 then
    entries.map fun e => if sameKey key e.1 then (e.1, value) else e
  else entries ++ [(key, value)]

/-- Decodes the members of an object into the entries of a map. Two names may not stand for the same
key. -/
def decodeEntries (d : Decoder Value) (key item : DataType) (p : Pointer) (stop : ObjectEnd) :
    (seen : List Value) → List (Value × Value) → List (String × Scan) →
    Except Fault (List (Value × Value))
  | _, entries, [] =>
    match Scan.faultInMembers false stop [] with
    | some steps => malformed (p ++ steps)
    | none => .ok entries
  | seen, entries, (name, v) :: rest => do
    let k ← decodeKey (p.member name) name key
    if seen.any (sameKey k) then malformed (p.member name)
    else
      let value ← d (p.member name) ((lookup k entries).getD item.zero) v
      decodeEntries d key item p stop (k :: seen) (store k value entries) rest

/-- Decodes an array into exactly as many items as there are. -/
def decodeArray (d : Decoder Value) (item : DataType) (length : Nat) (p : Pointer) (stop : ArrayEnd)
    (items : List Scan) : Except Fault (List Value) := do
  let values ← decodeItems d item.zero p .closed 0 (items.take length)
  match Scan.faultInItems false stop (min length items.length) (items.drop length) with
  | some steps => malformed (p ++ steps)
  | none => if items.length == length then return values else misfit p

/-- A JSON text of an object with one more member, none if it is no object. -/
def addRaw? (o : Octets) (name : String) (v : Scan) : Option Octets :=
  let isBlank := fun (b : UInt8) => b == 0x20 || b == 0x09 || b == 0x0a || b == 0x0d
  let member := Octets.ofString (Json.quote name ++ ":" ++ String.ofList v.rawText ++ "\x7d")
  match o.reverse.dropWhile isBlank with
  | [] => if o.isEmpty then some (0x7b :: member) else none
  | 0x7d :: rest =>
    let kept := (rest.dropWhile isBlank).reverse
    let comma : Octets := if kept.getLast?.any fun b => b == 0x2c || b == 0x7b then [] else [0x2c]
    some (kept ++ comma ++ member)
  | _ => none

/-- Decodes a member that no other member of a record takes into the one that keeps it. -/
def decodeRest (d : Decoder Value) (p : Pointer) (name : String) (former : Value) (v : Scan) :
    Except Fault Value := do
  let entry := fun (kind : TextKind) (item : DataType) (entries : List (Value × Value)) => do
    let key := text kind (Octets.ofString name)
    let value ← d p ((lookup key entries).getD item.zero) v
    return map (.text kind) item (store key value entries)
  match former.behind? true with
  | some (raw kept) =>
    checkForm true p v
    (addRaw? (kept.getD []) name v).elim (misfit p) fun o => .ok (former.setBehind (raw (some o)))
  | some (nilMap (.text kind) item) => return former.setBehind (← entry kind item [])
  | some (map (.text kind) item entries) => return former.setBehind (← entry kind item entries)
  | _ => misfit p

/-- Decodes the members of an object into a record. Two names may not stand for the same member. -/
def decodeSlots (d : JsonStyle → Decoder Value) (style : JsonStyle) (layout : RecordLayout) (p : Pointer)
    (stop : ObjectEnd) : (seen : List (List Nat)) → Value → List (String × Scan) → Except Fault Value
  | _, former, [] =>
    match Scan.faultInMembers false stop [] with
    | some steps => malformed (p ++ steps)
    | none => .ok former
  | seen, former, (name, v) :: rest => do
    let here := p.member name
    match layout.find? name, layout.rest with
    | some s, _ =>
      if seen.contains s.path then malformed here
      else match former.at? true s.path with
        | none => misfit here
        | some old =>
          let new ← d (s.style style) here old v
          decodeSlots d style layout p stop (s.path :: seen) (former.setAt new s.path) rest
    | none, none =>
      checkForm false here v
      decodeSlots d style layout p stop seen former rest
    | none, some path =>
      match former.at? true path with
      | none => misfit here
      | some old =>
        let new ← decodeRest (d style) here name old v
        decodeSlots d style layout p stop seen (former.setAt new path) rest

/-- Decodes JSON over a former value, at most `fuel` steps deep. -/
def decodeNested : (fuel : Nat) → JsonStyle → Decoder Value
  | 0 => fun _ p _ _ => misfit p
  | fuel + 1 => fun style p former v =>
    let same := decodeNested fuel style
    let inner := decodeNested fuel style.inner
    let slice? := fun (item : DataType) =>
      match v with
      | .null => .ok (nilSlice item)
      | .array items stop _ => (decodeItems inner item.zero p stop 0 items).map (slice item)
      | v => unfit p v
    let array? := fun (item : DataType) (former : List Value) =>
      match v with
      | .null => .ok (array item (former.map fun _ => item.zero))
      | .array items stop _ => (decodeArray inner item former.length p stop items).map (array item)
      | v => unfit p v
    let map? := fun (key item : DataType) (entries : List (Value × Value)) =>
      match v with
      | .null => .ok (nilMap key item)
      | .object members stop _ =>
        (decodeEntries inner key item p stop [] entries members).map (map key item)
      | v => unfit p v
    match former with
    | text kind _ =>
      unformattedAt style p ((Json.decodeString p "" v).map fun s => text kind (Octets.ofString s))
    | bool b => unformattedAt style p ((Json.decodeBool p b v).map bool)
    | integer kind _ => unformattedAt style p (decodeInteger kind style p v)
    | float single _ => decodeReal single style p v
    | complex | routine _ | channel _ => misfit p
    | time _ => decodeTime style p v
    | raw _ => (checkForm true p v).map fun _ => raw (some (Octets.ofString (String.ofList v.rawText)))
    | schema s =>
      unformattedAt style p ((Json.decodeRecord
        [.of "__schema" id (fun x _ => x) Schema.decode] p s v).map schema)
    | nilInterface .any => unformattedAt style p (decodeAny p v)
    | nilInterface kind =>
      unformattedAt style p (match v with
        | .null => .ok (nilInterface kind)
        | _ => misfit p)
    | interface kind content =>
      unformattedAt style p (match v with
        | .null => .ok (nilInterface kind)
        | v => (same p content v).map (interface kind))
    | nilPointer target =>
      match v with
      | .null => .ok (nilPointer target)
      | v => (same p target.zero v).map pointer
    | pointer target =>
      match v with
      | .null => .ok (nilPointer target.type)
      | v => (same p target v).map pointer
    | nilSlice (.integer .uint8) | slice (.integer .uint8) _ =>
      match octetsForm? style.format with
      | none => misfit p
      | some .numbers => slice? (.integer .uint8)
      | some (.text f) =>
        (decodeOctets f p v).map fun
          | none => nilSlice (.integer .uint8)
          | some vs => slice (.integer .uint8) vs
    | nilSlice item | slice item _ => if (asNull? style.format).isNone then misfit p else slice? item
    | array (.integer .uint8) items =>
      match octetsForm? style.format with
      | none => misfit p
      | some .numbers => array? (.integer .uint8) items
      | some (.text f) => do
        match ← decodeOctets f p v with
        | none => return array (.integer .uint8) (items.map fun _ => integer .uint8 0)
        | some vs => if vs.length == items.length then return array (.integer .uint8) vs else misfit p
    | array item former => unformattedAt style p (array? item former)
    | nilMap key item => if (asNull? style.format).isNone then misfit p else map? key item []
    | map key item entries => if (asNull? style.format).isNone then misfit p else map? key item entries
    | record members =>
      unformattedAt style p (match v with
        | .null => .ok (former.type.zero)
        | .object given stop _ =>
          match RecordLayout.of? (memberTypes members) with
          | none => misfit p
          | some layout => decodeSlots (decodeNested fuel) style layout p stop [] former given
        | v => unfit p v)

end Value

namespace DataType

mutual

/-- The number of parts of a type. -/
def size : DataType → Nat
  | pointer target => target.size + 1
  | slice item => item.size + 1
  | array item _ => item.size + 1
  | map key item => key.size + item.size + 1
  | record members => sizeMembers members + 1
  | _ => 1

/-- The number of parts of the members of a record type. -/
def sizeMembers : List (MemberLabel × DataType) → Nat
  | [] => 0
  | (_, type) :: rest => type.size + sizeMembers rest

end

end DataType

namespace Value

mutual

/-- The number of parts of a value and of the types that it names. -/
def size : Value → Nat
  | interface _ content => content.size + 1
  | nilPointer target => target.size + 1
  | pointer target => target.size + 1
  | nilSlice item => item.size + 1
  | slice item items => item.size + sizeItems items + 1
  | array item items => item.size + sizeItems items + 1
  | nilMap key item => key.size + item.size + 1
  | map key item entries => key.size + item.size + sizeEntries entries + 1
  | record members => sizeMembers members + 1
  | _ => 1

/-- The number of parts of items. -/
def sizeItems : List Value → Nat
  | [] => 0
  | v :: rest => v.size + sizeItems rest

/-- The number of parts of entries. -/
def sizeEntries : List (Value × Value) → Nat
  | [] => 0
  | (k, v) :: rest => k.size + v.size + sizeEntries rest

/-- The number of parts of members. -/
def sizeMembers : List (MemberLabel × Value) → Nat
  | [] => 0
  | (_, v) :: rest => v.size + sizeMembers rest

end

/-- Decodes JSON over a former value. Between two levels of the JSON there are no more steps than
the former value has parts. -/
def decode : Decoder Value := fun p former v =>
  decodeNested ((v.depth + 1) * (former.size + 1) + 1) {} p former v

end Value

end Bindery
