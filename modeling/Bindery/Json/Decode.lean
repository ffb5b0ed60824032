import Bindery.Json.Scan

/-!
# Decoding JSON

A decoder turns a scanned value into a value of another type. It looks at the parts of the value in
the order of the text and stops at the first fault or misfit. Where the value says nothing, what was
there before stays.

## Main definitions

- `Json.Decoder` — the type of decoders
- `Json.decodeString`, `Json.decodeBool` — decoders of atoms
- `Json.decodeOption`, `Json.decodeList` — null is none; items are decoded afresh
- `Json.Member`, `Json.decodeRecord` — an object by its members, the unknown ones being skipped
- `Json.decodeText` — decodes a whole text
-/

namespace Bindery.Json

/-- Decodes a value at a place over what was there before. -/
abbrev Decoder (α : Type) := Pointer → α → Scan → Except Fault α

/-- An error of form at a place. -/
def malformed {α : Type} (p : Pointer) : Except Fault α :=
  .error ⟨.form, p⟩

/-- An error of meaning at a place. -/
def misfit {α : Type} (p : Pointer) : Except Fault α :=
  .error ⟨.meaning, p⟩

/-- Reads a value to its end without using it. -/
def checkForm (whole : Bool) (p : Pointer) (v : Scan) : Except Fault Unit :=
  match v.fault? whole with
  | some steps => malformed (p ++ steps)
  | none => .ok ()

/-- The value does not fit, but is at fault if it is no value at all. -/
def unfit {α : Type} (p : Pointer) : Scan → Except Fault α
  | .broken => malformed p
  | _ => misfit p

/-- A string. The value is read to its end before it is looked at. -/
def decodeString : Decoder String := fun p _ v => do
  checkForm true p v
  match v with
  | .string s _ => return s
  | .null => return ""
  | _ => misfit p

/-- A truth value. -/
def decodeBool : Decoder Bool := fun p _ v =>
  match v with
  | .bool b => .ok b
  | .null => .ok false
  | v => unfit p v

/-- Null is none, and any other value is decoded over the former one or over the default. -/
def decodeOption {α : Type} [Inhabited α] (d : Decoder α) : Decoder (Option α) := fun p former v =>
  match v with
  | .null => .ok none
  | v => (d p (former.getD default) v).map some

/-- Decodes the items of an array from the given number on, each over the same value. -/
def decodeItems {α : Type} (d : Decoder α) (fresh : α) (p : Pointer) (stop : ArrayEnd) :
    (index : Nat) → List Scan → Except Fault (List α)
  | index, [] =>
    match Scan.faultInItems false stop index [] with
    | some steps => malformed (p ++ steps)
    | none => .ok []
  | index, v :: rest => do
    let first ← d (p.item index) fresh v
    let more ← decodeItems d fresh p stop (index + 1) rest
    return first :: more

/-- A list that may be null. Its items are decoded afresh. -/
def decodeList {α : Type} [Inhabited α] (d : Decoder α) : Decoder (Option (List α)) := fun p _ v =>
  match v with
  | .null => .ok none
  | .array items stop _ => (decodeItems d default p stop 0 items).map some
  | v => unfit p v

/-- A member of a record: its name, and how its value changes the record. -/
structure Member (α : Type) where
  /-- The name of the member. -/
  name : String
  /-- Decodes the value of the member into the record. -/
  decode : Decoder α

/-- A member that decodes one part of a record. -/
def Member.of {α β : Type} (name : String) (get : α → β) (set : β → α → α) (d : Decoder β) :
    Member α where
  name := name
  decode p former v := (d p (get former) v).map fun b => set b former

/-- Decodes the members of an object in their order. -/
def decodeMembers {α : Type} (known : List (Member α)) (p : Pointer) (stop : ObjectEnd) :
    α → List (String × Scan) → Except Fault α
  | former, [] =>
    match Scan.faultInMembers false stop [] with
    | some steps => malformed (p ++ steps)
    | none => .ok former
  | former, (name, v) :: rest => do
    let next ← match known.find? (·.name == name) with
      | some m => m.decode (p.member name) former v
      | none => (checkForm false (p.member name) v).map fun _ => former
    decodeMembers known p stop next rest

/-- A record. Null makes it the default, and members that are not there stay. -/
def decodeRecord {α : Type} [Inhabited α] (known : List (Member α)) : Decoder α := fun p former v =>
  match v with
  | .null => .ok default
  | .object members stop _ => decodeMembers known p stop former members
  | v => unfit p v

/-- Decodes a whole text, which nothing may follow. -/
def decodeText {α : Type} (d : Decoder α) (former : α) (cs : List Char) : Except Fault α := do
  let (v, more) := Scan.read cs
  let a ← d [] former v
  if more then malformed [] else return a

end Bindery.Json
