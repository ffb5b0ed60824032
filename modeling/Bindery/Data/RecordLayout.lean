import Bindery.Data.MemberOptions
import Bindery.Data.Value

/-!
# Records in JSON

The members of the object that a record is written as. A member of a record may itself be a record
whose members are taken into the object, and one member may keep all that no other member takes.

## Main definitions

- `Slot` — a member of the object, and where its value is in the record
- `RecordLayout` — the members of the object, and the place of what they do not take
- `RecordLayout.of?` — the layout of a record type, none if it is unfit for JSON
- `RecordLayout.find?` — the member that a name stands for
- `Value.at?`, `Value.setAt` — the value at a place of a record
-/

namespace Bindery

/-- A member of the object that a record is written as. -/
structure Slot where
  /-- The places of the members on the way to the value. -/
  path : List Nat
  /-- How the member is written. -/
  options : MemberOptions

/-- The name of a member of an object. -/
def Slot.name (s : Slot) : String :=
  s.options.name

/-- What a member of a record gives to the object. -/
inductive SlotKind where
  | none
  | slot (options : MemberOptions)
  /-- The members of a record. -/
  | nested (members : List (MemberLabel × DataType))
  /-- All that no other member takes. -/
  | rest

/-- The type that a pointer leads to, or the type itself. -/
def DataType.behind : DataType → DataType
  | pointer target => target
  | t => t

/-- Whether a type can keep what no other member takes. -/
def DataType.keepsRest : DataType → Bool
  | raw => true
  | map (text kind) _ => kind != .json && kind != .textual
  | _ => false

/-- What a member of a record gives to the object, none if it is malformed. -/
def slotKind? (label : MemberLabel) (type : DataType) : Option SlotKind :=
  match MemberOptions.parse label with
  | .ignored => some .none
  | .malformed => none
  | .options o =>
    if o.inline || o.rest then
      let bare := o == { name := o.name, inline := o.inline, rest := o.rest }
      if !bare || o.inline && o.rest then none
      else match type.behind with
        | .record members => if o.rest then none else some (.nested members)
        | t => if t.keepsRest then some .rest else none
    else some (.slot o)

/-- What the members of one record give to the object. -/
structure RecordSlots where
  /-- The members themselves. -/
  slots : List Slot := []
  /-- The records whose members are taken in. -/
  nested : List (List Nat × List (MemberLabel × DataType)) := []
  /-- The member that keeps the rest. -/
  rest : Option (List Nat) := none

/-- Adds what one member gives, none if the record is unfit. -/
def RecordSlots.add? (r : RecordSlots) (path : List Nat) : SlotKind → Option RecordSlots
  | .none => some r
  | .slot o => if r.slots.any (·.name == o.name) then none else some { r with slots := r.slots ++ [⟨path, o⟩] }
  | .nested members => some { r with nested := r.nested ++ [(path, members)] }
  | .rest => if r.rest.isSome then none else some { r with rest := some path }

/-- What the members of one record at a place give to the object. -/
def recordSlots? (path : List Nat) (members : List (MemberLabel × DataType)) : Option RecordSlots := do
  let seen := members.any fun (label, _) => label.tag != ""
  let kinds ← members.mapM fun (label, type) => slotKind? label type
  let visible := kinds.any fun
    | .none => false
    | _ => true
  if !members.isEmpty && !seen && !visible then none
  else kinds.zipIdx.foldlM (fun r (kind, i) => r.add? (path ++ [i]) kind) {}

/-- A record whose members are still to be looked at. -/
structure PendingRecord where
  /-- The place of the record. -/
  path : List Nat
  /-- The members of the record. -/
  members : List (MemberLabel × DataType)
  /-- Whether the records in it are taken in, too. -/
  opens : Bool

/-- The slots of records, level by level, and the places that keep the rest. A type of record that
occurs again does not open the records in it again. -/
def slotsFrom? : (fuel : Nat) → (seen : List String) → List PendingRecord →
    Option (List Slot × List (List Nat))
  | 0, _, _ => none
  | _ + 1, _, [] => some ([], [])
  | fuel + 1, seen, r :: queue => do
    let found ← recordSlots? r.path r.members
    let (seen, opened) := found.nested.foldl (fun (seen, opened) (path, members) =>
      let name := (DataType.record members).name
      let opened := if r.opens then opened ++ [⟨path, members, !seen.contains name⟩] else opened
      (name :: seen, opened)) (seen, ([] : List PendingRecord))
    let (slots, rests) ← slotsFrom? fuel seen (queue ++ opened)
    return (found.slots ++ slots, found.rest.toList ++ rests)

/-- Whether a slot goes before another one of the same name: it is less deep, or its name is given. -/
def Slot.leads (a b : Slot) : Bool :=
  a.path.length < b.path.length ||
    a.path.length == b.path.length && a.options.named && !b.options.named

/-- The slots without those whose name belongs to one that leads them, or to one that does not let them
lead. -/
def dominantSlots (slots : List Slot) : List Slot :=
  slots.filter fun s =>
    slots.all fun t => t.name != s.name || t.path == s.path || s.leads t

/-- The members of the object that a record is written as. -/
structure RecordLayout where
  /-- The members in the order of the levels. -/
  slots : List Slot
  /-- The place of what no member takes. -/
  rest : Option (List Nat)

mutual

/-- The number of record types in a type. -/
def DataType.records : DataType → Nat
  | .pointer target => target.records
  | .record members => recordsIn members + 1
  | _ => 0

/-- The number of record types in the members of a record. -/
def recordsIn : List (MemberLabel × DataType) → Nat
  | [] => 0
  | (_, type) :: rest => type.records + recordsIn rest

end

/-- Whether a place comes before another one. -/
def pathLe : List Nat → List Nat → Bool
  | [], _ => true
  | _ :: _, [] => false
  | a :: as, b :: bs => a < b || a == b && pathLe as bs

namespace RecordLayout

/-- The layout of a record type, none if it is unfit for JSON. -/
def of? (members : List (MemberLabel × DataType)) : Option RecordLayout := do
  let name := (DataType.record members).name
  let (slots, rests) ← slotsFrom? (recordsIn members + 3) [name] [⟨[], members, true⟩]
  let rest := match rests with
    | [path] => some path
    | a :: b :: _ => if a.length != b.length then some a else none
    | [] => none
  return ⟨dominantSlots slots, rest⟩

/-- The members in the order in which they stand in the record. -/
def inOrder (l : RecordLayout) : List Slot :=
  l.slots.mergeSort fun a b => pathLe a.path b.path

/-- The member that a name stands for: the one of that name, or the first that takes any case. -/
def find? (l : RecordLayout) (name : String) : Option Slot :=
  match l.slots.find? (·.name == name) with
  | some s => some s
  | none => l.slots.find? fun s => s.options.anyCase && foldedName s.name == foldedName name

end RecordLayout

namespace Value

/-- The value that a pointer leads to, none if it leads nowhere and nothing may be made for it. -/
def behind? (makes : Bool) : Value → Option Value
  | pointer target => some target
  | nilPointer target => if makes then some target.zero else none
  | v => some v

/-- The value at a place of a record. -/
def at? (makes : Bool) (v : Value) : List Nat → Option Value
  | [] => some v
  | i :: path =>
    match v.behind? makes with
    | some (record members) =>
      match members[i]? with
      | some (_, v) => at? makes v path
      | none => none
    | _ => none

/-- A value with a new one behind its pointer, which is made if there is none. -/
def setBehind (v new : Value) : Value :=
  match v with
  | pointer _ | nilPointer _ => pointer new
  | _ => new

/-- A value with a new one at a place of a record. -/
def setAt (v new : Value) : List Nat → Value
  | [] => new
  | i :: path =>
    match v.behind? true with
    | some (record members) =>
      v.setBehind (record (members.modify i fun (label, m) => (label, setAt m new path)))
    | _ => v

end Value

end Bindery
