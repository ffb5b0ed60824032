import Bindery.Query.Argument

/-!
# The parts of a value

A value is written from the values inside it: a list item by item, a record from the members that are not
left out, and a map from the entries that are there, in the order of their keys.

## Main definitions

- `MemberLabel.omitsZero` — the members that are left out if they say nothing
- `Value.inner` — the values directly inside a value
- `Value.shownMembers`, `Value.shownEntries` — the members and entries that are written, with their names
- `Value.parts` — the values that a value is written from, in the order of writing

## Main results

- `Written.all_or_first_error` — values up to the first one that cannot be written
- `Value.inner_induction` — induction over the values inside a value
- `Value.writeItems_map`, `Value.writeMembers_shown`, `Value.writeEntries_shown` — lists, records and maps
  are written part by part
- `Value.writeEntries_congr`, `Value.writeMembers_congr` — a part exchanged for one that is written alike
-/

namespace Bindery

namespace Written

/-- Items that are all written are separated by commas. -/
theorem items_ok {α : Type} (f : α → Octets) (xs : List α) :
    items (xs.map fun x => .ok (f x)) = .ok (commaSeparated (xs.map f)) := by
  have hmap : (xs.map fun x => (.ok (f x) : Written)).mapM id = .ok (xs.map f) := by
    induction xs with
    | nil => rfl
    | cons x xs ih =>
      rw [List.map_cons, List.mapM_cons, ih]
      rfl
  rw [items, hmap]
  rfl

/-- Of several values, all are written, or there is a first one that cannot be. -/
theorem all_or_first_error {α : Type} (f : α → Written) (xs : List α) :
    (∃ text : α → Octets, ∀ x ∈ xs, f x = .ok (text x)) ∨
      ∃ before x after e, xs = before ++ x :: after ∧ (∀ y ∈ before, (f y).isOk = true) ∧
        f x = .error e := by
  cases hfirst : xs.find? fun x => !(f x).isOk with
  | none =>
    refine .inl ⟨fun x => (f x).toOption.getD [], fun x hx => ?_⟩
    have hok := List.find?_eq_none.mp hfirst x hx
    cases hfx : f x with
    | ok o => simp [hfx, Except.toOption]
    | error e => simp [hfx, Except.isOk, Except.toBool] at hok
  | some x =>
    obtain ⟨hx, before, after, hsplit, hbefore⟩ := List.find?_eq_some_iff_append.mp hfirst
    cases hfx : f x with
    | ok o => simp [hfx, Except.isOk, Except.toBool] at hx
    | error e => exact .inr ⟨before, x, after, e, hsplit, by simpa using hbefore, hfx⟩

end Written

/-- Whether a member is left out if it says nothing. -/
def MemberLabel.omitsZero (label : MemberLabel) : Bool :=
  (MemberTag.parse label.tag).has "omitempty" || (MemberTag.parse label.tag).has "omitzero"

namespace Value

/-! ### The values inside a value -/

/-- The values directly inside a value. -/
def inner : Value → List Value
  | interface _ content => [content]
  | pointer target => [target]
  | slice _ items => items
  | array _ items => items
  | map _ _ entries => entries.map (·.2)
  | record members => members.map (·.2)
  | _ => []

theorem sizeOf_of_mem_inner {u v : Value} (h : u ∈ v.inner) : sizeOf u < sizeOf v := by
  cases v with
  | interface _ content | pointer content =>
    obtain rfl := List.mem_singleton.mp h
    simp only [interface.sizeOf_spec, pointer.sizeOf_spec]
    omega
  | slice _ items | array _ items =>
    have hlt : sizeOf u < sizeOf items := List.sizeOf_lt_of_mem h
    simp only [slice.sizeOf_spec, array.sizeOf_spec]
    omega
  | map _ _ entries =>
    obtain ⟨⟨key, u⟩, hmem, rfl⟩ := List.mem_map.mp h
    have hlt := List.sizeOf_lt_of_mem hmem
    simp only [Prod.mk.sizeOf_spec, map.sizeOf_spec] at hlt ⊢
    omega
  | record members =>
    obtain ⟨⟨label, u⟩, hmem, rfl⟩ := List.mem_map.mp h
    have hlt := List.sizeOf_lt_of_mem hmem
    simp only [Prod.mk.sizeOf_spec, record.sizeOf_spec] at hlt ⊢
    omega
  | _ => cases h

/-- What holds of a value if it holds of the values inside it holds of all values. -/
theorem inner_induction {P : Value → Prop} (step : ∀ v, (∀ u ∈ v.inner, P u) → P v) (v : Value) :
    P v := by
  induction hn : sizeOf v using Nat.strongRecOn generalizing v with
  | ind n ih =>
    subst hn
    exact step v fun u hu => ih (sizeOf u) (sizeOf_of_mem_inner hu) u rfl

theorem argumentName?_eq_ite (label : MemberLabel) (v : Value) :
    argumentName? label v = if v.isAbsent || (label.omitsZero && v.isZero) then none
      else label.written?.map fun w => Octets.ofString w.1 := by
  unfold argumentName?
  cases hwritten : label.written? with
  | none => simp
  | some w =>
    have htag : w.2 = MemberTag.parse label.tag := by
      unfold MemberLabel.written? at hwritten
      extract_lets tag at hwritten
      split at hwritten
      · cases hwritten
      · cases hwritten
        rfl
    simp only [htag, MemberLabel.omitsZero, Option.map_some]
    rfl

/-- The members of a record that are written, with their names. -/
def shownMembers (members : List (MemberLabel × Value)) : List (Octets × Value) :=
  members.filterMap fun m => (argumentName? m.1 m.2).map (·, m.2)

/-- The name under which an entry of a map is written, none if it is left out. -/
def entryName? : Value × Value → Option Octets
  | (text _ key, v) => if v.isAbsent then none else some key
  | _ => none

/-- The entries of a map that are written, with their keys. -/
def presentEntries (entries : List (Value × Value)) : List (Octets × Value) :=
  entries.filterMap fun e => (entryName? e).map (·, e.2)

/-- The entries of a map that are written, with their keys and in the order of them. -/
def shownEntries (entries : List (Value × Value)) : List (Octets × Value) :=
  (presentEntries entries).mergeSort fun a b => !decide (b.1 < a.1)

/-- The parts of a value that are written, in the order of writing, each with whether it is stored. -/
def parts (stored : Bool) : Value → List (Bool × Value)
  | interface _ content => [(false, content)]
  | pointer target => [(true, target)]
  | slice _ items => items.map (true, ·)
  | array _ items => items.map (stored, ·)
  | map (.text _) _ entries => (shownEntries entries).map fun f => (false, f.2)
  | record members => (shownMembers members).map fun f => (stored, f.2)
  | _ => []

theorem shownMembers_cons (m : MemberLabel × Value) (rest : List (MemberLabel × Value)) :
    shownMembers (m :: rest) = ((argumentName? m.1 m.2).map (·, m.2)).toList ++ shownMembers rest := by
  rw [shownMembers, List.filterMap_cons]
  cases argumentName? m.1 m.2 <;> rfl

theorem presentEntries_cons (e : Value × Value) (rest : List (Value × Value)) :
    presentEntries (e :: rest) = ((entryName? e).map (·, e.2)).toList ++ presentEntries rest := by
  rw [presentEntries, List.filterMap_cons]
  cases entryName? e <;> rfl

theorem mem_inner_of_mem_shownMembers {members : List (MemberLabel × Value)} {f : Octets × Value}
    (h : f ∈ shownMembers members) : f.2 ∈ (record members).inner := by
  obtain ⟨m, hm, hf⟩ := List.mem_filterMap.mp h
  obtain ⟨name, -, rfl⟩ := Option.map_eq_some_iff.mp hf
  exact List.mem_map_of_mem hm

theorem mem_inner_of_mem_shownEntries {key item : DataType} {entries : List (Value × Value)}
    {f : Octets × Value} (h : f ∈ shownEntries entries) : f.2 ∈ (map key item entries).inner := by
  obtain ⟨e, he, hf⟩ := List.mem_filterMap.mp (List.mem_mergeSort.mp h)
  obtain ⟨name, -, rfl⟩ := Option.map_eq_some_iff.mp hf
  exact List.mem_map_of_mem he

theorem mem_inner_of_mem_parts {v : Value} {stored : Bool} {p : Bool × Value}
    (h : p ∈ v.parts stored) : p.2 ∈ v.inner := by
  cases v with
  | interface | pointer =>
    obtain rfl := List.mem_singleton.mp h
    exact List.mem_singleton_self _
  | slice | array =>
    obtain ⟨u, hu, rfl⟩ := List.mem_map.mp h
    exact hu
  | record members =>
    obtain ⟨f, hf, rfl⟩ := List.mem_map.mp h
    exact mem_inner_of_mem_shownMembers hf
  | map key item entries =>
    cases key with
    | text =>
      obtain ⟨f, hf, rfl⟩ := List.mem_map.mp h
      exact mem_inner_of_mem_shownEntries hf
    | _ => cases h
  | _ => cases h

/-! ### Values are written part by part -/

theorem writeItems_map (stored : Bool) (items : List Value) :
    writeItems stored items = items.map (·.write stored) := by
  induction items with
  | nil => rfl
  | cons v rest ih => rw [writeItems, ih, List.map_cons]

theorem writeMembers_shown (stored : Bool) (members : List (MemberLabel × Value)) :
    writeMembers stored members = (shownMembers members).map fun f => (f.1, f.2.write stored) := by
  induction members with
  | nil => rfl
  | cons m rest ih =>
    obtain ⟨label, v⟩ := m
    rw [writeMembers, shownMembers_cons, ih]
    cases argumentName? label v <;> rfl

theorem writeEntries_present (entries : List (Value × Value)) :
    writeEntries entries = (presentEntries entries).map fun f => (f.1, f.2.write false) := by
  induction entries with
  | nil => rfl
  | cons e rest ih =>
    obtain ⟨key, v⟩ := e
    rw [presentEntries_cons]
    cases key with
    | text kind key =>
      rw [writeEntries, entryName?, ih]
      cases v.isAbsent <;> rfl
    | _ => exact ih

theorem writeEntries_shown (entries : List (Value × Value)) :
    (writeEntries entries).mergeSort entryLe =
      (shownEntries entries).map fun f => (f.1, f.2.write false) := by
  rw [writeEntries_present, shownEntries]
  refine (List.map_mergeSort ?_).symm
  intro a _ b _
  rfl

/-! ### Values in other values -/

/-- An entry of a map can be exchanged for one that is there whenever it is and is written alike. -/
theorem writeEntries_congr (before after : List (Value × Value)) (name : Value) {v w : Value}
    (habsent : v.isAbsent = w.isAbsent) (hwrite : v.write false = w.write false) :
    writeEntries (before ++ (name, v) :: after) = writeEntries (before ++ (name, w) :: after) := by
  have hname : entryName? (name, v) = entryName? (name, w) := by
    cases name with
    | text => simp only [entryName?, habsent]
    | _ => rfl
  rw [writeEntries_present, writeEntries_present, presentEntries, presentEntries, List.filterMap_append,
    List.filterMap_append, ← presentEntries, ← presentEntries, ← presentEntries, presentEntries_cons,
    presentEntries_cons, hname]
  cases entryName? (name, w) <;> simp [hwrite]

/-- A member of a record can be exchanged for one that is left out whenever it is and is written alike. -/
theorem writeMembers_congr (before after : List (MemberLabel × Value)) (label : MemberLabel) {v w : Value}
    {stored : Bool} (hname : argumentName? label v = argumentName? label w)
    (hwrite : v.write stored = w.write stored) :
    writeMembers stored (before ++ (label, v) :: after) =
      writeMembers stored (before ++ (label, w) :: after) := by
  rw [writeMembers_shown, writeMembers_shown, shownMembers, shownMembers, List.filterMap_append,
    List.filterMap_append, ← shownMembers, ← shownMembers, ← shownMembers, shownMembers_cons,
    shownMembers_cons, hname]
  cases argumentName? label w <;> simp [hwrite]

end Value

end Bindery
