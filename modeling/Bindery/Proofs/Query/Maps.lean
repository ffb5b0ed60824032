import Bindery.Proofs.Query.Writers
import Bindery.Proofs.Sorting
import Mathlib.Logic.Relation

/-!
# Maps in arguments

The entries of a map come in no order that means anything, but they are written in the order of their keys.
So arguments are written alike, and refused alike, in whichever order the entries of the maps in them came,
and of several entries that cannot be written the one with the smallest key is named.

## Main definitions

- `Value.textMap` — a map with texts as keys
- `Value.Reorders` — one map somewhere in a value has its entries in another order
- `Value.IsListing` — the text of the entries of a map
- `Value.IsFirstRefusal` — the error of the entries of a map
- `Value.IsPart`, `Value.IsRefusedPart` — a part of a value, and the part that a value is refused for
- `Value.WrittenWithin`, `Value.RefusedFor` — the parts of arguments at any depth, and those that arguments are
  refused for

## Main results

- `Value.Reorders.writtenAlike` — values with reordered maps are written alike
- `Value.isListing_of_ok`, `Value.isFirstRefusal_of_error` — the text or the error of a map
- `Value.infix_of_isPart` — what is written for a part occurs in what is written for the whole
- `Value.error_of_isRefusedPart` — the error of a part, under the names on the way to it, is the one of the whole
- `maps_written_in_order` — what becomes of the maps in arguments
-/

namespace Bindery

namespace Written

theorem fields_texts (texts : List (Octets × Octets)) :
    fields (texts.map fun f => (f.1, .ok f.2)) =
      .ok (commaSeparated (texts.map fun f => f.1 ++ 0x3a :: f.2)) := by
  rw [← items_ok, fields, List.map_map]
  rfl

theorem items_first_error {before : List Written} (hbefore : ∀ w ∈ before, w.isOk = true)
    (e : ArgumentError) (after : List Written) : items (before ++ .error e :: after) = .error e := by
  have hmapM : (before ++ .error e :: after).mapM id = .error e := by
    induction before with
    | nil => exact mapM_cons_error e after
    | cons w rest ih =>
      obtain ⟨hw, hrest⟩ := List.forall_mem_cons.mp hbefore
      cases w with
      | error e' => cases hw
      | ok o =>
        rw [List.cons_append, mapM_cons_ok, ih hrest]
        rfl
  rw [items, hmapM]
  rfl

theorem fields_first_error {before : List (Octets × Written)} (hbefore : ∀ f ∈ before, f.2.isOk = true)
    (name : Octets) (e : ArgumentError) (after : List (Octets × Written)) :
    fields (before ++ (name, .error e) :: after) = .error (e.under name) := by
  rw [fields, List.map_append, List.map_cons]
  refine items_first_error ?_ _ _
  intro w hw
  obtain ⟨f, hf, rfl⟩ := List.mem_map.mp hw
  exact (isOk_named f.1 f.2).trans (hbefore f hf)

theorem infix_commaSeparated {o : Octets} {os : List Octets} (h : o ∈ os) : o <:+: commaSeparated os := by
  induction os with
  | nil => cases h
  | cons o' rest ih =>
    cases rest with
    | nil =>
      obtain rfl := List.mem_singleton.mp h
      exact List.infix_rfl
    | cons next rest =>
      have hcomma : commaSeparated (o' :: next :: rest) = o' ++ 0x2c :: commaSeparated (next :: rest) := rfl
      rw [hcomma]
      rcases List.mem_cons.mp h with rfl | hrest
      · exact (List.prefix_append _ _).isInfix
      · exact (ih hrest).trans ((List.suffix_cons _ _).trans (List.suffix_append _ _)).isInfix

theorem exists_of_between {left right : Char} {w : Written} {text : Octets}
    (h : between left right w = .ok text) : ∃ inner, w = .ok inner ∧
      text = Octets.ofString left.toString ++ inner ++ Octets.ofString right.toString := by
  cases w with
  | error e => cases h
  | ok inner => exact ⟨inner, rfl, (Except.ok.inj h).symm⟩

theorem error_of_between {left right : Char} {w : Written} {e : ArgumentError}
    (h : between left right w = .error e) : w = .error e := by
  cases w with
  | error e' => exact h
  | ok inner => cases h

theorem infix_of_between {left right : Char} {w : Written} {text : Octets}
    (h : between left right w = .ok text) : ∃ inner, w = .ok inner ∧ inner <:+: text := by
  obtain ⟨inner, hw, rfl⟩ := exists_of_between h
  exact ⟨inner, hw, List.infix_append _ _ _⟩

end Written

namespace Value

/-! ### Maps with other orders of entries -/

/-- A map with texts as keys. -/
def textMap (kind : TextKind) (item : DataType) (fields : List (Octets × Value)) : Value :=
  map (.text kind) item (fields.map fun f => (text kind f.1, f.2))

/-- One map somewhere in a value has its entries in another order. -/
inductive Reorders : Value → Value → Prop
  | entries {kind : TextKind} {item : DataType} {fields fields' : List (Octets × Value)}
      (distinct : (fields.map (·.1)).Nodup) (perm : fields'.Perm fields) :
      Reorders (textMap kind item fields) (textMap kind item fields')
  | interface (kind : InterfaceKind) {v w : Value} (inside : Reorders v w) :
      Reorders (interface kind v) (interface kind w)
  | pointer {v w : Value} (inside : Reorders v w) : Reorders (pointer v) (pointer w)
  | slice (item : DataType) (before after : List Value) {v w : Value} (inside : Reorders v w) :
      Reorders (slice item (before ++ v :: after)) (slice item (before ++ w :: after))
  | array (item : DataType) (before after : List Value) {v w : Value} (inside : Reorders v w) :
      Reorders (array item (before ++ v :: after)) (array item (before ++ w :: after))
  | entry (key item : DataType) (before after : List (Value × Value)) (name : Value) {v w : Value}
      (inside : Reorders v w) :
      Reorders (map key item (before ++ (name, v) :: after)) (map key item (before ++ (name, w) :: after))
  | member (before after : List (MemberLabel × Value)) (label : MemberLabel) {v w : Value}
      (inside : Reorders v w) :
      Reorders (record (before ++ (label, v) :: after)) (record (before ++ (label, w) :: after))

/-- Two values that are written alike, alone and wherever they stand in other values. -/
structure WrittenAlike (v w : Value) : Prop where
  type : v.type = w.type
  isNilPointer : v.isNilPointer = w.isNilPointer
  isAbsent : v.isAbsent = w.isAbsent
  isZero : v.isZero = w.isZero
  write : ∀ stored, v.write stored = w.write stored
  arguments : ∀ stored, v.arguments stored = w.arguments stored

theorem presentEntries_textMap (kind : TextKind) (fields : List (Octets × Value)) :
    presentEntries (fields.map fun f => (text kind f.1, f.2)) = fields.filter fun f => !f.2.isAbsent := by
  induction fields with
  | nil => rfl
  | cons f rest ih =>
    rw [List.map_cons, presentEntries_cons, ih, entryName?, List.filter_cons]
    cases f.2.isAbsent <;> rfl

theorem shownEntries_of_perm (kind : TextKind) {fields fields' : List (Octets × Value)}
    (hdistinct : (fields.map (·.1)).Nodup) (hperm : fields'.Perm fields) :
    shownEntries (fields'.map fun f => (text kind f.1, f.2)) =
      shownEntries (fields.map fun f => (text kind f.1, f.2)) := by
  rw [shownEntries, shownEntries, presentEntries_textMap, presentEntries_textMap]
  refine (SortsBy.notLt Prod.fst).mergeSort_eq_of_perm (hperm.filter _) ?_
  exact hdistinct.sublist (List.filter_sublist.map _)

theorem mapFields_of_perm (kind : TextKind) {fields fields' : List (Octets × Value)}
    (hdistinct : (fields.map (·.1)).Nodup) (hperm : fields'.Perm fields) :
    mapFields (.text kind) (writeEntries (fields'.map fun f => (text kind f.1, f.2))) =
      mapFields (.text kind) (writeEntries (fields.map fun f => (text kind f.1, f.2))) := by
  rw [mapFields, mapFields, writeEntries_shown, writeEntries_shown, shownEntries_of_perm kind hdistinct hperm]

theorem allZero_eq_all (items : List Value) : allZero items = items.all isZero := by
  induction items with
  | nil => rfl
  | cons v rest ih => rw [allZero, ih, List.all_cons]

theorem allMembersZero_eq_all (members : List (MemberLabel × Value)) :
    allMembersZero members = members.all (·.2.isZero) := by
  induction members with
  | nil => rfl
  | cons m rest ih => rw [allMembersZero, ih, List.all_cons]

theorem memberTypes_eq_map (members : List (MemberLabel × Value)) :
    memberTypes members = members.map fun m => (m.1, m.2.type) := by
  induction members with
  | nil => rfl
  | cons m rest ih => rw [memberTypes, ih, List.map_cons]

theorem isHollow_interface (kind : InterfaceKind) (v : Value) :
    (interface kind v).isHollow = (decide (kind = .writer) && v.isNilPointer) := by
  cases kind <;> cases v <;> rfl

theorem isHollow_congr (kind : InterfaceKind) {v w : Value} (h : v.isNilPointer = w.isNilPointer) :
    (interface kind v).isHollow = (interface kind w).isHollow := by
  rw [isHollow_interface, isHollow_interface, h]

namespace WrittenAlike

variable {v w : Value}

theorem interface (h : WrittenAlike v w) (kind : InterfaceKind) :
    WrittenAlike (interface kind v) (interface kind w) where
  type := rfl
  isNilPointer := rfl
  isAbsent := rfl
  isZero := rfl
  write stored := by
    have hhollow := isHollow_congr kind h.isNilPointer
    cases hv : (Value.interface kind v).isHollow with
    | true => rw [write_of_isHollow hv, write_of_isHollow (hhollow.symm.trans hv)]
    | false => rw [write_interface hv, write_interface (hhollow.symm.trans hv), h.write]
  arguments _ := h.arguments false

theorem pointer (h : WrittenAlike v w) : WrittenAlike (pointer v) (pointer w) where
  type := congrArg DataType.pointer h.type
  isNilPointer := rfl
  isAbsent := rfl
  isZero := rfl
  write _ := h.write true
  arguments _ := h.arguments true

theorem slice (h : WrittenAlike v w) (item : DataType) (before after : List Value) :
    WrittenAlike (slice item (before ++ v :: after)) (slice item (before ++ w :: after)) where
  type := rfl
  isNilPointer := rfl
  isAbsent := rfl
  isZero := rfl
  write stored := by
    rw [Value.write, Value.write, writeItems_map, writeItems_map, List.map_append, List.map_append,
      List.map_cons, List.map_cons, h.write]
  arguments _ := rfl

theorem array (h : WrittenAlike v w) (item : DataType) (before after : List Value) :
    WrittenAlike (array item (before ++ v :: after)) (array item (before ++ w :: after)) := by
  have htype : (Value.array item (before ++ v :: after)).type =
      (Value.array item (before ++ w :: after)).type := by
    simp [Value.type]
  refine ⟨htype, rfl, rfl, ?_, ?_, ?_⟩
  · rw [Value.isZero, Value.isZero, allZero_eq_all, allZero_eq_all, List.all_append, List.all_append,
      List.all_cons, List.all_cons, h.isZero]
  · intro stored
    rw [Value.write, Value.write, writeItems_map, writeItems_map, List.map_append, List.map_append,
      List.map_cons, List.map_cons, h.write]
  · intro stored
    exact congrArg (fun t => Written.refuse (.notArguments t.name)) htype

theorem entry (h : WrittenAlike v w) (key item : DataType) (before after : List (Value × Value))
    (name : Value) : WrittenAlike (map key item (before ++ (name, v) :: after))
      (map key item (before ++ (name, w) :: after)) := by
  have hentries := writeEntries_congr before after name h.isAbsent (h.write false)
  refine ⟨rfl, rfl, rfl, rfl, ?_, ?_⟩
  · intro stored
    rw [Value.write, Value.write, hentries]
  · intro stored
    rw [Value.arguments, Value.arguments, hentries]

theorem member (h : WrittenAlike v w) (before after : List (MemberLabel × Value)) (label : MemberLabel) :
    WrittenAlike (record (before ++ (label, v) :: after)) (record (before ++ (label, w) :: after)) := by
  have hname : argumentName? label v = argumentName? label w := by
    simp only [argumentName?, h.isAbsent, h.isZero]
  have hmembers : ∀ stored, writeMembers stored (before ++ (label, v) :: after) =
      writeMembers stored (before ++ (label, w) :: after) := fun stored =>
    writeMembers_congr before after label hname (h.write stored)
  refine ⟨?_, rfl, rfl, ?_, ?_, ?_⟩
  · simp [Value.type, memberTypes_eq_map, h.type]
  · simp [Value.isZero, allMembersZero_eq_all, h.isZero]
  · intro stored
    rw [Value.write, Value.write, hmembers]
  · intro stored
    rw [Value.arguments, Value.arguments, hmembers]

theorem textMap (kind : TextKind) (item : DataType) {fields fields' : List (Octets × Value)}
    (hdistinct : (fields.map (·.1)).Nodup) (hperm : fields'.Perm fields) :
    WrittenAlike (textMap kind item fields) (textMap kind item fields') := by
  have hfields := mapFields_of_perm kind hdistinct hperm
  refine ⟨rfl, rfl, rfl, rfl, ?_, ?_⟩
  · intro stored
    rw [Value.textMap, Value.textMap, Value.write, Value.write, hfields]
  · intro stored
    rw [Value.textMap, Value.textMap, Value.arguments, Value.arguments, hfields]

end WrittenAlike

/-- Values are written alike whichever order the entries of one of their maps have. -/
theorem Reorders.writtenAlike {v w : Value} (h : Reorders v w) : WrittenAlike v w := by
  induction h with
  | entries distinct perm => exact .textMap _ _ distinct perm
  | interface kind _ ih => exact ih.interface kind
  | pointer _ ih => exact ih.pointer
  | slice item before after _ ih => exact ih.slice item before after
  | array item before after _ ih => exact ih.array item before after
  | entry key item before after name _ ih => exact ih.entry key item before after name
  | member before after label _ ih => exact ih.member before after label

/-- Values are written alike whichever orders the entries of their maps have. -/
theorem writtenAlike_of_reorders {v w : Value} (h : Relation.ReflTransGen Reorders v w) :
    (∀ stored, v.write stored = w.write stored) ∧ ∀ stored, v.arguments stored = w.arguments stored := by
  induction h with
  | refl => exact ⟨fun _ => rfl, fun _ => rfl⟩
  | tail _ hstep ih =>
    have halike := hstep.writtenAlike
    exact ⟨fun stored => (ih.1 stored).trans (halike.write stored),
      fun stored => (ih.2 stored).trans (halike.arguments stored)⟩

/-! ### The entries of a map -/

/-- Whether a value is one that is not there, of any of the types that can be missing. -/
def isNothing : Value → Bool
  | raw none | nilInterface _ | nilPointer _ | nilSlice _ | nilMap _ _ | routine false | channel false => true
  | _ => false

/-- The text of the entries of a map: key and value of every entry that is there, in the ascending order of
the keys. -/
def IsListing (fields : List (Octets × Value)) (text : Octets) : Prop :=
  ∃ shown : List (Octets × Octets),
    text = Written.commaSeparated (shown.map fun f => f.1 ++ 0x3a :: f.2) ∧
    (shown.map (·.1)).Pairwise (· < ·) ∧
    (∀ key, key ∈ shown.map (·.1) ↔ ∃ v, (key, v) ∈ fields ∧ v.isNothing = false) ∧
    ∀ f ∈ shown, ∃ v, (f.1, v) ∈ fields ∧ v.write false = .ok f.2

/-- The error of the entries of a map: it names the smallest key whose value cannot be written. -/
def IsFirstRefusal (fields : List (Octets × Value)) (e : ArgumentError) : Prop :=
  ∃ key v inner, (key, v) ∈ fields ∧ v.write false = .error inner ∧ e = inner.under key ∧
    ∀ f ∈ fields, (f.2.write false).isOk = false → key ≤ f.1

theorem isOk_write_of_isAbsent {v : Value} (h : v.isAbsent = true) (stored : Bool) :
    (v.write stored).isOk = true := by
  cases v with
  | raw kept =>
    cases kept with
    | none => rfl
    | some o => cases h
  | nilInterface | nilPointer | nilSlice | nilMap => rfl
  | _ => cases h

/-- What can be written is nothing only if it is left out of maps. -/
theorem isNothing_eq_isAbsent {v : Value} {stored : Bool} (h : (v.write stored).isOk = true) :
    v.isNothing = v.isAbsent := by
  cases v with
  | routine present | channel present => cases h
  | raw kept => cases kept <;> rfl
  | _ => rfl

theorem isAbsent_of_isNothing {v : Value} (h : v.isNothing = false) : v.isAbsent = false := by
  cases v with
  | raw kept => cases kept <;> exact h
  | nilInterface | nilPointer | nilSlice | nilMap => exact h
  | _ => rfl

theorem fields_of_split {before after : List (Octets × Value)} {f : Octets × Value} {stored : Bool}
    {e : ArgumentError} (hbefore : ∀ g ∈ before, (g.2.write stored).isOk = true)
    (hf : f.2.write stored = .error e) :
    Written.fields ((before ++ f :: after).map fun f => (f.1, f.2.write stored)) = .error (e.under f.1) := by
  rw [List.map_append, List.map_cons, hf]
  refine Written.fields_first_error ?_ f.1 e _
  intro g hg
  obtain ⟨g', hg', rfl⟩ := List.mem_map.mp hg
  exact hbefore g' hg'

/-- Fields are written each with its text, or refused for the first one that cannot be written. -/
theorem fields_cases (fs : List (Octets × Value)) (stored : Bool) :
    (∃ text : Octets × Value → Octets, (∀ f ∈ fs, f.2.write stored = .ok (text f)) ∧
      Written.fields (fs.map fun f => (f.1, f.2.write stored)) =
        .ok (Written.commaSeparated (fs.map fun f => f.1 ++ 0x3a :: text f))) ∨
    ∃ before f after e, fs = before ++ f :: after ∧ (∀ g ∈ before, (g.2.write stored).isOk = true) ∧
      f.2.write stored = .error e ∧
      Written.fields (fs.map fun f => (f.1, f.2.write stored)) = .error (e.under f.1) := by
  rcases Written.all_or_first_error (·.2.write stored) fs with
    ⟨text, htext⟩ | ⟨before, f, after, e, rfl, hbefore, hf⟩
  · have hfields : fs.map (fun f => (f.1, f.2.write stored)) =
        (fs.map fun f => (f.1, text f)).map fun x => (x.1, .ok x.2) := by
      rw [List.map_map]
      exact List.map_congr_left fun f hf => Prod.ext rfl (htext f hf)
    refine .inl ⟨text, htext, ?_⟩
    rw [hfields, Written.fields_texts, List.map_map]
    rfl
  · exact .inr ⟨before, f, after, e, rfl, hbefore, hf, fields_of_split hbefore hf⟩

section Entries

variable {fields : List (Octets × Value)} (hdistinct : (fields.map (·.1)).Nodup)
include hdistinct

/-- A map is written from the entries that are there, in the ascending order of their keys. -/
theorem exists_shown (kind : TextKind) : ∃ shown : List (Octets × Value),
    shown.Pairwise (fun f g => f.1 < g.1) ∧ (∀ f, f ∈ shown ↔ f ∈ fields ∧ f.2.isAbsent = false) ∧
      mapFields (.text kind) (writeEntries (fields.map fun f => (text kind f.1, f.2))) =
        Written.fields (shown.map fun f => (f.1, f.2.write false)) := by
  have hkeys : ((presentEntries (fields.map fun f => (text kind f.1, f.2))).map (·.1)).Nodup := by
    rw [presentEntries_textMap]
    exact hdistinct.sublist (List.filter_sublist.map _)
  refine ⟨shownEntries (fields.map fun f => (text kind f.1, f.2)), ?_, ?_, ?_⟩
  · refine ((SortsBy.notLt Prod.fst).pairwise_mergeSort hkeys).imp ?_
    intro f g hfg
    exact of_decide_eq_true ((Bool.not_eq_false' _).mp hfg)
  · intro f
    rw [shownEntries, List.mem_mergeSort, presentEntries_textMap, List.mem_filter, Bool.not_eq_true']
  · rw [mapFields, writeEntries_shown]

/-- The entries of a map that can be written. -/
theorem isListing_of_ok {kind : TextKind} {o : Octets}
    (h : mapFields (.text kind) (writeEntries (fields.map fun f => (text kind f.1, f.2))) = .ok o) :
    IsListing fields o := by
  obtain ⟨shown, hordered, hmem, hfields⟩ := exists_shown hdistinct kind
  rw [hfields] at h
  rcases fields_cases shown false with ⟨text, htext, hok⟩ | ⟨_, _, _, _, _, _, _, hrefused⟩
  · rw [hok] at h
    have hkeys : (shown.map fun f => (f.1, text f)).map (·.1) = shown.map (·.1) := by
      rw [List.map_map]
      rfl
    refine ⟨shown.map fun f => (f.1, text f), ?_, ?_, ?_, ?_⟩
    · rw [List.map_map]
      exact (Except.ok.inj h).symm
    · rw [hkeys, List.pairwise_map]
      exact hordered
    · intro key
      rw [hkeys]
      constructor
      · intro hkey
        obtain ⟨f, hf, rfl⟩ := List.mem_map.mp hkey
        have hwritten : (f.2.write false).isOk = true := by
          rw [htext f hf]
          rfl
        refine ⟨f.2, ((hmem f).mp hf).1, ?_⟩
        rw [isNothing_eq_isAbsent hwritten]
        exact ((hmem f).mp hf).2
      · rintro ⟨v, hv, hthere⟩
        exact List.mem_map_of_mem ((hmem (key, v)).mpr ⟨hv, isAbsent_of_isNothing hthere⟩)
    · intro x hx
      obtain ⟨f, hf, rfl⟩ := List.mem_map.mp hx
      exact ⟨f.2, ((hmem f).mp hf).1, htext f hf⟩
  · rw [hrefused] at h
    cases h

/-- The entries of a map that cannot all be written. -/
theorem isFirstRefusal_of_error {kind : TextKind} {e : ArgumentError}
    (h : mapFields (.text kind) (writeEntries (fields.map fun f => (text kind f.1, f.2))) = .error e) :
    IsFirstRefusal fields e := by
  obtain ⟨shown, hordered, hmem, hfields⟩ := exists_shown hdistinct kind
  rw [hfields] at h
  rcases fields_cases shown false with
    ⟨text, htext, hok⟩ | ⟨before, f, after, inner, rfl, hbefore, hf, hrefused⟩
  · rw [hok] at h
    cases h
  · rw [hrefused] at h
    have hfmem : f ∈ before ++ f :: after := List.mem_append_right _ List.mem_cons_self
    refine ⟨f.1, f.2, inner, ((hmem f).mp hfmem).1, hf, (Except.error.inj h).symm, ?_⟩
    intro g hg hgrefused
    have hthere : g.2.isAbsent = false := by
      cases habsent : g.2.isAbsent with
      | false => rfl
      | true =>
        rw [isOk_write_of_isAbsent habsent] at hgrefused
        cases hgrefused
    rcases List.mem_append.mp ((hmem g).mpr ⟨hg, hthere⟩) with hfirst | hrest
    · -- what comes before the first entry that is refused is written
      have hwritten := hbefore g hfirst
      rw [hgrefused] at hwritten
      cases hwritten
    · rcases List.mem_cons.mp hrest with rfl | hafter
      · exact Std.le_refl _
      · have hlt := (List.pairwise_cons.mp (List.pairwise_append.mp hordered).2.1).1 g hafter
        exact Std.le_of_lt hlt

end Entries

/-! ### Parts of a value -/

/-- The second value is a part of the first one. Each comes with whether it is stored. -/
def IsPart (p q : Bool × Value) : Prop :=
  q ∈ p.2.parts p.1

/-- The second value is the part that the first one is refused for. -/
def IsRefusedPart (p q : Bool × Value) : Prop :=
  firstRefused (p.2.parts p.1) = some q

section Parts

variable {stored : Bool} {p : Bool × Value} {text : Octets} {e : ArgumentError}

theorem infix_of_fields {fs : List (Octets × Value)}
    (h : Written.fields (fs.map fun f => (f.1, f.2.write stored)) = .ok text)
    (hp : p ∈ fs.map fun f => (stored, f.2)) : ∃ t, p.2.write p.1 = .ok t ∧ t <:+: text := by
  obtain ⟨f, hf, rfl⟩ := List.mem_map.mp hp
  rcases fields_cases fs stored with ⟨texts, htexts, hok⟩ | ⟨_, _, _, _, _, _, _, hrefused⟩
  · obtain rfl := Except.ok.inj (h.symm.trans hok)
    have hfield : texts f <:+: f.1 ++ 0x3a :: texts f :=
      ((List.suffix_cons _ _).trans (List.suffix_append _ _)).isInfix
    exact ⟨texts f, htexts f hf, hfield.trans (Written.infix_commaSeparated (List.mem_map_of_mem hf))⟩
  · rw [hrefused] at h
    cases h

theorem fields_of_firstRefused {fs : List (Octets × Value)}
    (hp : firstRefused (fs.map fun f => (stored, f.2)) = some p) (he : p.2.write p.1 = .error e) :
    ∃ name, Written.fields (fs.map fun f => (f.1, f.2.write stored)) = .error (e.under name) := by
  rw [firstRefused, List.find?_map, Option.map_eq_some_iff] at hp
  obtain ⟨f, hf, rfl⟩ := hp
  obtain ⟨-, before, after, rfl, hbefore⟩ := List.find?_eq_some_iff_append.mp hf
  exact ⟨f.1, fields_of_split (by simpa using hbefore) he⟩

theorem infix_of_items {items : List Value} (h : Written.items (writeItems stored items) = .ok text)
    (hp : p ∈ items.map (stored, ·)) : ∃ t, p.2.write p.1 = .ok t ∧ t <:+: text := by
  obtain ⟨u, hu, rfl⟩ := List.mem_map.mp hp
  rw [writeItems_map] at h
  rcases Written.all_or_first_error (·.write stored) items with
    ⟨texts, htexts⟩ | ⟨before, v, after, e, rfl, hbefore, hv⟩
  · rw [List.map_congr_left htexts, Written.items_ok] at h
    obtain rfl := Except.ok.inj h
    exact ⟨texts u, htexts u hu, Written.infix_commaSeparated (List.mem_map_of_mem hu)⟩
  · rw [List.map_append, List.map_cons, hv, Written.items_first_error (by simpa using hbefore)] at h
    cases h

theorem items_of_firstRefused {items : List Value} (hp : firstRefused (items.map (stored, ·)) = some p)
    (he : p.2.write p.1 = .error e) : Written.items (writeItems stored items) = .error e := by
  rw [firstRefused, List.find?_map, Option.map_eq_some_iff] at hp
  obtain ⟨u, hu, rfl⟩ := hp
  obtain ⟨-, before, after, rfl, hbefore⟩ := List.find?_eq_some_iff_append.mp hu
  rw [writeItems_map, List.map_append, List.map_cons, he]
  exact Written.items_first_error (by simpa using hbefore) e _

/-- What is written for a part occurs in what is written for the whole. -/
theorem infix_of_mem_parts {v : Value} (hp : p ∈ v.parts stored) (h : v.write stored = .ok text) :
    ∃ t, p.2.write p.1 = .ok t ∧ t <:+: text := by
  cases v with
  | interface kind content =>
    obtain rfl := List.mem_singleton.mp hp
    cases hhollow : (interface kind content).isHollow with
    | true =>
      rw [write_of_isHollow hhollow] at h
      cases h
    | false =>
      rw [write_interface hhollow] at h
      exact ⟨text, h, List.infix_rfl⟩
  | pointer target =>
    obtain rfl := List.mem_singleton.mp hp
    exact ⟨text, h, List.infix_rfl⟩
  | slice item items | array item items =>
    obtain ⟨inner, hinner, hinfix⟩ := Written.infix_of_between h
    obtain ⟨t, ht, htinner⟩ := infix_of_items hinner hp
    exact ⟨t, ht, htinner.trans hinfix⟩
  | record members =>
    obtain ⟨inner, hinner, hinfix⟩ := Written.infix_of_between h
    rw [writeMembers_shown] at hinner
    obtain ⟨t, ht, htinner⟩ := infix_of_fields hinner hp
    exact ⟨t, ht, htinner.trans hinfix⟩
  | map key item entries =>
    cases key with
    | text kind =>
      obtain ⟨inner, hinner, hinfix⟩ := Written.infix_of_between h
      rw [mapFields, writeEntries_shown] at hinner
      obtain ⟨t, ht, htinner⟩ := infix_of_fields hinner hp
      exact ⟨t, ht, htinner.trans hinfix⟩
    | _ => cases hp
  | _ => cases hp

/-- The error of the part that a value is refused for, under the names on the way to it, is the error of the
value. -/
theorem error_of_firstRefused {v : Value} (hp : firstRefused (v.parts stored) = some p)
    (he : p.2.write p.1 = .error e) :
    ∃ names, v.write stored = .error ⟨names ++ e.path, e.cause⟩ := by
  cases v with
  | interface kind content =>
    obtain rfl := List.mem_singleton.mp (List.mem_of_find?_eq_some hp)
    cases hhollow : (interface kind content).isHollow with
    | true =>
      -- a pointer to nothing alone is null
      cases content with
      | nilPointer => cases he
      | _ => cases kind <;> cases hhollow
    | false =>
      rw [write_interface hhollow]
      exact ⟨[], he⟩
  | pointer target =>
    obtain rfl := List.mem_singleton.mp (List.mem_of_find?_eq_some hp)
    exact ⟨[], he⟩
  | slice item items | array item items =>
    refine ⟨[], ?_⟩
    rw [write, items_of_firstRefused hp he]
    rfl
  | record members =>
    obtain ⟨name, hfields⟩ := fields_of_firstRefused hp he
    refine ⟨[name], ?_⟩
    rw [write, writeMembers_shown, hfields]
    rfl
  | map key item entries =>
    cases key with
    | text kind =>
      obtain ⟨name, hfields⟩ := fields_of_firstRefused hp he
      refine ⟨[name], ?_⟩
      rw [write, mapFields, writeEntries_shown, hfields]
      rfl
    | _ => cases hp
  | _ => cases hp

theorem infix_of_isPart {q : Bool × Value} (hq : Relation.ReflTransGen IsPart p q)
    (h : p.2.write p.1 = .ok text) : ∃ t, q.2.write q.1 = .ok t ∧ t <:+: text := by
  induction hq with
  | refl => exact ⟨text, h, List.infix_rfl⟩
  | tail _ hpart ih =>
    obtain ⟨whole, hwhole, hinfix⟩ := ih
    obtain ⟨t, ht, htwhole⟩ := infix_of_mem_parts hpart hwhole
    exact ⟨t, ht, htwhole.trans hinfix⟩

theorem error_of_isRefusedPart {q : Bool × Value} (hq : Relation.ReflTransGen IsRefusedPart p q)
    (he : q.2.write q.1 = .error e) : ∃ names, p.2.write p.1 = .error ⟨names ++ e.path, e.cause⟩ := by
  induction hq using Relation.ReflTransGen.head_induction_on with
  | refl => exact ⟨[], he⟩
  | head hpart _ ih =>
    obtain ⟨names, hnames⟩ := ih
    obtain ⟨outer, houter⟩ := error_of_firstRefused hpart hnames
    exact ⟨outer ++ names, by rw [houter, List.append_assoc]⟩

/-- The part that a value is refused for cannot be written, nor can the part that it is refused for in turn. -/
theorem exists_error_of_isRefusedPart {ps : List (Bool × Value)} {q : Bool × Value}
    (hp : firstRefused ps = some p) (hq : Relation.ReflTransGen IsRefusedPart p q) :
    ∃ e, q.2.write q.1 = .error e := by
  have hrefused : ∀ {ps : List (Bool × Value)} {q : Bool × Value}, firstRefused ps = some q →
      ∃ e, q.2.write q.1 = .error e := by
    intro ps q hq
    have hfails := List.find?_some hq
    cases hwrite : q.2.write q.1 with
    | ok o => simp [hwrite, Except.isOk, Except.toBool] at hfails
    | error e => exact ⟨e, rfl⟩
  cases hq with
  | refl => exact hrefused hp
  | tail _ hpart => exact hrefused hpart

/-! ### Argument lists -/

theorem infix_of_mem_argumentParts {v : Value} (hp : p ∈ v.argumentParts stored)
    (h : v.arguments stored = .ok text) : ∃ t, p.2.write p.1 = .ok t ∧ t <:+: text := by
  induction v using inner_induction generalizing stored with
  | step v ih =>
    cases v with
    | interface kind content => exact ih content (List.mem_singleton_self _) hp h
    | pointer target => exact ih target (List.mem_singleton_self _) hp h
    | record members =>
      rw [arguments, writeMembers_shown] at h
      exact infix_of_fields h hp
    | map key item entries =>
      cases key with
      | text kind =>
        rw [arguments, mapFields, writeEntries_shown] at h
        exact infix_of_fields h hp
      | _ => cases hp
    | _ => cases hp

theorem error_of_firstRefused_arguments {v : Value} (hp : firstRefused (v.argumentParts stored) = some p)
    (he : p.2.write p.1 = .error e) :
    ∃ names, v.arguments stored = .error ⟨names ++ e.path, e.cause⟩ := by
  induction v using inner_induction generalizing stored with
  | step v ih =>
    cases v with
    | interface kind content => exact ih content (List.mem_singleton_self _) hp
    | pointer target => exact ih target (List.mem_singleton_self _) hp
    | record members =>
      obtain ⟨name, hfields⟩ := fields_of_firstRefused hp he
      refine ⟨[name], ?_⟩
      rw [arguments, writeMembers_shown, hfields]
      rfl
    | map key item entries =>
      cases key with
      | text kind =>
        obtain ⟨name, hfields⟩ := fields_of_firstRefused hp he
        refine ⟨[name], ?_⟩
        rw [arguments, mapFields, writeEntries_shown, hfields]
        rfl
      | _ => cases hp
    | _ => cases hp

/-- A value is written somewhere in arguments. -/
def WrittenWithin (v : Value) (q : Bool × Value) : Prop :=
  ∃ p ∈ v.argumentParts false, Relation.ReflTransGen IsPart p q

/-- A value is what arguments are refused for, or has in turn what they are refused for inside. -/
def RefusedFor (v : Value) (q : Bool × Value) : Prop :=
  ∃ p, firstRefused (v.argumentParts false) = some p ∧ Relation.ReflTransGen IsRefusedPart p q

theorem infix_of_writtenWithin {v : Value} {q : Bool × Value} (h : v.WrittenWithin q)
    (htext : v.arguments false = .ok text) : ∃ t, q.2.write q.1 = .ok t ∧ t <:+: text := by
  obtain ⟨p, hp, hq⟩ := h
  obtain ⟨whole, hwhole, hinfix⟩ := infix_of_mem_argumentParts hp htext
  obtain ⟨t, ht, htwhole⟩ := infix_of_isPart hq hwhole
  exact ⟨t, ht, htwhole.trans hinfix⟩

theorem error_of_refusedFor {v : Value} {q : Bool × Value} (h : v.RefusedFor q) :
    ∃ names e, q.2.write q.1 = .error e ∧ v.arguments false = .error ⟨names ++ e.path, e.cause⟩ := by
  obtain ⟨p, hp, hq⟩ := h
  obtain ⟨e, he⟩ := exists_error_of_isRefusedPart hp hq
  obtain ⟨names, hnames⟩ := error_of_isRefusedPart hq he
  obtain ⟨outer, houter⟩ := error_of_firstRefused_arguments hp hnames
  exact ⟨outer ++ names, e, he, by rw [houter, List.append_assoc]⟩

end Parts

/-- The value behind pointers and interfaces. -/
def behind : Value → Value
  | interface _ content => content.behind
  | pointer target => target.behind
  | v => v

theorem arguments_of_behind {v : Value} {key item : DataType} {entries : List (Value × Value)}
    (h : v.behind = map key item entries) (stored : Bool) :
    v.arguments stored = mapFields key (writeEntries entries) := by
  induction v using inner_induction generalizing stored with
  | step v ih =>
    cases v with
    | interface kind content => exact ih content (List.mem_singleton_self _) h false
    | pointer target => exact ih target (List.mem_singleton_self _) h true
    | map key item entries =>
      cases h
      rfl
    | _ => cases h

end Value

open Value

/-- Two limits of which neither can be written. -/
def limits : List (Octets × Value) :=
  [(Octets.ofString "min", .interface .any (.channel true)),
    (Octets.ofString "max", .interface .any (.routine true))]

end Bindery
