import Bindery.Json.Decode
import Bindery.Proofs.Json.Reading

/-!
# What decoders depend on

A decoder looks at a scanned value part by part and stops at the first fault. Whether a value comes out, and
which one, depends on nothing but the JSON value that was scanned: not on its place, nor on how it was
written. A scan with a fault never leads to a value.

## Main definitions

- `Json.toScan` — a scan of a value
- `Json.onJson` — what a decoder makes of a value
- `Json.Faithful` — a decoder that depends on the value only

## Main results

- `Json.fault?_eq_none_iff` — a scan has a value exactly if it has no fault
- `Json.faithful_decodeRecord`, `Json.onJson_decodeRecord` — records are decoded member by member
- `Json.toOption_decodeText` — what a decoder makes of a whole text
-/

namespace Bindery.Json

/-! ### Results -/

theorem toOption_bind {ε α β : Type} (x : Except ε α) (f : α → Except ε β) :
    (x >>= f).toOption = x.toOption.bind fun a => (f a).toOption := by
  cases x <;> rfl

theorem toOption_map {ε α β : Type} (x : Except ε α) (f : α → β) :
    (x.map f).toOption = x.toOption.map f := by
  cases x <;> rfl

theorem toOption_mapError {ε ε' α : Type} (f : ε → ε') (x : Except ε α) :
    (x.mapError f).toOption = x.toOption := by
  cases x <;> rfl

theorem eq_ok_of_toOption {ε α : Type} {x : Except ε α} {a : α} (h : x.toOption = some a) :
    x = .ok a := by
  cases x with
  | error e => cases h
  | ok b =>
    cases h
    rfl

theorem exists_error_of_toOption {ε α : Type} {x : Except ε α} (h : x.toOption = none) :
    ∃ e, x = .error e := by
  cases x with
  | error e => exact ⟨e, rfl⟩
  | ok a => cases h

/-! ### Scans and values -/

@[elab_as_elim]
theorem inductionOn {P : Json → Prop} (j : Json) (null : P .null) (bool : ∀ b, P (.bool b))
    (number : ∀ digits, P (.number digits)) (string : ∀ s, P (.string s))
    (array : ∀ items, (∀ i ∈ items, P i) → P (.array items))
    (object : ∀ members, (∀ m ∈ members, P m.2) → P (.object members)) : P j := by
  refine @Json.rec P (fun items => ∀ i ∈ items, P i) (fun members => ∀ m ∈ members, P m.2)
    (fun m => P m.2) null bool number string array object ?_ ?_ ?_ ?_ ?_ j
  · exact nofun
  · exact fun i rest hi hrest => List.forall_mem_cons.mpr ⟨hi, hrest⟩
  · exact nofun
  · exact fun m rest hm hrest => List.forall_mem_cons.mpr ⟨hm, hrest⟩
  · exact fun _ _ h => h

@[elab_as_elim]
theorem Scan.inductionOn {P : Scan → Prop} (v : Scan) (null : P .null) (bool : ∀ b, P (.bool b))
    (number : ∀ digits, P (.number digits)) (string : ∀ s e, P (.string s e))
    (array : ∀ items stop e, (∀ i ∈ items, P i) → P (.array items stop e))
    (object : ∀ members stop e, (∀ m ∈ members, P m.2) → P (.object members stop e))
    (broken : P .broken) : P v := by
  refine @Scan.rec P (fun items => ∀ i ∈ items, P i) (fun members => ∀ m ∈ members, P m.2)
    (fun m => P m.2) null bool number string (fun items stop e h => array items stop e h)
    (fun members stop e h => object members stop e h) broken ?_ ?_ ?_ ?_ ?_ v
  · exact nofun
  · exact fun i rest hi hrest => List.forall_mem_cons.mpr ⟨hi, hrest⟩
  · exact nofun
  · exact fun m rest hm hrest => List.forall_mem_cons.mpr ⟨hm, hrest⟩
  · exact fun _ _ h => h

mutual

/-- A scan of a value. -/
def toScan : Json → Scan
  | .null => .null
  | .bool b => .bool b
  | .number digits => .number digits
  | .string s => .string s ⟨[], []⟩
  | .array items => .array (itemsToScan items) .closed ⟨[], []⟩
  | .object members => .object (membersToScan members) .closed ⟨[], []⟩

/-- Scans of items. -/
def itemsToScan : List Json → List Scan
  | [] => []
  | j :: rest => j.toScan :: itemsToScan rest

/-- Scans of members. -/
def membersToScan : List (String × Json) → List (String × Scan)
  | [] => []
  | (name, j) :: rest => (name, j.toScan) :: membersToScan rest

end

open Scan

theorem itemsJson?_toScan {items : List Json} (h : ∀ i ∈ items, i.toScan.json? = some i) :
    itemsJson? (itemsToScan items) = some items := by
  induction items with
  | nil => rfl
  | cons j rest ih =>
    obtain ⟨hj, hrest⟩ := List.forall_mem_cons.mp h
    simp [itemsToScan, itemsJson?, hj, ih hrest]

theorem membersJson?_toScan {members : List (String × Json)}
    (h : ∀ m ∈ members, m.2.toScan.json? = some m.2) :
    membersJson? (membersToScan members) = some members := by
  induction members with
  | nil => rfl
  | cons m rest ih =>
    obtain ⟨hm, hrest⟩ := List.forall_mem_cons.mp h
    simp [membersToScan, membersJson?, hm, ih hrest]

@[simp]
theorem json?_toScan (j : Json) : j.toScan.json? = some j := by
  induction j using inductionOn with
  | null => rfl
  | bool b => rfl
  | number digits => rfl
  | string s => rfl
  | array items ih => simp [toScan, Scan.json?, itemsJson?_toScan ih]
  | object members ih => simp [toScan, Scan.json?, membersJson?_toScan ih]

theorem json?_array (items : List Scan) (stop : ArrayEnd) (e : Extent) :
    (Scan.array items stop e).json? =
      if stop = .closed then (itemsJson? items).map Json.array else none := by
  cases stop <;> simp [Scan.json?]

theorem json?_object (members : List (String × Scan)) (stop : ObjectEnd) (e : Extent) :
    (Scan.object members stop e).json? =
      if stop = .closed then (membersJson? members).map Json.object else none := by
  cases stop <;> simp [Scan.json?]

/-! ### Faults -/

theorem faultInItems_eq_none_iff {whole : Bool} {items : List Scan} {stop : ArrayEnd} {index : Nat}
    (h : ∀ i ∈ items, i.fault? whole = none ↔ i.json?.isSome = true) :
    faultInItems whole stop index items = none ↔
      stop = .closed ∧ (itemsJson? items).isSome = true := by
  induction items generalizing index with
  | nil => cases stop <;> cases whole <;> simp [faultInItems, itemsJson?]
  | cons i rest ih =>
    obtain ⟨hi, hrest⟩ := List.forall_mem_cons.mp h
    have hcons : (itemsJson? (i :: rest)).isSome = true ↔
        i.json?.isSome = true ∧ (itemsJson? rest).isSome = true := by
      cases hj : i.json? <;> cases hr : itemsJson? rest <;> simp [itemsJson?, hj, hr]
    rw [faultInItems, hcons, ← hi]
    cases hfault : i.fault? whole with
    | some p => simp
    | none => simp [ih hrest]

theorem faultInMembers_eq_none_iff {whole : Bool} {members : List (String × Scan)} {stop : ObjectEnd}
    (h : ∀ m ∈ members, m.2.fault? whole = none ↔ m.2.json?.isSome = true) :
    faultInMembers whole stop members = none ↔
      stop = .closed ∧ (membersJson? members).isSome = true := by
  induction members with
  | nil => cases stop <;> simp [faultInMembers, membersJson?]
  | cons m rest ih =>
    obtain ⟨name, v⟩ := m
    obtain ⟨hv, hrest⟩ := List.forall_mem_cons.mp h
    have hcons : (membersJson? ((name, v) :: rest)).isSome = true ↔
        v.json?.isSome = true ∧ (membersJson? rest).isSome = true := by
      cases hj : v.json? <;> cases hr : membersJson? rest <;> simp [membersJson?, hj, hr]
    rw [faultInMembers, hcons, ← hv]
    cases hfault : v.fault? whole with
    | some p => simp
    | none => simp [ih hrest]

/-- A scan has a value exactly if it has no fault. -/
theorem fault?_eq_none_iff (whole : Bool) (v : Scan) :
    v.fault? whole = none ↔ v.json?.isSome = true := by
  induction v using Scan.inductionOn with
  | null | bool | number | string => simp [fault?, Scan.json?]
  | broken => simp [fault?, Scan.json?]
  | array items stop e ih =>
    rw [fault?, faultInItems_eq_none_iff ih]
    cases stop <;> simp [Scan.json?]
  | object members stop e ih =>
    rw [fault?, faultInMembers_eq_none_iff ih]
    cases stop <;> simp [Scan.json?]

theorem toOption_checkForm (whole : Bool) (p : Pointer) (v : Scan) :
    (checkForm whole p v).toOption = v.json?.map fun _ => () := by
  have hfault := fault?_eq_none_iff whole v
  unfold checkForm
  cases hf : v.fault? whole with
  | none =>
    obtain ⟨j, hj⟩ := Option.isSome_iff_exists.mp (hfault.mp hf)
    rw [hj]
    rfl
  | some steps =>
    have hnone : v.json? = none := by
      rw [← Option.not_isSome_iff_eq_none, ← hfault, hf]
      exact nofun
    rw [hnone]
    rfl

theorem checkForm_eq_ok {v : Scan} {j : Json} (h : v.json? = some j) (whole : Bool) (p : Pointer) :
    checkForm whole p v = .ok () := by
  apply eq_ok_of_toOption
  rw [toOption_checkForm, h]
  rfl

/-! ### Decoders -/

/-- What a decoder makes of a value. -/
def onJson {α : Type} (d : Decoder α) (former : α) (j : Json) : Option α :=
  (d [] former j.toScan).toOption

/-- The decoder depends on the value only: wherever the value stands and however it was written, what comes
out is the same, and nothing comes out of a scan with a fault. -/
def Faithful {α : Type} (d : Decoder α) : Prop :=
  ∀ p former v, (d p former v).toOption = v.json?.bind (onJson d former)

section Meaning

variable {α : Type} {d : Decoder α} {g : α → Json → Option α}
  (h : ∀ p former v, (d p former v).toOption = v.json?.bind (g former))
include h

theorem onJson_of_meaning (former : α) : onJson d former = g former := by
  funext j
  rw [onJson, h, json?_toScan, Option.bind_some]

theorem faithful_of_meaning : Faithful d := by
  intro p former v
  rw [h, onJson_of_meaning h]

end Meaning

/-- The text that a value stands for. -/
def stringOn : Json → Option String
  | .string s => some s
  | .null => some ""
  | _ => none

/-- Nothing comes out of a scanned array if nothing comes out of arrays. -/
theorem array_bind_eq_none {α : Type} {g : Json → Option α} (h : ∀ items, g (.array items) = none)
    (items : List Scan) (stop : ArrayEnd) (e : Extent) :
    (Scan.array items stop e).json?.bind g = none := by
  rw [json?_array]
  split
  · cases itemsJson? items with
    | none => rfl
    | some js => exact h js
  · rfl

/-- Nothing comes out of a scanned object if nothing comes out of objects. -/
theorem object_bind_eq_none {α : Type} {g : Json → Option α}
    (h : ∀ members, g (.object members) = none) (members : List (String × Scan)) (stop : ObjectEnd)
    (e : Extent) : (Scan.object members stop e).json?.bind g = none := by
  rw [json?_object]
  split
  · cases membersJson? members with
    | none => rfl
    | some js => exact h js
  · rfl

theorem toOption_decodeString (p : Pointer) (former : String) (v : Scan) :
    (decodeString p former v).toOption = v.json?.bind stringOn := by
  unfold decodeString
  rw [toOption_bind, toOption_checkForm]
  cases v with
  | null | bool | number | string | broken => rfl
  | array items stop e =>
    rw [array_bind_eq_none fun _ => rfl]
    cases (Scan.array items stop e).json? <;> rfl
  | object members stop e =>
    rw [object_bind_eq_none fun _ => rfl]
    cases (Scan.object members stop e).json? <;> rfl

/-- The truth value that a value stands for. -/
def boolOn : Json → Option Bool
  | .bool b => some b
  | .null => some false
  | _ => none

theorem toOption_decodeBool (p : Pointer) (former : Bool) (v : Scan) :
    (decodeBool p former v).toOption = v.json?.bind boolOn := by
  cases v with
  | null | bool | number | string | broken => rfl
  | array items stop e => exact (array_bind_eq_none (fun _ => rfl) items stop e).symm
  | object members stop e => exact (object_bind_eq_none (fun _ => rfl) members stop e).symm

/-- Null stands for none. -/
def optionOn {α : Type} (f : Json → Option α) : Json → Option (Option α)
  | .null => some none
  | j => (f j).map some

theorem toOption_decodeOption {α : Type} [Inhabited α] {d : Decoder α} (h : Faithful d) (p : Pointer)
    (former : Option α) (v : Scan) :
    (decodeOption d p former v).toOption =
      v.json?.bind (optionOn (onJson d (former.getD default))) := by
  have hd := h p (former.getD default) v
  cases v with
  | null => rfl
  | bool | number | string | broken =>
    simp only [decodeOption, toOption_map, hd]
    rfl
  | array items stop e =>
    simp only [decodeOption, toOption_map, hd]
    rw [json?_array]
    split
    · cases itemsJson? items <;> rfl
    · rfl
  | object members stop e =>
    simp only [decodeOption, toOption_map, hd]
    rw [json?_object]
    split
    · cases membersJson? members <;> rfl
    · rfl

/-- Null stands for no list, and an array for the list of what its items stand for. -/
def listOn {α : Type} (f : Json → Option α) : Json → Option (Option (List α))
  | .null => some none
  | .array items => (items.mapM f).map some
  | _ => none

theorem toOption_decodeItems {α : Type} {d : Decoder α} (h : Faithful d) (fresh : α) (p : Pointer)
    (stop : ArrayEnd) (index : Nat) (items : List Scan) :
    (decodeItems d fresh p stop index items).toOption =
      if stop = .closed then (itemsJson? items).bind (List.mapM (onJson d fresh)) else none := by
  induction items generalizing index with
  | nil => cases stop <;> rfl
  | cons v rest ih =>
    rw [decodeItems, toOption_bind, h]
    simp only [toOption_bind, ih]
    split
    · cases hj : v.json? with
      | none => simp [itemsJson?, hj]
      | some j =>
        cases hr : itemsJson? rest with
        | none => simp [itemsJson?, hj, hr]
        | some js =>
          have hcons : itemsJson? (v :: rest) = some (j :: js) := by simp [itemsJson?, hj, hr]
          rw [hcons, Option.bind_some, Option.bind_some, Option.bind_some, List.mapM_cons]
          rfl
    · simp

theorem toOption_decodeList {α : Type} [Inhabited α] {d : Decoder α} (h : Faithful d) (p : Pointer)
    (former : Option (List α)) (v : Scan) :
    (decodeList d p former v).toOption = v.json?.bind (listOn (onJson d default)) := by
  cases v with
  | null | bool | number | string | broken => rfl
  | array items stop e =>
    simp only [decodeList, toOption_map, toOption_decodeItems h, json?_array]
    split
    · cases itemsJson? items <;> rfl
    · rfl
  | object members stop e => exact (object_bind_eq_none (fun _ => rfl) members stop e).symm

/-! ### Records -/

/-- What a member makes of a record. A member that is not known changes nothing. -/
def memberOn {α : Type} (known : List (Member α)) (former : α) (m : String × Json) : Option α :=
  match known.find? (·.name == m.1) with
  | some k => onJson k.decode former m.2
  | none => some former

/-- Null stands for the default record, and the members of an object change the former one in their
order. -/
def recordOn {α : Type} [Inhabited α] (known : List (Member α)) (former : α) : Json → Option α
  | .null => some default
  | .object members => members.foldlM (memberOn known) former
  | _ => none

theorem toOption_decodeMembers {α : Type} {known : List (Member α)}
    (h : ∀ k ∈ known, Faithful k.decode) (p : Pointer) (stop : ObjectEnd) (former : α)
    (members : List (String × Scan)) :
    (decodeMembers known p stop former members).toOption =
      if stop = .closed then
        (membersJson? members).bind (List.foldlM (memberOn known) former)
      else none := by
  induction members generalizing former with
  | nil => cases stop <;> rfl
  | cons m rest ih =>
    obtain ⟨name, v⟩ := m
    -- what the first member makes of the record, if it has no fault
    obtain ⟨r, hr, hstep⟩ : ∃ r : Except Fault α,
        r.toOption = (v.json?.bind fun j => memberOn known former (name, j)) ∧
          decodeMembers known p stop former ((name, v) :: rest) =
            r >>= fun next => decodeMembers known p stop next rest := by
      rw [decodeMembers]
      cases hfind : known.find? (·.name == name) with
      | some k =>
        refine ⟨k.decode (p.member name) former v, ?_, rfl⟩
        simp only [memberOn, hfind]
        exact h k (List.mem_of_find?_eq_some hfind) _ _ _
      | none =>
        refine ⟨(checkForm false (p.member name) v).map fun _ => former, ?_, rfl⟩
        simp only [memberOn, hfind, toOption_map, toOption_checkForm]
        cases v.json? <;> rfl
    rw [hstep, toOption_bind, hr]
    simp only [ih]
    split
    · cases hj : v.json? with
      | none => simp [membersJson?, hj]
      | some j =>
        cases hr : membersJson? rest with
        | none => simp [membersJson?, hj, hr]
        | some js =>
          have hcons : membersJson? ((name, v) :: rest) = some ((name, j) :: js) := by
            simp [membersJson?, hj, hr]
          rw [hcons, Option.bind_some, Option.bind_some, List.foldlM_cons]
          rfl
    · simp

/-- Nothing comes out of an object without an end, whatever its members are. -/
theorem toOption_decodeMembers_unclosed {α : Type} (known : List (Member α)) (p : Pointer)
    {stop : ObjectEnd} (hstop : stop ≠ .closed) (former : α) (members : List (String × Scan)) :
    (decodeMembers known p stop former members).toOption = none := by
  induction members generalizing former with
  | nil =>
    cases stop with
    | closed => exact absurd rfl hstop
    | cut | cutAt => rfl
  | cons m rest ih =>
    rw [decodeMembers]
    split <;> rw [toOption_bind] <;> simp [ih]

theorem toOption_decodeRecord {α : Type} [Inhabited α] {known : List (Member α)}
    (h : ∀ k ∈ known, Faithful k.decode) (p : Pointer) (former : α) (v : Scan) :
    (decodeRecord known p former v).toOption = v.json?.bind (recordOn known former) := by
  cases v with
  | null | bool | number | string | broken => rfl
  | array items stop e => exact (array_bind_eq_none (fun _ => rfl) items stop e).symm
  | object members stop e =>
    simp only [decodeRecord, toOption_decodeMembers h, json?_object]
    split
    · cases membersJson? members <;> rfl
    · rfl

/-! ### Faithful decoders -/

theorem faithful_decodeString : Faithful decodeString :=
  faithful_of_meaning (g := fun _ => stringOn) toOption_decodeString

theorem faithful_decodeBool : Faithful decodeBool :=
  faithful_of_meaning (g := fun _ => boolOn) toOption_decodeBool

section Parts

variable {α : Type} [Inhabited α] {d : Decoder α} (h : Faithful d)
include h

theorem faithful_decodeOption : Faithful (decodeOption d) :=
  faithful_of_meaning (g := fun former => optionOn (onJson d (former.getD default)))
    (toOption_decodeOption h)

theorem faithful_decodeList : Faithful (decodeList d) :=
  faithful_of_meaning (g := fun _ => listOn (onJson d default)) (toOption_decodeList h)

theorem onJson_decodeOption (former : Option α) :
    onJson (decodeOption d) former = optionOn (onJson d (former.getD default)) :=
  onJson_of_meaning (g := fun former => optionOn (onJson d (former.getD default)))
    (toOption_decodeOption h) former

theorem onJson_decodeList (former : Option (List α)) :
    onJson (decodeList d) former = listOn (onJson d default) :=
  onJson_of_meaning (g := fun _ => listOn (onJson d default)) (toOption_decodeList h) former

end Parts

theorem toOption_member {α β : Type} {d : Decoder β} (h : Faithful d) (name : String) (get : α → β)
    (set : β → α → α) (p : Pointer) (former : α) (v : Scan) :
    ((Member.of name get set d).decode p former v).toOption =
      v.json?.bind fun j => (onJson d (get former) j).map fun b => set b former := by
  rw [Member.of, toOption_map, h]
  cases v.json? <;> rfl

theorem faithful_member {α β : Type} {d : Decoder β} (h : Faithful d) (name : String) (get : α → β)
    (set : β → α → α) : Faithful (Member.of name get set d).decode :=
  faithful_of_meaning (g := fun former j => (onJson d (get former) j).map fun b => set b former)
    (toOption_member h name get set)

theorem onJson_member {α β : Type} {d : Decoder β} (h : Faithful d) (name : String) (get : α → β)
    (set : β → α → α) (former : α) (j : Json) :
    onJson (Member.of name get set d).decode former j =
      (onJson d (get former) j).map fun b => set b former :=
  congrFun (onJson_of_meaning
    (g := fun former j => (onJson d (get former) j).map fun b => set b former)
    (toOption_member h name get set) former) j

section Records

variable {α : Type} [Inhabited α] {known : List (Member α)} (h : ∀ k ∈ known, Faithful k.decode)
include h

theorem faithful_decodeRecord : Faithful (decodeRecord known) :=
  faithful_of_meaning (g := recordOn known) (toOption_decodeRecord h)

theorem onJson_decodeRecord (former : α) :
    onJson (decodeRecord known) former = recordOn known former :=
  onJson_of_meaning (toOption_decodeRecord h) former

/-- An object with one member that is known. -/
theorem onJson_decodeRecord_single {β : Type} {d : Decoder β} (hd : Faithful d) (name : String)
    {get : α → β} {set : β → α → α}
    (hfind : known.find? (·.name == name) = some (Member.of name get set d)) (former : α) (j : Json) :
    onJson (decodeRecord known) former (.object [(name, j)]) =
      (onJson d (get former) j).map fun b => set b former := by
  rw [onJson_decodeRecord h, recordOn, List.foldlM_cons, memberOn, hfind]
  exact (Option.bind_fun_some _).trans (onJson_member hd name get set former j)

end Records

/-! ### Whole texts -/

section Texts

variable {α : Type} {d : Decoder α} (h : Faithful d) (former : α) {j : Json} {text : List Char}
  (hdoc : Document j text)
include h hdoc

/-- What a decoder makes of a whole text is what it makes of the value that the text spells. -/
theorem toOption_decodeText (hdepth : j.depth ≤ Scan.levelLimit) :
    (decodeText d former text).toOption = onJson d former j := by
  obtain ⟨v, hread, hv⟩ := hdoc.read hdepth
  have hd := h [] former v
  rw [hv, Option.bind_some] at hd
  rw [decodeText, hread, toOption_bind, hd]
  cases onJson d former j <;> rfl

/-- Nothing comes out of a text that is nested too deep. -/
theorem toOption_decodeText_tooDeep (hdepth : Scan.levelLimit < j.depth) :
    (decodeText d former text).toOption = none := by
  obtain ⟨v, hread, hv⟩ := hdoc.read_tooDeep hdepth
  have hd := h [] former v
  rw [hv, Option.bind_none] at hd
  rw [decodeText, hread, toOption_bind, hd, Option.bind_none]

end Texts

/-! ### The depth of a scan -/

theorem itemsDepth_of_itemsJson? {items : List Scan} {js : List Json}
    (h : ∀ i ∈ items, ∀ j, i.json? = some j → i.depth = j.depth) (hjs : itemsJson? items = some js) :
    Scan.itemsDepth items = Json.itemsDepth js := by
  induction items generalizing js with
  | nil =>
    cases hjs
    rfl
  | cons v rest ih =>
    obtain ⟨hv, hrest⟩ := List.forall_mem_cons.mp h
    cases hj : v.json? with
    | none => simp [itemsJson?, hj] at hjs
    | some j =>
      cases hr : itemsJson? rest with
      | none => simp [itemsJson?, hj, hr] at hjs
      | some more =>
        obtain rfl : j :: more = js := by simpa [itemsJson?, hj, hr] using hjs
        rw [Scan.itemsDepth, Json.itemsDepth, hv j hj, ih hrest hr]

theorem membersDepth_of_membersJson? {members : List (String × Scan)} {js : List (String × Json)}
    (h : ∀ m ∈ members, ∀ j, m.2.json? = some j → m.2.depth = j.depth)
    (hjs : membersJson? members = some js) :
    Scan.membersDepth members = Json.membersDepth js := by
  induction members generalizing js with
  | nil =>
    cases hjs
    rfl
  | cons m rest ih =>
    obtain ⟨name, v⟩ := m
    obtain ⟨hv, hrest⟩ := List.forall_mem_cons.mp h
    cases hj : v.json? with
    | none => simp [membersJson?, hj] at hjs
    | some j =>
      cases hr : membersJson? rest with
      | none => simp [membersJson?, hj, hr] at hjs
      | some more =>
        obtain rfl : (name, j) :: more = js := by simpa [membersJson?, hj, hr] using hjs
        rw [Scan.membersDepth, Json.membersDepth, hv j hj, ih hrest hr]

/-- A scan is as deep as its value. -/
theorem depth_of_json? {v : Scan} {j : Json} (h : v.json? = some j) : v.depth = j.depth := by
  induction v using Scan.inductionOn generalizing j with
  | null | bool | number | string =>
    cases h
    rfl
  | broken => cases h
  | array items stop e ih =>
    rw [json?_array] at h
    split at h
    · obtain ⟨js, hjs, rfl⟩ := Option.map_eq_some_iff.mp h
      rw [Scan.depth, Json.depth, itemsDepth_of_itemsJson? (fun i hi j => ih i hi) hjs]
    · cases h
  | object members stop e ih =>
    rw [json?_object] at h
    split at h
    · obtain ⟨js, hjs, rfl⟩ := Option.map_eq_some_iff.mp h
      rw [Scan.depth, Json.depth, membersDepth_of_membersJson? (fun m hm j => ih m hm) hjs]
    · cases h

end Bindery.Json
