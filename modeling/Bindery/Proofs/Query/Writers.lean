import Bindery.Proofs.Query.Parts
import Bindery.Proofs.Query.Sharing
import Mathlib.Logic.Basic

/-!
# Arguments that stop the program

A value that writes itself may be missing: an interface for such values can hold a pointer to nothing.
Writing such a hollow value does not return. Values are written part by part up to the first part that
cannot be written, so a program stops exactly if that part is hollow or stops in turn. A pointer to nothing
does no harm anywhere else: it is left out or written as null, as if nothing at all stood there.

## Main definitions

- `Value.Stops`, `Value.ArgumentsStop` — values and arguments that stop the program
- `Value.cleared` — a value without its pointers to nothing
- `Written.Mends` — what is written after a repair that is needed only where the program stops

## Main results

- `Value.stopped_write_iff` — writing does not return exactly for the values that stop the program
- `Value.mends_write` — pointers to nothing make no difference where the program does not stop
- `History.withArguments_returns_iff` — which arguments can be given to a selection, and as what
-/

namespace Bindery

namespace Written

/-- A value that should write itself is missing, so that writing does not return. -/
def Stopped {α : Type} (w : Except ArgumentError α) : Prop :=
  ∃ path, w = .error ⟨path, .missingWriter⟩

theorem not_stopped_ok {α : Type} (a : α) : ¬Stopped (.ok a) := by
  rintro ⟨path, h⟩
  cases h

theorem isOk_of_stopped {α : Type} {w : Except ArgumentError α} (h : Stopped w) : w.isOk = false := by
  obtain ⟨path, rfl⟩ := h
  rfl

theorem stopped_error {α β : Type} {e : ArgumentError} (h : Stopped (.error e : Except _ α)) :
    Stopped (.error e : Except _ β) := by
  obtain ⟨path, h⟩ := h
  exact ⟨path, congrArg Except.error (Except.error.inj h)⟩

theorem stopped_map {α β : Type} {w : Except ArgumentError α} {f : α → β} :
    Stopped (w.map f) ↔ Stopped w := by
  cases w with
  | ok a => exact ⟨fun h => absurd h (not_stopped_ok _), fun h => absurd h (not_stopped_ok _)⟩
  | error e => simp [Stopped, Except.map]

theorem stopped_named {name : Octets} {w : Written} : Stopped (named name w) ↔ Stopped w := by
  cases w with
  | ok o => exact ⟨fun h => absurd h (not_stopped_ok _), fun h => absurd h (not_stopped_ok _)⟩
  | error e =>
    obtain ⟨path, cause⟩ := e
    simp [Stopped, named, ArgumentError.under]

theorem isOk_named (name : Octets) (w : Written) : (named name w).isOk = w.isOk := by
  cases w <;> rfl

theorem mapM_cons_error (e : ArgumentError) (ws : List Written) :
    (.error e :: ws).mapM id = .error e := by
  rw [List.mapM_cons]
  rfl

theorem mapM_cons_ok (o : Octets) (ws : List Written) :
    (.ok o :: ws).mapM id = (ws.mapM id).map (o :: ·) := by
  rw [List.mapM_cons]
  cases ws.mapM id <;> rfl

theorem stopped_cons {w : Written} {ws : List Written} (h : Stopped w) :
    Stopped ((w :: ws).mapM id) := by
  obtain ⟨path, rfl⟩ := h
  exact ⟨path, mapM_cons_error _ ws⟩

/-- Items stop the program if the first of them that cannot be written does. -/
theorem stopped_mapM_iff (ws : List Written) :
    Stopped (ws.mapM id) ↔ ∃ w, ws.find? (fun w => !w.isOk) = some w ∧ Stopped w := by
  induction ws with
  | nil =>
    have hnone : ¬Stopped (([] : List Written).mapM id) := not_stopped_ok []
    simpa using hnone
  | cons w ws ih =>
    cases w with
    | error e =>
      rw [mapM_cons_error, List.find?_cons_of_pos rfl]
      simp [Stopped]
    | ok o =>
      rw [mapM_cons_ok, stopped_map, ih, List.find?_cons_of_neg (by simp [Except.isOk, Except.toBool])]

theorem stopped_items_iff (ws : List Written) :
    Stopped (items ws) ↔ ∃ w, ws.find? (fun w => !w.isOk) = some w ∧ Stopped w := by
  rw [items, stopped_map, stopped_mapM_iff]

/-- Fields stop the program if the first of them that cannot be written does. -/
theorem stopped_fields_iff (ws : List (Octets × Written)) :
    Stopped (fields ws) ↔ ∃ f, ws.find? (fun f => !f.2.isOk) = some f ∧ Stopped f.2 := by
  have hfirst : (fun w : Written => !w.isOk) ∘ (fun f : Octets × Written => named f.1 f.2) =
      fun f => !f.2.isOk := by
    funext f
    exact congrArg (!·) (isOk_named f.1 f.2)
  have hfields : fields ws = items (ws.map fun f => named f.1 f.2) := rfl
  rw [hfields, stopped_items_iff, List.find?_map, hfirst]
  constructor
  · rintro ⟨w, hw, hstop⟩
    obtain ⟨f, hf, rfl⟩ := Option.map_eq_some_iff.mp hw
    exact ⟨f, hf, stopped_named.mp hstop⟩
  · rintro ⟨f, hf, hstop⟩
    exact ⟨named f.1 f.2, by rw [hf]; rfl, stopped_named.mpr hstop⟩

/-- The second of two writings returns, and the first one gives the same if it returns. -/
structure Mends {α : Type} (w w' : Except ArgumentError α) : Prop where
  returns : ¬Stopped w'
  agrees : ¬Stopped w → w = w'

namespace Mends

theorem refl {α : Type} {w : Except ArgumentError α} (h : ¬Stopped w) : Mends w w :=
  ⟨h, fun _ => rfl⟩

theorem map {α β : Type} {w w' : Except ArgumentError α} (h : Mends w w') (f : α → β) :
    Mends (w.map f) (w'.map f) := by
  constructor
  · exact fun hstop => h.returns (stopped_map.mp hstop)
  · intro hw
    rw [h.agrees fun hstop => hw (stopped_map.mpr hstop)]

theorem named {w w' : Written} (h : Mends w w') (name : Octets) :
    Mends (Written.named name w) (Written.named name w') := by
  constructor
  · exact fun hstop => h.returns (stopped_named.mp hstop)
  · intro hw
    rw [h.agrees fun hstop => hw (stopped_named.mpr hstop)]

/-- Only the first failure counts, so what comes after it may stop the program or not. -/
theorem mapM {α : Type} {f g : α → Written} {xs : List α} (h : ∀ x ∈ xs, Mends (f x) (g x)) :
    Mends ((xs.map f).mapM id) ((xs.map g).mapM id) := by
  induction xs with
  | nil => exact refl (not_stopped_ok [])
  | cons x xs ih =>
    have hx : Mends (f x) (g x) := h x List.mem_cons_self
    have hrest := ih fun y hy => h y (List.mem_cons_of_mem x hy)
    have hfirst : ¬Stopped ((f x :: xs.map f).mapM id) → f x = g x :=
      fun hw => hx.agrees fun hstop => hw (stopped_cons hstop)
    rw [List.map_cons, List.map_cons]
    cases hg : g x with
    | error e =>
      -- both writings end here, and the rest is not looked at
      have hreturns : ¬Stopped (.error e : Written) := hg ▸ hx.returns
      rw [mapM_cons_error]
      refine ⟨fun hstop => hreturns (stopped_error hstop), fun hw => ?_⟩
      rw [hfirst hw, hg, mapM_cons_error]
    | ok o =>
      rw [mapM_cons_ok]
      refine ⟨fun hstop => hrest.returns (stopped_map.mp hstop), fun hw => ?_⟩
      have hf : f x = .ok o := (hfirst hw).trans hg
      rw [hf, mapM_cons_ok] at hw ⊢
      rw [hrest.agrees fun hstop => hw (stopped_map.mpr hstop)]

theorem items {α : Type} {f g : α → Written} {xs : List α} (h : ∀ x ∈ xs, Mends (f x) (g x)) :
    Mends (Written.items (xs.map f)) (Written.items (xs.map g)) :=
  (mapM h).map _

end Mends

end Written

namespace Value

open Written (Stopped not_stopped_ok Mends)

/-! ### Values that stop the program -/

/-- Whether a value is an interface for values that write themselves and holds a pointer to nothing. -/
def isHollow : Value → Bool
  | interface .writer (nilPointer _) => true
  | _ => false

/-- The first part of a value that cannot be written. -/
def firstRefused (ps : List (Bool × Value)) : Option (Bool × Value) :=
  ps.find? fun p => !(p.2.write p.1).isOk

/-- The values that stop the program: a hollow value, and a value whose first part that cannot be written
stops the program. -/
inductive Stops : Bool → Value → Prop
  | hollow {stored : Bool} {v : Value} (hollow : v.isHollow = true) : Stops stored v
  | part {stored : Bool} {v : Value} {p : Bool × Value}
      (first : firstRefused (v.parts stored) = some p) (stops : Stops p.1 p.2) : Stops stored v

theorem mem_inner_of_firstRefused {v : Value} {stored : Bool} {p : Bool × Value}
    (h : firstRefused (v.parts stored) = some p) : p.2 ∈ v.inner :=
  mem_inner_of_mem_parts (List.mem_of_find?_eq_some h)

theorem stopped_single_iff {p : Bool × Value} :
    (∃ q, firstRefused [p] = some q ∧ Stopped (q.2.write q.1)) ↔ Stopped (p.2.write p.1) := by
  constructor
  · rintro ⟨q, hfirst, hstop⟩
    obtain rfl := List.mem_singleton.mp (List.mem_of_find?_eq_some hfirst)
    exact hstop
  · intro hstop
    exact ⟨p, by simp [firstRefused, Written.isOk_of_stopped hstop], hstop⟩

theorem stopped_list_iff (stored : Bool) (items : List Value) :
    Stopped (Written.between '[' ']' (.items (writeItems stored items))) ↔
      ∃ p, firstRefused (items.map (stored, ·)) = some p ∧ Stopped (p.2.write p.1) := by
  rw [Written.between, Written.stopped_map, Written.stopped_items_iff, writeItems_map, List.find?_map,
    firstRefused, List.find?_map]
  simp only [Option.map_eq_some_iff, exists_exists_and_eq_and, Function.comp_def]

theorem stopped_fields_shown (stored : Bool) (fs : List (Octets × Value)) :
    Stopped (Written.fields (fs.map fun f => (f.1, f.2.write stored))) ↔
      ∃ p, firstRefused (fs.map fun f => (stored, f.2)) = some p ∧ Stopped (p.2.write p.1) := by
  rw [Written.stopped_fields_iff, List.find?_map, firstRefused, List.find?_map]
  simp only [Option.map_eq_some_iff, exists_exists_and_eq_and, Function.comp_def]

theorem not_stopped_writeJson (v : Value) : ¬Stopped v.writeJson := by
  rintro ⟨path, h⟩
  unfold writeJson at h
  split at h <;> cases h

theorem not_stopped_refuse {cause : ArgumentCause} (h : cause ≠ .missingWriter) :
    ¬Stopped (Written.refuse cause) := by
  rintro ⟨path, hw⟩
  obtain ⟨-, rfl⟩ := ArgumentError.mk.inj (Except.error.inj hw)
  exact h rfl

theorem write_of_isHollow {v : Value} (h : v.isHollow = true) (stored : Bool) :
    v.write stored = .refuse .missingWriter := by
  unfold isHollow at h
  split at h
  · rfl
  · cases h

theorem write_interface {kind : InterfaceKind} {content : Value}
    (h : (interface kind content).isHollow = false) (stored : Bool) :
    (interface kind content).write stored = content.write false := by
  cases kind with
  | any => rfl
  | writer =>
    cases content with
    | nilPointer => cases h
    | _ => rfl

theorem stopped_nil_iff {w : Written} (h : ¬Stopped w) :
    Stopped w ↔ ∃ p, firstRefused [] = some p ∧ Stopped (p.2.write p.1) := by
  simpa [firstRefused] using h

theorem stopped_mapFields_iff (key item : DataType) (entries : List (Value × Value)) (stored : Bool) :
    Stopped (mapFields key (writeEntries entries)) ↔
      ∃ p, firstRefused ((map key item entries).parts stored) = some p ∧ Stopped (p.2.write p.1) := by
  cases key with
  | text kind =>
    rw [mapFields, writeEntries_shown]
    exact stopped_fields_shown false _
  | _ => exact stopped_nil_iff (not_stopped_refuse (by simp))

/-- A value that is not hollow stops the program if its first part that cannot be written does. -/
theorem stopped_write_parts {v : Value} (h : v.isHollow = false) (stored : Bool) :
    Stopped (v.write stored) ↔
      ∃ p, firstRefused (v.parts stored) = some p ∧ Stopped (p.2.write p.1) := by
  cases v with
  | interface kind content =>
    rw [write_interface h]
    exact (stopped_single_iff (p := (false, content))).symm
  | pointer target => exact (stopped_single_iff (p := (true, target))).symm
  | slice item items => exact stopped_list_iff true items
  | array item items => exact stopped_list_iff stored items
  | record members =>
    rw [write, Written.between, Written.stopped_map, writeMembers_shown]
    exact stopped_fields_shown stored _
  | map key item entries =>
    rw [write, Written.between, Written.stopped_map]
    exact stopped_mapFields_iff key item entries stored
  -- the other values have no parts, and none of them writes itself through a pointer
  | text kind o =>
    refine stopped_nil_iff ?_
    cases kind with
    | enum => exact not_stopped_ok o
    | storedEnum =>
      rw [write]
      split
      · exact not_stopped_ok o
      · exact not_stopped_writeJson _
    | _ => exact not_stopped_writeJson _
  | integer kind n =>
    refine stopped_nil_iff ?_
    cases kind with
    | uintptr => exact not_stopped_refuse (by simp)
    | _ => exact not_stopped_writeJson _
  | complex | routine | channel => exact stopped_nil_iff (not_stopped_refuse (by simp))
  | nilInterface | nilPointer | nilSlice | nilMap | schema => exact stopped_nil_iff (not_stopped_ok _)
  | bool | float | time | raw => exact stopped_nil_iff (not_stopped_writeJson _)

theorem stopped_of_isHollow {v : Value} (h : v.isHollow = true) (stored : Bool) :
    Stopped (v.write stored) :=
  ⟨[], write_of_isHollow h stored⟩

/-- Writing a value does not return exactly if the value stops the program. -/
theorem stopped_write_iff {v : Value} {stored : Bool} : Stopped (v.write stored) ↔ v.Stops stored := by
  constructor
  · -- a part is smaller than the whole
    induction v using inner_induction generalizing stored with
    | step v ih =>
      intro hstop
      cases hhollow : v.isHollow with
      | true => exact .hollow hhollow
      | false =>
        obtain ⟨p, hfirst, hpart⟩ := (stopped_write_parts hhollow stored).mp hstop
        exact .part hfirst (ih p.2 (mem_inner_of_firstRefused hfirst) hpart)
  · intro hstops
    induction hstops with
    | hollow hhollow => exact stopped_of_isHollow hhollow _
    | @part stored v p first _ ih =>
      cases hhollow : v.isHollow with
      | true => exact stopped_of_isHollow hhollow _
      | false => exact (stopped_write_parts hhollow stored).mpr ⟨p, first, ih⟩

/-! ### Pointers to nothing -/

/-- Whether a value is a pointer to nothing. -/
def isNilPointer : Value → Bool
  | nilPointer _ => true
  | _ => false

mutual

/-- The value without its pointers to nothing: members and entries that are such pointers are not there,
and anywhere else nothing at all stands in their place. -/
def cleared : Value → Value
  | nilPointer _ => nilInterface .any
  | interface kind content => interface kind content.cleared
  | pointer target => pointer target.cleared
  | slice item items => slice item (clearedItems items)
  | array item items => array item (clearedItems items)
  | map key item entries => map key item (clearedEntries entries)
  | record members => record (clearedMembers members)
  | v => v

/-- The items without their pointers to nothing. -/
def clearedItems : List Value → List Value
  | [] => []
  | v :: rest => v.cleared :: clearedItems rest

/-- The entries without their pointers to nothing. -/
def clearedEntries : List (Value × Value) → List (Value × Value)
  | [] => []
  | (key, v) :: rest =>
    if v.isNilPointer then clearedEntries rest else (key, v.cleared) :: clearedEntries rest

/-- The members without their pointers to nothing. -/
def clearedMembers : List (MemberLabel × Value) → List (MemberLabel × Value)
  | [] => []
  | (label, v) :: rest =>
    if v.isNilPointer then clearedMembers rest else (label, v.cleared) :: clearedMembers rest

end

theorem clearedItems_eq (items : List Value) : clearedItems items = items.map cleared := by
  induction items with
  | nil => rfl
  | cons v rest ih => rw [clearedItems, ih, List.map_cons]

theorem isAbsent_of_isNilPointer {v : Value} (h : v.isNilPointer = true) : v.isAbsent = true := by
  cases v with
  | nilPointer => rfl
  | _ => cases h

theorem isZero_of_isNilPointer {v : Value} (h : v.isNilPointer = true) : v.isZero = true := by
  cases v with
  | nilPointer => rfl
  | _ => cases h

theorem isAbsent_cleared (v : Value) : v.cleared.isAbsent = v.isAbsent := by
  cases v <;> rfl

theorem allZero_cleared {items : List Value} (h : ∀ u ∈ items, u.cleared.isZero = u.isZero) :
    allZero (clearedItems items) = allZero items := by
  induction items with
  | nil => rfl
  | cons v rest ih =>
    have hrest := ih fun u hu => h u (List.mem_cons_of_mem v hu)
    rw [clearedItems, allZero, allZero, h v List.mem_cons_self, hrest]

theorem allMembersZero_cleared {members : List (MemberLabel × Value)}
    (h : ∀ m ∈ members, m.2.cleared.isZero = m.2.isZero) :
    allMembersZero (clearedMembers members) = allMembersZero members := by
  induction members with
  | nil => rfl
  | cons m rest ih =>
    obtain ⟨label, v⟩ := m
    have hrest := ih fun m' hm => h m' (List.mem_cons_of_mem (label, v) hm)
    have hv : v.cleared.isZero = v.isZero := h (label, v) List.mem_cons_self
    rw [clearedMembers, allMembersZero, ← hrest]
    cases hnil : v.isNilPointer with
    | true =>
      -- the member is gone, and it said nothing anyway
      rw [if_pos rfl, isZero_of_isNilPointer hnil, Bool.true_and]
    | false => rw [if_neg Bool.false_ne_true, allMembersZero, hv]

theorem isZero_cleared (v : Value) : v.cleared.isZero = v.isZero := by
  induction v using inner_induction with
  | step v ih =>
    cases v with
    | array item items => exact allZero_cleared ih
    | record members => exact allMembersZero_cleared fun m hm => ih m.2 (List.mem_map_of_mem hm)
    | _ => rfl

theorem argumentName?_cleared (label : MemberLabel) (v : Value) :
    argumentName? label v.cleared = argumentName? label v := by
  simp only [argumentName?, isAbsent_cleared, isZero_cleared]

theorem argumentName?_of_isAbsent (label : MemberLabel) {v : Value} (h : v.isAbsent = true) :
    argumentName? label v = none := by
  unfold argumentName?
  split <;> simp [h]

theorem shownMembers_cleared (members : List (MemberLabel × Value)) :
    shownMembers (clearedMembers members) =
      (shownMembers members).map fun f => (f.1, f.2.cleared) := by
  induction members with
  | nil => rfl
  | cons m rest ih =>
    obtain ⟨label, v⟩ := m
    rw [clearedMembers, shownMembers_cons]
    cases hnil : v.isNilPointer with
    | true =>
      rw [if_pos rfl, argumentName?_of_isAbsent label (isAbsent_of_isNilPointer hnil), ih]
      rfl
    | false =>
      rw [if_neg Bool.false_ne_true, shownMembers_cons, argumentName?_cleared, ih]
      cases argumentName? label v <;> rfl

theorem entryName?_cleared (key v : Value) : entryName? (key, v.cleared) = entryName? (key, v) := by
  cases key with
  | text => simp only [entryName?, isAbsent_cleared]
  | _ => rfl

theorem entryName?_of_isAbsent (key : Value) {v : Value} (h : v.isAbsent = true) :
    entryName? (key, v) = none := by
  cases key with
  | text => simp [entryName?, h]
  | _ => rfl

theorem presentEntries_cleared (entries : List (Value × Value)) :
    presentEntries (clearedEntries entries) =
      (presentEntries entries).map fun f => (f.1, f.2.cleared) := by
  induction entries with
  | nil => rfl
  | cons e rest ih =>
    obtain ⟨key, v⟩ := e
    rw [clearedEntries, presentEntries_cons]
    cases hnil : v.isNilPointer with
    | true =>
      rw [if_pos rfl, entryName?_of_isAbsent key (isAbsent_of_isNilPointer hnil), ih]
      rfl
    | false =>
      rw [if_neg Bool.false_ne_true, presentEntries_cons, entryName?_cleared, ih]
      cases entryName? (key, v) <;> rfl

theorem shownEntries_cleared (entries : List (Value × Value)) :
    shownEntries (clearedEntries entries) =
      (shownEntries entries).map fun f => (f.1, f.2.cleared) := by
  rw [shownEntries, presentEntries_cleared, shownEntries]
  refine (List.map_mergeSort ?_).symm
  intro a _ b _
  rfl

/-! ### Mended arguments -/

theorem isHollow_interface_cleared (kind : InterfaceKind) (content : Value) :
    (interface kind content.cleared).isHollow = false := by
  cases kind with
  | any => rfl
  | writer => cases content <;> rfl

theorem mends_fields {fs : List (Octets × Value)} {stored : Bool}
    (h : ∀ f ∈ fs, Mends (f.2.write stored) (f.2.cleared.write stored)) :
    Mends (Written.fields (fs.map fun f => (f.1, f.2.write stored)))
      (Written.fields ((fs.map fun f => (f.1, f.2.cleared)).map fun f => (f.1, f.2.write stored))) := by
  simp only [Written.fields, List.map_map]
  exact Mends.items fun f hf => (h f hf).named f.1

theorem mends_mapFields (key item : DataType) {entries : List (Value × Value)}
    (h : ∀ u ∈ (map key item entries).inner, Mends (u.write false) (u.cleared.write false)) :
    Mends (mapFields key (writeEntries entries)) (mapFields key (writeEntries (clearedEntries entries))) := by
  cases key with
  | text kind =>
    rw [mapFields, mapFields, writeEntries_shown, writeEntries_shown, shownEntries_cleared]
    exact mends_fields fun f hf => h f.2 (mem_inner_of_mem_shownEntries hf)
  | _ => exact .refl (not_stopped_refuse (by simp))

/-- Pointers to nothing make no difference where the program does not stop, and without them it never
stops. -/
theorem mends_write (v : Value) (stored : Bool) : Mends (v.write stored) (v.cleared.write stored) := by
  induction v using inner_induction generalizing stored with
  | step v ih =>
    cases v with
    | interface kind content =>
      have hcontent := ih content (List.mem_singleton_self _) false
      rw [cleared, write_interface (isHollow_interface_cleared kind content)]
      cases hhollow : (interface kind content).isHollow with
      | true =>
        -- only here the program stops, so that there is nothing to agree with
        exact ⟨hcontent.returns, fun hw => absurd (stopped_of_isHollow hhollow stored) hw⟩
      | false =>
        rw [write_interface hhollow]
        exact hcontent
    | pointer target => exact ih target (List.mem_singleton_self _) true
    | slice item items =>
      rw [cleared, write, write, writeItems_map, writeItems_map, clearedItems_eq, List.map_map]
      exact (Mends.items fun u hu => ih u hu true).map _
    | array item items =>
      rw [cleared, write, write, writeItems_map, writeItems_map, clearedItems_eq, List.map_map]
      exact (Mends.items fun u hu => ih u hu stored).map _
    | record members =>
      rw [cleared, write, write, writeMembers_shown, writeMembers_shown, shownMembers_cleared]
      exact (mends_fields fun f hf => ih f.2 (mem_inner_of_mem_shownMembers hf) stored).map _
    | map key item entries =>
      rw [cleared, write, write]
      exact (mends_mapFields key item fun u hu => ih u hu false).map _
    | nilPointer => exact .refl (not_stopped_ok _)
    | _ =>
      refine .refl fun hstop => ?_
      obtain ⟨p, hfirst, -⟩ := (stopped_write_parts rfl stored).mp hstop
      cases hfirst

/-! ### Argument lists -/

/-- The parts of the argument list of a value, in the order of writing, each with whether it is stored. -/
def argumentParts (stored : Bool) : Value → List (Bool × Value)
  | interface _ content => content.argumentParts false
  | pointer target => target.argumentParts true
  | map key item entries => (map key item entries).parts stored
  | record members => (record members).parts stored
  | _ => []

/-- The arguments that stop the program: the first part of their list that cannot be written does. -/
def ArgumentsStop (v : Value) : Prop :=
  ∃ p, firstRefused (v.argumentParts false) = some p ∧ p.2.Stops p.1

theorem stopped_arguments_parts (v : Value) (stored : Bool) :
    Stopped (v.arguments stored) ↔
      ∃ p, firstRefused (v.argumentParts stored) = some p ∧ Stopped (p.2.write p.1) := by
  induction v using inner_induction generalizing stored with
  | step v ih =>
    cases v with
    | interface kind content => exact ih content (List.mem_singleton_self _) false
    | pointer target => exact ih target (List.mem_singleton_self _) true
    | record members =>
      rw [arguments, writeMembers_shown]
      exact stopped_fields_shown stored _
    | map key item entries => exact stopped_mapFields_iff key item entries stored
    | nilMap key item =>
      refine stopped_nil_iff ?_
      cases key with
      | text kind =>
        rw [arguments, mapFields, List.mergeSort_nil]
        exact not_stopped_ok []
      | _ => exact not_stopped_refuse (by simp)
    | nilInterface | nilPointer | time | schema => exact stopped_nil_iff (not_stopped_ok _)
    | _ => exact stopped_nil_iff (not_stopped_refuse (by simp))

theorem stopped_arguments_iff {v : Value} : Stopped (v.arguments false) ↔ v.ArgumentsStop := by
  simp only [stopped_arguments_parts, stopped_write_iff, ArgumentsStop]

theorem mends_arguments (v : Value) (stored : Bool) :
    Mends (v.arguments stored) (v.cleared.arguments stored) := by
  induction v using inner_induction generalizing stored with
  | step v ih =>
    cases v with
    | interface kind content => exact ih content (List.mem_singleton_self _) false
    | pointer target => exact ih target (List.mem_singleton_self _) true
    | record members =>
      rw [cleared, arguments, arguments, writeMembers_shown, writeMembers_shown, shownMembers_cleared]
      exact mends_fields fun f _ => mends_write f.2 stored
    | map key item entries => exact mends_mapFields key item fun u _ => mends_write u false
    | array item items =>
      -- a list is refused with its type, which tells the number of its items
      have htype : (array item (clearedItems items)).type = (array item items).type := by
        rw [clearedItems_eq, type, type, List.length_map]
      change Mends (Written.refuse (.notArguments (array item items).type.name))
        (Written.refuse (.notArguments (array item (clearedItems items)).type.name))
      rw [htype]
      exact .refl (not_stopped_refuse (by simp))
    | nilPointer => exact .refl (not_stopped_ok _)
    | _ =>
      refine .refl fun hstop => ?_
      obtain ⟨p, hfirst, -⟩ := (stopped_arguments_parts _ stored).mp hstop
      cases hfirst

end Value

open Written (Stopped not_stopped_ok)

theorem outcome?_eq_none_iff (v : Value) : outcome? (some v) = none ↔ v.ArgumentsStop := by
  rw [← Value.stopped_arguments_iff, outcome?]
  split
  · next path hw => simp [Stopped, hw]
  · next hw => simpa [Stopped] using hw

theorem outcome?_of_returns {v : Value} (h : ¬Stopped (v.arguments false)) :
    outcome? (some v) = some (v.arguments false) := by
  rw [outcome?]
  split
  · next path hw => exact absurd ⟨path, hw⟩ h
  · rfl

theorem not_stopped_of_outcome? {v : Option Value} {w : Written} (h : outcome? v = some w) :
    ¬Stopped w := by
  cases v with
  | none =>
    obtain rfl := Option.some.inj h
    exact not_stopped_ok []
  | some v =>
    have hreturns : ¬Stopped (v.arguments false) := by
      intro hstop
      rw [(outcome?_eq_none_iff v).mpr (Value.stopped_arguments_iff.mp hstop)] at h
      cases h
    obtain rfl := Option.some.inj ((outcome?_of_returns hreturns).symm.trans h)
    exact hreturns

/-! ### Documents after arguments were given -/

theorem exists_of_nest_error {fields : List Selection} {field : Octets} {e : ArgumentError}
    (h : nest fields = .error (.arguments field e)) : ∃ s ∈ fields, s.arguments = .error e := by
  induction fields with
  | nil => cases h
  | cons s rest ih =>
    rw [nest] at h
    split at h
    · next e' hs =>
      obtain ⟨-, rfl⟩ := DocumentError.arguments.inj (Except.error.inj h)
      exact ⟨s, List.mem_cons_self, hs⟩
    · cases hrest : nest rest with
      | ok => rw [hrest] at h; cases h
      | error e' =>
        rw [hrest] at h
        obtain rfl := Except.error.inj h
        obtain ⟨s', hmem, hs'⟩ := ih hrest
        exact ⟨s', List.mem_cons_of_mem s hmem, hs'⟩

theorem exists_of_document_error {chain : List Selection} {field : Octets} {e : ArgumentError}
    (h : document chain = .error (.arguments field e)) : ∃ s ∈ chain, s.arguments = .error e := by
  unfold document at h
  split at h
  · cases h
  · cases h
  · next root fields _ =>
    cases hnest : nest fields with
    | ok => rw [hnest] at h; cases h
    | error e' =>
      rw [hnest] at h
      obtain rfl := Except.error.inj h
      obtain ⟨s, hmem, hs⟩ := exists_of_nest_error hnest
      exact ⟨s, List.mem_cons_of_mem root hmem, hs⟩

namespace History

variable {n : Nat}

theorem not_stopped_lastWritten (h : History n) (i : Nat) : ¬Stopped (h.lastWritten i) := by
  rw [lastWritten]
  cases hw : (h.lastArguments i).bind outcome? with
  | none => exact not_stopped_ok []
  | some w =>
    obtain ⟨v, -, hv⟩ := Option.bind_eq_some_iff.mp hw
    exact not_stopped_of_outcome? hv

/-- The errors of documents are about values that cannot be written, never about missing ones. -/
theorem cause_of_build_error (h : History n) (t : Fin n) {field : Octets} {e : ArgumentError}
    (hbuild : h.forest.build t = .error (.arguments field e)) : e.cause ≠ .missingWriter := by
  obtain ⟨s, hmem, hs⟩ := exists_of_document_error hbuild
  have hwritten : s.arguments ∈ (h.forest.lineage t).map h.lastWritten := by
    rw [← h.chain_arguments t.isLt]
    exact List.mem_map_of_mem hmem
  obtain ⟨i, -, hi⟩ := List.mem_map.mp hwritten
  intro hcause
  refine h.not_stopped_lastWritten i ⟨e.path, ?_⟩
  rw [hi, hs, ← hcause]

end History

/-- A book below the root of an operation. -/
def bookHistory : History 2 :=
  (History.start.root (Octets.ofString "query")).select (Fin.last 0) (Octets.ofString "book")

/-- The state of a book, which points to nothing, in an interface. -/
def bookState (kind : InterfaceKind) : Value :=
  .record [(⟨"State", "state"⟩, .interface kind (.nilPointer (.text .enum)))]

end Bindery
