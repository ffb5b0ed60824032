import Bindery.Schema.Decoding
import Bindery.Schema.Encoding
import Bindery.Proofs.Json.Record

/-!
# Schemas written as JSON

The JSON values that write a schema. Each part of a schema is an object with a member for each of its parts,
in any order and among other members. What is missing is written as null. The decoder of each part gets back
what was written.

## Main definitions

- `Schema.Form` — the JSON values that write a schema, with one form for each of its parts

## Main results

- `TypeRef.undoes_decode` — a type reference is got back, however deep it is
- `Schema.undoes_decode` — a schema is got back
-/

namespace Bindery

open Json

/-! ### Forms -/

/-- A text that may be missing. -/
def IsText : Option String → Json → Prop :=
  IsOption IsString

/-- A list that may be missing and whose entries may be empty. -/
def IsEntries {α : Type} (form : α → Json → Prop) : Entries α → Json → Prop :=
  IsList (IsOption form)

/-- A kind is written by its name. -/
def TypeKind.Form (k : TypeKind) : Json → Prop :=
  IsString k.text

/-- A type reference. -/
def TypeRef.Form : TypeRef → Json → Prop
  | plain kind name => IsRecord [("name", IsText name), ("ofType", (· = .null)), ("kind", kind.Form)]
  | wrap kind name inner => IsRecord [("name", IsText name), ("ofType", inner.Form), ("kind", kind.Form)]

/-- An argument or an input field. -/
def InputValue.Form (v : InputValue) : Json → Prop :=
  IsRecord [("type", v.type.Form), ("description", IsText v.description),
    ("defaultValue", IsText v.defaultValue), ("name", IsString v.name)]

/-- A field of an object or an interface. -/
def FieldValue.Form (v : FieldValue) : Json → Prop :=
  IsRecord [("type", v.type.Form), ("description", IsText v.description),
    ("deprecationReason", IsText v.deprecationReason), ("name", IsString v.name),
    ("args", IsEntries InputValue.Form v.args), ("isDeprecated", IsBool v.isDeprecated)]

/-- A value of an enum. -/
def EnumValue.Form (v : EnumValue) : Json → Prop :=
  IsRecord [("description", IsText v.description), ("deprecationReason", IsText v.deprecationReason),
    ("name", IsString v.name), ("isDeprecated", IsBool v.isDeprecated)]

/-- A type. -/
def FullType.Form (t : FullType) : Json → Prop :=
  IsRecord [("kind", t.kind.Form), ("name", IsText t.name?), ("description", IsText t.description?),
    ("fields", IsEntries FieldValue.Form t.fields),
    ("inputFields", IsEntries InputValue.Form t.inputFields),
    ("interfaces", IsEntries TypeRef.Form t.interfaces),
    ("enumValues", IsEntries EnumValue.Form t.enumValues),
    ("possibleTypes", IsEntries TypeRef.Form t.possibleTypes)]

/-- A directive. -/
def Directive.Form (d : Directive) : Json → Prop :=
  IsRecord [("name", IsString d.name), ("description", IsText d.description),
    ("locations", IsList IsString d.locations), ("args", IsEntries InputValue.Form d.args)]

/-- The type at the root of an operation. -/
def RootType.Form (r : RootType) : Json → Prop :=
  IsRecord [("name", IsText r.name?)]

/-- A schema. -/
def Schema.Form (s : Schema) : Json → Prop :=
  IsRecord [("queryType", IsOption RootType.Form s.queryType),
    ("mutationType", IsOption RootType.Form s.mutationType),
    ("subscriptionType", IsOption RootType.Form s.subscriptionType),
    ("types", IsEntries FullType.Form s.types), ("directives", IsEntries Directive.Form s.directives)]

/-! ### Texts, kinds and entries -/

theorem undoes_decodeText? : Undoes decodeText? IsText :=
  undoes_decodeString.option nofun

theorem undoes_decodeEntries {α : Type} [Inhabited α] {d : Decoder α} {form : α → Json → Prop}
    (h : Undoes d form) (hnull : ∀ a, ¬ form a .null) : Undoes (decodeEntries d) (IsEntries form) :=
  (h.option hnull).list

theorem TypeKind.toOption_decode (p : Pointer) (former : TypeKind) (v : Scan) :
    (TypeKind.decode p former v).toOption = v.json?.bind fun j => (stringOn j).map ofText := by
  rw [TypeKind.decode, toOption_map, toOption_decodeString]
  cases v.json? <;> rfl

theorem TypeKind.undoes_decode : Undoes TypeKind.decode TypeKind.Form where
  faithful := faithful_of_meaning (g := fun _ j => (stringOn j).map ofText) toOption_decode
  gives := by
    rintro k _ rfl former
    rw [onJson_of_meaning (g := fun _ j => (stringOn j).map ofText) toOption_decode]
    exact congrArg some k.ofText_text

/-! ### Type references -/

namespace TypeRef

theorem kind_ofParts (k : TypeKind) (n : Option String) (i : Option TypeRef) :
    (ofParts k n i).kind = k := by
  cases i <;> rfl

theorem name?_ofParts (k : TypeKind) (n : Option String) (i : Option TypeRef) :
    (ofParts k n i).name? = n := by
  cases i <;> rfl

theorem inner?_ofParts (k : TypeKind) (n : Option String) (i : Option TypeRef) :
    (ofParts k n i).inner? = i := by
  cases i <;> rfl

theorem ofParts_eq (r : TypeRef) : ofParts r.kind r.name? r.inner? = r := by
  cases r <;> rfl

/-- A reference in terms of its parts, with any form of the reference inside it. -/
def FormWith (inner : TypeRef → Json → Prop) (r : TypeRef) : Json → Prop :=
  IsRecord [("name", IsText r.name?), ("ofType", IsOption inner r.inner?), ("kind", r.kind.Form)]

theorem form_eq (r : TypeRef) : r.Form = r.FormWith Form := by
  cases r <;> rfl

theorem not_form_null (r : TypeRef) : ¬ r.Form .null := by
  rw [form_eq]
  exact fun h => h.ne_null rfl

/-- The decoder of references of one more level, given one for those inside. -/
theorem undoes_decodeNested_succ {fuel : Nat} {inner : TypeRef → Json → Prop}
    (h : Undoes (decodeNested fuel) inner) (hnull : ∀ r, ¬ inner r .null) :
    Undoes (decodeNested (fuel + 1)) (FormWith inner) := by
  refine undoes_decodeRecord (fun r => .cons undoes_decodeText? (fun _ _ => name?_ofParts _ _ _)
    (.cons (h.option hnull) (fun _ _ => inner?_ofParts _ _ _)
      (.cons TypeKind.undoes_decode (fun _ _ => kind_ofParts _ _ _) .nil)))
    (fun _ => by simp) ?_ ?_
  · intro r
    simp [Independent, kind_ofParts, name?_ofParts, inner?_ofParts]
  · intro r x hsame
    simp only [List.forall_mem_cons] at hsame
    obtain ⟨hname, hinner, hkind, -⟩ := hsame
    rw [← ofParts_eq x, hname, hinner, hkind, ofParts_eq]

theorem faithful_decodeNested (fuel : Nat) : Faithful (decodeNested fuel) := by
  induction fuel with
  | zero =>
    refine faithful_of_meaning (g := fun _ _ => none) fun p former v => ?_
    cases v <;> simp [decodeNested, unfit, malformed, misfit, Except.toOption]
  | succ fuel ih =>
    -- a form that nothing has is undone by every faithful decoder
    have hnone : Undoes (decodeNested fuel) fun _ _ => False := ⟨ih, nofun⟩
    exact (undoes_decodeNested_succ hnone nofun).faithful

/-- Fuel for the depth of a value is enough. -/
theorem undoes_decodeNested (fuel : Nat) : Undoes (decodeNested fuel) fun r j =>
    r.Form j ∧ j.depth ≤ fuel := by
  induction fuel with
  | zero =>
    refine ⟨faithful_decodeNested 0, ?_⟩
    rintro r j ⟨hform, hdepth⟩
    rw [form_eq] at hform
    obtain ⟨members, rfl, -⟩ := hform
    exact absurd hdepth (Nat.not_succ_le_zero _)
  | succ fuel ih =>
    refine ⟨faithful_decodeNested _, ?_⟩
    rintro r j ⟨hform, hdepth⟩
    refine (undoes_decodeNested_succ ih fun r h => r.not_form_null h.1).gives r j ?_
    -- the reference inside is written less deep
    rw [form_eq] at hform
    obtain ⟨members, rfl, hnames, hparts⟩ := hform
    refine ⟨members, rfl, hnames, ?_⟩
    simp only [List.forall_mem_cons] at hparts ⊢
    obtain ⟨hname, ⟨v, hv, hinner⟩, hkind, hnil⟩ := hparts
    refine ⟨hname, ⟨v, hv, ?_⟩, hkind, hnil⟩
    have hv := Nat.le_trans (depth_le_of_mem hv) (Nat.le_of_succ_le_succ hdepth)
    cases hr : r.inner? with
    | none => rwa [hr] at hinner
    | some i =>
      rw [hr] at hinner
      exact ⟨hinner, hv⟩

theorem toOption_decode (p : Pointer) (former : TypeRef) (v : Scan) :
    (TypeRef.decode p former v).toOption =
      v.json?.bind fun j => onJson (decodeNested (j.depth + 1)) former j := by
  rw [TypeRef.decode, faithful_decodeNested]
  cases hj : v.json? with
  | none => rfl
  | some j => rw [depth_of_json? hj]; rfl

/-- A type reference is got back. -/
theorem undoes_decode : Undoes TypeRef.decode TypeRef.Form where
  faithful := faithful_of_meaning
    (g := fun former j => onJson (decodeNested (j.depth + 1)) former j) toOption_decode
  gives := by
    intro r j hform former
    rw [onJson_of_meaning
      (g := fun former j => onJson (decodeNested (j.depth + 1)) former j) toOption_decode]
    exact (undoes_decodeNested (j.depth + 1)).gives r j ⟨hform, Nat.le_succ _⟩ former

end TypeRef

/-! ### The parts of a schema -/

theorem InputValue.undoes_decode : Undoes InputValue.decode InputValue.Form := by
  refine undoes_decodeRecord (fun v => .cons TypeRef.undoes_decode (fun _ _ => rfl)
    (.cons undoes_decodeText? (fun _ _ => rfl) (.cons undoes_decodeText? (fun _ _ => rfl)
      (.cons undoes_decodeString (fun _ _ => rfl) .nil)))) (fun _ => by simp) ?_ ?_
  · intro v
    simp [Independent]
  · rintro ⟨⟩ ⟨⟩ hsame
    simpa using hsame

theorem InputValue.undoes_decodeEntries : Undoes (decodeEntries InputValue.decode)
    (IsEntries InputValue.Form) :=
  Bindery.undoes_decodeEntries undoes_decode fun _ h => h.ne_null rfl

theorem FieldValue.undoes_decode : Undoes FieldValue.decode FieldValue.Form := by
  refine undoes_decodeRecord (fun v => .cons TypeRef.undoes_decode (fun _ _ => rfl)
    (.cons undoes_decodeText? (fun _ _ => rfl) (.cons undoes_decodeText? (fun _ _ => rfl)
      (.cons undoes_decodeString (fun _ _ => rfl)
        (.cons InputValue.undoes_decodeEntries (fun _ _ => rfl)
          (.cons undoes_decodeBool (fun _ _ => rfl) .nil)))))) (fun _ => by simp) ?_ ?_
  · intro v
    simp [Independent]
  · rintro ⟨⟩ ⟨⟩ hsame
    simpa using hsame

theorem EnumValue.undoes_decode : Undoes EnumValue.decode EnumValue.Form := by
  refine undoes_decodeRecord (fun v => .cons undoes_decodeText? (fun _ _ => rfl)
    (.cons undoes_decodeText? (fun _ _ => rfl) (.cons undoes_decodeString (fun _ _ => rfl)
      (.cons undoes_decodeBool (fun _ _ => rfl) .nil)))) (fun _ => by simp) ?_ ?_
  · intro v
    simp [Independent]
  · rintro ⟨⟩ ⟨⟩ hsame
    simpa using hsame

theorem TypeRef.undoes_decodeEntries : Undoes (decodeEntries TypeRef.decode)
    (IsEntries TypeRef.Form) :=
  Bindery.undoes_decodeEntries undoes_decode not_form_null

theorem FullType.undoes_decode : Undoes FullType.decode FullType.Form := by
  refine undoes_decodeRecord (fun t => .cons TypeKind.undoes_decode (fun _ _ => rfl)
    (.cons undoes_decodeText? (fun _ _ => rfl) (.cons undoes_decodeText? (fun _ _ => rfl)
      (.cons (undoes_decodeEntries FieldValue.undoes_decode fun _ h => h.ne_null rfl) (fun _ _ => rfl)
        (.cons InputValue.undoes_decodeEntries (fun _ _ => rfl)
          (.cons TypeRef.undoes_decodeEntries (fun _ _ => rfl)
            (.cons (undoes_decodeEntries EnumValue.undoes_decode fun _ h => h.ne_null rfl)
              (fun _ _ => rfl)
              (.cons TypeRef.undoes_decodeEntries (fun _ _ => rfl) .nil))))))))
    (fun _ => by simp) ?_ ?_
  · intro t
    simp [Independent]
  · rintro ⟨⟩ ⟨⟩ hsame
    simpa using hsame

theorem Directive.undoes_decode : Undoes Directive.decode Directive.Form := by
  refine undoes_decodeRecord (fun d => .cons undoes_decodeString (fun _ _ => rfl)
    (.cons undoes_decodeText? (fun _ _ => rfl) (.cons undoes_decodeString.list (fun _ _ => rfl)
      (.cons InputValue.undoes_decodeEntries (fun _ _ => rfl) .nil)))) (fun _ => by simp) ?_ ?_
  · intro d
    simp [Independent]
  · rintro ⟨⟩ ⟨⟩ hsame
    simpa using hsame

theorem RootType.undoes_decode : Undoes RootType.decode RootType.Form := by
  refine undoes_decodeRecord (fun r => .cons undoes_decodeText? (fun _ _ => rfl) .nil)
    (fun _ => by simp) ?_ ?_
  · intro r
    simp [Independent]
  · rintro ⟨⟩ ⟨⟩ hsame
    simpa using hsame

theorem RootType.undoes_decodeOption : Undoes (decodeOption RootType.decode)
    (IsOption RootType.Form) :=
  undoes_decode.option fun _ h => h.ne_null rfl

/-- A schema is got back. -/
theorem Schema.undoes_decode : Undoes Schema.decode Schema.Form := by
  refine undoes_decodeRecord (fun s => .cons RootType.undoes_decodeOption (fun _ _ => rfl)
    (.cons RootType.undoes_decodeOption (fun _ _ => rfl)
      (.cons RootType.undoes_decodeOption (fun _ _ => rfl)
        (.cons (undoes_decodeEntries FullType.undoes_decode fun _ h => h.ne_null rfl) (fun _ _ => rfl)
          (.cons (undoes_decodeEntries Directive.undoes_decode fun _ h => h.ne_null rfl)
            (fun _ _ => rfl) .nil))))) (fun _ => by simp) ?_ ?_
  · intro s
    simp [Independent]
  · rintro ⟨⟩ ⟨⟩ hsame
    simpa using hsame

/-! ### The JSON of a schema -/

theorem isText_ofText (o : Option String) : IsText o (.ofText o) := by
  cases o <;> rfl

theorem isOption_elim {α : Type} {form : α → Json → Prop} {f : α → Json} (h : ∀ a, form a (f a))
    (o : Option α) : IsOption form o (o.elim .null f) := by
  cases o with
  | none => rfl
  | some a => exact h a

theorem isEntries_ofEntries {α : Type} {form : α → Json → Prop} {f : α → Json}
    (h : ∀ a, form a (f a)) (es : Entries α) : IsEntries form es (.ofEntries f es) := by
  cases es with
  | none => rfl
  | some es =>
    refine ⟨_, rfl, ?_⟩
    rw [List.forall₂_map_right_iff, List.forall₂_same]
    exact fun e _ => isOption_elim h e

theorem TypeRef.form_json (r : TypeRef) : r.Form r.json := by
  induction r with
  | plain kind name =>
    exact isRecord_of_forall₂ (.cons ⟨rfl, isText_ofText name⟩ (.cons ⟨rfl, rfl⟩
      (.cons ⟨rfl, rfl⟩ .nil))) (by simp)
  | wrap kind name inner ih =>
    exact isRecord_of_forall₂ (.cons ⟨rfl, isText_ofText name⟩ (.cons ⟨rfl, ih⟩
      (.cons ⟨rfl, rfl⟩ .nil))) (by simp)

theorem InputValue.form_json (v : InputValue) : v.Form v.json :=
  isRecord_of_forall₂ (.cons ⟨rfl, v.type.form_json⟩ (.cons ⟨rfl, isText_ofText _⟩
    (.cons ⟨rfl, isText_ofText _⟩ (.cons ⟨rfl, rfl⟩ .nil)))) (by simp)

theorem FieldValue.form_json (v : FieldValue) : v.Form v.json :=
  isRecord_of_forall₂ (.cons ⟨rfl, v.type.form_json⟩ (.cons ⟨rfl, isText_ofText _⟩
    (.cons ⟨rfl, isText_ofText _⟩ (.cons ⟨rfl, rfl⟩
      (.cons ⟨rfl, isEntries_ofEntries InputValue.form_json _⟩ (.cons ⟨rfl, rfl⟩ .nil))))))
    (by simp)

theorem EnumValue.form_json (v : EnumValue) : v.Form v.json :=
  isRecord_of_forall₂ (.cons ⟨rfl, isText_ofText _⟩ (.cons ⟨rfl, isText_ofText _⟩
    (.cons ⟨rfl, rfl⟩ (.cons ⟨rfl, rfl⟩ .nil)))) (by simp)

theorem FullType.form_json (t : FullType) : t.Form t.json :=
  isRecord_of_forall₂ (.cons ⟨rfl, rfl⟩ (.cons ⟨rfl, isText_ofText _⟩ (.cons ⟨rfl, isText_ofText _⟩
    (.cons ⟨rfl, isEntries_ofEntries FieldValue.form_json _⟩
      (.cons ⟨rfl, isEntries_ofEntries InputValue.form_json _⟩
        (.cons ⟨rfl, isEntries_ofEntries TypeRef.form_json _⟩
          (.cons ⟨rfl, isEntries_ofEntries EnumValue.form_json _⟩
            (.cons ⟨rfl, isEntries_ofEntries TypeRef.form_json _⟩ .nil)))))))) (by simp)

theorem Directive.form_json (d : Directive) : d.Form d.json := by
  have hlocations : IsList IsString d.locations
      (d.locations.elim .null fun ls => .array (ls.map .string)) := by
    cases d.locations with
    | none => rfl
    | some ls =>
      refine ⟨_, rfl, ?_⟩
      rw [List.forall₂_map_right_iff, List.forall₂_same]
      exact fun _ _ => rfl
  exact isRecord_of_forall₂ (.cons ⟨rfl, rfl⟩ (.cons ⟨rfl, isText_ofText _⟩
    (.cons ⟨rfl, hlocations⟩ (.cons ⟨rfl, isEntries_ofEntries InputValue.form_json _⟩ .nil))))
    (by simp)

theorem RootType.form_json (r : RootType) : r.Form r.json :=
  isRecord_of_forall₂ (.cons ⟨rfl, isText_ofText _⟩ .nil) (by simp)

/-- The JSON of a schema writes it. -/
theorem Schema.form_json (s : Schema) : s.Form s.json :=
  isRecord_of_forall₂ (.cons ⟨rfl, isOption_elim RootType.form_json _⟩
    (.cons ⟨rfl, isOption_elim RootType.form_json _⟩
      (.cons ⟨rfl, isOption_elim RootType.form_json _⟩
        (.cons ⟨rfl, isEntries_ofEntries FullType.form_json _⟩
          (.cons ⟨rfl, isEntries_ofEntries Directive.form_json _⟩ .nil))))) (by simp)

end Bindery
