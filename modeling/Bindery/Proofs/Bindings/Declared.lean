import Bindery.Bindings.Render
import Bindery.Proofs.Naming.Scope

/-!
# What the bindings of a schema declare

The identifiers that the bindings of a schema declare can be read off the schema without rendering it.
The scope of the package holds the identifiers of types, argument holders, constructors and constants;
the methods of an object and the members of a struct have scopes of their own.

A schema is sound if nothing but a collision can keep it from being rendered: every entry of its lists
is there and has a name, every reference can be resolved, and every type is of a kind that has a binding.

## Main definitions

- `Entity` — what an identifier of the package stands for, with `Entity.label`
- `Settings.declaredBy` — the identifiers that a type declares in the package
- `Settings.packageScope`, `Settings.memberScopes` — the scopes of the bindings, with all their names
- `schemaScopes` — all scopes of the bindings of a schema
- `FullType.Sound`, `Schema.Sound` — nothing but a collision is in the way of rendering
-/

namespace Bindery

/-! ### Types with bindings -/

/-- The types among the entries that get bindings: those that are there and do not belong to
introspection itself. -/
def ownTypes (types : List (Option FullType)) : List FullType :=
  (types.filterMap id).filter fun t => !isReserved t.name

/-- The types of a schema that get bindings. -/
def Schema.ownTypes (schema : Schema) : List FullType :=
  Bindery.ownTypes schema.types.toList

/-- Whether a field takes arguments. -/
def FieldValue.takesArguments (f : FieldValue) : Bool :=
  !f.args.toList.isEmpty

/-- The fields of a type that take arguments. -/
def FullType.argumentFields (t : FullType) : List FieldValue :=
  t.fields.values.filter (·.takesArguments)

/-- What rendering a schema depends on besides its types one by one. -/
def settingsOf (resolver : Resolver) (qualifyArgs : Bool) (schema : Schema) : Settings :=
  ⟨resolver, qualifyArgs, sharedArgs schema.types.toList, schema.roots⟩

/-! ### Entities -/

/-- What an identifier of the package stands for. -/
inductive Entity where
  /-- A type of the schema. -/
  | type (name : String)
  /-- The arguments of a field of an object. -/
  | holder (owner field : String)
  /-- The beginning of an operation at its root type. -/
  | start (operation : Operation) (type : String)
  /-- A value of an enum. -/
  | constant (enum value : String)
  deriving DecidableEq, Repr

/-- How an entity is called where its identifier collides with another one. -/
def Entity.label : Entity → String
  | type name => name
  | holder owner field => "arguments of " ++ owner ++ "." ++ field
  | start operation root => operation.keyword ++ " constructor of " ++ root
  | constant enum value => enum ++ "." ++ value

@[simp] theorem Entity.label_type (name : String) : (type name).label = name := rfl

@[simp] theorem Entity.label_holder (owner field : String) :
    (holder owner field).label = "arguments of " ++ owner ++ "." ++ field := rfl

@[simp] theorem Entity.label_start (operation : Operation) (root : String) :
    (start operation root).label = operation.keyword ++ " constructor of " ++ root := rfl

@[simp] theorem Entity.label_constant (enum value : String) :
    (constant enum value).label = enum ++ "." ++ value := rfl

/-- Identifiers with the labels of what they stand for. -/
def labelled (declared : List (String × Entity)) : List (String × String) :=
  declared.map fun (ident, e) => (ident, e.label)

/-- The constructors of a type that roots operations. The first one has the plain name, the others are
also named for their operation. -/
def startIdents (ident : String) : (first : Bool) → List Operation → List (String × Operation)
  | _, [] => []
  | first, op :: rest =>
    let plain := "New" ++ ident
    (if first then plain else plain ++ Naming.identifier op.keyword, op) ::
      startIdents ident false rest

namespace Settings

/-- The holders that an object type declares. -/
def holdersOf (s : Settings) (t : FullType) : List (String × Entity) :=
  t.argumentFields.map fun f => (s.holderName t.name f.name, .holder t.name f.name)

/-- The constructors that an object type declares. -/
def startsOf (s : Settings) (t : FullType) : List (String × Entity) :=
  (startIdents (Naming.identifier t.name) true (s.operations t.name)).map fun (ident, op) =>
    (ident, .start op t.name)

/-- The constants that an enum declares. -/
def constantsOf (t : FullType) : List (String × Entity) :=
  t.enumValues.values.map fun v =>
    (Naming.constantIdentifier t.name v.name, .constant t.name v.name)

/-- The identifiers that a type declares in the package, in the order of their declarations. -/
def declaredBy (s : Settings) (t : FullType) : List (String × Entity) :=
  let own := (Naming.identifier t.name, Entity.type t.name)
  match t.kind with
  | .object => own :: s.holdersOf t ++ s.startsOf t
  | .inputObject => [own]
  | .enum => own :: constantsOf t
  | .scalar => if s.resolver.isBound t.name then [] else [own]
  | _ => []

/-- The scope of the package with all its identifiers. -/
def packageScope (s : Settings) (label : String) (types : List FullType) : Scope :=
  ⟨label, labelled (types.flatMap s.declaredBy)⟩

end Settings

/-- The scope of the struct for a list of arguments or input fields. -/
def inputScope (label : String) (inputs : List InputValue) : Scope :=
  ⟨label, inputs.map fun i => (Naming.identifier i.name, i.name)⟩

/-- The scope of the methods of an object. -/
def FullType.methodScope (t : FullType) : Scope :=
  ⟨Naming.identifier t.name, t.fields.values.map fun f => (Naming.identifier f.name, f.name)⟩

/-- The scopes of the methods and members that a type declares. -/
def Settings.memberScopes (s : Settings) (t : FullType) : List Scope :=
  match t.kind with
  | .object =>
    t.methodScope :: t.argumentFields.map fun f =>
      inputScope (s.holderName t.name f.name) f.args.values
  | .inputObject => [inputScope (Naming.identifier t.name) t.inputFields.values]
  | _ => []

/-- The scopes of the bindings of a schema: that of the package, then those of methods and members. -/
def schemaScopes (resolver : Resolver) (qualifyArgs : Bool) (package : String) (schema : Schema) :
    List Scope :=
  let s := settingsOf resolver qualifyArgs schema
  s.packageScope ("package " ++ package) schema.ownTypes :: schema.ownTypes.flatMap s.memberScopes

/-! ### Soundness -/

/-- Every entry is there and has the property. -/
def AllEntries {α : Type} (P : α → Prop) (entries : List (Option α)) : Prop :=
  ∀ e ∈ entries, ∃ a, e = some a ∧ P a

/-- An argument or input field with a name and a type. -/
structure InputValue.Sound (r : Resolver) (i : InputValue) : Prop where
  /-- It has a name. -/
  named : i.name ≠ ""
  /-- Its type can be resolved. -/
  resolves : ∃ type, r.resolve i.type = .ok type

/-- A field with a name, a type and sound arguments. -/
structure FieldValue.Sound (r : Resolver) (f : FieldValue) : Prop where
  /-- It has a name. -/
  named : f.name ≠ ""
  /-- Its type can be resolved. -/
  resolves : ∃ type, r.resolve f.type = .ok type
  /-- Its arguments are sound. -/
  arguments : AllEntries (InputValue.Sound r) f.args.toList

/-- A type of a kind that has a binding, with sound entries in the list that its kind owns. -/
def FullType.Sound (r : Resolver) (t : FullType) : Prop :=
  match t.kind with
  | .object => AllEntries (FieldValue.Sound r) t.fields.toList
  | .inputObject => AllEntries (InputValue.Sound r) t.inputFields.toList
  | .enum => AllEntries (·.name ≠ "") t.enumValues.toList
  | .scalar => True
  | _ => False

/-- Every type is there and has a name, and those with bindings are sound. -/
def SoundTypes (r : Resolver) (types : List (Option FullType)) : Prop :=
  AllEntries (fun t => t.name ≠ "" ∧ (isReserved t.name = false → t.Sound r)) types

/-- Nothing but a collision is in the way of rendering the schema. -/
def Schema.Sound (r : Resolver) (schema : Schema) : Prop :=
  SoundTypes r schema.types.toList

/-! ### Deciding soundness -/

instance decidableExistsSome {α : Type} {P : α → Prop} [DecidablePred P] (e : Option α) :
    Decidable (∃ a, e = some a ∧ P a) :=
  match e with
  | none => isFalse (by simp)
  | some a => decidable_of_iff (P a) (by simp)

instance {α : Type} {P : α → Prop} [DecidablePred P] (entries : List (Option α)) :
    Decidable (AllEntries P entries) :=
  inferInstanceAs (Decidable (∀ e ∈ entries, _))

instance (r : Resolver) (ref : TypeRef) : Decidable (∃ type, r.resolve ref = .ok type) :=
  match r.resolve ref with
  | .ok type => isTrue ⟨type, rfl⟩
  | .error _ => isFalse (by simp)

instance (r : Resolver) : DecidablePred (InputValue.Sound r) := fun i =>
  decidable_of_iff (i.name ≠ "" ∧ ∃ type, r.resolve i.type = .ok type)
    ⟨fun h => ⟨h.1, h.2⟩, fun h => ⟨h.named, h.resolves⟩⟩

instance (r : Resolver) : DecidablePred (FieldValue.Sound r) := fun f =>
  decidable_of_iff
    (f.name ≠ "" ∧ (∃ type, r.resolve f.type = .ok type) ∧
      AllEntries (InputValue.Sound r) f.args.toList)
    ⟨fun h => ⟨h.1, h.2.1, h.2.2⟩, fun h => ⟨h.named, h.resolves, h.arguments⟩⟩

instance (r : Resolver) : DecidablePred (FullType.Sound r) := fun t =>
  decidable_of_iff
    (t.kind ∈ [.object, .inputObject, .enum, .scalar] ∧
      (t.kind = .object → AllEntries (FieldValue.Sound r) t.fields.toList) ∧
      (t.kind = .inputObject → AllEntries (InputValue.Sound r) t.inputFields.toList) ∧
      (t.kind = .enum → AllEntries (·.name ≠ "") t.enumValues.toList))
    (by unfold FullType.Sound; cases t.kind <;> simp)

instance (r : Resolver) (schema : Schema) : Decidable (schema.Sound r) :=
  inferInstanceAs (Decidable (AllEntries _ _))

/-! ### Lists of entries -/

variable {α : Type} {P : α → Prop}

theorem allEntries_nil : AllEntries P [] := by
  intro e he
  cases he

@[simp]
theorem allEntries_cons_some {a : α} {rest : List (Option α)} :
    AllEntries P (some a :: rest) ↔ P a ∧ AllEntries P rest := by
  simp [AllEntries]

@[simp]
theorem not_allEntries_cons_none {rest : List (Option α)} : ¬ AllEntries P (none :: rest) := by
  simp [AllEntries]

/-- The entries of a list that are there keep the property. -/
theorem AllEntries.of_mem_values {entries : Entries α} (h : AllEntries P entries.toList) {a : α}
    (ha : a ∈ entries.values) : P a := by
  have hmem : some a ∈ entries.toList := by simpa [Entries.values] using ha
  obtain ⟨b, hb, hP⟩ := h _ hmem
  obtain rfl := Option.some.inj hb
  exact hP

theorem ownTypes_cons_reserved {t : FullType} (h : isReserved t.name = true)
    (rest : List (Option FullType)) : ownTypes (some t :: rest) = ownTypes rest := by
  simp [ownTypes, h]

theorem ownTypes_cons_own {t : FullType} (h : isReserved t.name = false)
    (rest : List (Option FullType)) : ownTypes (some t :: rest) = t :: ownTypes rest := by
  simp [ownTypes, h]

/-! ### Lists of types -/

section RenderTypes

variable {s : Settings} {t : FullType}

theorem ne_empty_of_isReserved {name : String} (h : isReserved name = true) : name ≠ "" := by
  rintro rfl
  cases h

theorem renderTypes_of_isReserved (h : isReserved t.name = true) (package : Scope)
    (rest : List (Option FullType)) :
    renderTypes s package (some t :: rest) = renderTypes s package rest := by
  have hname := ne_empty_of_isReserved h
  rw [renderTypes, if_neg (by simpa using hname), if_pos h]

theorem renderTypes_of_unnamed (h : t.name = "") (package : Scope) (rest : List (Option FullType)) :
    renderTypes s package (some t :: rest) = .error (.schema (.of "" "" (.unnamedType t.kind))) := by
  rw [renderTypes, if_pos (by simpa using h)]

/-- A type that is rendered, before the rest of the list. -/
theorem renderTypes_of_not_isReserved (hname : t.name ≠ "") (h : ¬ isReserved t.name = true)
    (package : Scope) (rest : List (Option FullType)) :
    renderTypes s package (some t :: rest) = (renderType s package t).bind fun rendered =>
      (renderTypes s rendered.2 rest).map (rendered.1 :: ·) := by
  rw [renderTypes, if_neg (by simpa using hname), if_neg h]
  rfl

end RenderTypes

/-! ### Declared identifiers -/

/-- The constructors of a type are those of its operations, in their order. -/
theorem startIdents_map_snd (ident : String) (first : Bool) (ops : List Operation) :
    (startIdents ident first ops).map Prod.snd = ops := by
  induction ops generalizing first with
  | nil => rfl
  | cons op rest ih => simp [startIdents, ih]

/-- What a type declares in the package: itself, holders and constructors if it is an object, constants
if it is an enum. -/
theorem Settings.mem_declaredBy {s : Settings} {t : FullType} {d : String × Entity}
    (h : d ∈ s.declaredBy t) :
    d = (Naming.identifier t.name, .type t.name) ∨
      (t.kind = .object ∧ d ∈ s.holdersOf t) ∨ (t.kind = .object ∧ d ∈ s.startsOf t) ∨
      (t.kind = .enum ∧ d ∈ constantsOf t) := by
  unfold declaredBy at h
  cases hkind : t.kind with
  | object =>
    simp only [hkind, List.cons_append, List.mem_cons, List.mem_append] at h
    rcases h with h | h | h
    · exact .inl h
    · exact .inr (.inl ⟨rfl, h⟩)
    · exact .inr (.inr (.inl ⟨rfl, h⟩))
  | inputObject =>
    simp only [hkind, List.mem_singleton] at h
    exact .inl h
  | enum =>
    simp only [hkind, List.mem_cons] at h
    exact h.imp_right fun h => .inr (.inr ⟨rfl, h⟩)
  | scalar =>
    simp only [hkind] at h
    split at h
    · cases h
    · exact .inl (List.mem_singleton.mp h)
  | interface | union | list | nonNull | unknown =>
    simp only [hkind] at h
    cases h

/-- An object declares the holders of its fields. -/
theorem Settings.holder_mem_declaredBy (s : Settings) {t : FullType} (hkind : t.kind = .object)
    {f : FieldValue} (hf : f ∈ t.argumentFields) :
    (s.holderName t.name f.name, .holder t.name f.name) ∈ s.declaredBy t := by
  simp only [declaredBy, hkind, List.cons_append]
  exact List.mem_cons_of_mem _ (List.mem_append_left _ (List.mem_map_of_mem hf))

/-- Every type with a binding of its own declares its identifier. -/
theorem Settings.own_mem_declaredBy {s : Settings} {t : FullType} (hsound : t.Sound s.resolver)
    (hscalar : t.kind = .scalar → s.resolver.isBound t.name = false) :
    (Naming.identifier t.name, .type t.name) ∈ s.declaredBy t := by
  unfold declaredBy
  cases hkind : t.kind with
  | object | inputObject | enum => simp
  | scalar => simp [hscalar hkind]
  | interface | union | list | nonNull | unknown => simp [FullType.Sound, hkind] at hsound

/-- A type gets bindings if it is listed and does not belong to introspection itself. -/
theorem Schema.mem_ownTypes {schema : Schema} {t : FullType} :
    t ∈ schema.ownTypes ↔ t ∈ schema.types.values ∧ isReserved t.name = false := by
  simp [Schema.ownTypes, Bindery.ownTypes, Entries.values]

end Bindery
