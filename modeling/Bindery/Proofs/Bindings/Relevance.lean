import Bindery.Bindings.Generate
import Bindery.Proofs.Bindings.TypeNames
import Bindery.Proofs.Bindings.TypeOrder

/-!
# The relevant part of a schema

Generating bindings does not look at everything in a schema. Types of introspection itself and scalars that
stand for existing types leave no trace, directives and the lists of a type that its kind does not own are
never read, and a reference is a list or excludes null whatever name it bears. Two schemas that differ in
such parts only have the same bindings, or the same error.

## Main definitions

- `TypeRef.trimmed`, `FullType.trimmed` — a reference and a type without what is not looked at
- `Options.binds` — the scalars that are built in or bound
- `Schema.relevant` — a schema without its irrelevant parts
- `GenerateError.told` — an error as a caller sees it: its class, its place and its text
- `Alike` — results that a caller cannot tell apart

## Main results

- `Resolver.resolve_trimmed` — references are resolved alike without the names of their wrappers
- `renderType_trimmed`, `renderTypes_relevant` — types and lists of types are rendered alike
- `generate_relevant` — a schema has the bindings of its relevant part
- `generate_of_relevant_eq` — schemas with one relevant part have the same bindings
-/

namespace Bindery

/-! ### Relevant parts -/

/-- The reference without the names of its lists and of its non-null wrappers. -/
def TypeRef.trimmed : TypeRef → TypeRef
  | plain kind name => plain kind (if kind.isWrapper then none else name)
  | wrap kind name inner => wrap kind (if kind.isWrapper then none else name) inner.trimmed

/-- The argument or input field with a trimmed type. -/
def InputValue.trimmed (i : InputValue) : InputValue :=
  { i with type := i.type.trimmed }

/-- The entries of a list, each changed by a function. -/
def Entries.map {α : Type} (f : α → α) (es : Entries α) : Entries α :=
  Option.map (List.map (Option.map f)) es

/-- The field with a trimmed type and trimmed arguments. -/
def FieldValue.trimmed (f : FieldValue) : FieldValue :=
  { f with type := f.type.trimmed, args := f.args.map InputValue.trimmed }

/-- The type with the list that its kind owns, trimmed, and no other lists. -/
def FullType.trimmed (t : FullType) : FullType :=
  { t with
    fields := if t.kind = .object then t.fields.map FieldValue.trimmed else none
    inputFields := if t.kind = .inputObject then t.inputFields.map InputValue.trimmed else none
    enumValues := if t.kind = .enum then t.enumValues else none
    interfaces := none
    possibleTypes := none }

/-- Whether a scalar is built in or bound by the options. -/
def Options.binds (o : Options) (scalar : String) : Bool :=
  (Resolver.builtin.map Prod.fst).contains scalar || (o.scalars.map Prod.fst).contains scalar

/-- Whether an entry of the list of types is looked at: it is empty, or it is neither a type of
introspection itself nor a named scalar that stands for an existing type. -/
def Options.looksAt (o : Options) : Option FullType → Bool
  | none => true
  | some t => !isReserved t.name && !(t.kind == .scalar && t.name != "" && o.binds t.name)

/-- The entries of a list of types that are looked at, trimmed. -/
def Options.relevantTypes (o : Options) (types : List (Option FullType)) : List (Option FullType) :=
  (types.filter o.looksAt).map (Option.map FullType.trimmed)

/-- The schema without its irrelevant parts. -/
def Schema.relevant (o : Options) (schema : Schema) : Schema :=
  { schema with types := some (o.relevantTypes schema.types.toList), directives := none }

/-! ### Errors as they are told -/

/-- The defect as it is told: its class and its text. -/
def Defect.told (d : Defect) : Defect :=
  .described d.category d.message

/-- The finding as it is told. -/
def Finding.told (f : Finding) : Finding :=
  { f with defect := f.defect.told }

/-- The error as it is told: every finding with its place, its class and its text. -/
def SchemaError.told (e : SchemaError) : SchemaError :=
  ⟨e.finding.told, e.causes.map Finding.told, e.root⟩

/-- The error as it is told. -/
def RenderError.told : RenderError → RenderError
  | schema e => schema e.told
  | collision c => collision c

/-- The error as it is told. -/
def GenerateError.told : GenerateError → GenerateError
  | render e => render e.told
  | e => e

/-- A defect shows no more of a reference than its text. -/
theorem Defect.told_nonNullTwice {ref ref' : TypeRef} (h : ref.text = ref'.text) :
    (nonNullTwice ref).told = (nonNullTwice ref').told := by
  unfold told message
  simp only [h]
  rfl

theorem RenderError.told_of (type field : String) {d d' : Defect} (h : d.told = d'.told) :
    (schema (.of type field d)).told = (schema (.of type field d')).told := by
  simp only [told, SchemaError.told, SchemaError.of, Finding.told, h]

theorem Finding.message_told (f : Finding) : f.told.message = f.message :=
  rfl

theorem SchemaError.message_told (e : SchemaError) : e.told.message = e.message := by
  have hcauses : (e.causes.map Finding.told).map Finding.message =
      e.causes.map Finding.message := by
    rw [List.map_map]
    exact List.map_congr_left fun f _ => f.message_told
  rw [message, message, told, hcauses, Finding.message_told]

/-- Telling an error does not change its text. -/
theorem GenerateError.message_told (e : GenerateError) : e.told.message = e.message := by
  cases e with
  | render e =>
    cases e with
    | schema e => exact e.message_told
    | collision c => rw [told, RenderError.told]
  | noSchema | packageName | binding | illegalSource => rfl

theorem mapError_message_told {α : Type} (x : Except GenerateError α) :
    (x.mapError GenerateError.told).mapError GenerateError.message =
      x.mapError GenerateError.message := by
  cases x with
  | ok a => rfl
  | error e => exact congrArg Except.error e.message_told

/-- Results of rendering that a caller cannot tell apart: related values, or errors that are told alike. -/
inductive Alike {α β : Type} (R : α → β → Prop) : Except RenderError α → Except RenderError β → Prop
  | ok {a : α} {b : β} (values : R a b) : Alike R (.ok a) (.ok b)
  | error {e e' : RenderError} (told : e.told = e'.told) : Alike R (.error e) (.error e')

theorem Alike.refl {α : Type} (x : Except RenderError α) : Alike Eq x x := by
  cases x with
  | ok a => exact .ok rfl
  | error e => exact .error rfl

theorem Alike.bind {α β γ δ : Type} {R : α → β → Prop} {S : γ → δ → Prop}
    {x : Except RenderError α} {y : Except RenderError β} {f : α → Except RenderError γ}
    {g : β → Except RenderError δ} (h : Alike R x y)
    (hnext : ∀ a b, R a b → Alike S (f a) (g b)) : Alike S (x >>= f) (y >>= g) := by
  cases h with
  | ok hab => exact hnext _ _ hab
  | error htold => exact .error htold

/-- A step that both sides begin with. -/
theorem Alike.bind_left {α γ δ : Type} {S : γ → δ → Prop} (x : Except RenderError α)
    {f : α → Except RenderError γ} {g : α → Except RenderError δ}
    (hnext : ∀ a, Alike S (f a) (g a)) : Alike S (x >>= f) (x >>= g) := by
  refine (Alike.refl x).bind ?_
  rintro a _ rfl
  exact hnext a

theorem Alike.map {α β γ δ : Type} {R : α → β → Prop} {S : γ → δ → Prop} {x : Except RenderError α}
    {y : Except RenderError β} {f : α → γ} {g : β → δ} (h : Alike R x y)
    (hvalues : ∀ a b, R a b → S (f a) (g b)) : Alike S (x.map f) (y.map g) := by
  cases h with
  | ok hab => exact .ok (hvalues _ _ hab)
  | error htold => exact .error htold

/-! ### References -/

namespace TypeRef

theorem kind_trimmed (ref : TypeRef) : ref.trimmed.kind = ref.kind := by
  cases ref <;> rfl

theorem isNonNull_trimmed (ref : TypeRef) : ref.trimmed.isNonNull = ref.isNonNull := by
  rw [isNonNull, isNonNull, kind_trimmed]

/-- The names of wrappers are not written. -/
theorem text_trimmed (ref : TypeRef) : ref.trimmed.text = ref.text := by
  induction ref with
  | plain kind name => cases kind <;> rfl
  | wrap kind name inner ih =>
    cases kind with
    | list | nonNull => simp [trimmed, text, ih]
    | scalar | object | enum | inputObject | interface | union | unknown => rfl

end TypeRef

/-- References are resolved alike without the names of their wrappers: to the same type, or with defects
that are told alike. -/
theorem Resolver.resolve_trimmed (r : Resolver) (ref : TypeRef) :
    (∃ e, r.resolve ref.trimmed = .ok e ∧ r.resolve ref = .ok e) ∨
      ∃ d d', r.resolve ref.trimmed = .error d ∧ r.resolve ref = .error d' ∧ d.told = d'.told := by
  -- where both sides are one result, it is a type or a defect
  have hsame : ∀ {ref ref' : TypeRef}, r.resolve ref' = r.resolve ref →
      (∃ e, r.resolve ref' = .ok e ∧ r.resolve ref = .ok e) ∨
        ∃ d d', r.resolve ref' = .error d ∧ r.resolve ref = .error d' ∧ d.told = d'.told := by
    intro ref ref' heq
    rw [heq]
    cases r.resolve ref with
    | ok e => exact .inl ⟨e, rfl, rfl⟩
    | error d => exact .inr ⟨d, d, rfl, rfl, rfl⟩
  induction ref with
  | plain kind name => cases kind <;> exact hsame rfl
  | wrap kind name inner ih =>
    cases kind with
    | nonNull =>
      by_cases honce : inner.kind = .nonNull
      · refine .inr ⟨.nonNullTwice (TypeRef.wrap .nonNull name inner).trimmed,
          .nonNullTwice (.wrap .nonNull name inner), ?_, ?_, ?_⟩
        · simp [TypeRef.trimmed, TypeKind.isWrapper, resolve, TypeRef.kind_trimmed, honce]
        · simp [resolve, honce]
        · exact Defect.told_nonNullTwice (TypeRef.text_trimmed _)
      · rcases ih with ⟨e, htrimmed, hinner⟩ | ⟨d, d', htrimmed, hinner, htold⟩
        · refine .inl ⟨e.withNullable false, ?_, ?_⟩
          · simp [TypeRef.trimmed, resolve, TypeRef.kind_trimmed, honce, htrimmed, Except.map]
          · simp [resolve, honce, hinner, Except.map]
        · refine .inr ⟨d, d', ?_, ?_, htold⟩
          · simp [TypeRef.trimmed, resolve, TypeRef.kind_trimmed, honce, htrimmed, Except.map]
          · simp [resolve, honce, hinner, Except.map]
    | list =>
      rcases ih with ⟨e, htrimmed, hinner⟩ | ⟨d, d', htrimmed, hinner, htold⟩
      · refine .inl ⟨.list e true, ?_, ?_⟩
        · simp [TypeRef.trimmed, resolve, htrimmed, Except.map]
        · simp [resolve, hinner, Except.map]
      · refine .inr ⟨d, d', ?_, ?_, htold⟩
        · simp [TypeRef.trimmed, resolve, htrimmed, Except.map]
        · simp [resolve, hinner, Except.map]
    | unknown text notKind => exact .inr ⟨_, _, rfl, rfl, rfl⟩
    | scalar | object | enum | inputObject | interface | union => exact hsame rfl

/-! ### Arguments and fields -/

theorem Entries.toList_map {α : Type} (f : α → α) (es : Entries α) :
    (es.map f).toList = es.toList.map (Option.map f) := by
  cases es <;> rfl

theorem Entries.values_map {α : Type} (f : α → α) (es : Entries α) :
    (es.map f).values = es.values.map f := by
  rw [values, values, toList_map, List.filterMap_map, List.map_filterMap]
  rfl

theorem renderInput_trimmed (r : Resolver) (owner : String) (members : Scope) (input : InputValue) :
    Alike Eq (renderInput r owner members input.trimmed) (renderInput r owner members input) := by
  have hkept : input.trimmed.name = input.name := rfl
  rw [renderInput, renderInput, hkept]
  by_cases hname : (input.name == "") = true
  · rw [if_pos hname, if_pos hname]
    exact .error rfl
  · rw [if_neg hname, if_neg hname]
    refine Alike.bind_left _ fun members' => ?_
    rcases r.resolve_trimmed input.type with ⟨e, htrimmed, hfull⟩ | ⟨d, d', htrimmed, hfull, htold⟩
    · rw [show r.resolve input.trimmed.type = .ok e from htrimmed, hfull]
      exact .ok rfl
    · rw [show r.resolve input.trimmed.type = .error d from htrimmed, hfull]
      exact .error (RenderError.told_of owner input.name htold)

theorem renderInputs_trimmed (r : Resolver) (owner type field : String) (empty : Defect)
    (members : Scope) (inputs : List (Option InputValue)) :
    Alike Eq (renderInputs r owner type field empty members (inputs.map (Option.map .trimmed)))
      (renderInputs r owner type field empty members inputs) := by
  induction inputs generalizing members with
  | nil => exact .ok rfl
  | cons input rest ih =>
    cases input with
    | none => exact .error rfl
    | some input =>
      refine (renderInput_trimmed r owner members input).bind ?_
      rintro ⟨member, members'⟩ _ rfl
      refine (ih members').bind ?_
      rintro more _ rfl
      exact .ok rfl

/-- The same arguments are required without the names of wrappers. -/
theorem required_trimmed (args : List InputValue) :
    (splitArgs (args.map .trimmed)).1.map (Naming.identifier ·.name) =
      (splitArgs args).1.map (Naming.identifier ·.name) := by
  have hrequired : (fun i : InputValue => i.type.isNonNull) ∘ InputValue.trimmed =
      fun i => i.type.isNonNull := by
    funext i
    exact i.type.isNonNull_trimmed
  simp only [splitArgs, List.partition_eq_filter_filter, List.filter_map, hrequired, List.map_map]
  rfl

theorem renderHolder_trimmed (r : Resolver) (owner holder : String) (field : FieldValue) :
    Alike Eq (renderHolder r owner holder field.trimmed) (renderHolder r owner holder field) := by
  unfold renderHolder
  simp only [FieldValue.trimmed, Entries.toList_map, Entries.values_map, required_trimmed]
  refine (renderInputs_trimmed r _ owner field.name .emptyArgument _ _).bind ?_
  rintro members _ rfl
  exact .ok rfl

theorem renderField_trimmed (s : Settings) (owner ident : String) (package methods : Scope)
    (field : FieldValue) :
    Alike Eq (renderField s owner ident package methods field.trimmed)
      (renderField s owner ident package methods field) := by
  have hholder := fun holder => renderHolder_trimmed s.resolver owner holder field
  unfold renderField
  simp only [FieldValue.trimmed, Entries.toList_map, List.isEmpty_map] at hholder ⊢
  by_cases hname : (field.name == "") = true
  · simp only [if_pos hname]
    exact .error rfl
  · simp only [if_neg hname]
    refine Alike.bind_left _ fun methods' => ?_
    rcases s.resolver.resolve_trimmed field.type with
      ⟨e, htrimmed, hfull⟩ | ⟨d, d', htrimmed, hfull, htold⟩
    · rw [htrimmed, hfull]
      by_cases hargs : field.args.toList.isEmpty = true
      · simp only [if_pos hargs]
        exact .ok rfl
      · simp only [if_neg hargs]
        refine Alike.bind_left _ fun package' => (hholder _).bind ?_
        rintro decl _ rfl
        exact .ok rfl
    · rw [htrimmed, hfull]
      exact .error (RenderError.told_of owner field.name htold)

theorem renderFields_trimmed (s : Settings) (owner ident : String) (package methods : Scope)
    (fields : List (Option FieldValue)) :
    Alike Eq (renderFields s owner ident package methods (fields.map (Option.map .trimmed)))
      (renderFields s owner ident package methods fields) := by
  induction fields generalizing package methods with
  | nil => exact .ok rfl
  | cons field rest ih =>
    cases field with
    | none => exact .error rfl
    | some field =>
      refine (renderField_trimmed s owner ident package methods field).bind ?_
      rintro ⟨holder, accessor, package', methods'⟩ _ rfl
      refine (ih package' methods').bind ?_
      rintro ⟨holders, accessors, package''⟩ _ rfl
      exact .ok rfl

/-! ### Types -/

theorem renderObject_trimmed (s : Settings) (package : Scope) {t : FullType} (h : t.kind = .object) :
    Alike Eq (renderObject s package t.trimmed) (renderObject s package t) := by
  unfold renderObject
  simp only [FullType.trimmed, h, if_true, Entries.toList_map]
  refine Alike.bind_left _ fun package' => ?_
  refine (renderFields_trimmed s t.name _ package' _ t.fields.toList).bind ?_
  rintro fields _ rfl
  exact Alike.refl _

theorem renderInputObject_trimmed (s : Settings) (package : Scope) {t : FullType}
    (h : t.kind = .inputObject) :
    Alike Eq (renderInputObject s package t.trimmed) (renderInputObject s package t) := by
  unfold renderInputObject
  simp only [FullType.trimmed, h, if_true, Entries.toList_map]
  refine Alike.bind_left _ fun package' => ?_
  refine (renderInputs_trimmed s.resolver t.name t.name "" .emptyInputField _ _).bind ?_
  rintro members _ rfl
  exact Alike.refl _

theorem renderEnum_trimmed (package : Scope) {t : FullType} (h : t.kind = .enum) :
    renderEnum package t.trimmed = renderEnum package t := by
  have hvalues : t.trimmed.enumValues = t.enumValues := if_pos h
  rw [renderEnum, renderEnum, hvalues]
  rfl

/-- A type is rendered alike without what is not looked at. -/
theorem renderType_trimmed (s : Settings) (package : Scope) (t : FullType) :
    Alike Eq (renderType s package t.trimmed) (renderType s package t) := by
  have hkind : t.trimmed.kind = t.kind := rfl
  unfold renderType
  rw [hkind]
  refine Alike.map (R := Eq) ?_ fun _ _ h => by rw [h]; rfl
  cases h : t.kind with
  | object => exact renderObject_trimmed s package h
  | inputObject => exact renderInputObject_trimmed s package h
  | enum =>
    show Alike Eq (renderEnum package t.trimmed) (renderEnum package t)
    rw [renderEnum_trimmed package h]
    exact Alike.refl _
  | scalar | interface | union | list | nonNull | unknown => exact Alike.refl _

theorem FullType.argIdentifiers_trimmed (t : FullType) :
    t.trimmed.argIdentifiers = t.argIdentifiers := by
  have hkind : t.trimmed.kind = t.kind := rfl
  have hname : t.trimmed.name = t.name := rfl
  rw [argIdentifiers, argIdentifiers, hkind, hname]
  by_cases hnone : (t.kind != .object || isReserved t.name) = true
  · rw [if_pos hnone, if_pos hnone]
  · have hobject : t.kind = .object := by
      by_cases h : t.kind = .object
      · exact h
      · exact absurd (by simp [h]) hnone
    have hfields : t.trimmed.fields = t.fields.map .trimmed := if_pos hobject
    have hargs : (fun f : FieldValue => !f.args.toList.isEmpty) ∘ FieldValue.trimmed =
        fun f => !f.args.toList.isEmpty := by
      funext f
      simp [FieldValue.trimmed, Entries.toList_map]
    rw [if_neg hnone, if_neg hnone, hfields, Entries.values_map, List.filter_map, hargs, List.map_map]
    rfl

section Relevant

variable (o : Options)

theorem Options.relevantTypes_of_looksAt {entry : Option FullType} (h : o.looksAt entry = true)
    (rest : List (Option FullType)) :
    o.relevantTypes (entry :: rest) = entry.map FullType.trimmed :: o.relevantTypes rest := by
  rw [relevantTypes, List.filter_cons_of_pos h, List.map_cons]
  rfl

theorem Options.relevantTypes_of_not_looksAt {entry : Option FullType}
    (h : ¬ o.looksAt entry = true) (rest : List (Option FullType)) :
    o.relevantTypes (entry :: rest) = o.relevantTypes rest := by
  rw [relevantTypes, List.filter_cons_of_neg h]
  rfl

/-- What is not looked at: a type of introspection itself, or a named scalar that is built in or bound. -/
theorem Options.not_looksAt_iff {t : FullType} : ¬ o.looksAt (some t) = true ↔
    isReserved t.name = true ∨ t.kind = .scalar ∧ t.name ≠ "" ∧ o.binds t.name = true := by
  simp only [looksAt, Bool.and_eq_true, Bool.not_eq_true', Bool.and_eq_false_iff, beq_eq_false_iff_ne,
    bne_eq_false_iff_eq]
  grind

/-- A type that is not looked at has no arguments. -/
theorem Options.argIdentifiers_of_not_looksAt {t : FullType} (h : ¬ o.looksAt (some t) = true) :
    t.argIdentifiers = [] := by
  apply if_pos
  rcases (o.not_looksAt_iff).mp h with hreserved | ⟨hscalar, -⟩
  · simp [hreserved]
  · simp [hscalar]

/-- Holders are named for their object types in the same cases. -/
theorem Options.sharedArgs_relevantTypes (types : List (Option FullType)) :
    sharedArgs (o.relevantTypes types) = sharedArgs types := by
  have hidents : argIdents (o.relevantTypes types) = argIdents types := by
    induction types with
    | nil => rfl
    | cons entry rest ih =>
      by_cases h : o.looksAt entry = true
      · rw [o.relevantTypes_of_looksAt h]
        cases entry with
        | none => exact ih
        | some t =>
          show t.trimmed.argIdentifiers ++ argIdents (o.relevantTypes rest) =
            t.argIdentifiers ++ argIdents rest
          rw [ih, t.argIdentifiers_trimmed]
      · rw [o.relevantTypes_of_not_looksAt h, ih]
        cases entry with
        | none => rfl
        | some t =>
          show argIdents rest = t.argIdentifiers ++ argIdents rest
          rw [o.argIdentifiers_of_not_looksAt h, List.nil_append]
  show (argIdents (o.relevantTypes types)).eraseDups.filter
      (fun i => 1 < (argIdents (o.relevantTypes types)).count i) =
    (argIdents types).eraseDups.filter fun i => 1 < (argIdents types).count i
  rw [hidents]

end Relevant

/-- Fragments with the same declarations in the same order. -/
def SameDecls (fragments fragments' : List Fragment) : Prop :=
  fragments.flatMap (·.decls) = fragments'.flatMap (·.decls)

section RenderTypes

variable {s : Settings} {t : FullType}

/-- A scalar that stands for an existing type is rendered to nothing and claims no identifier. -/
theorem renderType_of_isBound (hkind : t.kind = .scalar) (h : s.resolver.isBound t.name = true)
    (package : Scope) : renderType s package t = .ok (⟨t.name, []⟩, package) := by
  rw [renderType, hkind]
  show (renderScalar s package t).map _ = _
  rw [renderScalar, if_pos h]
  rfl

/-- A list of types is rendered alike without what is not looked at. -/
theorem renderTypes_relevant {o : Options}
    (hbound : ∀ scalar, o.binds scalar = true → s.resolver.isBound scalar = true) (package : Scope)
    (types : List (Option FullType)) :
    Alike SameDecls (renderTypes s package (o.relevantTypes types)) (renderTypes s package types) := by
  induction types generalizing package with
  | nil => exact .ok rfl
  | cons entry rest ih =>
    cases entry with
    | none =>
      rw [o.relevantTypes_of_looksAt rfl]
      exact .error rfl
    | some t =>
      by_cases hlooks : o.looksAt (some t) = true
      · rw [o.relevantTypes_of_looksAt hlooks, Option.map_some]
        by_cases hname : t.name = ""
        · rw [renderTypes_of_unnamed hname, renderTypes_of_unnamed (t := t.trimmed) hname]
          exact .error rfl
        · have hreserved : ¬ isReserved t.name = true :=
            fun h => absurd hlooks (o.not_looksAt_iff.mpr (.inl h))
          rw [renderTypes_of_not_isReserved hname hreserved,
            renderTypes_of_not_isReserved (t := t.trimmed) hname hreserved]
          refine (renderType_trimmed s package t).bind ?_
          rintro ⟨fragment, package'⟩ _ rfl
          exact (ih package').map fun _ _ h => congrArg (fragment.decls ++ ·) h
      · rw [o.relevantTypes_of_not_looksAt hlooks]
        by_cases hreserved : isReserved t.name = true
        · rw [renderTypes_of_isReserved hreserved]
          exact ih package
        · obtain ⟨hscalar, hname, hbinds⟩ := (o.not_looksAt_iff.mp hlooks).resolve_left hreserved
          -- the scalar adds a fragment without declarations
          have hrest : Alike SameDecls ((renderTypes s package (o.relevantTypes rest)).map id)
              ((renderTypes s package rest).map (⟨t.name, []⟩ :: ·)) := (ih package).map fun _ _ h => h
          rw [Except.map_id] at hrest
          rw [renderTypes_of_not_isReserved hname hreserved,
            renderType_of_isBound hscalar (hbound _ hbinds)]
          exact hrest

end RenderTypes

theorem map_fst_of_mapM {α β ε : Type} {f : String × α → Except ε (String × β)}
    (hf : ∀ b c, f b = .ok c → c.1 = b.1) {bs : List (String × α)} {cs : List (String × β)}
    (h : bs.mapM f = .ok cs) : cs.map Prod.fst = bs.map Prod.fst := by
  induction bs generalizing cs with
  | nil =>
    cases h
    rfl
  | cons b bs ih =>
    rw [List.mapM_cons] at h
    cases hb : f b with
    | error e => rw [hb] at h; cases h
    | ok c =>
      cases hbs : bs.mapM f with
      | error e => rw [hb, hbs] at h; cases h
      | ok cs' =>
        rw [hb, hbs] at h
        cases h
        rw [List.map_cons, List.map_cons, hf b c hb, ih hbs]

/-- The scalars that stand for existing types are those that are built in or bound. -/
theorem Resolver.isBound_iff_binds {o : Options} {r : Resolver} (h : ofBindings o.scalars = .ok r)
    (scalar : String) : r.isBound scalar = true ↔ o.binds scalar = true := by
  rw [ofBindings] at h
  obtain ⟨bound, hmapM, rfl⟩ := exists_of_map_ok (f := fun bound => Resolver.mk (bound ++ builtin)) h
  have hkeys : bound.map Prod.fst = (o.scalars.mergeSort fun a b => !(b.1 < a.1)).map Prod.fst := by
    refine map_fst_of_mapM ?_ hmapM
    rintro ⟨name, target⟩ c hc
    simp only at hc
    split at hc
    · cases hc
      rfl
    · cases hc
  have hlookup : (Resolver.mk (bound ++ builtin)).isBound scalar = true ↔
      scalar ∈ (bound ++ builtin).map Prod.fst := by
    rw [isBound, List.lookup_isSome_iff, List.mem_map]
    simp only [beq_iff_eq, @eq_comm _ scalar]
  rw [hlookup, List.map_append, hkeys, List.mem_append, ((List.mergeSort_perm _ _).map _).mem_iff,
    Options.binds, Bool.or_eq_true, List.contains_iff_mem, List.contains_iff_mem, or_comm]

/-! ### Schemas -/

/-- The fragments of a schema and those of its relevant part have the same declarations. -/
theorem render_relevant {o : Options} {r : Resolver} (h : Resolver.ofBindings o.scalars = .ok r)
    (qualifyArgs : Bool) (package : String) (schema : Schema) :
    Alike SameDecls (render r qualifyArgs package (schema.relevant o))
      (render r qualifyArgs package schema) := by
  have htypes : (schema.relevant o).types.toList = o.relevantTypes schema.types.toList := rfl
  have hroots : (schema.relevant o).roots = schema.roots := rfl
  rw [render, render, htypes, hroots, o.sharedArgs_relevantTypes]
  exact renderTypes_relevant (fun _ => (Resolver.isBound_iff_binds h _).mpr) _ _

theorem emit?_congr {fragments fragments' : List Fragment} (h : SameDecls fragments fragments')
    (package runtime : String) : emit? package runtime fragments = emit? package runtime fragments' := by
  have hall : ∀ fs : List Fragment, fs.all (·.decls.all Declaration.isLegal) =
      (fs.flatMap (·.decls)).all Declaration.isLegal := fun fs => List.all_flatMap.symm
  have hdecls : fragments.flatMap (·.decls) = fragments'.flatMap (·.decls) := h
  rw [emit?, emit?, hall, hall, sourceFile, sourceFile, hdecls]

/-- The file of the fragments of a run, or that a name or comment in it is illegal. -/
def Options.emitted (o : Options) (fragments : List Fragment) : Except GenerateError String :=
  match emit? o.withDefaults.package o.withDefaults.runtime fragments with
  | some source => .ok source
  | none => .error (.illegalSource o.withDefaults.filename)

section Generate

variable {o : Options} (schema : Schema)

theorem generate_of_packageName (h : ¬ Source.isIdentifier o.withDefaults.package = true) :
    generate (some schema) o = .error (.packageName o.withDefaults.package) := by
  unfold generate
  simp only [h]
  rfl

theorem generate_of_ofBindings_error {e : BindingError}
    (hpackage : Source.isIdentifier o.withDefaults.package = true)
    (h : Resolver.ofBindings o.scalars = .error e) :
    generate (some schema) o = .error (.binding e) := by
  have hbindings : Resolver.ofBindings o.withDefaults.scalars = .error e := h
  unfold generate
  simp only [hpackage, hbindings]
  rfl

/-- A run with a proper package name and proper bindings renders the schema and emits the fragments. -/
theorem generate_of_ofBindings {r : Resolver}
    (hpackage : Source.isIdentifier o.withDefaults.package = true)
    (h : Resolver.ofBindings o.scalars = .ok r) :
    generate (some schema) o =
      ((render r o.qualifyArgs o.withDefaults.package schema).mapError .render).bind o.emitted := by
  have hbindings : Resolver.ofBindings o.withDefaults.scalars = .ok r := h
  unfold generate
  simp only [hpackage, hbindings]
  rfl

end Generate

/-- Generating from a schema and from its relevant part gives the same file, or errors that are told
alike. -/
theorem generate_relevant (schema : Schema) (o : Options) :
    (generate (some (schema.relevant o)) o).mapError GenerateError.told =
      (generate (some schema) o).mapError GenerateError.told := by
  by_cases hpackage : Source.isIdentifier o.withDefaults.package = true
  · cases hbindings : Resolver.ofBindings o.scalars with
    | error e =>
      rw [generate_of_ofBindings_error _ hpackage hbindings,
        generate_of_ofBindings_error _ hpackage hbindings]
    | ok r =>
      rw [generate_of_ofBindings _ hpackage hbindings, generate_of_ofBindings _ hpackage hbindings]
      have halike := render_relevant hbindings o.qualifyArgs o.withDefaults.package schema
      generalize render r o.qualifyArgs o.withDefaults.package (schema.relevant o) = x at *
      generalize render r o.qualifyArgs o.withDefaults.package schema = y at *
      cases halike with
      | ok hdecls =>
        simp only [Except.mapError, Except.bind, Options.emitted, emit?_congr hdecls]
      | error htold =>
        simp only [Except.mapError, Except.bind, GenerateError.told, htold]
  · rw [generate_of_packageName _ hpackage, generate_of_packageName _ hpackage]

/-- Schemas that differ in irrelevant parts only have the same file, or errors that are told alike, with
the same text. -/
theorem generate_of_relevant_eq {schema schema' : Schema} {o : Options}
    (h : schema.relevant o = schema'.relevant o) :
    (generate (some schema) o).mapError GenerateError.told =
        (generate (some schema') o).mapError GenerateError.told ∧
      (generate (some schema) o).mapError GenerateError.message =
        (generate (some schema') o).mapError GenerateError.message := by
  have htold : (generate (some schema) o).mapError GenerateError.told =
      (generate (some schema') o).mapError GenerateError.told := by
    rw [← generate_relevant schema o, h, generate_relevant schema' o]
  refine ⟨htold, ?_⟩
  have hmessage := congrArg (Except.mapError GenerateError.message) htold
  rwa [mapError_message_told, mapError_message_told] at hmessage

theorem Resolver.ofBindings_singleton {scalar target : String} {parsed : String × String}
    (h : parseTarget (trimBlank target) = some parsed) :
    ofBindings [(scalar, target)] = .ok ⟨(scalar, parsed) :: builtin⟩ := by
  rw [ofBindings, List.mergeSort_singleton, List.mapM_cons, List.mapM_nil]
  simp only [h]
  rfl

/-- A binding of a scalar to `time.Time`. -/
def timeOptions : Options :=
  ⟨"", "", "", [("DateTime", "time.Time")], false⟩

/-- A query of the visits since a time, whose references may bear names on their wrappers, with types before
and after it and with directives. -/
def visitSchema (wrapper : Option String) (query : FullType) (before after : List (Option FullType))
    (directives : Entries Directive) : Schema :=
  { (default : Schema) with
    queryType := some ⟨some "Query"⟩
    types := some (before ++ some { query with
      kind := .object
      name? := some "Query"
      fields := some [some { (default : FieldValue) with
        name := "visits"
        type := .wrap .list wrapper (.plain .scalar (some "DateTime"))
        args := some [some { (default : InputValue) with
          name := "since"
          type := .wrap .nonNull wrapper (.plain .scalar (some "DateTime")) }] }] } :: after)
    directives := directives }

/-- The query alone. -/
def bareSchema : Schema :=
  visitSchema none default [] [] none

/-- The query among a broken type of introspection and two scalars, with lists that an object does not own
and names for its wrappers. -/
def clutteredSchema : Schema :=
  visitSchema (some "DateTime")
    { (default : FullType) with
      inputFields := some [none]
      interfaces := some [some (.plain .interface (some "Node"))]
      enumValues := some [none]
      possibleTypes := some [none] }
    [some { (default : FullType) with
      kind := .object, name? := some "__Type", fields := some [none] }]
    [some { (default : FullType) with kind := .scalar, name? := some "DateTime" },
      some { (default : FullType) with kind := .scalar, name? := some "String" }]
    (some [some { (default : Directive) with name := "skip" }])

/-- The clutter leaves no trace in the file. -/
theorem clutteredSchema_generate :
    bareSchema.relevant timeOptions = clutteredSchema.relevant timeOptions ∧
      bareSchema ≠ clutteredSchema ∧
      ∃ source, generate (some bareSchema) timeOptions = .ok source ∧
        generate (some clutteredSchema) timeOptions = .ok source := by
  have hrelevant : bareSchema.relevant timeOptions = clutteredSchema.relevant timeOptions := by
    decide +kernel
  have hbindings : Resolver.ofBindings timeOptions.scalars =
      .ok ⟨("DateTime", "time", "Time") :: Resolver.builtin⟩ :=
    Resolver.ofBindings_singleton (by decide +kernel)
  have hfile : (((render ⟨("DateTime", "time", "Time") :: Resolver.builtin⟩ false "gen"
      bareSchema).mapError .render).bind timeOptions.emitted).toOption.map (fun _ => true) =
        some true := by
    decide +kernel
  obtain ⟨source, hsource, -⟩ := exists_ok_of_toOption hfile
  have hbare : generate (some bareSchema) timeOptions = .ok source :=
    (generate_of_ofBindings bareSchema (by decide +kernel) hbindings).trans hsource
  refine ⟨hrelevant, by decide +kernel, source, hbare, ?_⟩
  have htold := (generate_of_relevant_eq hrelevant).1
  rw [hbare] at htold
  cases hcluttered : generate (some clutteredSchema) timeOptions with
  | ok source' =>
    rw [hcluttered] at htold
    cases htold
    rfl
  | error e =>
    rw [hcluttered] at htold
    cases htold

/-- A scalar without a name is looked at, also where the options bind it: alone in a schema it is an error,
and without it the file is empty. -/
theorem generate_unnamed_scalar :
    let o : Options := ⟨"", "", "", [("", "string")], false⟩
    let t : FullType := { (default : FullType) with kind := .scalar, name? := some "" }
    t.kind = .scalar ∧ o.binds t.name = true ∧
      generate (some ((default : Schema).withTypes [some t])) o =
        .error (.render (.schema (.of "" "" (.unnamedType .scalar)))) ∧
      ∃ source, generate (some ((default : Schema).withTypes [])) o = .ok source := by
  intro o t
  have hbindings : Resolver.ofBindings o.scalars = .ok ⟨("", "", "string") :: Resolver.builtin⟩ :=
    Resolver.ofBindings_singleton (by decide +kernel)
  have hpackage : Source.isIdentifier o.withDefaults.package = true := by decide +kernel
  refine ⟨rfl, by decide +kernel, ?_, ?_⟩
  · rw [generate_of_ofBindings _ hpackage hbindings]
    rfl
  · rw [generate_of_ofBindings _ hpackage hbindings]
    exact ⟨_, rfl⟩

end Bindery
