import Bindery.Proofs.Bindings.Defects
import Bindery.Proofs.Bindings.Relevance
import Bindery.Sdl.Conversion

/-!
# Schemas of type systems

A type system in which all that is used is declared, and all that is declared has a name, leads to a schema
without malformed references. The only defects of such a schema are interfaces and unions, so that bindings
of it are refused for nothing else.

## Main definitions

- `Schema.refs` — all references of a schema
- `Sdl.TypeSystem.Complete` — names are given, and used names are declared
- `Sdl.TypeSystem.Refers` — the references that a type system has
- `Sdl.TypeSystem.Obstructed` — an interface or a union is in the way of bindings

## Main results

- `Sdl.TypeSystem.refers_of_mem_refs` — the references of the schema of a complete type system
- `Sdl.TypeSystem.mem_defects_schema` — its defects
- `Sdl.TypeSystem.generate_schema_cases` — how bindings of it can fail
-/

namespace Bindery

/-- The references of a field. -/
def FieldValue.refs (f : FieldValue) : List TypeRef :=
  f.type :: f.args.values.map (·.type)

/-- The references of a type. -/
def FullType.refs (t : FullType) : List TypeRef :=
  t.fields.values.flatMap FieldValue.refs ++ t.inputFields.values.map (·.type) ++
    t.interfaces.values ++ t.possibleTypes.values

/-- The references of a schema. -/
def Schema.refs (s : Schema) : List TypeRef :=
  s.types.values.flatMap FullType.refs ++
    s.directives.values.flatMap fun d => d.args.values.map (·.type)

/-- The entries of a list of which every one is there. -/
theorem Entries.values_some {α β : Type} (f : α → β) (as : List α) :
    Entries.values (some (as.map fun a => some (f a))) = as.map f := by
  simp [Entries.values, Entries.toList]

theorem mem_entryDefects_map {α β : Type} {missing : Defect} {defects : β → List Defect}
    {f : α → β} {as : List α} {d : Defect} :
    d ∈ entryDefects missing defects (as.map fun a => some (f a)) ↔ ∃ a ∈ as, d ∈ defects (f a) := by
  simp [entryDefects]

theorem nameDefects_of_ne {unnamed : Defect} {name : String} (h : name ≠ "") :
    nameDefects unnamed name = [] :=
  if_neg h

theorem exists_mapM_bind {ε α β γ : Type} {f : α → Except ε β} {g : List β → Except ε γ}
    {as : List α} (hf : ∀ a ∈ as, ∃ b, f a = .ok b) (hg : ∀ bs, ∃ c, g bs = .ok c) :
    ∃ c, (as.mapM f >>= g) = .ok c := by
  have hmapM : ∃ bs, as.mapM f = .ok bs := by
    induction as with
    | nil => exact ⟨[], rfl⟩
    | cons a rest ih =>
      obtain ⟨ha, hrest⟩ := List.forall_mem_cons.mp hf
      obtain ⟨b, hb⟩ := ha
      obtain ⟨bs, hbs⟩ := ih hrest
      exact ⟨b :: bs, by rw [List.mapM_cons, hb, hbs]; rfl⟩
  obtain ⟨bs, hbs⟩ := hmapM
  rw [hbs]
  exact hg bs

/-- Bindings that all lead to types make up a resolver. -/
theorem Resolver.exists_ofBindings {bindings : List (String × String)}
    (h : ∀ b ∈ bindings, (parseTarget (trimBlank b.2)).isSome = true) :
    ∃ r, ofBindings bindings = .ok r := by
  unfold ofBindings
  refine exists_mapM_bind ?_ fun bound => ⟨_, rfl⟩
  intro b hb
  obtain ⟨parsed, hparsed⟩ := Option.isSome_iff_exists.mp (h b (List.mem_mergeSort.mp hb))
  simp only [hparsed]
  exact ⟨_, rfl⟩

namespace Sdl

/-- The types that a field uses. -/
def FieldDefinition.uses (f : FieldDefinition) : List String :=
  f.type.name :: f.args.map (·.type.name)

/-- The types that a declaration uses. -/
def Definition.uses (d : Definition) : List String :=
  d.fields.flatMap FieldDefinition.uses ++ d.interfaces ++ d.types

/-- The types that the bindings of a declaration use: those of the fields of an object, but for fields of
introspection itself, and those of the fields of an input object. -/
def Definition.boundUses (d : Definition) : List String :=
  match d.kind with
  | .object => (d.fields.filter (!isReserved ·.name)).flatMap FieldDefinition.uses
  | .inputObject => d.fields.map (·.type.name)
  | _ => []

/-- Whether types of the kind have no bindings. -/
def DefinitionKind.isAbstract : DefinitionKind → Bool
  | interface => true
  | union => true
  | _ => false

namespace TypeSystem

/-- What a type system that was checked promises: names are given, and used names are declared. -/
structure Complete (s : TypeSystem) : Prop where
  /-- Types have names. -/
  typeNamed : ∀ d ∈ s.types, d.name ≠ ""
  /-- Fields have names. -/
  fieldNamed : ∀ d ∈ s.types, ∀ f ∈ d.fields, f.name ≠ ""
  /-- Arguments have names. -/
  argNamed : ∀ d ∈ s.types, ∀ f ∈ d.fields, ∀ a ∈ f.args, a.name ≠ ""
  /-- Enum values have names. -/
  valueNamed : ∀ d ∈ s.types, ∀ v ∈ d.enumValues, v.name ≠ ""
  /-- The types that types use are declared. -/
  useDeclared : ∀ d ∈ s.types, ∀ name ∈ d.uses, (s.type? name).isSome = true
  /-- The types that directives use are declared. -/
  directiveDeclared : ∀ d ∈ s.directives, ∀ a ∈ d.args, (s.type? a.type.name).isSome = true

/-- The references that a type system has: a declared type with its own kind and nothing inside it, a list
of a reference, and a reference that excludes null where it did not do so before. -/
inductive Refers (s : TypeSystem) : TypeRef → Prop
  | named {name : String} {d : Definition} (declared : s.type? name = some d) (hname : name ≠ "") :
      Refers s (.plain d.kind.toKind (some name))
  | list {ref : TypeRef} (inner : Refers s ref) : Refers s (.wrap .list none ref)
  | nonNull {ref : TypeRef} (inner : Refers s ref) (nullable : ref.kind ≠ .nonNull) :
      Refers s (.wrap .nonNull none ref)

/-- An interface or a union is in the way of bindings: it would get some itself, or those of another type
use it. -/
def Obstructed (s : TypeSystem) : Prop :=
  ∃ d ∈ s.types, d.kind.isAbstract = true ∧ (isReserved d.name = false ∨
    ∃ user ∈ s.types, isReserved user.name = false ∧ d.name ∈ user.boundUses)

instance (s : TypeSystem) : Decidable s.Complete :=
  decidable_of_iff
    ((∀ d ∈ s.types, d.name ≠ "") ∧ (∀ d ∈ s.types, ∀ f ∈ d.fields, f.name ≠ "") ∧
      (∀ d ∈ s.types, ∀ f ∈ d.fields, ∀ a ∈ f.args, a.name ≠ "") ∧
      (∀ d ∈ s.types, ∀ v ∈ d.enumValues, v.name ≠ "") ∧
      (∀ d ∈ s.types, ∀ name ∈ d.uses, (s.type? name).isSome = true) ∧
      ∀ d ∈ s.directives, ∀ a ∈ d.args, (s.type? a.type.name).isSome = true)
    ⟨fun ⟨types, fields, args, values, uses, directives⟩ =>
        ⟨types, fields, args, values, uses, directives⟩,
      fun h => ⟨h.typeNamed, h.fieldNamed, h.argNamed, h.valueNamed, h.useDeclared,
        h.directiveDeclared⟩⟩

variable {s : TypeSystem}

theorem mem_of_type? {name : String} {d : Definition} (h : s.type? name = some d) :
    d ∈ s.types ∧ d.name = name :=
  ⟨List.mem_of_find?_eq_some h, by simpa using List.find?_some h⟩

/-! ### References -/

theorem Complete.refers_namedRef (h : s.Complete) {name : String}
    (hdeclared : (s.type? name).isSome = true) : s.Refers (s.namedRef name) := by
  obtain ⟨d, hd⟩ := Option.isSome_iff_exists.mp hdeclared
  obtain ⟨hmem, hname⟩ := mem_of_type? hd
  rw [namedRef, hd]
  exact .named hd (hname ▸ h.typeNamed d hmem)

theorem Refers.wrapNonNull {ref : TypeRef} (h : s.Refers ref) (hkind : ref.kind ≠ .nonNull)
    (nonNull : Bool) : s.Refers (wrapNonNull nonNull ref) := by
  cases nonNull with
  | false => exact h
  | true => exact .nonNull h hkind

theorem kind_namedRef_ne {name : String} : (s.namedRef name).kind ≠ .nonNull := by
  unfold namedRef TypeRef.kind
  cases s.type? name with
  | none => exact nofun
  | some d =>
    obtain ⟨kind⟩ := d
    cases kind <;> exact nofun

theorem Complete.refers_ref (h : s.Complete) {t : TypeExpr}
    (hdeclared : (s.type? t.name).isSome = true) : s.Refers (s.ref t) := by
  induction t with
  | named position name nonNull => exact (h.refers_namedRef hdeclared).wrapNonNull kind_namedRef_ne _
  | list position elem nonNull ih => exact (Refers.list (ih hdeclared)).wrapNonNull nofun _

theorem Complete.refers_namedRefs (h : s.Complete) {names : List String}
    (hdeclared : ∀ name ∈ names, (s.type? name).isSome = true) :
    ∀ ref ∈ (s.namedRefs names).values, s.Refers ref := by
  intro ref href
  unfold namedRefs at href
  split at href
  · cases href
  · rw [Entries.values_some] at href
    obtain ⟨name, hname, rfl⟩ := List.mem_map.mp href
    exact h.refers_namedRef (hdeclared name hname)

section Refs

variable (h : s.Complete) {d : Definition} (hd : d ∈ s.types)
include h hd

theorem Complete.refers_field {f : FieldDefinition} (hf : f ∈ d.fields) :
    ∀ ref ∈ (s.fieldValue f).refs, s.Refers ref := by
  have huses : ∀ name ∈ f.uses, (s.type? name).isSome = true := by
    intro name hname
    refine h.useDeclared d hd name (List.mem_append_left _ (List.mem_append_left _ ?_))
    exact List.mem_flatMap.mpr ⟨f, hf, hname⟩
  intro ref href
  rcases List.mem_cons.mp href with rfl | href
  · exact h.refers_ref (huses _ List.mem_cons_self)
  · have hargs : (s.fieldValue f).args.values = f.args.map s.inputValue := Entries.values_some _ _
    rw [hargs, List.map_map] at href
    obtain ⟨a, ha, rfl⟩ := List.mem_map.mp href
    exact h.refers_ref (huses _ (List.mem_cons_of_mem _ (List.mem_map_of_mem ha)))

theorem Complete.refers_fullType : ∀ ref ∈ (s.fullType d).refs, s.Refers ref := by
  intro ref href
  simp only [FullType.refs, List.mem_append, List.mem_flatMap, List.mem_map] at href
  rcases href with ((⟨f, hf, href⟩ | ⟨i, hi, rfl⟩) | href) | href
  · simp only [fullType] at hf
    split at hf
    · rw [Entries.values_some] at hf
      obtain ⟨g, hg, rfl⟩ := List.mem_map.mp hf
      exact h.refers_field hd (List.mem_of_mem_filter hg) ref href
    · cases hf
  · simp only [fullType] at hi
    split at hi
    · rw [Entries.values_some] at hi
      obtain ⟨g, hg, rfl⟩ := List.mem_map.mp hi
      exact h.refers_field hd hg _ List.mem_cons_self
    · cases hi
  · simp only [fullType] at href
    split at href
    · refine h.refers_namedRefs (fun name hname => h.useDeclared d hd name ?_) ref href
      exact List.mem_append_left _ (List.mem_append_right _ hname)
    · cases href
  · simp only [fullType] at href
    split at href
    · refine h.refers_namedRefs (fun name hname => h.useDeclared d hd name ?_) ref href
      exact List.mem_append_right _ hname
    · cases href

end Refs

theorem values_types_schema (s : TypeSystem) :
    s.schema.types.values = (s.types.mergeSort precedes).map s.fullType :=
  Entries.values_some _ _

theorem Complete.refers_directive (h : s.Complete) {d : DirectiveDefinition}
    (hd : d ∈ s.directives) : ∀ i ∈ (s.directive d).args.values, s.Refers i.type := by
  intro i hi
  simp only [directive] at hi
  split at hi
  · cases hi
  · rw [Entries.values_some] at hi
    obtain ⟨a, ha, rfl⟩ := List.mem_map.mp hi
    exact h.refers_ref (h.directiveDeclared d hd a ha)

/-- The references of the schema of a complete type system are those that it has. -/
theorem refers_of_mem_refs (h : s.Complete) {ref : TypeRef} (href : ref ∈ s.schema.refs) :
    s.Refers ref := by
  rcases List.mem_append.mp href with href | href
  · rw [values_types_schema] at href
    obtain ⟨t, ht, href⟩ := List.mem_flatMap.mp href
    obtain ⟨d, hd, rfl⟩ := List.mem_map.mp ht
    exact h.refers_fullType (List.mem_mergeSort.mp hd) ref href
  · obtain ⟨t, ht, href⟩ := List.mem_flatMap.mp href
    obtain ⟨i, hi, rfl⟩ := List.mem_map.mp href
    simp only [schema] at ht
    split at ht
    · cases ht
    · rw [Entries.values_some] at ht
      obtain ⟨d, hd, rfl⟩ := List.mem_map.mp ht
      exact h.refers_directive (List.mem_mergeSort.mp hd) i hi

/-! ### Defects -/

theorem resolve_wrapNonNull {r : Resolver} {ref : TypeRef} {nonNull : Bool} {defect : Defect}
    (hkind : ref.kind ≠ .nonNull) (h : r.resolve (wrapNonNull nonNull ref) = .error defect) :
    r.resolve ref = .error defect := by
  cases nonNull with
  | false => exact h
  | true =>
    simp only [wrapNonNull, Resolver.resolve, beq_iff_eq, hkind, if_true, if_false] at h
    cases hresolve : r.resolve ref with
    | ok type =>
      rw [hresolve] at h
      cases h
    | error defect' =>
      rw [hresolve] at h
      cases h
      rfl

theorem resolve_namedRef {r : Resolver} {name : String} {d : Definition} {defect : Defect}
    (hd : s.type? name = some d) (hname : name ≠ "")
    (h : r.resolve (s.namedRef name) = .error defect) :
    defect.category = some .unsupported ∧ d.kind.isAbstract = true := by
  simp only [namedRef, hd, Option.elim_some, Resolver.resolve] at h
  cases hkind : d.kind with
  | interface | union =>
    rw [hkind] at h
    cases h
    exact ⟨rfl, rfl⟩
  | scalar | object | enum | inputObject =>
    rw [hkind] at h
    simp only [Resolver.resolvePlain, DefinitionKind.toKind, Option.getD_some] at h
    cases h

/-- A reference that cannot be resolved leads to an interface or a union. -/
theorem resolve_ref {r : Resolver} {t : TypeExpr} {d : Definition} {defect : Defect}
    (hd : s.type? t.name = some d) (hname : t.name ≠ "")
    (h : r.resolve (s.ref t) = .error defect) :
    defect.category = some .unsupported ∧ d.kind.isAbstract = true := by
  induction t generalizing defect with
  | named position name nonNull =>
    exact resolve_namedRef hd hname (resolve_wrapNonNull kind_namedRef_ne h)
  | list position elem nonNull ih =>
    have hkind : (TypeRef.wrap .list none (s.ref elem)).kind ≠ .nonNull := nofun
    have hlist := resolve_wrapNonNull hkind h
    rw [Resolver.resolve] at hlist
    cases hresolve : r.resolve (s.ref elem) with
    | ok type =>
      rw [hresolve] at hlist
      cases hlist
    | error defect' =>
      rw [hresolve] at hlist
      cases hlist
      exact ih hd hname hresolve

/-- A defect that an interface or a union accounts for. -/
def Excuses (s : TypeSystem) (defect : Defect) : Prop :=
  defect.category = some .unsupported ∧ s.Obstructed

section Defects

variable (h : s.Complete) {user : Definition} (huser : user ∈ s.types)
  (hreserved : isReserved user.name = false) {r : Resolver}
include h huser hreserved

theorem excuses_ref {t : TypeExpr} (huse : t.name ∈ user.boundUses)
    (hdeclared : (s.type? t.name).isSome = true) {defect : Defect}
    (hdefect : defect ∈ r.defects (s.ref t)) : s.Excuses defect := by
  obtain ⟨d, hd⟩ := Option.isSome_iff_exists.mp hdeclared
  obtain ⟨hmem, hname⟩ := mem_of_type? hd
  have hne : t.name ≠ "" := hname ▸ h.typeNamed d hmem
  obtain ⟨hcategory, habstract⟩ := resolve_ref hd hne (Resolver.mem_defects.mp hdefect)
  refine ⟨hcategory, d, hmem, habstract, .inr ⟨user, huser, hreserved, ?_⟩⟩
  rw [hname]
  exact huse

theorem excuses_field (hkind : user.kind = .object) {f : FieldDefinition} (hf : f ∈ user.fields)
    (hown : isReserved f.name = false) {defect : Defect}
    (hdefect : defect ∈ (s.fieldValue f).defects r) : s.Excuses defect := by
  have huse : ∀ name ∈ f.uses, name ∈ user.boundUses ∧ (s.type? name).isSome = true := by
    intro name hname
    constructor
    · rw [Definition.boundUses, hkind]
      refine List.mem_flatMap.mpr ⟨f, List.mem_filter.mpr ⟨hf, ?_⟩, hname⟩
      rw [hown]
      rfl
    · refine h.useDeclared user huser name (List.mem_append_left _ (List.mem_append_left _ ?_))
      exact List.mem_flatMap.mpr ⟨f, hf, hname⟩
  have hnamed : nameDefects .unnamedField (s.fieldValue f).name = [] :=
    nameDefects_of_ne (h.fieldNamed user huser f hf)
  rw [FieldValue.defects, hnamed, List.nil_append] at hdefect
  rcases List.mem_append.mp hdefect with hdefect | hdefect
  · obtain ⟨hbound, hdeclared⟩ := huse _ List.mem_cons_self
    exact excuses_ref h huser hreserved hbound hdeclared hdefect
  · obtain ⟨a, ha, hdefect⟩ := mem_entryDefects_map.mp hdefect
    obtain ⟨hbound, hdeclared⟩ := huse _ (List.mem_cons_of_mem _ (List.mem_map_of_mem ha))
    have hnamed : nameDefects .unnamedInput (s.inputValue a).name = [] :=
      nameDefects_of_ne (h.argNamed user huser f hf a ha)
    rw [InputValue.defects, hnamed, List.nil_append] at hdefect
    exact excuses_ref h huser hreserved hbound hdeclared hdefect

theorem excuses_inputField (hkind : user.kind = .inputObject) {f : FieldDefinition}
    (hf : f ∈ user.fields) {defect : Defect} (hdefect : defect ∈ (s.inputField f).defects r) :
    s.Excuses defect := by
  have hnamed : nameDefects .unnamedInput (s.inputField f).name = [] :=
    nameDefects_of_ne (h.fieldNamed user huser f hf)
  rw [InputValue.defects, hnamed, List.nil_append] at hdefect
  have hbound : f.type.name ∈ user.boundUses := by
    rw [Definition.boundUses, hkind]
    exact List.mem_map_of_mem hf
  refine excuses_ref h huser hreserved hbound (h.useDeclared user huser _ ?_) hdefect
  refine List.mem_append_left _ (List.mem_append_left _ ?_)
  exact List.mem_flatMap.mpr ⟨f, hf, List.mem_cons_self⟩

theorem excuses_fullType {defect : Defect} (hdefect : defect ∈ (s.fullType user).defects r) :
    s.Excuses defect := by
  unfold FullType.defects at hdefect
  cases hkind : user.kind with
  | object =>
    simp only [fullType, hkind] at hdefect
    obtain ⟨f, hf, hdefect⟩ := mem_entryDefects_map.mp hdefect
    obtain ⟨hf, hown⟩ := List.mem_filter.mp hf
    exact excuses_field h huser hreserved hkind hf (by simpa using hown) hdefect
  | inputObject =>
    simp only [fullType, hkind] at hdefect
    obtain ⟨f, hf, hdefect⟩ := mem_entryDefects_map.mp hdefect
    exact excuses_inputField h huser hreserved hkind hf hdefect
  | enum =>
    simp only [fullType, hkind] at hdefect
    obtain ⟨v, hv, hdefect⟩ := mem_entryDefects_map.mp hdefect
    have hnamed : nameDefects .unnamedEnumValue (enumValue v).name = [] :=
      nameDefects_of_ne (h.valueNamed user huser v hv)
    rw [hnamed] at hdefect
    cases hdefect
  | scalar =>
    simp only [fullType, hkind] at hdefect
    cases hdefect
  | interface | union =>
    simp only [fullType, hkind] at hdefect
    obtain rfl := List.mem_singleton.mp hdefect
    exact ⟨rfl, user, huser, by rw [hkind]; rfl, .inl hreserved⟩

end Defects

/-- The defects of the schema of a complete type system are interfaces and unions. -/
theorem mem_defects_schema (h : s.Complete) {r : Resolver} {defect : Defect}
    (hdefect : defect ∈ s.schema.defects r) : s.Excuses defect := by
  obtain ⟨d, hd, hdefect⟩ := mem_entryDefects_map.mp hdefect
  have hmem : d ∈ s.types := List.mem_mergeSort.mp hd
  have hname : (s.fullType d).name = d.name := rfl
  rw [FullType.listedDefects, hname, nameDefects_of_ne (h.typeNamed d hmem), List.nil_append]
    at hdefect
  split at hdefect
  · cases hdefect
  · next hreserved => exact excuses_fullType h hmem (by simpa using hreserved) hdefect

/-! ### Bindings -/

/-- The schema of a complete type system has proper references only. Bindings of it, for a proper package name
and proper scalars, fail because of a collision, because a name or comment cannot stand in a source file,
or because of an interface or a union that is in the way; never because the schema is malformed. -/
theorem generate_schema_cases (h : s.Complete) {o : Options}
    (hpackage : Source.isIdentifier o.withDefaults.package = true)
    (hscalars : ∀ b ∈ o.scalars, (Resolver.parseTarget (trimBlank b.2)).isSome = true) :
    (∀ ref ∈ s.schema.refs, s.Refers ref) ∧
      ∀ e, generate (some s.schema) o = .error e →
        (∃ c, e = .render (.collision c)) ∨ e = .illegalSource o.withDefaults.filename ∨
          ∃ refusal, e = .render (.schema refusal) ∧ refusal.isA .shape = false ∧
            refusal.isA .unsupported = true ∧ s.Obstructed := by
  refine ⟨fun ref href => refers_of_mem_refs h href, fun e he => ?_⟩
  obtain ⟨r, hr⟩ := Resolver.exists_ofBindings hscalars
  rw [generate_of_ofBindings _ hpackage hr] at he
  have hrefuses := render_refuses r o.qualifyArgs o.withDefaults.package s.schema
  cases hrender : render r o.qualifyArgs o.withDefaults.package s.schema with
  | ok fragments =>
    rw [hrender] at he
    change o.emitted fragments = .error e at he
    unfold Options.emitted at he
    split at he
    · cases he
    · cases he
      exact .inr (.inl rfl)
  | error failure =>
    rw [hrender] at he
    cases he
    cases failure with
    | collision c => exact .inl ⟨c, rfl⟩
    | schema refusal =>
      obtain ⟨defect, hdefect, type, field, rfl⟩ := hrefuses refusal hrender
      obtain ⟨hcategory, hobstructed⟩ := mem_defects_schema h hdefect
      refine .inr (.inr ⟨_, rfl, ?_, ?_, hobstructed⟩)
      · simp [SchemaError.isA, SchemaError.of, hcategory]
      · simp [SchemaError.isA, SchemaError.of, hcategory]

/-- A type system of an object, an input object and one more type, which has no bindings. A field of the
object takes the input object and leads to a list of the third type. -/
def searchSystem (abstract : DefinitionKind) (name : String) : TypeSystem :=
  { types :=
      [{ (default : Definition) with
          kind := .object
          name := "Query"
          fields := [{ (default : FieldDefinition) with
            name := "search"
            type := .list default (.named default name true) true
            args := [{ (default : InputDefinition) with
              name := "filter"
              type := .named default "SearchFilter" true }] }] },
        { (default : Definition) with
          kind := .inputObject
          name := "SearchFilter"
          fields := [{ (default : FieldDefinition) with
            name := "terms"
            type := .list default (.named default "Term" true) false }] },
        { (default : Definition) with kind := .scalar, name := "Term" },
        { (default : Definition) with kind := abstract, name := name, types := ["Query"] }]
    directives := []
    roots := [(.query, "Query")] }

/-- Bindings of terms to strings. -/
def searchOptions : Options :=
  ⟨"search", "", "", [("Term", "string")], false⟩

/-- A schema does not sort types that are declared in their order. -/
theorem schema_of_pairwise (h : s.types.Pairwise fun a b => precedes a b = true) :
    s.schema = { s.schema with types := some (s.types.map fun d => some (s.fullType d)) } := by
  have htypes : s.schema.types = some (s.types.map fun d => some (s.fullType d)) := by
    rw [schema, List.mergeSort_of_pairwise h]
  rw [← htypes]

theorem searchOptions_resolver : Resolver.ofBindings searchOptions.scalars =
    .ok ⟨("Term", "", "string") :: Resolver.builtin⟩ :=
  Resolver.ofBindings_singleton (by decide +kernel)

/-- A union in the result of a search is refused, and the schema has no other fault. -/
theorem searchSystem_union_refused :
    (searchSystem .union "Work").Complete ∧
      Source.isIdentifier searchOptions.withDefaults.package = true ∧
      (∀ b ∈ searchOptions.scalars, (Resolver.parseTarget (trimBlank b.2)).isSome = true) ∧
      (∀ ref ∈ (searchSystem .union "Work").schema.refs,
        (searchSystem .union "Work").Refers ref) ∧
      ∃ refusal, generate (some (searchSystem .union "Work").schema) searchOptions =
          .error (.render (.schema refusal)) ∧
        refusal.isA .shape = false ∧ refusal.isA .unsupported = true ∧
        (searchSystem .union "Work").Obstructed := by
  have hcomplete : (searchSystem .union "Work").Complete := by decide +kernel
  have hpackage : Source.isIdentifier searchOptions.withDefaults.package = true := by
    decide +kernel
  have hscalars : ∀ b ∈ searchOptions.scalars,
      (Resolver.parseTarget (trimBlank b.2)).isSome = true := by
    decide +kernel
  obtain ⟨hrefs, hcases⟩ := generate_schema_cases hcomplete hpackage hscalars
  have hgenerate : generate (some (searchSystem .union "Work").schema) searchOptions =
      .error (.render (.schema (.of "Query" "search" (.unsupportedReference .union "Work")))) := by
    rw [generate_of_ofBindings _ hpackage searchOptions_resolver,
      schema_of_pairwise (by decide +kernel)]
    decide +kernel
  refine ⟨hcomplete, hpackage, hscalars, hrefs, ?_⟩
  rcases hcases _ hgenerate with ⟨c, hc⟩ | hillegal | ⟨refusal, hrefusal, hcategories⟩
  · cases hc
  · cases hillegal
  · exact ⟨refusal, hgenerate.trans (congrArg _ hrefusal), hcategories⟩

/-- An interface that belongs to introspection itself by its name is no less refused where a search leads
to it, although no other interface and no union is declared. -/
theorem searchSystem_reserved_refused :
    (searchSystem .interface "__Work").Complete ∧
      Source.isIdentifier searchOptions.withDefaults.package = true ∧
      (∀ b ∈ searchOptions.scalars, (Resolver.parseTarget (trimBlank b.2)).isSome = true) ∧
      (∀ d ∈ (searchSystem .interface "__Work").types,
        d.kind.isAbstract = true → isReserved d.name = true) ∧
      ∃ refusal, generate (some (searchSystem .interface "__Work").schema) searchOptions =
          .error (.render (.schema refusal)) ∧ refusal.isA .unsupported = true := by
  have hpackage : Source.isIdentifier searchOptions.withDefaults.package = true := by
    decide +kernel
  refine ⟨by decide +kernel, hpackage, by decide +kernel, by decide +kernel,
    .of "Query" "search" (.unsupportedReference .interface "__Work"), ?_, rfl⟩
  rw [generate_of_ofBindings _ hpackage searchOptions_resolver,
    schema_of_pairwise (by decide +kernel)]
  decide +kernel

end TypeSystem

end Sdl

end Bindery
