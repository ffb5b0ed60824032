import Bindery.Proofs.Bindings.References
import Bindery.Proofs.Bindings.Required
import Bindery.Proofs.Naming.Exported
import Mathlib.Data.List.Forall2
import Mathlib.Data.List.Nodup
import Mathlib.Logic.Relation

/-!
# Structs inside structs

A struct that contains itself, directly or through others, has no size and is refused by the compiler.
Schemas are full of circles, so the bindings break them: members that may be absent are pointers, lists are
slices, and the handles of objects hold no handles. What is left are required input objects, which a schema
should not arrange in a circle either, because nothing could be written for them.

The structs of the bindings contain each other exactly as the references of the schema require it. So a circle
of structs is one of input objects that require each other.

## Main definitions

- `Contains` — a struct of the package is a member of another one, without pointer or slice
- `Schema.Requires` — a field of an input object requires an input object
- `Settings.structsOf` — the structs of a type, with what their members are made from
- `Schema.Coherent` — the names of a schema tell its types apart, and its references lead to them

## Main results

- `Resolver.byValue_iff` — which references are written without pointer and slice
- `structs_of_render` — the structs of the bindings, in their order
- `containment_cycles` — a struct contains others as its references require it, and the circles are the same
-/

namespace Bindery

/-! ### Structs -/

namespace Declaration

/-- The identifier of the struct that a declaration declares. -/
def struct? : Declaration → Option String
  | inputs _ ident _ => some ident
  | handle _ ident => some ident
  | _ => none

/-- The types of the members of the struct that a declaration declares, where `runtime` is the package of
connections and selections. -/
def memberShapes (runtime : String) : Declaration → List TypeShape
  | inputs _ _ members => members.map (·.type.shape)
  | handle _ _ =>
    [.name runtime "ConnectParams", .pointer (.name "os" "Process"), .pointer (.name runtime "Selection")]
  | _ => []

end Declaration

/-- A struct of the package has another one as a member, neither behind a pointer nor in a slice. -/
def Contains (runtime : String) (decls : List Declaration) (outer inner : String) : Prop :=
  (∃ d ∈ decls, d.struct? = some outer ∧ .name "" inner ∈ d.memberShapes runtime) ∧
    ∃ d ∈ decls, d.struct? = some inner

/-- The structs of a type, each with the arguments or input fields that its members are made from. The handle
of an object is made from none. -/
def Settings.structsOf (s : Settings) (t : FullType) : List (String × List InputValue) :=
  match t.kind with
  | .object =>
    t.argumentFields.map (fun f => (s.holderName t.name f.name, f.args.values)) ++
      [(Naming.identifier t.name, [])]
  | .inputObject => [(Naming.identifier t.name, t.inputFields.values)]
  | _ => []

/-! ### Requirements -/

/-- The input object that a reference requires directly: not in a list, and not absent. -/
def TypeRef.requiredInput? : TypeRef → Option String
  | .wrap .nonNull _ (.plain .inputObject name) => name
  | _ => none

/-- The input objects of a schema, with those that their fields require. -/
def Schema.requirements (schema : Schema) : List (String × String) :=
  (schema.ownTypes.filter (·.kind == .inputObject)).flatMap fun t =>
    (t.inputFields.values.filterMap (·.type.requiredInput?)).map (t.name, ·)

/-- An input object has a field that requires another one. -/
def Schema.Requires (schema : Schema) (outer inner : String) : Prop :=
  (outer, inner) ∈ schema.requirements

/-- The types of a schema and their fields have names, no two types have the same one, and every reference is
to one of the types. A scalar that stands for an existing type stands for one of another package or for one
whose name begins with a small letter. -/
structure Schema.Coherent (r : Resolver) (schema : Schema) : Prop where
  names : ∀ t ∈ schema.ownTypes, Sdl.isName t.name = true
  fieldNames : ∀ t ∈ schema.ownTypes, ∀ f ∈ t.fields.values, Sdl.isName f.name = true
  distinct : (schema.ownTypes.map (·.name)).Nodup
  listed : ∀ t ∈ schema.ownTypes, ∀ ref ∈ t.references, schema.Lists ref
  scalars : ∀ b ∈ r.scalars, b.2.1 ≠ "" ∨ Source.beginsSmall b.2.2 = true

instance (r : Resolver) (schema : Schema) : Decidable (schema.Coherent r) :=
  decidable_of_iff
    ((∀ t ∈ schema.ownTypes, Sdl.isName t.name = true) ∧
      (∀ t ∈ schema.ownTypes, ∀ f ∈ t.fields.values, Sdl.isName f.name = true) ∧
      (schema.ownTypes.map (·.name)).Nodup ∧
      (∀ t ∈ schema.ownTypes, ∀ ref ∈ t.references, schema.Lists ref) ∧
      ∀ b ∈ r.scalars, b.2.1 ≠ "" ∨ Source.beginsSmall b.2.2 = true)
    ⟨fun h => ⟨h.1, h.2.1, h.2.2.1, h.2.2.2.1, h.2.2.2.2⟩,
      fun h => ⟨h.names, h.fieldNames, h.distinct, h.listed, h.scalars⟩⟩

theorem TypeRef.requiredInput?_eq_some_iff {ref : TypeRef} {name : String} :
    ref.requiredInput? = some name ↔
      ∃ wrapper, ref = .wrap .nonNull wrapper (.plain .inputObject (some name)) := by
  constructor
  · intro h
    unfold requiredInput? at h
    split at h
    · next wrapper name' => exact ⟨wrapper, by rw [h]⟩
    · cases h
  · rintro ⟨wrapper, rfl⟩
    rfl

theorem Schema.requires_iff {schema : Schema} {outer inner : String} :
    schema.Requires outer inner ↔
      ∃ t ∈ schema.ownTypes, t.kind = .inputObject ∧ t.name = outer ∧
        ∃ i ∈ t.inputFields.values, i.type.requiredInput? = some inner := by
  simp only [Requires, requirements, List.mem_flatMap, List.mem_filter, List.mem_map,
    List.mem_filterMap, beq_iff_eq, Prod.mk.injEq]
  constructor
  · rintro ⟨t, ⟨ht, hkind⟩, _, ⟨i, hi, hrequired⟩, hname, rfl⟩
    exact ⟨t, ht, hkind, hname, i, hi, hrequired⟩
  · rintro ⟨t, ht, hkind, hname, i, hi, hrequired⟩
    exact ⟨t, ⟨ht, hkind⟩, inner, ⟨i, hi, hrequired⟩, hname, rfl⟩

/-! ### References by value -/

/-- A reference is written as a type of the package, without pointer or slice. -/
def Resolver.ByValue (r : Resolver) (ref : TypeRef) (ident : String) : Prop :=
  ∃ type, r.resolve ref = .ok type ∧ type.shape = .name "" ident

theorem Resolver.shape_named_required (r : Resolver) (kind : TypeKind) (name : String) :
    ((r.named kind name).withNullable false).shape =
      .name (r.named kind name).leaf.2.1 (r.named kind name).leaf.2.2 := by
  unfold named
  split <;> rfl

theorem Resolver.shape_named (r : Resolver) (kind : TypeKind) (name : String) :
    ∃ target, (r.named kind name).shape = .pointer target := by
  unfold named
  split <;> exact ⟨_, rfl⟩

/-- Only what stands directly inside one non-null wrapper is written without pointer and slice. -/
theorem Resolver.byValue_iff {r : Resolver} {ref : TypeRef} {ident : String} :
    r.ByValue ref ident ↔
      ∃ wrapper kind name, ref = .wrap .nonNull wrapper (.plain kind (some name)) ∧
        kind ∈ [.scalar, .object, .enum, .inputObject] ∧ name ≠ "" ∧
        (r.named kind name).leaf.2 = ("", ident) := by
  constructor
  · rintro ⟨type, hresolve, hshape⟩
    cases resolves_of_resolve hresolve with
    | @named kind name =>
      -- without a wrapper the value may be absent
      obtain ⟨target, hpointer⟩ := r.shape_named kind name
      rw [hpointer] at hshape
      cases hshape
    | list => cases hshape
    | @nonNull wrapper _ _ once inside =>
      cases inside with
      | @named kind name bindable nonempty =>
        rw [shape_named_required] at hshape
        obtain ⟨hpackage, hident⟩ := TypeShape.name.inj hshape
        exact ⟨wrapper, kind, name, rfl, bindable, nonempty, Prod.ext hpackage hident⟩
      | nonNull => exact absurd rfl once
      | list => cases hshape
  · rintro ⟨wrapper, kind, name, rfl, bindable, nonempty, hleaf⟩
    -- what can be bound is no wrapper itself
    have honce : (TypeRef.plain kind (some name)).kind ≠ .nonNull := by
      rintro rfl
      simp at bindable
    refine ⟨_, resolve_of_resolves (.nonNull honce (.named bindable nonempty)), ?_⟩
    rw [shape_named_required, hleaf]

/-- A reference that requires an input object is written as its struct. -/
theorem Resolver.byValue_of_requiredInput {r : Resolver} {ref : TypeRef} {name : String}
    (hname : Sdl.isName name = true) (h : ref.requiredInput? = some name) :
    r.ByValue ref (Naming.identifier name) := by
  obtain ⟨wrapper, href⟩ := TypeRef.requiredInput?_eq_some_iff.mp h
  have hnonempty : name ≠ "" := Sdl.ne_of_isName hname rfl
  exact byValue_iff.mpr ⟨wrapper, .inputObject, name, href, by simp, hnonempty, rfl⟩

/-! ### The structs of a type -/

/-- A struct that bears the identifier, and has members without pointer and slice where the references of the
arguments or input fields are written so. -/
structure IsStruct (r : Resolver) (source : String × List InputValue) (d : Declaration) : Prop where
  ident : d.struct? = some source.1
  byValue : ∀ runtime, runtime ≠ "" → ∀ inner,
    .name "" inner ∈ d.memberShapes runtime ↔ ∃ i ∈ source.2, r.ByValue i.type inner

theorem mem_shapes_iff {r : Resolver} {inputs : List InputValue} {members : List Member}
    (h : List.Forall₂ (IsMember r) inputs members) (inner : String) :
    .name "" inner ∈ members.map (·.type.shape) ↔ ∃ i ∈ inputs, r.ByValue i.type inner := by
  constructor
  · intro hmem
    obtain ⟨m, hm, hshape⟩ := List.mem_map.mp hmem
    obtain ⟨i, hi, type, hresolve, rfl⟩ := exists_of_mem_right h hm
    exact ⟨i, hi, type, hresolve, hshape⟩
  · rintro ⟨i, hi, type, hresolve, hshape⟩
    obtain ⟨m, hm, type', hresolve', rfl⟩ := exists_of_mem_left h hi
    obtain rfl := Except.ok.inj (hresolve'.symm.trans hresolve)
    exact List.mem_map.mpr ⟨_, hm, hshape⟩

theorem isStruct_inputs {r : Resolver} {inputs : List InputValue} {members : List Member}
    (h : List.Forall₂ (IsMember r) inputs members) (doc : Comment) (ident : String) :
    IsStruct r (ident, inputs) (.inputs doc ident members) where
  ident := rfl
  byValue _ _ := mem_shapes_iff h

theorem isStruct_handle (r : Resolver) (doc : Comment) (ident : String) :
    IsStruct r (ident, []) (.handle doc ident) where
  ident := rfl
  byValue runtime hruntime inner := by simp [Declaration.memberShapes, hruntime.symm]

/-- The structs among the declarations of a type, in their order. -/
theorem Renders.structs {s : Settings} {t : FullType} {decls : List Declaration}
    (h : Renders s t decls) :
    List.Forall₂ (IsStruct s.resolver) (s.structsOf t) (decls.filter (·.struct?.isSome)) := by
  unfold Settings.structsOf
  cases h with
  | @object holders accessors kind hholders haccessors =>
    have hstructs : ∀ fields hs, List.Forall₂ (IsHolder s t.name) fields hs →
        List.Forall₂ (IsStruct s.resolver)
          (fields.map fun f => (s.holderName t.name f.name, f.args.values))
          (hs.filter (·.struct?.isSome)) := by
      intro fields hs hfields
      induction hfields with
      | nil => exact .nil
      | cons hd _ ih =>
        obtain ⟨members, hmembers, rfl⟩ := hd
        exact .cons (isStruct_inputs hmembers _ _) ih
    have hstarts : ((startIdents (Naming.identifier t.name) true (s.operations t.name)).map
        (startDeclaration (Naming.identifier t.name))).filter (·.struct?.isSome) = [] := by
      simp [List.filter_map, Function.comp_def, startDeclaration, Declaration.struct?]
    have haccess : accessors.filter (·.struct?.isSome) = [] := by
      refine List.filter_eq_nil_iff.mpr fun d hd => ?_
      obtain ⟨f, -, type, -, rfl⟩ := exists_of_mem_right haccessors hd
      simp [Declaration.struct?]
    rw [kind, List.filter_append, List.filter_append, List.filter_cons_of_pos rfl, hstarts, haccess,
      List.append_nil]
    exact List.rel_append (hstructs _ _ hholders) (.cons (isStruct_handle _ _ _) .nil)
  | inputObject kind hmembers =>
    rw [kind]
    exact .cons (isStruct_inputs hmembers _ _) .nil
  | enum kind =>
    rw [kind]
    show List.Forall₂ _ [] _
    split <;> exact .nil
  | boundScalar kind | scalar kind =>
    rw [kind]
    exact .nil

theorem Settings.mem_structsOf {s : Settings} {t : FullType} {source : String × List InputValue}
    (h : source ∈ s.structsOf t) :
    t.kind = .object ∧ source = (Naming.identifier t.name, []) ∨
      t.kind = .inputObject ∧ source = (Naming.identifier t.name, t.inputFields.values) ∨
      t.kind = .object ∧ ∃ f ∈ t.argumentFields,
        source = (s.holderName t.name f.name, f.args.values) := by
  unfold structsOf at h
  split at h
  · next kind =>
    rcases List.mem_append.mp h with h | h
    · obtain ⟨f, hf, rfl⟩ := List.mem_map.mp h
      exact .inr (.inr ⟨kind, f, hf, rfl⟩)
    · exact .inl ⟨kind, List.mem_singleton.mp h⟩
  · next kind => exact .inr (.inl ⟨kind, List.mem_singleton.mp h⟩)
  · cases h

/-- The members of a struct are made from references of its type. -/
theorem Settings.mem_references_of_mem_structsOf {s : Settings} {t : FullType}
    {source : String × List InputValue} (h : source ∈ s.structsOf t) {i : InputValue}
    (hi : i ∈ source.2) : i.type ∈ t.references := by
  rcases mem_structsOf h with ⟨-, rfl⟩ | ⟨kind, rfl⟩ | ⟨kind, f, hf, rfl⟩
  · cases hi
  · exact FullType.inputField_mem_references kind hi
  · exact FullType.argument_mem_references kind hf hi

/-- The struct of an input object bears its identifier. -/
theorem Settings.own_mem_structsOf (s : Settings) {t : FullType} (h : t.kind = .inputObject) :
    (Naming.identifier t.name, t.inputFields.values) ∈ s.structsOf t := by
  rw [structsOf, h]
  exact List.mem_singleton_self _

theorem Settings.beginsSmall_holderName (s : Settings) {owner field : String}
    (howner : Sdl.isName owner = true) (hfield : Sdl.isName field = true) :
    Source.beginsSmall (s.holderName owner field) = false := by
  have hargs : Source.beginsSmall "Args" = false := by decide +kernel
  have hident := Naming.beginsSmall_identifier hfield
  simp only [holderName]
  split
  · exact Naming.beginsSmall_append
      (Naming.beginsSmall_append (Naming.beginsSmall_identifier howner) hident) hargs
  · exact Naming.beginsSmall_append hident hargs

/-- No struct of a type with names begins with a small letter. -/
theorem Settings.beginsSmall_of_mem_structsOf {s : Settings} {t : FullType}
    (hname : Sdl.isName t.name = true) (hfields : ∀ f ∈ t.fields.values, Sdl.isName f.name = true)
    {source : String × List InputValue} (h : source ∈ s.structsOf t) :
    Source.beginsSmall source.1 = false := by
  rcases mem_structsOf h with ⟨-, rfl⟩ | ⟨-, rfl⟩ | ⟨-, f, hf, rfl⟩
  · exact Naming.beginsSmall_identifier hname
  · exact Naming.beginsSmall_identifier hname
  · exact s.beginsSmall_holderName hname (hfields f (List.mem_of_mem_filter hf))

/-! ### Rendered schemas -/

theorem structs_of_fragments {s : Settings} {types : List FullType} {fragments : List Fragment}
    (h : List.Forall₂ (IsFragment s) types fragments) :
    List.Forall₂ (IsStruct s.resolver) (types.flatMap s.structsOf)
      ((fragments.flatMap (·.decls)).filter (·.struct?.isSome)) := by
  induction h with
  | nil => exact .nil
  | cons hf _ ih =>
    rw [List.flatMap_cons, List.flatMap_cons, List.filter_append]
    exact List.rel_append hf.2.structs ih

section Render

variable {resolver : Resolver} {qualifyArgs : Bool} {package : String} {schema : Schema}
  {fragments : List Fragment}

/-- The structs of the bindings, in their order. -/
theorem structs_of_render (h : render resolver qualifyArgs package schema = .ok fragments) :
    List.Forall₂ (IsStruct resolver)
      (schema.ownTypes.flatMap (settingsOf resolver qualifyArgs schema).structsOf)
      ((fragments.flatMap (·.decls)).filter (·.struct?.isSome)) :=
  structs_of_fragments (fragments_of_render h)

/-- What contains what can be told from the references of the schema. -/
theorem contains_iff (h : render resolver qualifyArgs package schema = .ok fragments)
    {runtime : String} (hruntime : runtime ≠ "") {outer inner : String} :
    Contains runtime (fragments.flatMap (·.decls)) outer inner ↔
      (∃ t ∈ schema.ownTypes, ∃ source ∈ (settingsOf resolver qualifyArgs schema).structsOf t,
        source.1 = outer ∧ ∃ i ∈ source.2, resolver.ByValue i.type inner) ∧
      ∃ u ∈ schema.ownTypes, ∃ source ∈ (settingsOf resolver qualifyArgs schema).structsOf u,
        source.1 = inner := by
  have hstructs := structs_of_render h
  have hsource : ∀ d ∈ fragments.flatMap (·.decls), ∀ ident, d.struct? = some ident →
      ∃ t ∈ schema.ownTypes, ∃ source ∈ (settingsOf resolver qualifyArgs schema).structsOf t,
        source.1 = ident ∧ IsStruct resolver source d := by
    intro d hd ident hident
    have hmem : d ∈ (fragments.flatMap (·.decls)).filter (·.struct?.isSome) :=
      List.mem_filter.mpr ⟨hd, by simp [hident]⟩
    obtain ⟨source, hmem, hstruct⟩ := exists_of_mem_right hstructs hmem
    obtain ⟨t, ht, hsource⟩ := List.mem_flatMap.mp hmem
    exact ⟨t, ht, source, hsource, Option.some.inj (hstruct.ident.symm.trans hident), hstruct⟩
  have hdecl : ∀ t ∈ schema.ownTypes,
      ∀ source ∈ (settingsOf resolver qualifyArgs schema).structsOf t,
        ∃ d ∈ fragments.flatMap (·.decls), IsStruct resolver source d := by
    intro t ht source hmem
    obtain ⟨d, hd, hstruct⟩ := exists_of_mem_left hstructs (List.mem_flatMap.mpr ⟨t, ht, hmem⟩)
    exact ⟨d, List.mem_of_mem_filter hd, hstruct⟩
  constructor
  · rintro ⟨⟨d, hd, houter, hmem⟩, d', hd', hinner⟩
    obtain ⟨t, ht, source, hmem', hident, hstruct⟩ := hsource d hd outer houter
    obtain ⟨u, hu, source', hmem'', hident', -⟩ := hsource d' hd' inner hinner
    exact ⟨⟨t, ht, source, hmem', hident, (hstruct.byValue runtime hruntime inner).mp hmem⟩,
      u, hu, source', hmem'', hident'⟩
  · rintro ⟨⟨t, ht, source, hmem, rfl, hvalue⟩, u, hu, source', hmem', rfl⟩
    obtain ⟨d, hd, hstruct⟩ := hdecl t ht source hmem
    obtain ⟨d', hd', hstruct'⟩ := hdecl u hu source' hmem'
    exact ⟨⟨d, hd, hstruct.ident, (hstruct.byValue runtime hruntime _).mpr hvalue⟩,
      d', hd', hstruct'.ident⟩

variable (h : render resolver qualifyArgs package schema = .ok fragments)
  (hcoherent : schema.Coherent resolver)
include h hcoherent

/-- The struct that bears the identifier of a type is that of the type itself. -/
theorem source_of_identifier {t v : FullType} (ht : t ∈ schema.ownTypes) (hv : v ∈ schema.ownTypes)
    (hscalar : v.kind = .scalar → resolver.isBound v.name = false)
    {source : String × List InputValue}
    (hsource : source ∈ (settingsOf resolver qualifyArgs schema).structsOf t)
    (hident : source.1 = Naming.identifier v.name) :
    t = v ∧ (v.kind = .object ∧ source.2 = [] ∨
      v.kind = .inputObject ∧ source.2 = v.inputFields.values) := by
  rcases Settings.mem_structsOf hsource with ⟨kind, rfl⟩ | ⟨kind, rfl⟩ | ⟨kind, f, hf, rfl⟩
  · obtain rfl := eq_of_identifier_eq h hcoherent.distinct ht hv (by simp [kind]) hscalar hident
    exact ⟨rfl, .inl ⟨kind, rfl⟩⟩
  · obtain rfl := eq_of_identifier_eq h hcoherent.distinct ht hv (by simp [kind]) hscalar hident
    exact ⟨rfl, .inr ⟨kind, rfl⟩⟩
  · exact absurd hident (holderName_ne_identifier h hv ht (hcoherent.names v hv) hscalar kind hf)

/-- What a struct contains is required by name: a member without pointer and slice that is a struct comes from
a non-null reference to the type of that struct. -/
theorem exists_required {t u : FullType} (ht : t ∈ schema.ownTypes) (hu : u ∈ schema.ownTypes)
    {source inner : String × List InputValue}
    (hsource : source ∈ (settingsOf resolver qualifyArgs schema).structsOf t)
    (hinner : inner ∈ (settingsOf resolver qualifyArgs schema).structsOf u)
    {i : InputValue} (hi : i ∈ source.2) (hvalue : resolver.ByValue i.type inner.1) :
    inner.1 = Naming.identifier u.name ∧ (u.kind = .object ∨ u.kind = .inputObject) ∧
      ∃ wrapper, i.type = .wrap .nonNull wrapper (.plain u.kind (some u.name)) := by
  obtain ⟨wrapper, kind, name, htype, bindable, -, hleaf⟩ := Resolver.byValue_iff.mp hvalue
  rcases resolver.leaf_named kind name with ⟨-, path, target, hlookup, hbound⟩ | ⟨hfree, hown⟩
  · -- a type of the package that a scalar stands for begins with a small letter, and no struct does
    rw [hbound] at hleaf
    obtain ⟨rfl, rfl⟩ := Prod.mk.inj hleaf
    obtain ⟨before, after, hscalars, -⟩ := List.lookup_eq_some_iff.mp hlookup
    have hmem : (name, "", inner.1) ∈ resolver.scalars := by
      rw [hscalars]
      exact List.mem_append_right _ List.mem_cons_self
    have hsmall : Source.beginsSmall inner.1 = true :=
      (hcoherent.scalars _ hmem).resolve_left fun hne => hne rfl
    have hstruct := Settings.beginsSmall_of_mem_structsOf (hcoherent.names u hu)
      (hcoherent.fieldNames u hu) hinner
    rw [hsmall] at hstruct
    cases hstruct
  · rw [hown] at hleaf
    have hident : inner.1 = Naming.identifier name := (Prod.mk.inj hleaf).2.symm
    -- the reference leads to a type of its name, which is the type of the struct
    have hlists := hcoherent.listed t ht _ (Settings.mem_references_of_mem_structsOf hsource hi)
    have hnamed : i.type.named? = some (.plain kind (some name)) := by
      rw [htype]
      exact TypeRef.named?_plain bindable _
    obtain ⟨v, hv, hvname, hvkind⟩ := hlists _ hnamed
    obtain rfl : v.name = name := hvname
    obtain rfl : v.kind = kind := hvkind
    obtain ⟨rfl, hkind⟩ := source_of_identifier h hcoherent hu hv hfree hinner hident
    exact ⟨hident, hkind.imp And.left And.left, wrapper, htype⟩

/-- The struct inside another one is that of an object or input object. If the outer one is that of a type too,
then the type is an input object, because handles contain nothing, and it requires the inner one. -/
theorem contains_cases {runtime : String} (hruntime : runtime ≠ "") {outer inner : String}
    (hcontains : Contains runtime (fragments.flatMap (·.decls)) outer inner) :
    ∃ u ∈ schema.ownTypes, inner = Naming.identifier u.name ∧ u.kind ≠ .scalar ∧
      ∀ v ∈ schema.ownTypes, v.kind ≠ .scalar → outer = Naming.identifier v.name →
        v.kind = .inputObject ∧ (u.kind = .inputObject → schema.Requires v.name u.name) := by
  obtain ⟨⟨t, ht, source, hsource, rfl, i, hi, hvalue⟩, u, hu, inner, hinner, rfl⟩ :=
    (contains_iff h hruntime).mp hcontains
  obtain ⟨hident, hkind, wrapper, htype⟩ := exists_required h hcoherent ht hu hsource hinner hi hvalue
  have hstruct : u.kind ≠ .scalar := by rcases hkind with hkind | hkind <;> simp [hkind]
  refine ⟨u, hu, hident, hstruct, ?_⟩
  intro v hv hvkind houter
  obtain ⟨rfl, hform⟩ := source_of_identifier h hcoherent ht hv (fun hs => absurd hs hvkind) hsource houter
  rcases hform with ⟨-, hnone⟩ | ⟨hinput, hfields⟩
  · -- a handle is made from nothing
    rw [hnone] at hi
    cases hi
  · refine ⟨hinput, fun hukind => Schema.requires_iff.mpr ?_⟩
    rw [hukind] at htype
    exact ⟨t, ht, hinput, rfl, i, hfields ▸ hi, TypeRef.requiredInput?_eq_some_iff.mpr ⟨wrapper, htype⟩⟩

/-- An input object contains those that it requires. -/
theorem contains_of_requires {runtime : String} (hruntime : runtime ≠ "") {outer inner : String}
    (hrequires : schema.Requires outer inner) :
    Contains runtime (fragments.flatMap (·.decls)) (Naming.identifier outer)
      (Naming.identifier inner) := by
  obtain ⟨t, ht, hkind, rfl, i, hi, hrequired⟩ := Schema.requires_iff.mp hrequires
  obtain ⟨wrapper, htype⟩ := TypeRef.requiredInput?_eq_some_iff.mp hrequired
  have hnamed : i.type.named? = some (.plain .inputObject (some inner)) := by
    rw [htype]
    rfl
  obtain ⟨u, hu, huname, hukind⟩ :=
    hcoherent.listed t ht _ (FullType.inputField_mem_references hkind hi) _ hnamed
  obtain rfl : u.name = inner := huname
  refine (contains_iff h hruntime).mpr ⟨?_, u, hu, _, Settings.own_mem_structsOf _ hukind, rfl⟩
  refine ⟨t, ht, _, Settings.own_mem_structsOf _ hkind, rfl, i, hi, ?_⟩
  exact Resolver.byValue_of_requiredInput (hcoherent.names u hu) hrequired

/-- A way from struct to struct that ends at an input object leads through input objects that require each
other. -/
theorem requires_of_transGen {runtime : String} (hruntime : runtime ≠ "") {outer inner : String}
    (hpath : Relation.TransGen (Contains runtime (fragments.flatMap (·.decls))) outer inner)
    {v w : FullType} (hv : v ∈ schema.ownTypes) (hw : w ∈ schema.ownTypes) (hvkind : v.kind ≠ .scalar)
    (hwkind : w.kind = .inputObject) (houter : outer = Naming.identifier v.name)
    (hinner : inner = Naming.identifier w.name) :
    Relation.TransGen schema.Requires v.name w.name := by
  -- from the front, since what a struct is shows in what it contains
  induction hpath using Relation.TransGen.head_induction_on generalizing v with
  | single hstep =>
    obtain ⟨u, hu, hident, hukind, hout⟩ := contains_cases h hcoherent hruntime hstep
    obtain rfl := eq_of_identifier_eq h hcoherent.distinct hu hw (fun hs => absurd hs hukind)
      (by simp [hwkind]) (hident.symm.trans hinner)
    exact .single ((hout v hv hvkind houter).2 hwkind)
  | head hstep hrest ih =>
    obtain ⟨u, hu, hident, hukind, hout⟩ := contains_cases h hcoherent hruntime hstep
    -- the way goes on from the inner struct, so that is no handle
    obtain ⟨_, hnext, -⟩ := Relation.TransGen.head'_iff.mp hrest
    obtain ⟨_, -, -, -, hnextOut⟩ := contains_cases h hcoherent hruntime hnext
    have huinput : u.kind = .inputObject := (hnextOut u hu hukind hident).1
    exact .head ((hout v hv hvkind houter).2 huinput) (ih hu hukind hident)

omit h hcoherent

/-- The structs of the bindings are the holders of arguments, the handles of objects and the structs of input
objects. Such a struct has that of an input object as a member, without pointer or slice, exactly if one of
the arguments or input fields that it is made for has the type of that input object and excludes null. The
structs that contain themselves, directly or through others, are those of the input objects that require
themselves in the same way; so if no input object does, no struct contains itself. -/
theorem containment_cycles {runtime : String} (hruntime : runtime ≠ "")
    (hcoherent : schema.Coherent resolver)
    (h : render resolver qualifyArgs package schema = .ok fragments) :
    List.Forall₂
      (fun source d => d.struct? = some source.1 ∧
        ∀ u ∈ schema.ownTypes, u.kind = .inputObject →
          (.name "" (Naming.identifier u.name) ∈ d.memberShapes runtime ↔
            ∃ i ∈ source.2, i.type.requiredInput? = some u.name))
      (schema.ownTypes.flatMap (settingsOf resolver qualifyArgs schema).structsOf)
      ((fragments.flatMap (·.decls)).filter (·.struct?.isSome)) ∧
    (∀ ident, Relation.TransGen (Contains runtime (fragments.flatMap (·.decls))) ident ident ↔
      ∃ name, ident = Naming.identifier name ∧ Relation.TransGen schema.Requires name name) ∧
    ((∀ name, ¬ Relation.TransGen schema.Requires name name) →
      ∀ ident, ¬ Relation.TransGen (Contains runtime (fragments.flatMap (·.decls))) ident ident) := by
  have hcycles : ∀ ident,
      Relation.TransGen (Contains runtime (fragments.flatMap (·.decls))) ident ident ↔
        ∃ name, ident = Naming.identifier name ∧ Relation.TransGen schema.Requires name name := by
    intro ident
    constructor
    · intro hcycle
      -- the last step shows that the struct is that of a type, the first one that this is an input object
      obtain ⟨_, -, hlast⟩ := Relation.TransGen.tail'_iff.mp hcycle
      obtain ⟨u, hu, hident, hukind, -⟩ := contains_cases h hcoherent hruntime hlast
      obtain ⟨_, hfirst, -⟩ := Relation.TransGen.head'_iff.mp hcycle
      obtain ⟨_, -, -, -, hout⟩ := contains_cases h hcoherent hruntime hfirst
      have hinput : u.kind = .inputObject := (hout u hu hukind hident).1
      exact ⟨u.name, hident,
        requires_of_transGen h hcoherent hruntime hcycle hu hu hukind hinput hident hident⟩
    · rintro ⟨name, rfl, hcycle⟩
      exact hcycle.lift Naming.identifier fun _ _ => contains_of_requires h hcoherent hruntime
  refine ⟨?_, hcycles, ?_⟩
  · have hmem : ∀ source ∈
        schema.ownTypes.flatMap (settingsOf resolver qualifyArgs schema).structsOf,
          ∃ t ∈ schema.ownTypes, source ∈ (settingsOf resolver qualifyArgs schema).structsOf t :=
      fun _ => List.mem_flatMap.mp
    refine ((List.forall₂_and_left _ _).mpr ⟨hmem, structs_of_render h⟩).imp ?_
    rintro source d ⟨⟨t, ht, hsource⟩, hstruct⟩
    refine ⟨hstruct.ident, fun u hu hukind => ?_⟩
    rw [hstruct.byValue runtime hruntime]
    refine exists_congr fun i => and_congr_right fun hi => ?_
    constructor
    · intro hvalue
      obtain ⟨-, -, wrapper, htype⟩ :=
        exists_required h hcoherent ht hu hsource (Settings.own_mem_structsOf _ hukind) hi hvalue
      exact TypeRef.requiredInput?_eq_some_iff.mpr ⟨wrapper, hukind ▸ htype⟩
    · exact Resolver.byValue_of_requiredInput (hcoherent.names u hu)
  · intro hnone ident hcycle
    obtain ⟨name, -, hcycle⟩ := (hcycles ident).mp hcycle
    exact hnone name hcycle

/-- Filters that hold filters in lists and where they may be absent, and require a range, which refers back to
them; and a search that requires one. -/
def filterSchema : Schema :=
  { (default : Schema) with
    types := some [
      some { (default : FullType) with
        kind := .object
        name? := some "Query"
        fields := some [some { (default : FieldValue) with
          name := "search"
          type := .wrap .nonNull none (.plain .object (some "Query"))
          args := some [some { (default : InputValue) with
            name := "by"
            type := .wrap .nonNull none (.plain .inputObject (some "Filter")) }] }] },
      some { (default : FullType) with
        kind := .inputObject
        name? := some "Filter"
        inputFields := some [
          some { (default : InputValue) with
            name := "any"
            type := .wrap .nonNull none (.wrap .list none
              (.wrap .nonNull none (.plain .inputObject (some "Filter")))) },
          some { (default : InputValue) with
            name := "not"
            type := .plain .inputObject (some "Filter") },
          some { (default : InputValue) with
            name := "range"
            type := .wrap .nonNull none (.plain .inputObject (some "Range")) }] },
      some { (default : FullType) with
        kind := .inputObject
        name? := some "Range"
        inputFields := some [
          some { (default : InputValue) with
            name := "within"
            type := .plain .inputObject (some "Filter") },
          some { (default : InputValue) with
            name := "unit"
            type := .wrap .nonNull none (.plain .scalar (some "String")) }] },
      some { (default : FullType) with kind := .scalar, name? := some "String" }] }

/-- The circles of the filters are broken by pointers and slices. -/
theorem filterSchema_finite :
    "runtime" ≠ "" ∧ filterSchema.Coherent ⟨Resolver.builtin⟩ ∧
      filterSchema.requirements = [("Filter", "Range")] ∧
      ∃ fragments, render ⟨Resolver.builtin⟩ false "api" filterSchema = .ok fragments ∧
        (fragments.flatMap (·.decls)).filterMap (·.struct?) =
          ["SearchArgs", "Query", "Filter", "Range"] ∧
        ∀ ident, ¬ Relation.TransGen (Contains "runtime" (fragments.flatMap (·.decls)))
          ident ident := by
  have hruntime : "runtime" ≠ "" := by decide
  have hcoherent : filterSchema.Coherent ⟨Resolver.builtin⟩ := by decide +kernel
  have hrequirements : filterSchema.requirements = [("Filter", "Range")] := by decide +kernel
  have hrendered : (render ⟨Resolver.builtin⟩ false "api" filterSchema).toOption.map
      (fun fragments => (fragments.flatMap (·.decls)).filterMap (·.struct?)) =
        some ["SearchArgs", "Query", "Filter", "Range"] := by
    decide +kernel
  obtain ⟨fragments, hrender, hstructs⟩ := exists_ok_of_toOption hrendered
  refine ⟨hruntime, hcoherent, hrequirements, fragments, hrender, hstructs, ?_⟩
  refine (containment_cycles hruntime hcoherent hrender).2.2 fun name hcycle => ?_
  -- the one requirement leads from the filter and to the range
  obtain ⟨_, hfirst, -⟩ := Relation.TransGen.head'_iff.mp hcycle
  obtain ⟨_, -, hlast⟩ := Relation.TransGen.tail'_iff.mp hcycle
  rw [Schema.Requires, hrequirements, List.mem_singleton, Prod.mk.injEq] at hfirst hlast
  exact absurd (hfirst.1.symm.trans hlast.2) (by decide)

end Render

end Bindery
