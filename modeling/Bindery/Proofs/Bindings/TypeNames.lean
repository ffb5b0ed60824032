import Bindery.Proofs.Bindings.Collisions

/-!
# Type names in generated declarations

The resolver turns references into type names without looking at the types, while each type decides by
its kind what it declares. Both agree: a type name in a generated declaration is the type that a scalar
stands for, or exactly one declaration of the package declares it.

## Main definitions

- `TypeExpr.leaf` — the named type below the lists of an expression
- `Declaration.typeNames` — the type names of the package that a declaration uses
- `Declaration.typeName?`, `Declaration.suits` — the type that a declaration declares, and its form
- `FullType.references` — the references from which the bindings of a type are made
- `Grounded` — a type name that the scalars know or that is declared once

## Main results

- `Resolver.resolves_of_resolve` — a reference is read by the rules of `Resolver.Resolves`
- `Resolver.Resolves.leaf` — resolving keeps the named type of a reference
- `declared_once` — the type of a reference has one declaration, in the form of its kind
- `typeNames_grounded` — all type names in the bindings of a schema are grounded
-/

namespace Bindery

/-! ### Expressions and references -/

/-- The named type below the lists of an expression: its kind, its package and its name. -/
def TypeExpr.leaf : TypeExpr → TypeKind × String × String
  | named kind package name _ => (kind, package, name)
  | list elem _ => elem.leaf

/-- The kind and the name of the named type of an expression, if it belongs to no other package. -/
def TypeExpr.localName? (e : TypeExpr) : Option (TypeKind × String) :=
  if e.leaf.2.1 = "" then some (e.leaf.1, e.leaf.2.2) else none

theorem TypeExpr.localName?_eq_some_iff {e : TypeExpr} {use : TypeKind × String} :
    e.localName? = some use ↔ e.leaf = (use.1, "", use.2) := by
  rcases hleaf : e.leaf with ⟨kind, package, name⟩
  obtain ⟨kind', name'⟩ := use
  simp only [localName?, hleaf, Prod.mk.injEq]
  by_cases hpackage : package = "" <;> simp [hpackage]

@[simp]
theorem TypeExpr.leaf_withNullable (nullable : Bool) (e : TypeExpr) :
    (e.withNullable nullable).leaf = e.leaf := by
  cases e <;> rfl

/-- The references from which the bindings of a type are made: the types of the fields and arguments of
an object and those of the fields of an input object. -/
def FullType.references (t : FullType) : List TypeRef :=
  match t.kind with
  | .object => t.fields.values.flatMap fun f => f.type :: f.args.values.map (·.type)
  | .inputObject => t.inputFields.values.map (·.type)
  | _ => []

section References

variable {t : FullType} {f : FieldValue}

theorem FullType.field_mem_references (hkind : t.kind = .object) (hf : f ∈ t.fields.values) :
    f.type ∈ t.references := by
  simp only [references, hkind]
  exact List.mem_flatMap.mpr ⟨f, hf, List.mem_cons_self⟩

theorem FullType.argument_mem_references (hkind : t.kind = .object) (hf : f ∈ t.argumentFields)
    {a : InputValue} (ha : a ∈ f.args.values) : a.type ∈ t.references := by
  simp only [references, hkind]
  refine List.mem_flatMap.mpr ⟨f, List.mem_of_mem_filter hf, List.mem_cons_of_mem _ ?_⟩
  exact List.mem_map_of_mem ha

theorem FullType.inputField_mem_references (hkind : t.kind = .inputObject) {i : InputValue}
    (hi : i ∈ t.inputFields.values) : i.type ∈ t.references := by
  simp only [references, hkind]
  exact List.mem_map_of_mem hi

end References

/-- The type that a reference names is listed in the schema, under the same name and kind, and has
bindings. -/
def Schema.Lists (schema : Schema) (ref : TypeRef) : Prop :=
  ∀ n, ref.named? = some n → ∃ t ∈ schema.ownTypes, t.name = n.name ∧ t.kind = n.kind

instance (schema : Schema) (ref : TypeRef) : Decidable (schema.Lists ref) :=
  decidable_of_iff
    (∀ n ∈ ref.named?.toList, ∃ t ∈ schema.ownTypes, t.name = n.name ∧ t.kind = n.kind)
    (by simp [Schema.Lists])

/-- How a resolver reads references: names as they are, non-null references as what is inside them
without null, and lists as lists. -/
inductive Resolver.Resolves (r : Resolver) : TypeRef → TypeExpr → Prop
  | named {kind : TypeKind} {name : String}
      (bindable : kind ∈ [.scalar, .object, .enum, .inputObject]) (nonempty : name ≠ "") :
      Resolves r (.plain kind (some name)) (r.named kind name)
  | nonNull {name : Option String} {inner : TypeRef} {e : TypeExpr} (once : inner.kind ≠ .nonNull)
      (inside : Resolves r inner e) : Resolves r (.wrap .nonNull name inner) (e.withNullable false)
  | list {name : Option String} {inner : TypeRef} {e : TypeExpr} (inside : Resolves r inner e) :
      Resolves r (.wrap .list name inner) (.list e true)

theorem exists_of_map_ok {ε α β : Type} {x : Except ε α} {f : α → β} {b : β}
    (h : x.map f = .ok b) : ∃ a, x = .ok a ∧ f a = b := by
  cases x with
  | error => cases h
  | ok a => exact ⟨a, rfl, Except.ok.inj h⟩

theorem Resolver.resolves_plain {r : Resolver} {kind : TypeKind} {name : Option String}
    {e : TypeExpr} (h : r.resolvePlain kind name = .ok e) : r.Resolves (.plain kind name) e := by
  cases kind with
  | scalar | object | enum | inputObject =>
    simp only [resolvePlain] at h
    split at h
    · cases h
    · next n hname =>
      obtain rfl := Except.ok.inj h
      cases name with
      | none => exact absurd rfl hname
      | some n => exact .named (by simp) hname
  | interface | union | list | nonNull | unknown => simp [resolvePlain] at h

/-- What a resolver makes of a reference follows its rules. -/
theorem Resolver.resolves_of_resolve {r : Resolver} {ref : TypeRef} {e : TypeExpr}
    (h : r.resolve ref = .ok e) : r.Resolves ref e := by
  induction ref generalizing e with
  | plain kind name => exact resolves_plain h
  | wrap kind name inner ih =>
    cases kind with
    | nonNull =>
      simp only [resolve] at h
      split at h
      · cases h
      · next honce =>
        obtain ⟨e', hinner, rfl⟩ := exists_of_map_ok h
        exact .nonNull (by simpa using honce) (ih hinner)
    | list =>
      obtain ⟨e', hinner, rfl⟩ := exists_of_map_ok h
      exact .list (ih hinner)
    | scalar | object | enum | inputObject =>
      simp only [resolve] at h
      split at h <;> cases h
    | interface | union | unknown => simp [resolve] at h

theorem TypeRef.named?_plain {kind : TypeKind} (bindable : kind ∈ [.scalar, .object, .enum, .inputObject])
    (name : Option String) : (plain kind name).named? = some (plain kind name) := by
  have hwrapper : kind.isWrapper = false := by
    cases kind <;> simp [TypeKind.isWrapper] at bindable ⊢
  exact if_neg (ne_true_of_eq_false hwrapper)

/-- Resolving a reference keeps the type that it names. -/
theorem Resolver.Resolves.leaf {r : Resolver} {ref : TypeRef} {e : TypeExpr}
    (h : r.Resolves ref e) :
    ∃ kind name, ref.named? = some (.plain kind (some name)) ∧
      e.leaf = (r.named kind name).leaf := by
  induction h with
  | @named kind name bindable => exact ⟨kind, name, TypeRef.named?_plain bindable _, rfl⟩
  | nonNull _ _ ih =>
    obtain ⟨kind, n, hnamed, hleaf⟩ := ih
    exact ⟨kind, n, hnamed, by rw [TypeExpr.leaf_withNullable, hleaf]⟩
  | list _ ih =>
    obtain ⟨kind, n, hnamed, hleaf⟩ := ih
    exact ⟨kind, n, hnamed, hleaf⟩

/-- The leaf of a named type is the type that a scalar stands for or bears the identifier of the name. -/
theorem Resolver.leaf_named (r : Resolver) (kind : TypeKind) (name : String) :
    (kind = .scalar ∧ ∃ package target, r.scalars.lookup name = some (package, target) ∧
        (r.named kind name).leaf = (.scalar, package, target)) ∨
      ((kind = .scalar → r.isBound name = false) ∧
        (r.named kind name).leaf = (kind, "", Naming.identifier name)) := by
  by_cases hkind : kind = .scalar
  · subst hkind
    cases hlookup : r.scalars.lookup name with
    | none => exact .inr ⟨fun _ => by simp [isBound, hlookup], by simp [named, hlookup, TypeExpr.leaf]⟩
    | some bound =>
      obtain ⟨package, target⟩ := bound
      exact .inl ⟨rfl, package, target, rfl, by simp [named, hlookup, TypeExpr.leaf]⟩
  · exact .inr ⟨fun h => absurd h hkind, by simp [named, hkind, TypeExpr.leaf]⟩

/-- The named type of a resolved reference: the type of the package that a scalar stands for, or the
type that bears the identifier of the reference's name. -/
theorem Resolver.localName_of_resolve {r : Resolver} {ref : TypeRef} {e : TypeExpr}
    (h : r.resolve ref = .ok e) {use : TypeKind × String} (huse : e.localName? = some use) :
    ∃ name, ref.named? = some (.plain use.1 (some name)) ∧
      (use.1 = .scalar ∧ r.scalars.lookup name = some ("", use.2) ∨
        use.2 = Naming.identifier name ∧ (use.1 = .scalar → r.isBound name = false)) := by
  obtain ⟨kind, name, hnamed, hleaf⟩ := (resolves_of_resolve h).leaf
  rw [TypeExpr.localName?_eq_some_iff, hleaf] at huse
  rcases r.leaf_named kind name with ⟨rfl, package, target, hlookup, hbound⟩ | ⟨hfree, hown⟩
  · rw [hbound, Prod.mk.injEq, Prod.mk.injEq] at huse
    obtain ⟨hkind, rfl, rfl⟩ := huse
    exact ⟨name, hkind ▸ hnamed, .inl ⟨hkind.symm, hlookup⟩⟩
  · rw [hown, Prod.mk.injEq, Prod.mk.injEq] at huse
    obtain ⟨rfl, -, hident⟩ := huse
    exact ⟨name, hnamed, .inr ⟨hident.symm, hfree⟩⟩

/-! ### Declarations -/

/-- The type name of the package that a result uses. -/
def Result.localName? : Result → Option (TypeKind × String)
  | object ident => some (.object, ident)
  | leaf type => type.localName?

/-- The result of an accessor uses the type name of the field's type. -/
theorem Resolver.localName_ofType {r : Resolver} {ref : TypeRef} {type : TypeExpr}
    (h : r.resolve ref = .ok type) : (Result.ofType type).localName? = type.localName? := by
  unfold Result.ofType
  split
  · next package name nullable =>
    -- only scalars stand for types of other packages, and an object is no scalar
    obtain ⟨kind, n, -, hleaf⟩ := (resolves_of_resolve h).leaf
    simp only [TypeExpr.leaf] at hleaf
    refine (TypeExpr.localName?_eq_some_iff.mpr ?_).symm
    rcases r.leaf_named kind n with ⟨-, _, _, -, hbound⟩ | ⟨-, hown⟩
    · rw [hbound, Prod.mk.injEq] at hleaf
      cases hleaf.1
    · rw [hown, Prod.mk.injEq, Prod.mk.injEq] at hleaf
      simp [TypeExpr.leaf, hleaf.2.1]
  · rfl

namespace Declaration

/-- The type names of the package that a declaration uses in the types of its members, in the type of
its leaf or as the object that it returns. -/
def typeNames : Declaration → List (TypeKind × String)
  | inputs _ _ members => members.filterMap (·.type.localName?)
  | accessor _ _ _ _ _ result => result.localName?.toList
  | _ => []

/-- The type that a declaration declares. -/
def typeName? : Declaration → Option String
  | inputs _ ident _ => some ident
  | handle _ ident => some ident
  | newtype _ ident => some ident
  | _ => none

/-- Whether a declaration has the form of a type of the kind: structs for objects and input objects,
types of strings for enums and scalars. -/
def suits : TypeKind → Declaration → Bool
  | .object, handle _ _ => true
  | .inputObject, inputs _ _ _ => true
  | .enum, newtype _ _ => true
  | .scalar, newtype _ _ => true
  | _, _ => false

/-- Whether a declaration declares the type with the identifier. -/
def declares (ident : String) (d : Declaration) : Bool :=
  d.typeName? == some ident

end Declaration

/-- A type name in the bindings of a type comes from a reference of the type. Either the reference is to
a scalar that stands for the named type, or exactly one declaration declares it, in the form of the
reference's kind. -/
def Grounded (r : Resolver) (decls : List Declaration) (t : FullType) (use : TypeKind × String) :
    Prop :=
  ∃ ref ∈ t.references, ∃ name, ref.named? = some (.plain use.1 (some name)) ∧
    (use.1 = .scalar ∧ r.scalars.lookup name = some ("", use.2) ∨
      use.2 = Naming.identifier name ∧
        ∃ d, d.suits use.1 = true ∧ decls.filter (·.declares use.2) = [d])

/-- A type name in a list of members comes from one of their inputs. -/
theorem exists_input_of_typeNames {r : Resolver} {inputs : List InputValue} {members : List Member}
    (h : List.Forall₂ (IsMember r) inputs members) {use : TypeKind × String}
    (huse : use ∈ members.filterMap (·.type.localName?)) :
    ∃ input ∈ inputs, ∃ type, r.resolve input.type = .ok type ∧ type.localName? = some use := by
  obtain ⟨m, hm, hname⟩ := List.mem_filterMap.mp huse
  obtain ⟨input, hinput, type, htype, rfl⟩ := exists_of_mem_right h hm
  exact ⟨input, hinput, type, htype, hname⟩

/-- A type name in a declaration of a type comes from a reference of the type. -/
theorem Binds.exists_reference {s : Settings} {t : FullType} {d : Declaration} (h : Binds s t d)
    {use : TypeKind × String} (huse : use ∈ d.typeNames) :
    ∃ ref ∈ t.references, ∃ type,
      s.resolver.resolve ref = .ok type ∧ type.localName? = some use := by
  cases h with
  | holder hkind hf hholder =>
    obtain ⟨members, hmembers, rfl⟩ := hholder
    obtain ⟨input, hinput, type, htype, hname⟩ := exists_input_of_typeNames hmembers huse
    exact ⟨input.type, FullType.argument_mem_references hkind hf hinput, type, htype, hname⟩
  | accessor hkind hf haccessor =>
    obtain ⟨type, htype, rfl⟩ := haccessor
    refine ⟨_, FullType.field_mem_references hkind hf, type, htype, ?_⟩
    simpa [Declaration.typeNames, Resolver.localName_ofType htype] using huse
  | inputObject hkind hmembers =>
    obtain ⟨input, hinput, type, htype, hname⟩ := exists_input_of_typeNames hmembers huse
    exact ⟨input.type, FullType.inputField_mem_references hkind hinput, type, htype, hname⟩
  | handle | start | newtype | constants | literal => cases huse

/-! ### Declared types -/

/-- A type that a type declares is the type itself or the holder of a field. -/
theorem Binds.declared {s : Settings} {t : FullType} {d : Declaration} (h : Binds s t d)
    {ident : String} (hident : d.typeName? = some ident) :
    ∃ e, (ident, e) ∈ s.declaredBy t ∧
      (e = .type t.name ∨ ∃ field, e = .holder t.name field) := by
  cases h with
  | @holder f _ hkind hf hholder =>
    obtain ⟨members, -, rfl⟩ := hholder
    obtain rfl := Option.some.inj hident
    exact ⟨.holder t.name f.name, s.holder_mem_declaredBy hkind hf, .inr ⟨_, rfl⟩⟩
  | accessor hkind hf haccessor =>
    obtain ⟨type, -, rfl⟩ := haccessor
    cases hident
  | handle hkind | inputObject hkind =>
    obtain rfl := Option.some.inj hident
    exact ⟨.type t.name, by simp [Settings.declaredBy, hkind], .inl rfl⟩
  | newtype hkind =>
    obtain rfl := Option.some.inj hident
    rcases hkind with hkind | ⟨hkind, hunbound⟩
    · exact ⟨.type t.name, by simp [Settings.declaredBy, hkind], .inl rfl⟩
    · exact ⟨.type t.name, by simp [Settings.declaredBy, hkind, hunbound], .inl rfl⟩
  | start | constants | literal => cases hident

/-- The holders of an object do not declare an identifier that they do not bear. -/
theorem filter_holders_eq_nil {s : Settings} {owner ident : String} {fields : List FieldValue}
    {holders : List Declaration} (h : List.Forall₂ (IsHolder s owner) fields holders)
    (hident : ∀ f ∈ fields, s.holderName owner f.name ≠ ident) :
    holders.filter (·.declares ident) = [] := by
  refine List.filter_eq_nil_iff.mpr ?_
  intro d hd hdeclares
  obtain ⟨f, hf, members, -, rfl⟩ := exists_of_mem_right h hd
  exact hident f hf (by simpa [Declaration.declares, Declaration.typeName?] using hdeclares)

/-- A type that is no holder of its own has one declaration, in the form of its kind. -/
theorem Renders.declares_once {s : Settings} {t : FullType} {decls : List Declaration}
    (h : Renders s t decls) (hscalar : t.kind = .scalar → s.resolver.isBound t.name = false)
    (hholders : t.kind = .object →
      ∀ f ∈ t.argumentFields, s.holderName t.name f.name ≠ Naming.identifier t.name) :
    ∃ d, d.suits t.kind = true ∧
      decls.filter (·.declares (Naming.identifier t.name)) = [d] := by
  cases h with
  | @object _ accessors hkind hhs has =>
    refine ⟨.handle (Comment.ofBlocks t.description []) (Naming.identifier t.name),
      by rw [hkind]; rfl, ?_⟩
    have hstarts : ((startIdents (Naming.identifier t.name) true (s.operations t.name)).map
        (startDeclaration (Naming.identifier t.name))).filter
          (·.declares (Naming.identifier t.name)) = [] := by
      simp [List.filter_map, Function.comp_def, startDeclaration, Declaration.declares,
        Declaration.typeName?]
    have haccessors : accessors.filter (·.declares (Naming.identifier t.name)) = [] := by
      refine List.filter_eq_nil_iff.mpr ?_
      intro d hd
      obtain ⟨f, -, type, -, rfl⟩ := exists_of_mem_right has hd
      simp [Declaration.declares, Declaration.typeName?]
    have hhandle : (Declaration.handle (Comment.ofBlocks t.description [])
        (Naming.identifier t.name)).declares (Naming.identifier t.name) = true := beq_self_eq_true _
    rw [List.filter_append, List.filter_append, List.filter_cons_of_pos hhandle, hstarts, haccessors,
      filter_holders_eq_nil hhs (hholders hkind)]
    rfl
  | inputObject hkind hmembers =>
    refine ⟨_, ?_, by simp [Declaration.declares, Declaration.typeName?]; rfl⟩
    rw [hkind]
    rfl
  | enum hkind =>
    refine ⟨.newtype (Comment.ofBlocks t.description []) (Naming.identifier t.name),
      by rw [hkind]; rfl, ?_⟩
    split <;> simp [Declaration.declares, Declaration.typeName?]
  | boundScalar hkind hbound =>
    rw [hscalar hkind] at hbound
    cases hbound
  | scalar hkind hunbound =>
    refine ⟨_, ?_, by simp [Declaration.declares, Declaration.typeName?]; rfl⟩
    rw [hkind]
    rfl

/-- The declarations that pass a test are those of one type, if those of the others do not pass. -/
theorem filter_decls_of_unique {s : Settings} {types : List FullType} {fragments : List Fragment}
    (h : List.Forall₂ (IsFragment s) types fragments) (hdistinct : (types.map (·.name)).Nodup)
    {t : FullType} (ht : t ∈ types) {p : Declaration → Bool}
    (hother : ∀ u ∈ types, u.name ≠ t.name → ∀ decls, Renders s u decls → decls.filter p = []) :
    ∃ decls, Renders s t decls ∧ (fragments.flatMap (·.decls)).filter p = decls.filter p := by
  induction h with
  | nil => cases ht
  | @cons u f types fragments hf hrest ih =>
    rw [List.map_cons, List.nodup_cons] at hdistinct
    have hu := fun v hv => hother v (List.mem_cons_of_mem u hv)
    rcases List.mem_cons.mp ht with rfl | ht
    · -- every later type has another name
      have hlater : (fragments.flatMap (·.decls)).filter p = [] := by
        refine List.filter_eq_nil_iff.mpr ?_
        intro d hd hp
        obtain ⟨g, hg, hdg⟩ := List.mem_flatMap.mp hd
        obtain ⟨v, hv, -, hrenders⟩ := exists_of_mem_right hrest hg
        have hne : v.name ≠ t.name := fun heq =>
          hdistinct.1 (heq ▸ List.mem_map_of_mem (f := FullType.name) hv)
        exact List.filter_eq_nil_iff.mp (hu v hv hne _ hrenders) d hdg hp
      refine ⟨f.decls, hf.2, ?_⟩
      rw [List.flatMap_cons, List.filter_append, hlater, List.append_nil]
    · have hne : u.name ≠ t.name := fun heq =>
        hdistinct.1 (heq ▸ List.mem_map_of_mem (f := FullType.name) ht)
      obtain ⟨decls, hrenders, heq⟩ := ih hdistinct.2 ht hu
      refine ⟨decls, hrenders, ?_⟩
      rw [List.flatMap_cons, List.filter_append, hother u List.mem_cons_self hne _ hf.2, heq,
        List.nil_append]

section Render

variable {resolver : Resolver} {qualifyArgs : Bool} {package : String} {schema : Schema}
  {fragments : List Fragment}

/-- Where a type or a holder of a rendered schema bears the identifier of a type with a name, it is that
type. -/
theorem eq_type_of_render (h : render resolver qualifyArgs package schema = .ok fragments)
    {t u : FullType} (ht : t ∈ schema.ownTypes) (hu : u ∈ schema.ownTypes)
    (hname : Sdl.isName t.name = true)
    (hscalar : t.kind = .scalar → resolver.isBound t.name = false) {e : Entity}
    (he : (Naming.identifier t.name, e) ∈ (settingsOf resolver qualifyArgs schema).declaredBy u)
    (hform : e = .type u.name ∨ ∃ field, e = .holder u.name field) :
    e = .type u.name ∧ u.name = t.name := by
  have hlabel : e.label = t.name :=
    label_eq_of_render h hu ht he
      (Settings.own_mem_declaredBy (sound_of_mem_ownTypes h ht) hscalar)
  rcases hform with rfl | ⟨field, rfl⟩
  · exact ⟨rfl, hlabel⟩
  · -- the label of a holder is a phrase of several words, and a name is a single one
    refine absurd ?_ (Entity.blank_notMem hname)
    rw [← hlabel]
    simp

/-- No holder of a rendered schema bears the identifier of a type with a name. -/
theorem holderName_ne_identifier (h : render resolver qualifyArgs package schema = .ok fragments)
    {t u : FullType} (ht : t ∈ schema.ownTypes) (hu : u ∈ schema.ownTypes)
    (hname : Sdl.isName t.name = true)
    (hscalar : t.kind = .scalar → resolver.isBound t.name = false) (hukind : u.kind = .object)
    {f : FieldValue} (hf : f ∈ u.argumentFields) :
    (settingsOf resolver qualifyArgs schema).holderName u.name f.name ≠ Naming.identifier t.name := by
  intro heq
  have hholder := (settingsOf resolver qualifyArgs schema).holder_mem_declaredBy hukind hf
  rw [heq] at hholder
  cases (eq_type_of_render h ht hu hname hscalar hholder (.inr ⟨_, rfl⟩)).1

/-- Two types of a rendered schema that have bindings of their own and one identifier are one type. -/
theorem eq_of_identifier_eq (h : render resolver qualifyArgs package schema = .ok fragments)
    (hdistinct : (schema.ownTypes.map (·.name)).Nodup) {t u : FullType} (ht : t ∈ schema.ownTypes)
    (hu : u ∈ schema.ownTypes) (htscalar : t.kind = .scalar → resolver.isBound t.name = false)
    (huscalar : u.kind = .scalar → resolver.isBound u.name = false)
    (heq : Naming.identifier t.name = Naming.identifier u.name) : t = u := by
  have hname : t.name = u.name := by
    refine name_eq_of_render h ht hu ?_ ?_ heq
    · exact Settings.own_mem_declaredBy (sound_of_mem_ownTypes h ht) htscalar
    · exact Settings.own_mem_declaredBy (sound_of_mem_ownTypes h hu) huscalar
  exact List.inj_on_of_nodup_map hdistinct ht hu hname

/-- A type of a rendered schema that has a binding of its own is declared exactly once, in the form of
its kind. -/
theorem declared_once (h : render resolver qualifyArgs package schema = .ok fragments)
    (hdistinct : (schema.ownTypes.map (·.name)).Nodup) {t : FullType} (ht : t ∈ schema.ownTypes)
    (hname : Sdl.isName t.name = true)
    (hscalar : t.kind = .scalar → resolver.isBound t.name = false) :
    ∃ d, d.suits t.kind = true ∧
      (fragments.flatMap (·.decls)).filter (·.declares (Naming.identifier t.name)) = [d] := by
  have hother : ∀ u ∈ schema.ownTypes, u.name ≠ t.name → ∀ decls,
      Renders (settingsOf resolver qualifyArgs schema) u decls →
        decls.filter (·.declares (Naming.identifier t.name)) = [] := by
    intro u hu hne decls hrenders
    refine List.filter_eq_nil_iff.mpr ?_
    intro d hd hdeclares
    obtain ⟨e, he, hform⟩ := (hrenders.binds hd).declared (beq_iff_eq.mp hdeclares)
    exact hne (eq_type_of_render h ht hu hname hscalar he hform).2
  obtain ⟨decls, hrenders, heq⟩ :=
    filter_decls_of_unique (fragments_of_render h) hdistinct ht hother
  rw [heq]
  refine hrenders.declares_once hscalar ?_
  exact fun hkind f hf => holderName_ne_identifier h ht ht hname hscalar hkind hf

/-- No type name of the bindings dangles. Where the references of a schema name types of the schema, a
type name in a member, a leaf or an object result is what the scalars give for the scalar of the
reference, or it is declared once in the form of the reference's kind. -/
theorem typeNames_grounded (hnames : ∀ t ∈ schema.ownTypes, Sdl.isName t.name = true)
    (hdistinct : (schema.ownTypes.map (·.name)).Nodup)
    (hlisted : ∀ t ∈ schema.ownTypes, ∀ ref ∈ t.references, schema.Lists ref)
    (h : render resolver qualifyArgs package schema = .ok fragments) :
    ∀ fragment ∈ fragments, ∀ d ∈ fragment.decls, ∀ use ∈ d.typeNames,
      ∃ t ∈ schema.ownTypes, t.name = fragment.name ∧
        Grounded resolver (fragments.flatMap (·.decls)) t use := by
  intro fragment hfragment d hd use huse
  obtain ⟨t, ht, hfname, hrenders⟩ := exists_of_mem_right (fragments_of_render h) hfragment
  obtain ⟨ref, href, type, hresolve, hlocal⟩ := (hrenders.binds hd).exists_reference huse
  obtain ⟨name, hnamed, hname⟩ := Resolver.localName_of_resolve hresolve hlocal
  refine ⟨t, ht, hfname.symm, ref, href, name, hnamed, hname.imp_right ?_⟩
  rintro ⟨hident, hscalar⟩
  obtain ⟨u, hu, huname, hukind⟩ := hlisted t ht ref href _ hnamed
  obtain rfl : u.name = name := huname
  obtain hukind : u.kind = use.1 := hukind
  rw [hident, ← hukind]
  refine ⟨rfl, declared_once h hdistinct hu (hnames u hu) ?_⟩
  rw [hukind]
  exact hscalar

end Render

/-- Items of a catalog, which refer to each other, with an enum, two scalars and a filter that may hold
another filter. -/
def catalogSchema : Schema :=
  { (default : Schema) with
    queryType := some ⟨some "Query"⟩
    types := some [
      some { (default : FullType) with
        kind := .object
        name? := some "Query"
        fields := some [
          some { (default : FieldValue) with
            name := "items"
            type := .wrap .nonNull none (.wrap .list none (.plain .object (some "Item")))
            args := some [some { (default : InputValue) with
              name := "where"
              type := .plain .inputObject (some "Filter") }] },
          some { (default : FieldValue) with
            name := "item"
            type := .wrap .nonNull none (.plain .object (some "Item"))
            args := some [some { (default : InputValue) with
              name := "state"
              type := .wrap .nonNull none (.plain .enum (some "State")) }] }] },
      some { (default : FullType) with
        kind := .object
        name? := some "Item"
        fields := some [
          some { (default : FieldValue) with
            name := "parent"
            type := .plain .object (some "Item") },
          some { (default : FieldValue) with
            name := "state"
            type := .wrap .nonNull none (.plain .enum (some "State")) },
          some { (default : FieldValue) with
            name := "added"
            type := .plain .scalar (some "DateTime") }] },
      some { (default : FullType) with
        kind := .inputObject
        name? := some "Filter"
        inputFields := some [
          some { (default : InputValue) with
            name := "price"
            type := .wrap .nonNull none (.plain .scalar (some "Price")) },
          some { (default : InputValue) with
            name := "or"
            type := .wrap .list none (.plain .inputObject (some "Filter")) }] },
      some { (default : FullType) with
        kind := .enum
        name? := some "State"
        enumValues := some [some { (default : EnumValue) with name := "SOLD" }] },
      some { (default : FullType) with kind := .scalar, name? := some "DateTime" },
      some { (default : FullType) with kind := .scalar, name? := some "Price" }] }

/-- The scalars of the catalog: a price is a number of the language. -/
def catalogResolver : Resolver :=
  ⟨("Price", "", "int64") :: Resolver.builtin⟩

/-- The catalog can be rendered, its bindings use types of each kind, and all of them are grounded. -/
theorem catalog_typeNames_grounded :
    ∃ fragments, render catalogResolver true "gen" catalogSchema = .ok fragments ∧
      (fragments.flatMap fun f => f.decls.flatMap (·.typeNames)) =
        [(.inputObject, "Filter"), (.enum, "State"), (.object, "Item"), (.object, "Item"),
          (.object, "Item"), (.enum, "State"), (.scalar, "DateTime"), (.scalar, "int64"),
          (.inputObject, "Filter")] ∧
      ∀ fragment ∈ fragments, ∀ d ∈ fragment.decls, ∀ use ∈ d.typeNames,
        ∃ t ∈ catalogSchema.ownTypes, t.name = fragment.name ∧
          Grounded catalogResolver (fragments.flatMap (·.decls)) t use := by
  have huses : (render catalogResolver true "gen" catalogSchema).toOption.map
      (fun fragments => fragments.flatMap fun f => f.decls.flatMap (·.typeNames)) =
        some [(.inputObject, "Filter"), (.enum, "State"), (.object, "Item"), (.object, "Item"),
          (.object, "Item"), (.enum, "State"), (.scalar, "DateTime"), (.scalar, "int64"),
          (.inputObject, "Filter")] := by
    decide +kernel
  match hrender : render catalogResolver true "gen" catalogSchema with
  | .error e => simp [hrender, Except.toOption] at huses
  | .ok fragments =>
    refine ⟨fragments, rfl, by simpa [hrender, Except.toOption] using huses, ?_⟩
    exact typeNames_grounded (by decide +kernel) (by decide +kernel) (by decide +kernel) hrender

end Bindery
