import Bindery.Proofs.Bindings.Rendered
import Mathlib.Data.List.Perm.Basic

/-!
# The order of the types

All types of a schema claim their identifiers in one scope, and which holders are named for their object
types is found by looking at all types before the first one is rendered. Still the order of the types does
not matter: it decides neither whether a schema can be rendered nor what becomes of a type.

## Main definitions

- `Schema.withTypes` — a schema with other entries in its list of types
- `Settings.Agree` — settings that name holders alike and root the same operations

## Main results

- `mem_sharedArgs_iff`, `mem_sharedArgs_of_perm` — which holders are named for their object types
- `Renders.unique` — the declarations of a type are determined
- `render_of_perm` — rendering a schema whose types are put in another order
-/

namespace Bindery

/-- The schema with other entries in its list of types. -/
def Schema.withTypes (schema : Schema) (entries : List (Option FullType)) : Schema :=
  { schema with types := some entries }

/-! ### Settings -/

/-- Settings that resolve references alike, name holders alike and root the same operations. -/
structure Settings.Agree (s s' : Settings) : Prop where
  /-- References are resolved alike. -/
  resolver : s'.resolver = s.resolver
  /-- Holders are named alike. -/
  holderName : ∀ owner field, s'.holderName owner field = s.holderName owner field
  /-- The same operations are rooted at a type. -/
  operations : ∀ type, s'.operations type = s.operations type

/-- The fields that take arguments, over all types. -/
def argIdents (types : List (Option FullType)) : List String :=
  (types.filterMap id).flatMap FullType.argIdentifiers

theorem mem_sharedArgs_iff {types : List (Option FullType)} {ident : String} :
    ident ∈ sharedArgs types ↔ 1 < (argIdents types).count ident := by
  have hshared : sharedArgs types =
      (argIdents types).eraseDups.filter fun i => 1 < (argIdents types).count i := rfl
  rw [hshared, List.mem_filter, List.mem_eraseDups, decide_eq_true_iff]
  constructor
  · exact fun h => h.2
  · intro h
    exact ⟨List.count_pos_iff.mp (by omega), h⟩

/-- Which identifiers several object types share does not depend on the order of the types. -/
theorem mem_sharedArgs_of_perm {types types' : List (Option FullType)} (h : types'.Perm types)
    (ident : String) : ident ∈ sharedArgs types' ↔ ident ∈ sharedArgs types := by
  have hidents : (argIdents types').Perm (argIdents types) := (h.filterMap id).flatMap_right _
  rw [mem_sharedArgs_iff, mem_sharedArgs_iff, hidents.count_eq]

theorem Settings.holderName_congr {s s' : Settings} (hqualify : s'.qualifyArgs = s.qualifyArgs)
    {owner field : String} (hshared : Naming.identifier field ∈ s'.shared ↔
      Naming.identifier field ∈ s.shared) :
    s'.holderName owner field = s.holderName owner field := by
  have hcontains : s'.shared.contains (Naming.identifier field) =
      s.shared.contains (Naming.identifier field) := by
    rw [Bool.eq_iff_iff, List.contains_iff_mem, List.contains_iff_mem, hshared]
  rw [holderName, holderName, hqualify, hcontains]

theorem settings_agree (resolver : Resolver) (qualifyArgs : Bool) {schema : Schema}
    {entries : List (Option FullType)} (h : entries.Perm schema.types.toList) :
    (settingsOf resolver qualifyArgs schema).Agree
      (settingsOf resolver qualifyArgs (schema.withTypes entries)) where
  resolver := rfl
  holderName owner field := by
    apply Settings.holderName_congr
    · rfl
    · exact mem_sharedArgs_of_perm h _
  operations type := rfl

section Agree

variable {s s' : Settings}

theorem Settings.Agree.declaredBy (h : s.Agree s') (t : FullType) :
    s'.declaredBy t = s.declaredBy t := by
  simp only [Settings.declaredBy, Settings.holdersOf, Settings.startsOf, h.resolver, h.holderName,
    h.operations]

theorem Settings.Agree.memberScopes (h : s.Agree s') (t : FullType) :
    s'.memberScopes t = s.memberScopes t := by
  simp only [Settings.memberScopes, h.holderName]

theorem Settings.Agree.isHolder (h : s.Agree s') (owner : String) :
    IsHolder s' owner = IsHolder s owner := by
  funext field d
  simp only [IsHolder, h.resolver, h.holderName]

theorem Settings.Agree.isAccessor (h : s.Agree s') (owner : String) :
    IsAccessor s' owner = IsAccessor s owner := by
  funext field d
  simp only [IsAccessor, Settings.holder?, h.resolver, h.holderName]

/-- The declarations of a type depend on what settings agree on only. -/
theorem Settings.Agree.renders (h : s.Agree s') {t : FullType} {decls : List Declaration}
    (hrenders : Renders s' t decls) : Renders s t decls := by
  cases hrenders with
  | object hkind hholders haccessors =>
    rw [h.isHolder] at hholders
    rw [h.isAccessor] at haccessors
    rw [h.operations]
    exact .object hkind hholders haccessors
  | inputObject hkind hmembers =>
    rw [h.resolver] at hmembers
    exact .inputObject hkind hmembers
  | enum hkind => exact .enum hkind
  | boundScalar hkind hbound =>
    rw [h.resolver] at hbound
    exact .boundScalar hkind hbound
  | scalar hkind hunbound =>
    rw [h.resolver] at hunbound
    exact .scalar hkind hunbound

end Agree

/-! ### Determined declarations -/

theorem isMember_unique (r : Resolver) : Relator.RightUnique (IsMember r) := by
  rintro input m m' ⟨type, htype, rfl⟩ ⟨type', htype', rfl⟩
  rw [htype] at htype'
  rw [Except.ok.inj htype']

theorem isHolder_unique (s : Settings) (owner : String) : Relator.RightUnique (IsHolder s owner) := by
  rintro field d d' ⟨members, hmembers, rfl⟩ ⟨members', hmembers', rfl⟩
  rw [(isMember_unique s.resolver).forall₂ hmembers hmembers']

theorem isAccessor_unique (s : Settings) (owner : String) :
    Relator.RightUnique (IsAccessor s owner) := by
  rintro field d d' ⟨type, htype, rfl⟩ ⟨type', htype', rfl⟩
  rw [htype] at htype'
  rw [Except.ok.inj htype']

/-- The declarations of a type are determined by the type and the settings. -/
theorem Renders.unique {s : Settings} {t : FullType} {decls decls' : List Declaration}
    (h : Renders s t decls) (h' : Renders s t decls') : decls = decls' := by
  cases h with
  | object hkind hholders haccessors =>
    cases h' with
    | object _ hholders' haccessors' =>
      rw [(isHolder_unique s t.name).forall₂ hholders hholders',
        (isAccessor_unique s t.name).forall₂ haccessors haccessors']
    | inputObject hkind' | enum hkind' | boundScalar hkind' | scalar hkind' => simp_all
  | inputObject hkind hmembers =>
    cases h' with
    | inputObject _ hmembers' =>
      rw [(isMember_unique s.resolver).forall₂ hmembers hmembers']
    | object hkind' | enum hkind' | boundScalar hkind' | scalar hkind' => simp_all
  | enum hkind =>
    cases h' with
    | enum => rfl
    | object hkind' | inputObject hkind' | boundScalar hkind' | scalar hkind' => simp_all
  | boundScalar hkind hbound =>
    cases h' with
    | boundScalar => rfl
    | object hkind' | inputObject hkind' | enum hkind' | scalar hkind' => simp_all
  | scalar hkind hunbound =>
    cases h' with
    | scalar => rfl
    | object hkind' | inputObject hkind' | enum hkind' | boundScalar hkind' => simp_all

theorem isFragment_unique (s : Settings) : Relator.RightUnique (IsFragment s) := by
  rintro t f g ⟨hname, hdecls⟩ ⟨hname', hdecls'⟩
  obtain ⟨name, decls⟩ := f
  obtain ⟨name', decls'⟩ := g
  obtain rfl : name = t.name := hname
  obtain rfl : name' = t.name := hname'
  exact congrArg (Fragment.mk t.name) (hdecls.unique hdecls')

/-- Where answers are unique, all lists of answers come from one function. -/
theorem exists_map_of_unique {α β : Type} [Nonempty β] {R : α → β → Prop}
    (hR : Relator.RightUnique R) :
    ∃ g : α → β, ∀ as bs, List.Forall₂ R as bs → bs = as.map g := by
  refine ⟨fun a => Classical.epsilon (R a), ?_⟩
  intro as bs h
  induction h with
  | nil => rfl
  | @cons a b as bs hab _ ih =>
    have hg : R a (Classical.epsilon (R a)) := Classical.epsilon_spec ⟨b, hab⟩
    rw [List.map_cons, ← ih, hR hab hg]

/-! ### Schemas -/

section Schemas

variable {schema : Schema} {entries : List (Option FullType)}

theorem ownTypes_perm (h : entries.Perm schema.types.toList) :
    (schema.withTypes entries).ownTypes.Perm schema.ownTypes :=
  (h.filterMap id).filter _

theorem Scope.agrees_congr {scope scope' : Scope} (h : ∀ d, d ∈ scope'.names ↔ d ∈ scope.names) :
    scope'.Agrees ↔ scope.Agrees := by
  simp only [Scope.Agrees, h]

/-- The scopes of a schema agree in every order of its types. -/
theorem scopes_agree_of_perm (resolver : Resolver) (qualifyArgs : Bool) (package : String)
    (h : entries.Perm schema.types.toList) :
    (∀ scope ∈ schemaScopes resolver qualifyArgs package (schema.withTypes entries),
        scope.Agrees) ↔
      ∀ scope ∈ schemaScopes resolver qualifyArgs package schema, scope.Agrees := by
  have hsettings := settings_agree resolver qualifyArgs h
  have hown := ownTypes_perm h
  -- the scope of the package holds the same names in another order
  have hpackage : ∀ label : String,
      ((settingsOf resolver qualifyArgs (schema.withTypes entries)).packageScope label
        (schema.withTypes entries).ownTypes).Agrees ↔
      ((settingsOf resolver qualifyArgs schema).packageScope label schema.ownTypes).Agrees := by
    intro label
    refine Scope.agrees_congr fun d => ?_
    simp only [Settings.packageScope, labelled, List.mem_map, List.mem_flatMap, hown.mem_iff,
      hsettings.declaredBy]
  simp only [schemaScopes, List.forall_mem_cons, hpackage, List.mem_flatMap, hown.mem_iff,
    hsettings.memberScopes]

/-- The order of the types of a schema does not matter. In whatever order they are listed, and whatever is
wrong with them, the schema is rendered in that order exactly if it is rendered in its own; every type then
has the same fragment, and the fragments come in the order of the types. -/
theorem render_of_perm (resolver : Resolver) (qualifyArgs : Bool) (package : String)
    (h : entries.Perm schema.types.toList) :
    ((∃ fragments, render resolver qualifyArgs package (schema.withTypes entries) = .ok fragments) ↔
      ∃ fragments, render resolver qualifyArgs package schema = .ok fragments) ∧
    ∃ fragmentOf : FullType → Fragment, ∀ fragments fragments',
      render resolver qualifyArgs package schema = .ok fragments →
      render resolver qualifyArgs package (schema.withTypes entries) = .ok fragments' →
        fragments = schema.ownTypes.map fragmentOf ∧
        fragments' = (schema.withTypes entries).ownTypes.map fragmentOf ∧
        fragments'.Perm fragments := by
  have hsettings := settings_agree resolver qualifyArgs h
  constructor
  · have hsound : (schema.withTypes entries).Sound resolver ↔ schema.Sound resolver := by
      have hmem : ∀ e, e ∈ (schema.withTypes entries).types.toList ↔ e ∈ schema.types.toList :=
        fun e => h.mem_iff
      simp only [Schema.Sound, SoundTypes, AllEntries, hmem]
    rw [render_ok_iff, render_ok_iff, hsound, scopes_agree_of_perm resolver qualifyArgs package h]
  · have : Nonempty Fragment := ⟨⟨"", []⟩⟩
    obtain ⟨fragmentOf, hmap⟩ :=
      exists_map_of_unique (isFragment_unique (settingsOf resolver qualifyArgs schema))
    refine ⟨fragmentOf, fun fragments fragments' hrender hrender' => ?_⟩
    have hfragments : fragments = schema.ownTypes.map fragmentOf :=
      hmap _ _ (fragments_of_render hrender)
    have hfragments' : fragments' = (schema.withTypes entries).ownTypes.map fragmentOf := by
      refine hmap _ _ ((fragments_of_render hrender').imp ?_)
      exact fun t f hf => ⟨hf.1, hsettings.renders hf.2⟩
    refine ⟨hfragments, hfragments', ?_⟩
    rw [hfragments, hfragments']
    exact (ownTypes_perm h).map fragmentOf

end Schemas

/-- A type whose field `file` takes a path. -/
def fileOwner (name : String) : FullType :=
  { (default : FullType) with
    kind := .object
    name? := some name
    fields := some [some { (default : FieldValue) with
      name := "file"
      type := .plain .scalar (some "String")
      args := some [some { (default : InputValue) with
        name := "path"
        type := .wrap .nonNull none (.plain .scalar (some "String")) }] }] }

/-- Two types with one field, the first of them listed twice, and a type of introspection. -/
def fileSchema : Schema :=
  { (default : Schema) with
    queryType := some ⟨some "Directory"⟩
    types := some [some (fileOwner "Directory"), some (fileOwner "Container"),
      some { (default : FullType) with kind := .object, name? := some "__Type" },
      some (fileOwner "Directory")] }

/-- The other way round the types have the same fragments, though each type shares the name of its field
with one that now comes before it. -/
theorem fileSchema_reversed :
    ∃ fragments fragments',
      render ⟨Resolver.builtin⟩ false "gen" fileSchema = .ok fragments ∧
      render ⟨Resolver.builtin⟩ false "gen"
        (fileSchema.withTypes fileSchema.types.toList.reverse) = .ok fragments' ∧
      fragments'.Perm fragments ∧
      fragments'.map (·.name) = ["Directory", "Container", "Directory"] := by
  have hperm : fileSchema.types.toList.reverse.Perm fileSchema.types.toList :=
    List.reverse_perm _
  obtain ⟨hiff, fragmentOf, hfragments⟩ := render_of_perm ⟨Resolver.builtin⟩ false "gen" hperm
  have hnames : (render ⟨Resolver.builtin⟩ false "gen"
      (fileSchema.withTypes fileSchema.types.toList.reverse)).toOption.map
        (fun fragments => fragments.map (·.name)) = some ["Directory", "Container", "Directory"] := by
    decide +kernel
  obtain ⟨fragments', hrender', hnames⟩ := exists_ok_of_toOption hnames
  obtain ⟨fragments, hrender⟩ := hiff.mp ⟨fragments', hrender'⟩
  exact ⟨fragments, fragments', hrender, hrender', (hfragments _ _ hrender hrender').2.2, hnames⟩

end Bindery
