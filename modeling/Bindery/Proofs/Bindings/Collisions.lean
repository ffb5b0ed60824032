import Bindery.Proofs.Bindings.Rendered
import Bindery.Proofs.Sdl.Name

/-!
# Collisions

A scope lets a name claim its identifier twice. That does no harm where no two declarations of a scope
have one label, and they have not if the names of the schema are names of the schema language and no
list of the schema holds a name twice: then rendering fails with a collision exactly if two declarations
of one scope have one identifier.

## Main definitions

- `Entity.Named` — all names in an entity are names of the schema language
- `FullType.Regular`, `Schema.Regular` — names are names, and none of them occurs twice in a list

## Main results

- `Entity.label_injective` — different entities have different labels
- `labels_nodup` — no two declarations of a scope have one label
- `render_collides_iff` — when rendering fails with a collision, and with which one
-/

namespace Bindery

/-! ### Labels of entities -/

namespace Entity

/-- All names in an entity are names of the schema language. -/
def Named : Entity → Prop
  | type name => Sdl.isName name = true
  | holder owner field => Sdl.isName owner = true ∧ Sdl.isName field = true
  | start _ root => Sdl.isName root = true
  | constant enum value => Sdl.isName enum = true ∧ Sdl.isName value = true

/-- The type that an entity belongs to. -/
def typeName : Entity → String
  | type name => name
  | holder owner _ => owner
  | start _ root => root
  | constant enum _ => enum

/-- Whether the label of an entity is made of several words. -/
def isPhrase : Entity → Bool
  | holder _ _ | start _ _ => true
  | type _ | constant _ _ => false

/-- Whether the label of an entity joins two names by a dot. -/
def isDotted : Entity → Bool
  | holder _ _ | constant _ _ => true
  | type _ | start _ _ => false

theorem blank_notMem {name : String} (h : Sdl.isName name = true) : ' ' ∉ name.toList :=
  Sdl.not_mem_of_isName h (by decide)

theorem dot_notMem {name : String} (h : Sdl.isName name = true) : '.' ∉ name.toList :=
  Sdl.not_mem_of_isName h (by decide)

theorem blank_mem_label {e : Entity} (he : e.Named) :
    ' ' ∈ e.label.toList ↔ e.isPhrase = true := by
  cases e with
  | type name => simp [isPhrase, blank_notMem he]
  | holder owner field => simp [isPhrase]
  | start operation root => simp [isPhrase]
  | constant enum value => simp [isPhrase, blank_notMem he.1, blank_notMem he.2]

theorem dot_mem_label {e : Entity} (he : e.Named) : '.' ∈ e.label.toList ↔ e.isDotted = true := by
  cases e with
  | type name => simp [isDotted, dot_notMem he]
  | holder owner field => simp [isDotted]
  | start operation root =>
    cases operation <;> simp [isDotted, Operation.keyword, dot_notMem he]
  | constant enum value => simp [isDotted]

/-- Two names joined by a dot determine the names. -/
theorem dotted_injective {a b c d : String} (ha : Sdl.isName a = true) (hb : Sdl.isName b = true)
    (h : a.toList ++ '.' :: b.toList = c.toList ++ '.' :: d.toList) : a = c ∧ b = d := by
  obtain ⟨hac, -, hbd⟩ := (List.append_cons_inj_of_notMem (dot_notMem ha) (dot_notMem hb)).mp h
  exact ⟨String.toList_injective hac, String.toList_injective hbd⟩

/-- The label of a constructor determines its operation and its type. -/
theorem start_label_injective {op op' : Operation} {root root' : String}
    (h : (start op root).label = (start op' root').label) : op = op' ∧ root = root' := by
  have hlist := congrArg String.toList h
  simp only [label_start, String.toList_append] at hlist
  cases op <;> cases op' <;> simp [Operation.keyword, String.toList_inj] at hlist
  all_goals exact ⟨rfl, hlist⟩

/-- Different entities have different labels. Blanks and dots in a label show which kind of entity it
belongs to, and within one kind the names in the label can be told apart. -/
theorem label_injective {e f : Entity} (he : e.Named) (hf : f.Named) (h : e.label = f.label) :
    e = f := by
  have hphrase : e.isPhrase = true ↔ f.isPhrase = true := by
    rw [← blank_mem_label he, ← blank_mem_label hf, h]
  have hdotted : e.isDotted = true ↔ f.isDotted = true := by
    rw [← dot_mem_label he, ← dot_mem_label hf, h]
  have hlist := congrArg String.toList h
  match e, f, hphrase, hdotted with
  | type name, type name', _, _ => exact congrArg type h
  | holder owner field, holder owner' field', _, _ =>
    obtain ⟨rfl, rfl⟩ := dotted_injective he.1 he.2 (by simpa using hlist)
    rfl
  | start op root, start op' root', _, _ =>
    obtain ⟨rfl, rfl⟩ := start_label_injective h
    rfl
  | constant enum value, constant enum' value', _, _ =>
    obtain ⟨rfl, rfl⟩ := dotted_injective he.1 he.2 (by simpa using hlist)
    rfl
  | type _, holder _ _, hp, _ | type _, start _ _, hp, _ | holder _ _, type _, hp, _
  | holder _ _, constant _ _, hp, _ | start _ _, type _, hp, _ | start _ _, constant _ _, hp, _
  | constant _ _, holder _ _, hp, _ | constant _ _, start _ _, hp, _ =>
    simp [isPhrase] at hp
  | type _, constant _ _, _, hd | constant _ _, type _, _, hd | holder _ _, start _ _, _, hd
  | start _ _, holder _ _, _, hd =>
    simp [isDotted] at hd

end Entity

/-! ### Regular schemas -/

/-- Names of the schema language, none of which occurs twice. -/
def DistinctNames (names : List String) : Prop :=
  names.Nodup ∧ ∀ name ∈ names, Sdl.isName name = true

/-- The names of a type and of the lists that its kind owns are names of the schema language, and none
of them occurs twice in its list. -/
structure FullType.Regular (t : FullType) : Prop where
  /-- The type has a name of the schema language. -/
  name : Sdl.isName t.name = true
  /-- The fields of an object. -/
  fields : t.kind = .object → DistinctNames (t.fields.values.map (·.name))
  /-- The arguments of each field of an object. -/
  arguments : t.kind = .object →
    ∀ f ∈ t.fields.values, DistinctNames (f.args.values.map (·.name))
  /-- The fields of an input object. -/
  inputFields : t.kind = .inputObject → DistinctNames (t.inputFields.values.map (·.name))
  /-- The values of an enum. -/
  enumValues : t.kind = .enum → DistinctNames (t.enumValues.values.map (·.name))

/-- The types with bindings are regular, and no two of them have one name. -/
structure Schema.Regular (schema : Schema) : Prop where
  /-- No two types have one name. -/
  distinct : (schema.ownTypes.map (·.name)).Nodup
  /-- Every type is regular. -/
  types : ∀ t ∈ schema.ownTypes, t.Regular

instance (names : List String) : Decidable (DistinctNames names) :=
  inferInstanceAs (Decidable (_ ∧ _))

instance (t : FullType) : Decidable t.Regular :=
  decidable_of_iff
    (Sdl.isName t.name = true ∧
      (t.kind = .object → DistinctNames (t.fields.values.map (·.name))) ∧
      (t.kind = .object → ∀ f ∈ t.fields.values, DistinctNames (f.args.values.map (·.name))) ∧
      (t.kind = .inputObject → DistinctNames (t.inputFields.values.map (·.name))) ∧
      (t.kind = .enum → DistinctNames (t.enumValues.values.map (·.name))))
    ⟨fun ⟨h₁, h₂, h₃, h₄, h₅⟩ => ⟨h₁, h₂, h₃, h₄, h₅⟩,
      fun h => ⟨h.name, h.fields, h.arguments, h.inputFields, h.enumValues⟩⟩

instance (schema : Schema) : Decidable schema.Regular :=
  decidable_of_iff ((schema.ownTypes.map (·.name)).Nodup ∧ ∀ t ∈ schema.ownTypes, t.Regular)
    ⟨fun h => ⟨h.1, h.2⟩, fun h => ⟨h.distinct, h.types⟩⟩

/-! ### Labels of declarations -/

/-- Every identifier that a type declares stands for an entity of the type. -/
theorem typeName_of_mem_declaredBy {s : Settings} {t : FullType} {d : String × Entity}
    (h : d ∈ s.declaredBy t) : d.2.typeName = t.name := by
  rcases Settings.mem_declaredBy h with rfl | ⟨-, h⟩ | ⟨-, h⟩ | ⟨-, h⟩
  · rfl
  · obtain ⟨f, -, rfl⟩ := List.mem_map.mp h
    rfl
  · obtain ⟨start, -, rfl⟩ := List.mem_map.mp h
    rfl
  · obtain ⟨v, -, rfl⟩ := List.mem_map.mp h
    rfl

/-- The names of the entities that a regular type declares are names of the schema language. -/
theorem named_of_mem_declaredBy {s : Settings} {t : FullType} (ht : t.Regular)
    {d : String × Entity} (h : d ∈ s.declaredBy t) : d.2.Named := by
  rcases Settings.mem_declaredBy h with rfl | ⟨hkind, h⟩ | ⟨-, h⟩ | ⟨hkind, h⟩
  · exact ht.name
  · obtain ⟨f, hf, rfl⟩ := List.mem_map.mp h
    exact ⟨ht.name, (ht.fields hkind).2 _ (List.mem_map_of_mem (List.mem_of_mem_filter hf))⟩
  · obtain ⟨start, -, rfl⟩ := List.mem_map.mp h
    exact ht.name
  · obtain ⟨v, hv, rfl⟩ := List.mem_map.mp h
    exact ⟨ht.name, (ht.enumValues hkind).2 _ (List.mem_map_of_mem hv)⟩

/-- The holders of an object belong to different fields. -/
theorem holders_nodup (s : Settings) {t : FullType} (ht : t.Regular) (hkind : t.kind = .object) :
    ((s.holdersOf t).map Prod.snd).Nodup := by
  have hfields : (t.argumentFields.map (·.name)).Nodup :=
    (ht.fields hkind).1.sublist (List.filter_sublist.map _)
  have hentities : (s.holdersOf t).map Prod.snd =
      (t.argumentFields.map (·.name)).map (Entity.holder t.name) := by
    simp [Settings.holdersOf, Function.comp_def]
  rw [hentities]
  refine hfields.map ?_
  intro a b hab
  exact (Entity.holder.inj hab).2

/-- The constructors of an object belong to different operations. -/
theorem starts_nodup {s : Settings} (t : FullType) (hops : (s.operations t.name).Nodup) :
    ((s.startsOf t).map Prod.snd).Nodup := by
  have hentities : (s.startsOf t).map Prod.snd =
      (s.operations t.name).map fun op => Entity.start op t.name := by
    conv_rhs => rw [← startIdents_map_snd (Naming.identifier t.name) true (s.operations t.name)]
    simp [Settings.startsOf, Function.comp_def]
  rw [hentities]
  refine hops.map ?_
  intro a b hab
  exact (Entity.start.inj hab).1

/-- The constants of an enum belong to different values. -/
theorem constants_nodup {t : FullType} (ht : t.Regular) (hkind : t.kind = .enum) :
    ((Settings.constantsOf t).map Prod.snd).Nodup := by
  have hentities : (Settings.constantsOf t).map Prod.snd =
      (t.enumValues.values.map (·.name)).map (Entity.constant t.name) := by
    simp [Settings.constantsOf, Function.comp_def]
  rw [hentities]
  refine (ht.enumValues hkind).1.map ?_
  intro a b hab
  exact (Entity.constant.inj hab).2

/-- No two identifiers that a type declares stand for one entity. -/
theorem declaredBy_nodup {s : Settings} {t : FullType} (ht : t.Regular)
    (hops : (s.operations t.name).Nodup) : ((s.declaredBy t).map Prod.snd).Nodup := by
  unfold Settings.declaredBy
  cases hkind : t.kind with
  | object =>
    simp only [List.cons_append, List.map_cons, List.map_append, List.nodup_cons]
    refine ⟨?_, (holders_nodup s ht hkind).append (starts_nodup t hops) ?_⟩
    · simp [Settings.holdersOf, Settings.startsOf]
    · simp [List.Disjoint, Settings.holdersOf, Settings.startsOf]
  | enum =>
    simp only [List.map_cons, List.nodup_cons]
    refine ⟨?_, constants_nodup ht hkind⟩
    simp [Settings.constantsOf]
  | scalar =>
    simp only
    split <;> simp
  | inputObject | interface | union | list | nonNull | unknown => simp

/-- An operation has one root at most. -/
theorem Schema.roots_nodup (schema : Schema) : (schema.roots.map Prod.fst).Nodup := by
  unfold Schema.roots
  rw [List.map_filterMap]
  refine List.Nodup.filterMap ?_ (by decide)
  intro op op' o ho ho'
  obtain ⟨p, hp, rfl⟩ := Option.map_eq_some_iff.mp (Option.mem_def.mp ho)
  obtain ⟨p', hp', heq⟩ := Option.map_eq_some_iff.mp (Option.mem_def.mp ho')
  -- an operation with a root is paired with itself
  split at hp
  · cases hp
  · cases hp
  · obtain rfl := Option.some.inj hp
    split at hp'
    · cases hp'
    · cases hp'
    · obtain rfl := Option.some.inj hp'
      exact heq.symm

section Schemas

variable {resolver : Resolver} {qualifyArgs : Bool} {package : String} {schema : Schema}

theorem operations_nodup (schema : Schema) (type : String) :
    ((settingsOf resolver qualifyArgs schema).operations type).Nodup :=
  schema.roots_nodup.sublist (List.filter_sublist.map _)

/-- No two declarations of the package have one label. -/
theorem packageScope_labels_nodup (h : schema.Regular) (label : String) :
    (((settingsOf resolver qualifyArgs schema).packageScope label schema.ownTypes).names.map
      Prod.snd).Nodup := by
  have hlabels : ((settingsOf resolver qualifyArgs schema).packageScope label
      schema.ownTypes).names.map Prod.snd =
      (schema.ownTypes.flatMap fun t =>
        ((settingsOf resolver qualifyArgs schema).declaredBy t).map Prod.snd).map
          Entity.label := by
    simp [Settings.packageScope, labelled, Function.comp_def, List.map_flatMap]
  rw [hlabels]
  refine List.Nodup.map_on ?_ (List.nodup_flatMap.mpr ⟨?_, ?_⟩)
  · intro e he f hf heq
    simp only [List.mem_flatMap, List.mem_map] at he hf
    obtain ⟨t, ht, d, hd, rfl⟩ := he
    obtain ⟨t', ht', d', hd', rfl⟩ := hf
    exact Entity.label_injective (named_of_mem_declaredBy (h.types t ht) hd)
      (named_of_mem_declaredBy (h.types t' ht') hd') heq
  · intro t ht
    exact declaredBy_nodup (h.types t ht) (operations_nodup schema t.name)
  · -- an entity knows the name of its type, so types with different names share none
    refine (List.pairwise_map.mp h.distinct).imp ?_
    intro t t' hne e he he'
    obtain ⟨d, hd, rfl⟩ := List.mem_map.mp he
    obtain ⟨d', hd', heq⟩ := List.mem_map.mp he'
    apply hne
    rw [← typeName_of_mem_declaredBy hd, ← typeName_of_mem_declaredBy hd', heq]

/-- No two methods of an object and no two members of a struct have one label. -/
theorem memberScopes_labels_nodup {s : Settings} {t : FullType} (ht : t.Regular) {scope : Scope}
    (hscope : scope ∈ s.memberScopes t) : (scope.names.map Prod.snd).Nodup := by
  unfold Settings.memberScopes at hscope
  cases hkind : t.kind with
  | object =>
    simp only [hkind, List.mem_cons, List.mem_map] at hscope
    rcases hscope with rfl | ⟨f, hf, rfl⟩
    · simpa [FullType.methodScope, Function.comp_def] using (ht.fields hkind).1
    · have hargs := (ht.arguments hkind f (List.mem_of_mem_filter hf)).1
      simpa [inputScope, Function.comp_def] using hargs
  | inputObject =>
    simp only [hkind, List.mem_singleton] at hscope
    subst hscope
    simpa [inputScope, Function.comp_def] using (ht.inputFields hkind).1
  | scalar | enum | interface | union | list | nonNull | unknown =>
    simp only [hkind] at hscope
    cases hscope

/-- No two declarations of a scope have one label. -/
theorem labels_nodup (h : schema.Regular) {scope : Scope}
    (hscope : scope ∈ schemaScopes resolver qualifyArgs package schema) :
    (scope.names.map Prod.snd).Nodup := by
  rcases List.mem_cons.mp hscope with rfl | hmember
  · exact packageScope_labels_nodup h _
  · obtain ⟨t, ht, hscope⟩ := List.mem_flatMap.mp hmember
    exact memberScopes_labels_nodup (h.types t ht) hscope

/-! ### Collisions -/

/-- A collision is one between two declarations of one of the scopes. -/
theorem collision_of_render {c : Collision}
    (h : render resolver qualifyArgs package schema = .error (.collision c)) :
    ∃ scope ∈ schemaScopes resolver qualifyArgs package schema, c.scope = scope.label ∧
      c.first ≠ c.second ∧ (c.identifier, c.first) ∈ scope.names ∧
      (c.identifier, c.second) ∈ scope.names := by
  have hjudged := render_judged resolver qualifyArgs package schema
  rw [h] at hjudged
  obtain ⟨scope, hscope, hcheck⟩ := List.mem_map.mp hjudged
  exact ⟨scope, hscope, Scope.check_error hcheck⟩

/-- A sound schema that is not rendered has a collision. -/
theorem collision_of_not_rendered (hsound : schema.Sound resolver)
    (h : ¬ ∃ fragments, render resolver qualifyArgs package schema = .ok fragments) :
    ∃ c, render resolver qualifyArgs package schema = .error (.collision c) := by
  have hjudged := render_judged resolver qualifyArgs package schema
  match hresult : render resolver qualifyArgs package schema, hjudged with
  | .ok fragments, _ => exact absurd ⟨fragments, hresult⟩ h
  | .error (.schema e), hunsound => exact absurd hsound hunsound
  | .error (.collision c), _ => exact ⟨c, rfl⟩

/-- Rendering a regular schema without other defects fails with a collision exactly if two declarations
of one scope have one identifier. So the identifiers of a rendered schema are distinct in every scope,
and a reported collision names two different labels of one scope that have the identifier. -/
theorem render_collides_iff (hregular : schema.Regular) (hsound : schema.Sound resolver) :
    ((∃ c, render resolver qualifyArgs package schema = .error (.collision c)) ↔
      ∃ scope ∈ schemaScopes resolver qualifyArgs package schema, ¬ scope.Distinct) ∧
    (∀ fragments, render resolver qualifyArgs package schema = .ok fragments →
      ∀ scope ∈ schemaScopes resolver qualifyArgs package schema, scope.Distinct) ∧
    ∀ c, render resolver qualifyArgs package schema = .error (.collision c) →
      c.first ≠ c.second ∧
      ∃ scope ∈ schemaScopes resolver qualifyArgs package schema, c.scope = scope.label ∧
        (c.identifier, c.first) ∈ scope.names ∧ (c.identifier, c.second) ∈ scope.names := by
  have hdistinct : ∀ fragments, render resolver qualifyArgs package schema = .ok fragments →
      ∀ scope ∈ schemaScopes resolver qualifyArgs package schema, scope.Distinct := by
    intro fragments h scope hscope
    exact (Scope.agrees_iff_distinct (labels_nodup hregular hscope)).mp (agrees_of_render h hscope)
  refine ⟨⟨?_, ?_⟩, hdistinct, ?_⟩
  · rintro ⟨c, h⟩
    obtain ⟨scope, hscope, -, hne, hfirst, hsecond⟩ := collision_of_render h
    refine ⟨scope, hscope, fun hdist => hne ?_⟩
    exact (Scope.agrees_iff_distinct (labels_nodup hregular hscope)).mpr hdist
      _ hfirst _ hsecond rfl
  · rintro ⟨scope, hscope, hnot⟩
    refine collision_of_not_rendered hsound ?_
    rintro ⟨fragments, h⟩
    exact hnot (hdistinct fragments h scope hscope)
  · intro c h
    obtain ⟨scope, hscope, hlabel, hne, hmem⟩ := collision_of_render h
    exact ⟨hne, scope, hscope, hlabel, hmem⟩

end Schemas

/-- A query type whose field `search` takes an argument, beside an input object with the name of that
field's holder. -/
def searchSchema : Schema :=
  { (default : Schema) with
    queryType := some ⟨some "Query"⟩
    types := some [
      some { (default : FullType) with
        kind := .object
        name? := some "Query"
        fields := some [some { (default : FieldValue) with
          name := "search"
          type := .wrap .list none (.plain .scalar (some "String"))
          args := some [some { (default : InputValue) with
            name := "term"
            type := .wrap .nonNull none (.plain .scalar (some "String")) }] }] },
      some { (default : FullType) with
        kind := .inputObject
        name? := some "SearchArgs"
        inputFields := some [some { (default : InputValue) with
          name := "first"
          type := .plain .scalar (some "Int") }] }] }

/-- The holder of a field and an input object claim one identifier, though no two names of the schema
are equal. -/
theorem searchSchema_collides :
    searchSchema.Regular ∧ searchSchema.Sound ⟨Resolver.builtin⟩ ∧
      ∃ c, render ⟨Resolver.builtin⟩ false "gen" searchSchema = .error (.collision c) := by
  have hregular : searchSchema.Regular := by decide +kernel
  have hsound : searchSchema.Sound ⟨Resolver.builtin⟩ := by decide +kernel
  refine ⟨hregular, hsound, (render_collides_iff hregular hsound).1.mpr ?_⟩
  exact ⟨_, List.mem_cons_self, by decide +kernel⟩

end Bindery
