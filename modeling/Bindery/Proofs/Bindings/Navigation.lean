import Bindery.Proofs.Bindings.TypeNames
import Bindery.Proofs.Query.Chain

/-!
# Navigating through the bindings

A program uses the bindings by calling a constructor and then one accessor after the other, each on what
the call before returned. Every call adds a selection to the forest of all selections. The types of the
package let through only those chains of calls that are ways through the schema, and what a chain selects
are the names of the fields on that way.

## Main definitions

- `Handle` — a value of the package that stands for a selection
- `Begins`, `Calls` — the call of a constructor and of an accessor
- `CallChain` — one call after the other, each on the value of the one before
- `TypeRef.object?` — the object type of a reference that is no list
- `Route` — a way through the schema from an object type

## Main results

- `Begins.root` — a constructor returns a handle of the root type of its operation
- `Calls.follows` — an accessor follows a field of the object that its receiver stands for
- `CallChain.route` — a chain of calls follows a way through the schema
- `chain_selects_route` — what a chain of calls selects is the way that its methods name
-/

namespace Bindery

/-! ### Calls -/

/-- A value of the generated package: a handle of an object or a leaf. -/
structure Handle (κ : Type) where
  /-- The type of the value. -/
  type : Result
  /-- The connection and the process. -/
  session : κ
  /-- The number of the selection. -/
  selection : Nat

variable {κ : Type}

/-- The call of a constructor: it begins its operation and returns a handle with the session that it is
given. -/
inductive Begins (decls : List Declaration) (session : κ) (op : Operation) (f : Forest) :
    Forest → Handle κ → Prop
  | start {doc : Comment} {ident result : String} (decl : .start doc ident result op ∈ decls) :
      Begins decls session op f (f.root (Octets.ofString op.keyword)).1
        ⟨.object result, session, (f.root (Octets.ofString op.keyword)).2⟩

/-- The call of an accessor by its name: it selects its field below the selection of the receiver, gives
it the arguments if there is a holder for them, and returns a value with the session of the receiver. -/
inductive Calls (decls : List Declaration) (f : Forest) :
    Handle κ → String → Forest → Handle κ → Prop
  | plain {doc : Comment} {receiver method field : String} {result : Result} {session : κ} {i : Nat}
      (decl : .accessor doc receiver method field none result ∈ decls) :
      Calls decls f ⟨.object receiver, session, i⟩ method (f.select i (Octets.ofString field)).1
        ⟨result, session, (f.select i (Octets.ofString field)).2⟩
  | withArguments {doc : Comment} {receiver method field holder : String} {result : Result}
      {session : κ} {i : Nat} {f' : Forest} {args : Option Value}
      (decl : .accessor doc receiver method field (some holder) result ∈ decls)
      (given : (f.select i (Octets.ofString field)).1.withArguments
        (f.select i (Octets.ofString field)).2 args = some f') :
      Calls decls f ⟨.object receiver, session, i⟩ method f'
        ⟨result, session, (f.select i (Octets.ofString field)).2⟩

/-- A chain of calls: each accessor is called on what the one before returned. -/
inductive CallChain (decls : List Declaration) :
    Forest → Handle κ → List String → Forest → Handle κ → Prop
  | nil {f : Forest} {h : Handle κ} : CallChain decls f h [] f h
  | cons {f f₁ f₂ : Forest} {h h₁ h₂ : Handle κ} {method : String} {methods : List String}
      (call : Calls decls f h method f₁ h₁) (rest : CallChain decls f₁ h₁ methods f₂ h₂) :
      CallChain decls f h (method :: methods) f₂ h₂

/-- A call is a call of an accessor of its receiver. It adds the field to the names of the receiver's
selection and keeps the session. -/
theorem Calls.selects {decls : List Declaration} {f f' : Forest} {h h' : Handle κ} {method : String}
    (hcall : Calls decls f h method f' h') (hwithin : h.selection < f.selections.length) :
    ∃ doc receiver field holder, .accessor doc receiver method field holder h'.type ∈ decls ∧
      h.type = .object receiver ∧ h'.session = h.session ∧
      h'.selection < f'.selections.length ∧
      f'.names h'.selection = f.names h.selection ++ [Octets.ofString field] := by
  cases hcall with
  | plain decl =>
    refine ⟨_, _, _, _, decl, rfl, rfl, ?_, Forest.names_select f hwithin _⟩
    simp [Forest.select, Forest.add]
  | withArguments decl given =>
    obtain ⟨hlength, hnames⟩ := Forest.names_of_withArguments given
    refine ⟨_, _, _, _, decl, rfl, rfl, ?_, ?_⟩
    · rw [hlength]
      simp [Forest.select, Forest.add]
    · rw [hnames, Forest.names_select f hwithin]

/-! ### Ways through the schema -/

/-- The name of the object type to which a reference refers, if it refers to an object and not to a list
of objects. -/
def TypeRef.object? : TypeRef → Option String
  | plain .object name => name
  | wrap .nonNull _ inner => inner.object?
  | _ => none

/-- A way through the schema: a field of an object, and a way on from the object type of the field. -/
inductive Route (schema : Schema) : FullType → List FieldValue → Prop
  | last {t : FullType} {f : FieldValue} (own : t ∈ schema.ownTypes) (kind : t.kind = .object)
      (field : f ∈ t.fields.values) : Route schema t [f]
  | cons {t u : FullType} {f : FieldValue} {rest : List FieldValue} (own : t ∈ schema.ownTypes)
      (kind : t.kind = .object) (field : f ∈ t.fields.values) (next : f.type.object? = some u.name)
      (way : Route schema u rest) : Route schema t (f :: rest)

theorem Route.own {schema : Schema} {t : FullType} {fields : List FieldValue}
    (h : Route schema t fields) : t ∈ schema.ownTypes ∧ t.kind = .object := by
  cases h with
  | last own kind | cons own kind => exact ⟨own, kind⟩

theorem Route.ne_nil {schema : Schema} {t : FullType} {fields : List FieldValue}
    (h : Route schema t fields) : fields ≠ [] := by
  cases h <;> simp

/-- A reference that resolves to an object refers to it directly. -/
theorem Resolver.Resolves.object {r : Resolver} {ref : TypeRef} {e : TypeExpr}
    (h : r.Resolves ref e) {package ident : String} {nullable : Bool}
    (he : e = .named .object package ident nullable) :
    ∃ name, ref.object? = some name ∧ ref.named? = some (.plain .object (some name)) ∧
      ident = Naming.identifier name := by
  induction h generalizing nullable with
  | @named kind name =>
    rcases r.leaf_named kind name with ⟨-, _, _, -, hbound⟩ | ⟨-, hown⟩
    · rw [he] at hbound
      cases hbound
    · rw [he] at hown
      simp only [TypeExpr.leaf, Prod.mk.injEq] at hown
      obtain ⟨rfl, -, rfl⟩ := hown
      exact ⟨name, rfl, rfl, rfl⟩
  | @nonNull _ _ e _ _ ih =>
    cases e with
    | named kind' package' ident' nullable' =>
      simp only [TypeExpr.withNullable, TypeExpr.named.injEq] at he
      obtain ⟨rfl, rfl, rfl, -⟩ := he
      obtain ⟨name, hobject, hnamed, hident⟩ := ih rfl
      exact ⟨name, hobject, hnamed, hident⟩
    | list => cases he
  | list => cases he

section Render

variable {resolver : Resolver} {qualifyArgs : Bool} {package : String} {schema : Schema}
  {fragments : List Fragment}

/-! ### Objects and their fields -/

/-- Two fields of an object of a rendered schema with one method are one field. -/
theorem field_eq_of_identifier_eq (h : render resolver qualifyArgs package schema = .ok fragments)
    {t : FullType} (ht : t ∈ schema.ownTypes) (hkind : t.kind = .object)
    (hfields : (t.fields.values.map (·.name)).Nodup) {f g : FieldValue} (hf : f ∈ t.fields.values)
    (hg : g ∈ t.fields.values) (heq : Naming.identifier f.name = Naming.identifier g.name) :
    f = g := by
  have hscope : t.methodScope ∈ schemaScopes resolver qualifyArgs package schema := by
    refine List.mem_cons_of_mem _ (List.mem_flatMap.mpr ⟨t, ht, ?_⟩)
    simp [Settings.memberScopes, hkind]
  have hname : f.name = g.name :=
    agrees_of_render h hscope (_, _) (List.mem_map_of_mem hf) (_, _) (List.mem_map_of_mem hg) heq
  exact List.inj_on_of_nodup_map hfields hf hg hname

/-- A declaration of a rendered schema binds one of its types. -/
theorem exists_binds (h : render resolver qualifyArgs package schema = .ok fragments)
    {d : Declaration} (hd : d ∈ fragments.flatMap (·.decls)) :
    ∃ t ∈ schema.ownTypes, Binds (settingsOf resolver qualifyArgs schema) t d := by
  obtain ⟨fragment, hfragment, hdecl⟩ := List.mem_flatMap.mp hd
  obtain ⟨t, ht, -, hrenders⟩ := exists_of_mem_right (fragments_of_render h) hfragment
  exact ⟨t, ht, hrenders.binds hdecl⟩

/-- The operations at a type are those whose root it is. -/
theorem root_of_mem_operations {op : Operation} {name : String}
    (h : op ∈ (settingsOf resolver qualifyArgs schema).operations name) :
    (schema.root op).bind (·.name?) = some name := by
  simp only [Settings.operations, settingsOf, List.mem_map, List.mem_filter, beq_iff_eq] at h
  obtain ⟨⟨op', name'⟩, ⟨hmem, rfl⟩, rfl⟩ := h
  obtain ⟨op, -, hop⟩ := List.mem_filterMap.mp hmem
  split at hop
  · cases hop
  · cases hop
  · next name hroot hname =>
    simp only [Option.some.injEq, Prod.mk.injEq] at hop
    obtain ⟨rfl, rfl⟩ := hop
    exact hname

/-- The accessor of an object is that of one of its fields, and where it returns a handle, that is the
handle of the object type of the field. -/
theorem field_of_accessor (h : render resolver qualifyArgs package schema = .ok fragments)
    (hdistinct : (schema.ownTypes.map (·.name)).Nodup) {t : FullType} (ht : t ∈ schema.ownTypes)
    (hkind : t.kind = .object) (hlisted : ∀ f ∈ t.fields.values, schema.Lists f.type)
    {doc : Comment} {method field : String} {holder : Option String} {result : Result}
    (hdecl : .accessor doc (Naming.identifier t.name) method field holder result ∈
      fragments.flatMap (·.decls)) :
    ∃ f ∈ t.fields.values, f.name = field ∧ Naming.identifier f.name = method ∧
      ∀ ident, result = .object ident →
        ∃ u ∈ schema.ownTypes, u.kind = .object ∧ f.type.object? = some u.name ∧
          ident = Naming.identifier u.name := by
  obtain ⟨u, hu, hbinds⟩ := exists_binds h hdecl
  cases hbinds with
  | @accessor f _ hukind hf haccessor =>
    obtain ⟨type, htype, heq⟩ := haccessor
    simp only [Declaration.accessor.injEq] at heq
    obtain ⟨-, hreceiver, rfl, rfl, -, rfl⟩ := heq
    obtain rfl := eq_of_identifier_eq h hdistinct ht hu (by simp [hkind]) (by simp [hukind]) hreceiver
    refine ⟨f, hf, rfl, rfl, ?_⟩
    intro ident hresult
    cases type with
    | list => cases hresult
    | named kind package name nullable =>
      cases kind with
      | object =>
        obtain rfl := Result.object.inj hresult
        obtain ⟨n, hobject, hnamed, hident⟩ := (Resolver.resolves_of_resolve htype).object rfl
        obtain ⟨v, hv, hvname, hvkind⟩ := hlisted f hf _ hnamed
        obtain rfl : v.name = n := hvname
        exact ⟨v, hv, hvkind, hobject, hident⟩
      | scalar | interface | union | enum | inputObject | list | nonNull | unknown => cases hresult
  | holder _ _ hholder =>
    obtain ⟨members, -, heq⟩ := hholder
    cases heq

/-! ### Chains of calls -/

/-- A handle of an object type of the schema, whose selection is in the forest. -/
structure Handle.Stands (schema : Schema) (f : Forest) (h : Handle κ) (t : FullType) : Prop where
  /-- The type has bindings. -/
  own : t ∈ schema.ownTypes
  /-- It is an object. -/
  kind : t.kind = .object
  /-- The handle is one of the type. -/
  type : h.type = .object (Naming.identifier t.name)
  /-- The selection of the handle is there. -/
  within : h.selection < f.selections.length

/-- A constructor returns a handle of the root type of its operation. -/
theorem Begins.root (h : render resolver qualifyArgs package schema = .ok fragments) {session : κ}
    {op : Operation} {f f' : Forest} {start : Handle κ}
    (hstart : Begins (fragments.flatMap (·.decls)) session op f f' start) :
    ∃ t, (schema.root op).bind (·.name?) = some t.name ∧ start.Stands schema f' t ∧
      start.session = session ∧ f'.names start.selection = [Octets.ofString op.keyword] := by
  cases hstart with
  | start hdecl =>
    obtain ⟨t, ht, hbinds⟩ := exists_binds h hdecl
    generalize hd : Declaration.start _ _ _ _ = d at hbinds
    cases hbinds with
    | @start start hkind hmem =>
      simp only [startDeclaration, Declaration.start.injEq] at hd
      obtain ⟨-, -, rfl, rfl⟩ := hd
      have hop : start.2 ∈ (settingsOf resolver qualifyArgs schema).operations t.name := by
        rw [← startIdents_map_snd (Naming.identifier t.name) true
          ((settingsOf resolver qualifyArgs schema).operations t.name)]
        exact List.mem_map_of_mem hmem
      refine ⟨t, root_of_mem_operations hop, ⟨ht, hkind, rfl, ?_⟩, rfl, Forest.names_root f _⟩
      simp [Forest.root, Forest.add]
    | holder _ _ hholder =>
      obtain ⟨members, -, rfl⟩ := hholder
      cases hd
    | accessor _ _ haccessor =>
      obtain ⟨type, -, rfl⟩ := haccessor
      cases hd
    | handle | inputObject | newtype | constants | literal => cases hd

/-- A call on a handle of an object follows one of its fields. Where it returns a handle again, that
stands for the object type of the field. -/
theorem Calls.follows (h : render resolver qualifyArgs package schema = .ok fragments)
    (hdistinct : (schema.ownTypes.map (·.name)).Nodup) {t : FullType}
    (hlisted : ∀ f ∈ t.fields.values, schema.Lists f.type) {f f' : Forest} {x x' : Handle κ}
    {method : String} (hcall : Calls (fragments.flatMap (·.decls)) f x method f' x')
    (hstands : x.Stands schema f t) :
    ∃ field ∈ t.fields.values, Naming.identifier field.name = method ∧ x'.session = x.session ∧
      f'.names x'.selection = f.names x.selection ++ [Octets.ofString field.name] ∧
      ∀ ident, x'.type = .object ident →
        ∃ u, field.type.object? = some u.name ∧ x'.Stands schema f' u := by
  obtain ⟨doc, receiver, name, holder, hdecl, hreceiver, hsession, hwithin, hnames⟩ :=
    hcall.selects hstands.within
  obtain rfl : Naming.identifier t.name = receiver :=
    Result.object.inj (hstands.type.symm.trans hreceiver)
  obtain ⟨field, hfield, rfl, hmethod, hnext⟩ :=
    field_of_accessor h hdistinct hstands.own hstands.kind hlisted hdecl
  refine ⟨field, hfield, hmethod, hsession, hnames, ?_⟩
  intro ident htype
  obtain ⟨u, hu, hukind, hobject, rfl⟩ := hnext ident htype
  exact ⟨u, hobject, hu, hukind, htype, hwithin⟩

/-- A chain of calls that begins at a handle of an object follows a way through the schema from that
object. -/
theorem CallChain.route (h : render resolver qualifyArgs package schema = .ok fragments)
    (hdistinct : (schema.ownTypes.map (·.name)).Nodup)
    (hlisted : ∀ t ∈ schema.ownTypes, t.kind = .object →
      ∀ f ∈ t.fields.values, schema.Lists f.type)
    {f f' : Forest} {x x' : Handle κ} {methods : List String}
    (hchain : CallChain (fragments.flatMap (·.decls)) f x methods f' x') (hne : methods ≠ [])
    {t : FullType} (hstands : x.Stands schema f t) :
    ∃ fields, Route schema t fields ∧ fields.map (Naming.identifier ·.name) = methods ∧
      x'.session = x.session ∧
      f'.names x'.selection = f.names x.selection ++ fields.map (Octets.ofString ·.name) := by
  induction hchain generalizing t with
  | nil => exact absurd rfl hne
  | @cons f f₁ f₂ x x₁ x₂ method methods hcall hrest ih =>
    obtain ⟨field, hfield, rfl, hsession, hnames, hnext⟩ :=
      hcall.follows h hdistinct (hlisted t hstands.own hstands.kind) hstands
    by_cases hlast : methods = []
    · subst hlast
      cases hrest
      exact ⟨[field], .last hstands.own hstands.kind hfield, rfl, hsession, hnames⟩
    · -- a further call needs a handle, which stands for the object type of the field
      obtain ⟨ident, htype⟩ : ∃ ident, x₁.type = .object ident := by
        cases hrest with
        | nil => exact absurd rfl hlast
        | cons hcall' _ => cases hcall' <;> exact ⟨_, rfl⟩
      obtain ⟨u, hobject, hu⟩ := hnext ident htype
      obtain ⟨fields, hroute, hmethods, hsession', hnames'⟩ := ih hlast hu
      refine ⟨field :: fields, .cons hstands.own hstands.kind hfield hobject hroute, ?_, ?_, ?_⟩
      · rw [List.map_cons, hmethods]
      · rw [hsession', hsession]
      · rw [hnames', hnames, List.append_assoc, List.map_cons, List.singleton_append]

/-- The methods of a way determine it. -/
theorem Route.eq_of_methods (h : render resolver qualifyArgs package schema = .ok fragments)
    (hdistinct : (schema.ownTypes.map (·.name)).Nodup)
    (hfields : ∀ t ∈ schema.ownTypes, t.kind = .object → (t.fields.values.map (·.name)).Nodup)
    {t : FullType} {fs gs : List FieldValue} (hf : Route schema t fs) (hg : Route schema t gs)
    (heq : fs.map (Naming.identifier ·.name) = gs.map (Naming.identifier ·.name)) : fs = gs := by
  induction hf generalizing gs with
  | @last t f ht hkind hf =>
    cases hg with
    | last _ _ hg =>
      simp only [List.map_cons, List.map_nil, List.cons.injEq, and_true] at heq
      rw [field_eq_of_identifier_eq h ht hkind (hfields t ht hkind) hf hg heq]
    | cons _ _ _ _ hway => simp [hway.ne_nil] at heq
  | @cons t u f fs ht hkind hf hnext hway ih =>
    cases hg with
    | last => simp [hway.ne_nil] at heq
    | @cons _ v g gs _ _ hg hnext' hway' =>
      simp only [List.map_cons, List.cons.injEq] at heq
      obtain rfl := field_eq_of_identifier_eq h ht hkind (hfields t ht hkind) hf hg heq.1
      have hname : u.name = v.name := Option.some.inj (hnext.symm.trans hnext')
      obtain rfl := List.inj_on_of_nodup_map hdistinct hway.own.1 hway'.own.1 hname
      rw [ih hway' heq.2]

/-- Every query that is built through the bindings is a way through the schema. A chain of calls that
begins at a constructor follows fields of the schema from the root type of the operation on, each a field
of the object type of the one before; the selection that it ends with has that operation and the names of
these fields, in the session of the constructor, and the methods of the chain name no other way. -/
theorem chain_selects_route (hdistinct : (schema.ownTypes.map (·.name)).Nodup)
    (hfields : ∀ t ∈ schema.ownTypes, t.kind = .object → (t.fields.values.map (·.name)).Nodup)
    (hlisted : ∀ t ∈ schema.ownTypes, t.kind = .object →
      ∀ f ∈ t.fields.values, schema.Lists f.type)
    (h : render resolver qualifyArgs package schema = .ok fragments) {session : κ} {op : Operation}
    {before f f' : Forest} {start result : Handle κ} {methods : List String}
    (hstart : Begins (fragments.flatMap (·.decls)) session op before f start)
    (hchain : CallChain (fragments.flatMap (·.decls)) f start methods f' result)
    (hne : methods ≠ []) :
    ∃ t fields, (schema.root op).bind (·.name?) = some t.name ∧ Route schema t fields ∧
      fields.map (Naming.identifier ·.name) = methods ∧
      f'.operation result.selection = Octets.ofString op.keyword ∧
      f'.path result.selection = fields.map (Octets.ofString ·.name) ∧
      result.session = session ∧
      ∀ t' fields', (schema.root op).bind (·.name?) = some t'.name → Route schema t' fields' →
        fields'.map (Naming.identifier ·.name) = methods → t' = t ∧ fields' = fields := by
  obtain ⟨t, hroot, hstands, hsession, hnames⟩ := hstart.root h
  obtain ⟨fields, hroute, hmethods, hsession', hnames'⟩ :=
    hchain.route h hdistinct hlisted hne hstands
  rw [hnames] at hnames'
  refine ⟨t, fields, hroot, hroute, hmethods, ?_, ?_, hsession'.trans hsession, ?_⟩
  · rw [Forest.operation_eq, hnames']
    rfl
  · rw [Forest.path_eq, hnames']
    rfl
  · intro t' fields' hroot' hroute' hmethods'
    have hname : t'.name = t.name := Option.some.inj (hroot'.symm.trans hroot)
    obtain rfl := List.inj_on_of_nodup_map hdistinct hroute'.own.1 hroute.own.1 hname
    exact ⟨rfl, hroute'.eq_of_methods h hdistinct hfields hroute (hmethods'.trans hmethods.symm)⟩

end Render

/-- The arguments of the field `item` of the catalog: a state. -/
def soldItemArgs : Value :=
  .pointer (.record [(⟨"State", "state"⟩, .text .enum (Octets.ofString "SOLD"))])

theorem soldItemArgs_isOk : (soldItemArgs.arguments false).isOk = true := by
  simp only [soldItemArgs, Value.arguments, Value.writeMembers]
  split <;> rfl

/-- A way through the catalog that passes one type twice: an item in a given state, its parent and the
state of that. -/
theorem catalog_chain_selects_route :
    ∃ fragments, render catalogResolver true "gen" catalogSchema = .ok fragments ∧
      ∃ f f' start result,
        Begins (fragments.flatMap (·.decls)) () .query Forest.empty f start ∧
        CallChain (fragments.flatMap (·.decls)) f start ["Item", "Parent", "State"] f' result ∧
        ∃ t fields, t.name = "Query" ∧ Route catalogSchema t fields ∧
          fields.map (Naming.identifier ·.name) = ["Item", "Parent", "State"] ∧
          f'.operation result.selection = Octets.ofString "query" ∧
          f'.path result.selection = fields.map (Octets.ofString ·.name) := by
  have hdecls : (render catalogResolver true "gen" catalogSchema).toOption.any (fun fragments =>
      [.start (Comment.ofBlocks "NewQuery returns the query root with an empty selection." [])
          "NewQuery" "Query" .query,
        .accessor (Comment.ofBlocks "" [""]) "Query" "Item" "item" (some "QueryItemArgs")
          (.object "Item"),
        .accessor (Comment.ofBlocks "" [""]) "Item" "Parent" "parent" none (.object "Item"),
        .accessor (Comment.ofBlocks "" [""]) "Item" "State" "state" none
          (.leaf (.named .enum "" "State" false))].all
        fun d => (fragments.flatMap (·.decls)).contains d) = true := by
    decide +kernel
  match hrender : render catalogResolver true "gen" catalogSchema with
  | .error e => simp [hrender, Except.toOption] at hdecls
  | .ok fragments =>
    simp only [hrender, Except.toOption, Option.any_some, List.all_cons, List.all_nil, Bool.and_true,
      Bool.and_eq_true, List.contains_iff_mem] at hdecls
    obtain ⟨hquery, hitem, hparent, hstate⟩ := hdecls
    have hstart : Begins (fragments.flatMap (·.decls)) () .query Forest.empty _ _ := .start hquery
    obtain ⟨f₁, hgiven⟩ := Forest.exists_withArguments soldItemArgs_isOk
      ((Forest.empty.root (Octets.ofString "query")).1.select 0 (Octets.ofString "item")).1 1
    have hchain : CallChain (fragments.flatMap (·.decls))
        (Forest.empty.root (Octets.ofString "query")).1 ⟨.object "Query", (), 0⟩
        ["Item", "Parent", "State"] _ _ :=
      .cons (.withArguments hitem hgiven) (.cons (.plain hparent) (.cons (.plain hstate) .nil))
    obtain ⟨t, fields, hroot, hroute, hmethods, hoperation, hpath, -⟩ :=
      chain_selects_route (by decide +kernel) (by decide +kernel) (by decide +kernel) hrender hstart
        hchain (by simp)
    exact ⟨fragments, rfl, _, _, _, _, hstart, hchain, t, fields, (Option.some.inj hroot).symm,
      hroute, hmethods, hoperation, hpath⟩

end Bindery
