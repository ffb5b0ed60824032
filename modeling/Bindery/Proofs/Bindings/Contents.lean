import Bindery.Proofs.Bindings.Relevance

/-!
# The contents of the fragments

A schema that is rendered is rendered completely: the fragments follow the list of types, and what a fragment
holds follows the lists of its type. The declarations of an object are gathered in three lists while its
fields are read, and a type may root up to three operations, so the order in which all of them stand is said
here in one place, as an outline that can be read off the schema.

## Main definitions

- `Outline`, `Declaration.outline` — what a declaration holds, without comments and types
- `Schema.operationsAt` — the operations whose root a type is
- `FullType.outline` — what the fragment of a type holds
- `FullType.Complete` — no entry of the lists that a type owns is empty

## Main results

- `startIdents_nodup` — the constructors of a type have different names
- `Renders.outline` — what the declarations of a type hold
- `fragments_outlined` — what the fragments of a schema hold
-/

namespace Bindery

/-! ### Outlines -/

/-- What a declaration holds, without its comments and without the types of members and results. -/
inductive Outline where
  /-- A struct, with the identifiers of its members and the schema names that they carry. -/
  | inputs (ident : String) (members : List (String × String))
  /-- The handle of an object. -/
  | handle (ident : String)
  /-- A constructor of a handle, whose selection begins with the keyword. -/
  | start (ident handle keyword : String)
  /-- A method that selects the field, with the holder of its arguments. -/
  | accessor (receiver method field : String) (holder : Option String)
  /-- A type of strings. -/
  | newtype (ident : String)
  /-- Constants of a type, with their identifiers and their texts. -/
  | constants (type : String) (values : List (String × String))
  /-- The method that writes an enum value. -/
  | literal (type : String)
  deriving DecidableEq, Repr

/-- What a declaration holds. -/
def Declaration.outline : Declaration → Outline
  | inputs _ ident members => .inputs ident (members.map fun m => (m.ident, m.name))
  | handle _ ident => .handle ident
  | start _ ident result operation => .start ident result operation.keyword
  | accessor _ receiver method field holder _ => .accessor receiver method field holder
  | newtype _ ident => .newtype ident
  | constants type values => .constants type (values.map fun c => (c.ident, c.value))
  | literal type => .literal type

/-- The constructor that a declaration declares. -/
def Declaration.constructor? : Declaration → Option String
  | start _ ident _ _ => some ident
  | _ => none

/-- The operations whose root is the type with the name, in the order query, mutation, subscription. -/
def Schema.operationsAt (schema : Schema) (name : String) : List Operation :=
  [Operation.query, .mutation, .subscription].filter fun op =>
    (schema.root op).bind (·.name?) == some name

/-- The members of a struct for arguments or input fields. -/
def inputMembers (inputs : List InputValue) : List (String × String) :=
  inputs.map fun i => (Naming.identifier i.name, i.name)

/-- What the fragment of a type holds. The holders of an object are named by the settings. -/
def FullType.outline (o : Options) (schema : Schema) (s : Settings) (t : FullType) : List Outline :=
  let ident := Naming.identifier t.name
  match t.kind with
  | .object =>
    t.argumentFields.map (fun f =>
        .inputs (s.holderName t.name f.name) (inputMembers f.args.values)) ++
      .handle ident ::
      (startIdents ident true (schema.operationsAt t.name)).map (fun start =>
        .start start.1 ident start.2.keyword) ++
      t.fields.values.map fun f =>
        .accessor ident (Naming.identifier f.name) f.name (s.holder? t.name f)
  | .inputObject => [.inputs ident (inputMembers t.inputFields.values)]
  | .enum =>
    .newtype ident ::
      (if t.enumValues.values.isEmpty then []
        else [.constants ident (t.enumValues.values.map fun v =>
          (Naming.constantIdentifier t.name v.name, v.name))]) ++
      [.literal ident]
  | .scalar => if o.binds t.name then [] else [.newtype ident]
  | _ => []

/-- No entry of the lists that a type owns by its kind is empty. -/
def FullType.Complete (t : FullType) : Prop :=
  match t.kind with
  | .object => none ∉ t.fields.toList ∧ ∀ f ∈ t.fields.values, none ∉ f.args.toList
  | .inputObject => none ∉ t.inputFields.toList
  | .enum => none ∉ t.enumValues.toList
  | _ => True

theorem AllEntries.none_notMem {α : Type} {P : α → Prop} {entries : List (Option α)}
    (h : AllEntries P entries) : none ∉ entries := by
  intro hnone
  obtain ⟨a, ha, -⟩ := h none hnone
  cases ha

/-- A sound type is complete. -/
theorem FullType.Sound.complete {r : Resolver} {t : FullType} (h : t.Sound r) : t.Complete := by
  unfold FullType.Sound at h
  unfold FullType.Complete
  cases hkind : t.kind with
  | object =>
    rw [hkind] at h
    exact ⟨h.none_notMem, fun f hf => (h.of_mem_values hf).arguments.none_notMem⟩
  | inputObject | enum =>
    rw [hkind] at h
    exact h.none_notMem
  | scalar | interface | union | list | nonNull | unknown => trivial

/-! ### Constructors -/

theorem operations_eq_operationsAt (resolver : Resolver) (qualifyArgs : Bool) (schema : Schema)
    {name : String} (hname : name ≠ "") :
    (settingsOf resolver qualifyArgs schema).operations name = schema.operationsAt name := by
  unfold Settings.operations Schema.operationsAt settingsOf Schema.roots
  -- for each operation: its root is missing, has an empty name, or has a name to compare with
  induction [Operation.query, .mutation, .subscription] with
  | nil => rfl
  | cons op rest ih =>
    rw [List.filterMap_cons, List.filter_cons, ← ih]
    split
    · next hnone =>
      have hother : ((schema.root op).bind (·.name?) == some name) = false := by
        split at hnone
        · next hroot => simp [hroot]
        · next hroot => simpa [hroot] using hname.symm
        · cases hnone
      simp [hother]
    · next start hstart =>
      split at hstart
      · cases hstart
      · cases hstart
      · next root _ hroot =>
        obtain rfl := Option.some.inj hstart
        by_cases hsame : root = name <;> simp [hroot, hsame]

theorem startIdents_map_fst (ident : String) (ops : List Operation) :
    (startIdents ident false ops).map Prod.fst =
      ops.map fun op => "New" ++ ident ++ Naming.identifier op.keyword := by
  induction ops with
  | nil => rfl
  | cons op rest ih => simp [startIdents, ih]

/-- The identifiers of the keywords of operations are told apart by their lengths. -/
theorem length_identifier_keyword (op : Operation) :
    (Naming.identifier op.keyword).length = op.keyword.length := by
  cases op <;> decide +kernel

/-- The constructors of a type have different names. -/
theorem startIdents_nodup (ident : String) {ops : List Operation} (h : ops.Nodup) :
    ((startIdents ident true ops).map Prod.fst).Nodup := by
  have hkeyword : ∀ op op' : Operation, op.keyword.length = op'.keyword.length → op = op' := by
    intro op op'
    cases op <;> cases op' <;> decide
  cases ops with
  | nil => exact List.nodup_nil
  | cons op rest =>
    have hnames : (startIdents ident true (op :: rest)).map Prod.fst =
        ("New" ++ ident) :: rest.map fun op => "New" ++ ident ++ Naming.identifier op.keyword := by
      rw [startIdents, List.map_cons, startIdents_map_fst]
      rfl
    rw [hnames, List.nodup_cons]
    constructor
    · -- the plain name is shorter than those that end with a keyword
      intro hmem
      obtain ⟨op', -, heq⟩ := List.mem_map.mp hmem
      have hlength := congrArg String.length heq
      rw [String.length_append, length_identifier_keyword] at hlength
      cases op' <;> simp [Operation.keyword] at hlength
    · refine (List.nodup_cons.mp h).2.map fun op op' heq => hkeyword op op' ?_
      rw [← length_identifier_keyword, ← length_identifier_keyword, String.append_right_inj _ |>.mp heq]

/-! ### Declarations -/

/-- Related lists agree in what related elements agree in. -/
theorem map_eq_map_of_forall₂ {α β γ : Type} {R : α → β → Prop} {f : α → γ} {g : β → γ} {as : List α}
    {bs : List β} (h : List.Forall₂ R as bs) (hR : ∀ a ∈ as, ∀ b, R a b → g b = f a) :
    bs.map g = as.map f := by
  induction h with
  | nil => rfl
  | @cons a b as bs hab _ ih =>
    have hrest := ih fun a' ha' => hR a' (List.mem_cons_of_mem a ha')
    rw [List.map_cons, List.map_cons, hR a List.mem_cons_self b hab, hrest]

/-- The members of a struct are those of its arguments or input fields, in their order. -/
theorem members_eq_inputMembers {r : Resolver} {inputs : List InputValue} {members : List Member}
    (h : List.Forall₂ (IsMember r) inputs members) :
    members.map (fun m => (m.ident, m.name)) = inputMembers inputs := by
  refine map_eq_map_of_forall₂ h ?_
  rintro input - m ⟨type, -, rfl⟩
  rfl

/-- What the declarations of a type hold. -/
theorem Renders.outline {o : Options} {schema : Schema} {s : Settings} {t : FullType}
    {decls : List Declaration} (h : Renders s t decls)
    (hops : s.operations t.name = schema.operationsAt t.name)
    (hbound : s.resolver.isBound t.name = o.binds t.name) :
    decls.map Declaration.outline = t.outline o schema s := by
  unfold FullType.outline
  cases h with
  | @object holders accessors hkind hholders haccessors =>
    have hholderOutlines : holders.map Declaration.outline = t.argumentFields.map fun f =>
        .inputs (s.holderName t.name f.name) (inputMembers f.args.values) := by
      refine map_eq_map_of_forall₂ hholders ?_
      rintro f - d ⟨members, hmembers, rfl⟩
      exact congrArg (Outline.inputs _) (members_eq_inputMembers hmembers)
    have haccessorOutlines : accessors.map Declaration.outline = t.fields.values.map fun f =>
        .accessor (Naming.identifier t.name) (Naming.identifier f.name) f.name
          (s.holder? t.name f) := by
      refine map_eq_map_of_forall₂ haccessors ?_
      rintro f - d ⟨type, -, rfl⟩
      rfl
    simp only [hkind, List.map_append, List.map_cons, List.map_map, hholderOutlines,
      haccessorOutlines, ← hops]
    rfl
  | inputObject hkind hmembers =>
    simp only [hkind, ← members_eq_inputMembers hmembers]
    rfl
  | enum hkind =>
    simp only [hkind]
    split
    · rfl
    · simp only [List.map_append, List.map_cons, Declaration.outline, List.map_map]
      rfl
  | boundScalar hkind hisBound =>
    simp [hkind, ← hbound, hisBound]
  | scalar hkind hunbound =>
    simp [hkind, ← hbound, hunbound, Declaration.outline]

/-- The constructors of an object are those of the operations whose root it is, and no other type has any. -/
theorem Renders.constructors {s : Settings} {t : FullType} {decls : List Declaration}
    (h : Renders s t decls) :
    decls.filterMap Declaration.constructor? =
      if t.kind = .object then
        (startIdents (Naming.identifier t.name) true (s.operations t.name)).map Prod.fst
      else [] := by
  cases h with
  | @object holders accessors hkind hholders haccessors =>
    have hnoHolder : holders.filterMap Declaration.constructor? = [] := by
      refine List.filterMap_eq_nil_iff.mpr fun d hd => ?_
      obtain ⟨f, -, members, -, rfl⟩ := exists_of_mem_right hholders hd
      rfl
    have hnoAccessor : accessors.filterMap Declaration.constructor? = [] := by
      refine List.filterMap_eq_nil_iff.mpr fun d hd => ?_
      obtain ⟨f, -, type, -, rfl⟩ := exists_of_mem_right haccessors hd
      rfl
    have hstart : Declaration.constructor? ∘ startDeclaration (Naming.identifier t.name) =
        some ∘ Prod.fst := rfl
    rw [if_pos hkind, List.filterMap_append, List.filterMap_append, List.filterMap_cons_none rfl,
      List.filterMap_map, hstart, List.filterMap_eq_map, hnoHolder, hnoAccessor, List.nil_append,
      List.append_nil]
  | inputObject hkind | boundScalar hkind | scalar hkind =>
    rw [if_neg (by simp [hkind])]
    rfl
  | enum hkind =>
    have hother : t.kind ≠ .object := by simp [hkind]
    rw [if_neg hother]
    split <;> rfl

/-! ### Schemas -/

/-- Nothing is lost, repeated or put in another order when a schema is rendered. No entry of its lists is
passed over. The fragments are those of its own types, in their order, under their names. The fragment of an
object holds the holders of the fields with arguments, the handle, the constructors of the operations whose root
the object is, and the accessors of all fields; that of an input object a struct with all its fields; that of an
enum a type with all its values; that of a scalar a type, unless the scalar is built in or bound. The
constructors of a fragment have different names. -/
theorem fragments_outlined {o : Options} {resolver : Resolver} {package : String} {schema : Schema}
    {fragments : List Fragment} (hbindings : Resolver.ofBindings o.scalars = .ok resolver)
    (h : render resolver o.qualifyArgs package schema = .ok fragments) :
    none ∉ schema.types.toList ∧ (∀ t ∈ schema.ownTypes, t.Complete) ∧
    fragments.map (fun f => (f.name, f.decls.map Declaration.outline)) =
      schema.ownTypes.map (fun t =>
        (t.name, t.outline o schema (settingsOf resolver o.qualifyArgs schema))) ∧
    ∀ f ∈ fragments, (f.decls.filterMap Declaration.constructor?).Nodup := by
  have hsound : schema.Sound resolver := sound_of_render h
  have hfragments := fragments_of_render h
  refine ⟨hsound.none_notMem, fun t ht => (sound_of_mem_ownTypes h ht).complete, ?_, ?_⟩
  · refine map_eq_map_of_forall₂ hfragments ?_
    rintro t ht f ⟨hname, hrenders⟩
    have hnamed : t.name ≠ "" := (hsound.of_mem_values (Schema.mem_ownTypes.mp ht).1).1
    have hbound : resolver.isBound t.name = o.binds t.name :=
      Bool.eq_iff_iff.mpr (Resolver.isBound_iff_binds hbindings t.name)
    rw [hname, hrenders.outline (operations_eq_operationsAt _ _ schema hnamed) hbound]
  · intro f hf
    obtain ⟨t, -, -, hrenders⟩ := exists_of_mem_right hfragments hf
    rw [hrenders.constructors]
    split
    · exact startIdents_nodup _ (operations_nodup schema t.name)
    · exact List.nodup_nil

/-- A feed that roots queries and subscriptions, with types of every kind, one of them of introspection. -/
def feedSchema : Schema :=
  { (default : Schema) with
    queryType := some ⟨some "feed"⟩
    mutationType := some ⟨some ""⟩
    subscriptionType := some ⟨some "feed"⟩
    types := some [
      some { (default : FullType) with kind := .scalar, name? := some "Url" },
      some { (default : FullType) with
        kind := .object
        name? := some "feed"
        fields := some [
          some { (default : FieldValue) with name := "url", type := .plain .scalar (some "Url") },
          some { (default : FieldValue) with
            name := "by_id"
            type := .plain .object (some "feed")
            args := some [
              some { (default : InputValue) with name := "id", type := .plain .scalar (some "ID") },
              some { (default : InputValue) with name := "in", type := .plain .inputObject (some "In") }] },
          some { (default : FieldValue) with name := "next", type := .plain .object (some "feed") }] },
      some { (default : FullType) with kind := .union, name? := some "__Any" },
      some { (default : FullType) with
        kind := .inputObject
        name? := some "In"
        inputFields := some [
          some { (default : InputValue) with name := "to", type := .plain .scalar (some "Day") },
          some { (default : InputValue) with name := "by", type := .plain .enum (some "By") }] },
      some { (default : FullType) with
        kind := .enum
        name? := some "By"
        enumValues := some [
          some { (default : EnumValue) with name := "NEW" },
          some { (default : EnumValue) with name := "top" }] },
      some { (default : FullType) with kind := .scalar, name? := some "Day" }] }

/-- The options for the feed: addresses are bound, all else is left to the defaults. -/
def feedOptions : Options :=
  ⟨"", "", "", [("Url", "net/url.URL")], false⟩

/-- The resolver for the feed. -/
def feedResolver : Resolver :=
  ⟨("Url", "net/url", "URL") :: Resolver.builtin⟩

/-- What the bindings of the feed hold. -/
theorem feed_outlined :
    Resolver.ofBindings feedOptions.scalars = .ok feedResolver ∧
      ∃ fragments, render feedResolver feedOptions.qualifyArgs "gen" feedSchema = .ok fragments ∧
        fragments.map (fun f => (f.name, f.decls.map Declaration.outline)) =
          [("Url", []),
            ("feed", [
              .inputs "ByIDArgs" [("ID", "id"), ("In", "in")],
              .handle "Feed",
              .start "NewFeed" "Feed" "query",
              .start "NewFeedSubscription" "Feed" "subscription",
              .accessor "Feed" "URL" "url" none,
              .accessor "Feed" "ByID" "by_id" (some "ByIDArgs"),
              .accessor "Feed" "Next" "next" none]),
            ("In", [.inputs "In" [("To", "to"), ("By", "by")]]),
            ("By", [.newtype "By", .constants "By" [("ByNew", "NEW"), ("ByTop", "top")], .literal "By"]),
            ("Day", [.newtype "Day"])] ∧
        ∀ f ∈ fragments, (f.decls.filterMap Declaration.constructor?).Nodup := by
  have hbindings : Resolver.ofBindings feedOptions.scalars = .ok feedResolver :=
    Resolver.ofBindings_singleton (by decide +kernel)
  have hsome : (render feedResolver feedOptions.qualifyArgs "gen" feedSchema).toOption.map List.length =
      some 5 := by
    decide +kernel
  obtain ⟨fragments, hrender, -⟩ := exists_ok_of_toOption hsome
  obtain ⟨-, -, houtlines, hnodup⟩ := fragments_outlined hbindings hrender
  refine ⟨hbindings, fragments, hrender, houtlines.trans ?_, hnodup⟩
  decide +kernel

end Bindery
