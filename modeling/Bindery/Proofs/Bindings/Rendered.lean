import Bindery.Proofs.Bindings.Declared

/-!
# What rendering answers

Rendering claims identifiers in several scopes while it reads the schema, and stops at the first fault.
Here each function of it gets one statement that says how it can end: with declarations that the schema
determines, if all it reads is sound and all scopes it claims in accept their names; with a collision in
one of these scopes; or with a defect of the schema, if what it reads is not sound.

## Main definitions

- `Judged` — the three ways in which a step of rendering ends
- `IsMember`, `IsHolder`, `IsAccessor` — the declarations of inputs and fields
- `Renders` — the declarations of a type

## Main results

- `renderType_judged`, `renderTypes_judged` — how rendering a type and a list of types ends
- `render_judged` — how rendering a schema ends
- `render_ok_iff` — a schema is rendered exactly if it is sound and its scopes agree
-/

namespace Bindery

/-- Every check is passed. -/
def Passed (checks : List (Except Collision Scope)) : Prop :=
  ∀ k ∈ checks, ∃ s, k = .ok s

/-- How a step of rendering ends. A value comes out only if what was read is sound and all checks are
passed; a collision is the answer of one of the checks; a defect shows that something is not sound. -/
def Judged {α : Type} (sound : Prop) (checks : List (Except Collision Scope)) (post : α → Prop) :
    Except RenderError α → Prop
  | .ok a => sound ∧ Passed checks ∧ post a
  | .error (.collision c) => .error c ∈ checks
  | .error (.schema _) => ¬ sound

/-- A step followed by another one ends as the first step does if that fails, and as the second one if
it succeeds. -/
theorem Judged.bind {α β : Type} {sound sound₁ : Prop} {checks checks₁ : List (Except Collision Scope)}
    {post : β → Prop} {post₁ : α → Prop} {x : Except RenderError α} {f : α → Except RenderError β}
    (hx : Judged sound₁ checks₁ post₁ x) (hsound : sound → sound₁)
    (hfails : ∀ c, .error c ∈ checks₁ → .error c ∈ checks)
    (hf : ∀ a, sound₁ → Passed checks₁ → post₁ a → Judged sound checks post (f a)) :
    Judged sound checks post (x >>= f) := by
  cases x with
  | ok a =>
    obtain ⟨hs, hp, ha⟩ := hx
    exact hf a hs hp ha
  | error e =>
    cases e with
    | schema e => exact fun h => hx (hsound h)
    | collision c => exact hfails c hx

@[simp]
theorem passed_nil : Passed [] := by
  intro k hk
  cases hk

@[simp]
theorem passed_cons {k : Except Collision Scope} {checks : List (Except Collision Scope)} :
    Passed (k :: checks) ↔ (∃ s, k = .ok s) ∧ Passed checks := by
  simp [Passed]

@[simp]
theorem passed_append {checks more : List (Except Collision Scope)} :
    Passed (checks ++ more) ↔ Passed checks ∧ Passed more := by
  simp only [Passed, List.mem_append]
  exact ⟨fun h => ⟨fun k hk => h k (.inl hk), fun k hk => h k (.inr hk)⟩,
    fun h k hk => hk.elim (h.1 k) (h.2 k)⟩

/-- A member of the second of two related lists is related to a member of the first one. -/
theorem exists_of_mem_right {α β : Type} {R : α → β → Prop} {as : List α} {bs : List β}
    (h : List.Forall₂ R as bs) {b : β} (hb : b ∈ bs) : ∃ a ∈ as, R a b := by
  induction h with
  | nil => cases hb
  | cons hab _ ih =>
    rcases List.mem_cons.mp hb with rfl | hb
    · exact ⟨_, List.mem_cons_self, hab⟩
    · obtain ⟨a, ha, hR⟩ := ih hb
      exact ⟨a, List.mem_cons_of_mem _ ha, hR⟩

/-- A member of the first of two related lists is related to a member of the second one. -/
theorem exists_of_mem_left {α β : Type} {R : α → β → Prop} {as : List α} {bs : List β}
    (h : List.Forall₂ R as bs) {a : α} (ha : a ∈ as) : ∃ b ∈ bs, R a b :=
  exists_of_mem_right h.flip ha

/-- A part of a value that comes out, of which equality can be decided, shows that it comes out. -/
theorem exists_ok_of_toOption {ε α β : Type} {x : Except ε α} {f : α → β} {b : β}
    (h : x.toOption.map f = some b) : ∃ a, x = .ok a ∧ f a = b := by
  cases x with
  | error => cases h
  | ok a => exact ⟨a, rfl, Option.some.inj h⟩

/-! ### Declarations -/

/-- The member of an argument or input field whose type is resolved. -/
def memberOf (input : InputValue) (type : TypeExpr) : Member :=
  ⟨Comment.ofBlocks (input.description.getD "") [defaultNotice input.defaultValue],
    Naming.identifier input.name, type, input.name⟩

/-- The member of an argument or input field. -/
def IsMember (r : Resolver) (input : InputValue) (m : Member) : Prop :=
  ∃ type, r.resolve input.type = .ok type ∧ m = memberOf input type

/-- What is said about the holder of a field's arguments. -/
def holderDoc (owner holder : String) (field : FieldValue) : Comment :=
  Comment.ofBlocks (holder ++ " holds the arguments of " ++ owner ++ "." ++ field.name ++ ".")
    [requiredNotice ((splitArgs field.args.values).1.map (Naming.identifier ·.name))]

/-- The holder of the arguments of a field. -/
def IsHolder (s : Settings) (owner : String) (field : FieldValue) (d : Declaration) : Prop :=
  ∃ members, List.Forall₂ (IsMember s.resolver) field.args.values members ∧
    d = .inputs (holderDoc owner (s.holderName owner field.name) field)
      (s.holderName owner field.name) members

/-- The name of the holder of a field, if the field takes arguments. -/
def Settings.holder? (s : Settings) (owner : String) (field : FieldValue) : Option String :=
  if field.takesArguments then some (s.holderName owner field.name) else none

/-- The accessor of a field. -/
def IsAccessor (s : Settings) (owner : String) (field : FieldValue) (d : Declaration) : Prop :=
  ∃ type, s.resolver.resolve field.type = .ok type ∧
    d = .accessor
      (Comment.ofBlocks (field.description.getD "")
        [deprecationNotice field.isDeprecated field.deprecationReason])
      (Naming.identifier owner) (Naming.identifier field.name) field.name
      (s.holder? owner field) (.ofType type)

/-- The constructor with an identifier that begins an operation. -/
def startDeclaration (ident : String) (start : String × Operation) : Declaration :=
  .start
    (Comment.ofBlocks
      (start.1 ++ " returns the " ++ start.2.keyword ++ " root with an empty selection.") [])
    start.1 ident start.2

/-- The constant of an enum value. -/
def constantOf (type : String) (v : EnumValue) : Constant :=
  ⟨Comment.ofBlocks (v.description.getD "") [deprecationNotice v.isDeprecated v.deprecationReason],
    Naming.constantIdentifier type v.name, v.name⟩

/-- The declarations of a type. -/
inductive Renders (s : Settings) (t : FullType) : List Declaration → Prop
  /-- An object has holders, a handle, constructors and accessors. -/
  | object {holders accessors : List Declaration} (kind : t.kind = .object)
      (hholders : List.Forall₂ (IsHolder s t.name) t.argumentFields holders)
      (haccessors : List.Forall₂ (IsAccessor s t.name) t.fields.values accessors) :
      Renders s t (holders ++
        .handle (Comment.ofBlocks t.description []) (Naming.identifier t.name) ::
          (startIdents (Naming.identifier t.name) true (s.operations t.name)).map
            (startDeclaration (Naming.identifier t.name)) ++
        accessors)
  /-- An input object is a struct. -/
  | inputObject {members : List Member} (kind : t.kind = .inputObject)
      (hmembers : List.Forall₂ (IsMember s.resolver) t.inputFields.values members) :
      Renders s t
        [.inputs (Comment.ofBlocks t.description []) (Naming.identifier t.name) members]
  /-- An enum is a type of strings with constants. -/
  | enum (kind : t.kind = .enum) :
      Renders s t
        (.newtype (Comment.ofBlocks t.description []) (Naming.identifier t.name) ::
          (if t.enumValues.values.isEmpty then []
            else [.constants (Naming.identifier t.name)
              (t.enumValues.values.map (constantOf t.name))]) ++
          [.literal (Naming.identifier t.name)])
  /-- A scalar that stands for an existing type has no declarations. -/
  | boundScalar (kind : t.kind = .scalar) (bound : s.resolver.isBound t.name = true) :
      Renders s t []
  /-- Any other scalar is a type of strings. -/
  | scalar (kind : t.kind = .scalar) (unbound : s.resolver.isBound t.name = false) :
      Renders s t [.newtype (Comment.ofBlocks t.description []) (Naming.identifier t.name)]

/-- One of the declarations of a type. -/
inductive Binds (s : Settings) (t : FullType) : Declaration → Prop
  | holder {f : FieldValue} {d : Declaration} (kind : t.kind = .object) (hf : f ∈ t.argumentFields)
      (hd : IsHolder s t.name f d) : Binds s t d
  | handle (kind : t.kind = .object) :
      Binds s t (.handle (Comment.ofBlocks t.description []) (Naming.identifier t.name))
  | start {start : String × Operation} (kind : t.kind = .object)
      (hstart : start ∈ startIdents (Naming.identifier t.name) true (s.operations t.name)) :
      Binds s t (startDeclaration (Naming.identifier t.name) start)
  | accessor {f : FieldValue} {d : Declaration} (kind : t.kind = .object) (hf : f ∈ t.fields.values)
      (hd : IsAccessor s t.name f d) : Binds s t d
  | inputObject {members : List Member} (kind : t.kind = .inputObject)
      (hmembers : List.Forall₂ (IsMember s.resolver) t.inputFields.values members) :
      Binds s t (.inputs (Comment.ofBlocks t.description []) (Naming.identifier t.name) members)
  | newtype (kind : t.kind = .enum ∨ t.kind = .scalar ∧ s.resolver.isBound t.name = false) :
      Binds s t (.newtype (Comment.ofBlocks t.description []) (Naming.identifier t.name))
  | constants (kind : t.kind = .enum) :
      Binds s t (.constants (Naming.identifier t.name)
        (t.enumValues.values.map (constantOf t.name)))
  | literal (kind : t.kind = .enum) : Binds s t (.literal (Naming.identifier t.name))

/-- What a declaration of a type can be. -/
theorem Renders.binds {s : Settings} {t : FullType} {decls : List Declaration}
    (h : Renders s t decls) {d : Declaration} (hd : d ∈ decls) : Binds s t d := by
  cases h with
  | object hkind hholders haccessors =>
    simp only [List.mem_append, List.mem_cons] at hd
    rcases hd with (hd | rfl | hd) | hd
    · obtain ⟨f, hf, hholder⟩ := exists_of_mem_right hholders hd
      exact .holder hkind hf hholder
    · exact .handle hkind
    · obtain ⟨start, hstart, rfl⟩ := List.mem_map.mp hd
      exact .start hkind hstart
    · obtain ⟨f, hf, haccessor⟩ := exists_of_mem_right haccessors hd
      exact .accessor hkind hf haccessor
  | inputObject hkind hmembers =>
    obtain rfl := List.mem_singleton.mp hd
    exact .inputObject hkind hmembers
  | enum hkind =>
    rcases List.mem_append.mp hd with hd | hd
    · rcases List.mem_cons.mp hd with rfl | hd
      · exact .newtype (.inl hkind)
      · split at hd
        · cases hd
        · obtain rfl := List.mem_singleton.mp hd
          exact .constants hkind
    · obtain rfl := List.mem_singleton.mp hd
      exact .literal hkind
  | boundScalar => cases hd
  | scalar hkind hunbound =>
    obtain rfl := List.mem_singleton.mp hd
    exact .newtype (.inr ⟨hkind, hunbound⟩)

/-! ### Arguments and input fields -/

theorem claim_judged (s : Scope) (ident name : String) :
    Judged True [s.declareAll [(ident, name)]] (fun s' => s.declare ident name = .ok s')
      (s.claim ident name) := by
  cases h : s.declare ident name with
  | ok s' => simp [Scope.claim, h, Except.mapError, Judged, Scope.declareAll_cons_ok h]
  | error c => simp [Scope.claim, h, Except.mapError, Judged, Scope.declareAll_cons_error h]

/-- A claim before other declarations of its scope fails with their first collision, or they go on in the
scope that it leaves. -/
theorem Judged.claim {β : Type} {sound : Prop} {checks : List (Except Collision Scope)}
    {post : β → Prop} {s : Scope} {ident name : String} {rest : List (String × String)}
    {f : Scope → Except RenderError β}
    (h : ∀ s', s.declare ident name = .ok s' →
      Judged sound (s'.declareAll rest :: checks) post (f s')) :
    Judged sound (s.declareAll ((ident, name) :: rest) :: checks) post (s.claim ident name >>= f) := by
  refine (claim_judged s ident name).bind (fun _ => trivial) ?_ ?_
  · intro c hc
    refine List.mem_cons.mpr (.inl ?_)
    exact (Scope.declareAll_append_error (List.mem_singleton.mp hc).symm rest).symm
  · intro s' _ _ hd
    rw [Scope.declareAll_cons_ok hd]
    exact h s' hd

theorem renderInput_judged (r : Resolver) (owner : String) (members : Scope) (input : InputValue) :
    Judged (input.Sound r)
      [members.declareAll [(Naming.identifier input.name, input.name)]]
      (fun p => members.declare (Naming.identifier input.name) input.name = .ok p.2 ∧
        IsMember r input p.1)
      (renderInput r owner members input) := by
  unfold renderInput
  split
  · next hname => exact fun hsound => hsound.named (by simpa using hname)
  · next hname =>
    refine (claim_judged members _ _).bind (fun _ => trivial) (fun _ hc => hc) ?_
    intro members' _ hpassed hd
    cases hr : r.resolve input.type with
    | error defect =>
      intro hsound
      obtain ⟨type, htype⟩ := hsound.resolves
      rw [hr] at htype
      cases htype
    | ok type => exact ⟨⟨by simpa using hname, type, hr⟩, hpassed, hd, type, hr, rfl⟩

theorem renderInputs_judged (r : Resolver) (owner type field : String) (empty : Defect)
    (members : Scope) (inputs : List (Option InputValue)) :
    Judged (AllEntries (InputValue.Sound r) inputs)
      [members.declareAll (inputScope "" (inputs.filterMap id)).names]
      (List.Forall₂ (IsMember r) (inputs.filterMap id))
      (renderInputs r owner type field empty members inputs) := by
  induction inputs generalizing members with
  | nil => exact ⟨allEntries_nil, by simp [inputScope], .nil⟩
  | cons input rest ih =>
    cases input with
    | none => exact not_allEntries_cons_none
    | some input =>
      refine (renderInput_judged r owner members input).bind
        (fun hsound => (allEntries_cons_some.mp hsound).1) ?_ ?_
      · intro c hc
        simp only [List.mem_singleton] at hc ⊢
        exact (Scope.declareAll_append_error hc.symm _).symm
      · rintro ⟨member, members'⟩ hinput - ⟨hd, hmember⟩
        -- what is left to declare goes on in the scope that the first member is declared in
        have hrun : members.declareAll (inputScope "" ((some input :: rest).filterMap id)).names =
            members'.declareAll (inputScope "" (rest.filterMap id)).names := by
          exact Scope.declareAll_cons_ok hd _
        rw [hrun]
        refine (ih members').bind (fun hsound => (allEntries_cons_some.mp hsound).2)
          (fun _ hc => hc) ?_
        intro more hrest hpassed hmore
        exact ⟨allEntries_cons_some.mpr ⟨hinput, hrest⟩, hpassed, .cons hmember hmore⟩

theorem renderHolder_judged (r : Resolver) (owner holder : String) (field : FieldValue) :
    Judged (AllEntries (InputValue.Sound r) field.args.toList)
      [(inputScope holder field.args.values).check]
      (fun d => ∃ members, List.Forall₂ (IsMember r) field.args.values members ∧
        d = .inputs (holderDoc owner holder field) holder members)
      (renderHolder r owner holder field) := by
  refine (renderInputs_judged r _ owner field.name .emptyArgument (.empty holder) _).bind
    id (fun _ hc => hc) ?_
  intro members hsound hpassed hmembers
  exact ⟨hsound, hpassed, members, hmembers, rfl⟩

/-! ### Fields -/

/-- The names of the holders of a list of fields. -/
def Settings.holderNames (s : Settings) (owner : String) (fields : List FieldValue) :
    List (String × String) :=
  (fields.filter (·.takesArguments)).map fun f =>
    (s.holderName owner f.name, (Entity.holder owner f.name).label)

/-- The checks of the members of the holders of a list of fields. -/
def Settings.holderChecks (s : Settings) (owner : String) (fields : List FieldValue) :
    List (Except Collision Scope) :=
  (fields.filter (·.takesArguments)).map fun f =>
    (inputScope (s.holderName owner f.name) f.args.values).check

/-- The names of the methods of a list of fields. -/
def methodNames (fields : List FieldValue) : List (String × String) :=
  fields.map fun f => (Naming.identifier f.name, f.name)

theorem Settings.holderNames_cons (s : Settings) (owner : String) (f : FieldValue)
    (fields : List FieldValue) :
    s.holderNames owner (f :: fields) = s.holderNames owner [f] ++ s.holderNames owner fields := by
  rw [holderNames, ← List.singleton_append, List.filter_append, List.map_append]
  rfl

theorem Settings.holderChecks_cons (s : Settings) (owner : String) (f : FieldValue)
    (fields : List FieldValue) :
    s.holderChecks owner (f :: fields) =
      s.holderChecks owner [f] ++ s.holderChecks owner fields := by
  rw [holderChecks, ← List.singleton_append, List.filter_append, List.map_append]
  rfl

theorem renderField_judged (s : Settings) (owner : String) (package methods : Scope)
    (field : FieldValue) :
    Judged (field.Sound s.resolver)
      (package.declareAll (s.holderNames owner [field]) ::
        methods.declareAll (methodNames [field]) :: s.holderChecks owner [field])
      (fun p => package.declareAll (s.holderNames owner [field]) = .ok p.2.2.1 ∧
        methods.declareAll (methodNames [field]) = .ok p.2.2.2 ∧
        List.Forall₂ (IsHolder s owner) ([field].filter (·.takesArguments)) p.1.toList ∧
        IsAccessor s owner field p.2.1)
      (renderField s owner (Naming.identifier owner) package methods field) := by
  unfold renderField
  split
  · next hname => exact fun hsound => hsound.named (by simpa using hname)
  · next hname =>
    have hnamed : field.name ≠ "" := by simpa using hname
    refine (claim_judged methods _ _).bind (fun _ => trivial) ?_ ?_
    · intro c hc
      exact List.mem_cons_of_mem _ (List.mem_cons.mpr (.inl (List.mem_singleton.mp hc)))
    · intro methods' _ _ hd
      have hmethods : methods.declareAll (methodNames [field]) = .ok methods' :=
        Scope.declareAll_cons_ok hd _
      cases hr : s.resolver.resolve field.type with
      | error defect =>
        intro hsound
        obtain ⟨type, htype⟩ := hsound.resolves
        rw [hr] at htype
        cases htype
      | ok type =>
        cases htakes : field.takesArguments with
        | false =>
          have hempty : field.args.toList.isEmpty = true := by
            simpa [FieldValue.takesArguments] using htakes
          have hargs : field.args.toList = [] := List.isEmpty_iff.mp hempty
          simp only [hempty, if_true]
          refine ⟨⟨hnamed, ⟨type, hr⟩, by rw [hargs]; exact allEntries_nil⟩, ?_, ?_, hmethods, ?_,
            type, hr, ?_⟩
          · simp [Settings.holderNames, Settings.holderChecks, htakes, hmethods]
          · simp [Settings.holderNames, htakes]
          · simp [htakes]
          · simp [Settings.holder?, htakes]
        | true =>
          have hempty : field.args.toList.isEmpty = false := by
            simpa [FieldValue.takesArguments] using htakes
          have hholder : s.holderNames owner [field] =
              [(s.holderName owner field.name, (Entity.holder owner field.name).label)] := by
            simp [Settings.holderNames, htakes]
          have hchecks : s.holderChecks owner [field] =
              [(inputScope (s.holderName owner field.name) field.args.values).check] := by
            simp [Settings.holderChecks, htakes]
          simp only [hempty]
          rw [hholder, hchecks]
          refine Judged.claim fun package' hpackage => ?_
          refine (renderHolder_judged s.resolver owner _ field).bind (·.arguments) ?_ ?_
          · intro c hc
            exact List.mem_cons_of_mem _ (List.mem_cons_of_mem _ hc)
          · rintro decl hsound hpassed ⟨members, hmembers, rfl⟩
            refine ⟨⟨hnamed, ⟨type, hr⟩, hsound⟩, ?_, Scope.declareAll_cons_ok hpackage [], hmethods,
              ?_, type, hr, ?_⟩
            · exact passed_cons.mpr ⟨⟨_, rfl⟩, passed_cons.mpr ⟨⟨_, hmethods⟩, hpassed⟩⟩
            · simpa [htakes] using ⟨members, hmembers, rfl⟩
            · simp [Settings.holder?, htakes]

theorem renderFields_judged (s : Settings) (owner : String) (package methods : Scope)
    (fields : List (Option FieldValue)) :
    Judged (AllEntries (FieldValue.Sound s.resolver) fields)
      (package.declareAll (s.holderNames owner (fields.filterMap id)) ::
        methods.declareAll (methodNames (fields.filterMap id)) ::
        s.holderChecks owner (fields.filterMap id))
      (fun p => package.declareAll (s.holderNames owner (fields.filterMap id)) = .ok p.2.2 ∧
        List.Forall₂ (IsHolder s owner)
          ((fields.filterMap id).filter (·.takesArguments)) p.1 ∧
        List.Forall₂ (IsAccessor s owner) (fields.filterMap id) p.2.1)
      (renderFields s owner (Naming.identifier owner) package methods fields) := by
  induction fields generalizing package methods with
  | nil =>
    refine ⟨allEntries_nil, ?_, rfl, .nil, .nil⟩
    simp [Settings.holderNames, Settings.holderChecks, methodNames]
  | cons field rest ih =>
    cases field with
    | none => exact not_allEntries_cons_none
    | some field =>
      have hvalues : (some field :: rest).filterMap id = field :: rest.filterMap id := rfl
      have hmethodNames : methodNames (field :: rest.filterMap id) =
          methodNames [field] ++ methodNames (rest.filterMap id) := rfl
      rw [hvalues, s.holderNames_cons, s.holderChecks_cons, hmethodNames]
      refine (renderField_judged s owner package methods field).bind
        (fun hsound => (allEntries_cons_some.mp hsound).1) ?_ ?_
      · intro c hc
        rcases List.mem_cons.mp hc with hpackage | hc
        · exact List.mem_cons.mpr (.inl (Scope.declareAll_append_error hpackage.symm _).symm)
        · rcases List.mem_cons.mp hc with hmethods | hc
          · refine List.mem_cons_of_mem _ (List.mem_cons.mpr (.inl ?_))
            exact (Scope.declareAll_append_error hmethods.symm _).symm
          · exact List.mem_cons_of_mem _ (List.mem_cons_of_mem _ (List.mem_append_left _ hc))
      · rintro ⟨holder, accessor, package', methods'⟩ hfield hpassed
          ⟨hpackage, hmethods, hholder, haccessor⟩
        rw [Scope.declareAll_append_ok hpackage, Scope.declareAll_append_ok hmethods]
        refine (ih package' methods').bind (fun hsound => (allEntries_cons_some.mp hsound).2) ?_ ?_
        · intro c hc
          rcases List.mem_cons.mp hc with hc | hc
          · exact List.mem_cons.mpr (.inl hc)
          · rcases List.mem_cons.mp hc with hc | hc
            · exact List.mem_cons_of_mem _ (List.mem_cons.mpr (.inl hc))
            · exact List.mem_cons_of_mem _ (List.mem_cons_of_mem _ (List.mem_append_right _ hc))
        · rintro ⟨holders, accessors, package''⟩ hrest hpassed' ⟨hrun, hholders, haccessors⟩
          refine ⟨allEntries_cons_some.mpr ⟨hfield, hrest⟩, ?_, hrun, ?_, ?_⟩
          · simp only [passed_cons, passed_append] at hpassed hpassed' ⊢
            exact ⟨hpassed'.1, hpassed'.2.1, hpassed.2.2, hpassed'.2.2⟩
          · rw [← List.singleton_append, List.filter_append]
            exact List.rel_append hholder hholders
          · exact .cons haccessor haccessors

/-! ### Constructors and constants -/

theorem renderStarts_judged (type ident : String) (package : Scope) (first : Bool)
    (ops : List Operation) :
    Judged True
      [package.declareAll
        (labelled ((startIdents ident first ops).map fun (i, op) => (i, .start op type)))]
      (fun p => package.declareAll
          (labelled ((startIdents ident first ops).map fun (i, op) => (i, .start op type))) =
            .ok p.2 ∧
        p.1 = (startIdents ident first ops).map (startDeclaration ident))
      (renderStarts type ident package first ops) := by
  induction ops generalizing package first with
  | nil => exact ⟨trivial, by simp [startIdents, labelled], rfl, rfl⟩
  | cons op rest ih =>
    refine Judged.claim fun package' hd => (ih package' false).bind id (fun _ hc => hc) ?_
    rintro ⟨more, package''⟩ _ hpassed ⟨hmore, rfl⟩
    exact ⟨trivial, hpassed, (Scope.declareAll_cons_ok hd _).trans hmore, rfl⟩

theorem renderConstants_judged (type : String) (package : Scope)
    (values : List (Option EnumValue)) :
    Judged (AllEntries (·.name ≠ "") values)
      [package.declareAll (labelled ((values.filterMap id).map fun v =>
        (Naming.constantIdentifier type v.name, .constant type v.name)))]
      (fun p => package.declareAll (labelled ((values.filterMap id).map fun v =>
          (Naming.constantIdentifier type v.name, .constant type v.name))) = .ok p.2 ∧
        p.1 = (values.filterMap id).map (constantOf type))
      (renderConstants type package values) := by
  induction values generalizing package with
  | nil => exact ⟨allEntries_nil, by simp [labelled], rfl, rfl⟩
  | cons value rest ih =>
    cases value with
    | none => exact not_allEntries_cons_none
    | some value =>
      unfold renderConstants
      split
      · next hname =>
        exact fun hsound => (allEntries_cons_some.mp hsound).1 (by simpa using hname)
      · next hname =>
        refine Judged.claim fun package' hd => ?_
        refine (ih package').bind (fun hsound => (allEntries_cons_some.mp hsound).2)
          (fun _ hc => hc) ?_
        rintro ⟨more, package''⟩ hrest hpassed ⟨hmore, rfl⟩
        exact ⟨allEntries_cons_some.mpr ⟨by simpa using hname, hrest⟩, hpassed,
          (Scope.declareAll_cons_ok hd _).trans hmore, rfl⟩

/-! ### Types -/

/-- The checks of the scopes that a type declares names in. -/
def Settings.typeChecks (s : Settings) (package : Scope) (t : FullType) :
    List (Except Collision Scope) :=
  package.declareAll (labelled (s.declaredBy t)) :: (s.memberScopes t).map Scope.check

/-- How rendering the declarations of a type ends. -/
def TypeJudged (s : Settings) (package : Scope) (t : FullType)
    (result : Except RenderError (List Declaration × Scope)) : Prop :=
  Judged (t.Sound s.resolver) (s.typeChecks package t)
    (fun p => package.declareAll (labelled (s.declaredBy t)) = .ok p.2 ∧ Renders s t p.1) result

theorem renderObject_judged (s : Settings) (package : Scope) (t : FullType)
    (hkind : t.kind = .object) : TypeJudged s package t (renderObject s package t) := by
  -- the scopes of an object, spelled out
  have hdeclared : labelled (s.declaredBy t) =
      (Naming.identifier t.name, t.name) ::
        (s.holderNames t.name t.fields.values ++ labelled (s.startsOf t)) := by
    simp [Settings.declaredBy, hkind, labelled, Settings.holdersOf, Settings.holderNames,
      FullType.argumentFields]
  have hmembers : (s.memberScopes t).map Scope.check =
      (Scope.empty (Naming.identifier t.name)).declareAll (methodNames t.fields.values) ::
        s.holderChecks t.name t.fields.values := by
    simp [Settings.memberScopes, hkind, Settings.holderChecks, FullType.argumentFields,
      Function.comp_def, Scope.check, FullType.methodScope, methodNames]
  have hsound : t.Sound s.resolver = AllEntries (FieldValue.Sound s.resolver) t.fields.toList := by
    simp [FullType.Sound, hkind]
  unfold TypeJudged Settings.typeChecks
  rw [hdeclared, hmembers, hsound]
  refine Judged.claim fun package₁ hd => ?_
  rw [Scope.declareAll_cons_ok hd]
  refine (renderFields_judged s t.name package₁ _ t.fields.toList).bind id ?_ ?_
  · intro c hc
    rcases List.mem_cons.mp hc with hc | hc
    · exact List.mem_cons.mpr (.inl (Scope.declareAll_append_error hc.symm _).symm)
    · exact List.mem_cons_of_mem _ hc
  · rintro ⟨holders, accessors, package₂⟩ hfields hpassed ⟨hholders, hhs, has⟩
    have hrun : package₁.declareAll (s.holderNames t.name t.fields.values) = .ok package₂ :=
      hholders
    rw [Scope.declareAll_append_ok hrun]
    refine (renderStarts_judged t.name _ package₂ true _).bind (fun _ => trivial) ?_ ?_
    · intro c hc
      exact List.mem_cons.mpr (.inl (List.mem_singleton.mp hc))
    · rintro ⟨starts, package₃⟩ _ _ ⟨hstarts, rfl⟩
      refine ⟨hfields, ?_, hstarts, .object hkind hhs has⟩
      exact passed_cons.mpr ⟨⟨_, hstarts⟩, (passed_cons.mp hpassed).2⟩

theorem renderInputObject_judged (s : Settings) (package : Scope) (t : FullType)
    (hkind : t.kind = .inputObject) : TypeJudged s package t (renderInputObject s package t) := by
  have hdeclared : labelled (s.declaredBy t) = [(Naming.identifier t.name, t.name)] := by
    simp [Settings.declaredBy, hkind, labelled]
  have hmembers : (s.memberScopes t).map Scope.check =
      [(inputScope (Naming.identifier t.name) t.inputFields.values).check] := by
    simp [Settings.memberScopes, hkind]
  have hsound : t.Sound s.resolver =
      AllEntries (InputValue.Sound s.resolver) t.inputFields.toList := by
    simp [FullType.Sound, hkind]
  unfold TypeJudged Settings.typeChecks
  rw [hdeclared, hmembers, hsound]
  refine Judged.claim fun package₁ hd => ?_
  refine (renderInputs_judged s.resolver _ _ _ _ _ t.inputFields.toList).bind id ?_ ?_
  · intro c hc
    exact List.mem_cons_of_mem _ hc
  · intro members hinputs hpassed hms
    refine ⟨hinputs, ?_, Scope.declareAll_cons_ok hd [], .inputObject hkind hms⟩
    exact passed_cons.mpr ⟨⟨package₁, rfl⟩, hpassed⟩

theorem renderEnum_judged (s : Settings) (package : Scope) (t : FullType)
    (hkind : t.kind = .enum) : TypeJudged s package t (renderEnum package t) := by
  have hdeclared : labelled (s.declaredBy t) =
      (Naming.identifier t.name, t.name) :: labelled (Settings.constantsOf t) := by
    simp [Settings.declaredBy, hkind, labelled]
  have hmembers : (s.memberScopes t).map Scope.check = [] := by
    simp [Settings.memberScopes, hkind]
  have hsound : t.Sound s.resolver = AllEntries (·.name ≠ "") t.enumValues.toList := by
    simp [FullType.Sound, hkind]
  unfold TypeJudged Settings.typeChecks
  rw [hdeclared, hmembers, hsound]
  refine Judged.claim fun package₁ hd => ?_
  refine (renderConstants_judged t.name package₁ t.enumValues.toList).bind id (fun _ hc => hc) ?_
  rintro ⟨values, package₂⟩ hvalues hpassed ⟨hrun, rfl⟩
  refine ⟨hvalues, hpassed, (Scope.declareAll_cons_ok hd _).trans hrun, ?_⟩
  have hempty : ((t.enumValues.toList.filterMap id).map (constantOf t.name)).isEmpty =
      t.enumValues.values.isEmpty := by
    simp [Entries.values]
  simp only [hempty]
  exact .enum hkind

theorem renderScalar_judged (s : Settings) (package : Scope) (t : FullType)
    (hkind : t.kind = .scalar) : TypeJudged s package t (renderScalar s package t) := by
  have hmembers : (s.memberScopes t).map Scope.check = [] := by
    simp [Settings.memberScopes, hkind]
  have hsound : t.Sound s.resolver := by
    simp [FullType.Sound, hkind]
  unfold TypeJudged Settings.typeChecks renderScalar
  rw [hmembers]
  cases hbound : s.resolver.isBound t.name with
  | true =>
    have hdeclared : labelled (s.declaredBy t) = [] := by
      simp [Settings.declaredBy, hkind, labelled, hbound]
    rw [hdeclared]
    exact ⟨hsound, by simp, rfl, .boundScalar hkind hbound⟩
  | false =>
    have hdeclared : labelled (s.declaredBy t) = [(Naming.identifier t.name, t.name)] := by
      simp [Settings.declaredBy, hkind, labelled, hbound]
    rw [hdeclared]
    refine Judged.claim fun package₁ hd => ?_
    exact ⟨hsound, by simp, Scope.declareAll_cons_ok hd [], .scalar hkind hbound⟩

/-- A fragment has the name of its type and the declarations that bind it. -/
def IsFragment (s : Settings) (t : FullType) (f : Fragment) : Prop :=
  f.name = t.name ∧ Renders s t f.decls

/-- The declarations of a type make up its fragment. -/
theorem TypeJudged.fragment {s : Settings} {package : Scope} {t : FullType}
    {result : Except RenderError (List Declaration × Scope)} (h : TypeJudged s package t result) :
    Judged (t.Sound s.resolver) (s.typeChecks package t)
      (fun p : Fragment × Scope =>
        package.declareAll (labelled (s.declaredBy t)) = .ok p.2 ∧ IsFragment s t p.1)
      (result.map fun (decls, package) => (⟨t.name, decls⟩, package)) := by
  match result, h with
  | .ok (decls, package'), ⟨hsound, hpassed, hrun, hdecls⟩ =>
    exact ⟨hsound, hpassed, hrun, rfl, hdecls⟩
  | .error (.collision c), hc => exact hc
  | .error (.schema e), hunsound => exact hunsound

theorem renderType_judged (s : Settings) (package : Scope) (t : FullType) :
    Judged (t.Sound s.resolver) (s.typeChecks package t)
      (fun p => package.declareAll (labelled (s.declaredBy t)) = .ok p.2 ∧ IsFragment s t p.1)
      (renderType s package t) := by
  unfold renderType
  apply TypeJudged.fragment
  -- interfaces, unions and wrappers are refused, and they are not sound
  cases hkind : t.kind with
  | object => exact renderObject_judged s package t hkind
  | inputObject => exact renderInputObject_judged s package t hkind
  | enum => exact renderEnum_judged s package t hkind
  | scalar => exact renderScalar_judged s package t hkind
  | interface | union | list | nonNull | unknown => simp [TypeJudged, Judged, FullType.Sound, hkind]

theorem renderTypes_judged (s : Settings) (package : Scope) (types : List (Option FullType)) :
    Judged (SoundTypes s.resolver types)
      (package.declareAll (labelled ((ownTypes types).flatMap s.declaredBy)) ::
        ((ownTypes types).flatMap s.memberScopes).map Scope.check)
      (List.Forall₂ (IsFragment s) (ownTypes types))
      (renderTypes s package types) := by
  induction types generalizing package with
  | nil => exact ⟨allEntries_nil, by simp [ownTypes, labelled], .nil⟩
  | cons entry rest ih =>
    cases entry with
    | none => exact not_allEntries_cons_none
    | some t =>
      unfold renderTypes
      split
      · next hname =>
        exact fun hsound => (allEntries_cons_some.mp hsound).1.1 (by simpa using hname)
      · next hname =>
        have hnamed : t.name ≠ "" := by simpa using hname
        cases hreserved : isReserved t.name with
        | true =>
          have hsound : SoundTypes s.resolver (some t :: rest) ↔ SoundTypes s.resolver rest := by
            simp [SoundTypes, hreserved, hnamed]
          simp only [if_true]
          rw [ownTypes_cons_reserved hreserved, hsound]
          exact ih package
        | false =>
          have hsound : SoundTypes s.resolver (some t :: rest) ↔
              t.Sound s.resolver ∧ SoundTypes s.resolver rest := by
            simp [SoundTypes, hreserved, hnamed]
          have hdeclared : labelled ((t :: ownTypes rest).flatMap s.declaredBy) =
              labelled (s.declaredBy t) ++ labelled ((ownTypes rest).flatMap s.declaredBy) := by
            simp [labelled]
          have hmembers : ((t :: ownTypes rest).flatMap s.memberScopes).map Scope.check =
              (s.memberScopes t).map Scope.check ++
                ((ownTypes rest).flatMap s.memberScopes).map Scope.check := by
            simp
          simp only [Bool.false_eq_true, if_false]
          rw [ownTypes_cons_own hreserved, hsound, hdeclared, hmembers]
          refine (renderType_judged s package t).bind (·.1) ?_ ?_
          · intro c hc
            rcases List.mem_cons.mp hc with hc | hc
            · exact List.mem_cons.mpr (.inl (Scope.declareAll_append_error hc.symm _).symm)
            · exact List.mem_cons_of_mem _ (List.mem_append_left _ hc)
          · rintro ⟨fragment, package'⟩ ht hpassed ⟨hrun, hfragment⟩
            rw [Scope.declareAll_append_ok hrun]
            refine (ih package').bind (·.2) ?_ ?_
            · intro c hc
              rcases List.mem_cons.mp hc with hc | hc
              · exact List.mem_cons.mpr (.inl hc)
              · exact List.mem_cons_of_mem _ (List.mem_append_right _ hc)
            · intro more hrest hpassed' hmore
              refine ⟨⟨ht, hrest⟩, ?_, .cons hfragment hmore⟩
              simp only [Settings.typeChecks, passed_cons, passed_append] at hpassed hpassed' ⊢
              exact ⟨hpassed'.1, hpassed.2, hpassed'.2⟩

/-! ### Schemas -/

/-- How rendering a schema ends: in fragments for its own types, in a collision in one of its scopes, or
in a defect. -/
theorem render_judged (resolver : Resolver) (qualifyArgs : Bool) (package : String)
    (schema : Schema) :
    Judged (schema.Sound resolver)
      ((schemaScopes resolver qualifyArgs package schema).map Scope.check)
      (List.Forall₂ (IsFragment (settingsOf resolver qualifyArgs schema)) schema.ownTypes)
      (render resolver qualifyArgs package schema) :=
  renderTypes_judged (settingsOf resolver qualifyArgs schema) _ schema.types.toList

section Render

variable {resolver : Resolver} {qualifyArgs : Bool} {package : String} {schema : Schema}

/-- A rendered schema is sound. -/
theorem sound_of_render {fragments : List Fragment}
    (h : render resolver qualifyArgs package schema = .ok fragments) : schema.Sound resolver := by
  have hjudged := render_judged resolver qualifyArgs package schema
  rw [h] at hjudged
  exact hjudged.1

/-- The scopes of a rendered schema agree. -/
theorem agrees_of_render {fragments : List Fragment}
    (h : render resolver qualifyArgs package schema = .ok fragments) {scope : Scope}
    (hscope : scope ∈ schemaScopes resolver qualifyArgs package schema) : scope.Agrees := by
  have hjudged := render_judged resolver qualifyArgs package schema
  rw [h] at hjudged
  exact (scope.check_ok_iff).mp (hjudged.2.1 _ (List.mem_map_of_mem hscope))

/-- Where two types of a rendered schema declare one identifier, it has one label. -/
theorem label_eq_of_render {fragments : List Fragment}
    (h : render resolver qualifyArgs package schema = .ok fragments) {t u : FullType}
    (ht : t ∈ schema.ownTypes) (hu : u ∈ schema.ownTypes) {ident : String} {e f : Entity}
    (he : (ident, e) ∈ (settingsOf resolver qualifyArgs schema).declaredBy t)
    (hf : (ident, f) ∈ (settingsOf resolver qualifyArgs schema).declaredBy u) :
    e.label = f.label := by
  have hagrees := agrees_of_render h List.mem_cons_self
  have hmem : ∀ v ∈ schema.ownTypes, ∀ g,
      (ident, g) ∈ (settingsOf resolver qualifyArgs schema).declaredBy v → (ident, g.label) ∈
        ((settingsOf resolver qualifyArgs schema).packageScope ("package " ++ package)
          schema.ownTypes).names := by
    intro v hv g hg
    exact List.mem_map.mpr ⟨(ident, g), List.mem_flatMap.mpr ⟨v, hv, hg⟩, rfl⟩
  exact hagrees _ (hmem t ht e he) _ (hmem u hu f hf) rfl

/-- Two types of a rendered schema with one identifier have one name. -/
theorem name_eq_of_render {fragments : List Fragment}
    (h : render resolver qualifyArgs package schema = .ok fragments) {t u : FullType}
    (ht : t ∈ schema.ownTypes) (hu : u ∈ schema.ownTypes)
    (hdt : (Naming.identifier t.name, .type t.name) ∈
      (settingsOf resolver qualifyArgs schema).declaredBy t)
    (hdu : (Naming.identifier u.name, .type u.name) ∈
      (settingsOf resolver qualifyArgs schema).declaredBy u)
    (heq : Naming.identifier t.name = Naming.identifier u.name) : t.name = u.name := by
  rw [heq] at hdt
  exact label_eq_of_render h ht hu hdt hdu

/-- A type with bindings in a rendered schema is sound. -/
theorem sound_of_mem_ownTypes {fragments : List Fragment}
    (h : render resolver qualifyArgs package schema = .ok fragments) {t : FullType}
    (ht : t ∈ schema.ownTypes) : t.Sound resolver := by
  obtain ⟨hvalue, hreserved⟩ := Schema.mem_ownTypes.mp ht
  exact ((sound_of_render h).of_mem_values hvalue).2 hreserved

/-- The fragments of a rendered schema are those of its own types, in their order. -/
theorem fragments_of_render {fragments : List Fragment}
    (h : render resolver qualifyArgs package schema = .ok fragments) :
    List.Forall₂ (IsFragment (settingsOf resolver qualifyArgs schema)) schema.ownTypes
      fragments := by
  have hjudged := render_judged resolver qualifyArgs package schema
  rw [h] at hjudged
  exact hjudged.2.2

/-- A schema is rendered exactly if it is sound and its scopes agree. -/
theorem render_ok_iff :
    (∃ fragments, render resolver qualifyArgs package schema = .ok fragments) ↔
      schema.Sound resolver ∧
        ∀ scope ∈ schemaScopes resolver qualifyArgs package schema, scope.Agrees := by
  constructor
  · rintro ⟨fragments, h⟩
    exact ⟨sound_of_render h, fun _ hscope => agrees_of_render h hscope⟩
  · rintro ⟨hsound, hagrees⟩
    have hjudged := render_judged resolver qualifyArgs package schema
    match hresult : render resolver qualifyArgs package schema, hjudged with
    | .ok fragments, _ => exact ⟨fragments, rfl⟩
    | .error (.schema e), hunsound => exact absurd hsound hunsound
    | .error (.collision c), hc =>
      obtain ⟨scope, hscope, hcheck⟩ := List.mem_map.mp hc
      obtain ⟨s', hok⟩ := (scope.check_ok_iff).mpr (hagrees scope hscope)
      rw [hcheck] at hok
      cases hok

end Render

end Bindery
