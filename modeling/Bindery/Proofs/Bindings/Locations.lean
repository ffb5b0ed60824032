import Bindery.Proofs.Bindings.References

/-!
# Where defects are reported

Rendering stops at the first fault that it meets. If that is not a collision then it is a defect, which is
reported with the type and the field at fault: what is wrong with an entry that has no name of its own is
reported at what owns the list, and what is wrong with an argument at the type and the field that it belongs to.

## Main definitions

- `AnyFault` — the findings about a list of entries
- `InputValue.Fault`, `FieldValue.Fault`, `FullType.Fault` — the findings about the parts of a schema
- `EntryFault` — the findings about an entry of the list of types
- `FullType.Holds` — the references in a type, with their places
- `Reports` — a step of rendering whose defects are reported as some findings only

## Main results

- `renderType_reports` — what is reported of a type is a finding about it
- `exists_faulty_entry` — a refused list of types has a first entry that is refused
- `FullType.Fault.structural_or` — a finding about a reference names the place that holds it
- `refusal_located` — where a refused schema is reported to be at fault
-/

namespace Bindery

/-! ### Findings -/

/-- What there is to find in a list of entries: that an entry is empty, and what is wrong with the others. -/
inductive AnyFault {α : Type} (missing : Finding) (fault : α → Finding → Prop)
    (entries : List (Option α)) : Finding → Prop
  | missing (empty : none ∈ entries) : AnyFault missing fault entries missing
  | entry {a : α} {f : Finding} (mem : some a ∈ entries) (wrong : fault a f) :
      AnyFault missing fault entries f

/-- What there is to find in an argument or input field of `owner`. -/
inductive InputValue.Fault (r : Resolver) (owner : String) (i : InputValue) : Finding → Prop
  | unnamed (unnamed : i.name = "") : Fault r owner i ⟨owner, "", .unnamedInput⟩
  | type {d : Defect} (named : i.name ≠ "") (refused : r.resolve i.type = .error d) :
      Fault r owner i ⟨owner, i.name, d⟩

/-- What there is to find in a field of `owner`. An empty entry in its list of arguments is found at the field
itself, and what is wrong inside an argument is found at the arguments of the field. -/
inductive FieldValue.Fault (r : Resolver) (owner : String) (field : FieldValue) : Finding → Prop
  | unnamed (unnamed : field.name = "") : Fault r owner field ⟨owner, "", .unnamedField⟩
  | type {d : Defect} (named : field.name ≠ "") (refused : r.resolve field.type = .error d) :
      Fault r owner field ⟨owner, field.name, d⟩
  | arguments {f : Finding} (named : field.name ≠ "")
      (wrong : AnyFault ⟨owner, field.name, .emptyArgument⟩
        (InputValue.Fault r (owner ++ "." ++ field.name)) field.args.toList f) :
      Fault r owner field f

/-- What there is to find in a type, which depends on the list that its kind owns. -/
inductive FullType.Fault (r : Resolver) (t : FullType) : Finding → Prop
  | fields {f : Finding} (object : t.kind = .object)
      (wrong : AnyFault ⟨t.name, "", .emptyField⟩ (FieldValue.Fault r t.name) t.fields.toList f) :
      Fault r t f
  | inputFields {f : Finding} (input : t.kind = .inputObject)
      (wrong : AnyFault ⟨t.name, "", .emptyInputField⟩ (InputValue.Fault r t.name)
        t.inputFields.toList f) : Fault r t f
  | enumValues (enum : t.kind = .enum)
      (wrong : ∃ entry ∈ t.enumValues.toList, ∀ v, entry = some v → v.name = "") :
      Fault r t ⟨t.name, "", .unnamedEnumValue⟩
  | unsupported (abstract : t.kind = .interface ∨ t.kind = .union) :
      Fault r t ⟨t.name, "", .unsupportedType t.kind⟩
  | unknown (other : t.kind ∉ [.scalar, .object, .enum, .inputObject, .interface, .union]) :
      Fault r t ⟨t.name, "", .unknownType t.kind⟩

/-- What there is to find in an entry of the list of types. Of a type that belongs to introspection itself,
only the name counts. -/
inductive EntryFault (r : Resolver) : Option FullType → Finding → Prop
  | empty : EntryFault r none ⟨"", "", .emptyType⟩
  | unnamed {t : FullType} (unnamed : t.name = "") :
      EntryFault r (some t) ⟨"", "", .unnamedType t.kind⟩
  | type {t : FullType} {f : Finding} (named : t.name ≠ "") (own : isReserved t.name = false)
      (wrong : t.Fault r f) : EntryFault r (some t) f

/-! ### Steps -/

/-- If the step refuses the schema, then with one of the findings, which nothing else caused. -/
def Reports {α : Type} (P : Finding → Prop) (x : Except RenderError α) : Prop :=
  ∀ e, x = .error (.schema e) → ∃ f, P f ∧ e = ⟨f, [], none⟩

namespace Reports

variable {α β : Type} {P Q : Finding → Prop}

theorem ok (a : α) : Reports P (.ok a) :=
  nofun

theorem of {type field : String} {d : Defect} (h : P ⟨type, field, d⟩) :
    Reports P (.error (.schema (.of type field d)) : Except RenderError α) := by
  rintro e ⟨⟩
  exact ⟨_, h, rfl⟩

theorem mono {x : Except RenderError α} (h : Reports P x) (hPQ : ∀ f, P f → Q f) : Reports Q x := by
  intro e he
  obtain ⟨f, hf, rfl⟩ := h e he
  exact ⟨f, hPQ f hf, rfl⟩

theorem bind {x : Except RenderError α} {k : α → Except RenderError β} (hx : Reports P x)
    (hk : ∀ a, Reports P (k a)) : Reports P (x >>= k) := by
  cases x with
  | ok a => exact hk a
  | error e' =>
    rintro e ⟨⟩
    exact hx e rfl

theorem map {x : Except RenderError α} {g : α → β} (hx : Reports P x) : Reports P (x.map g) := by
  cases x with
  | ok a => exact ok _
  | error e' =>
    rintro e ⟨⟩
    exact hx e rfl

/-- A claim fails with a collision only. -/
theorem claim (s : Scope) (ident name : String) : Reports P (s.claim ident name) := by
  intro e he
  unfold Scope.claim at he
  cases hd : s.declare ident name with
  | ok s' =>
    rw [hd] at he
    cases he
  | error c =>
    rw [hd] at he
    cases he

end Reports

section Entries

variable {α : Type} {missing : Finding} {fault : α → Finding → Prop} {entry : Option α}
  {rest : List (Option α)} {f : Finding}

theorem AnyFault.head {a : α} (h : fault a f) : AnyFault missing fault (some a :: rest) f :=
  .entry List.mem_cons_self h

theorem AnyFault.tail (h : AnyFault missing fault rest f) :
    AnyFault missing fault (entry :: rest) f := by
  cases h with
  | missing empty => exact .missing (List.mem_cons_of_mem _ empty)
  | entry mem wrong => exact .entry (List.mem_cons_of_mem _ mem) wrong

end Entries

/-! ### Arguments and input fields -/

theorem renderInput_reports (r : Resolver) (owner : String) (members : Scope) (input : InputValue) :
    Reports (input.Fault r owner) (renderInput r owner members input) := by
  unfold renderInput
  split
  · next hname => exact .of (.unnamed (by simpa using hname))
  · next hname =>
    refine (Reports.claim _ _ _).bind fun members' => ?_
    cases hresolve : r.resolve input.type with
    | error d => exact .of (.type (by simpa using hname) hresolve)
    | ok type => exact .ok _

theorem renderInputs_reports (r : Resolver) (owner type field : String) (empty : Defect)
    (members : Scope) (inputs : List (Option InputValue)) :
    Reports (AnyFault ⟨type, field, empty⟩ (InputValue.Fault r owner) inputs)
      (renderInputs r owner type field empty members inputs) := by
  induction inputs generalizing members with
  | nil => exact .ok _
  | cons entry rest ih =>
    cases entry with
    | none => exact .of (.missing List.mem_cons_self)
    | some input =>
      refine ((renderInput_reports r owner members input).mono fun _ => .head).bind fun p => ?_
      exact ((ih p.2).mono fun _ => .tail).bind fun _ => .ok _

theorem renderHolder_reports (r : Resolver) (owner holder : String) (field : FieldValue) :
    Reports (AnyFault ⟨owner, field.name, .emptyArgument⟩
        (InputValue.Fault r (owner ++ "." ++ field.name)) field.args.toList)
      (renderHolder r owner holder field) :=
  (renderInputs_reports r _ owner field.name .emptyArgument _ _).bind fun _ => .ok _

/-! ### Fields, constructors and constants -/

theorem renderField_reports (s : Settings) (owner ident : String) (package methods : Scope)
    (field : FieldValue) :
    Reports (field.Fault s.resolver owner) (renderField s owner ident package methods field) := by
  unfold renderField
  split
  · next hname => exact .of (.unnamed (by simpa using hname))
  · next hname =>
    have hnamed : field.name ≠ "" := by simpa using hname
    refine (Reports.claim _ _ _).bind fun methods' => ?_
    cases hresolve : s.resolver.resolve field.type with
    | error d => exact .of (.type hnamed hresolve)
    | ok type =>
      simp only
      split
      · exact .ok _
      · refine (Reports.claim _ _ _).bind fun package' => ?_
        have hholder := renderHolder_reports s.resolver owner (s.holderName owner field.name) field
        exact (hholder.mono fun _ => .arguments hnamed).bind fun _ => .ok _

theorem renderFields_reports (s : Settings) (owner ident : String) (package methods : Scope)
    (fields : List (Option FieldValue)) :
    Reports (AnyFault ⟨owner, "", .emptyField⟩ (FieldValue.Fault s.resolver owner) fields)
      (renderFields s owner ident package methods fields) := by
  induction fields generalizing package methods with
  | nil => exact .ok _
  | cons entry rest ih =>
    cases entry with
    | none => exact .of (.missing List.mem_cons_self)
    | some field =>
      refine ((renderField_reports s owner ident package methods field).mono fun _ => .head).bind
        fun p => ?_
      exact ((ih p.2.2.1 p.2.2.2).mono fun _ => .tail).bind fun _ => .ok _

theorem renderStarts_reports (type ident : String) (package : Scope) (first : Bool)
    (ops : List Operation) (P : Finding → Prop) :
    Reports P (renderStarts type ident package first ops) := by
  induction ops generalizing package first with
  | nil => exact .ok _
  | cons op rest ih =>
    refine (Reports.claim _ _ _).bind fun package' => ?_
    exact (ih package' false).bind fun _ => .ok _

theorem renderConstants_reports (type : String) (package : Scope)
    (values : List (Option EnumValue)) :
    Reports (fun f => (∃ entry ∈ values, ∀ v, entry = some v → v.name = "") ∧
        f = ⟨type, "", .unnamedEnumValue⟩)
      (renderConstants type package values) := by
  induction values generalizing package with
  | nil => exact .ok _
  | cons entry rest ih =>
    cases entry with
    | none => exact .of ⟨⟨none, List.mem_cons_self, by simp⟩, rfl⟩
    | some value =>
      unfold renderConstants
      split
      · next hname => exact .of ⟨⟨some value, List.mem_cons_self, by simpa using hname⟩, rfl⟩
      · refine (Reports.claim _ _ _).bind fun package' => ?_
        have hrest := (ih package').mono fun _ =>
          And.imp_left (List.exists_mem_cons_of_exists (a := some value))
        exact hrest.bind fun _ => .ok _

/-! ### Types -/

/-- What is reported of a type is a finding about it. -/
theorem renderType_reports (s : Settings) (package : Scope) (t : FullType) :
    Reports (t.Fault s.resolver) (renderType s package t) := by
  unfold renderType
  cases hkind : t.kind with
  | object =>
    refine Reports.map ((Reports.claim _ _ _).bind fun package' => ?_)
    have hfields := renderFields_reports s t.name (Naming.identifier t.name) package'
      (Scope.empty (Naming.identifier t.name)) t.fields.toList
    refine (hfields.mono fun _ => .fields hkind).bind fun p => ?_
    exact (renderStarts_reports _ _ _ _ _ _).bind fun _ => .ok _
  | inputObject =>
    refine Reports.map ((Reports.claim _ _ _).bind fun package' => ?_)
    refine Reports.bind (.mono (renderInputs_reports s.resolver _ _ _ _ _ t.inputFields.toList) ?_)
      fun _ => .ok _
    exact fun _ => .inputFields hkind
  | enum =>
    refine Reports.map ((Reports.claim _ _ _).bind fun package' => ?_)
    refine Reports.bind (.mono (renderConstants_reports t.name package' t.enumValues.toList) ?_)
      fun _ => .ok _
    rintro _ ⟨hwrong, rfl⟩
    exact .enumValues hkind hwrong
  | scalar =>
    have hscalar : Reports (t.Fault s.resolver) (renderScalar s package t) := by
      unfold renderScalar
      split
      · exact .ok _
      · exact (Reports.claim _ _ _).bind fun _ => .ok _
    exact hscalar.map
  | interface | union =>
    have hfault := FullType.Fault.unsupported (r := s.resolver) (t := t) (by simp [hkind])
    exact Reports.map (.of (hkind ▸ hfault))
  | list | nonNull | unknown =>
    have hfault := FullType.Fault.unknown (r := s.resolver) (t := t) (by simp [hkind])
    exact Reports.map (.of (hkind ▸ hfault))

/-- If a list of types is refused then it has a first entry that is refused: all before it are rendered, and
with it the list is refused in the same way, with a finding about the entry. -/
theorem exists_faulty_entry {s : Settings} {package : Scope} {types : List (Option FullType)}
    {e : SchemaError} (h : renderTypes s package types = .error (.schema e)) :
    ∃ before entry after, types = before ++ entry :: after ∧
      (∃ fragments, renderTypes s package before = .ok fragments) ∧
      renderTypes s package (before ++ [entry]) = .error (.schema e) ∧
      ∃ f, EntryFault s.resolver entry f ∧ e = ⟨f, [], none⟩ := by
  -- every type leaves a larger scope for the next one, so the scope is left open
  induction types generalizing package with
  | nil => cases h
  | cons entry rest ih =>
    cases entry with
    | none =>
      obtain rfl := RenderError.schema.inj (Except.error.inj h)
      exact ⟨[], none, rest, rfl, ⟨[], rfl⟩, rfl, _, .empty, rfl⟩
    | some t =>
      by_cases hname : t.name = ""
      · rw [renderTypes_of_unnamed hname] at h
        obtain rfl := RenderError.schema.inj (Except.error.inj h)
        exact ⟨[], some t, rest, rfl, ⟨[], rfl⟩, renderTypes_of_unnamed hname _ _, _, .unnamed hname, rfl⟩
      · by_cases hreserved : isReserved t.name = true
        · -- such an entry is passed over, in what comes before the refused one too
          rw [renderTypes_of_isReserved hreserved] at h
          obtain ⟨before, entry, after, rfl, ⟨fragments, hbefore⟩, hfails, hfault⟩ := ih h
          refine ⟨some t :: before, entry, after, rfl, ⟨fragments, ?_⟩, ?_, hfault⟩
          · rw [renderTypes_of_isReserved hreserved, hbefore]
          · rw [List.cons_append, renderTypes_of_isReserved hreserved, hfails]
        · have hcons := renderTypes_of_not_isReserved (s := s) hname hreserved package
          rw [hcons] at h
          cases hrender : renderType s package t with
          | error error =>
            -- the type itself is refused
            rw [hrender] at h
            obtain rfl := Except.error.inj h
            obtain ⟨f, hfault, rfl⟩ := renderType_reports s package t e hrender
            refine ⟨[], some t, rest, rfl, ⟨[], rfl⟩, ?_, f, ?_, rfl⟩
            · rw [List.nil_append, hcons, hrender]
              rfl
            · exact .type hname (by simpa using hreserved) hfault
          | ok rendered =>
            -- the rest is refused, in the scope that the type leaves
            rw [hrender] at h
            obtain ⟨before, entry, after, rfl, ⟨fragments, hbefore⟩, hfails, hfault⟩ :=
              ih (error_of_map_error h)
            refine ⟨some t :: before, entry, after, rfl, ⟨rendered.1 :: fragments, ?_⟩, ?_, hfault⟩
            · rw [hcons, hrender]
              show (renderTypes s rendered.2 before).map _ = _
              rw [hbefore]
              rfl
            · rw [List.cons_append, hcons, hrender]
              show (renderTypes s rendered.2 (before ++ [entry])).map _ = _
              rw [hfails]
              rfl

/-! ### References at fault -/

/-- The references that a type holds, with the type and the field that a report about one of them names. -/
inductive FullType.Holds (t : FullType) : String → String → TypeRef → Prop
  | field {f : FieldValue} (object : t.kind = .object) (mem : some f ∈ t.fields.toList) :
      Holds t t.name f.name f.type
  | argument {f : FieldValue} {a : InputValue} (object : t.kind = .object)
      (mem : some f ∈ t.fields.toList) (arg : some a ∈ f.args.toList) :
      Holds t (t.name ++ "." ++ f.name) a.name a.type
  | inputField {i : InputValue} (input : t.kind = .inputObject) (mem : some i ∈ t.inputFields.toList) :
      Holds t t.name i.name i.type

/-- Whether a defect is one of the schema itself and not of a reference in it. -/
def Defect.isStructural : Defect → Bool
  | emptyType | unnamedType _ | unsupportedType _ | unknownType _ => true
  | emptyField | unnamedField | emptyArgument | emptyInputField => true
  | unnamedInput | unnamedEnumValue => true
  | _ => false

theorem Defect.category_of_isStructural {d : Defect} (h : d.isStructural = true) :
    d.category = some .unsupported ∨ d.category = some .shape := by
  cases d with
  | unsupportedType => exact .inl rfl
  | unsupportedReference | described => cases h
  | _ => exact .inr rfl

theorem Resolver.isStructural_of_resolve_error {r : Resolver} {ref : TypeRef} {d : Defect}
    (h : r.resolve ref = .error d) : d.isStructural = false := by
  induction ref with
  | plain kind name =>
    cases kind with
    | scalar | object | enum | inputObject =>
      simp only [resolve, resolvePlain] at h
      split at h <;> cases h
      rfl
    | _ =>
      cases h
      rfl
  | wrap kind name inner ih =>
    cases kind with
    | nonNull =>
      simp only [resolve] at h
      split at h
      · cases h
        rfl
      · exact ih (error_of_map_error h)
    | list => exact ih (error_of_map_error h)
    | scalar | object | enum | inputObject =>
      simp only [resolve] at h
      split at h <;> cases h <;> rfl
    | _ =>
      cases h
      rfl

section Places

variable {r : Resolver} {owner : String} {f : Finding}

theorem InputValue.Fault.type_eq {i : InputValue} (h : i.Fault r owner f) : f.type = owner := by
  cases h <;> rfl

/-- A finding about a field names its owner, unless it is about one of the arguments. -/
theorem FieldValue.Fault.type_eq {field : FieldValue} (h : field.Fault r owner f) :
    f.type = owner ∨
      ∃ a, some a ∈ field.args.toList ∧ a.Fault r (owner ++ "." ++ field.name) f := by
  cases h with
  | unnamed => exact .inl rfl
  | type => exact .inl rfl
  | arguments named wrong =>
    cases wrong with
    | missing => exact .inl rfl
    | @entry a _ mem wrong => exact .inr ⟨a, mem, wrong⟩

/-- A finding about a type names the type, unless it is about an argument of one of its fields. -/
theorem FullType.Fault.type_eq {t : FullType} (h : t.Fault r f) :
    f.type = t.name ∨
      ∃ field, some field ∈ t.fields.toList ∧ ∃ a, some a ∈ field.args.toList ∧
        a.Fault r (t.name ++ "." ++ field.name) f := by
  cases h with
  | fields _ wrong =>
    cases wrong with
    | missing => exact .inl rfl
    | @entry field _ mem wrong => exact wrong.type_eq.imp_right fun h => ⟨field, mem, h⟩
  | inputFields _ wrong =>
    cases wrong with
    | missing => exact .inl rfl
    | entry mem wrong => exact .inl wrong.type_eq
  | enumValues | unsupported | unknown => exact .inl rfl

/-- What is wrong with an argument or input field, beyond its structure, is its reference. -/
theorem InputValue.Fault.structural_or {i : InputValue} (h : i.Fault r owner f) :
    f.defect.isStructural = true ∨ f.field = i.name ∧ r.resolve i.type = .error f.defect := by
  cases h with
  | unnamed => exact .inl rfl
  | type named refused => exact .inr ⟨rfl, refused⟩

/-- What is wrong with a type, beyond its structure, is a reference at the place that the finding names. -/
theorem FullType.Fault.structural_or {t : FullType} (h : t.Fault r f) :
    f.defect.isStructural = true ∨
      ∃ ref, t.Holds f.type f.field ref ∧ r.resolve ref = .error f.defect := by
  cases h with
  | fields object wrong =>
    cases wrong with
    | missing => exact .inl rfl
    | @entry field _ mem wrong =>
      cases wrong with
      | unnamed => exact .inl rfl
      | type named refused => exact .inr ⟨field.type, .field object mem, refused⟩
      | arguments named wrong =>
        cases wrong with
        | missing => exact .inl rfl
        | @entry a _ arg wrong =>
          refine wrong.structural_or.imp_right ?_
          rintro ⟨hfield, hrefused⟩
          refine ⟨a.type, ?_, hrefused⟩
          rw [wrong.type_eq, hfield]
          exact .argument object mem arg
  | inputFields input wrong =>
    cases wrong with
    | missing => exact .inl rfl
    | @entry i _ mem wrong =>
      refine wrong.structural_or.imp_right ?_
      rintro ⟨hfield, hrefused⟩
      refine ⟨i.type, ?_, hrefused⟩
      rw [wrong.type_eq, hfield]
      exact .inputField input mem
  | enumValues | unsupported | unknown => exact .inl rfl

/-- Every finding is of one of the two classes. -/
theorem EntryFault.category {entry : Option FullType} (h : EntryFault r entry f) :
    f.defect.category = some .unsupported ∨ f.defect.category = some .shape := by
  cases h with
  | empty | unnamed => exact .inr rfl
  | type named own wrong =>
    rcases wrong.structural_or with hstructural | ⟨ref, -, hrefused⟩
    · exact Defect.category_of_isStructural hstructural
    · exact (Resolver.category_of_resolve_error hrefused).imp And.right And.right

end Places

/-! ### Reports -/

/-- If a schema is refused then at its first entry that is empty, has no name, or has a name that does not
belong to introspection and cannot be rendered after the entries before it. The report is about that entry.
It names neither a type nor a field if the entry is empty or has no name. Otherwise it names the type, or the
type and a field if the fault is inside the arguments of the field; and if the defect is that of a reference,
then it names the field, the argument or the input field of the type that holds such a reference. It is
either about something unsupported or about the shape of the schema. -/
theorem refusal_located {resolver : Resolver} {qualifyArgs : Bool} {package : String} {schema : Schema}
    {e : SchemaError} (h : render resolver qualifyArgs package schema = .error (.schema e)) :
    (∃ before entry after, schema.types.toList = before ++ entry :: after ∧
      (∃ fragments, renderTypes (settingsOf resolver qualifyArgs schema)
        (Scope.empty ("package " ++ package)) before = .ok fragments) ∧
      renderTypes (settingsOf resolver qualifyArgs schema)
        (Scope.empty ("package " ++ package)) (before ++ [entry]) = .error (.schema e) ∧
      EntryFault resolver entry e.finding ∧
      ((entry = none ∨ ∃ t, entry = some t ∧ t.name = "") ∧
          e.finding.type = "" ∧ e.finding.field = "" ∨
        ∃ t, entry = some t ∧ t.name ≠ "" ∧ isReserved t.name = false ∧
          (e.finding.type = t.name ∨
            ∃ f, some f ∈ t.fields.toList ∧ e.finding.type = t.name ++ "." ++ f.name ∧
              ∃ a, some a ∈ f.args.toList ∧
                a.Fault resolver (t.name ++ "." ++ f.name) e.finding) ∧
          ((∃ ref, resolver.resolve ref = .error e.finding.defect) →
            ∃ ref, t.Holds e.finding.type e.finding.field ref ∧
              resolver.resolve ref = .error e.finding.defect))) ∧
    e.isA .shape = !e.isA .unsupported := by
  obtain ⟨before, entry, after, hsplit, hrendered, hrefused, f, hfault, rfl⟩ := exists_faulty_entry h
  refine ⟨⟨before, entry, after, hsplit, hrendered, hrefused, hfault, ?_⟩, ?_⟩
  · cases hfault with
    | empty => exact .inl ⟨.inl rfl, rfl, rfl⟩
    | @unnamed t unnamed => exact .inl ⟨.inr ⟨t, rfl, unnamed⟩, rfl, rfl⟩
    | @type t _ named own wrong =>
      refine .inr ⟨t, rfl, named, own, ?_, ?_⟩
      · refine wrong.type_eq.imp_right ?_
        rintro ⟨field, hfield, a, ha, hwrong⟩
        exact ⟨field, hfield, hwrong.type_eq, a, ha, hwrong⟩
      · rintro ⟨ref, hrejected⟩
        -- what a resolver reports is not structural, so that the type holds the reference
        have hstructural := Resolver.isStructural_of_resolve_error hrejected
        exact wrong.structural_or.resolve_left (by simp [hstructural])
  · rcases hfault.category with hcategory | hcategory <;> simp [SchemaError.isA, hcategory]

/-- A string, a type of introspection that nothing is asked of, a search by an interface, and a union. -/
def lookupSchema : Schema :=
  { (default : Schema) with
    types := some [
      some { (default : FullType) with kind := .scalar, name? := some "String" },
      some { (default : FullType) with kind := .union, name? := some "__Any" },
      some { (default : FullType) with
        kind := .object
        name? := some "Query"
        fields := some [some { (default : FieldValue) with
          name := "search"
          type := .plain .scalar (some "String")
          args := some [some { (default : InputValue) with
            name := "by"
            type := .wrap .nonNull none (.plain .interface (some "Node")) }] }] },
      some { (default : FullType) with kind := .union, name? := some "Result" }] }

/-- The search is reported at its argument, before the union. -/
theorem lookupSchema_located :
    render ⟨Resolver.builtin⟩ false "api" lookupSchema =
        .error (.schema (.of "Query.search" "by" (.unsupportedReference .interface "Node"))) ∧
      ∃ before t after ref, lookupSchema.types.toList = before ++ some t :: after ∧
        t.Holds "Query.search" "by" ref ∧
        Resolver.resolve ⟨Resolver.builtin⟩ ref =
          .error (.unsupportedReference .interface "Node") := by
  have hrefused : render ⟨Resolver.builtin⟩ false "api" lookupSchema =
      .error (.schema (.of "Query.search" "by" (.unsupportedReference .interface "Node"))) := by
    decide +kernel
  obtain ⟨⟨before, entry, after, hsplit, -, -, -, hplace⟩, -⟩ := refusal_located hrefused
  rcases hplace with ⟨-, htype, -⟩ | ⟨t, rfl, -, -, -, hholds⟩
  · exact absurd htype (by decide)
  · obtain ⟨ref, href, hresolve⟩ := hholds ⟨.plain .interface (some "Node"), rfl⟩
    exact ⟨hrefused, before, t, after, ref, hsplit, href, hresolve⟩

end Bindery
