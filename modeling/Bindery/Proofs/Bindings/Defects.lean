import Bindery.Proofs.Bindings.Locations

/-!
# The defects of a schema

What is wrong with a schema can be read off it without rendering it: entries that are empty or have no
name, references that cannot be resolved, and kinds of types that have no binding. What rendering reports,
if it is not a collision, is one of these defects.

## Main definitions

- `Schema.defects` — all that is wrong with a schema, with the defects of its parts
- `Refuses` — a step of rendering that refuses a schema for one of some defects only

## Main results

- `render_refuses` — rendering refuses a schema for one of its defects
-/

namespace Bindery

/-- The defects of a list of entries, where an empty entry is the defect `missing`. -/
def entryDefects {α : Type} (missing : Defect) (defects : α → List Defect)
    (entries : List (Option α)) : List Defect :=
  entries.flatMap fun entry => entry.elim [missing] defects

/-- The defect of something without a name. -/
def nameDefects (unnamed : Defect) (name : String) : List Defect :=
  if name = "" then [unnamed] else []

/-- The defect of a reference, if it cannot be resolved. -/
def Resolver.defects (r : Resolver) (ref : TypeRef) : List Defect :=
  match r.resolve ref with
  | .ok _ => []
  | .error defect => [defect]

/-- The defects of an argument or input field. -/
def InputValue.defects (r : Resolver) (i : InputValue) : List Defect :=
  nameDefects .unnamedInput i.name ++ r.defects i.type

/-- The defects of a field. -/
def FieldValue.defects (r : Resolver) (f : FieldValue) : List Defect :=
  nameDefects .unnamedField f.name ++ r.defects f.type ++
    entryDefects .emptyArgument (InputValue.defects r) f.args.toList

/-- The defects of a type, which depend on the list that its kind owns. -/
def FullType.defects (r : Resolver) (t : FullType) : List Defect :=
  match t.kind with
  | .object => entryDefects .emptyField (FieldValue.defects r) t.fields.toList
  | .inputObject => entryDefects .emptyInputField (InputValue.defects r) t.inputFields.toList
  | .enum =>
    entryDefects .unnamedEnumValue (nameDefects .unnamedEnumValue ·.name) t.enumValues.toList
  | .scalar => []
  | .interface => [.unsupportedType t.kind]
  | .union => [.unsupportedType t.kind]
  | _ => [.unknownType t.kind]

/-- The defects of a type among others. Of a type that belongs to introspection itself, only the name
counts. -/
def FullType.listedDefects (r : Resolver) (t : FullType) : List Defect :=
  nameDefects (.unnamedType t.kind) t.name ++ if isReserved t.name then [] else t.defects r

/-- The defects of a schema. -/
def Schema.defects (r : Resolver) (schema : Schema) : List Defect :=
  entryDefects .emptyType (FullType.listedDefects r) schema.types.toList

/-- If the step refuses the schema, then for one of the defects. -/
def Refuses {α : Type} (defects : List Defect) (x : Except RenderError α) : Prop :=
  ∀ e, x = .error (.schema e) → ∃ d ∈ defects, ∃ type field, e = .of type field d

theorem unnamed_mem_nameDefects {unnamed : Defect} {name : String} (h : name = "") :
    unnamed ∈ nameDefects unnamed name := by
  rw [nameDefects, if_pos h]
  exact List.mem_cons_self

theorem mem_entryDefects {α : Type} {missing d : Defect} {defects : α → List Defect}
    {entry : Option α} {entries : List (Option α)} (hentry : entry ∈ entries)
    (hd : d ∈ entry.elim [missing] defects) : d ∈ entryDefects missing defects entries :=
  List.mem_flatMap.mpr ⟨entry, hentry, hd⟩

theorem Resolver.mem_defects {r : Resolver} {ref : TypeRef} {d : Defect} :
    d ∈ r.defects ref ↔ r.resolve ref = .error d := by
  unfold defects
  cases r.resolve ref with
  | ok type => simp
  | error defect => simp [eq_comm]

/-! ### Findings -/

section Findings

variable {r : Resolver} {owner : String} {f : Finding}

theorem AnyFault.mem_entryDefects {α : Type} {missing : Finding} {fault : α → Finding → Prop}
    {entries : List (Option α)} {defects : α → List Defect} (h : AnyFault missing fault entries f)
    (hentry : ∀ a, fault a f → f.defect ∈ defects a) :
    f.defect ∈ entryDefects missing.defect defects entries := by
  cases h with
  | missing empty => exact Bindery.mem_entryDefects empty List.mem_cons_self
  | @entry a _ mem wrong => exact Bindery.mem_entryDefects mem (hentry a wrong)

theorem InputValue.Fault.mem_defects {i : InputValue} (h : i.Fault r owner f) :
    f.defect ∈ i.defects r := by
  cases h with
  | unnamed unnamed => exact List.mem_append_left _ (unnamed_mem_nameDefects unnamed)
  | type _ refused => exact List.mem_append_right _ (Resolver.mem_defects.mpr refused)

theorem FieldValue.Fault.mem_defects {field : FieldValue} (h : field.Fault r owner f) :
    f.defect ∈ field.defects r := by
  cases h with
  | unnamed unnamed =>
    exact List.mem_append_left _ (List.mem_append_left _ (unnamed_mem_nameDefects unnamed))
  | type _ refused =>
    exact List.mem_append_left _ (List.mem_append_right _ (Resolver.mem_defects.mpr refused))
  | arguments _ wrong =>
    exact List.mem_append_right _ (wrong.mem_entryDefects fun _ h => h.mem_defects)

theorem FullType.Fault.mem_defects {t : FullType} (h : t.Fault r f) : f.defect ∈ t.defects r := by
  unfold FullType.defects
  cases h with
  | fields object wrong =>
    rw [object]
    exact wrong.mem_entryDefects fun _ h => h.mem_defects
  | inputFields input wrong =>
    rw [input]
    exact wrong.mem_entryDefects fun _ h => h.mem_defects
  | enumValues enum wrong =>
    rw [enum]
    obtain ⟨entry, hentry, hunnamed⟩ := wrong
    refine Bindery.mem_entryDefects hentry ?_
    cases entry with
    | none => exact List.mem_cons_self
    | some v => exact unnamed_mem_nameDefects (hunnamed v rfl)
  | unsupported abstract => rcases abstract with hkind | hkind <;> simp [hkind]
  | unknown other =>
    cases hkind : t.kind with
    | list | nonNull | unknown => exact List.mem_cons_self
    | _ => simp [hkind] at other

theorem EntryFault.mem_defects {entry : Option FullType} (h : EntryFault r entry f) :
    f.defect ∈ entry.elim [.emptyType] (FullType.listedDefects r) := by
  cases h with
  | empty => exact List.mem_cons_self
  | unnamed unnamed => exact List.mem_append_left _ (unnamed_mem_nameDefects unnamed)
  | @type t _ _ own wrong =>
    have hlisted : t.defects r ⊆ t.listedDefects r := by
      rw [FullType.listedDefects, own]
      exact List.subset_append_right _ _
    exact hlisted wrong.mem_defects

end Findings

/-- Rendering refuses a schema for one of its defects. -/
theorem render_refuses (resolver : Resolver) (qualifyArgs : Bool) (package : String)
    (schema : Schema) :
    Refuses (schema.defects resolver) (render resolver qualifyArgs package schema) := by
  intro e he
  obtain ⟨before, entry, after, hsplit, -, -, f, hfault, rfl⟩ := exists_faulty_entry he
  refine ⟨f.defect, mem_entryDefects ?_ hfault.mem_defects, f.type, f.field, rfl⟩
  rw [hsplit]
  exact List.mem_append_right _ List.mem_cons_self

end Bindery
