import Bindery.Proofs.Bindings.Required
import Bindery.Proofs.Naming.Exported

/-!
# The identifiers that bindings declare

Bindings are used from other packages, and the members of their structs are found by name when arguments are
written, so every identifier that they declare has to be exported. It is, if the names of the schema are
lettered: types, methods and members bear the identifiers of such names, and holders, constructors and
constants have more words before or after them. An exported identifier is none of the words that the language
or the handles of objects have taken, because those begin with small letters.

`Declaration.identifiers` collects what a declaration declares, `FullType.Lettered` says which names a type
may have, and `render_identifiers_exported` is the main result.
-/

namespace Bindery

/-- The types that the language declares. -/
def Source.predeclaredTypes : List String :=
  ["any", "bool", "byte", "comparable", "complex64", "complex128", "error", "float32", "float64", "int",
   "int8", "int16", "int32", "int64", "rune", "string", "uint", "uint8", "uint16", "uint32", "uint64",
   "uintptr"]

/-- The members of the handle of an object. -/
def handleMembers : List String :=
  ["conn", "proc", "selection"]

namespace Declaration

/-- The members of the struct that a declaration declares. -/
def members : Declaration → List Member
  | inputs _ _ members => members
  | _ => []

/-- The identifiers that a declaration declares: those of types, members, functions, methods and
constants. -/
def identifiers : Declaration → List String
  | inputs _ ident members => ident :: members.map (·.ident)
  | handle _ ident => [ident]
  | start _ ident _ _ => [ident]
  | accessor _ _ method _ _ _ => [method]
  | newtype _ ident => [ident]
  | constants _ values => values.map (·.ident)
  | literal _ => ["MarshalGQL"]

end Declaration

/-- The names of a type, its fields, arguments and input fields are lettered, and its enum values have names
of the schema language. -/
structure FullType.Lettered (t : FullType) : Prop where
  name : Naming.isLettered t.name = true
  fields : ∀ f ∈ t.fields.values, Naming.isLettered f.name = true
  arguments : ∀ f ∈ t.fields.values, ∀ a ∈ f.args.values, Naming.isLettered a.name = true
  inputFields : ∀ i ∈ t.inputFields.values, Naming.isLettered i.name = true
  enumValues : ∀ v ∈ t.enumValues.values, Sdl.isName v.name = true

instance : DecidablePred FullType.Lettered := fun t =>
  decidable_of_iff
    (Naming.isLettered t.name = true ∧ (∀ f ∈ t.fields.values, Naming.isLettered f.name = true) ∧
      (∀ f ∈ t.fields.values, ∀ a ∈ f.args.values, Naming.isLettered a.name = true) ∧
      (∀ i ∈ t.inputFields.values, Naming.isLettered i.name = true) ∧
      ∀ v ∈ t.enumValues.values, Sdl.isName v.name = true)
    ⟨fun h => ⟨h.1, h.2.1, h.2.2.1, h.2.2.2.1, h.2.2.2.2⟩,
      fun h => ⟨h.name, h.fields, h.arguments, h.inputFields, h.enumValues⟩⟩

/-! ### Words before and after identifiers -/

theorem isNameChar_of_mem_lettered {name : String} (h : Naming.isLettered name = true) {c : Char}
    (hc : c ∈ (Naming.identifier name).toList) : Sdl.isNameChar c = true := by
  have hname : Sdl.isName name = true := (Bool.and_eq_true_iff.mp h).1
  exact Naming.isNameChar_of_mem_identifier (fun d hd => Sdl.isNameChar_of_mem hname hd) hc

theorem Settings.isExported_holderName (s : Settings) {owner field : String}
    (howner : Naming.isLettered owner = true) (hfield : Naming.isLettered field = true) :
    Source.isExported (s.holderName owner field) = true := by
  have hargs : ∀ c ∈ "Args".toList, Sdl.isNameChar c = true :=
    List.all_eq_true.mp (by decide : "Args".toList.all Sdl.isNameChar = true)
  simp only [holderName]
  split
  · refine Naming.isExported_append (Naming.isExported_append ?_ ?_) hargs
    · exact Naming.isExported_identifier howner
    · exact fun c hc => isNameChar_of_mem_lettered hfield hc
  · exact Naming.isExported_append (Naming.isExported_identifier hfield) hargs

/-- Constructors have a word before the identifier of their type, and all but the first one have the
operation after it. -/
theorem isExported_startIdents {ident : String} (hident : ∀ c ∈ ident.toList, Sdl.isNameChar c = true)
    {first : Bool} {ops : List Operation} {start : String × Operation}
    (hstart : start ∈ startIdents ident first ops) : Source.isExported start.1 = true := by
  have hplain : Source.isExported ("New" ++ ident) = true := Naming.isExported_append (by decide) hident
  have hkeyword : ∀ op : Operation, ∀ c ∈ (Naming.identifier op.keyword).toList,
      Sdl.isNameChar c = true := by
    intro op c hc
    have hlettered : Naming.isLettered op.keyword = true := by cases op <;> decide +kernel
    exact isNameChar_of_mem_lettered hlettered hc
  induction ops generalizing first with
  | nil => cases hstart
  | cons op rest ih =>
    rcases List.mem_cons.mp hstart with rfl | hrest
    · simp only
      split
      · exact hplain
      · exact Naming.isExported_append hplain (hkeyword op)
    · exact ih hrest

/-! ### Declarations -/

theorem isExported_members {r : Resolver} {inputs : List InputValue} {members : List Member}
    (hmembers : List.Forall₂ (IsMember r) inputs members)
    (hinputs : ∀ i ∈ inputs, Naming.isLettered i.name = true) :
    ∀ m ∈ members, Source.isExported m.ident = true := by
  intro m hm
  obtain ⟨input, hinput, type, -, rfl⟩ := exists_of_mem_right hmembers hm
  exact Naming.isExported_identifier (hinputs input hinput)

/-- The members that a declaration of a lettered type declares are exported. -/
theorem Binds.isExported_members {s : Settings} {t : FullType} {d : Declaration} (h : Binds s t d)
    (ht : t.Lettered) : ∀ m ∈ d.members, Source.isExported m.ident = true := by
  cases h with
  | @holder f _ _ hf hd =>
    obtain ⟨members, hmembers, rfl⟩ := hd
    exact Bindery.isExported_members hmembers (ht.arguments f (List.mem_of_mem_filter hf))
  | inputObject _ hmembers => exact Bindery.isExported_members hmembers ht.inputFields
  | accessor _ _ hd =>
    obtain ⟨type, -, rfl⟩ := hd
    exact nofun
  | handle | start | newtype | constants | literal => exact nofun

/-- All identifiers that a declaration of a lettered type declares are exported. -/
theorem Binds.isExported_identifiers {s : Settings} {t : FullType} {d : Declaration} (h : Binds s t d)
    (ht : t.Lettered) : ∀ i ∈ d.identifiers, Source.isExported i = true := by
  have hmembers := h.isExported_members ht
  have hown : Source.isExported (Naming.identifier t.name) = true := Naming.isExported_identifier ht.name
  cases h with
  | @holder f _ _ hf hd =>
    obtain ⟨members, -, rfl⟩ := hd
    intro i hi
    rcases List.mem_cons.mp hi with rfl | hi
    · exact s.isExported_holderName ht.name (ht.fields f (List.mem_of_mem_filter hf))
    · obtain ⟨m, hm, rfl⟩ := List.mem_map.mp hi
      exact hmembers m hm
  | inputObject =>
    intro i hi
    rcases List.mem_cons.mp hi with rfl | hi
    · exact hown
    · obtain ⟨m, hm, rfl⟩ := List.mem_map.mp hi
      exact hmembers m hm
  | handle | newtype => exact List.forall_mem_singleton.mpr hown
  | start _ hstart =>
    refine List.forall_mem_singleton.mpr (isExported_startIdents ?_ hstart)
    exact fun c hc => isNameChar_of_mem_lettered ht.name hc
  | @accessor f _ _ hf hd =>
    obtain ⟨type, -, rfl⟩ := hd
    exact List.forall_mem_singleton.mpr (Naming.isExported_identifier (ht.fields f hf))
  | constants =>
    intro i hi
    obtain ⟨c, hc, rfl⟩ := List.mem_map.mp hi
    obtain ⟨v, hv, rfl⟩ := List.mem_map.mp hc
    exact Naming.isExported_constantIdentifier ht.name (ht.enumValues v hv)
  | literal => exact List.forall_mem_singleton.mpr (by decide)

/-! ### Words that are taken -/

/-- Words that begin with small letters are not exported. -/
theorem notMem_of_isExported {s : String} {words : List String}
    (hwords : words.all (fun w => !Source.isExported w) = true) (hs : Source.isExported s = true) :
    s ∉ words := by
  intro hmem
  have hnot := List.all_eq_true.mp hwords s hmem
  rw [hs] at hnot
  cases hnot

/-- A member with an exported identifier can be seen where arguments are written. -/
theorem Member.isVisible_label {m : Member} (h : Source.isExported m.ident = true) :
    m.label.isVisible = true := by
  unfold Source.isExported at h
  unfold MemberLabel.isVisible
  have hlabel : m.label.name = m.ident := rfl
  rw [hlabel]
  split at h
  · cases h
  · next c rest hlist =>
    rw [hlist]
    have hrange : c.isUpper = decide ('A' ≤ c ∧ c ≤ 'Z') := rfl
    have hupper : c.isUpper = true := (Bool.and_eq_true_iff.mp h).1
    rwa [hrange, Bool.decide_and] at hupper

/-- Every identifier in the bindings of a schema with lettered names is exported. So it is no keyword, no
type that the language declares and no member of a handle, and no member of a struct is passed over where
arguments are written because it cannot be seen. -/
theorem render_identifiers_exported {resolver : Resolver} {qualifyArgs : Bool} {package : String}
    {schema : Schema} {fragments : List Fragment} (hnames : ∀ t ∈ schema.ownTypes, t.Lettered)
    (h : render resolver qualifyArgs package schema = .ok fragments) :
    ∀ fragment ∈ fragments, ∀ d ∈ fragment.decls,
      (∀ ident ∈ d.identifiers, Source.isExported ident = true ∧ ident ∉ Source.keywords ∧
        ident ∉ Source.predeclaredTypes ∧ ident ∉ handleMembers) ∧
      ∀ m ∈ d.members, m.label.isVisible = true := by
  intro fragment hfragment d hd
  obtain ⟨t, ht, -, hrenders⟩ := exists_of_mem_right (fragments_of_render h) hfragment
  have hbinds : Binds (settingsOf resolver qualifyArgs schema) t d := hrenders.binds hd
  constructor
  · intro ident hident
    have hexported := hbinds.isExported_identifiers (hnames t ht) ident hident
    refine ⟨hexported, ?_, ?_, ?_⟩
    · exact notMem_of_isExported (by decide) hexported
    · exact notMem_of_isExported (by decide) hexported
    · exact notMem_of_isExported (by decide) hexported
  · intro m hm
    exact Member.isVisible_label (hbinds.isExported_members (hnames t ht) m hm)

/-- A shelf whose names have underscores, digits and initialisms in all places. -/
def shelfSchema : Schema :=
  { (default : Schema) with
    queryType := some ⟨some "_shelf"⟩
    mutationType := some ⟨some "_shelf"⟩
    types := some [
      some { (default : FullType) with
        kind := .object
        name? := some "_shelf"
        fields := some [
          some { (default : FieldValue) with
            name := "book_by_id2_3"
            type := .plain .object (some "_shelf")
            args := some [
              some { (default : InputValue) with
                name := "__isbn"
                type := .wrap .nonNull none (.plain .scalar (some "uRLs")) },
              some { (default : InputValue) with
                name := "IDs_"
                type := .wrap .list none (.plain .inputObject (some "sort_2")) }] }] },
      some { (default : FullType) with
        kind := .inputObject
        name? := some "sort_2"
        inputFields := some [
          some { (default : InputValue) with
            name := "type"
            type := .plain .enum (some "http_state") }] },
      some { (default : FullType) with
        kind := .enum
        name? := some "http_state"
        enumValues := some [
          some { (default : EnumValue) with name := "_" },
          some { (default : EnumValue) with name := "OK_200" },
          some { (default : EnumValue) with name := "__4x" }] },
      some { (default : FullType) with kind := .scalar, name? := some "uRLs" }] }

/-- The identifiers that the bindings of the shelf declare, in their order. -/
def shelfIdentifiers : List String :=
  ["ShelfBookByID2_3Args", "Isbn", "IDs", "Shelf", "NewShelf", "NewShelfMutation", "BookByID2_3", "Sort2",
   "Type", "HTTPState", "HTTPState_", "HTTPStateOk200", "HTTPState4x", "MarshalGQL", "URLs"]

theorem shelf_identifiers_exported :
    (∀ t ∈ shelfSchema.ownTypes, t.Lettered) ∧
      ∃ fragments, render ⟨Resolver.builtin⟩ true "gen" shelfSchema = .ok fragments ∧
        (fragments.flatMap fun f => f.decls.flatMap (·.identifiers)) = shelfIdentifiers ∧
        ∀ fragment ∈ fragments, ∀ d ∈ fragment.decls,
          (∀ ident ∈ d.identifiers, Source.isExported ident = true ∧ ident ∉ Source.keywords ∧
            ident ∉ Source.predeclaredTypes ∧ ident ∉ handleMembers) ∧
          ∀ m ∈ d.members, m.label.isVisible = true := by
  have hnames : ∀ t ∈ shelfSchema.ownTypes, t.Lettered := by decide +kernel
  have hrendered : (render ⟨Resolver.builtin⟩ true "gen" shelfSchema).toOption.map
      (fun fragments => fragments.flatMap fun f => f.decls.flatMap (·.identifiers)) =
        some shelfIdentifiers := by
    decide +kernel
  obtain ⟨fragments, hrender, hidentifiers⟩ := exists_ok_of_toOption hrendered
  exact ⟨hnames, fragments, hrender, hidentifiers, render_identifiers_exported hnames hrender⟩

end Bindery
