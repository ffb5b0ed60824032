import Bindery.Bindings.Print
import Bindery.Proofs.Bindings.Comments
import Bindery.Proofs.Bindings.TypeNames
import Bindery.Proofs.Naming.Identifier
import Bindery.Proofs.Query.ReadBack
import Mathlib.Data.List.Forall2
import Mathlib.Data.List.TFAE

/-!
# Required arguments

Whether an argument is required is decided several times over: by the reference, when arguments are split;
by the resolver, whose expression makes a member a pointer or not; and by the writer of arguments, which
reads the tag of the member. All agree on every argument and input field.

## Main definitions

- `TypeShape.isPointer` — the types that are pointers
- `Member.label` — what the writer of arguments sees of a member
- `Carries` — what a member says about its argument or input field

## Main results

- `Resolver.isNullable_of_resolve` — a resolved type may be absent exactly if the reference allows null
- `Member.parse_tag` — the tag of a member gives back the name and whether an absent value is left out
- `carries_of_isMember` — every member carries its argument or input field
- `writeMembers_of_carries` — what is written of a struct whose members carry arguments
- `holderDoc_eq` — the comment of a holder lists the required members
- `inputs_carried` — the structs for arguments and for input fields
-/

namespace Bindery

/-! ### Types of members -/

/-- Whether the type is a pointer. -/
def TypeShape.isPointer : TypeShape → Bool
  | pointer _ => true
  | _ => false

theorem TypeExpr.isPointer_shape (e : TypeExpr) : e.shape.isPointer = e.isNullable := by
  cases e with
  | named kind p n nullable => cases nullable <;> rfl
  | list e nullable => cases nullable <;> rfl

/-- A resolved type may be absent exactly if its reference does not exclude null. -/
theorem Resolver.isNullable_of_resolve {r : Resolver} {ref : TypeRef} {e : TypeExpr}
    (h : r.resolve ref = .ok e) : e.isNullable = !ref.isNonNull := by
  cases resolves_of_resolve h with
  | @named kind name bindable =>
    have hnamed : (r.named kind name).isNullable = true := by
      unfold named
      split <;> rfl
    rw [hnamed]
    cases kind <;> simp [TypeRef.isNonNull, TypeRef.kind] at bindable ⊢
  | @nonNull _ _ e' => cases e' <;> rfl
  | list => rfl

/-! ### Tags of members -/

/-- What the writer of arguments sees of a member. -/
def Member.label (m : Member) : MemberLabel :=
  ⟨m.ident, m.tag⟩

/-- A character that a literal between back quotes can hold. -/
def isRawChar (c : Char) : Bool :=
  c == '\t' || !(c.toNat < 0x20 || c == '\x60' || c.toNat == 0x7f || c.toNat == 0xfeff)

theorem isRawChar_of_isNameChar {c : Char} (h : Sdl.isNameChar c = true) : isRawChar c = true :=
  Sdl.forall_isNameChar (P := fun c => isRawChar c = true) (by decide +kernel) h

theorem tagLiteral_of_raw {text : String} (h : text.toList.all isRawChar = true) :
    tagLiteral text = "\x60" ++ text ++ "\x60" :=
  if_pos h

section Tags

variable {m : Member} (h : Sdl.isName m.name = true)
include h

/-- The tag gives back the name, and whether an absent value is left out. -/
theorem Member.parse_tag :
    MemberTag.parse m.tag =
      ⟨m.name, some (if m.type.isNullable then ["omitempty"] else [])⟩ := by
  have hcomma : ',' ∉ m.name.toList := Sdl.not_mem_of_isName h (by decide)
  have hname : m.name ≠ "" := Sdl.ne_of_isName h rfl
  cases hnullable : m.type.isNullable with
  | false =>
    have htag : m.tag = m.name := by simp [tag, hnullable]
    rw [htag, MemberTag.parse, if_neg (by simpa using hname), List.splitOn_eq_singleton hcomma]
    simp
  | true =>
    have htag : m.tag = m.name ++ ",omitempty" := by simp [tag, hnullable]
    have hsplit : (m.name ++ ",omitempty").toList.splitOn ',' =
        [m.name.toList, "omitempty".toList] := by
      rw [String.toList_append]
      show List.splitOnP (· == ',') (m.name.toList ++ ',' :: "omitempty".toList) = _
      rw [List.splitOnP_append_cons_of_forall_mem _ _ (by simp)]
      · rfl
      · exact fun c hc => beq_eq_false_iff_ne.mpr fun heq => hcomma (heq ▸ hc)
    rw [htag, MemberTag.parse, if_neg (by simp [hname]), hsplit]
    simp

/-- A name needs no escapes in a tag. -/
theorem Member.tagLiteral_eq :
    tagLiteral ("json:\"" ++ m.tag ++ "\"") = "\x60json:\"" ++ m.tag ++ "\"\x60" := by
  have hname : m.name.toList.all isRawChar = true :=
    List.all_eq_true.mpr fun c hc => isRawChar_of_isNameChar (Sdl.isNameChar_of_mem h hc)
  have htag : m.tag.toList.all isRawChar = true := by
    unfold tag
    split
    · rw [String.toList_append, List.all_append, hname]
      decide
    · exact hname
  have hraw : ("json:\"" ++ m.tag ++ "\"").toList.all isRawChar = true := by
    rw [String.toList_append, String.toList_append, List.all_append, List.all_append, htag]
    decide
  have hopen : "\x60json:\"" = "\x60" ++ "json:\"" := rfl
  have hclose : "\"\x60" = "\"" ++ "\x60" := rfl
  rw [tagLiteral_of_raw hraw, hopen, hclose]
  simp only [String.append_assoc]

theorem Member.written?_label (hvisible : m.label.isVisible = true) :
    m.label.written? = some (m.name, MemberTag.parse m.tag) := by
  have hname : m.name ≠ "" := Sdl.ne_of_isName h rfl
  have hdash : m.name ≠ "-" := Sdl.ne_of_isName h (by decide)
  have htag : m.label.tag = m.tag := rfl
  simp [MemberLabel.written?, hvisible, htag, m.parse_tag h, hname, hdash]

theorem Member.omitsZero_label : m.label.omitsZero = m.type.isNullable := by
  have htag : m.label.tag = m.tag := rfl
  rw [MemberLabel.omitsZero, htag, m.parse_tag h]
  cases m.type.isNullable <;> simp [MemberTag.has]

end Tags

/-! ### Members -/

/-- What a member says about the argument or input field that it carries, one of `inputs`. -/
structure Carries (inputs : List InputValue) (input : InputValue) (m : Member) : Prop where
  /-- The member bears the identifier of the name. -/
  ident : m.ident = Naming.identifier input.name
  /-- All agree on whether the value is required. -/
  required : [input.type.isNonNull = true, input ∈ (splitArgs inputs).1,
    m.type.shape.isPointer = false, (MemberTag.parse m.tag).has "omitempty" = false].TFAE
  /-- The member is written with the type of its shape and with its tag as it is. -/
  cells : ∀ imports, m.cells imports =
    [m.ident, m.type.shape.text imports.nameOf].filter (· != "") ++
      ["\x60json:\"" ++ m.tag ++ "\"\x60"]
  /-- The writer of arguments reads the name of the schema in the tag. -/
  written : m.label.isVisible = true →
    m.label.written? = some (input.name, MemberTag.parse m.tag)
  /-- It leaves a value that says nothing out unless the value is required. -/
  omits : m.label.omitsZero = !input.type.isNonNull

theorem mem_splitArgs_fst {inputs : List InputValue} {input : InputValue} :
    input ∈ (splitArgs inputs).1 ↔ input ∈ inputs ∧ input.type.isNonNull = true := by
  rw [splitArgs, List.partition_eq_filter_filter, List.mem_filter]

/-- Every member carries its argument or input field. -/
theorem carries_of_isMember {r : Resolver} {inputs : List InputValue} {input : InputValue} {m : Member}
    (hmember : IsMember r input m) (hname : Sdl.isName input.name = true) (hmem : input ∈ inputs) :
    Carries inputs input m := by
  obtain ⟨type, hresolve, rfl⟩ := hmember
  have hnullable : type.isNullable = !input.type.isNonNull := Resolver.isNullable_of_resolve hresolve
  have hparse : MemberTag.parse (memberOf input type).tag =
      ⟨input.name, some (if type.isNullable then ["omitempty"] else [])⟩ :=
    Member.parse_tag (m := memberOf input type) hname
  constructor
  case ident => rfl
  case required =>
    apply List.tfae_of_forall (input.type.isNonNull = true)
    intro p hp
    simp only [List.mem_cons, List.not_mem_nil, or_false] at hp
    rcases hp with rfl | rfl | rfl | rfl
    · exact Iff.rfl
    · rw [mem_splitArgs_fst]
      exact and_iff_right hmem
    · show type.shape.isPointer = false ↔ _
      rw [TypeExpr.isPointer_shape, hnullable, Bool.not_eq_false']
    · rw [hparse, hnullable]
      cases input.type.isNonNull <;> simp [MemberTag.has]
  case cells =>
    intro imports
    rw [Member.cells, Member.tagLiteral_eq (m := memberOf input type) hname,
      TypeExpr.code]
  case written => exact Member.written?_label (m := memberOf input type) hname
  case omits =>
    rw [Member.omitsZero_label (m := memberOf input type) hname]
    exact hnullable

/-- Whether the value of an argument or input field is not written: it is absent, or it says nothing and is
not required. -/
def InputValue.isLeftOut (input : InputValue) (v : Value) : Bool :=
  v.isAbsent || (!input.type.isNonNull && v.isZero)

theorem Carries.argumentName? {inputs : List InputValue} {input : InputValue} {m : Member}
    (h : Carries inputs input m) (hvisible : m.label.isVisible = true) (v : Value) :
    Value.argumentName? m.label v =
      if input.isLeftOut v then none else some (Octets.ofString input.name) := by
  have homits : ((MemberTag.parse m.tag).has "omitempty" || (MemberTag.parse m.tag).has "omitzero") =
      !input.type.isNonNull := h.omits
  rw [Value.argumentName?, h.written hvisible]
  show (if (v.isAbsent || (((MemberTag.parse m.tag).has "omitempty" ||
    (MemberTag.parse m.tag).has "omitzero") && v.isZero)) = true then none else _) = _
  rw [homits]
  rfl

/-- The values of a struct are written in the order of the arguments, each under the name of the schema,
except those that are left out. -/
theorem writeMembers_of_carries {all inputs : List InputValue} {members : List Member}
    (h : List.Forall₂ (Carries all) inputs members)
    (hvisible : ∀ m ∈ members, m.label.isVisible = true) (stored : Bool) (values : List Value) :
    Value.writeMembers stored ((members.map Member.label).zip values) =
      ((inputs.zip values).filter fun p => !p.1.isLeftOut p.2).map fun p =>
        (Octets.ofString p.1.name, p.2.write stored) := by
  induction h generalizing values with
  | nil => rfl
  | @cons input m inputs members hcarries _ ih =>
    cases values with
    | nil => rfl
    | cons v values =>
      have hrest := ih (fun m' hm' => hvisible m' (List.mem_cons_of_mem _ hm')) values
      rw [List.map_cons, List.zip_cons_cons, List.zip_cons_cons, Value.writeMembers,
        hcarries.argumentName? (hvisible m List.mem_cons_self), hrest]
      cases hleft : input.isLeftOut v <;> simp [hleft]

/-! ### Comments of holders -/

/-- The identifiers of the required ones among arguments, in their order. -/
def requiredIdents (inputs : List InputValue) : List String :=
  (inputs.filter (·.type.isNonNull)).map (Naming.identifier ·.name)

/-- The lines at the end of a holder's comment that list the required members. -/
def requiredLines : List String → Comment
  | [] => []
  | idents => ["//", "// Required: " ++ String.intercalate ", " idents ++ "."]

theorem mem_of_mem_intercalate {α : Type} {sep : List α} {ls : List (List α)} {a : α}
    (h : a ∈ sep.intercalate ls) : a ∈ sep ∨ ∃ l ∈ ls, a ∈ l := by
  induction ls with
  | nil => cases h
  | cons l rest ih =>
    cases rest with
    | nil =>
      rw [List.intercalate_singleton] at h
      exact .inr ⟨l, List.mem_cons_self, h⟩
    | cons l' rest =>
      rw [List.intercalate_cons_cons, List.mem_append, List.mem_append] at h
      rcases h with (h | h) | h
      · exact .inr ⟨l, List.mem_cons_self, h⟩
      · exact .inl h
      · rcases ih h with hsep | ⟨k, hk, ha⟩
        · exact .inl hsep
        · exact .inr ⟨k, List.mem_cons_of_mem _ hk, ha⟩

theorem requiredNotice_of_ne_nil {idents : List String} (h : idents ≠ []) :
    requiredNotice idents = "Required: " ++ String.intercalate ", " idents ++ "." := by
  cases idents with
  | nil => exact absurd rfl h
  | cons ident rest => rfl

theorem requiredLines_of_ne_nil {idents : List String} (h : idents ≠ []) :
    requiredLines idents = ["//", "// Required: " ++ String.intercalate ", " idents ++ "."] := by
  cases idents with
  | nil => exact absurd rfl h
  | cons ident rest => rfl

/-- The list of the required members is one line. -/
theorem docLines_requiredNotice {inputs : List InputValue}
    (h : ∀ input ∈ inputs, Sdl.isName input.name = true) (hsome : requiredIdents inputs ≠ []) :
    docLines (requiredNotice (requiredIdents inputs)) = [requiredNotice (requiredIdents inputs)] := by
  have hidents : ∀ ident ∈ requiredIdents inputs, ∀ c ∈ ident.toList, Sdl.isNameChar c = true := by
    intro ident hident
    obtain ⟨input, hinput, rfl⟩ := List.mem_map.mp hident
    have hname := h input (List.mem_of_mem_filter hinput)
    exact fun c => Naming.isNameChar_of_mem_identifier fun d => Sdl.isNameChar_of_mem hname
  have hbreak : ∀ c ∈ ("Required: " ++ String.intercalate ", " (requiredIdents inputs)).toList,
      c ≠ '\n' ∧ c ≠ '\r' := by
    intro c hc
    rw [String.toList_append, List.mem_append, String.toList_intercalate] at hc
    rcases hc with hc | hc
    · have hstart : ("Required: ".toList.all fun d => d != '\n' && d != '\r') = true := by decide
      simpa using List.all_eq_true.mp hstart c hc
    · have hcomma : (", ".toList.all fun d => d != '\n' && d != '\r') = true := by decide
      rcases mem_of_mem_intercalate hc with hc | ⟨l, hl, hc⟩
      · simpa using List.all_eq_true.mp hcomma c hc
      · obtain ⟨ident, hident, rfl⟩ := List.mem_map.mp hl
        exact Sdl.forall_isNameChar (P := fun c => c ≠ '\n' ∧ c ≠ '\r') (by decide +kernel)
          (hidents ident hident c hc)
  rw [requiredNotice_of_ne_nil hsome, docLines_sentence hbreak]

/-- The comment of a holder says which field the arguments belong to, and lists the required members in
their order. -/
theorem holderDoc_eq (owner holder : String) {field : FieldValue}
    (h : ∀ input ∈ field.args.values, Sdl.isName input.name = true) :
    holderDoc owner holder field =
      Comment.ofBlocks (holder ++ " holds the arguments of " ++ owner ++ "." ++ field.name ++ ".") [] ++
        requiredLines (requiredIdents field.args.values) := by
  have hrequired : (splitArgs field.args.values).1.map (Naming.identifier ·.name) =
      requiredIdents field.args.values := by
    rw [splitArgs, List.partition_eq_filter_filter]
    rfl
  rw [holderDoc, hrequired]
  by_cases hnone : requiredIdents field.args.values = []
  · rw [hnone, Comment.ofBlocks_of_docLines_nil rfl]
    exact (List.append_nil _).symm
  · rw [Comment.ofBlocks_sentence (docLines_concat_ne_nil _) (docLines_requiredNotice h hnone),
      requiredLines_of_ne_nil hnone, requiredNotice_of_ne_nil hnone, Comment.line_sentence]
    have hline : ∀ text, "// " ++ ("Required: " ++ text ++ ".") = "// Required: " ++ text ++ "." := by
      intro text
      rw [show "// Required: " = "// " ++ "Required: " from rfl]
      simp only [String.append_assoc]
    rw [hline]

/-! ### Structs -/

/-- The entries of a list that has no empty ones. -/
theorem AllEntries.eq_map_some {α : Type} {P : α → Prop} {entries : List (Option α)}
    (h : AllEntries P entries) : entries = (entries.filterMap id).map some := by
  induction entries with
  | nil => rfl
  | cons e rest ih =>
    cases e with
    | none => exact absurd h not_allEntries_cons_none
    | some a =>
      have hrest := ih (allEntries_cons_some.mp h).2
      exact congrArg (some a :: ·) hrest

/-- The members of a struct carry the entries of a list, none of which is empty, and the writer of arguments
writes the values of the struct under the names of the schema. -/
structure Carried (entries : Entries InputValue) (members : List Member) : Prop where
  /-- No entry is empty. -/
  nonempty : entries.toList = entries.values.map some
  /-- There is one member for each value, in their order. -/
  carries : List.Forall₂ (Carries entries.values) entries.values members
  /-- The values of a struct whose members can be seen are written. -/
  written : (∀ m ∈ members, m.label.isVisible = true) → ∀ stored values,
    Value.writeMembers stored ((members.map Member.label).zip values) =
      ((entries.values.zip values).filter fun p => !p.1.isLeftOut p.2).map fun p =>
        (Octets.ofString p.1.name, p.2.write stored)

theorem carried_of_isMember {r : Resolver} {entries : Entries InputValue} {members : List Member}
    (hsound : AllEntries (InputValue.Sound r) entries.toList)
    (hmembers : List.Forall₂ (IsMember r) entries.values members)
    (hnames : ∀ input ∈ entries.values, Sdl.isName input.name = true) : Carried entries members := by
  have hcarries : List.Forall₂ (Carries entries.values) entries.values members := by
    have hnamed : List.Forall₂ (fun input m => (input ∈ entries.values ∧
        Sdl.isName input.name = true) ∧ IsMember r input m) entries.values members :=
      (List.forall₂_and_left _ _).mpr ⟨fun input hmem => ⟨hmem, hnames input hmem⟩, hmembers⟩
    exact hnamed.imp fun input m h => carries_of_isMember h.2 h.1.2 h.1.1
  exact ⟨hsound.eq_map_some, hcarries, writeMembers_of_carries hcarries⟩

/-- What comes out for an input object. -/
theorem inputs_of_renderInputObject {s : Settings} {package package' : Scope} {t : FullType}
    {decls : List Declaration} (h : renderInputObject s package t = .ok (decls, package')) :
    AllEntries (InputValue.Sound s.resolver) t.inputFields.toList ∧
      ∃ members, List.Forall₂ (IsMember s.resolver) t.inputFields.values members ∧
        decls = [.inputs (Comment.ofBlocks t.description []) (Naming.identifier t.name) members] := by
  have hjudged := renderInputs_judged s.resolver t.name t.name "" .emptyInputField
    (Scope.empty (Naming.identifier t.name)) t.inputFields.toList
  simp only [renderInputObject] at h
  cases hclaim : package.claim (Naming.identifier t.name) t.name with
  | error e =>
    rw [hclaim] at h
    cases h
  | ok package'' =>
    cases hmembers : renderInputs s.resolver t.name t.name "" .emptyInputField
        (Scope.empty (Naming.identifier t.name)) t.inputFields.toList with
    | error e =>
      rw [hclaim, hmembers] at h
      cases h
    | ok members =>
      rw [hclaim, hmembers] at h
      rw [hmembers] at hjudged
      cases h
      exact ⟨hjudged.1, members, hjudged.2.2, rfl⟩

/-- The structs for the arguments of a field and for the fields of an input object carry what they stand
for, and the comment of the former lists its required members. -/
theorem inputs_carried (s : Settings) :
    (∀ owner holder field decl, (∀ input ∈ field.args.values, Sdl.isName input.name = true) →
      renderHolder s.resolver owner holder field = .ok decl →
      ∃ members, Carried field.args members ∧ decl = .inputs
        (Comment.ofBlocks (holder ++ " holds the arguments of " ++ owner ++ "." ++ field.name ++ ".") [] ++
          requiredLines (requiredIdents field.args.values)) holder members) ∧
    ∀ package package' t decls, (∀ input ∈ t.inputFields.values, Sdl.isName input.name = true) →
      renderInputObject s package t = .ok (decls, package') →
      ∃ members, Carried t.inputFields members ∧
        decls = [.inputs (Comment.ofBlocks t.description []) (Naming.identifier t.name) members] := by
  constructor
  · intro owner holder field decl hnames hrender
    have hjudged := renderHolder_judged s.resolver owner holder field
    rw [hrender] at hjudged
    obtain ⟨hsound, -, members, hmembers, rfl⟩ := hjudged
    rw [holderDoc_eq owner holder hnames]
    exact ⟨members, carried_of_isMember hsound hmembers hnames, rfl⟩
  · intro package package' t decls hnames hrender
    obtain ⟨hsound, members, hmembers, rfl⟩ := inputs_of_renderInputObject hrender
    exact ⟨members, carried_of_isMember hsound hmembers hnames, rfl⟩

/-- Two required values, one of them a list, between two optional ones. -/
def transferInputs : Entries InputValue :=
  some [
    some { (default : InputValue) with name := "note", type := .plain .scalar (some "String") },
    some { (default : InputValue) with
      name := "account_id", type := .wrap .nonNull none (.plain .scalar (some "ID")) },
    some { (default : InputValue) with
      name := "tags", type := .wrap .list none (.wrap .nonNull none (.plain .scalar (some "String"))) },
    some { (default : InputValue) with
      name := "shares"
      type := .wrap .nonNull none (.wrap .list none (.plain .scalar (some "Int"))) }]

/-- A field with these arguments. -/
def transferField : FieldValue :=
  { (default : FieldValue) with name := "transfer", args := transferInputs }

/-- An input object with these fields. -/
def transferInput : FullType :=
  { (default : FullType) with
    kind := .inputObject, name? := some "TransferInput", inputFields := transferInputs }

/-- The members of their structs. -/
def transferMembers : List Member :=
  [⟨[], "Note", .named .scalar "" "string" true, "note"⟩,
    ⟨[], "AccountID", .named .scalar "" "string" false, "account_id"⟩,
    ⟨[], "Tags", .list (.named .scalar "" "string" false) true, "tags"⟩,
    ⟨[], "Shares", .list (.named .scalar "" "int32" true) false, "shares"⟩]

/-- Both structs have these members, which carry the values, and the comment of the holder lists the two
required ones. -/
theorem transfer_carried :
    (∀ input ∈ transferInputs.values, Sdl.isName input.name = true) ∧
      renderHolder ⟨Resolver.builtin⟩ "Mutation" "TransferArgs" transferField =
        .ok (.inputs ["// TransferArgs holds the arguments of Mutation.transfer.", "//",
          "// Required: AccountID, Shares."] "TransferArgs" transferMembers) ∧
      (∃ package, renderInputObject ⟨⟨Resolver.builtin⟩, false, [], []⟩ (Scope.empty "package gen")
        transferInput = .ok ([.inputs [] "TransferInput" transferMembers], package)) ∧
      Carried transferField.args transferMembers ∧ Carried transferInput.inputFields transferMembers := by
  have hnames : ∀ input ∈ transferInputs.values, Sdl.isName input.name = true := by decide +kernel
  have hholder : (renderHolder ⟨Resolver.builtin⟩ "Mutation" "TransferArgs" transferField).toOption.map id =
      some (.inputs ["// TransferArgs holds the arguments of Mutation.transfer.", "//",
        "// Required: AccountID, Shares."] "TransferArgs" transferMembers) := by
    decide +kernel
  have hinput : (renderInputObject ⟨⟨Resolver.builtin⟩, false, [], []⟩ (Scope.empty "package gen")
      transferInput).toOption.map Prod.fst = some [.inputs [] "TransferInput" transferMembers] := by
    decide +kernel
  obtain ⟨_, hholder, rfl⟩ := exists_ok_of_toOption hholder
  obtain ⟨⟨_, package⟩, hinput, rfl⟩ := exists_ok_of_toOption hinput
  obtain ⟨members, hcarried, hdecl⟩ :=
    (inputs_carried ⟨⟨Resolver.builtin⟩, false, [], []⟩).1 _ _ _ _ hnames hholder
  obtain ⟨members', hcarried', hdecls⟩ :=
    (inputs_carried ⟨⟨Resolver.builtin⟩, false, [], []⟩).2 _ _ _ _ hnames hinput
  have hmembers : transferMembers = members := (Declaration.inputs.inj hdecl).2.2
  have hmembers' : transferMembers = members' :=
    (Declaration.inputs.inj (List.cons.inj hdecls).1).2.2
  exact ⟨hnames, hholder, ⟨package, hinput⟩, hmembers ▸ hcarried, hmembers' ▸ hcarried'⟩

end Bindery
