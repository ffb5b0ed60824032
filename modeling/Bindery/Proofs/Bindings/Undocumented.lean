import Bindery.Proofs.Bindings.Comments
import Bindery.Proofs.Bindings.Relevance
import Bindery.Proofs.Source.Directives

/-!
# Schemas without documentation

The texts of a schema that speak to readers are descriptions, reasons of deprecation and default values. A
schema without them is rendered to the same declarations with fewer comments, or to the same error.

## Main definitions

- `Schema.undocumented` — a schema without descriptions, deprecations and default values
- `Declaration.code`, `Declaration.comments` — a declaration without its comments, and their lines
- `Declaration.Documents` — the same declaration with more comments

## Main results

- `isDocLine_ofBlocks` — what a line of a comment is
- `render_undocumented` — a schema without documentation has the same declarations
-/

namespace Bindery

/-! ### Documentation left out -/

/-- The argument or input field without its description and its default value. -/
def InputValue.undocumented (i : InputValue) : InputValue :=
  { i with description := none, defaultValue := none }

/-- The field without its description, its deprecation and the documentation of its arguments. -/
def FieldValue.undocumented (f : FieldValue) : FieldValue :=
  { f with
    description := none
    deprecationReason := none
    isDeprecated := false
    args := f.args.map .undocumented }

/-- The enum value without its description and its deprecation. -/
def EnumValue.undocumented (v : EnumValue) : EnumValue :=
  { v with description := none, deprecationReason := none, isDeprecated := false }

/-- The type without its description and the documentation of what it consists of. -/
def FullType.undocumented (t : FullType) : FullType :=
  { t with
    description? := none
    fields := t.fields.map .undocumented
    inputFields := t.inputFields.map .undocumented
    enumValues := t.enumValues.map .undocumented }

/-- The schema without descriptions, deprecations and default values. -/
def Schema.undocumented (s : Schema) : Schema :=
  { s with types := s.types.map .undocumented }

/-! ### Comments of declarations -/

/-- A line that begins with the comment mark and holds no line feed. -/
def IsDocLine (l : String) : Prop :=
  Source.IsCommentLine l ∧ Source.isOneLine l = true

theorem isDocLine_line {text : String} (h : Source.isOneLine text = true) :
    IsDocLine (Comment.line text) := by
  rw [Comment.line]
  split
  · exact ⟨⟨[], rfl⟩, rfl⟩
  · refine ⟨Source.IsCommentLine.append ⟨_, rfl⟩ text, ?_⟩
    rw [Source.isOneLine_append, h]
    rfl

/-- Every line of a comment begins with the comment mark and holds no line feed. -/
theorem isDocLine_ofBlocks (description : String) (paragraphs : List String) :
    ∀ l ∈ Comment.ofBlocks description paragraphs, IsDocLine l := by
  intro l h
  rcases Comment.exists_of_mem_layout h with rfl | ⟨block, hblock, text, htext, rfl⟩
  · exact isDocLine_line rfl
  · obtain ⟨block, -, rfl⟩ := List.mem_map.mp hblock
    obtain ⟨line, hline, rfl⟩ := List.mem_map.mp htext
    apply isDocLine_line
    rw [Source.isOneLine_iff, String.toList_ofList]
    exact feed_notMem_of_mem_linesOf hline

/-- The member without its comment. -/
def Member.code (m : Member) : Member :=
  { m with doc := [] }

/-- The constant without its comment. -/
def Constant.code (c : Constant) : Constant :=
  { c with doc := [] }

namespace Declaration

/-- The declaration without its comments. -/
def code : Declaration → Declaration
  | inputs _ ident members => inputs [] ident (members.map Member.code)
  | handle _ ident => handle [] ident
  | start _ ident result operation => start [] ident result operation
  | accessor _ receiver method field holder result => accessor [] receiver method field holder result
  | newtype _ ident => newtype [] ident
  | constants type values => constants type (values.map Constant.code)
  | literal type => literal type

/-- The comment lines of a declaration. -/
def comments : Declaration → List String
  | inputs doc _ members => doc ++ members.flatMap (·.doc)
  | handle doc _ | start doc _ _ _ | accessor doc _ _ _ _ _ | newtype doc _ => doc
  | constants _ values => values.flatMap (·.doc)
  | literal _ => []

/-- The first declaration is the second one with more comments. -/
structure Documents (d e : Declaration) : Prop where
  code : d.code = e.code
  comments : e.comments ⊆ d.comments
  lines : ∀ l ∈ d.comments, IsDocLine l

theorem Documents.map_code {ds es : List Declaration} (h : List.Forall₂ Documents ds es) :
    ds.map Declaration.code = es.map Declaration.code := by
  induction h with
  | nil => rfl
  | cons hd _ ih => rw [List.map_cons, List.map_cons, ih, hd.code]

section Docs

variable {doc doc' : Comment} (hdoc : ∀ l ∈ doc, IsDocLine l) (hsub : doc' ⊆ doc)

include hdoc hsub

theorem documents_handle (ident : String) : Documents (.handle doc ident) (.handle doc' ident) :=
  ⟨rfl, hsub, hdoc⟩

theorem documents_start (ident result : String) (operation : Operation) :
    Documents (.start doc ident result operation) (.start doc' ident result operation) :=
  ⟨rfl, hsub, hdoc⟩

theorem documents_newtype (ident : String) : Documents (.newtype doc ident) (.newtype doc' ident) :=
  ⟨rfl, hsub, hdoc⟩

theorem documents_accessor (receiver method field : String) (holder : Option String) (result : Result) :
    Documents (.accessor doc receiver method field holder result)
      (.accessor doc' receiver method field holder result) :=
  ⟨rfl, hsub, hdoc⟩

/-- Members with and without comments make declarations with and without them. -/
theorem documents_inputs (ident : String) {members : List Member}
    (h : ∀ m ∈ members, ∀ l ∈ m.doc, IsDocLine l) :
    Documents (.inputs doc ident members) (.inputs doc' ident (members.map Member.code)) := by
  refine ⟨?_, ?_, ?_⟩
  · rw [code, code, List.map_map]
    rfl
  · intro l hl
    rcases List.mem_append.mp hl with hl | hl
    · exact List.mem_append_left _ (hsub hl)
    · rw [List.flatMap_map] at hl
      simp [Member.code] at hl
  · intro l hl
    rcases List.mem_append.mp hl with hl | hl
    · exact hdoc l hl
    · obtain ⟨m, hm, hl⟩ := List.mem_flatMap.mp hl
      exact h m hm l hl

end Docs

theorem documents_constants (type : String) {values : List Constant}
    (h : ∀ c ∈ values, ∀ l ∈ c.doc, IsDocLine l) :
    Documents (.constants type values) (.constants type (values.map Constant.code)) := by
  refine ⟨?_, ?_, ?_⟩
  · rw [code, code, List.map_map]
    rfl
  · intro l hl
    rw [comments, List.flatMap_map] at hl
    simp [Constant.code] at hl
  · intro l hl
    obtain ⟨c, hc, hl⟩ := List.mem_flatMap.mp hl
    exact h c hc l hl

theorem documents_literal (type : String) : Documents (.literal type) (.literal type) :=
  ⟨rfl, fun _ hl => hl, fun _ hl => absurd hl List.not_mem_nil⟩

end Declaration

/-! ### Rendering -/

/-- Items, of which the second ones are the first ones with their comments left out by `code`. -/
def DocumentAll {α : Type} (doc : α → Comment) (code : α → α) (as bs : List α) : Prop :=
  bs = as.map code ∧ ∀ a ∈ as, ∀ l ∈ doc a, IsDocLine l

theorem DocumentAll.nil {α : Type} {doc : α → Comment} {code : α → α} : DocumentAll doc code [] [] :=
  ⟨rfl, fun _ ha => absurd ha List.not_mem_nil⟩

theorem DocumentAll.cons {α : Type} {doc : α → Comment} {code : α → α} {a : α} {as bs : List α}
    (ha : ∀ l ∈ doc a, IsDocLine l) (h : DocumentAll doc code as bs) :
    DocumentAll doc code (a :: as) (code a :: bs) := by
  obtain ⟨rfl, has⟩ := h
  refine ⟨rfl, ?_⟩
  intro a' ha'
  rcases List.mem_cons.mp ha' with rfl | ha'
  · exact ha
  · exact has a' ha'

theorem defaultNotice_none : defaultNotice none = "" :=
  rfl

theorem deprecationNotice_false (reason : Option String) : deprecationNotice false reason = "" :=
  rfl

theorem renderInput_undocumented (r : Resolver) (owner : String) (members : Scope) (input : InputValue) :
    Alike (fun p q => q.1 = p.1.code ∧ (∀ l ∈ p.1.doc, IsDocLine l) ∧ p.2 = q.2)
      (renderInput r owner members input) (renderInput r owner members input.undocumented) := by
  have hdoc := isDocLine_ofBlocks (input.description.getD "") [defaultNotice input.defaultValue]
  unfold renderInput
  simp only [InputValue.undocumented, Option.getD_none, defaultNotice_none, Comment.ofBlocks_empty_empty]
  by_cases hname : (input.name == "") = true
  · simp only [if_pos hname]
    exact .error rfl
  · simp only [if_neg hname]
    refine Alike.bind_left _ fun members' => ?_
    cases r.resolve input.type with
    | error defect => exact .error rfl
    | ok type => exact .ok ⟨rfl, hdoc, rfl⟩

theorem renderInputs_undocumented (r : Resolver) (owner type field : String) (empty : Defect)
    (members : Scope) (inputs : List (Option InputValue)) :
    Alike (DocumentAll Member.doc Member.code) (renderInputs r owner type field empty members inputs)
      (renderInputs r owner type field empty members (inputs.map (Option.map .undocumented))) := by
  induction inputs generalizing members with
  | nil => exact .ok .nil
  | cons input rest ih =>
    cases input with
    | none => exact .error rfl
    | some input =>
      refine (renderInput_undocumented r owner members input).bind ?_
      rintro ⟨m, members'⟩ ⟨_, _⟩ ⟨rfl, hm, rfl⟩
      refine (ih members').bind ?_
      intro ms ns hms
      exact .ok (.cons hm hms)

theorem required_undocumented (args : List InputValue) :
    (splitArgs (args.map .undocumented)).1.map (Naming.identifier ·.name) =
      (splitArgs args).1.map (Naming.identifier ·.name) := by
  have hrequired : (fun i : InputValue => i.type.isNonNull) ∘ InputValue.undocumented =
      fun i => i.type.isNonNull := rfl
  simp only [splitArgs, List.partition_eq_filter_filter, List.filter_map, hrequired, List.map_map]
  rfl

theorem renderHolder_undocumented (r : Resolver) (owner holder : String) (field : FieldValue) :
    Alike Declaration.Documents (renderHolder r owner holder field)
      (renderHolder r owner holder field.undocumented) := by
  unfold renderHolder
  simp only [FieldValue.undocumented, Entries.toList_map, Entries.values_map, required_undocumented]
  refine (renderInputs_undocumented r _ owner field.name .emptyArgument _ _).bind ?_
  rintro ms _ ⟨rfl, hms⟩
  exact .ok (Declaration.documents_inputs (isDocLine_ofBlocks _ _) (List.Subset.refl _) holder hms)

theorem renderField_undocumented (s : Settings) (owner ident : String) (package methods : Scope)
    (field : FieldValue) :
    Alike (fun p q => List.Forall₂ Declaration.Documents p.1.toList q.1.toList ∧
        Declaration.Documents p.2.1 q.2.1 ∧ p.2.2 = q.2.2)
      (renderField s owner ident package methods field)
      (renderField s owner ident package methods field.undocumented) := by
  have hholder := fun holder => renderHolder_undocumented s.resolver owner holder field
  have haccessor := Declaration.documents_accessor
    (isDocLine_ofBlocks (field.description.getD "")
      [deprecationNotice field.isDeprecated field.deprecationReason]) (List.nil_subset _)
  unfold renderField
  simp only [FieldValue.undocumented, Entries.toList_map, List.isEmpty_map, Option.getD_none,
    deprecationNotice_false, Comment.ofBlocks_empty_empty] at hholder ⊢
  by_cases hname : (field.name == "") = true
  · simp only [if_pos hname]
    exact .error rfl
  · simp only [if_neg hname]
    refine Alike.bind_left _ fun methods' => ?_
    cases s.resolver.resolve field.type with
    | error defect => exact .error rfl
    | ok type =>
      by_cases hargs : field.args.toList.isEmpty = true
      · simp only [if_pos hargs]
        exact .ok ⟨.nil, haccessor _ _ _ _ _, rfl⟩
      · simp only [if_neg hargs]
        refine Alike.bind_left _ fun package' => (hholder _).bind ?_
        intro d e hd
        exact .ok ⟨.cons hd .nil, haccessor _ _ _ _ _, rfl⟩

theorem renderFields_undocumented (s : Settings) (owner ident : String) (package methods : Scope)
    (fields : List (Option FieldValue)) :
    Alike (fun p q => List.Forall₂ Declaration.Documents p.1 q.1 ∧
        List.Forall₂ Declaration.Documents p.2.1 q.2.1 ∧ p.2.2 = q.2.2)
      (renderFields s owner ident package methods fields)
      (renderFields s owner ident package methods (fields.map (Option.map .undocumented))) := by
  induction fields generalizing package methods with
  | nil => exact .ok ⟨.nil, .nil, rfl⟩
  | cons field rest ih =>
    cases field with
    | none => exact .error rfl
    | some field =>
      refine (renderField_undocumented s owner ident package methods field).bind ?_
      rintro ⟨holder, accessor, package', methods'⟩ ⟨holder', accessor', _⟩ ⟨hholder, haccessor, rfl⟩
      refine (ih package' methods').bind ?_
      rintro ⟨holders, accessors, package''⟩ ⟨holders', accessors', _⟩ ⟨hholders, haccessors, rfl⟩
      exact .ok ⟨List.rel_append hholder hholders, .cons haccessor haccessors, rfl⟩

theorem renderStarts_documented (type ident : String) (package : Scope) (first : Bool)
    (ops : List Operation) :
    Alike (fun p q => List.Forall₂ Declaration.Documents p.1 q.1 ∧ p.2 = q.2)
      (renderStarts type ident package first ops) (renderStarts type ident package first ops) := by
  induction ops generalizing package first with
  | nil => exact .ok ⟨.nil, rfl⟩
  | cons op rest ih =>
    refine Alike.bind_left _ fun package' => (ih package' false).bind ?_
    rintro ⟨starts, package''⟩ ⟨starts', _⟩ ⟨hstarts, rfl⟩
    have hstart := fun start => Declaration.documents_start
      (isDocLine_ofBlocks (start ++ " returns the " ++ op.keyword ++ " root with an empty selection.") [])
      (List.Subset.refl _) start ident op
    exact .ok ⟨.cons (hstart _) hstarts, rfl⟩

theorem renderConstants_undocumented (type : String) (package : Scope) (values : List (Option EnumValue)) :
    Alike (fun p q => DocumentAll Constant.doc Constant.code p.1 q.1 ∧ p.2 = q.2)
      (renderConstants type package values)
      (renderConstants type package (values.map (Option.map .undocumented))) := by
  induction values generalizing package with
  | nil => exact .ok ⟨.nil, rfl⟩
  | cons value rest ih =>
    cases value with
    | none => exact .error rfl
    | some value =>
      have hdoc := isDocLine_ofBlocks (value.description.getD "")
        [deprecationNotice value.isDeprecated value.deprecationReason]
      simp only [List.map_cons, Option.map_some, renderConstants, EnumValue.undocumented,
        Option.getD_none, deprecationNotice_false, Comment.ofBlocks_empty_empty]
      by_cases hname : (value.name == "") = true
      · simp only [if_pos hname]
        exact .error rfl
      · simp only [if_neg hname]
        refine Alike.bind_left _ fun package' => (ih package').bind ?_
        rintro ⟨cs, package''⟩ ⟨ds, _⟩ ⟨hcs, rfl⟩
        exact .ok ⟨hcs.cons hdoc, rfl⟩

theorem renderObject_undocumented (s : Settings) (package : Scope) (t : FullType) :
    Alike (fun p q => List.Forall₂ Declaration.Documents p.1 q.1 ∧ p.2 = q.2)
      (renderObject s package t) (renderObject s package t.undocumented) := by
  unfold renderObject
  simp only [FullType.undocumented, FullType.name, FullType.description, Entries.toList_map,
    Option.getD_none, Comment.ofBlocks_empty]
  refine Alike.bind_left _ fun package' => ?_
  refine (renderFields_undocumented s _ _ package' _ t.fields.toList).bind ?_
  rintro ⟨holders, accessors, package''⟩ ⟨holders', accessors', _⟩ ⟨hholders, haccessors, rfl⟩
  refine (renderStarts_documented _ _ package'' true _).bind ?_
  rintro ⟨starts, last⟩ ⟨starts', _⟩ ⟨hstarts, rfl⟩
  have hhandle := Declaration.documents_handle
    (isDocLine_ofBlocks (t.description?.getD "") []) (List.nil_subset _)
  exact .ok ⟨List.rel_append (List.rel_append hholders (.cons (hhandle _) hstarts)) haccessors, rfl⟩

theorem renderInputObject_undocumented (s : Settings) (package : Scope) (t : FullType) :
    Alike (fun p q => List.Forall₂ Declaration.Documents p.1 q.1 ∧ p.2 = q.2)
      (renderInputObject s package t) (renderInputObject s package t.undocumented) := by
  unfold renderInputObject
  simp only [FullType.undocumented, FullType.name, FullType.description, Entries.toList_map,
    Option.getD_none, Comment.ofBlocks_empty]
  refine Alike.bind_left _ fun package' => ?_
  refine (renderInputs_undocumented s.resolver _ _ "" .emptyInputField _ _).bind ?_
  rintro ms _ ⟨rfl, hms⟩
  have hinputs := Declaration.documents_inputs
    (isDocLine_ofBlocks (t.description?.getD "") []) (List.nil_subset _)
  exact .ok ⟨.cons (hinputs _ hms) .nil, rfl⟩

theorem renderEnum_undocumented (package : Scope) (t : FullType) :
    Alike (fun p q => List.Forall₂ Declaration.Documents p.1 q.1 ∧ p.2 = q.2)
      (renderEnum package t) (renderEnum package t.undocumented) := by
  unfold renderEnum
  simp only [FullType.undocumented, FullType.name, FullType.description, Entries.toList_map,
    Option.getD_none, Comment.ofBlocks_empty]
  refine Alike.bind_left _ fun package' => ?_
  refine (renderConstants_undocumented _ package' t.enumValues.toList).bind ?_
  rintro ⟨cs, package''⟩ ⟨_, _⟩ ⟨⟨rfl, hcs⟩, rfl⟩
  have hnewtype := Declaration.documents_newtype
    (isDocLine_ofBlocks (t.description?.getD "") []) (List.nil_subset _)
  refine .ok ⟨.cons (hnewtype _) (List.rel_append ?_ (.cons (Declaration.documents_literal _) .nil)), rfl⟩
  cases cs with
  | nil => exact .nil
  | cons c cs => exact .cons (Declaration.documents_constants _ hcs) .nil

theorem renderScalar_undocumented (s : Settings) (package : Scope) (t : FullType) :
    Alike (fun p q => List.Forall₂ Declaration.Documents p.1 q.1 ∧ p.2 = q.2)
      (renderScalar s package t) (renderScalar s package t.undocumented) := by
  have hname : t.undocumented.name = t.name := rfl
  have hdoc : Comment.ofBlocks t.undocumented.description [] = [] := Comment.ofBlocks_empty
  rw [renderScalar, renderScalar, hname, hdoc]
  by_cases hbound : s.resolver.isBound t.name = true
  · rw [if_pos hbound, if_pos hbound]
    exact .ok ⟨.nil, rfl⟩
  · rw [if_neg hbound, if_neg hbound]
    have hnewtype := Declaration.documents_newtype (isDocLine_ofBlocks t.description []) (List.nil_subset _)
    exact Alike.bind_left _ fun package' => .ok ⟨.cons (hnewtype _) .nil, rfl⟩

theorem renderType_undocumented (s : Settings) (package : Scope) (t : FullType) :
    Alike (fun p q => List.Forall₂ Declaration.Documents p.1.decls q.1.decls ∧ p.2 = q.2)
      (renderType s package t) (renderType s package t.undocumented) := by
  have hkind : t.undocumented.kind = t.kind := rfl
  have hname : t.undocumented.name = t.name := rfl
  unfold renderType
  rw [hkind, hname]
  refine Alike.map (R := fun p q => List.Forall₂ Declaration.Documents p.1 q.1 ∧ p.2 = q.2) ?_
    fun _ _ h => h
  cases t.kind with
  | object => exact renderObject_undocumented s package t
  | inputObject => exact renderInputObject_undocumented s package t
  | enum => exact renderEnum_undocumented package t
  | scalar => exact renderScalar_undocumented s package t
  | interface | union | list | nonNull | unknown => exact .error rfl

theorem renderTypes_undocumented (s : Settings) (package : Scope) (types : List (Option FullType)) :
    Alike (fun fs gs => List.Forall₂ Declaration.Documents (fs.flatMap (·.decls)) (gs.flatMap (·.decls)))
      (renderTypes s package types) (renderTypes s package (types.map (Option.map .undocumented))) := by
  induction types generalizing package with
  | nil => exact .ok .nil
  | cons entry rest ih =>
    cases entry with
    | none => exact .error rfl
    | some t =>
      rw [List.map_cons, Option.map_some]
      by_cases hname : t.name = ""
      · rw [renderTypes_of_unnamed hname, renderTypes_of_unnamed (t := t.undocumented) hname]
        exact .error rfl
      · by_cases hreserved : isReserved t.name = true
        · rw [renderTypes_of_isReserved hreserved,
            renderTypes_of_isReserved (t := t.undocumented) hreserved]
          exact ih package
        · rw [renderTypes_of_not_isReserved hname hreserved,
            renderTypes_of_not_isReserved (t := t.undocumented) hname hreserved]
          refine (renderType_undocumented s package t).bind ?_
          rintro ⟨f, package'⟩ ⟨g, _⟩ ⟨hfg, rfl⟩
          refine (ih package').map fun fs gs h => ?_
          rw [List.flatMap_cons, List.flatMap_cons]
          exact List.rel_append hfg h

theorem FullType.argIdentifiers_undocumented (t : FullType) :
    t.undocumented.argIdentifiers = t.argIdentifiers := by
  have hargs : (fun f : FieldValue => !f.args.toList.isEmpty) ∘ FieldValue.undocumented =
      fun f => !f.args.toList.isEmpty := by
    funext f
    simp [FieldValue.undocumented, Entries.toList_map]
  have hfields : t.undocumented.fields = t.fields.map .undocumented := rfl
  rw [argIdentifiers, argIdentifiers, hfields, Entries.values_map, List.filter_map, hargs, List.map_map]
  rfl

theorem sharedArgs_undocumented (types : List (Option FullType)) :
    sharedArgs (types.map (Option.map .undocumented)) = sharedArgs types := by
  have hidents : ((types.map (Option.map FullType.undocumented)).filterMap id).flatMap
      FullType.argIdentifiers = (types.filterMap id).flatMap FullType.argIdentifiers := by
    rw [List.filterMap_map, show id ∘ Option.map FullType.undocumented =
      fun o => (id o).map FullType.undocumented from rfl, ← List.map_filterMap, List.flatMap_map,
      List.flatMap_congr fun t _ => t.argIdentifiers_undocumented]
  rw [sharedArgs, sharedArgs, hidents]

/-- A schema without documentation has the same declarations, with fewer comments, or the same error. -/
theorem render_undocumented (r : Resolver) (qualifyArgs : Bool) (package : String) (schema : Schema) :
    Alike (fun fs gs => List.Forall₂ Declaration.Documents (fs.flatMap (·.decls)) (gs.flatMap (·.decls)))
      (render r qualifyArgs package schema) (render r qualifyArgs package schema.undocumented) := by
  have htypes : schema.undocumented.types.toList = schema.types.toList.map (Option.map .undocumented) :=
    Entries.toList_map _ _
  have hroots : schema.undocumented.roots = schema.roots := rfl
  rw [render, render, htypes, hroots, sharedArgs_undocumented]
  exact renderTypes_undocumented _ _ _

end Bindery
