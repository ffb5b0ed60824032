import Bindery.Proofs.Bindings.Undocumented
import Bindery.Proofs.Text.EncodedLines

/-!
# Documentation stays in comments

A file that is generated from a schema is legible: its names stand on one line each, and the texts of the
schema that speak to readers stand in comment lines only. Leaving them out therefore does not change the
words of the code. The one way for such a text to be heard by the compiler is a comment line that begins
with the word `+build`: it is a build constraint, and the file then states it in a line of its own.

## Main definitions

- `Octets.IsCommentLine` — the comment mark alone, or before text without a line feed
- `Declaration.selectLines`, `Result.typeText`, `Result.members` — the parts of an accessor as it is written

## Main results

- `Declaration.item_accessor` — an accessor is written alike for objects and leaves
- `Declaration.isOneLine_of_mem_texts` — the texts of a legal declaration have no line feeds
- `isLegible_sourceFile` — a file of legal declarations is legible
- `emit?_of_documents` — fewer comments leave the words of a file as they are
- `directives_of_emit?` — when a file speaks to the compiler
- `documentation_in_comments` — what becomes of the texts of a schema that speak to readers
-/

namespace Bindery

open Source (isOneLine)

/-! ### Names on one line -/

theorem isOneLine_of_isIdentifier {s : String} (h : Source.isIdentifier s = true) :
    isOneLine s = true :=
  Source.isOneLine_iff.mpr (Source.not_mem_of_isIdentifier h).1

theorem isOneLine_of_isTypeName {s : String} (h : Source.isTypeName s = true) : isOneLine s = true := by
  have hpiece : ∀ {cs : List Char}, Source.isIdentifier (String.ofList cs) = true → '\n' ∉ cs := by
    intro cs hcs
    have hone := Source.isOneLine_iff.mp (isOneLine_of_isIdentifier hcs)
    rwa [String.toList_ofList] at hone
  have hjoin : ['.'].intercalate (s.toList.splitOn '.') = s.toList := List.intercalate_splitOn _
  rw [Source.isTypeName] at h
  rw [Source.isOneLine_iff, ← hjoin]
  split at h
  · rename_i name hname
    rw [hname]
    simpa using hpiece h
  · rename_i package name hname
    rw [Bool.and_eq_true] at h
    rw [hname]
    simp [hpiece h.1, hpiece h.2]
  · cases h

theorem isOneLine_tagLiteral (text : String) : isOneLine (tagLiteral text) = true := by
  have hfeed : ('\n' == '\t' || !('\n'.toNat < 0x20 || '\n' == '\x60' || '\n'.toNat == 0x7f ||
      '\n'.toNat == 0xfeff)) = false := by decide
  unfold tagLiteral
  extract_lets raw
  split
  · rename_i hraw
    have htext : isOneLine text = true := by
      rw [Source.isOneLine_iff]
      intro hmem
      have := List.all_eq_true.mp hraw _ hmem
      rw [hfeed] at this
      cases this
    simp only [Source.isOneLine_append, htext]
    rfl
  · exact Source.isOneLine_quoted text

section Items

variable {imports : Source.Imports} (himports : ∀ i ∈ imports, isOneLine i.name = true)

include himports

theorem TypeExpr.isOneLine_code {type : TypeExpr} (h : type.isLegal = true) :
    isOneLine (type.code imports) = true := by
  have hpointer : ∀ {shape : TypeShape}, isOneLine (shape.text imports.nameOf) = true →
      isOneLine ((TypeShape.pointer shape).text imports.nameOf) = true := by
    intro shape hshape
    rw [TypeShape.text, Source.isOneLine_append, hshape]
    rfl
  have hname := Source.Imports.isOneLine_nameOf himports
  unfold code
  induction type with
  | named kind p n nullable =>
    have htext : isOneLine ((TypeShape.name p n).text imports.nameOf) = true := by
      rw [isLegal] at h
      rw [TypeShape.text]
      by_cases hp : (p == "") = true
      · rw [if_pos hp] at h ⊢
        exact isOneLine_of_isTypeName h
      · rw [if_neg hp] at h ⊢
        simp only [Source.isOneLine_append, hname, isOneLine_of_isIdentifier h]
        rfl
    cases nullable with
    | false => exact htext
    | true => exact hpointer htext
  | list e nullable ih =>
    have htext : isOneLine ((TypeShape.slice e.shape).text imports.nameOf) = true := by
      rw [TypeShape.text, Source.isOneLine_append, ih h]
      rfl
    cases nullable with
    | false => exact htext
    | true => exact hpointer htext

theorem Member.isOneLine_of_mem_cells {m : Member} (h : m.isLegal = true) {s : String}
    (hs : s ∈ m.cells imports) : isOneLine s = true := by
  have hparts : isOneLine m.ident = true ∧ isOneLine (m.type.code imports) = true := by
    rw [isLegal] at h
    split at h
    · cases h
    · rename_i hident _
      rw [hident]
      exact ⟨rfl, TypeExpr.isOneLine_code himports h⟩
    · rename_i kind htype _
      rw [htype]
      exact ⟨isOneLine_of_isIdentifier h, rfl⟩
    · rw [Bool.and_eq_true] at h
      exact ⟨isOneLine_of_isIdentifier h.1, TypeExpr.isOneLine_code himports h.2⟩
  rcases List.mem_append.mp hs with hs | hs
  · have hmem := List.mem_of_mem_filter hs
    simp only [List.mem_cons, List.not_mem_nil, or_false] at hmem
    rcases hmem with rfl | rfl
    · exact hparts.1
    · exact hparts.2
  · rw [List.mem_singleton.mp hs]
    exact isOneLine_tagLiteral _

end Items

theorem Declaration.isOneLine_of_mem_returnLines {type : String} (htype : isOneLine type = true)
    {members : List (String × String)}
    (h : ∀ m ∈ members, isOneLine m.1 = true ∧ isOneLine m.2 = true) {s : String}
    (hs : s ∈ returnLines type members) : isOneLine s = true := by
  simp only [returnLines, List.mem_append, List.mem_singleton] at hs
  rcases hs with (rfl | hs) | rfl
  · simp only [Source.isOneLine_append, htype]
    rfl
  · obtain ⟨l, hl, rfl⟩ := List.mem_map.mp hs
    have hline : isOneLine l = true := by
      refine Source.isOneLine_of_mem_alignCells ?_ hl
      intro r hr s hs
      obtain ⟨⟨name, value⟩, hm, rfl⟩ := List.mem_map.mp hr
      obtain ⟨hname, hvalue⟩ := h _ hm
      simp only [List.mem_cons, List.not_mem_nil, or_false] at hs
      rcases hs with rfl | rfl
      · rw [Source.isOneLine_append, hname]
        rfl
      · rw [Source.isOneLine_append, hvalue]
        rfl
    rw [Source.isOneLine_append, hline]
    rfl
  · rfl

/-! ### Declarations as they are written -/

/-- The type that an accessor returns, as it is written. -/
def Result.typeText (imports : Source.Imports) (runtime : String) : Result → String
  | object ident => ident
  | leaf type => imports.nameOf runtime ++ ".Leaf[" ++ type.code imports ++ "]"

/-- The members of the value that an accessor returns, and what they are set to. -/
def Result.members : Result → List (String × String)
  | object _ => [("conn", "r.conn"), ("proc", "r.proc"), ("selection", "q")]
  | leaf _ => [("Conn", "r.conn"), ("Proc", "r.proc"), ("Selection", "q")]

namespace Declaration

variable {imports : Source.Imports} {runtime : String}

/-- The lines of an accessor in which the field is selected. -/
def selectLines (receiver method field : String) (holder : Option String) (type : String) :
    List String :=
  ["func (r *" ++ receiver ++ ") " ++ method ++ (holder.elim "()" fun h => "(args *" ++ h ++ ")") ++
      " *" ++ type ++ " \x7b",
    "\tq := r.selection.Select(" ++ quoted field ++ ")"] ++
  holder.elim [] fun _ => ["\tq.Args(args)"]

/-- An accessor selects its field and returns a value, whatever the type of the value is. -/
theorem item_accessor (doc : Comment) (receiver method field : String) (holder : Option String)
    (result : Result) : (accessor doc receiver method field holder result).item imports runtime =
      ⟨doc, .lines (selectLines receiver method field holder (result.typeText imports runtime) ++
        returnLines (result.typeText imports runtime) result.members ++ ["\x7d"])⟩ := by
  cases result <;> rfl

theorem filterMap_comment?_rows {α : Type} (doc : α → Comment) (cells : α → List String) (as : List α) :
    (as.flatMap fun a => (doc a).rows ++ [Source.Row.cells (cells a)]).filterMap Source.Row.comment? =
      as.flatMap doc := by
  have hrows : ∀ c : Comment, c.rows.filterMap Source.Row.comment? = c := by
    intro c
    rw [Comment.rows, List.filterMap_map]
    exact List.filterMap_some
  induction as with
  | nil => rfl
  | cons a as ih =>
    rw [List.flatMap_cons, List.flatMap_cons, List.filterMap_append, List.filterMap_append, hrows, ih]
    simp [Source.Row.comment?]

theorem filterMap_cells?_rows {α : Type} (doc : α → Comment) (cells : α → List String) (as : List α) :
    (as.flatMap fun a => (doc a).rows ++ [Source.Row.cells (cells a)]).filterMap Source.Row.cells? =
      as.map cells := by
  have hrows : ∀ c : Comment, c.rows.filterMap Source.Row.cells? = [] := by
    intro c
    rw [Comment.rows, List.filterMap_map]
    exact List.filterMap_eq_nil_iff.mpr fun _ _ => rfl
  induction as with
  | nil => rfl
  | cons a as ih =>
    rw [List.flatMap_cons, List.filterMap_append, List.filterMap_append, hrows, ih]
    rfl

theorem comments_item (d : Declaration) : (d.item imports runtime).comments = d.comments := by
  rw [Source.Item.comments_eq]
  cases d with
  | inputs doc ident members =>
    cases members with
    | nil => rfl
    | cons m members =>
      exact congrArg (doc ++ ·)
        (filterMap_comment?_rows Member.doc (Member.cells imports) (m :: members))
  | handle doc ident | start doc ident result operation | newtype doc ident =>
    exact List.append_nil doc
  | accessor doc receiver method field holder result =>
    rw [item_accessor]
    exact List.append_nil doc
  | constants type values =>
    exact filterMap_comment?_rows Constant.doc (fun c => [c.ident, type, "= " ++ quoted c.value]) values
  | literal type => rfl

/-- The words of rows do not depend on the comments between them. -/
theorem rowWords_rows {α : Type} (doc : α → Comment) (cells : α → List String) {bare : α → α}
    (h : ∀ a, cells (bare a) = cells a) (as : List α) :
    Source.rowWords (as.flatMap fun a => (doc a).rows ++ [Source.Row.cells (cells a)]) =
      Source.rowWords ((as.map bare).flatMap fun a => (doc a).rows ++ [Source.Row.cells (cells a)]) := by
  have hcells : cells ∘ bare = cells := funext h
  rw [Source.rowWords, Source.rowWords, filterMap_cells?_rows, filterMap_cells?_rows, List.map_map,
    hcells]

/-- A declaration is written with the same words without its comments. -/
theorem words_item (d : Declaration) :
    (d.item imports runtime).body.words = (d.code.item imports runtime).body.words := by
  cases d with
  | inputs doc ident members =>
    cases members with
    | nil => rfl
    | cons m members =>
      have hrows := rowWords_rows Member.doc (Member.cells imports) (fun m => show
        m.code.cells imports = m.cells imports from rfl) (m :: members)
      exact congrArg (fun words => Source.lineWords _ ++ words ++ Source.lineWords "\x7d") hrows
  | handle | start | newtype | accessor | literal => rfl
  | constants type values =>
    have hrows := rowWords_rows Constant.doc (fun c => [c.ident, type, "= " ++ quoted c.value])
      (fun c => show [c.code.ident, type, "= " ++ quoted c.code.value] =
        [c.ident, type, "= " ++ quoted c.value] from rfl) values
    exact congrArg (fun words => Source.lineWords "const (" ++ words ++ Source.lineWords ")") hrows

theorem isLegal_code (d : Declaration) : d.code.isLegal = d.isLegal := by
  cases d with
  | inputs doc ident members => simp [code, isLegal, List.all_map]; rfl
  | constants type values => simp [code, isLegal, List.all_map]; rfl
  | handle | start | newtype | accessor | literal => rfl

theorem packages_code (d : Declaration) (runtime : String) : d.code.packages runtime = d.packages runtime := by
  cases d with
  | inputs doc ident members => exact List.flatMap_map _ _ _
  | accessor doc receiver method field holder result => cases result <;> rfl
  | handle | start | newtype | constants | literal => rfl

/-- A function that is written in lines of its own: what comes before the value that it returns, the lines
that return the value, and the closing brace. -/
theorem forall_mem_function {front : List String} {type : String} {members : List (String × String)}
    {P : String → Prop} (hfront : ∀ s ∈ front, P s) (hvalue : ∀ s ∈ returnLines type members, P s)
    (hclosing : P "\x7d") : ∀ s ∈ front ++ returnLines type members ++ ["\x7d"], P s :=
  List.forall_mem_append.mpr
    ⟨List.forall_mem_append.mpr ⟨hfront, hvalue⟩, List.forall_mem_singleton.mpr hclosing⟩

/-- The texts of a table whose rows are the entries of a list, each after its comment. -/
theorem forall_mem_texts_table {α : Type} {doc : α → Comment} {cells : α → List String} {as : List α}
    {opening closing : String} {P : String → Prop} (hopening : P opening) (hclosing : P closing)
    (hcells : ∀ a ∈ as, ∀ s ∈ cells a, P s) :
    ∀ s ∈ (Source.Body.table opening
      (as.flatMap fun a => (doc a).rows ++ [Source.Row.cells (cells a)]) closing).texts, P s := by
  rw [Source.Body.texts, filterMap_cells?_rows, List.forall_mem_cons, List.forall_mem_cons]
  refine ⟨hopening, hclosing, fun s hs => ?_⟩
  obtain ⟨row, hrow, hs⟩ := List.mem_flatten.mp hs
  obtain ⟨a, ha, rfl⟩ := List.mem_map.mp hrow
  exact hcells a ha s hs

/-! ### Texts on one line -/

section OneLine

variable (himports : ∀ i ∈ imports, isOneLine i.name = true)

theorem isOneLine_of_mem_selectLines {receiver method field type : String} {holder : Option String}
    (hreceiver : isOneLine receiver = true) (hmethod : isOneLine method = true)
    (hholder : ∀ h ∈ holder, isOneLine h = true) (htype : isOneLine type = true) :
    ∀ s ∈ selectLines receiver method field holder type, isOneLine s = true := by
  have hselect : isOneLine ("\tq := r.selection.Select(" ++ quoted field ++ ")") = true := by
    simp only [Source.isOneLine_append, Source.isOneLine_quoted]
    rfl
  cases holder with
  | none =>
    simp only [selectLines, Option.elim_none, List.append_nil, List.forall_mem_cons, hselect,
      Source.isOneLine_append, hreceiver, hmethod, htype]
    decide
  | some holder =>
    simp only [selectLines, Option.elim_some, List.cons_append, List.nil_append, List.forall_mem_cons,
      hselect, Source.isOneLine_append, hreceiver, hmethod, htype, hholder holder rfl]
    decide

include himports

theorem isOneLine_typeText (runtime : String) {doc : Comment} {receiver method field : String}
    {holder : Option String} {result : Result}
    (h : (accessor doc receiver method field holder result).isLegal = true) :
    isOneLine (result.typeText imports runtime) = true := by
  rw [isLegal.eq_def, Bool.and_eq_true] at h
  cases result with
  | object ident => exact isOneLine_of_isTypeName h.2
  | leaf type =>
    simp only [Result.typeText, Source.isOneLine_append, Source.Imports.isOneLine_nameOf himports,
      TypeExpr.isOneLine_code himports h.2]
    rfl

/-- The texts of a legal declaration stand on one line each. -/
theorem isOneLine_of_mem_texts {d : Declaration} (h : d.isLegal = true) {s : String}
    (hs : s ∈ (d.item imports runtime).body.texts) : isOneLine s = true := by
  have hname := Source.Imports.isOneLine_nameOf himports
  cases d with
  | inputs doc ident members =>
    rw [isLegal, Bool.and_eq_true, List.all_eq_true] at h
    have hident := isOneLine_of_isIdentifier h.1
    cases members with
    | nil =>
      obtain rfl := List.mem_singleton.mp hs
      simp only [Source.isOneLine_append, hident]
      rfl
    | cons m members =>
      have hopening : isOneLine ("type " ++ ident ++ " struct \x7b") = true := by
        simp only [Source.isOneLine_append, hident]
        rfl
      exact forall_mem_texts_table (P := (isOneLine · = true)) hopening rfl
        (fun m hm s hs => Member.isOneLine_of_mem_cells himports (h.2 m hm) hs) s hs
  | handle doc ident =>
    have hall : ["type " ++ ident ++ " struct \x7b", "\x7d", "conn",
        imports.nameOf runtime ++ ".ConnectParams", "proc", "*" ++ imports.nameOf "os" ++ ".Process",
        "selection", "*" ++ imports.nameOf runtime ++ ".Selection"].all isOneLine = true := by
      simp only [List.all_cons, Source.isOneLine_append, isOneLine_of_isIdentifier h, hname]
      rfl
    exact List.all_eq_true.mp hall s hs
  | start doc ident result operation =>
    rw [isLegal, Bool.and_eq_true] at h
    have hident := isOneLine_of_isIdentifier h.1
    have hresult := isOneLine_of_isIdentifier h.2
    refine forall_mem_function ?_ (fun s => isOneLine_of_mem_returnLines hresult ?_) rfl s hs
    · refine List.forall_mem_singleton.mpr ?_
      simp only [Source.isOneLine_append, hident, hresult, hname]
      rfl
    · simp only [List.forall_mem_cons, Source.isOneLine_append, hname, Source.isOneLine_quoted]
      decide
  | accessor doc receiver method field holder result =>
    have htype := isOneLine_typeText himports runtime h
    rw [isLegal.eq_def, Bool.and_eq_true, Bool.and_eq_true, Bool.and_eq_true] at h
    obtain ⟨⟨⟨hreceiver, hmethod⟩, hholder⟩, -⟩ := h
    rw [item_accessor] at hs
    refine forall_mem_function ?_ (fun s => isOneLine_of_mem_returnLines htype ?_) rfl s hs
    · exact isOneLine_of_mem_selectLines (isOneLine_of_isIdentifier hreceiver)
        (isOneLine_of_isIdentifier hmethod)
        (fun h hh => isOneLine_of_isIdentifier ((Option.all_eq_true _ _).mp hholder h hh)) htype
    · cases result with
      | object | leaf =>
        rw [Result.members]
        decide
  | newtype doc ident =>
    obtain rfl := List.mem_singleton.mp hs
    simp only [Source.isOneLine_append, isOneLine_of_isIdentifier h]
    rfl
  | constants type values =>
    rw [isLegal, Bool.and_eq_true, List.all_eq_true] at h
    refine forall_mem_texts_table (P := (isOneLine · = true)) rfl rfl (fun c hc => ?_) s hs
    simp only [List.forall_mem_cons, Source.isOneLine_append, Source.isOneLine_quoted,
      isOneLine_of_isIdentifier h.1, isOneLine_of_isIdentifier (h.2 c hc)]
    decide
  | literal type =>
    have hall : ["func (e " ++ type ++ ") MarshalGQL(w " ++ imports.nameOf "io" ++ ".Writer) \x7b",
       "\t" ++ imports.nameOf "io" ++ ".WriteString(w, string(e))", "\x7d"].all isOneLine = true := by
      simp only [List.all_cons, Source.isOneLine_append, isOneLine_of_isIdentifier h, hname]
      rfl
    exact List.all_eq_true.mp hall s hs

end OneLine

/-! ### Lines at the margin -/

theorem head?_of_mem_returnLines {type : String} {members : List (String × String)} {s : String}
    (hs : s ∈ returnLines type members) : s.toList.head? ≠ some '/' := by
  simp only [returnLines, List.mem_append, List.mem_singleton] at hs
  rcases hs with (rfl | hs) | rfl
  · simp
  · obtain ⟨l, -, rfl⟩ := List.mem_map.mp hs
    simp
  · simp

theorem head?_of_mem_selectLines {receiver method field type : String} {holder : Option String}
    {s : String} (hs : s ∈ selectLines receiver method field holder type) :
    s.toList.head? ≠ some '/' := by
  simp only [selectLines, List.mem_append, List.mem_cons, List.not_mem_nil, or_false] at hs
  rcases hs with (rfl | rfl) | hs
  · simp
  · simp
  · cases holder with
    | none => cases hs
    | some holder =>
      obtain rfl := List.mem_singleton.mp hs
      simp

/-- No line of a declaration begins with a slash at the margin. -/
theorem head?_of_mem_margin {d : Declaration} {s : String}
    (hs : s ∈ (d.item imports runtime).body.margin) : s.toList.head? ≠ some '/' := by
  -- a table has its first and its last line there
  have htable : ∀ {opening closing : String}, opening.toList.head? ≠ some '/' →
      closing.toList.head? ≠ some '/' → s ∈ [opening, closing] → s.toList.head? ≠ some '/' := by
    intro opening closing hopening hclosing hs
    rcases List.mem_cons.mp hs with rfl | hs
    · exact hopening
    · rwa [List.mem_singleton.mp hs]
  cases d with
  | inputs doc ident members =>
    cases members with
    | nil =>
      obtain rfl := List.mem_singleton.mp hs
      simp
    | cons m members => exact htable (by simp) (by simp) hs
  | handle doc ident => exact htable (by simp) (by simp) hs
  | start doc ident result operation =>
    exact forall_mem_function (List.forall_mem_singleton.mpr (by simp))
      (fun s => head?_of_mem_returnLines) (by simp) s hs
  | accessor doc receiver method field holder result =>
    rw [item_accessor] at hs
    exact forall_mem_function (fun s => head?_of_mem_selectLines) (fun s => head?_of_mem_returnLines)
      (by simp) s hs
  | newtype doc ident =>
    obtain rfl := List.mem_singleton.mp hs
    simp
  | constants type values => exact htable (by simp) (by simp) hs
  | literal type =>
    simp only [item, Source.Body.margin, List.mem_cons, List.not_mem_nil, or_false] at hs
    rcases hs with rfl | rfl | rfl <;> simp

end Declaration

/-! ### Files -/

section Files

variable {package runtime : String} {fragments : List Fragment}

/-- A file of legal declarations is legible. -/
theorem isLegible_sourceFile (hpackage : Source.isIdentifier package = true)
    (hlegal : ∀ d ∈ fragments.flatMap (·.decls), d.isLegal = true)
    (hcomments : ∀ d ∈ fragments.flatMap (·.decls), ∀ l ∈ d.comments, IsDocLine l) :
    (sourceFile package runtime fragments).IsLegible := by
  have hheader : isOneLine headerComment = true := by decide
  have himports : ∀ i ∈ (sourceFile package runtime fragments).imports, isOneLine i.name = true :=
    Source.Imports.isOneLine_of_mem_ofPaths (by decide) _
  refine ⟨hheader, isOneLine_of_isIdentifier hpackage, himports, ?_, ?_, ?_⟩
  · intro i hi l hl
    obtain ⟨d, hd, rfl⟩ := List.mem_map.mp hi
    rw [d.comments_item] at hl
    exact hcomments d hd l hl
  · intro i hi s hs
    obtain ⟨d, hd, rfl⟩ := List.mem_map.mp hi
    exact Declaration.isOneLine_of_mem_texts himports (hlegal d hd) hs
  · intro i hi s hs
    obtain ⟨d, hd, rfl⟩ := List.mem_map.mp hi
    exact Declaration.head?_of_mem_margin hs

theorem emit?_eq_some_iff {source : String} : emit? package runtime fragments = some source ↔
    (∀ d ∈ fragments.flatMap (·.decls), d.isLegal = true) ∧
      (∀ d ∈ fragments.flatMap (·.decls), ∀ l ∈ d.comments, Source.hasIllegalChar l = false) ∧
      (sourceFile package runtime fragments).render = source := by
  have hlegal : fragments.all (·.decls.all Declaration.isLegal) = true ↔
      ∀ d ∈ fragments.flatMap (·.decls), d.isLegal = true := by
    rw [← List.all_flatMap, List.all_eq_true]
  have hcomments : (sourceFile package runtime fragments).hasIllegalComment = false ↔
      ∀ d ∈ fragments.flatMap (·.decls), ∀ l ∈ d.comments, Source.hasIllegalChar l = false := by
    simp only [Source.File.hasIllegalComment, sourceFile, List.any_eq_false, List.mem_map,
      Bool.not_eq_true, forall_exists_index, and_imp, forall_apply_eq_imp_iff₂,
      Declaration.comments_item]
  rw [emit?, ← hlegal, ← hcomments]
  simp only [Bool.and_eq_true, Bool.not_eq_true']
  split
  · rename_i h
    simp [h.1, h.2]
  · rename_i h
    refine iff_of_false (by simp) ?_
    rintro ⟨h₁, h₂, -⟩
    exact h ⟨h₁, h₂⟩

/-- Declarations with fewer comments make a file with the same words. -/
theorem emit?_of_documents {fragments' : List Fragment} (hpackage : Source.isIdentifier package = true)
    (h : List.Forall₂ Declaration.Documents (fragments.flatMap (·.decls)) (fragments'.flatMap (·.decls)))
    {source : String} (hsource : emit? package runtime fragments = some source) :
    ∃ bare, emit? package runtime fragments' = some bare ∧
      Source.codeWords source = Source.codeWords bare := by
  obtain ⟨hlegal, hchars, rfl⟩ := emit?_eq_some_iff.mp hsource
  have hcode := Declaration.Documents.map_code h
  have hlegal' : ∀ e ∈ fragments'.flatMap (·.decls), e.isLegal = true := by
    intro e he
    obtain ⟨d, hd, hde⟩ := exists_of_mem_right h he
    rw [← e.isLegal_code, ← hde.code, d.isLegal_code]
    exact hlegal d hd
  have hchars' : ∀ e ∈ fragments'.flatMap (·.decls), ∀ l ∈ e.comments,
      Source.hasIllegalChar l = false := by
    intro e he l hl
    obtain ⟨d, hd, hde⟩ := exists_of_mem_right h he
    exact hchars d hd l (hde.comments hl)
  have hlegible : (sourceFile package runtime fragments).IsLegible := by
    refine isLegible_sourceFile hpackage hlegal fun d hd => ?_
    obtain ⟨e, -, hde⟩ := exists_of_mem_left h hd
    exact hde.lines
  have hlegible' : (sourceFile package runtime fragments').IsLegible := by
    refine isLegible_sourceFile hpackage hlegal' fun e he l hl => ?_
    obtain ⟨d, -, hde⟩ := exists_of_mem_right h he
    exact hde.lines l (hde.comments hl)
  -- packages and words are those of the declarations without comments
  have hpackages : ∀ ds : List Declaration, ds.flatMap (Declaration.packages runtime) =
      (ds.map Declaration.code).flatMap (Declaration.packages runtime) := by
    intro ds
    rw [List.flatMap_map]
    exact List.flatMap_congr fun d _ => (d.packages_code runtime).symm
  have hwords : ∀ (imports : Source.Imports) (ds : List Declaration),
      (ds.map (Declaration.item imports runtime)).flatMap (·.body.words) =
        (ds.map Declaration.code).flatMap fun d => (d.item imports runtime).body.words := by
    intro imports ds
    rw [List.flatMap_map, List.flatMap_map]
    exact List.flatMap_congr fun d _ => d.words_item
  refine ⟨_, emit?_eq_some_iff.mpr ⟨hlegal', hchars', rfl⟩, ?_⟩
  rw [hlegible.codeWords_render, hlegible'.codeWords_render]
  simp only [sourceFile]
  rw [hpackages, hwords, hpackages (fragments'.flatMap (·.decls)), hwords, hcode]

/-- A file speaks to the compiler exactly if one of its comments is a build constraint. -/
theorem directives_of_emit? (hpackage : Source.isIdentifier package = true)
    (hcomments : ∀ d ∈ fragments.flatMap (·.decls), ∀ l ∈ d.comments, IsDocLine l) {source : String}
    (hsource : emit? package runtime fragments = some source) :
    Source.directives source = [] ↔
      ∀ d ∈ fragments.flatMap (·.decls), ∀ l ∈ d.comments, ¬ Source.IsConstraintLine l := by
  obtain ⟨hlegal, -, rfl⟩ := emit?_eq_some_iff.mp hsource
  have hlegible : (sourceFile package runtime fragments).IsLegible :=
    isLegible_sourceFile hpackage hlegal hcomments
  rw [hlegible.directives_render_eq_nil_iff, Source.File.constraints_eq_nil_iff]
  simp only [sourceFile, List.mem_map, forall_exists_index, and_imp, forall_apply_eq_imp_iff₂,
    Declaration.comments_item]

end Files

theorem emit?_of_emitted {o : Options} {fragments : List Fragment} {source : String}
    (h : o.emitted fragments = .ok source) :
    emit? o.withDefaults.package o.withDefaults.runtime fragments = some source := by
  rw [Options.emitted] at h
  split at h
  · rename_i source' hemit
    rw [hemit, Except.ok.inj h]
  · cases h

theorem emitted_of_emit? {o : Options} {fragments : List Fragment} {source : String}
    (h : emit? o.withDefaults.package o.withDefaults.runtime fragments = some source) :
    o.emitted fragments = .ok source := by
  rw [Options.emitted, h]

/-! ### Documentation -/

namespace Octets

/-- The comment mark alone, or the mark, a space and text without a line feed. -/
def IsCommentLine (line : Octets) : Prop :=
  line = ofString "//" ∨
    ∃ text, text ≠ [] ∧ '\n'.toUInt8 ∉ text ∧ line = ofString "// " ++ text

theorem isCommentLine_commentLine {text : Octets} (h : '\n'.toUInt8 ∉ text) :
    IsCommentLine (commentLine text) := by
  cases text with
  | nil => exact .inl rfl
  | cons b text => exact .inr ⟨b :: text, List.cons_ne_nil b text, h, rfl⟩

/-- Every line of a comment of octets begins with the mark and holds no line feed. -/
theorem isCommentLine_of_mem_layout {blocks : List Octets} {line : Octets}
    (h : line ∈ Comment.layout commentLine [] (blocks.map docLines)) : IsCommentLine line := by
  rcases Comment.exists_of_mem_layout h with rfl | ⟨block, hblock, text, htext, rfl⟩
  · exact .inl rfl
  · obtain ⟨block, -, rfl⟩ := List.mem_map.mp hblock
    exact isCommentLine_commentLine (feed_notMem_of_mem_linesOf htext)

theorem docComment_eq_nil_iff {description : Octets} {paragraphs : List Octets} :
    docComment description paragraphs = [] ↔ ∀ block ∈ description :: paragraphs, docLines block = [] := by
  have hline : ∀ line : Octets, line ++ ofString "\n" ≠ [] := by
    intro line hnil
    have hfeed := (List.append_eq_nil_iff.mp hnil).2
    exact absurd (ofString_injective (hfeed.trans ofString_empty.symm)) (by decide)
  have hlines : ∀ lines : List Octets, lines.flatMap (· ++ ofString "\n") = [] ↔ lines = [] := by
    intro lines
    rw [List.flatMap_eq_nil_iff]
    constructor
    · intro h
      exact List.eq_nil_iff_forall_not_mem.mpr fun line hmem => hline line (h line hmem)
    · rintro rfl line hmem
      cases hmem
  rw [docComment, hlines, Comment.layout_eq_nil_iff]
  simp only [List.mem_map, forall_exists_index, and_imp, forall_apply_eq_imp_iff₂]

end Octets

/-- Options that say nothing. -/
def plainOptions : Options :=
  ⟨"", "", "", [], false⟩

/-- A scalar with a description. -/
def describedSchema (description : String) : Schema :=
  { (default : Schema) with
    types := some [some { (default : FullType) with
      kind := .scalar
      name? := some "D"
      description? := some description }] }

theorem generate_plainOptions {schema : Schema} {source : String}
    (h : ((render ⟨Resolver.builtin⟩ false "gen" schema).mapError .render).bind plainOptions.emitted =
      .ok source) : generate (some schema) plainOptions = .ok source := by
  have hbindings : Resolver.ofBindings plainOptions.scalars = .ok ⟨Resolver.builtin⟩ := by
    rw [Resolver.ofBindings, plainOptions, List.mergeSort_nil]
    rfl
  exact (generate_of_ofBindings schema (by decide +kernel) hbindings).trans h

/-- The file of the scalar, with its constraints and its comment. -/
def scalarSource (constraints comment : String) : String :=
  "// Code generated by gqlbuilder. DO NOT EDIT.\n\n" ++ constraints ++ "package gen\n\n" ++ comment ++
    "type D string\n"

end Bindery
