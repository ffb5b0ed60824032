import Mathlib.Data.List.SplitBy
import Bindery.Proofs.Text.Lines
import Bindery.Source.Layout

/-!
# Words of a source text

A source text is looked at line by line. A line is a comment if its first word begins with the comment
mark, and the words of all other lines are the code. Aligning rows changes the number of blanks between
words and nothing else, so the code of a declaration does not depend on the comments in it.

## Main definitions

- `Source.codeWords` — the words of the lines of a text that are no comments
- `Source.IsCommentLine` — a line that begins with the comment mark
- `Source.Body.words` — the words of a declaration without the comments in it

## Main results

- `Source.map_fields_alignCells` — aligned rows have the words of their cells
- `Source.Body.flatMap_render` — a declaration is written with the words of its lines and cells
- `Source.File.flatMap_lines` — a file is written with the words of its parts
-/

namespace Bindery.Source

/-! ### Words between blanks -/

theorem fields_append_cons {b : Char} (hb : isBlank b = true) (cs ds : List Char) :
    fields (cs ++ b :: ds) = fields cs ++ fields ds := by
  rw [fields, List.splitOnP_append_cons cs ds hb, List.filter_append]
  rfl

theorem fields_cons_of_isBlank {b : Char} (hb : isBlank b = true) (cs : List Char) :
    fields (b :: cs) = fields cs :=
  fields_append_cons hb [] cs

theorem fields_replicate_append (n : Nat) (cs : List Char) :
    fields (List.replicate n ' ' ++ cs) = fields cs := by
  induction n with
  | zero => rfl
  | succ n ih =>
    rw [List.replicate_succ, List.cons_append, fields_cons_of_isBlank (by decide), ih]

/-- The words of some cells. -/
def cellWords (cells : List String) : List (List Char) :=
  cells.flatMap fun cell => fields cell.toList

theorem fields_intercalate (cells : List String) :
    fields (String.intercalate " " cells).toList = cellWords cells := by
  rw [String.toList_intercalate]
  induction cells with
  | nil => rfl
  | cons cell cells ih =>
    cases cells with
    | nil => simp [cellWords]
    | cons next cells =>
      rw [List.map_cons, List.map_cons, List.intercalate_cons_cons, ← List.map_cons,
        show " ".toList = [' '] from rfl, List.append_assoc, List.singleton_append,
        fields_append_cons (by decide)]
      exact congrArg (fields cell.toList ++ ·) ih

/-- The words of a line, none if the first one begins with the comment mark. -/
def code (words : List (List Char)) : List (List Char) :=
  if "//".toList.isPrefixOf (words.headD []) then [] else words

/-- The words of the lines of a text that are no comments. -/
def codeWords (source : String) : List (List Char) :=
  (splitWhen (· == '\n') source.toList).flatMap fun line => code (fields line)

/-- The words of a line that is no comment. -/
def lineWords (line : String) : List (List Char) :=
  code (fields line.toList)

/-- A line that begins with the comment mark. -/
def IsCommentLine (line : String) : Prop :=
  ['/', '/'] <+: line.toList

theorem IsCommentLine.append {mark : String} (h : IsCommentLine mark) (text : String) :
    IsCommentLine (mark ++ text) := by
  rw [IsCommentLine, String.toList_append]
  exact h.trans (List.prefix_append _ _)

/-- A comment has no words of code. -/
theorem IsCommentLine.lineWords {line : String} (h : IsCommentLine line) : lineWords line = [] := by
  obtain ⟨text, htext⟩ := h
  obtain ⟨word, words, hwords⟩ := List.exists_cons_of_ne_nil (List.splitOnP_ne_nil isBlank text)
  have hmark : isBlank '/' = false := by decide
  have hfields : fields line.toList = ('/' :: '/' :: word) :: words.filter (!·.isEmpty) := by
    rw [← htext, fields, List.cons_append, List.cons_append, List.nil_append,
      List.splitOnP_cons_eq_if_modifyHead, List.splitOnP_cons_eq_if_modifyHead, hmark, hwords]
    rfl
  rw [Source.lineWords, hfields, code, if_pos (by rfl)]

/-! ### Aligned rows -/

theorem le_foldl_max {α : Type} (f : α → Nat) (as : List α) (n : Nat) :
    n ≤ as.foldl (fun m a => max m (f a)) n ∧
      ∀ a ∈ as, f a ≤ as.foldl (fun m a => max m (f a)) n := by
  induction as generalizing n with
  | nil => exact ⟨le_refl n, fun a ha => absurd ha List.not_mem_nil⟩
  | cons b as ih =>
    obtain ⟨hinit, hmem⟩ := ih (max n (f b))
    rw [List.foldl_cons]
    refine ⟨by omega, ?_⟩
    intro a ha
    rcases List.mem_cons.mp ha with rfl | ha
    · omega
    · exact hmem a ha

/-- A cell that is filled beyond its length is cut off from the text after it. -/
theorem fields_padRight {width : Nat} {s : String} (h : s.length ≤ width) (t : String) :
    fields (padRight (width + 1) s ++ t).toList = fields s.toList ++ fields t.toList := by
  have hfill : width + 1 - s.length = (width - s.length) + 1 := by omega
  rw [padRight, hfill, List.replicate_succ, String.toList_append, String.toList_append,
    String.toList_ofList, List.append_assoc, List.cons_append, fields_append_cons (by decide),
    fields_replicate_append]

theorem map_fields_zipWith {width : Nat} {rows : List (List String)} {rest : List String}
    (hrows : ∀ r ∈ rows, r ≠ [] ∧ (r.headD "").length ≤ width)
    (hrest : rest.map (fun line => fields line.toList) = (rows.map List.tail).map cellWords) :
    (List.zipWith (fun r line => padRight (width + 1) (r.headD "") ++ line) rows rest).map
        (fun line => fields line.toList) = rows.map cellWords := by
  induction rows generalizing rest with
  | nil => rfl
  | cons r rows ih =>
    cases rest with
    | nil => cases hrest
    | cons line rest =>
      obtain ⟨hline, hrest⟩ := List.cons.inj hrest
      obtain ⟨hne, hwide⟩ := hrows r List.mem_cons_self
      have htail := ih (fun r hr => hrows r (List.mem_cons_of_mem _ hr)) hrest
      have hwords : fields line.toList = cellWords r.tail := hline
      rw [List.zipWith_cons_cons, List.map_cons, List.map_cons, htail, fields_padRight hwide, hwords]
      obtain ⟨cell, cells, rfl⟩ := List.exists_cons_of_ne_nil hne
      rfl

theorem eq_of_isChain {α : Type} {f : α → Bool} {a : α} {as : List α}
    (h : (a :: as).IsChain fun b c => (f b == f c) = true) : ∀ b ∈ as, f b = f a := by
  induction as generalizing a with
  | nil => exact fun b hb => absurd hb List.not_mem_nil
  | cons c as ih =>
    obtain ⟨hac, hrest⟩ := List.isChain_cons_cons.mp h
    have hc : f a = f c := by simpa using hac
    intro b hb
    rcases List.mem_cons.mp hb with rfl | hb
    · exact hc.symm
    · rw [ih hrest b hb, hc]

/-- The rows of a group go on after their first cell, or none of them does. -/
theorem length_le_of_mem_group {rows group : List (List String)} {r : List String}
    (hgroup : group ∈ rows.splitBy fun a b => decide (1 < a.length) == decide (1 < b.length))
    (hall : ¬ group.all (fun r => decide (1 < r.length)) = true) (hr : r ∈ group) : r.length ≤ 1 := by
  have hchain := List.isChain_of_mem_splitBy hgroup
  cases group with
  | nil => cases hr
  | cons a as =>
    have hsame := eq_of_isChain (f := fun r : List String => decide (1 < r.length)) hchain
    have hlong : ¬ 1 < a.length := by
      intro ha
      apply hall
      rw [List.all_cons, Bool.and_eq_true, List.all_eq_true]
      exact ⟨decide_eq_true ha, fun b hb => (hsame b hb).trans (decide_eq_true ha)⟩
    rcases List.mem_cons.mp hr with rfl | hr
    · exact Nat.le_of_not_lt hlong
    · have hrow : decide (1 < r.length) = decide (1 < a.length) := hsame r hr
      exact Nat.le_of_not_lt ((decide_eq_decide.mp hrow).not.mpr hlong)

/-- Aligned rows have the words of their cells. -/
theorem map_fields_alignCells {columns : Nat} {rows : List (List String)}
    (h : ∀ r ∈ rows, r.length ≤ columns) :
    (alignCells columns rows).map (fun line => fields line.toList) = rows.map cellWords := by
  induction columns generalizing rows with
  | zero =>
    rw [alignCells, List.map_map]
    refine List.map_congr_left fun r hr => ?_
    rw [List.eq_nil_of_length_eq_zero (Nat.le_zero.mp (h r hr))]
    rfl
  | succ columns ih =>
    have hmem : ∀ {group r}, group ∈ rows.splitBy
        (fun a b => decide (1 < a.length) == decide (1 < b.length)) → r ∈ group → r ∈ rows := by
      intro group r hgroup hr
      rw [← List.flatten_splitBy (fun a b => decide (1 < a.length) == decide (1 < b.length)) rows]
      exact List.mem_flatten_of_mem hgroup hr
    conv_rhs => rw [← List.flatten_splitBy
      (fun a b => decide (1 < a.length) == decide (1 < b.length)) rows, List.map_flatten]
    rw [alignCells, List.map_flatMap, List.flatMap]
    congr 1
    refine List.map_congr_left fun group hgroup => ?_
    by_cases hall : group.all (fun r => decide (1 < r.length)) = true
    · rw [if_pos hall]
      have hlong : ∀ r ∈ group, 1 < r.length := fun r hr =>
        of_decide_eq_true (List.all_eq_true.mp hall r hr)
      refine map_fields_zipWith (fun r hr => ⟨?_, ?_⟩) (ih ?_)
      · intro hnil
        have := hlong r hr
        simp [hnil] at this
      · rw [List.foldl_map]
        exact (le_foldl_max (fun r : List String => (r.headD "").length) group 0).2 r hr
      · intro t ht
        obtain ⟨r, hr, rfl⟩ := List.mem_map.mp ht
        have := h r (hmem hgroup hr)
        rw [List.length_tail]
        omega
    · rw [if_neg hall, List.map_map]
      refine List.map_congr_left fun r hr => ?_
      have hshort := length_le_of_mem_group hgroup hall hr
      cases r with
      | nil => rfl
      | cons cell cells =>
        have hnil : cells = [] := by
          apply List.eq_nil_of_length_eq_zero
          rw [List.length_cons] at hshort
          omega
        subst hnil
        simp [cellWords, String.join]

/-! ### Rows with comments -/

namespace Row

/-- The cells of a row, none if it is a comment. -/
def cells? : Row → Option (List String)
  | comment _ => none
  | cells cs => some cs

/-- The line of a comment, none if the row has cells. -/
def comment? : Row → Option String
  | comment l => some l
  | cells _ => none

/-- The line of a row that is not aligned. -/
def line : Row → String
  | comment l => l
  | cells cs => String.intercalate " " cs

end Row

theorem alignRows_eq (rows : List Row) : alignRows rows =
    if (rows.filter (·.cells?.isSome)).length == 1 then rows.map Row.line
    else (rows.splitBy fun a b => a.cells?.isSome == b.cells?.isSome).flatMap fun group =>
      group.filterMap Row.comment? ++
        alignCells ((group.filterMap Row.cells?).foldl (fun n cs => max n cs.length) 0)
          (group.filterMap Row.cells?) := by
  unfold alignRows
  congr! 6 with r
  · cases r <;> rfl
  · rename_i a b
    cases a <;> rfl
  · rename_i a b
    cases b <;> rfl

/-- The words of rows, comments left out. -/
def rowWords (rows : List Row) : List (List Char) :=
  (rows.filterMap Row.cells?).flatMap fun cells => code (cellWords cells)

theorem flatMap_rowWords (groups : List (List Row)) :
    groups.flatMap rowWords = rowWords groups.flatten := by
  induction groups with
  | nil => rfl
  | cons group groups ih =>
    rw [List.flatMap_cons, ih, List.flatten_cons, rowWords, rowWords, rowWords, List.filterMap_append,
      List.flatMap_append]

/-- Rows are written with the words of their cells. -/
theorem flatMap_alignRows {rows : List Row}
    (h : ∀ l ∈ rows.filterMap Row.comment?, IsCommentLine l) :
    (alignRows rows).flatMap lineWords = rowWords rows := by
  have hcomments : ∀ {ls : List String}, (∀ l ∈ ls, IsCommentLine l) → ls.flatMap lineWords = [] :=
    fun hls => List.flatMap_eq_nil_iff.mpr fun l hl => (hls l hl).lineWords
  rw [alignRows_eq]
  split
  · -- a single row of cells stands as it is
    rw [rowWords, List.flatMap_map]
    clear * - h
    induction rows with
    | nil => rfl
    | cons r rows ih =>
      cases r with
      | comment l =>
        have hl : IsCommentLine l := h l List.mem_cons_self
        have hrest := ih fun l hl => h l (List.mem_cons_of_mem _ hl)
        rw [List.flatMap_cons, hrest]
        show lineWords l ++ _ = _
        rw [hl.lineWords]
        rfl
      | cells cs =>
        rw [List.flatMap_cons, ih h]
        show code (fields (String.intercalate " " cs).toList) ++ _ = _
        rw [fields_intercalate]
        rfl
  · -- the groups are written one after the other
    have hmem : ∀ {group l}, group ∈ rows.splitBy (fun a b => a.cells?.isSome == b.cells?.isSome) →
        l ∈ group.filterMap Row.comment? → IsCommentLine l := by
      intro group l hgroup hl
      apply h
      rw [← List.flatten_splitBy (fun a b => a.cells?.isSome == b.cells?.isSome) rows,
        List.filterMap_flatten]
      exact List.mem_flatten_of_mem (List.mem_map_of_mem hgroup) hl
    have hgroup : ∀ group ∈ rows.splitBy (fun a b => a.cells?.isSome == b.cells?.isSome),
        (group.filterMap Row.comment? ++
          alignCells ((group.filterMap Row.cells?).foldl (fun n cs => max n cs.length) 0)
            (group.filterMap Row.cells?)).flatMap lineWords = rowWords group := by
      intro group hgroup
      have hwords := map_fields_alignCells
        (le_foldl_max List.length (group.filterMap Row.cells?) 0).2
      have hlines : ∀ ls : List String,
          ls.flatMap lineWords = (ls.map fun line => fields line.toList).flatMap code :=
        fun ls => (List.flatMap_map (fun line : String => fields line.toList) code ls).symm
      rw [List.flatMap_append, hcomments fun l => hmem hgroup, List.nil_append, hlines, hwords,
        List.flatMap_map]
      rfl
    rw [List.flatMap_assoc, List.flatMap_congr hgroup, flatMap_rowWords, List.flatten_splitBy]

/-! ### Declarations and files -/

/-- The comment lines in a declaration. -/
def Body.comments : Body → List String
  | lines _ => []
  | table _ rows _ => rows.filterMap Row.comment?

/-- The words of a declaration, the comments in it left out. -/
def Body.words : Body → List (List Char)
  | lines texts => texts.flatMap lineWords
  | table opening rows closing => lineWords opening ++ rowWords rows ++ lineWords closing

theorem lineWords_tab (line : String) : lineWords ("\t" ++ line) = lineWords line := by
  rw [lineWords, String.toList_append, show "\t".toList = ['\t'] from rfl, List.singleton_append,
    fields_cons_of_isBlank (by decide), ← lineWords]

/-- A declaration is written with its words. -/
theorem Body.flatMap_render {b : Body} (h : ∀ l ∈ b.comments, IsCommentLine l) :
    b.render.flatMap lineWords = b.words := by
  cases b with
  | lines texts => rfl
  | table opening rows closing =>
    have htabs : (lineWords ∘ ("\t" ++ ·)) = lineWords := funext lineWords_tab
    rw [render, List.flatMap_append, List.flatMap_cons, List.flatMap_map]
    show lineWords opening ++ (alignRows rows).flatMap (lineWords ∘ ("\t" ++ ·)) ++ _ = _
    rw [htabs, flatMap_alignRows h]
    simp [words]

theorem Item.comments_eq (i : Item) : i.comments = i.doc ++ i.body.comments := by
  rw [comments]
  cases i.body with
  | lines texts => rfl
  | table opening rows closing =>
    refine congrArg (i.doc ++ ·) (List.filterMap_congr fun r _ => ?_)
    cases r <;> rfl

theorem trimEnd_cons_of_not {p : Char → Bool} {c : Char} (h : p c = false) (cs : List Char) :
    trimEnd p (c :: cs) = c :: trimEnd p cs := by
  have hdrop : (cs.reverse ++ [c]).dropWhile p = cs.reverse.dropWhile p ++ [c] := by
    rw [List.dropWhile_append]
    split
    · rename_i hnil
      rw [List.isEmpty_iff.mp hnil]
      simp [h]
    · rfl
  rw [trimEnd, List.reverse_cons, hdrop]
  simp [trimEnd]

/-- A comment line is one without its carriage returns and the blanks at its end. -/
theorem IsCommentLine.cleanComment {line : String} (h : IsCommentLine line) :
    IsCommentLine (cleanComment line) := by
  obtain ⟨text, htext⟩ := h
  have hmark : isBlank '/' = false := by decide
  refine ⟨trimEnd isBlank (text.filter (· != '\r')), ?_⟩
  rw [Source.cleanComment, String.toList_ofList, ← htext]
  show _ = trimEnd isBlank ('/' :: '/' :: text.filter (· != '\r'))
  rw [trimEnd_cons_of_not hmark, trimEnd_cons_of_not hmark]
  rfl

/-- The declaration as it is written: its comment lines are cleaned, and those that are build constraints
are taken out. -/
def Item.kept (i : Item) : Item :=
  i.clean.withoutConstraints

theorem Row.comment?_clean (r : Row) : r.clean.comment? = r.comment?.map cleanComment := by
  cases r <;> rfl

theorem Row.cells?_clean (r : Row) : r.clean.cells? = r.cells? := by
  cases r <;> rfl

theorem Item.comments_clean (i : Item) : i.clean.comments = i.comments.map cleanComment := by
  rw [comments_eq, comments_eq, List.map_append]
  refine congrArg (i.doc.map cleanComment ++ ·) ?_
  cases h : i.body with
  | lines texts => simp [clean, h, Body.comments]
  | table opening rows closing =>
    simp only [clean, h, Body.comments, List.filterMap_map, List.map_filterMap]
    exact List.filterMap_congr fun r _ => r.comment?_clean

/-- A comment line that is written is cleaned and no build constraint. -/
theorem Item.exists_of_mem_comments_kept {i : Item} {l : String} (h : l ∈ i.kept.comments) :
    ∃ l' ∈ i.comments, l = cleanComment l' ∧ Constraint.ofComment? l = none := by
  have hl : l ∈ i.clean.comments ∧ Constraint.ofComment? l = none := by
    rw [kept, comments_eq] at h
    rw [comments_eq]
    rcases List.mem_append.mp h with h | h
    · have hdoc := List.mem_filter.mp h
      exact ⟨List.mem_append_left _ hdoc.1, by simpa using hdoc.2⟩
    · cases hbody : i.clean.body with
      | lines texts => simp [withoutConstraints, hbody, Body.comments] at h
      | table opening rows closing =>
        simp only [withoutConstraints, hbody, Body.comments, List.mem_filterMap, List.mem_filter] at h
        obtain ⟨r, ⟨hr, hkept⟩, hrl⟩ := h
        cases r with
        | cells cs => cases hrl
        | comment l' =>
          obtain rfl : l' = l := Option.some.inj hrl
          refine ⟨List.mem_append_right _ (List.mem_filterMap.mpr ⟨_, hr, rfl⟩), by simpa using hkept⟩
  rw [comments_clean, List.mem_map] at hl
  obtain ⟨⟨l', hl', rfl⟩, hnone⟩ := hl
  exact ⟨l', hl', rfl, hnone⟩

theorem filterMap_cells?_filter {p : Row → Bool} (h : ∀ cs, p (.cells cs) = true) (rows : List Row) :
    (rows.filter p).filterMap Row.cells? = rows.filterMap Row.cells? := by
  induction rows with
  | nil => rfl
  | cons r rows ih =>
    cases r with
    | cells cs => rw [List.filter_cons_of_pos (h cs), List.filterMap_cons, List.filterMap_cons, ih]
    | comment l =>
      by_cases hl : p (.comment l) = true
      · rw [List.filter_cons_of_pos hl]
        exact ih
      · rw [List.filter_cons_of_neg hl]
        exact ih

/-- What is done to comments does not change the words of a declaration. -/
theorem Item.words_kept (i : Item) : i.kept.body.words = i.body.words := by
  cases h : i.body with
  | lines texts => simp [kept, withoutConstraints, clean, h, Body.words]
  | table opening rows closing =>
    simp only [kept, withoutConstraints, clean, h, Body.words, rowWords]
    rw [filterMap_cells?_filter fun _ => rfl, List.filterMap_map,
      List.filterMap_congr fun r _ => r.cells?_clean]

theorem feed_notMem_of_mem_textLines {text : List Char} {l : Prose.Line} (h : l ∈ Prose.textLines text) :
    '\n' ∉ l := by
  have hmem : l ∈ text.splitOn '\n' := by
    rw [Prose.textLines] at h
    split at h
    · rename_i rest heq
      rw [← List.mem_reverse, heq]
      exact List.mem_cons_of_mem _ (List.mem_reverse.mp h)
    · rwa [List.mem_reverse, List.mem_reverse] at h
  rw [List.splitOn, ← splitWhen_eq_splitOnP] at hmem
  intro hfeed
  have := (not_of_mem_splitWhen hmem hfeed).1
  simp at this

/-- A line of a comment in canonical form: after the comment mark there is nothing, or a space or a tab and
text without a line feed. -/
theorem exists_of_mem_reflow {comment : List String} {l : String} (h : l ∈ Prose.reflow comment) :
    ∃ text, l.toList = '/' :: '/' :: text ∧ '\n' ∉ text ∧
      ∀ c, text.head? = some c → c = ' ' ∨ c = '\t' := by
  have hmark : isBlank '/' = false := by decide
  rw [Prose.reflow] at h
  split at h
  · cases h
  · obtain ⟨line, hline, rfl⟩ := List.mem_map.mp h
    have hfeed := feed_notMem_of_mem_textLines hline
    obtain ⟨text, htext, hnot, hhead⟩ : ∃ text, (Prose.commentLine line).toList = '/' :: '/' :: text ∧
        '\n' ∉ text ∧ ∀ c, text.head? = some c → c = ' ' ∨ c = '\t' := by
      rw [Prose.commentLine]
      split
      · exact ⟨[], rfl, by simp, by simp⟩
      · split
        · rename_i htab
          refine ⟨line, String.toList_ofList, hfeed, fun c hc => .inr ?_⟩
          rw [beq_iff_eq.mp htab] at hc
          exact (Option.some.inj hc).symm
        · refine ⟨' ' :: line, String.toList_ofList, by simp [hfeed], fun c hc => .inl ?_⟩
          exact (Option.some.inj hc).symm
    have hprefix : trimEnd isBlank text <+: text := List.rdropWhile_prefix isBlank _
    refine ⟨trimEnd isBlank text, ?_, fun hmem => hnot (mem_of_mem_trimEnd hmem), ?_⟩
    · rw [String.toList_ofList, htext, trimEnd_cons_of_not hmark, trimEnd_cons_of_not hmark]
    · intro c hc
      obtain ⟨blanks, hblanks⟩ := hprefix
      apply hhead
      rw [← hblanks, List.head?_append, hc]
      rfl

theorem isCommentLine_of_mem_reflow {comment : List String} {l : String}
    (h : l ∈ Prose.reflow comment) : IsCommentLine l := by
  obtain ⟨text, htext, -⟩ := exists_of_mem_reflow h
  exact ⟨text, htext.symm⟩

/-- A declaration is written with its words, whatever its comments are. -/
theorem Item.flatMap_render_kept {i : Item} (h : ∀ l ∈ i.comments, IsCommentLine l) :
    i.kept.render.flatMap lineWords = i.body.words := by
  have hbody : ∀ l ∈ i.kept.body.comments, IsCommentLine l := by
    intro l hl
    have hmem : l ∈ i.kept.comments := by
      rw [comments_eq]
      exact List.mem_append_right _ hl
    obtain ⟨l', hl', rfl, -⟩ := exists_of_mem_comments_kept hmem
    exact (h l' hl').cleanComment
  have hdoc : (Prose.reflow (Prose.reflow (Prose.reflow i.kept.doc))).flatMap lineWords = [] :=
    List.flatMap_eq_nil_iff.mpr fun l hl => (isCommentLine_of_mem_reflow hl).lineWords
  rw [render, List.flatMap_append, hdoc, List.nil_append, Body.flatMap_render hbody, words_kept]

/-- The lines that state constraints are comment lines. -/
theorem isCommentLine_of_mem_constraintLines {cs : List Constraint} {l : String}
    (h : l ∈ constraintLines cs) : IsCommentLine l := by
  cases cs with
  | nil => cases h
  | cons c cs =>
    rcases List.mem_cons.mp h with rfl | h
    · exact IsCommentLine.append ⟨_, rfl⟩ _
    · obtain ⟨part, -, rfl⟩ := List.mem_map.mp h
      exact IsCommentLine.append ⟨_, rfl⟩ _

namespace File

/-- The build constraints among the comments of a file. -/
def constraints (f : File) : List Constraint :=
  ((f.items.map Item.clean).flatMap Item.comments).filterMap Constraint.ofComment?

/-- The parts of a file, between which empty lines stand. -/
def parts (f : File) : List (List String) :=
  [["// " ++ f.header], constraintLines f.constraints, ["package " ++ f.package], f.imports.render] ++
    f.items.map (·.kept.render)

/-- The lines of a file. -/
def lines (f : File) : List String :=
  ((f.parts.filter (!·.isEmpty)).intersperse [""]).flatten

theorem render_eq (f : File) : f.render = unlines f.lines := by
  rw [render, lines, parts, List.map_map]
  rfl

end File

namespace File

theorem mem_part_of_mem_lines {f : File} {l : String} (h : l ∈ f.lines) :
    l = "" ∨ ∃ part ∈ f.parts, l ∈ part := by
  obtain ⟨part, hpart, hl⟩ := List.mem_flatten.mp h
  rcases mem_of_mem_intersperse hpart with rfl | hpart
  · exact .inl (List.mem_singleton.mp hl)
  · exact .inr ⟨part, List.mem_of_mem_filter hpart, hl⟩

theorem mem_lines_of_mem_part {f : File} {part : List String} (hpart : part ∈ f.parts) {l : String}
    (hl : l ∈ part) : l ∈ f.lines := by
  refine List.mem_flatten.mpr ⟨part, mem_intersperse_of_mem _ (List.mem_filter.mpr ⟨hpart, ?_⟩), hl⟩
  cases part with
  | nil => cases hl
  | cons => rfl

end File

theorem flatMap_intersperse {parts : List (List String)} :
    (parts.intersperse [""]).flatten.flatMap lineWords = parts.flatten.flatMap lineWords := by
  induction parts with
  | nil => rfl
  | cons part parts ih =>
    cases parts with
    | nil => rfl
    | cons next parts =>
      have hempty : [""].flatMap lineWords = [] := rfl
      rw [List.intersperse_cons_cons, List.flatten_cons, List.flatten_cons, List.flatMap_append,
        List.flatMap_append, ih, hempty, List.nil_append, List.flatten_cons (l := part),
        List.flatMap_append]

theorem flatten_filter_isEmpty {α : Type} (parts : List (List α)) :
    (parts.filter (!·.isEmpty)).flatten = parts.flatten := by
  induction parts with
  | nil => rfl
  | cons part parts ih => cases part <;> simp [ih]

/-- A file is written with the words of its package clause, its imports and its declarations. -/
theorem File.flatMap_lines {f : File} (h : ∀ i ∈ f.items, ∀ l ∈ i.comments, IsCommentLine l) :
    f.lines.flatMap lineWords = lineWords ("package " ++ f.package) ++
      f.imports.render.flatMap lineWords ++ f.items.flatMap (·.body.words) := by
  have hheader : lineWords ("// " ++ f.header) = [] :=
    (IsCommentLine.append ⟨_, rfl⟩ _).lineWords
  have hconstraints : (constraintLines f.constraints).flatMap lineWords = [] :=
    List.flatMap_eq_nil_iff.mpr fun l hl => (isCommentLine_of_mem_constraintLines hl).lineWords
  have hitems : (f.items.map (·.kept.render)).flatten.flatMap lineWords =
      f.items.flatMap (·.body.words) := by
    rw [← List.flatMap_def, List.flatMap_assoc]
    exact List.flatMap_congr fun i hi => Item.flatMap_render_kept (h i hi)
  rw [lines, flatMap_intersperse, flatten_filter_isEmpty, parts, List.flatten_append,
    List.flatMap_append, hitems]
  simp [hheader, hconstraints]

end Bindery.Source
