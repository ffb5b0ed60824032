import Bindery.Proofs.Query.Parts
import Bindery.Proofs.Query.Sharing

/-!
# Documents of chains

The calls that led to a selection began an operation and then selected one field below another. The document
of the selection shows exactly this: the operation, and each field in braces inside the one before it, with
the arguments that it was given last. The first field on the way down whose arguments cannot be written is
the one that is reported.

## Main definitions

- `History.line` — the operation and the fields that led to a selection
- `History.fields` — these fields with the arguments that they were given last
- `nestedText` — fields in braces, one inside the other

## Main results

- `History.names_eq_line`, `History.lineage_eq_line` — selections lie below each other as they were made
- `History.build_eq_documentOf` — the document of a selection by the calls that led to it
- `nestedText_eq` — the braces of a document are all closed at its end
- `History.build_nested` — what the document of a selection is, and when there is none
-/

namespace Bindery

namespace History

/-- The operation and the fields that led to a selection by the calls that made them, each field with its
number. -/
def line : {n : Nat} → History n → Nat → Octets × List (Octets × Nat)
  | _, start, _ => ([], [])
  | _, @root n h operation, i => if i = n then (operation, []) else h.line i
  | _, @select n h parent name, i =>
    if i = n then ((h.line parent).1, (h.line parent).2 ++ [(name, n)]) else h.line i
  | _, arguments h _ _, i => h.line i
  | _, ask h _ _, i => h.line i

/-- The fields that led to a selection, with the arguments that they were given last. -/
def fields {n : Nat} (h : History n) (i : Nat) : List (Octets × Written) :=
  (h.line i).2.map fun f => (f.1, h.lastWritten f.2)

variable {n : Nat}

/-! ### Selections lie below each other as they were made -/

theorem parent?_root (h : History n) (operation : Octets) : (h.root operation).forest.parent? n = none := by
  have hnew := h.forest.getElem?_add ⟨operation, .ok [], none⟩
  rw [Forest.add, h.length_forest] at hnew
  rw [forest, Forest.root, Forest.add, Forest.parent?, hnew]
  rfl

theorem parent?_select (h : History n) (parent : Fin n) (name : Octets) :
    (h.select parent name).forest.parent? n = some parent.val := by
  have hnew := h.forest.getElem?_add ⟨name, .ok [], some parent⟩
  rw [Forest.add, h.length_forest] at hnew
  rw [forest, Forest.select, Forest.add, Forest.parent?, hnew]
  rfl

/-- The names on the way to a selection are those of the calls that led to it. -/
theorem names_eq_line (h : History n) {i : Nat} (hi : i < n) :
    h.forest.names i = (h.line i).1 :: (h.line i).2.map (·.1) := by
  induction h generalizing i with
  | start => omega
  | @root n h operation ih =>
    by_cases hin : i = n
    · have hnew := h.forest.names_root operation
      rw [Forest.root, Forest.add, h.length_forest] at hnew
      rw [line, if_pos hin, hin]
      exact hnew
    · have hlt : i < n := by omega
      rw [line, if_neg hin, ← ih hlt]
      exact (Extends.root .refl operation : h.Extends _).names ⟨i, hlt⟩
  | @select n h parent name ih =>
    by_cases hin : i = n
    · have hparent : parent < h.forest.selections.length := by
        rw [h.length_forest]
        exact parent.isLt
      have hnew := h.forest.names_select hparent name
      rw [ih parent.isLt, Forest.select, Forest.add, h.length_forest] at hnew
      rw [line, if_pos hin, hin, List.map_append, ← List.cons_append]
      exact hnew
    · have hlt : i < n := by omega
      rw [line, if_neg hin, ← ih hlt]
      exact (Extends.select .refl parent name : h.Extends _).names ⟨i, hlt⟩
  | arguments h j v ih =>
    rw [h.names_arguments j v i]
    exact ih hi
  | ask h j q ih => exact ih hi

/-- The selections on the way to a selection are those that were made by the calls that led to it. -/
theorem lineage_eq_line (h : History n) {i : Nat} (hi : i < n) :
    (h.forest.lineage i).tail = (h.line i).2.map (·.2) := by
  induction h generalizing i with
  | start => omega
  | @root n h operation ih =>
    by_cases hin : i = n
    · rw [line, if_pos hin, hin, Forest.lineage_of_root (h.parent?_root operation)]
      rfl
    · have hlt : i < n := by omega
      rw [line, if_neg hin, ← ih hlt]
      exact congrArg List.tail (h.lineage_add _ ⟨i, hlt⟩)
  | @select n h parent name ih =>
    by_cases hin : i = n
    · have hline := Forest.lineage_of_parent (h.parent?_select parent name) parent.isLt
      have hparent : (h.select parent name).forest.lineage parent = h.forest.lineage parent :=
        h.lineage_add _ parent
      rw [line, if_pos hin, hin, hline, hparent,
        List.tail_append_of_ne_nil (h.forest.lineage_ne_nil parent), ih parent.isLt, List.map_append]
      rfl
    · have hlt : i < n := by omega
      rw [line, if_neg hin, ← ih hlt]
      exact congrArg List.tail (h.lineage_add _ ⟨i, hlt⟩)
  | arguments h j v ih =>
    have hline : (h.arguments j v).forest.lineage i = h.forest.lineage i :=
      Forest.lineage_congr fun k _ => h.parent?_arguments j v k
    rw [hline]
    exact ih hi
  | ask h j q ih => exact ih hi

/-- A selection that no field led to is a root. -/
theorem parent?_of_line_eq_nil (h : History n) {i : Nat} (hi : i < n) (hline : (h.line i).2 = []) :
    h.forest.parent? i = none := by
  induction h generalizing i with
  | start => omega
  | @root n h operation ih =>
    by_cases hin : i = n
    · rw [hin]
      exact h.parent?_root operation
    · have hlt : i < n := by omega
      rw [line, if_neg hin] at hline
      rw [← ih hlt hline]
      exact Forest.parent?_add _ (by rwa [h.length_forest])
  | @select n h parent name ih =>
    by_cases hin : i = n
    · rw [line, if_pos hin] at hline
      simp at hline
    · have hlt : i < n := by omega
      rw [line, if_neg hin] at hline
      rw [← ih hlt hline]
      exact Forest.parent?_add _ (by rwa [h.length_forest])
  | arguments h j v ih =>
    rw [h.parent?_arguments j v i]
    exact ih hi hline
  | ask h j q ih => exact ih hi hline

theorem operation_eq_line (h : History n) {i : Nat} (hi : i < n) :
    h.forest.operation i = (h.line i).1 := by
  rw [Forest.operation_eq, h.names_eq_line hi]
  rfl

theorem path_eq_fields (h : History n) {i : Nat} (hi : i < n) :
    h.forest.path i = (h.fields i).map (·.1) := by
  rw [Forest.path_eq, h.names_eq_line hi, fields, List.map_map]
  rfl

/-- The document of a selection by the calls that led to it. -/
theorem build_eq_documentOf (h : History n) {i : Nat} (hi : i < n) :
    h.forest.build i = documentOf (h.line i).1 (h.fields i) := by
  have hfields : (h.forest.path i).zip ((h.forest.lineage i).tail.map h.lastWritten) = h.fields i := by
    rw [h.path_eq_fields hi, h.lineage_eq_line hi, fields, List.map_map, List.map_map, List.zip_map']
    rfl
  rw [h.build_eq hi, h.operation_eq_line hi, hfields]

end History

/-! ### Fields inside each other -/

/-- A field with its arguments in parentheses, and without parentheses if there are none. -/
def openedText (field : Octets × Octets) : Octets :=
  field.1 ++ if field.2 = [] then [] else [0x28] ++ field.2 ++ [0x29]

/-- Fields with their arguments, each in braces inside the one before it. -/
def nestedText : List (Octets × Octets) → Octets
  | [] => []
  | field :: rest => [0x7b] ++ openedText field ++ nestedText rest ++ [0x7d]

/-- The braces of all fields are closed at the end. -/
theorem nestedText_eq (fs : List (Octets × Octets)) :
    nestedText fs = fs.flatMap (fun f => [0x7b] ++ openedText f) ++ List.replicate fs.length 0x7d := by
  induction fs with
  | nil => rfl
  | cons f rest ih =>
    rw [nestedText, ih, List.flatMap_cons, List.length_cons, List.replicate_succ']
    simp only [List.append_assoc]

theorem openedText_eq (f : Octets × Octets) : f.1 ++ parenthesized f.2 = openedText f := by
  obtain ⟨name, args⟩ := f
  cases args <;> rfl

theorem nest_texts (fs : List (Octets × Octets)) :
    nest (fs.map fun f => .ofField (f.1, .ok f.2)) = .ok (nestedText fs) := by
  induction fs with
  | nil => rfl
  | cons f rest ih =>
    rw [List.map_cons, nest, ih, nestedText, ← openedText_eq]
    simp [Selection.ofField, Except.map]

theorem nest_first_error {before : List (Octets × Written)} (hbefore : ∀ f ∈ before, f.2.isOk = true)
    (name : Octets) (e : ArgumentError) (after : List (Octets × Written)) :
    nest ((before ++ (name, .error e) :: after).map .ofField) = .error (.arguments name e) := by
  induction before with
  | nil => rfl
  | cons f rest ih =>
    obtain ⟨hf, hrest⟩ := List.forall_mem_cons.mp hbefore
    obtain ⟨field, w⟩ := f
    cases w with
    | error e' => cases hf
    | ok args =>
      rw [List.cons_append, List.map_cons, nest, ih hrest]
      rfl

theorem documentOf_of_ne_nil (operation : Octets) {fields : List (Octets × Written)} (h : fields ≠ []) :
    documentOf operation fields = (nest (fields.map .ofField)).map (operation ++ ·) := by
  cases fields with
  | nil => exact absurd rfl h
  | cons f rest => rfl

theorem documentOf_texts (operation : Octets) {fs : List (Octets × Octets)} (h : fs ≠ []) :
    documentOf operation (fs.map fun f => (f.1, .ok f.2)) = .ok (operation ++ nestedText fs) := by
  have hne : (fs.map fun f => (f.1, .ok f.2) : List (Octets × Written)) ≠ [] := by
    simpa using h
  rw [documentOf_of_ne_nil operation hne, List.map_map]
  exact congrArg (Except.map (operation ++ ·)) (nest_texts fs)

theorem documentOf_first_error (operation : Octets) {before : List (Octets × Written)}
    (hbefore : ∀ f ∈ before, f.2.isOk = true) (name : Octets) (e : ArgumentError)
    (after : List (Octets × Written)) :
    documentOf operation (before ++ (name, .error e) :: after) = .error (.arguments name e) := by
  rw [documentOf_of_ne_nil operation (by simp), nest_first_error hbefore]
  rfl

theorem eq_texts {fields : List (Octets × Written)} {text : Octets × Written → Octets}
    (h : ∀ f ∈ fields, f.2 = .ok (text f)) :
    fields = (fields.map fun f => (f.1, text f)).map fun f => (f.1, .ok f.2) := by
  rw [List.map_map]
  refine (List.map_id fields).symm.trans (List.map_congr_left fun f hf => ?_)
  exact Prod.ext rfl (h f hf)

/-- The document of an operation with fields, or the first field on the way down that is in its way. -/
theorem documentOf_cases (operation : Octets) {fields : List (Octets × Written)} (h : fields ≠ []) :
    (∃ o, documentOf operation fields = .ok o ∧ ∀ f ∈ fields, f.2.isOk = true) ∨
      ∃ name e, documentOf operation fields = .error (.arguments name e) ∧ (name, .error e) ∈ fields := by
  rcases Written.all_or_first_error Prod.snd fields with
    ⟨text, htext⟩ | ⟨before, f, after, e, rfl, hbefore, hf⟩
  · have hne : fields.map (fun f => (f.1, text f)) ≠ [] := by simpa using h
    refine .inl ⟨_, (congrArg _ (eq_texts htext)).trans (documentOf_texts operation hne), fun f hf => ?_⟩
    rw [htext f hf]
    rfl
  · obtain ⟨name, w⟩ := f
    obtain rfl : w = .error e := hf
    exact .inr ⟨name, e, documentOf_first_error operation hbefore name e after, by simp⟩

theorem documentOf_eq_emptySelection_iff (operation : Octets) (fields : List (Octets × Written)) :
    documentOf operation fields = .error .emptySelection ↔ fields = [] := by
  constructor
  · intro hempty
    refine Decidable.byContradiction fun hne => ?_
    rcases documentOf_cases operation hne with ⟨o, ho, -⟩ | ⟨name, e, he, -⟩
    · rw [ho] at hempty
      cases hempty
    · rw [he] at hempty
      cases hempty
  · rintro rfl
    rfl

theorem exists_documentOf_error_iff (operation : Octets) {fields : List (Octets × Written)}
    (h : fields ≠ []) :
    (∃ e, documentOf operation fields = .error e) ↔ ∃ f ∈ fields, f.2.isOk = false := by
  rcases documentOf_cases operation h with ⟨o, ho, hok⟩ | ⟨name, e, he, hmem⟩
  · refine iff_of_false ?_ ?_
    · rintro ⟨e, he⟩
      rw [ho] at he
      cases he
    · rintro ⟨f, hf, hrefused⟩
      rw [hok f hf] at hrefused
      cases hrefused
  · exact iff_of_true ⟨_, he⟩ ⟨_, hmem, rfl⟩

namespace History

variable {n : Nat}

/-- The document of a selection, by the calls that led to it. The names and the operation of the selection are
those that were given in these calls. There is no document exactly if no field was selected, or the arguments
that some field was given last cannot be written, and then the first such field on the way down is reported.
Otherwise the document is the operation followed by the fields, each in braces inside the one before it. What
roots are given as arguments makes no difference. -/
theorem build_nested (h : History n) (t : Fin n) :
    h.forest.operation t = (h.line t).1 ∧
    h.forest.path t = (h.fields t).map (·.1) ∧
    (h.forest.build t = .error .emptySelection ↔ h.fields t = []) ∧
    (h.fields t ≠ [] →
      ((∃ e, h.forest.build t = .error e) ↔ ∃ f ∈ h.fields t, f.2.isOk = false)) ∧
    (∀ before name e after, h.fields t = before ++ (name, .error e) :: after →
      (∀ f ∈ before, f.2.isOk = true) → h.forest.build t = .error (.arguments name e)) ∧
    (∀ fs, fs ≠ [] → h.fields t = fs.map (fun f => (f.1, .ok f.2)) →
      h.forest.build t = .ok ((h.line t).1 ++ nestedText fs) ∧
      nestedText fs = fs.flatMap (fun f => [0x7b] ++ openedText f) ++ List.replicate fs.length 0x7d) ∧
    ∀ r v, (h.line (r : Fin n)).2 = [] → (h.arguments r v).forest.build t = h.forest.build t := by
  have hbuild := h.build_eq_documentOf t.isLt
  refine ⟨h.operation_eq_line t.isLt, h.path_eq_fields t.isLt, ?_, ?_, ?_, ?_, ?_⟩
  · rw [hbuild]
    exact documentOf_eq_emptySelection_iff _ _
  · intro hne
    rw [hbuild]
    exact exists_documentOf_error_iff _ hne
  · intro before name e after hfields hbefore
    rw [hbuild, hfields]
    exact documentOf_first_error _ hbefore name e after
  · intro fs hne hfields
    rw [hbuild, hfields]
    exact ⟨documentOf_texts _ hne, nestedText_eq fs⟩
  · intro r v hroot
    refine Classical.byContradiction fun hne => ?_
    exact (atOrAbove_of_build_ne hne).2 (h.parent?_of_line_eq_nil r.isLt hroot)

end History

/-- A truth value is no argument list: the ticket that it is given to is reported, and the root that it is
given to is written as before. -/
theorem ticketHistory_nested :
    (ticketHistory.arguments 1 (some (.bool true))).forest.build 3 =
        .error (.arguments (Octets.ofString "ticket") ⟨[], .notArguments "bool"⟩) ∧
      (ticketHistory.arguments 0 (some (.bool true))).forest.build 3 =
        .ok (Octets.ofString "query" ++
          nestedText [(Octets.ofString "ticket", []), (Octets.ofString "state", [])]) := by
  obtain ⟨-, -, -, -, hreported, -, -⟩ :=
    (ticketHistory.arguments 1 (some (.bool true))).build_nested 3
  obtain ⟨-, -, -, -, -, hwritten, hroot⟩ := ticketHistory.build_nested 3
  have hdocument := hwritten [(Octets.ofString "ticket", []), (Octets.ofString "state", [])] (by simp) rfl
  exact ⟨hreported [] _ _ [(Octets.ofString "state", .ok [])] rfl nofun,
    (hroot 0 (some (.bool true)) rfl).trans hdocument.1⟩

end Bindery
