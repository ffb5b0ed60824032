import Bindery.Proofs.Query.Chain

/-!
# Selections that share a beginning

Selections are places that keep being changed, and a selection shares its beginning with all others below
the same one. What a call can change is still limited. Names never change. A document changes only with
the arguments of its own fields, and of these only the ones that were given last count, whatever was made
or asked for in between.

## Main definitions

- `History` — the calls that a program has made, each on a selection that was there
- `Forest.AtOrAbove` — a selection and those it lies below
- `Forest.lineage` — the numbers of the selections from the root down to one
- `History.lastArguments` — what was given to a selection by the last call that gave it arguments
- `documentOf` — the document of an operation and of fields with their arguments

## Main results

- `History.Extends.names` — names never change
- `History.arguments_eq` — a selection has the arguments that it was given last
- `History.build_eq` — a document by the names and the last arguments on the way to its selection
- `History.atOrAbove_of_build_ne` — arguments change documents at and below their selection only
- `History.selections_independent` — selections that share a beginning never interfere
-/

namespace Bindery

/-! ### Histories -/

/-- What can be asked of a selection without changing anything. -/
inductive Question where
  | build
  | path
  | operation

/-- The calls that a program has made, in their order, and how many selections they have made. A call can
only be on one of the selections that are there. -/
inductive History : Nat → Type
  /-- No call was made. -/
  | start : History 0
  /-- An operation is begun. -/
  | root {n : Nat} (h : History n) (operation : Octets) : History (n + 1)
  /-- A field is selected below a selection. -/
  | select {n : Nat} (h : History n) (parent : Fin n) (name : Octets) : History (n + 1)
  /-- Arguments are given to a selection, or taken away. -/
  | arguments {n : Nat} (h : History n) (selection : Fin n) (v : Option Value) : History n
  /-- Something is asked of a selection. -/
  | ask {n : Nat} (h : History n) (selection : Fin n) (question : Question) : History n

/-- What giving arguments to a selection leaves there, none if the call does not return. -/
def outcome? : Option Value → Option Written
  | none => some (.ok [])
  | some v =>
    match v.arguments false with
    | .error ⟨_, .missingWriter⟩ => none
    | w => some w

namespace History

/-- The selections after the calls of a history. A call that does not return leaves them as they are. -/
def forest : {n : Nat} → History n → Forest
  | _, start => .empty
  | _, root h operation => (h.forest.root operation).1
  | _, select h parent name => (h.forest.select parent name).1
  | _, arguments h i v => (h.forest.withArguments i v).getD h.forest
  | _, ask h _ _ => h.forest

/-- What was given to a selection by the last call that gave it arguments and returned, none if there was
no such call. -/
def lastArguments : {n : Nat} → History n → Nat → Option (Option Value)
  | _, start, _ => none
  | _, root h _, j => h.lastArguments j
  | _, select h _ _, j => h.lastArguments j
  | _, arguments h i v, j =>
    if i.val = j ∧ (outcome? v).isSome then some v else h.lastArguments j
  | _, ask h _ _, j => h.lastArguments j

/-- A history that goes on where another one ended. -/
inductive Extends {m : Nat} (h : History m) : {n : Nat} → History n → Prop
  | refl : Extends h h
  | root {n : Nat} {h' : History n} (before : Extends h h') (operation : Octets) :
      Extends h (h'.root operation)
  | select {n : Nat} {h' : History n} (before : Extends h h') (parent : Fin n) (name : Octets) :
      Extends h (h'.select parent name)
  | arguments {n : Nat} {h' : History n} (before : Extends h h') (i : Fin n) (v : Option Value) :
      Extends h (h'.arguments i v)
  | ask {n : Nat} {h' : History n} (before : Extends h h') (i : Fin n) (q : Question) :
      Extends h (h'.ask i q)

end History

/-! ### Lines of selections -/

namespace Forest

/-- The number of the selection that a selection lies below, none for a root. -/
def parent? (f : Forest) (i : Nat) : Option Nat :=
  f.selections[i]?.bind (·.parent)

/-- A selection is `t` itself or one of those that `t` lies below. -/
inductive AtOrAbove (f : Forest) (s : Nat) : Nat → Prop
  | self : AtOrAbove f s s
  | above {t p : Nat} (parent : f.parent? t = some p) (rest : AtOrAbove f s p) : AtOrAbove f s t

/-- The numbers of the selections from the root down to one. -/
def lineage (f : Forest) (i : Nat) : List Nat :=
  match f.parent? i with
  | none => [i]
  | some p => if _ : p < i then f.lineage p ++ [i] else [i]
termination_by i

theorem lineage_of_root {f : Forest} {i : Nat} (h : f.parent? i = none) : f.lineage i = [i] := by
  rw [lineage, h]

theorem lineage_of_parent {f : Forest} {i p : Nat} (h : f.parent? i = some p) (hlt : p < i) :
    f.lineage i = f.lineage p ++ [i] := by
  rw [lineage, h]
  exact dif_pos hlt

theorem lineage_of_parent_ge {f : Forest} {i p : Nat} (h : f.parent? i = some p) (hge : ¬ p < i) :
    f.lineage i = [i] := by
  rw [lineage, h]
  exact dif_neg hge

theorem lineage_ne_nil (f : Forest) (i : Nat) : f.lineage i ≠ [] := by
  rw [lineage]
  split
  · simp
  · split <;> simp

/-- The selections of a line other than its first one lie at or above its last one, and they are no
roots. -/
theorem atOrAbove_of_mem_tail_lineage {f : Forest} {s t : Nat} (h : s ∈ (f.lineage t).tail) :
    f.AtOrAbove s t ∧ f.parent? s ≠ none := by
  induction t using Nat.strongRecOn with
  | ind t ih =>
    cases hp : f.parent? t with
    | none =>
      rw [lineage_of_root hp] at h
      cases h
    | some p =>
      by_cases hlt : p < t
      · rw [lineage_of_parent hp hlt, List.tail_append_of_ne_nil (f.lineage_ne_nil p)] at h
        rcases List.mem_append.mp h with hmem | hlast
        · obtain ⟨habove, hfield⟩ := ih p hlt hmem
          exact ⟨.above hp habove, hfield⟩
        · obtain rfl := List.mem_singleton.mp hlast
          exact ⟨.self, by simp [hp]⟩
      · rw [lineage_of_parent_ge hp hlt] at h
        cases h

/-- The line of a selection depends on the parents of the selections before it only. -/
theorem lineage_congr {f f' : Forest} {i : Nat} (h : ∀ j ≤ i, f'.parent? j = f.parent? j) :
    f'.lineage i = f.lineage i := by
  induction i using Nat.strongRecOn with
  | ind i ih =>
    have hi : f'.parent? i = f.parent? i := h i (Nat.le_refl i)
    cases hp : f.parent? i with
    | none => rw [lineage_of_root hp, lineage_of_root (hi.trans hp)]
    | some p =>
      by_cases hlt : p < i
      · have hline : f'.lineage p = f.lineage p := ih p hlt fun j hj => h j (by omega)
        rw [lineage_of_parent hp hlt, lineage_of_parent (hi.trans hp) hlt, hline]
      · rw [lineage_of_parent_ge hp hlt, lineage_of_parent_ge (hi.trans hp) hlt]

/-! ### What a call does to a selection -/

theorem withArguments_eq (f : Forest) (i : Nat) (v : Option Value) :
    f.withArguments i v = (outcome? v).map (f.setArguments i) := by
  unfold withArguments outcome?
  cases v with
  | none => rfl
  | some v =>
    cases hw : v.arguments false with
    | ok o => simp [hw]
    | error e =>
      obtain ⟨path, cause⟩ := e
      cases cause <;> simp [hw]

theorem getElem?_add_of_lt (f : Forest) (s : Selection) {i : Nat} (hi : i < f.selections.length) :
    (f.add s).1.selections[i]? = f.selections[i]? :=
  List.getElem?_append_left hi

/-- A new selection has its own arguments, and the others keep theirs. -/
theorem arguments_add {f : Forest} {s : Selection} {written : Nat → Written}
    (hnew : written f.selections.length = s.arguments)
    (hold : ∀ i < f.selections.length, f.selections[i]?.map (·.arguments) = some (written i))
    {i : Nat} (hi : i < f.selections.length + 1) :
    (f.add s).1.selections[i]?.map (·.arguments) = some (written i) := by
  by_cases hlt : i < f.selections.length
  · rw [getElem?_add_of_lt f s hlt]
    exact hold i hlt
  · obtain rfl : i = f.selections.length := by omega
    have hs : (f.add s).1.selections[f.selections.length]? = some s := getElem?_add f s
    rw [hs, hnew]
    rfl

/-- Arguments change nothing but the arguments of the selection that they are given to. -/
theorem getElem?_setArguments (f : Forest) (i j : Nat) (w : Written) :
    (f.setArguments i w).selections[j]? =
      f.selections[j]?.map fun s => if i = j then { s with arguments := w } else s := by
  rw [setArguments, List.getElem?_modify]
  by_cases hij : i = j <;> simp [hij]

/-- A new selection moves none of the others. -/
theorem parent?_add {f : Forest} (s : Selection) {i : Nat} (hi : i < f.selections.length) :
    (f.add s).1.parent? i = f.parent? i := by
  rw [parent?, getElem?_add_of_lt f s hi, parent?]

theorem parent?_setArguments (f : Forest) (i j : Nat) (w : Written) :
    (f.setArguments i w).parent? j = f.parent? j := by
  rw [parent?, getElem?_setArguments, parent?]
  cases f.selections[j]? with
  | none => rfl
  | some s => by_cases hij : i = j <;> simp [hij]

end Forest

/-! ### Documents -/

/-- The field with a name and written arguments, wherever it lies. -/
def Selection.ofField (field : Octets × Written) : Selection :=
  ⟨field.1, field.2, none⟩

/-- The document of an operation and of fields with their written arguments. -/
def documentOf (operation : Octets) (fields : List (Octets × Written)) :
    Except DocumentError Octets :=
  document (⟨operation, .ok [], none⟩ :: fields.map Selection.ofField)

/-- The names of fields with their written arguments. -/
def fieldsOf (fields : List Selection) : List (Octets × Written) :=
  (fields.map (·.name)).zip (fields.map (·.arguments))

theorem nest_fieldsOf (fields : List Selection) :
    nest ((fieldsOf fields).map Selection.ofField) = nest fields := by
  induction fields with
  | nil => rfl
  | cons s rest ih =>
    have hcons : (fieldsOf (s :: rest)).map Selection.ofField =
        ⟨s.name, s.arguments, none⟩ :: (fieldsOf rest).map Selection.ofField := rfl
    rw [hcons, nest, nest, ih]

/-- A document depends on the operation and on the names and arguments of the fields only: the arguments
of the root do not show in it. -/
theorem document_eq (chain : List Selection) :
    document chain = documentOf ((chain.head?.map (·.name)).getD []) (fieldsOf chain.tail) := by
  match chain with
  | [] | [_] => rfl
  | root :: field :: rest =>
    have hnest : nest ((fieldsOf (field :: rest)).map Selection.ofField) = nest (field :: rest) :=
      nest_fieldsOf (field :: rest)
    exact congrArg (Except.map (root.name ++ ·)) hnest.symm

/-! ### What a history leaves -/

namespace History

variable {n : Nat}

theorem forest_arguments (h : History n) (i : Fin n) (v : Option Value) :
    (h.arguments i v).forest = ((outcome? v).map (h.forest.setArguments i)).getD h.forest := by
  rw [forest, Forest.withArguments_eq]

/-- The selections are numbered in the order in which they were made. -/
theorem length_forest (h : History n) : h.forest.selections.length = n := by
  induction h with
  | start => rfl
  | root h _ ih | select h _ _ ih => simp [forest, Forest.root, Forest.select, Forest.add, ih]
  | arguments h i v ih =>
    rw [forest_arguments]
    cases outcome? v with
    | none => exact ih
    | some w => simpa [Forest.setArguments] using ih
  | ask h _ _ ih => exact ih

/-- Nothing was given to a selection before it was made. -/
theorem lastArguments_of_le (h : History n) {i : Nat} (hi : n ≤ i) : h.lastArguments i = none := by
  induction h with
  | start => rfl
  | root h _ ih | select h _ _ ih => exact ih (by omega)
  | arguments h j v ih =>
    have hne : ¬ j.val = i := by omega
    simp [lastArguments, hne, ih hi]
  | ask h _ _ ih => exact ih hi

/-- The written arguments of a selection by the last call that gave it arguments. -/
def lastWritten (h : History n) (i : Nat) : Written :=
  ((h.lastArguments i).bind outcome?).getD (.ok [])

/-- A selection has the arguments that it was given last, and none if it was given none. -/
theorem arguments_eq (h : History n) {i : Nat} (hi : i < n) :
    h.forest.selections[i]?.map (·.arguments) = some (h.lastWritten i) := by
  induction h generalizing i with
  | start => omega
  | root h _ ih | select h _ _ ih =>
    have hnew : h.lastWritten h.forest.selections.length = .ok [] := by
      simp [lastWritten, h.lastArguments_of_le (Nat.le_of_eq h.length_forest.symm)]
    have hold : ∀ j < h.forest.selections.length,
        h.forest.selections[j]?.map (·.arguments) = some (h.lastWritten j) := by
      intro j hj
      exact ih (by rwa [h.length_forest] at hj)
    have hlt : i < h.forest.selections.length + 1 := by
      rwa [h.length_forest]
    exact Forest.arguments_add hnew hold hlt
  | arguments h j v ih =>
    rw [forest_arguments]
    cases hv : outcome? v with
    | none =>
      have hlast : (h.arguments j v).lastWritten i = h.lastWritten i := by
        simp [lastWritten, lastArguments, hv]
      rw [hlast]
      exact ih hi
    | some w =>
      rw [Option.map_some, Option.getD_some, Forest.getElem?_setArguments, Option.map_map]
      obtain ⟨s, hs, hwritten⟩ := Option.map_eq_some_iff.mp (ih hi)
      rw [hs]
      by_cases hj : j.val = i
      · simp [lastWritten, lastArguments, hj, hv]
      · simp [lastWritten, lastArguments, hj, hwritten]
  | ask h _ _ ih => exact ih hi

/-- The arguments on the way to a selection are those that were given last. -/
theorem chain_arguments (h : History n) {t : Nat} (ht : t < n) :
    (h.forest.chain t).map (·.arguments) = (h.forest.lineage t).map h.lastWritten := by
  induction t using Nat.strongRecOn with
  | ind t ih =>
    obtain ⟨s, hs, hwritten⟩ := Option.map_eq_some_iff.mp (h.arguments_eq ht)
    have hparent : h.forest.parent? t = s.parent := by simp [Forest.parent?, hs]
    rw [Forest.chain, hs]
    cases hp : s.parent with
    | none =>
      rw [Forest.lineage_of_root (hparent.trans hp)]
      simp [hp, hwritten]
    | some p =>
      by_cases hlt : p < t
      · rw [Forest.lineage_of_parent (hparent.trans hp) hlt]
        simp [hp, hlt, hwritten, ih p hlt (by omega)]
      · rw [Forest.lineage_of_parent_ge (hparent.trans hp) hlt]
        simp [hp, hlt, hwritten]

/-- The document of a selection by the names on the way to it and the arguments that its fields were given
last. -/
theorem build_eq (h : History n) {t : Nat} (ht : t < n) :
    h.forest.build t = documentOf (h.forest.operation t)
      ((h.forest.path t).zip ((h.forest.lineage t).tail.map h.lastWritten)) := by
  have harguments : (h.forest.chain t).tail.map (·.arguments) =
      (h.forest.lineage t).tail.map h.lastWritten := by
    rw [List.map_tail, h.chain_arguments ht, List.map_tail]
  rw [Forest.build, document_eq, fieldsOf, harguments]
  rfl

/-! ### Which calls change what -/

/-- Giving arguments to a selection moves nothing. -/
theorem parent?_arguments (h : History n) (i : Fin n) (v : Option Value) (j : Nat) :
    (h.arguments i v).forest.parent? j = h.forest.parent? j := by
  rw [forest_arguments]
  cases outcome? v with
  | none => rfl
  | some w => exact h.forest.parent?_setArguments i j w

theorem names_arguments (h : History n) (i : Fin n) (v : Option Value) (j : Nat) :
    (h.arguments i v).forest.names j = h.forest.names j := by
  cases hgiven : h.forest.withArguments i v with
  | none => simp [forest, hgiven]
  | some f' => simpa [forest, hgiven] using (Forest.names_of_withArguments hgiven).2 j

/-- A longer history has made at least as many selections. -/
theorem Extends.le {m : Nat} {h : History m} {h' : History n} (hext : h.Extends h') : m ≤ n := by
  induction hext with
  | refl => exact Nat.le_refl m
  | root _ _ ih | select _ _ _ ih => omega
  | arguments _ _ _ ih | ask _ _ _ ih => exact ih

/-- The names on the way to a selection never change. -/
theorem Extends.names {m : Nat} {h : History m} {h' : History n} (hext : h.Extends h') (t : Fin m) :
    h'.forest.names t = h.forest.names t := by
  induction hext with
  | refl => rfl
  | @root n h' before operation ih | @select n h' before parent name ih =>
    have ht : t < h'.forest.selections.length := by
      have := before.le
      rw [h'.length_forest]
      omega
    exact (Forest.names_add_of_lt h'.forest _ ht).trans ih
  | @arguments n h' before i v ih => exact (h'.names_arguments i v t).trans ih
  | ask _ _ _ ih => exact ih

/-- A document is determined by the operation, the names of the fields and what they were given last. -/
theorem build_congr {m : Nat} {h : History m} {h' : History n} {t t' : Nat} (ht : t < m)
    (ht' : t' < n) (hnames : h'.forest.names t' = h.forest.names t)
    (hlast : (h'.forest.lineage t').tail.map h'.lastArguments =
      (h.forest.lineage t).tail.map h.lastArguments) :
    h'.forest.build t' = h.forest.build t := by
  have hwritten : ∀ {k : Nat} (g : History k) (line : List Nat), line.map g.lastWritten =
      (line.map g.lastArguments).map fun last => (last.bind outcome?).getD (.ok []) := by
    intro k g line
    rw [List.map_map]
    rfl
  rw [build_eq h ht, build_eq h' ht', Forest.operation_eq, Forest.operation_eq, Forest.path_eq, Forest.path_eq,
    hnames, hwritten, hwritten, hlast]

/-- A new selection leaves the line of every other one as it is. -/
theorem lineage_add (h : History n) (s : Selection) (t : Fin n) :
    (h.forest.add s).1.lineage t = h.forest.lineage t := by
  refine Forest.lineage_congr fun j hj => Forest.parent?_add s ?_
  rw [h.length_forest]
  omega

/-- Arguments that are given to a selection show in the documents of those at or below it only, and not
even there if it is a root. -/
theorem atOrAbove_of_build_ne {h : History n} {s t : Fin n} {v : Option Value}
    (hne : (h.arguments s v).forest.build t ≠ h.forest.build t) :
    h.forest.AtOrAbove s t ∧ h.forest.parent? s ≠ none := by
  apply Forest.atOrAbove_of_mem_tail_lineage
  refine Decidable.byContradiction fun hmem => hne ?_
  have hline : (h.arguments s v).forest.lineage t = h.forest.lineage t :=
    Forest.lineage_congr fun j _ => h.parent?_arguments s v j
  refine build_congr t.isLt t.isLt (h.names_arguments s v t) ?_
  rw [hline]
  -- no selection of the line below its root is the one that was given arguments
  refine List.map_congr_left fun j hj => ?_
  have hsj : ¬ s.val = j := fun heq => hmem (heq ▸ hj)
  simp [lastArguments, hsj]

/-- Selections that share a beginning never interfere. The names on the way to a selection stay the same
whatever is called later. Beginning an operation, selecting a field and asking change no document, and
arguments change only the documents of the selections at or below the field that they are given to. So a
document is made of the operation, the names of the fields down to its selection and what each of these
fields was given last. -/
theorem selections_independent {m : Nat} (h : History m) (t : Fin m) :
    (∀ {n : Nat} (h' : History n), h.Extends h' →
      h'.forest.path t = h.forest.path t ∧ h'.forest.operation t = h.forest.operation t) ∧
    (∀ operation, (h.root operation).forest.build t = h.forest.build t) ∧
    (∀ parent name, (h.select parent name).forest.build t = h.forest.build t) ∧
    (∀ s question, (h.ask s question).forest.build t = h.forest.build t) ∧
    (∀ s v, (h.arguments s v).forest.build t ≠ h.forest.build t →
      h.forest.AtOrAbove s t ∧ h.forest.parent? s ≠ none) ∧
    h.forest.build t = documentOf (h.forest.operation t)
      ((h.forest.path t).zip ((h.forest.lineage t).tail.map h.lastWritten)) := by
  refine ⟨?_, ?_, ?_, fun _ _ => rfl, fun _ _ => atOrAbove_of_build_ne, h.build_eq t.isLt⟩
  · intro n h' hext
    rw [Forest.path_eq, Forest.path_eq, Forest.operation_eq, Forest.operation_eq, hext.names t]
    exact ⟨rfl, rfl⟩
  · intro operation
    have hnames := (Extends.root .refl operation : h.Extends (h.root operation)).names t
    refine build_congr t.isLt (Nat.lt_succ_of_lt t.isLt) hnames ?_
    exact congrArg (fun line => line.tail.map h.lastArguments) (h.lineage_add _ t)
  · intro parent name
    have hnames := (Extends.select .refl parent name : h.Extends (h.select parent name)).names t
    refine build_congr t.isLt (Nat.lt_succ_of_lt t.isLt) hnames ?_
    exact congrArg (fun line => line.tail.map h.lastArguments) (h.lineage_add _ t)

end History

/-- A ticket with two of its fields. -/
def ticketHistory : History 4 :=
  (((History.start.root (Octets.ofString "query")).select 0 (Octets.ofString "ticket")).select 1
    (Octets.ofString "title")).select 1 (Octets.ofString "state")

/-- The number of a ticket. -/
def ticketNumber : Value :=
  .record [(⟨"Number", "number"⟩, .integer .int 7)]

/-- The number that is given to the ticket shows in the document of a field below it, whose names stay the
same. -/
theorem ticketHistory_independent :
    ticketHistory.Extends (ticketHistory.arguments 1 (some ticketNumber)) ∧
      (ticketHistory.arguments 1 (some ticketNumber)).forest.path 3 = ticketHistory.forest.path 3 ∧
      (ticketHistory.arguments 1 (some ticketNumber)).forest.build 3 ≠
        ticketHistory.forest.build 3 ∧
      ticketHistory.forest.AtOrAbove 1 3 ∧ ticketHistory.forest.parent? 1 ≠ none := by
  have hext : ticketHistory.Extends (ticketHistory.arguments 1 (some ticketNumber)) :=
    .arguments .refl 1 _
  have hdocuments :
      ((ticketHistory.arguments 1 (some ticketNumber)).forest.build 3).toOption ≠
        (ticketHistory.forest.build 3).toOption := by
    decide +kernel
  have hne : (ticketHistory.arguments 1 (some ticketNumber)).forest.build 3 ≠
      ticketHistory.forest.build 3 := fun heq => hdocuments (congrArg Except.toOption heq)
  obtain ⟨hnames, -, -, -, habove, -⟩ := ticketHistory.selections_independent 3
  exact ⟨hext, (hnames _ hext).1, hne, habove 1 _ hne⟩

end Bindery
