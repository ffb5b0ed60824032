import Bindery.Proofs.Bindings.References

/-!
# The notation of types

The text of a type expression begins with a mark for each level: a pointer where null is allowed, and a slice for
each list. What follows is the named type as it is written. So the levels can be read off the text if the named
type does not begin like a mark itself, and the wrappers of the reference can be read off the levels.

## Main definitions

- `TypeExpr.leafText` — the named type of an expression as it is written
- `IsBare` — a text that does not begin like a mark
- `wrappersOf` — the wrappers of a reference by the levels of its expression

## Main results

- `TypeExpr.toList_text` — the text is made of the marks and the named type
- `readMarks_marks` — the marks can be read off a text
- `Resolver.Resolves.wrappers_eq` — the wrappers of a reference by the levels of its expression
- `Resolver.text_eq_iff` — which references have expressions with the same text
-/

namespace Bindery

/-- The named type of an expression as it is written, with the last element of the path of its package. -/
def TypeExpr.leafText : TypeExpr → String
  | named _ package name _ => if package == "" then name else baseName package ++ "." ++ name
  | list elem _ => elem.leafText

/-- Characters that begin neither like a pointer nor like a slice. -/
def IsBare (cs : List Char) : Prop :=
  cs.head? ≠ some '*' ∧ cs.head? ≠ some '['

/-! ### Marks -/

/-- The marks of the levels of an expression: the last level is that of the named type, and all others are
lists. -/
def marks : List Bool → List Char
  | [] => []
  | [nullable] => if nullable then ['*'] else []
  | nullable :: level :: rest => (if nullable then ['*'] else []) ++ '[' :: ']' :: marks (level :: rest)

theorem TypeExpr.levels_ne_nil (e : TypeExpr) : e.levels ≠ [] := by
  cases e <;> exact List.cons_ne_nil _ _

theorem TypeExpr.toList_mark (nullable : Bool) :
    (mark nullable).toList = if nullable then ['*'] else [] := by
  cases nullable <;> rfl

theorem TypeExpr.marks_levels_list (elem : TypeExpr) (nullable : Bool) :
    marks (list elem nullable).levels = (mark nullable).toList ++ '[' :: ']' :: marks elem.levels := by
  rw [levels, toList_mark]
  cases hlevels : elem.levels with
  | nil => exact absurd hlevels elem.levels_ne_nil
  | cons level rest => rfl

/-- The text of an expression: the marks of its levels, and then its named type. -/
theorem TypeExpr.toList_text (e : TypeExpr) : e.text.toList = marks e.levels ++ e.leafText.toList := by
  induction e with
  | named kind package name nullable =>
    have htext : (named kind package name nullable).text =
      mark nullable ++ (named kind package name nullable).leafText := rfl
    rw [htext, String.toList_append, toList_mark]
    rfl
  | list elem nullable ih =>
    have htext : (list elem nullable).text = mark nullable ++ "[]" ++ elem.text := rfl
    rw [htext, marks_levels_list, String.toList_append, String.toList_append, ih, leafText]
    simp

/-- Reads the marks at the beginning of a text, and returns the levels and what follows the marks. -/
def readMarks : List Char → List Bool × List Char
  | '*' :: '[' :: ']' :: cs => (true :: (readMarks cs).1, (readMarks cs).2)
  | '[' :: ']' :: cs => (false :: (readMarks cs).1, (readMarks cs).2)
  | '*' :: cs => ([true], cs)
  | cs => ([false], cs)

theorem readMarks_of_isBare {cs : List Char} (h : IsBare cs) : readMarks cs = ([false], cs) := by
  unfold readMarks
  split
  · exact absurd rfl h.1
  · exact absurd rfl h.2
  · exact absurd rfl h.1
  · rfl

theorem readMarks_pointer {cs : List Char} (h : IsBare cs) : readMarks ('*' :: cs) = ([true], cs) := by
  rw [readMarks]
  rintro cs' rfl
  exact h.2 rfl

/-- The marks that are written before something bare are read again. -/
theorem readMarks_marks {levels : List Bool} {cs : List Char} (hne : levels ≠ []) (h : IsBare cs) :
    readMarks (marks levels ++ cs) = (levels, cs) := by
  induction levels with
  | nil => exact absurd rfl hne
  | cons nullable rest ih =>
    cases rest with
    | nil =>
      cases nullable with
      | false => exact readMarks_of_isBare h
      | true => exact readMarks_pointer h
    | cons level rest =>
      have hrest := ih (List.cons_ne_nil _ _)
      cases nullable with
      | false =>
        show readMarks ('[' :: ']' :: (marks (level :: rest) ++ cs)) = _
        rw [readMarks, hrest]
      | true =>
        show readMarks ('*' :: '[' :: ']' :: (marks (level :: rest) ++ cs)) = _
        rw [readMarks, hrest]

/-- Texts of the same named type have the same levels, however the type begins. -/
theorem marks_inj {levels levels' : List Bool} (hne : levels ≠ []) (hne' : levels' ≠ [])
    (h : marks levels = marks levels') : levels = levels' := by
  have hempty : IsBare [] := by simp [IsBare]
  have hread := congrArg (fun m => (readMarks (m ++ [])).1) h
  simp only [readMarks_marks hne hempty, readMarks_marks hne' hempty] at hread
  exact hread

/-! ### Wrappers -/

/-- The wrappers of a reference by the levels of its expression: a list for each level but the last, and a
non-null wrapper where null is not allowed. -/
def wrappersOf : List Bool → List TypeKind
  | [] => []
  | [nullable] => if nullable then [] else [.nonNull]
  | nullable :: level :: rest =>
    (if nullable then [] else [.nonNull]) ++ .list :: wrappersOf (level :: rest)

theorem wrappersOf_list (levels : List Bool) (h : levels ≠ []) :
    wrappersOf (true :: levels) = .list :: wrappersOf levels := by
  cases levels with
  | nil => exact absurd rfl h
  | cons level rest => rfl

theorem wrappersOf_nonNull (levels : List Bool) :
    wrappersOf (false :: levels) = .nonNull :: wrappersOf (true :: levels) := by
  cases levels <;> rfl

namespace Resolver

/-- A reference that excludes null nowhere around all of it has an expression that allows null. -/
theorem Resolves.levels_eq_true_cons {r : Resolver} {ref : TypeRef} {e : TypeExpr} (h : r.Resolves ref e)
    (hkind : ref.kind ≠ .nonNull) : e.levels = true :: e.levels.tail := by
  cases h with
  | named => rw [levels_named]; rfl
  | nonNull => exact absurd rfl hkind
  | list => rfl

/-- The wrappers of a reference can be read off the levels of its expression. -/
theorem Resolves.wrappers_eq {r : Resolver} {ref : TypeRef} {e : TypeExpr} (h : r.Resolves ref e) :
    ref.wrappers = wrappersOf e.levels := by
  induction h with
  | @named kind name bindable =>
    rw [levels_named]
    cases kind with
    | scalar | object | enum | inputObject => rfl
    | _ => simp at bindable
  | @nonNull name inner e once hinner ih =>
    calc (TypeRef.wrap .nonNull name inner).wrappers
        = .nonNull :: wrappersOf e.levels := congrArg (TypeKind.nonNull :: ·) ih
      _ = .nonNull :: wrappersOf (true :: e.levels.tail) := by rw [← hinner.levels_eq_true_cons once]
      _ = wrappersOf (false :: e.levels.tail) := (wrappersOf_nonNull _).symm
      _ = wrappersOf (e.withNullable false).levels := by rw [TypeExpr.levels_withNullable]
  | @list name inner e hinner ih =>
    calc (TypeRef.wrap .list name inner).wrappers
        = .list :: wrappersOf e.levels := congrArg (TypeKind.list :: ·) ih
      _ = wrappersOf (true :: e.levels) := (wrappersOf_list _ e.levels_ne_nil).symm

/-- References to the same named type have expressions with the same named type. -/
theorem Resolves.leaf_eq {r : Resolver} {ref ref' : TypeRef} {e e' : TypeExpr} (h : r.Resolves ref e)
    (h' : r.Resolves ref' e') (hnamed : ref.named? = ref'.named?) : e.leaf = e'.leaf := by
  obtain ⟨kind, name, hname, hleaf⟩ := h.leaf
  obtain ⟨kind', name', hname', hleaf'⟩ := h'.leaf
  rw [hname, hname'] at hnamed
  obtain ⟨rfl, hsome⟩ := TypeRef.plain.inj (Option.some.inj hnamed)
  obtain rfl := Option.some.inj hsome
  rw [hleaf, hleaf']

end Resolver

/-- The named type of an expression as it is written depends on its leaf only. -/
theorem TypeExpr.leafText_eq (e : TypeExpr) :
    e.leafText = if e.leaf.2.1 == "" then e.leaf.2.2 else baseName e.leaf.2.1 ++ "." ++ e.leaf.2.2 := by
  induction e with
  | named => rfl
  | list elem nullable ih => exact ih

/-- Two accepted references have expressions with the same text exactly if they have the same chain of lists
and non-null wrappers and the same named type as it is written. This holds for all references to one named
type, and for references to different ones unless one of these begins like a mark as it is written. -/
theorem Resolver.text_eq_iff (r : Resolver) {ref ref' : TypeRef} {e e' : TypeExpr}
    (h : r.resolve ref = .ok e) (h' : r.resolve ref' = .ok e')
    (hleaf : IsBare e.leafText.toList ∧ IsBare e'.leafText.toList ∨ ref.named? = ref'.named?) :
    e.text = e'.text ↔ ref.wrappers = ref'.wrappers ∧ e.leafText = e'.leafText := by
  have hresolves : r.Resolves ref e := resolves_of_resolve h
  have hresolves' : r.Resolves ref' e' := resolves_of_resolve h'
  have htexts : e.text = e'.text ↔
      marks e.levels ++ e.leafText.toList = marks e'.levels ++ e'.leafText.toList := by
    rw [← String.toList_inj, e.toList_text, e'.toList_text]
  have hlevels : e.levels = e'.levels → ref.wrappers = ref'.wrappers := fun heq => by
    rw [hresolves.wrappers_eq, hresolves'.wrappers_eq, heq]
  rw [htexts]
  constructor
  · intro htext
    rcases hleaf with ⟨hbare, hbare'⟩ | hnamed
    · have hread := congrArg readMarks htext
      rw [readMarks_marks e.levels_ne_nil hbare, readMarks_marks e'.levels_ne_nil hbare'] at hread
      obtain ⟨hlevel, hchars⟩ := Prod.mk.inj hread
      exact ⟨hlevels hlevel, String.toList_inj.mp hchars⟩
    · have hsame : e.leafText = e'.leafText := by
        rw [e.leafText_eq, e'.leafText_eq, hresolves.leaf_eq hresolves' hnamed]
      rw [hsame, List.append_cancel_right_eq] at htext
      exact ⟨hlevels (marks_inj e.levels_ne_nil e'.levels_ne_nil htext), hsame⟩
  · rintro ⟨hwrappers, hsame⟩
    rw [hresolves.levels, hresolves'.levels, hwrappers, hsame]

/-- A list of dates that may be missing, with dates in it that may be missing. -/
def looseDatesRef : TypeRef :=
  .wrap .list none (.plain .scalar (some "DateTime"))

theorem Resolver.text_looseDatesRef : ∃ e e',
    (Resolver.mk [("DateTime", "time", "Time")]).resolve datesRef = .ok e ∧
    (Resolver.mk [("DateTime", "time", "Time")]).resolve looseDatesRef = .ok e' ∧
    IsBare e.leafText.toList ∧ IsBare e'.leafText.toList ∧ e.text ≠ e'.text := by
  have hstrict : (Resolver.mk [("DateTime", "time", "Time")]).resolve datesRef =
      .ok (.list (.named .scalar "time" "Time" false) false) := by decide +kernel
  have hloose : (Resolver.mk [("DateTime", "time", "Time")]).resolve looseDatesRef =
      .ok (.list (.named .scalar "time" "Time" true) true) := by decide +kernel
  have hbare : IsBare "time.Time".toList := ⟨by decide +kernel, by decide +kernel⟩
  refine ⟨_, _, hstrict, hloose, hbare, hbare, fun htext => ?_⟩
  have hwrappers := ((text_eq_iff _ hstrict hloose (.inl ⟨hbare, hbare⟩)).mp htext).1
  exact absurd hwrappers (by decide)

end Bindery
