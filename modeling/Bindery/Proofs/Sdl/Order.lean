import Bindery.Proofs.Sorting
import Bindery.Sdl.Conversion

/-!
# The order of declarations

A type system knows its declarations by their names, so they come to the schema in no order that means
anything. The schema puts them in order: first the declarations of every schema, then those of each source
text from its beginning to its end. No two declarations take the same place in this order, so the schema is
the same in whichever order the declarations came.

## Main definitions

- `Sdl.Definition.Before` — a declaration takes a place before another one
- `Sdl.Definition.InOrder` — the order of declarations, spelled out

## Main results

- `Sdl.sortsBy_precedes` — declarations with different names never take the same place
- `Sdl.Definition.Before.inOrder` — what stands before what
- `Sdl.TypeSystem.fullType_congr`, `Sdl.TypeSystem.directive_congr` — the model of a declaration depends on the
  other ones through their names only
- `Sdl.TypeSystem.schema_in_order` — the schema of a type system in whichever order its declarations came
-/

namespace Bindery.Sdl

/-- A declaration takes a place before another one. -/
def Definition.Before (a b : Definition) : Prop :=
  precedes b a = false

/-- The order of declarations: those of every schema first, then by source text and the place there. Only
declarations at the same place are put in the order of their names. -/
structure Definition.InOrder (a b : Definition) : Prop where
  builtIn : b.builtIn = true → a.builtIn = true
  source : a.builtIn = b.builtIn → a.position.source ≤ b.position.source
  start : a.builtIn = b.builtIn → a.position.source = b.position.source →
    a.position.start ≤ b.position.start
  name : a.builtIn = b.builtIn → a.position.source = b.position.source →
    a.position.start = b.position.start → a.name < b.name

/-- Declarations with different names never take the same place. -/
theorem sortsBy_precedes : SortsBy precedes (·.name) := by
  have hkeys := (((SortsBy.notLt Definition.name).lex (·.position.start)).lex (·.position.source)).lex
    (fun d => (!d.builtIn).toNat)
  have hprecedes : precedes = fun a b : Definition =>
      if (!a.builtIn).toNat != (!b.builtIn).toNat then
        decide ((!a.builtIn).toNat < (!b.builtIn).toNat)
      else if a.position.source != b.position.source then
        decide (a.position.source < b.position.source)
      else if a.position.start != b.position.start then
        decide (a.position.start < b.position.start)
      else !decide (b.name < a.name) := by
    funext a b
    unfold precedes
    cases a.builtIn <;> cases b.builtIn <;> rfl
  rw [hprecedes]
  exact hkeys

namespace Definition

variable {a b c : Definition}

theorem precedes_of_before (h : a.Before b) : precedes a b = true := by
  have htotal := sortsBy_precedes.total a b
  rwa [h, Bool.or_false] at htotal

theorem not_before_self (a : Definition) : ¬a.Before a := by
  intro h
  have hself := precedes_of_before h
  rw [h] at hself
  cases hself

theorem Before.trans (hab : a.Before b) (hbc : b.Before c) : a.Before c := by
  -- otherwise `c` would precede `a` and with it `b`
  refine Bool.eq_false_iff.mpr fun hca => ?_
  have hcb := sortsBy_precedes.trans c a b hca (precedes_of_before hab)
  rw [hbc] at hcb
  cases hcb

theorem before_or_eq_or_before {types : List Definition} (hnames : (types.map (·.name)).Nodup)
    (ha : a ∈ types) (hb : b ∈ types) : a.Before b ∨ a = b ∨ b.Before a := by
  cases hba : precedes b a with
  | false => exact .inl hba
  | true =>
    cases hab : precedes a b with
    | false => exact .inr (.inr hab)
    | true =>
      have hname := sortsBy_precedes.antisymm a b hab hba
      exact .inr (.inl (List.inj_on_of_nodup_map hnames ha hb hname))

theorem Before.inOrder (h : a.Before b) : a.InOrder b := by
  unfold Before precedes at h
  constructor
  · intro hb
    cases ha : a.builtIn with
    | true => rfl
    | false =>
      rw [ha, hb] at h
      cases h
  · intro hbuiltIn
    by_cases hsource : a.position.source = b.position.source
    · exact Std.le_of_eq hsource
    · rw [hbuiltIn, bne_self_eq_false, if_neg Bool.false_ne_true, if_pos (bne_iff_ne.mpr (Ne.symm hsource))] at h
      exact Std.not_lt.mp (of_decide_eq_false h)
  · intro hbuiltIn hsource
    by_cases hstart : a.position.start = b.position.start
    · exact Nat.le_of_eq hstart
    · rw [hbuiltIn, hsource, bne_self_eq_false, bne_self_eq_false, if_neg Bool.false_ne_true,
        if_neg Bool.false_ne_true, if_pos (bne_iff_ne.mpr (Ne.symm hstart))] at h
      exact Nat.not_lt.mp (of_decide_eq_false h)
  · intro hbuiltIn hsource hstart
    rw [hbuiltIn, hsource, hstart, bne_self_eq_false, bne_self_eq_false, bne_self_eq_false,
      if_neg Bool.false_ne_true, if_neg Bool.false_ne_true, if_neg Bool.false_ne_true] at h
    exact of_decide_eq_true ((Bool.not_eq_false' _).mp h)

end Definition

namespace TypeSystem

variable {s s' : TypeSystem}

/-! ### Models of declarations -/

theorem namedRef_congr (h : s'.type? = s.type?) : s'.namedRef = s.namedRef := by
  funext name
  rw [namedRef, namedRef, h]

theorem ref_congr (h : s'.type? = s.type?) : s'.ref = s.ref := by
  funext t
  induction t with
  | named position name nonNull => rw [ref, ref, namedRef_congr h]
  | list position elem nonNull ih => rw [ref, ref, ih]

theorem inputValue_congr (h : s'.type? = s.type?) : s'.inputValue = s.inputValue := by
  funext d
  rw [inputValue, inputValue, ref_congr h]

theorem fullType_congr (h : s'.type? = s.type?) : s'.fullType = s.fullType := by
  have hfield : s'.fieldValue = s.fieldValue := by
    funext d
    rw [fieldValue, fieldValue, ref_congr h, inputValue_congr h]
  have hinput : s'.inputField = s.inputField := by
    funext d
    rw [inputField, inputField, ref_congr h]
  have hrefs : s'.namedRefs = s.namedRefs := by
    funext names
    rw [namedRefs, namedRefs, namedRef_congr h]
  funext d
  rw [fullType, fullType, hfield, hinput, hrefs]

theorem directive_congr (h : s'.type? = s.type?) : s'.directive = s.directive := by
  funext d
  rw [directive, directive, inputValue_congr h]

/-! ### The schema -/

/-- Declarations are found by their names, wherever they stand. -/
theorem type?_of_perm {types : List Definition} {directives : List DirectiveDefinition}
    (htypes : types.Perm s.types) (hnames : (s.types.map (·.name)).Nodup) :
    { s with types, directives }.type? = s.type? := by
  funext name
  exact find?_key_eq_of_perm htypes hnames name

theorem schema_of_perm {types : List Definition} {directives : List DirectiveDefinition}
    (hnames : (s.types.map (·.name)).Nodup) (hdirectives : (s.directives.map (·.name)).Nodup)
    (htypes : types.Perm s.types) (hperm : directives.Perm s.directives) :
    { s with types, directives }.schema = s.schema := by
  have htype? : { s with types, directives }.type? = s.type? := type?_of_perm htypes hnames
  have hsorted := sortsBy_precedes.mergeSort_eq_of_perm htypes hnames
  have hsorted' := (SortsBy.notLt DirectiveDefinition.name).mergeSort_eq_of_perm hperm hdirectives
  simp only [schema, hsorted, hsorted', fullType_congr htype?, directive_congr htype?]
  rfl

theorem directives_schema (s : TypeSystem) : s.schema.directives.toList =
    (s.directives.mergeSort fun a b => !decide (b.name < a.name)).map fun d => some (s.directive d) := by
  simp only [schema]
  split
  · next hempty =>
    rw [List.isEmpty_iff.mp hempty]
    rfl
  · rfl

/-- The schema of a type system whose types, and whose directives, have different names. No two types take the
same place in the order of declarations. So the schema is the same in whichever order types and directives
came: it has every type once, first those of every schema and then each source text from its beginning to its
end, and every directive once, in the order of their names. -/
theorem schema_in_order (hnames : (s.types.map (·.name)).Nodup)
    (hdirectives : (s.directives.map (·.name)).Nodup) :
    ((∀ a : Definition, ¬a.Before a) ∧
      (∀ a b c : Definition, a.Before b → b.Before c → a.Before c) ∧
      ∀ a ∈ s.types, ∀ b ∈ s.types, a.Before b ∨ a = b ∨ b.Before a) ∧
    (∀ types directives, types.Perm s.types → directives.Perm s.directives →
      { s with types, directives }.schema = s.schema) ∧
    (∃ order : List Definition, order.Perm s.types ∧ order.Pairwise Definition.InOrder ∧
      s.schema.types = some (order.map fun d => some (s.fullType d))) ∧
    ∃ order : List DirectiveDefinition, order.Perm s.directives ∧ (order.map (·.name)).Pairwise (· < ·) ∧
      s.schema.directives.toList = order.map fun d => some (s.directive d) := by
  refine ⟨⟨Definition.not_before_self, fun a b c => Definition.Before.trans,
      fun a ha b hb => Definition.before_or_eq_or_before hnames ha hb⟩,
    fun types directives htypes hperm => schema_of_perm hnames hdirectives htypes hperm, ?_, ?_⟩
  · refine ⟨s.types.mergeSort precedes, List.mergeSort_perm _ _, ?_, rfl⟩
    exact (sortsBy_precedes.pairwise_mergeSort hnames).imp Definition.Before.inOrder
  · refine ⟨_, List.mergeSort_perm s.directives fun a b => !decide (b.name < a.name), ?_, ?_⟩
    · rw [List.pairwise_map]
      refine ((SortsBy.notLt DirectiveDefinition.name).pairwise_mergeSort hdirectives).imp ?_
      intro a b hab
      exact of_decide_eq_true ((Bool.not_eq_false' _).mp hab)
    · exact directives_schema s

/-- A type of every schema, two types of one source text and one of another text. -/
def archiveSystem : TypeSystem where
  types :=
    [{ (default : Definition) with
        name := "String", position := ⟨"prelude.graphql", 7, 1, 8⟩, builtIn := true },
      { (default : Definition) with name := "Writer", position := ⟨"a.graphql", 5, 1, 6⟩ },
      { (default : Definition) with name := "Book", position := ⟨"a.graphql", 40, 4, 6⟩ },
      { (default : Definition) with name := "Archive", position := ⟨"b.graphql", 5, 1, 6⟩ }]
  directives :=
    [{ (default : DirectiveDefinition) with name := "include" },
      { (default : DirectiveDefinition) with name := "skip" }]
  roots := [(.query, "Archive")]

/-- The declarations of the archive come in their order also if they were listed backwards. -/
theorem archiveSystem_reversed :
    (archiveSystem.types.map (·.name)).Nodup ∧ (archiveSystem.directives.map (·.name)).Nodup ∧
      { archiveSystem with
        types := archiveSystem.types.reverse
        directives := archiveSystem.directives.reverse }.schema.types =
          some (archiveSystem.types.map fun d => some (archiveSystem.fullType d)) := by
  have hnames : (archiveSystem.types.map (·.name)).Nodup := by decide
  have hdirectives : (archiveSystem.directives.map (·.name)).Nodup := by decide
  obtain ⟨-, hsame, -, -⟩ := schema_in_order hnames hdirectives
  have hsorted : archiveSystem.types.mergeSort precedes = archiveSystem.types :=
    List.mergeSort_of_pairwise (by decide +kernel)
  refine ⟨hnames, hdirectives, ?_⟩
  rw [hsame _ _ (List.reverse_perm _) (List.reverse_perm _), schema, hsorted]

end TypeSystem

end Bindery.Sdl
