import Bindery.Proofs.Sdl.Conversion

/-!
# References of types

The schema language marks a type that excludes null with a flag at its level: a list or a name. A reference has a
wrapper of its own there, so a level of a type is one or two levels of its reference. Nothing is lost in between: the
reference is written like the type, leads to the same name and excludes null where the type does, and the type can be
read off it but for the places in the source text.

## Main definitions

- `Sdl.TypeExpr.levels` — where a type excludes null

## Main results

- `Sdl.TypeSystem.text_ref`, `Sdl.TypeSystem.named?_ref`, `Sdl.TypeSystem.isNonNull_ref` — what a reference says of
  its type
- `Sdl.TypeSystem.ref_eq_ref_iff` — which types have the same reference
- `Sdl.TypeSystem.ref_preserves` — the reference of a type preserves the type
-/

namespace Bindery.Sdl

/-- Where a type excludes null, from the outside in: at each list and at the named type. -/
def TypeExpr.levels : TypeExpr → List Bool
  | named _ _ nonNull => [nonNull]
  | list _ elem nonNull => nonNull :: elem.levels

theorem TypeExpr.levels_ne_nil (t : TypeExpr) : t.levels ≠ [] := by
  cases t <;> exact List.cons_ne_nil _ _

/-! ### The non-null wrapper -/

theorem text_wrapNonNull (nonNull : Bool) (ref : TypeRef) :
    (wrapNonNull nonNull ref).text = ref.text ++ TypeExpr.mark nonNull := by
  cases nonNull with
  | false => exact String.append_empty.symm
  | true => rfl

theorem kind_list_ne {inner : TypeRef} : (TypeRef.wrap .list none inner).kind ≠ .nonNull :=
  nofun

theorem named?_wrapNonNull (nonNull : Bool) (ref : TypeRef) :
    (wrapNonNull nonNull ref).named? = ref.named? := by
  cases nonNull <;> rfl

section Wrapped

variable {ref ref' : TypeRef} (h : ref.kind ≠ .nonNull)
include h

theorem isNonNull_wrapNonNull (nonNull : Bool) : (wrapNonNull nonNull ref).isNonNull = nonNull := by
  cases nonNull with
  | false => exact beq_eq_false_iff_ne.mpr h
  | true => rfl

/-- A reference that does not exclude null itself can be told from its wrapper. -/
theorem wrapNonNull_eq_wrapNonNull_iff (h' : ref'.kind ≠ .nonNull) {nonNull nonNull' : Bool} :
    wrapNonNull nonNull ref = wrapNonNull nonNull' ref' ↔ nonNull = nonNull' ∧ ref = ref' := by
  constructor
  · intro heq
    -- neither reference excludes null itself, so the flag can be read off the result
    have hflag : nonNull = nonNull' := by
      rw [← isNonNull_wrapNonNull h nonNull, heq, isNonNull_wrapNonNull h' nonNull']
    subst hflag
    cases nonNull with
    | false => exact ⟨rfl, heq⟩
    | true => exact ⟨rfl, (TypeRef.wrap.inj heq).2.2⟩
  · rintro ⟨rfl, rfl⟩
    rfl

end Wrapped

namespace TypeSystem

variable (s : TypeSystem)

/-! ### What a reference says of its type -/

theorem isWrapper_namedRef (name : String) : (s.namedRef name).kind.isWrapper = false := by
  unfold namedRef TypeRef.kind
  cases s.type? name with
  | none => rfl
  | some d =>
    obtain ⟨kind⟩ := d
    cases kind <;> rfl

theorem text_namedRef (name : String) : (s.namedRef name).text = name := by
  unfold namedRef
  cases s.type? name with
  | none => rfl
  | some d =>
    obtain ⟨kind⟩ := d
    cases kind <;> rfl

theorem named?_namedRef (name : String) : (s.namedRef name).named? = some (s.namedRef name) :=
  if_neg (Bool.not_eq_true _ ▸ s.isWrapper_namedRef name)

/-- A reference is written like its type. -/
theorem text_ref (t : TypeExpr) : (s.ref t).text = t.text := by
  induction t with
  | named position name nonNull => rw [ref, text_wrapNonNull, text_namedRef, TypeExpr.text]
  | list position elem nonNull ih =>
    rw [ref, text_wrapNonNull, TypeExpr.text, ← ih]
    rfl

/-- A reference leads to the name below all lists of its type. -/
theorem named?_ref (t : TypeExpr) : (s.ref t).named? = some (s.namedRef t.name) := by
  induction t with
  | named position name nonNull => rw [ref, named?_wrapNonNull, named?_namedRef, TypeExpr.name]
  | list position elem nonNull ih =>
    rw [ref, named?_wrapNonNull, TypeExpr.name, ← ih]
    rfl

theorem isNonNull_ref (t : TypeExpr) : (s.ref t).isNonNull = t.isNonNull := by
  cases t with
  | named position name nonNull => exact isNonNull_wrapNonNull kind_namedRef_ne nonNull
  | list position elem nonNull => exact isNonNull_wrapNonNull kind_list_ne nonNull

/-! ### Types with the same reference -/

theorem namedRef_eq_namedRef_iff {name name' : String} :
    s.namedRef name = s.namedRef name' ↔ name = name' := by
  refine ⟨fun h => ?_, congrArg s.namedRef⟩
  exact Option.some.inj (TypeRef.plain.inj h).2

theorem ref_named_ne_ref_list {position position' : Position} {name : String} {elem : TypeExpr}
    {nonNull nonNull' : Bool} : s.ref (.named position name nonNull) ≠ s.ref (.list position' elem nonNull') := by
  intro h
  have hinner := ((wrapNonNull_eq_wrapNonNull_iff kind_namedRef_ne kind_list_ne).mp h).2
  cases hinner

/-- Types have the same reference exactly if they exclude null at the same levels, of which they have the same
number, and have the same name below their lists. -/
theorem ref_eq_ref_iff {t t' : TypeExpr} :
    s.ref t = s.ref t' ↔ t.levels = t'.levels ∧ t.name = t'.name := by
  -- the flags of both types are compared level by level, and the names where both chains of lists end
  induction t generalizing t' with
  | named position name nonNull =>
    cases t' with
    | named position' name' nonNull' =>
      rw [ref, ref, wrapNonNull_eq_wrapNonNull_iff kind_namedRef_ne kind_namedRef_ne, namedRef_eq_namedRef_iff]
      simp [TypeExpr.levels, TypeExpr.name]
    | list position' elem' nonNull' =>
      refine iff_of_false s.ref_named_ne_ref_list ?_
      rintro ⟨hlevels, -⟩
      exact elem'.levels_ne_nil (List.cons.inj hlevels).2.symm
  | list position elem nonNull ih =>
    cases t' with
    | named position' name' nonNull' =>
      refine iff_of_false s.ref_named_ne_ref_list.symm ?_
      rintro ⟨hlevels, -⟩
      exact elem.levels_ne_nil (List.cons.inj hlevels).2
    | list position' elem' nonNull' =>
      have hlist : TypeRef.wrap .list none (s.ref elem) = .wrap .list none (s.ref elem') ↔
          s.ref elem = s.ref elem' := by simp
      rw [ref, ref, wrapNonNull_eq_wrapNonNull_iff kind_list_ne kind_list_ne, hlist, ih]
      simp [TypeExpr.levels, TypeExpr.name, and_assoc]

/-- The reference of a type preserves the type. It is written in the notation of the type, leads to the name below
all lists and excludes null exactly if the type does. Types that differ in the number of their lists, in what
excludes null at some level or in the name have different references, and all others have the same one. -/
theorem ref_preserves (t : TypeExpr) :
    (s.ref t).text = t.text ∧
      (∃ n, (s.ref t).named? = some n ∧ n.name? = some t.name) ∧
      (s.ref t).isNonNull = t.isNonNull ∧
      ∀ t', s.ref t = s.ref t' ↔ t.levels = t'.levels ∧ t.name = t'.name :=
  ⟨s.text_ref t, ⟨_, s.named?_ref t, rfl⟩, s.isNonNull_ref t, fun _ => s.ref_eq_ref_iff⟩

end TypeSystem

end Bindery.Sdl
