import Bindery.Proofs.Bindings.TypeNames
import Mathlib.Data.List.Chain

/-!
# References that can be resolved

A resolver accepts the references of a small grammar, whatever scalars it knows: a named type that has
bindings, a list of an accepted reference, and an accepted reference that excludes null once. The
expression of an accepted reference repeats its wrappers level by level. All other references are
refused, as unsupported if their wrappers are sound and lead to an interface or a union, and for their
shape otherwise.

## Main definitions

- `TypeRef.WellFormed` — the grammar of the accepted references
- `TypeRef.wrappers` — the lists and non-null wrappers around the named type of a reference
- `nullability`, `TypeExpr.levels` — where a chain of wrappers and an expression allow null
- `TypeRef.EndsAbstract` — a reference with sound wrappers around an interface or a union

## Main results

- `Resolver.resolve_eq_ok_iff` — a resolver follows the rules of `Resolver.Resolves` and no others
- `Resolver.Resolves.levels` — an expression allows null where the wrappers of its reference do
- `Resolver.category_of_resolve_error` — the class of the error for a refused reference
- `Resolver.resolve?_cases` — which references are accepted, as what, and how the others are refused
-/

namespace Bindery

namespace TypeRef

/-- The references that can be resolved. -/
inductive WellFormed : TypeRef → Prop
  | named {kind : TypeKind} {name : String}
      (bindable : kind ∈ [.scalar, .object, .enum, .inputObject]) (nonempty : name ≠ "") :
      WellFormed (.plain kind (some name))
  | list {name : Option String} {inner : TypeRef} (inside : WellFormed inner) :
      WellFormed (.wrap .list name inner)
  | nonNull {name : Option String} {inner : TypeRef} (once : inner.kind ≠ .nonNull)
      (inside : WellFormed inner) : WellFormed (.wrap .nonNull name inner)

/-- The lists and non-null wrappers of a reference, from the outside to the named type. -/
def wrappers : TypeRef → List TypeKind
  | plain k _ => if k.isWrapper then [k] else []
  | wrap k _ r => if k.isWrapper then k :: r.wrappers else []

/-- The wrappers of a reference lead to an interface or a union, and no non-null wrapper stands directly
around another one. -/
def EndsAbstract (ref : TypeRef) : Prop :=
  ref.wrappers.IsChain (fun outer inner => ¬(outer = .nonNull ∧ inner = .nonNull)) ∧
    ∃ n, ref.named? = some n ∧ (n.kind = .interface ∨ n.kind = .union)

theorem head?_wrappers (ref : TypeRef) :
    ref.wrappers.head? = if ref.kind.isWrapper then some ref.kind else none := by
  cases ref with
  | plain k | wrap k => by_cases h : k.isWrapper <;> simp [wrappers, kind, h]

theorem mem_head?_wrappers {ref : TypeRef} {k : TypeKind} (h : k ∈ ref.wrappers.head?) :
    ref.kind = k := by
  rw [head?_wrappers, Option.mem_def] at h
  split at h
  · exact Option.some.inj h
  · cases h

theorem endsAbstract_of_not_isWrapper {ref : TypeRef} (h : ref.kind.isWrapper = false) :
    ref.EndsAbstract ↔ ref.kind = .interface ∨ ref.kind = .union := by
  have hwrappers : ref.wrappers = [] := by
    cases ref <;> exact if_neg (ne_true_of_eq_false h)
  have hnamed : ref.named? = some ref := by
    cases ref <;> exact if_neg (ne_true_of_eq_false h)
  simp [EndsAbstract, hwrappers, hnamed]

theorem not_endsAbstract_of_kind {ref : TypeRef} (h : ref.kind.isWrapper = false)
    (hkind : ¬(ref.kind = .interface ∨ ref.kind = .union)) : ¬ref.EndsAbstract :=
  fun hends => hkind ((endsAbstract_of_not_isWrapper h).1 hends)

theorem endsAbstract_list (name : Option String) (inner : TypeRef) :
    (wrap .list name inner).EndsAbstract ↔ inner.EndsAbstract := by
  have hnamed : (wrap .list name inner).named? = inner.named? := rfl
  have hwrappers : (wrap .list name inner).wrappers = .list :: inner.wrappers := rfl
  simp [EndsAbstract, hnamed, hwrappers, List.isChain_cons]

theorem endsAbstract_nonNull (name : Option String) (inner : TypeRef) :
    (wrap .nonNull name inner).EndsAbstract ↔ inner.kind ≠ .nonNull ∧ inner.EndsAbstract := by
  have hnamed : (wrap .nonNull name inner).named? = inner.named? := rfl
  have hwrappers : (wrap .nonNull name inner).wrappers = .nonNull :: inner.wrappers := rfl
  have hhead : (∀ k ∈ inner.wrappers.head?, ¬(TypeKind.nonNull = .nonNull ∧ k = .nonNull)) ↔
      inner.kind ≠ .nonNull := by
    constructor
    · intro h hkind
      refine h .nonNull ?_ ⟨rfl, rfl⟩
      rw [head?_wrappers, hkind]
      rfl
    · rintro h k hk ⟨-, rfl⟩
      exact h (mem_head?_wrappers hk)
  rw [EndsAbstract, hwrappers, hnamed, List.isChain_cons, hhead, and_assoc, EndsAbstract]

theorem not_endsAbstract_of_named?_eq_none {ref : TypeRef} (h : ref.named? = none) :
    ¬ref.EndsAbstract := by
  rintro ⟨-, n, hn, -⟩
  rw [h] at hn
  cases hn

end TypeRef

/-! ### Where null is allowed -/

/-- Where wrappers allow null, from the outside in: at each list and at the named type, unless a non-null
wrapper stands directly around it. The first argument says whether one stands around all of them. -/
def nullability : Bool → List TypeKind → List Bool
  | required, [] => [!required]
  | _, .nonNull :: rest => nullability true rest
  | required, _ :: rest => (!required) :: nullability false rest

/-- Where an expression allows null, from the outside in: at each list and at the named type. -/
def TypeExpr.levels : TypeExpr → List Bool
  | named _ _ _ nullable => [nullable]
  | list elem nullable => nullable :: elem.levels

theorem TypeExpr.levels_withNullable (nullable : Bool) (e : TypeExpr) :
    (e.withNullable nullable).levels = nullable :: e.levels.tail := by
  cases e <;> rfl

theorem nullability_true {ks : List TypeKind} (h : .nonNull ∉ ks.head?) :
    nullability true ks = false :: (nullability false ks).tail := by
  cases ks with
  | nil => rfl
  | cons k ks =>
    cases k with
    | nonNull => exact absurd rfl h
    | _ => rfl

theorem error_of_map_error {ε α β : Type} {x : Except ε α} {f : α → β} {d : ε}
    (h : x.map f = .error d) : x = .error d := by
  cases x with
  | error => exact congrArg Except.error (Except.error.inj h)
  | ok => cases h

namespace Resolver

theorem levels_named (r : Resolver) (kind : TypeKind) (name : String) :
    (r.named kind name).levels = [true] := by
  unfold named
  split <;> rfl

theorem Resolves.levels {r : Resolver} {ref : TypeRef} {e : TypeExpr} (h : r.Resolves ref e) :
    e.levels = nullability false ref.wrappers := by
  induction h with
  | @named kind name bindable =>
    rw [levels_named]
    cases kind with
    | scalar | object | enum | inputObject => rfl
    | _ => simp at bindable
  | @nonNull name inner e once _ ih =>
    have hhead : .nonNull ∉ inner.wrappers.head? := fun h => once (TypeRef.mem_head?_wrappers h)
    calc (e.withNullable false).levels
        = false :: e.levels.tail := TypeExpr.levels_withNullable false e
      _ = nullability true inner.wrappers := by rw [ih, nullability_true hhead]
      _ = nullability false (TypeRef.wrap .nonNull name inner).wrappers := rfl
  | list _ ih => exact congrArg (true :: ·) ih

/-! ### Accepted references -/

theorem resolve_of_resolves {r : Resolver} {ref : TypeRef} {e : TypeExpr} (h : r.Resolves ref e) :
    r.resolve ref = .ok e := by
  induction h with
  | @named kind name bindable nonempty =>
    cases kind with
    | scalar | object | enum | inputObject => simp [resolve, resolvePlain]
    | _ => simp at bindable
  | nonNull once _ ih =>
    rw [resolve, if_neg (by simpa using once), ih]
    rfl
  | list _ ih =>
    rw [resolve, ih]
    rfl

/-- A resolver follows its rules and accepts nothing else. -/
theorem resolve_eq_ok_iff {r : Resolver} {ref : TypeRef} {e : TypeExpr} :
    r.resolve ref = .ok e ↔ r.Resolves ref e :=
  ⟨resolves_of_resolve, resolve_of_resolves⟩

theorem Resolves.wellFormed {r : Resolver} {ref : TypeRef} {e : TypeExpr} (h : r.Resolves ref e) :
    ref.WellFormed := by
  induction h with
  | named bindable nonempty => exact .named bindable nonempty
  | nonNull once _ ih => exact .nonNull once ih
  | list _ ih => exact .list ih

theorem exists_resolves (r : Resolver) {ref : TypeRef} (h : ref.WellFormed) :
    ∃ e, r.Resolves ref e := by
  induction h with
  | named bindable nonempty => exact ⟨_, .named bindable nonempty⟩
  | nonNull once _ ih =>
    obtain ⟨e, he⟩ := ih
    exact ⟨_, .nonNull once he⟩
  | list _ ih =>
    obtain ⟨e, he⟩ := ih
    exact ⟨_, .list he⟩

theorem exists_resolve_iff (r : Resolver) (ref : TypeRef) :
    (∃ e, r.resolve ref = .ok e) ↔ ref.WellFormed := by
  simp only [resolve_eq_ok_iff]
  constructor
  · rintro ⟨e, he⟩
    exact he.wellFormed
  · exact r.exists_resolves

/-! ### Refused references -/

theorem category_of_resolvePlain_error {r : Resolver} {kind : TypeKind} {name : Option String}
    {d : Defect} (h : r.resolvePlain kind name = .error d) :
    (TypeRef.plain kind name).EndsAbstract ∧ d.category = some .unsupported ∨
      ¬(TypeRef.plain kind name).EndsAbstract ∧ d.category = some .shape := by
  cases kind with
  | interface | union =>
    obtain rfl := Except.error.inj h
    exact .inl ⟨(TypeRef.endsAbstract_of_not_isWrapper rfl).2 (by simp [TypeRef.kind]), rfl⟩
  | list | nonNull =>
    obtain rfl := Except.error.inj h
    exact .inr ⟨TypeRef.not_endsAbstract_of_named?_eq_none rfl, rfl⟩
  | unknown =>
    obtain rfl := Except.error.inj h
    exact .inr ⟨TypeRef.not_endsAbstract_of_kind rfl (by simp [TypeRef.kind]), rfl⟩
  | scalar | object | enum | inputObject =>
    simp only [resolvePlain] at h
    split at h
    · obtain rfl := Except.error.inj h
      exact .inr ⟨TypeRef.not_endsAbstract_of_kind rfl (by simp [TypeRef.kind]), rfl⟩
    · cases h

/-- A refused reference is unsupported if its wrappers lead to an interface or a union, and has a wrong
shape otherwise. -/
theorem category_of_resolve_error {r : Resolver} {ref : TypeRef} {d : Defect}
    (h : r.resolve ref = .error d) :
    ref.EndsAbstract ∧ d.category = some .unsupported ∨
      ¬ref.EndsAbstract ∧ d.category = some .shape := by
  induction ref with
  | plain kind name => exact category_of_resolvePlain_error h
  | wrap kind name inner ih =>
    cases kind with
    | nonNull =>
      rw [TypeRef.endsAbstract_nonNull]
      simp only [resolve] at h
      split at h
      · next htwice =>
        obtain rfl := Except.error.inj h
        have hkind : inner.kind = .nonNull := by simpa using htwice
        exact .inr ⟨fun hends => hends.1 hkind, rfl⟩
      · next honce =>
        have hkind : inner.kind ≠ .nonNull := by simpa using honce
        simpa [hkind] using ih (error_of_map_error h)
    | list =>
      rw [TypeRef.endsAbstract_list]
      exact ih (error_of_map_error h)
    | interface | union =>
      obtain rfl := Except.error.inj h
      exact .inl ⟨(TypeRef.endsAbstract_of_not_isWrapper rfl).2 (by simp [TypeRef.kind]), rfl⟩
    | unknown =>
      obtain rfl := Except.error.inj h
      exact .inr ⟨TypeRef.not_endsAbstract_of_kind rfl (by simp [TypeRef.kind]), rfl⟩
    | scalar | object | enum | inputObject =>
      refine .inr ⟨TypeRef.not_endsAbstract_of_kind rfl (by simp [TypeRef.kind]), ?_⟩
      simp only [resolve] at h
      split at h <;> obtain rfl := Except.error.inj h <;> rfl

/-- The references that a resolver accepts are the well-formed ones. The expression of such a reference
has a level for each of its lists and one for the named type, allows null at the levels that no non-null
wrapper stands directly around, and ends in the type that a known scalar stands for or in the kind and
the identifier of the named type. A refused reference is unsupported exactly if its wrappers lead to an
interface or a union, and has a wrong shape otherwise. -/
theorem resolve?_cases (r : Resolver) (ref? : Option TypeRef) :
    ((∃ e, r.resolve? ref? = .ok e) ↔ ∃ ref, ref? = some ref ∧ ref.WellFormed) ∧
    (∀ ref e, ref? = some ref → r.resolve? ref? = .ok e →
      e.levels = nullability false ref.wrappers ∧
      ∃ n, ref.named? = some n ∧
        ((n.kind = .scalar ∧ ∃ package target, r.scalars.lookup n.name = some (package, target) ∧
            e.leaf = (.scalar, package, target)) ∨
          ((n.kind = .scalar → r.isBound n.name = false) ∧
            e.leaf = (n.kind, "", Naming.identifier n.name)))) ∧
    ∀ d, r.resolve? ref? = .error d →
      (d.category = some .unsupported ↔ ∃ ref, ref? = some ref ∧ ref.EndsAbstract) ∧
      (d.category ≠ some .unsupported → d.category = some .shape) := by
  cases ref? with
  | none =>
    refine ⟨by simp [resolve?], by simp, ?_⟩
    intro d h
    obtain rfl := Except.error.inj h
    simp [Defect.category]
  | some ref =>
    refine ⟨by simpa [resolve?] using r.exists_resolve_iff ref, ?_, ?_⟩
    · rintro _ e ⟨⟩ h
      have hresolves : r.Resolves ref e := resolves_of_resolve h
      obtain ⟨kind, name, hnamed, hleaf⟩ := hresolves.leaf
      refine ⟨hresolves.levels, _, hnamed, ?_⟩
      rw [hleaf]
      exact r.leaf_named kind name
    · intro d h
      rcases category_of_resolve_error h with ⟨hends, hcategory⟩ | ⟨hends, hcategory⟩ <;>
        simp [hends, hcategory]

/-- A list of dates in which nothing may be missing. -/
def datesRef : TypeRef :=
  .wrap .nonNull none (.wrap .list none (.wrap .nonNull none (.plain .scalar (some "DateTime"))))

theorem resolve_datesRef :
    ∃ e, (Resolver.mk [("DateTime", "time", "Time")]).resolve? (some datesRef) = .ok e ∧
      e.levels = [false, false] ∧ e.leaf = (.scalar, "time", "Time") := by
  have hformed : datesRef.WellFormed :=
    .nonNull (by decide) (.list (.nonNull (by decide) (.named (by simp) (by decide))))
  obtain ⟨haccepts, hlevels, -⟩ := resolve?_cases ⟨[("DateTime", "time", "Time")]⟩ (some datesRef)
  obtain ⟨e, he⟩ := haccepts.2 ⟨datesRef, rfl, hformed⟩
  obtain ⟨hnull, n, hnamed, hleaf⟩ := hlevels datesRef e rfl he
  obtain rfl : .plain .scalar (some "DateTime") = n := Option.some.inj hnamed
  refine ⟨e, he, hnull, ?_⟩
  rcases hleaf with ⟨-, package, target, hbound, hleaf⟩ | ⟨hfree, -⟩
  · obtain ⟨rfl, rfl⟩ := Prod.mk.inj (Option.some.inj hbound)
    exact hleaf
  · exact absurd (hfree rfl) (by decide)

end Resolver

end Bindery
