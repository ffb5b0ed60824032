import Mathlib.Data.List.Nodup

/-!
# Sorting by a key

Where no two items of a list have the same key, the sorted list does not depend on the order in which the
items came. This is so for every comparison that tells any two items with different keys apart, and such
comparisons can be put together: a key that is looked at first, and another comparison where it is the same.

## Main definitions

- `SortsBy` — a comparison that tells items with different keys apart

## Main results

- `SortsBy.notLt`, `SortsBy.lex` — comparison by one key, and by one more key before others
- `SortsBy.mergeSort_eq_of_perm` — the order in which the items came makes no difference
- `SortsBy.pairwise_mergeSort` — in the sorted list, no item comes before or at an earlier one
- `find?_key_eq_of_perm` — an item is found by its key wherever it stands
-/

namespace Bindery

variable {α β γ : Type}

/-- The comparison of items is transitive and total, and only items with the same key come before each other
both ways. -/
structure SortsBy (le : α → α → Bool) (key : α → β) : Prop where
  trans : ∀ a b c, le a b = true → le b c = true → le a c = true
  total : ∀ a b, (le a b || le b a) = true
  antisymm : ∀ a b, le a b = true → le b a = true → key a = key b

namespace SortsBy

section Comparisons

variable [LT β] [LE β] [DecidableLT β] [Std.IsLinearOrder β] [Std.LawfulOrderLT β]

theorem notLt (key : α → β) : SortsBy (fun a b => !decide (key b < key a)) key := by
  have hle : ∀ a b, (!decide (key b < key a)) = true ↔ key a ≤ key b := by
    intro a b
    simp [Std.not_lt]
  constructor
  · intro a b c hab hbc
    rw [hle] at hab hbc ⊢
    exact Std.le_trans hab hbc
  · intro a b
    rw [Bool.or_eq_true, hle, hle]
    exact Std.le_total
  · intro a b hab hba
    rw [hle] at hab hba
    exact Std.le_antisymm hab hba

/-- A key `first` that is looked at before the comparison `le`. -/
theorem lex [BEq β] [LawfulBEq β] (first : α → β) {le : α → α → Bool} {key : α → γ} (h : SortsBy le key) :
    SortsBy (fun a b => if first a != first b then decide (first a < first b) else le a b) key := by
  have hle : ∀ a b, (if first a != first b then decide (first a < first b) else le a b) = true ↔
      first a < first b ∨ first a = first b ∧ le a b = true := by
    intro a b
    by_cases hab : first a = first b
    · simp [hab, Std.lt_irrefl]
    · simp [hab]
  constructor
  · intro a b c hab hbc
    rw [hle] at hab hbc ⊢
    rcases hab with hab | ⟨hab, hrest⟩
    · rcases hbc with hbc | ⟨hbc, -⟩
      · exact .inl (Std.lt_trans hab hbc)
      · exact .inl (hbc ▸ hab)
    · rcases hbc with hbc | ⟨hbc, hrest'⟩
      · exact .inl (hab ▸ hbc)
      · exact .inr ⟨hab.trans hbc, h.trans a b c hrest hrest'⟩
  · intro a b
    rw [Bool.or_eq_true, hle, hle]
    rcases Std.lt_trichotomy (first a) (first b) with hab | hab | hab
    · exact .inl (.inl hab)
    · rcases Bool.or_eq_true_iff.mp (h.total a b) with hrest | hrest
      · exact .inl (.inr ⟨hab, hrest⟩)
      · exact .inr (.inr ⟨hab.symm, hrest⟩)
    · exact .inr (.inl hab)
  · intro a b hab hba
    rw [hle] at hab hba
    rcases hab with hab | ⟨hab, hrest⟩
    · rcases hba with hba | ⟨hba, -⟩
      · exact absurd (Std.lt_trans hab hba) Std.lt_irrefl
      · exact absurd (hba ▸ hab) Std.lt_irrefl
    · rcases hba with hba | ⟨-, hrest'⟩
      · exact absurd (hab ▸ hba) Std.lt_irrefl
      · exact h.antisymm a b hrest hrest'

end Comparisons

variable {le : α → α → Bool} {key : α → β} {l l' : List α}

theorem mergeSort_eq_of_perm (h : SortsBy le key) (hperm : l'.Perm l) (hnodup : (l.map key).Nodup) :
    l'.mergeSort le = l.mergeSort le := by
  have hsorted : (l'.mergeSort le).Perm (l.mergeSort le) :=
    (List.mergeSort_perm l' le).trans (hperm.trans (List.mergeSort_perm l le).symm)
  refine List.Perm.eq_of_pairwise ?_ (List.pairwise_mergeSort h.trans h.total l')
    (List.pairwise_mergeSort h.trans h.total l) hsorted
  intro a b ha hb hab hba
  have ha' : a ∈ l := List.mem_mergeSort.mp (hsorted.mem_iff.mp ha)
  exact List.inj_on_of_nodup_map hnodup ha' (List.mem_mergeSort.mp hb) (h.antisymm a b hab hba)

theorem pairwise_mergeSort (h : SortsBy le key) (hnodup : (l.map key).Nodup) :
    (l.mergeSort le).Pairwise fun a b => le b a = false := by
  have hkeys : (l.mergeSort le).Pairwise fun a b => key a ≠ key b := by
    rw [← List.pairwise_map]
    exact ((List.mergeSort_perm l le).map key).nodup_iff.mpr hnodup
  refine ((List.pairwise_mergeSort h.trans h.total l).and hkeys).imp ?_
  intro a b hab
  rw [Bool.eq_false_iff]
  intro hba
  exact hab.2 (h.antisymm a b hab.1 hba)

end SortsBy

/-- Where keys are distinct, looking for a key finds its item wherever it stands. -/
theorem find?_key_eq_some_iff [BEq β] [LawfulBEq β] {key : α → β} {l : List α}
    (hnodup : (l.map key).Nodup) {k : β} {a : α} :
    l.find? (key · == k) = some a ↔ a ∈ l ∧ key a = k := by
  constructor
  · intro h
    exact ⟨List.mem_of_find?_eq_some h, by simpa using List.find?_some h⟩
  · rintro ⟨ha, rfl⟩
    have hsome : (l.find? (key · == key a)).isSome = true := by
      rw [List.find?_isSome]
      exact ⟨a, ha, beq_self_eq_true _⟩
    obtain ⟨b, hb⟩ := Option.isSome_iff_exists.mp hsome
    have hkey : key b = key a := by simpa using List.find?_some hb
    rw [hb, List.inj_on_of_nodup_map hnodup (List.mem_of_find?_eq_some hb) ha hkey]

theorem find?_key_eq_of_perm [BEq β] [LawfulBEq β] {key : α → β} {l l' : List α} (hperm : l'.Perm l)
    (hnodup : (l.map key).Nodup) (k : β) : l'.find? (key · == k) = l.find? (key · == k) := by
  have hnodup' : (l'.map key).Nodup := (hperm.map key).nodup_iff.mpr hnodup
  ext a
  rw [find?_key_eq_some_iff hnodup', find?_key_eq_some_iff hnodup, hperm.mem_iff]

end Bindery
