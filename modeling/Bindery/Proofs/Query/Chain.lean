import Bindery.Query.Selection

/-!
# The names of a chain

A forest of selections only grows. What is added lies below what is there, and giving arguments to a
selection touches nothing but its arguments, so the names from the root down to a selection never change.

## Main definitions

- `Selection.link` — the name of a selection and the one it lies below
- `Forest.names` — the names from the root of an operation down to a selection

## Main results

- `Forest.names_congr` — the names of a chain depend on the links of its selections only
- `Forest.names_root`, `Forest.names_select` — the names of a new root and of a new field
- `Forest.names_of_withArguments` — arguments do not show in the names of a chain
-/

namespace Bindery

/-- The name of a selection and the number of the one it lies below. -/
def Selection.link (s : Selection) : Octets × Option Nat :=
  (s.name, s.parent)

namespace Forest

/-- The names from the root of an operation down to a selection. -/
def names (f : Forest) (i : Nat) : List Octets :=
  (f.chain i).map (·.name)

theorem path_eq (f : Forest) (i : Nat) : f.path i = (f.names i).tail :=
  List.map_tail

theorem operation_eq (f : Forest) (i : Nat) : f.operation i = (f.names i).head?.getD [] := by
  simp [operation, names]

/-- The names of a chain by the link of its last selection. -/
theorem names_eq (f : Forest) (i : Nat) :
    f.names i =
      match f.selections[i]?.map Selection.link with
      | none => []
      | some (name, none) => [name]
      | some (name, some p) => if p < i then f.names p ++ [name] else [name] := by
  unfold names
  rw [chain]
  cases f.selections[i]? with
  | none => rfl
  | some s =>
    cases hp : s.parent with
    | none => simp [Selection.link, hp]
    | some p => by_cases hlt : p < i <;> simp [Selection.link, hp, hlt]

/-- The names of a chain depend on the links of its selections only. -/
theorem names_congr {f f' : Forest} {i : Nat}
    (h : ∀ j ≤ i, f'.selections[j]?.map Selection.link = f.selections[j]?.map Selection.link) :
    f'.names i = f.names i := by
  induction i using Nat.strongRecOn with
  | ind i ih =>
    rw [names_eq, names_eq, h i (Nat.le_refl i)]
    split
    · rfl
    · rfl
    · next name p _ =>
      by_cases hlt : p < i
      · rw [if_pos hlt, if_pos hlt, ih p hlt fun j hj => h j (Nat.le_trans hj (Nat.le_of_lt hlt))]
      · rw [if_neg hlt, if_neg hlt]

/-! ### New selections -/

/-- A new selection leaves the names of the others as they are. -/
theorem names_add_of_lt (f : Forest) (s : Selection) {i : Nat} (hi : i < f.selections.length) :
    (f.add s).1.names i = f.names i := by
  refine names_congr fun j hj => ?_
  rw [add, List.getElem?_append_left (Nat.lt_of_le_of_lt hj hi)]

/-- The number of a new selection stands for it. -/
theorem getElem?_add (f : Forest) (s : Selection) :
    (f.add s).1.selections[(f.add s).2]? = some s := by
  simp [add]

/-- The names of a new root are its operation. -/
theorem names_root (f : Forest) (operation : Octets) :
    (f.root operation).1.names (f.root operation).2 = [operation] := by
  rw [names_eq, root, getElem?_add]
  rfl

/-- The names of a new field are those of its parent and its own. -/
theorem names_select (f : Forest) {parent : Nat} (hparent : parent < f.selections.length)
    (name : Octets) :
    (f.select parent name).1.names (f.select parent name).2 = f.names parent ++ [name] := by
  have hlt : parent < (f.select parent name).2 := hparent
  rw [names_eq, select, getElem?_add]
  exact (if_pos hlt).trans (congrArg (· ++ [name]) (names_add_of_lt f _ hparent))

/-! ### Arguments -/

/-- Arguments that can be written can be given. -/
theorem exists_withArguments {v : Value} (h : (v.arguments false).isOk = true) (f : Forest) (i : Nat) :
    ∃ f', f.withArguments i (some v) = some f' := by
  cases hv : v.arguments false with
  | error e => simp [hv, Except.isOk, Except.toBool] at h
  | ok o => exact ⟨f.setArguments i (.ok o), by simp [withArguments, hv]⟩

/-- Giving arguments to a selection keeps the number of selections and all names. -/
theorem names_of_withArguments {f f' : Forest} {i : Nat} {v : Option Value}
    (h : f.withArguments i v = some f') :
    f'.selections.length = f.selections.length ∧ ∀ j, f'.names j = f.names j := by
  have hset : ∃ w, f' = f.setArguments i w := by
    unfold withArguments at h
    split at h
    · exact ⟨_, (Option.some.inj h).symm⟩
    · split at h
      · cases h
      · exact ⟨_, (Option.some.inj h).symm⟩
  obtain ⟨w, rfl⟩ := hset
  refine ⟨by simp [setArguments], fun j => names_congr fun k _ => ?_⟩
  simp only [setArguments, List.getElem?_modify, Option.map_eq_map, Option.map_map]
  congr 1
  funext s
  by_cases hk : i = k <;> simp [hk, Selection.link]

end Forest

end Bindery
