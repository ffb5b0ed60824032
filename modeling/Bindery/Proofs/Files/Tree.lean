import Bindery.Files.Store
import Mathlib.Data.List.Infix

/-!
# Trees of files, place by place

A tree is what it shows at its places: nothing, a directory, or a file with its content. Changing a tree at
one place shows at that place and below it, and nowhere else.

## Main definitions

- `Sight`, `Node.look?` — what is at a place

## Main results

- `Node.look?_insert` — what a tree shows after something was put into a directory
- `Node.look?_remove` — what a tree shows after an entry of a directory was removed
-/

namespace Bindery

/-- What there is at a place. -/
inductive Sight where
  | directory
  | file (content : Octets)
  deriving DecidableEq

namespace Node

/-- What a node is, seen from outside. -/
def sight : Node → Sight
  | .directory _ => .directory
  | .file content => .file content

/-- What there is at a place of a tree. -/
def look? (n : Node) (place : List String) : Option Sight :=
  (n.at? place).map sight

theorem at?_append (n : Node) (p q : List String) : n.at? (p ++ q) = (n.at? p).bind (·.at? q) := by
  induction p generalizing n with
  | nil => rfl
  | cons name rest ih =>
    rw [List.cons_append, at?, at?]
    cases n.child? name with
    | none => rfl
    | some inner => exact ih inner

theorem look?_append (n : Node) (p q : List String) :
    n.look? (p ++ q) = (n.at? p).bind (·.look? q) := by
  rw [look?, at?_append]
  cases n.at? p <;> rfl

theorem look?_cons (n : Node) (name : String) (place : List String) :
    n.look? (name :: place) = (n.child? name).bind (·.look? place) :=
  look?_append n [name] place |>.trans (by simp [at?])

/-- There is nothing below a place at which there is no directory. -/
theorem look?_below {n : Node} {p : List String} (h : n.look? p ≠ some .directory) (name : String)
    (q : List String) : n.look? (p ++ name :: q) = none := by
  rw [look?_append]
  cases hp : n.at? p with
  | none => rfl
  | some inner =>
    cases inner with
    | file content => rfl
    | directory es => exact absurd (by rw [look?, hp]; rfl) h

/-- The places on the way to a directory are directories. -/
theorem look?_on_way {n : Node} {p q : List String} (h : n.look? p = some .directory)
    (hpre : q <+: p) : n.look? q = some .directory := by
  obtain ⟨r, rfl⟩ := hpre
  cases r with
  | nil => rwa [List.append_nil] at h
  | cons name r =>
    by_contra hq
    rw [look?_below hq] at h
    cases h

/-! ### Putting something into a tree -/

/-- Of the entries of a directory without those of a name, the entries of other names are found. -/
theorem find?_removed (es : List (String × Node)) (name other : String) :
    (es.filter (·.1 != name)).find? (·.1 == other) =
      if other = name then none else es.find? (·.1 == other) := by
  by_cases h : other = name
  · subst h
    rw [if_pos rfl, List.find?_eq_none]
    intro e he
    have hne := (List.mem_filter.mp he).2
    simpa using hne
  · rw [if_neg h, List.find?_filter]
    congr 1
    funext e
    by_cases he : e.1 = other
    · simp [he, h]
    · simp [he]

theorem child?_put (n : Node) (name other : String) (new : Node) :
    (n.put name new).child? other = if other = name then some new else n.child? other := by
  rw [put, child?, entries, List.find?_append, find?_removed]
  by_cases h : other = name
  · simp [h]
  · have hlast : [(name, new)].find? (fun e => e.1 == other) = none := by
      simp [Ne.symm h]
    rw [if_neg h, if_neg h, hlast, Option.or_none, child?]

theorem look?_put_cons (n : Node) (name other : String) (new : Node) (place : List String) :
    (n.put name new).look? (other :: place) =
      if other = name then new.look? place else n.look? (other :: place) := by
  rw [look?_cons, child?_put, look?_cons]
  by_cases h : other = name
  · rw [if_pos h, if_pos h]
    rfl
  · rw [if_neg h, if_neg h]

theorem look?_insert_append (n : Node) (p q : List String) (new : Node) :
    (n.insert p new).look? (p ++ q) = new.look? q := by
  induction p generalizing n with
  | nil => rfl
  | cons name rest ih =>
    rw [insert, List.cons_append, look?_put_cons, if_pos rfl]
    exact ih _

/-- Beside the place and the way to it, nothing changes. -/
theorem look?_insert_elsewhere (n : Node) {p q : List String} (new : Node) (hbelow : ¬ p <+: q)
    (habove : ¬ q <+: p) : (n.insert p new).look? q = n.look? q := by
  induction p generalizing n q with
  | nil => exact absurd q.nil_prefix hbelow
  | cons name rest ih =>
    cases q with
    | nil => exact absurd (List.nil_prefix) habove
    | cons other q =>
      rw [insert, look?_put_cons]
      by_cases h : other = name
      · subst h
        rw [List.prefix_cons_inj] at hbelow habove
        rw [if_pos rfl, ih _ hbelow habove, look?_cons]
        cases n.child? other with
        | some inner => rfl
        | none =>
          -- `q` is not empty, and there is nothing in an empty directory
          cases q with
          | nil => exact absurd (List.nil_prefix) habove
          | cons first q => rfl
      · rw [if_neg h]

/-- On the way to the place there are directories afterwards. -/
theorem look?_insert_above (n : Node) (q : List String) (name : String) (r : List String)
    (new : Node) : (n.insert (q ++ name :: r) new).look? q = some .directory := by
  induction q generalizing n with
  | nil => rfl
  | cons first q ih =>
    rw [List.cons_append, insert, look?_put_cons, if_pos rfl]
    exact ih _

theorem drop_below (place : List String) (name : String) (r : List String) :
    (place ++ [name] ++ r).drop (place.length + 1) = r := by
  rw [List.drop_append_of_le_length (by simp), List.drop_of_length_le (by simp), List.nil_append]

/-- What a tree shows after something was put into the directory at `place` under a name. -/
theorem look?_insert {n : Node} {place : List String} (h : n.look? place = some .directory)
    (name : String) (new : Node) (q : List String) :
    (n.insert (place ++ [name]) new).look? q =
      if place ++ [name] <+: q then new.look? (q.drop (place.length + 1)) else n.look? q := by
  by_cases hbelow : place ++ [name] <+: q
  · obtain ⟨r, rfl⟩ := hbelow
    rw [if_pos (List.prefix_append _ _), look?_insert_append, drop_below]
  · rw [if_neg hbelow]
    by_cases habove : q <+: place ++ [name]
    · rcases List.prefix_concat_iff.mp habove with rfl | hq
      · exact absurd List.prefix_rfl hbelow
      · rw [look?_on_way h hq]
        obtain ⟨r, rfl⟩ := hq
        cases r with
        | nil => simpa using look?_insert_above n q name [] new
        | cons first r =>
          have := look?_insert_above n q first (r ++ [name]) new
          simpa using this
    · exact look?_insert_elsewhere n new hbelow habove

/-! ### Removing an entry -/

theorem child?_removed (n : Node) (name other : String) :
    (directory (n.entries.filter (·.1 != name))).child? other =
      if other = name then none else n.child? other := by
  rw [child?, entries, find?_removed]
  by_cases h : other = name
  · rw [if_pos h, if_pos h]
    rfl
  · rw [if_neg h, if_neg h, child?]

theorem remove_cons_concat {n inner : Node} {first : String} (h : n.child? first = some inner)
    (place : List String) (name : String) :
    n.remove (first :: (place ++ [name])) = n.put first (inner.remove (place ++ [name])) := by
  cases place <;> simp only [List.cons_append, List.nil_append, remove, h]

/-- What a tree shows after the entry with a name was removed from the directory at `place`. -/
theorem look?_remove {n : Node} {place : List String} (h : n.look? place = some .directory)
    (name : String) (q : List String) :
    (n.remove (place ++ [name])).look? q = if place ++ [name] <+: q then none else n.look? q := by
  induction place generalizing n q with
  | nil =>
    show (directory (n.entries.filter (·.1 != name))).look? q = _
    cases q with
    | nil => exact h.symm
    | cons other q =>
      rw [look?_cons, child?_removed, look?_cons]
      by_cases hother : other = name
      · rw [if_pos hother, if_pos (by simp [hother, List.prefix_cons_iff])]
        rfl
      · rw [if_neg hother, if_neg (by simp [List.cons_prefix_cons, Ne.symm hother])]
  | cons first place ih =>
    rw [look?_cons] at h
    cases hinner : n.child? first with
    | none =>
      rw [hinner] at h
      cases h
    | some inner =>
      rw [hinner] at h
      rw [List.cons_append, remove_cons_concat hinner]
      cases q with
      | nil =>
        have hdir : n.look? [] = some .directory := by
          cases n with
          | directory es => rfl
          | file content => cases hinner
        rw [if_neg (by simp), hdir]
        rfl
      | cons other q =>
        rw [look?_put_cons]
        by_cases hother : other = first
        · subst hother
          rw [if_pos rfl, ih h q, look?_cons, hinner]
          simp only [List.cons_prefix_cons, true_and]
          rfl
        · rw [if_neg hother, if_neg]
          rw [List.cons_prefix_cons]
          exact fun hpre => hother hpre.1.symm

end Node

end Bindery
