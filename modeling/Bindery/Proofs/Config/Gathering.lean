import Bindery.Proofs.Config.Selection
import Mathlib.Data.List.Forall2

/-!
# Files of several patterns

The names that patterns select are gathered one after the other, and a name that is there already is passed over.
What is gathered therefore holds each name once and in the order in which the names came first, and grows at its end
only.

## Main definitions

- `Gathers` — the distinct names of a list, in the order in which they came first

## Main results

- `Gathers.addNew` — what gathering more names preserves
- `addNew_eq_append` — gathering adds the new names at the end, without repetitions
- `Store.schemaFiles_concat` — what one more pattern adds
- `Store.schemaFiles_gathers` — the files that several patterns name
-/

namespace Bindery

/-! ### Gathering names -/

/-- Names are what is gathered of those that were seen: each of them once, and in the order in which they came
first. -/
structure Gathers (seen names : List String) : Prop where
  nodup : names.Nodup
  mem_iff : ∀ name, name ∈ names ↔ name ∈ seen
  ordered : names.Pairwise fun a b => seen.idxOf a < seen.idxOf b

namespace Gathers

variable {seen names : List String} {name : String}

theorem nil : Gathers [] [] :=
  ⟨List.nodup_nil, fun _ => Iff.rfl, List.Pairwise.nil⟩

theorem ordered_append (h : Gathers seen names) (later : List String) :
    names.Pairwise fun a b => (seen ++ later).idxOf a < (seen ++ later).idxOf b := by
  -- what comes later does not change where a name came first
  refine h.ordered.imp_of_mem fun {a b} ha hb hlt => ?_
  rwa [List.idxOf_append_of_mem ((h.mem_iff a).mp ha), List.idxOf_append_of_mem ((h.mem_iff b).mp hb)]

/-- A name that is gathered already is passed over. -/
theorem again (h : Gathers seen names) (hname : name ∈ names) : Gathers (seen ++ [name]) names := by
  refine ⟨h.nodup, fun other => ?_, h.ordered_append [name]⟩
  rw [List.mem_append, List.mem_singleton, h.mem_iff other]
  refine ⟨.inl, fun hother => hother.elim id ?_⟩
  rintro rfl
  exact (h.mem_iff other).mp hname

/-- A new name goes to the end. -/
theorem new (h : Gathers seen names) (hname : name ∉ names) : Gathers (seen ++ [name]) (names ++ [name]) := by
  have hseen : name ∉ seen := fun hmem => hname ((h.mem_iff name).mpr hmem)
  have hlast : (seen ++ [name]).idxOf name = seen.length := by
    rw [List.idxOf_append_of_notMem hseen, List.idxOf_cons_self, Nat.add_zero]
  have hbefore : ∀ a ∈ names, (seen ++ [name]).idxOf a < seen.length := by
    intro a ha
    have hmem := (h.mem_iff a).mp ha
    rw [List.idxOf_append_of_mem hmem]
    exact List.idxOf_lt_length_of_mem hmem
  constructor
  case nodup =>
    refine List.nodup_append.mpr ⟨h.nodup, List.pairwise_singleton _ _, ?_⟩
    rintro a ha b hb rfl
    exact hname (List.mem_singleton.mp hb ▸ ha)
  case mem_iff =>
    intro other
    rw [List.mem_append, List.mem_append, h.mem_iff other]
  case ordered =>
    refine List.pairwise_append.mpr ⟨h.ordered_append [name], List.pairwise_singleton _ _, ?_⟩
    intro a ha b hb
    rw [List.mem_singleton.mp hb, hlast]
    exact hbefore a ha

/-- More names are gathered one after the other. -/
theorem addNew (h : Gathers seen names) (more : List String) :
    Gathers (seen ++ more) (addNew names more) := by
  -- each round moves one name from those that come to those that were seen
  induction more generalizing seen names with
  | nil => rwa [List.append_nil]
  | cons name rest ih =>
    rw [Bindery.addNew, ← List.singleton_append, ← List.append_assoc]
    by_cases hname : name ∈ names
    · rw [if_pos (List.contains_iff_mem.mpr hname)]
      exact ih (h.again hname)
    · rw [if_neg (mt List.contains_iff_mem.mp hname)]
      exact ih (h.new hname)

end Gathers

/-- The new names among those that come are added at the end, and later repetitions are left out. -/
theorem addNew_eq_append (names more : List String) :
    addNew names more = names ++ (more.removeAll names).eraseDups := by
  induction more generalizing names with
  | nil => exact (List.append_nil names).symm
  | cons name rest ih =>
    rw [addNew, ih, List.cons_removeAll]
    by_cases hname : name ∈ names
    · simp [hname]
    · have hrest : rest.removeAll (names ++ [name]) = (rest.removeAll names).filter (!· == name) := by
        simp [List.removeAll, List.filter_filter, Bool.and_comm, beq_eq_decide]
      simp [hname, hrest, List.eraseDups_cons]

theorem addNew_nil_eq_eraseDups (names : List String) : addNew [] names = names.eraseDups := by
  rw [addNew_eq_append, List.removeAll_nil, List.nil_append]

/-! ### Files of patterns -/

theorem mapM_of_forall₂ {ε α β : Type} {f : α → Except ε β} {as : List α} {bs : List β}
    (h : List.Forall₂ (fun a b => f a = .ok b) as bs) : as.mapM f = .ok bs := by
  induction h with
  | nil => rfl
  | cons hab _ ih =>
    rw [List.mapM_cons, hab, ih]
    rfl

namespace Store

variable {s : Store} {patterns : List String} {found : List (List String)}

section Expanded

variable (h : List.Forall₂ (fun pattern names => s.expand pattern = .ok names) patterns found)
include h

theorem schemaFiles_eq_ok_iff_of_expand {files : List String} :
    s.schemaFiles patterns = .ok files ↔ files = found.flatten.eraseDups ∧ files ≠ [] := by
  rw [schemaFiles, mapM_of_forall₂ h, ← addNew_nil_eq_eraseDups]
  cases hnew : addNew [] found.flatten with
  | nil => simp [bind, Except.bind, hnew]
  | cons file more =>
    simp only [bind, Except.bind, pure, Except.pure, hnew, Except.ok.injEq]
    constructor
    · rintro rfl
      exact ⟨rfl, List.cons_ne_nil _ _⟩
    · exact fun hfiles => hfiles.1.symm

theorem schemaFiles_eq_error_iff_of_expand {e : PatternsError} :
    s.schemaFiles patterns = .error e ↔ e = .noMatch patterns ∧ ∀ names ∈ found, names = [] := by
  have hempty : addNew [] found.flatten = [] ↔ ∀ names ∈ found, names = [] := by
    rw [← List.flatten_eq_nil_iff, List.eq_nil_iff_forall_not_mem, List.eq_nil_iff_forall_not_mem]
    exact forall_congr' fun name => not_congr ((Gathers.nil.addNew found.flatten).mem_iff name)
  rw [schemaFiles, mapM_of_forall₂ h, ← hempty]
  cases hnew : addNew [] found.flatten with
  | nil =>
    simp only [bind, Except.bind, hnew, Except.error.injEq, and_true]
    exact eq_comm
  | cons file more => simp [bind, Except.bind, pure, Except.pure, hnew]

theorem gathers_of_schemaFiles {files : List String} (hfiles : s.schemaFiles patterns = .ok files) :
    Gathers found.flatten files := by
  rw [((schemaFiles_eq_ok_iff_of_expand h).mp hfiles).1, ← addNew_nil_eq_eraseDups]
  exact Gathers.nil.addNew found.flatten

/-- A pattern at the end adds files at the end. -/
theorem schemaFiles_concat {files : List String} (hfiles : s.schemaFiles patterns = .ok files) {pattern : String}
    {names : List String} (hnames : s.expand pattern = .ok names) :
    ∃ more, s.schemaFiles (patterns ++ [pattern]) = .ok (files ++ more) := by
  obtain ⟨rfl, hne⟩ := (schemaFiles_eq_ok_iff_of_expand h).mp hfiles
  have hall : List.Forall₂ (fun pattern names => s.expand pattern = .ok names) (patterns ++ [pattern])
      (found ++ [names]) :=
    List.rel_append h (.cons hnames .nil)
  refine ⟨(names.removeAll found.flatten).eraseDups, (schemaFiles_eq_ok_iff_of_expand hall).mpr ⟨?_, ?_⟩⟩
  · rw [List.flatten_concat, List.eraseDups_append]
  · exact List.append_ne_nil_of_left_ne_nil hne _

/-- Where every pattern can be expanded, the files are the names that the patterns select, one pattern after the
other, without the later repetitions of a name. So each name that some pattern selects is there once, and the names
are in the order in which they came first. There are no files exactly if no pattern selects anything, and a further
pattern leaves the files where they are. -/
theorem schemaFiles_gathers :
    (∀ files, s.schemaFiles patterns = .ok files ↔ files = found.flatten.eraseDups ∧ files ≠ []) ∧
      (∀ e, s.schemaFiles patterns = .error e ↔ e = .noMatch patterns ∧ ∀ names ∈ found, names = []) ∧
      ∀ files, s.schemaFiles patterns = .ok files →
        files.Nodup ∧ (∀ name, name ∈ files ↔ ∃ names ∈ found, name ∈ names) ∧
        (files.Pairwise fun a b => found.flatten.idxOf a < found.flatten.idxOf b) ∧
        ∀ pattern names, s.expand pattern = .ok names →
          ∃ more, s.schemaFiles (patterns ++ [pattern]) = .ok (files ++ more) := by
  refine ⟨fun _ => schemaFiles_eq_ok_iff_of_expand h, fun _ => schemaFiles_eq_error_iff_of_expand h, ?_⟩
  intro files hfiles
  have hgathers := gathers_of_schemaFiles h hfiles
  refine ⟨hgathers.nodup, fun name => ?_, hgathers.ordered, fun _ _ => schemaFiles_concat h hfiles⟩
  rw [hgathers.mem_iff, List.mem_flatten]

end Expanded

/-- The last pattern selects below a directory what the first one selects by name, and the file keeps its place. -/
theorem schemaFiles_overlapping :
    singleStore.schemaFiles ["schema/sub/*.graphql", "schema", "schema/**/*.graphql"] =
      .ok ["schema/sub/a.graphql", "schema"] := by
  have hplain : singleStore.glob "schema" = some ["schema"] := rfl
  have hfound : List.Forall₂ (fun pattern names => singleStore.expand pattern = .ok names)
      ["schema/sub/*.graphql", "schema", "schema/**/*.graphql"]
      [["schema/sub/a.graphql"], ["schema"], ["schema/sub/a.graphql"]] :=
    .cons ((expand_eq_ok_iff (by decide)).mpr glob_singleStore)
      (.cons ((expand_eq_ok_iff (by decide)).mpr hplain) (.cons expand_singleStore .nil))
  exact ((schemaFiles_gathers hfound).1 _).mpr ⟨by decide, by decide⟩

end Store

end Bindery
