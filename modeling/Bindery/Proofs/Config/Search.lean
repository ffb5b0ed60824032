import Bindery.Config.Load
import Bindery.Proofs.Files.Write
import Mathlib.Logic.Function.Iterate

/-!
# The search for the configuration

The search looks for some names in a directory, then in the directory of that directory, and so on. It ends
where a name is found, or at the root, which is its own directory. What it finds is the nearest file: none of
the directories below has a file under any of the names, and its own directory has none under an earlier name.

## Main definitions

- `Store.Holds` — a directory holds a file under a name
- `Store.Search` — the rounds of the search, from a directory to its result
- `Store.IsNearest` — the nearest file, by its distance and the position of its name

## Main results

- `Store.Search.unique`, `Store.search_findAbove` — the search ends, in one way only
- `Store.Search.isNearest`, `Store.Search.not_holds` — what a search that has ended has found
- `Store.findConfig_nearest` — which file is found, and when none is
-/

namespace Bindery

namespace Path

/-- The root is its own directory. -/
theorem directory_root : directory (text true []) = text true [] := by
  decide +kernel

namespace IsRooted

variable {path : String} {place : List String}

theorem clean_eq (h : IsRooted path place) : clean path = path := by
  rw [clean, h.isAbsolute_eq, h.names_eq, foldl_of_plain h.plain, List.append_nil, List.reverse_reverse]
  exact h.text_eq.symm

/-- The directory of a clean path is a clean path. -/
theorem directory (h : IsRooted path place) : IsRooted (directory path) place.dropLast := by
  rcases List.eq_nil_or_concat place with rfl | ⟨front, last, rfl⟩
  · rw [h.text_eq, directory_root]
    exact ⟨rfl, List.forall_mem_nil _⟩
  · rw [List.concat_eq_append] at h ⊢
    rw [List.dropLast_concat]
    exact ⟨h.directory_eq, fun n hn => h.plain n (List.mem_append_left _ hn)⟩

/-- A path below a clean path, which its points may lead out of again. -/
theorem join (h : IsRooted path place) (name : String) :
    IsRooted (join [path, name]) ((names name).foldl (step true) place.reverse).reverse := by
  by_cases hname : name = ""
  · subst hname
    have hjoin : Path.join [path, ""] = clean path := by
      rw [Path.join]
      simp [h.ne_empty]
    have hnone : names "" = [] := rfl
    rw [hjoin, h.clean_eq, hnone, List.foldl_nil, List.reverse_reverse]
    exact h
  · have habsolute : isAbsolute (path ++ "/" ++ name) = true :=
      isAbsolute_append (isAbsolute_append h.isAbsolute_eq _) _
    have hclean := isRooted_clean habsolute
    rw [names_append, h.names_eq, List.foldl_append, foldl_of_plain h.plain, List.append_nil] at hclean
    rw [join_pair h.ne_empty hname]
    exact hclean

end IsRooted

end Path

namespace Store

/-! ### Files under a name -/

/-- A directory holds a file under a name: what the name means from there on can be reached, and is a file. -/
def Holds (s : Store) (directory name : String) : Prop :=
  ∃ place last content, Path.IsRooted (Path.join [directory, name]) (place ++ [last]) ∧
    (∀ n ∈ place ++ [last], n.utf8ByteSize ≤ longestName) ∧
    s.root.look? (place ++ [last]) = some (.file content)

/-- What plain names are followed to is at their place. -/
theorem at?_of_follow {root : Node} {place names : List String} {r : List String × Node}
    (hplain : ∀ name ∈ names, Path.IsPlain name) (h : follow root place names = .ok r) :
    root.at? (place ++ names) = some r.2 ∧ ∀ name ∈ names, name.utf8ByteSize ≤ longestName := by
  induction names generalizing place with
  | nil =>
    rw [List.append_nil]
    rw [follow] at h
    split at h
    · next n hn =>
      obtain rfl := Except.ok.inj h
      exact ⟨hn, List.forall_mem_nil _⟩
    · cases h
  | cons name rest ih =>
    obtain ⟨hname, hrest⟩ := List.forall_mem_cons.mp hplain
    rw [follow] at h
    split at h
    · cases h
    · cases h
    · simp only [beq_iff_eq, hname.ne_here, hname.ne_up, if_false] at h
      split at h
      · cases h
      · next hshort =>
        split at h
        · obtain ⟨hat, hmore⟩ := ih hrest h
          rw [List.append_assoc, List.singleton_append] at hat
          exact ⟨hat, List.forall_mem_cons.mpr ⟨Nat.le_of_not_lt hshort, hmore⟩⟩
        · cases h

/-- A clean path leads to a file if its names do, and are not too long. -/
theorem hasFile_iff {s : Store} {path : String} {place : List String} (hpath : Path.IsRooted path place) :
    s.hasFile path = true ↔ ∃ front last content, place = front ++ [last] ∧
      (∀ n ∈ place, n.utf8ByteSize ≤ longestName) ∧ s.root.look? place = some (.file content) := by
  constructor
  · intro h
    unfold hasFile at h
    split at h
    · next n hfind =>
      rw [find_eq hpath] at hfind
      cases hfollow : follow s.root [] place with
      | error o =>
        rw [hfollow] at hfind
        cases hfind
      | ok r =>
        rw [hfollow] at hfind
        change (if (endsWithSlash path && !r.2.isDirectory) = true then _ else _) = _ at hfind
        split at hfind
        · cases hfind
        · next hslash =>
          obtain rfl := Except.ok.inj hfind
          obtain ⟨hat, hshort⟩ := at?_of_follow hpath.plain hfollow
          rw [List.nil_append] at hat
          rcases List.eq_nil_or_concat place with rfl | ⟨front, last, rfl⟩
          · -- only directories are found under a path with a slash at its end
            rw [hpath.text_eq] at hslash
            simp [h, endsWithSlash, Path.text] at hslash
          · rw [List.concat_eq_append] at hat hshort ⊢
            cases hnode : r.2 with
            | directory es => simp [hnode, Node.isDirectory] at h
            | file content =>
              refine ⟨front, last, content, rfl, hshort, ?_⟩
              rw [Node.look?, hat, hnode]
              rfl
    · cases h
  · rintro ⟨front, last, content, rfl, hshort, hlook⟩
    rw [hasFile, find_of_look? hpath hshort hlook]
    rfl

theorem holds_iff {s : Store} {directory : String} {place : List String}
    (h : Path.IsRooted directory place) (name : String) :
    s.Holds directory name ↔ s.hasFile (Path.join [directory, name]) = true := by
  rw [hasFile_iff (h.join name)]
  constructor
  · rintro ⟨front, last, content, hpath, hshort, hlook⟩
    have hplace := (h.join name).names_eq.symm.trans hpath.names_eq
    rw [hplace]
    exact ⟨front, last, content, rfl, hshort, hlook⟩
  · rintro ⟨front, last, content, hplace, hshort, hlook⟩
    have hpath := h.join name
    rw [hplace] at hpath hshort hlook
    exact ⟨front, last, content, hpath, hshort, hlook⟩

/-! ### The nearest file -/

/-- The nearest file under one of some names: it is in the directory that is `distance` steps above the start,
under the name at `position`. No directory in between has a file under any of the names, and its own directory
has none under an earlier name. -/
structure IsNearest (s : Store) (start : String) (names : List String) (distance position : ℕ)
    (name : String) : Prop where
  listed : names[position]? = some name
  held : s.Holds (Path.directory^[distance] start) name
  nearer : ∀ i < distance, ∀ other ∈ names, ¬s.Holds (Path.directory^[i] start) other
  earlier : ∀ j < position, ∀ other, names[j]? = some other →
    ¬s.Holds (Path.directory^[distance] start) other

namespace IsNearest

variable {s : Store} {start name other : String} {names : List String} {i j k l : ℕ}

theorem mem (h : s.IsNearest start names i j name) : name ∈ names :=
  List.mem_of_getElem? h.listed

/-- There is one nearest file at most. -/
theorem unique (h : s.IsNearest start names i j name) (h' : s.IsNearest start names k l other) :
    i = k ∧ j = l ∧ name = other := by
  obtain rfl : i = k := by
    by_contra hne
    rcases Nat.lt_or_gt_of_ne hne with hlt | hlt
    · exact h'.nearer i hlt name h.mem h.held
    · exact h.nearer k hlt other h'.mem h'.held
  obtain rfl : j = l := by
    by_contra hne
    rcases Nat.lt_or_gt_of_ne hne with hlt | hlt
    · exact h'.earlier j hlt name h.listed h.held
    · exact h.earlier l hlt other h'.listed h'.held
  exact ⟨rfl, rfl, Option.some.inj (h.listed.symm.trans h'.listed)⟩

/-- What is nearest to the directory above is nearest to a directory that holds nothing itself. -/
theorem up (hnone : ∀ other ∈ names, ¬s.Holds start other)
    (h : s.IsNearest (Path.directory start) names i j name) :
    s.IsNearest start names (i + 1) j name where
  listed := h.listed
  held := h.held
  nearer k hk := by
    cases k with
    | zero => exact hnone
    | succ k => exact h.nearer k (Nat.lt_of_succ_lt_succ hk)
  earlier := h.earlier

end IsNearest

section Round

variable {s : Store} {names : List String} {directory : String} {place : List String}
  (hdir : Path.IsRooted directory place)
include hdir

/-- A round ends the search with the first of the names under which the directory holds a file. -/
theorem exists_isNearest_of_fileIn? {path : String} (h : s.fileIn? names directory = some path) :
    ∃ position name, s.IsNearest directory names 0 position name ∧
      path = Path.join [directory, name] := by
  rw [fileIn?, List.find?_eq_some_iff_getElem] at h
  obtain ⟨hfile, position, hlength, hpath, hbefore⟩ := h
  rw [List.length_map] at hlength
  rw [List.getElem_map] at hpath
  subst hpath
  refine ⟨position, names[position], ⟨List.getElem?_eq_getElem hlength, (holds_iff hdir _).mpr hfile,
    fun i hi => absurd hi (Nat.not_lt_zero i), ?_⟩, rfl⟩
  intro j hj other hother hholds
  obtain ⟨hjlength, rfl⟩ := List.getElem?_eq_some_iff.mp hother
  have hnot := hbefore j hj
  rw [List.getElem_map, (holds_iff hdir _).mp hholds] at hnot
  cases hnot

/-- A round that finds nothing was in a directory that holds nothing. -/
theorem not_holds_of_fileIn? (h : s.fileIn? names directory = none) :
    ∀ name ∈ names, ¬s.Holds directory name := by
  intro name hname hholds
  rw [fileIn?, List.find?_eq_none] at h
  exact h _ (List.mem_map_of_mem hname) ((holds_iff hdir name).mp hholds)

end Round

/-! ### The rounds of the search -/

/-- The search from a directory on, with the number of its rounds and its result. A round looks for the names in
a directory; if there is none, the next round is in the directory above, unless that is the same one. -/
inductive Search (s : Store) (names : List String) : String → ℕ → Except FindError String → Prop
  | found {directory path : String} (here : s.fileIn? names directory = some path) :
      Search s names directory 1 (.ok path)
  | top {directory : String} (none : s.fileIn? names directory = none)
      (same : Path.directory directory = directory) : Search s names directory 1 (.error ⟨names⟩)
  | up {directory : String} {rounds : ℕ} {result : Except FindError String}
      (none : s.fileIn? names directory = none) (other : Path.directory directory ≠ directory)
      (above : Search s names (Path.directory directory) rounds result) :
      Search s names directory (rounds + 1) result

namespace Search

variable {s : Store} {names place : List String} {directory : String} {rounds rounds' : ℕ}
  {result result' : Except FindError String}

/-- A search goes one way only. -/
theorem unique (h : s.Search names directory rounds result)
    (h' : s.Search names directory rounds' result') : result = result' := by
  induction h generalizing rounds' with
  | found here =>
    cases h' with
    | found here' => rw [Option.some.inj (here.symm.trans here')]
    | top none' | up none' => cases here.symm.trans none'
  | top none same =>
    cases h' with
    | found here' => cases none.symm.trans here'
    | top => rfl
    | up _ other' => exact absurd same other'
  | up none other _ ih =>
    cases h' with
    | found here' => cases none.symm.trans here'
    | top _ same' => exact absurd same' other
    | up _ _ above' => exact ih above'

/-- A search that has found a file has found the nearest one. -/
theorem isNearest (h : s.Search names directory rounds result) (hdir : Path.IsRooted directory place)
    {path : String} (hresult : result = .ok path) :
    ∃ distance position name, s.IsNearest directory names distance position name ∧
      path = Path.join [Path.directory^[distance] directory, name] := by
  induction h generalizing place with
  | found here =>
    obtain rfl := Except.ok.inj hresult
    obtain ⟨position, name, hnearest, hpath⟩ := exists_isNearest_of_fileIn? hdir here
    exact ⟨0, position, name, hnearest, hpath⟩
  | top => cases hresult
  | up none _ _ ih =>
    obtain ⟨distance, position, name, hnearest, hpath⟩ := ih hdir.directory hresult
    exact ⟨distance + 1, position, name, hnearest.up (not_holds_of_fileIn? hdir none), hpath⟩

/-- A search that has found nothing has seen every directory above its start. -/
theorem not_holds (h : s.Search names directory rounds result) (hdir : Path.IsRooted directory place)
    {e : FindError} (hresult : result = .error e) (distance : ℕ) :
    ∀ name ∈ names, ¬s.Holds (Path.directory^[distance] directory) name := by
  induction h generalizing place distance with
  | found => cases hresult
  | top none same =>
    rw [Function.iterate_fixed same]
    exact not_holds_of_fileIn? hdir none
  | up none _ _ ih =>
    cases distance with
    | zero => exact not_holds_of_fileIn? hdir none
    | succ distance => exact ih hdir.directory hresult distance

end Search

/-- The result of looking into the directories of names, from the longest one on. -/
def findAbove (s : Store) (names reversed : List String) : Except FindError String :=
  match ((ancestors reversed).map fun ns => Path.text true ns.reverse).findSome? (s.fileIn? names) with
  | some path => .ok path
  | none => .error ⟨names⟩

theorem findConfig_eq (s : Store) {start : String} {place : List String}
    (h : Path.IsRooted start place) (names : List String) :
    s.findConfig start names = s.findAbove names place.reverse := by
  have habsolute : s.absolute start = start := by
    rw [absolute, Path.absolute, if_pos h.isAbsolute_eq, h.clean_eq]
  rw [findConfig, habsolute, h.names_eq]
  rfl

theorem findAbove_nil (s : Store) (names : List String) :
    s.findAbove names [] =
      (s.fileIn? names (Path.text true [])).elim (.error ⟨names⟩) .ok := by
  rw [findAbove, ancestors, List.map_singleton, List.reverse_nil]
  cases hfile : s.fileIn? names (Path.text true []) <;> simp only [List.findSome?_cons, hfile] <;> rfl

theorem findAbove_cons (s : Store) (names rest : List String) (name : String) :
    s.findAbove names (name :: rest) =
      (s.fileIn? names (Path.text true (name :: rest).reverse)).elim (s.findAbove names rest) .ok := by
  rw [findAbove, ancestors, List.map_cons]
  cases hfile : s.fileIn? names (Path.text true (name :: rest).reverse) <;>
    simp only [List.findSome?_cons, hfile] <;> rfl

/-- The search ends after no more rounds than there are directories above its start. -/
theorem search_findAbove (s : Store) (names : List String) {reversed : List String}
    (hplain : ∀ n ∈ reversed, Path.IsPlain n) :
    ∃ rounds ≤ reversed.length + 1,
      s.Search names (Path.text true reversed.reverse) rounds (s.findAbove names reversed) := by
  induction reversed with
  | nil =>
    refine ⟨1, le_rfl, ?_⟩
    rw [findAbove_nil, List.reverse_nil]
    cases hfile : s.fileIn? names (Path.text true []) with
    | some path => exact .found hfile
    | none => exact .top hfile Path.directory_root
  | cons name rest ih =>
    obtain ⟨-, hrest⟩ := List.forall_mem_cons.mp hplain
    obtain ⟨rounds, hrounds, hsearch⟩ := ih hrest
    rw [findAbove_cons]
    have hpath : Path.IsRooted (Path.text true (name :: rest).reverse) (rest.reverse ++ [name]) :=
      ⟨by rw [List.reverse_cons], fun n hn => hplain n (by simpa [or_comm] using hn)⟩
    generalize Path.text true (name :: rest).reverse = directory at hpath ⊢
    cases hfile : s.fileIn? names directory with
    | some path => exact ⟨1, by omega, .found hfile⟩
    | none =>
      have hother : Path.directory directory ≠ directory := by
        intro hsame
        have hnames := congrArg (List.length ∘ Path.names) hsame
        simp [hpath.names_directory, hpath.names_eq] at hnames
      refine ⟨rounds + 1, Nat.succ_le_succ hrounds, .up hfile hother ?_⟩
      rw [hpath.directory_eq]
      exact hsearch

/-- From a clean path from the root on, the search goes one way and ends, after no more rounds than there are
directories to look into. What it finds is the nearest file under one of the names, and it finds nothing exactly
if neither the start nor any directory above it holds a file under one of them. -/
theorem findConfig_nearest (s : Store) {start : String} (habsolute : Path.isAbsolute start = true)
    (hclean : Path.clean start = start) (names : List String) :
    (∃ rounds ≤ (Path.names start).length + 1,
      s.Search names start rounds (s.findConfig start names)) ∧
    (∀ rounds result, s.Search names start rounds result → result = s.findConfig start names) ∧
    (∀ path, s.findConfig start names = .ok path ↔
      ∃ distance position name, s.IsNearest start names distance position name ∧
        path = Path.join [Path.directory^[distance] start, name]) ∧
    ((∃ e, s.findConfig start names = .error e) ↔
      ∀ distance, ∀ name ∈ names, ¬s.Holds (Path.directory^[distance] start) name) := by
  have hclean' := Path.isRooted_clean habsolute
  rw [hclean] at hclean'
  obtain ⟨place, hstart⟩ : ∃ place, Path.IsRooted start place := ⟨_, hclean'⟩
  obtain ⟨rounds, hrounds, hsearch⟩ : ∃ rounds ≤ (Path.names start).length + 1,
      s.Search names start rounds (s.findConfig start names) := by
    have hplain : ∀ n ∈ place.reverse, Path.IsPlain n := fun n hn =>
      hstart.plain n (List.mem_reverse.mp hn)
    have h := s.search_findAbove names hplain
    rwa [List.length_reverse, List.reverse_reverse, ← hstart.text_eq, ← findConfig_eq s hstart,
      ← hstart.names_eq] at h
  refine ⟨⟨rounds, hrounds, hsearch⟩, fun _ _ h => h.unique hsearch,
    fun path => ⟨hsearch.isNearest hstart, ?_⟩, ?_, ?_⟩
  · rintro ⟨distance, position, name, hnearest, rfl⟩
    cases hresult : s.findConfig start names with
    | error e =>
      exact absurd hnearest.held (hsearch.not_holds hstart hresult distance name hnearest.mem)
    | ok path =>
      obtain ⟨distance', position', name', hnearest', rfl⟩ := hsearch.isNearest hstart hresult
      obtain ⟨rfl, -, rfl⟩ := hnearest.unique hnearest'
      rfl
  · rintro ⟨e, he⟩
    exact hsearch.not_holds hstart he
  · intro hnone
    cases hresult : s.findConfig start names with
    | error e => exact ⟨e, rfl⟩
    | ok path =>
      obtain ⟨distance, position, name, hnearest, -⟩ := hsearch.isNearest hstart hresult
      exact absurd hnearest.held (hnone distance name hnearest.mem)

/-- A project in which the first name is that of a directory, and the file is one level up. -/
def nestedStore : Store where
  root := .directory [("shop", .directory
    [("gqlbuilder.yml", .file []), ("api", .directory [(".gqlbuilder.yml", .directory [])])])]
  current := []

theorem findConfig_nestedStore :
    nestedStore.findConfig "/shop/api" [".gqlbuilder.yml", "gqlbuilder.yml"] =
      .ok "/shop/gqlbuilder.yml" := by
  have habsolute : Path.isAbsolute "/shop/api" = true := by decide +kernel
  have hclean : Path.clean "/shop/api" = "/shop/api" := by decide +kernel
  obtain ⟨-, -, hfound, -⟩ :=
    nestedStore.findConfig_nearest habsolute hclean [".gqlbuilder.yml", "gqlbuilder.yml"]
  have hapi : Path.IsRooted "/shop/api" ["shop", "api"] := by
    refine ⟨by decide +kernel, ?_⟩
    simp only [List.forall_mem_cons, List.not_mem_nil, false_implies, implies_true, and_true]
    exact ⟨⟨by decide, by decide, by decide, by decide⟩, ⟨by decide, by decide, by decide, by decide⟩⟩
  have hshop := hapi.directory
  refine (hfound _).mpr ⟨1, 1, "gqlbuilder.yml", ⟨rfl, ?_, ?_, ?_⟩, by decide +kernel⟩
  · exact (holds_iff hshop _).mpr (by decide +kernel)
  · intro i hi other hother
    obtain rfl : i = 0 := Nat.lt_one_iff.mp hi
    rw [Function.iterate_zero_apply, holds_iff hapi]
    -- the directory of the first name is no file, and there is nothing under the second one
    simp only [List.mem_cons, List.not_mem_nil, or_false] at hother
    rcases hother with rfl | rfl <;> decide +kernel
  · intro j hj other hother
    obtain rfl : j = 0 := Nat.lt_one_iff.mp hj
    obtain rfl := Option.some.inj hother
    rw [Function.iterate_one, holds_iff hshop]
    decide +kernel

end Store

end Bindery
