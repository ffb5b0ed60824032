import Bindery.Files.Walk
import Bindery.Files.Wildcard
import Bindery.Proofs.Files.Path

/-!
# Relative paths

A relative path with a point and a slash before it leads to the same place, lists the same names and has
the same clean form. Clean paths do not begin with a point and a slash themselves, and neither do the
paths of the files below a directory.

## Main definitions

- `Path.IsRelative` — a path that begins in the present directory
- `Path.IsTrimmed` — such a path that does not begin with a point and a slash

## Main results

- `Path.clean_dotSlash`, `Store.find_dotSlash` — a point and a slash before a path
- `Node.isTrimmed_of_mem_directory` — the paths of the files below a directory
- `Store.glob_dotSlash`, `Store.glob_dotSlash_plain` — a point and a slash before a pattern, with and
  without wildcards
-/

namespace Bindery

namespace Path

variable {path : String}

/-- A path that begins in the present directory. -/
structure IsRelative (path : String) : Prop where
  ne_empty : path ≠ ""
  not_absolute : isAbsolute path = false

theorem isRelative_iff : IsRelative path ↔ ∃ c cs, path.toList = c :: cs ∧ c ≠ '/' := by
  constructor
  · rintro ⟨hne, habsolute⟩
    obtain ⟨c, cs, hpath⟩ := List.exists_cons_of_ne_nil fun hnil => hne (String.toList_eq_nil_iff.mp hnil)
    rw [isAbsolute, hpath] at habsolute
    exact ⟨c, cs, hpath, by simpa using habsolute⟩
  · rintro ⟨c, cs, hpath, hc⟩
    refine ⟨fun hempty => ?_, ?_⟩
    · rw [hempty] at hpath
      cases hpath
    · rw [isAbsolute, hpath]
      simpa using hc

theorem toList_dotSlash (path : String) : ("./" ++ path).toList = '.' :: '/' :: path.toList := by
  simp

theorem ofList_dotSlash (cs : List Char) : String.ofList ('.' :: '/' :: cs) = "./" ++ String.ofList cs := by
  rw [← String.toList_inj, toList_dotSlash, String.toList_ofList, String.toList_ofList]

theorem isRelative_dotSlash (path : String) : IsRelative ("./" ++ path) :=
  isRelative_iff.mpr ⟨'.', '/' :: path.toList, toList_dotSlash path, by decide⟩

theorem IsRelative.append (h : IsRelative path) (more : String) : IsRelative (path ++ more) := by
  obtain ⟨c, cs, hpath, hc⟩ := isRelative_iff.mp h
  exact isRelative_iff.mpr ⟨c, cs ++ more.toList, by simp [hpath], hc⟩

theorem IsRelative.names_ne_nil (h : IsRelative path) : names path ≠ [] := by
  obtain ⟨c, cs, hpath, hc⟩ := isRelative_iff.mp h
  rw [names_eq, hpath, parts, List.splitOn_cons_eq_if_modifyHead, if_neg (by simpa using hc)]
  cases hparts : cs.splitOn '/' with
  | nil => exact absurd hparts (List.splitOn_ne_nil _ _)
  | cons first more => simp

/-! ### Clean paths -/

theorem names_dotSlash (path : String) : names ("./" ++ path) = "." :: names path :=
  names_append "." path

theorem isAbsolute_dotSlash (path : String) : isAbsolute ("./" ++ path) = false :=
  (isRelative_dotSlash path).not_absolute

/-- A point and a slash are lost when a path is cleaned. -/
theorem clean_dotSlash (h : isAbsolute path = false) : clean ("./" ++ path) = clean path := by
  rw [clean, clean, h, isAbsolute_dotSlash, names_dotSlash, List.foldl_cons]
  rfl

/-- A name that can stand in a clean path. -/
structure IsName (name : String) : Prop where
  ne_empty : name ≠ ""
  no_slash : '/' ∉ name.toList
  ne_here : name ≠ "."

theorem isName_of_mem_step {reversed : List String} {name : String} (h : ∀ n ∈ reversed, IsName n)
    (hne : name ≠ "") (hslash : '/' ∉ name.toList) {rooted : Bool} :
    ∀ n ∈ step rooted reversed name, IsName n := by
  have hup : IsName ".." := ⟨by decide, by decide, by decide⟩
  intro n hn
  unfold step at hn
  split at hn
  · exact h n hn
  · split at hn
    · cases hn
    · exact List.mem_singleton.mp hn ▸ hup
  · rcases List.mem_cons.mp hn with rfl | hn
    · exact hup
    · exact h n hn
  · exact h n (List.mem_cons_of_mem _ hn)
  · next hhere _ _ _ =>
    rcases List.mem_cons.mp hn with rfl | hn
    · exact ⟨hne, hslash, hhere⟩
    · exact h n hn

theorem isName_of_mem_foldl {names reversed : List String} {rooted : Bool}
    (hnames : ∀ n ∈ names, n ≠ "" ∧ '/' ∉ n.toList) (h : ∀ n ∈ reversed, IsName n) :
    ∀ n ∈ names.foldl (step rooted) reversed, IsName n := by
  induction names generalizing reversed with
  | nil => exact h
  | cons name names ih =>
    obtain ⟨hne, hslash⟩ := hnames name List.mem_cons_self
    exact ih (fun n hn => hnames n (List.mem_cons_of_mem _ hn)) (isName_of_mem_step h hne hslash)

/-- A relative path that does not begin with a point and a slash. -/
structure IsTrimmed (path : String) : Prop extends IsRelative path where
  no_point : ¬ ['.', '/'] <+: path.toList

theorem isTrimmed_text {names : List String} (h : ∀ n ∈ names, IsName n) :
    IsTrimmed (text false names) := by
  cases names with
  | nil => exact ⟨⟨by decide, by decide⟩, by decide⟩
  | cons name names =>
    have hname := h name List.mem_cons_self
    obtain ⟨c, cs, hchars⟩ :=
      List.exists_cons_of_ne_nil fun hnil => hname.ne_empty (String.toList_eq_nil_iff.mp hnil)
    obtain ⟨tail, htail⟩ : ∃ tail, (String.intercalate "/" (name :: names)).toList = c :: (cs ++ tail) := by
      cases names with
      | nil => exact ⟨[], by simp [hchars]⟩
      | cons next names =>
        refine ⟨'/' :: (String.intercalate "/" (next :: names)).toList, ?_⟩
        rw [String.intercalate_cons_cons]
        simp [hchars]
    have hne : String.intercalate "/" (name :: names) ≠ "" := by
      intro hempty
      rw [hempty] at htail
      cases htail
    have htext : text false (name :: names) = String.intercalate "/" (name :: names) := by
      rw [text]
      simp [hne]
    have hc : c ≠ '/' := fun hc => hname.no_slash (by simp [hchars, hc])
    refine ⟨isRelative_iff.mpr ⟨c, cs ++ tail, by rw [htext, htail], hc⟩, ?_⟩
    -- A name without a slash that begins in this way is the point alone.
    rw [htext, htail]
    intro hlead
    obtain ⟨rfl, hrest⟩ := List.cons_prefix_cons.mp hlead
    cases cs with
    | nil =>
      apply hname.ne_here
      rw [← String.toList_inj, hchars]
      rfl
    | cons d cs =>
      obtain ⟨rfl, -⟩ := List.cons_prefix_cons.mp (List.cons_append ▸ hrest)
      exact hname.no_slash (by simp [hchars])

theorem IsRelative.isTrimmed_clean (h : IsRelative path) : IsTrimmed (clean path) := by
  rw [clean, h.not_absolute]
  refine isTrimmed_text fun n hn => ?_
  refine isName_of_mem_foldl (fun m hm => ⟨names_ne_empty hm, names_no_slash hm⟩) ?_ n
    (List.mem_reverse.mp hn)
  simp

/-! ### Paths one after another -/

theorem IsRelative.join_eq (h : IsRelative path) (name : String) :
    join [path, name] = clean (if name = "" then path else path ++ "/" ++ name) := by
  by_cases hname : name = ""
  · simp [join, h.ne_empty, hname]
  · simp [join, h.ne_empty, hname]

theorem IsRelative.isTrimmed_join (h : IsRelative path) (name : String) :
    IsTrimmed (join [path, name]) := by
  rw [h.join_eq]
  split
  · exact h.isTrimmed_clean
  · exact ((h.append "/").append name).isTrimmed_clean

theorem IsRelative.join_dotSlash (h : IsRelative path) (name : String) :
    join ["./" ++ path, name] = join [path, name] := by
  rw [h.join_eq, (isRelative_dotSlash path).join_eq]
  split
  · exact clean_dotSlash h.not_absolute
  · rw [String.append_assoc, String.append_assoc, clean_dotSlash]
    · rw [String.append_assoc]
    · exact (h.append _).not_absolute

/-! ### The directory before the last name -/

theorem split_dotSlash (path : String) :
    split ("./" ++ path) = ("./" ++ (split path).1, (split path).2) := by
  have hreversed : ("./" ++ path).toList.reverse = path.toList.reverse ++ ['/', '.'] := by simp
  have hdrop : (path.toList.reverse ++ ['/', '.']).dropWhile (· != '/') =
      path.toList.reverse.dropWhile (· != '/') ++ ['/', '.'] := by
    rw [List.dropWhile_append]
    split
    · next hempty =>
      rw [List.isEmpty_iff.mp hempty]
      rfl
    · rfl
  have htake : (path.toList.reverse ++ ['/', '.']).takeWhile (· != '/') =
      path.toList.reverse.takeWhile (· != '/') := by
    rw [List.takeWhile_append]
    split
    · next hall =>
      rw [(List.takeWhile_prefix _).eq_of_length hall]
      simp
    · rfl
  rw [split, split, hreversed, hdrop, htake]
  simp
  rfl

/-- A relative path is a name alone, or a relative path before a slash and a name. -/
theorem IsRelative.split_cases (h : IsRelative path) :
    (split path).1 = "" ∨ ∃ front, IsRelative front ∧ (split path).1 = front ++ "/" := by
  obtain ⟨c, cs, hpath, hc⟩ := isRelative_iff.mp h
  have hsuffix := List.dropWhile_suffix (l := path.toList.reverse) (· != '/')
  unfold split
  dsimp only
  cases hfront : path.toList.reverse.dropWhile (· != '/') with
  | nil => exact .inl rfl
  | cons d rest =>
    have hd : d = '/' := by
      have hhead := List.head?_dropWhile_not (· != '/') path.toList.reverse
      rw [hfront] at hhead
      simpa using hhead
    subst hd
    rw [hfront, ← List.reverse_prefix, List.reverse_reverse, List.reverse_cons, hpath] at hsuffix
    refine .inr ⟨String.ofList rest.reverse, isRelative_iff.mpr ?_, by simp⟩
    rw [String.toList_ofList]
    cases hrest : rest.reverse with
    | nil =>
      rw [hrest] at hsuffix
      exact absurd (List.cons_prefix_cons.mp hsuffix).1.symm hc
    | cons e es =>
      rw [hrest] at hsuffix
      obtain ⟨rfl, -⟩ := List.cons_prefix_cons.mp hsuffix
      exact ⟨e, es, rfl, hc⟩

end Path

/-! ### Following and listing a path -/

namespace Store

variable {path : String}

theorem follow_here (root : Node) (place : List String) {names : List String} (h : names ≠ []) :
    follow root place ("." :: names) = follow root place names := by
  obtain ⟨name, rest, rfl⟩ := List.exists_cons_of_ne_nil h
  rw [follow]
  split
  · next hplace => rw [follow, hplace]
  · next hplace => rw [follow, hplace]
  · exact if_pos rfl

theorem endsWithSlash_dotSlash (h : path ≠ "") : endsWithSlash ("./" ++ path) = endsWithSlash path := by
  have hne : path.toList ≠ [] := fun hnil => h (String.toList_eq_nil_iff.mp hnil)
  rw [endsWithSlash, endsWithSlash, String.toList_append, List.getLast?_append_of_ne_nil _ hne]

/-- A point and a slash before a relative path do not change what it leads to. -/
theorem find_dotSlash (s : Store) (h : Path.IsRelative path) : s.find ("./" ++ path) = s.find path := by
  have hne : ("./" ++ path) ≠ "" := (Path.isRelative_dotSlash path).ne_empty
  unfold find
  rw [Path.names_dotSlash, endsWithSlash_dotSlash h.ne_empty, Path.isAbsolute_dotSlash, h.not_absolute]
  simp only [hne, h.ne_empty, beq_iff_eq, if_false, follow_here _ _ h.names_ne_nil]

theorem list_dotSlash (s : Store) (h : Path.IsRelative path) : s.list ("./" ++ path) = s.list path := by
  rw [list, list, s.find_dotSlash h]

end Store

/-! ### Files below a path -/

namespace Node

/-- The files below a trimmed path, or below the entries of a directory at a relative one, have trimmed
paths. -/
theorem isTrimmed_of_mem (fuel : Nat) :
    (∀ path n, Path.IsTrimmed path → ∀ file ∈ filesBelow path fuel n, Path.IsTrimmed file) ∧
      ∀ path es, Path.IsRelative path → ∀ file ∈ filesOf path fuel es, Path.IsTrimmed file := by
  induction fuel with
  | zero => simp [filesBelow, filesOf]
  | succ fuel ih =>
    obtain ⟨hbelow, hof⟩ := ih
    refine ⟨fun path n h file hfile => ?_, fun path es h file hfile => ?_⟩
    · cases n with
      | file content =>
        rw [filesBelow, List.mem_singleton] at hfile
        exact hfile ▸ h
      | directory es =>
        rw [filesBelow] at hfile
        exact hof path _ h.toIsRelative file hfile
    · induction es with
      | nil => simp [filesOf] at hfile
      | cons e es ihes =>
        rw [filesOf, List.mem_append] at hfile
        rcases hfile with hfile | hfile
        · exact hbelow _ e.2 (h.isTrimmed_join e.1) file hfile
        · exact ihes hfile

theorem isTrimmed_of_mem_directory {path file : String} {fuel : Nat} {es : List (String × Node)}
    (h : Path.IsRelative path) (hfile : file ∈ (directory es).filesBelow path fuel) :
    Path.IsTrimmed file := by
  cases fuel with
  | zero => simp [filesBelow] at hfile
  | succ fuel =>
    rw [filesBelow] at hfile
    exact (isTrimmed_of_mem fuel).2 path _ h file hfile

end Node

/-! ### Patterns with wildcards -/

theorem Wildcard.parts?_dotSlash (cs : List Char) :
    Wildcard.parts? ('.' :: '/' :: cs) =
      (Wildcard.parts? cs).map fun ws => .char '.' :: .char '/' :: ws := by
  rw [Wildcard.parts?, Wildcard.parts?, List.length_cons, List.length_cons, Wildcard.partsFrom?,
    Wildcard.partsFrom?, Option.map_map]
  · rfl
  all_goals simp

namespace PatternSection

theorem cutStar_dotSlash (cs : List Char) :
    cutStar false ('.' :: '/' :: cs) = ('.' :: '/' :: (cutStar false cs).1, (cutStar false cs).2) := by
  simp [cutStar]

/-- A pattern that can be compared with the empty name is well-formed up to its first star. -/
theorem exists_parts_of_fits? {pattern : String} {b : Bool} (h : fits? (ofPattern pattern) [] = some b) :
    ∃ ws, Wildcard.parts? (cutStar false pattern.toList).1 = some ws := by
  unfold ofPattern at h
  rw [← String.length_toList] at h
  cases hchars : pattern.toList with
  | nil => exact ⟨[], rfl⟩
  | cons c cs =>
    by_cases hc : c = '*'
    · subst hc
      exact ⟨[], rfl⟩
    · rw [hchars, List.length_cons, ofChars, List.dropWhile_cons_of_neg (by simpa using hc), fits?] at h
      · cases hparts : Wildcard.parts? (cutStar false (c :: cs)).1 with
        | some ws => exact ⟨ws, rfl⟩
        | none =>
          rw [hparts] at h
          cases h
      · simp

/-- With a point and a slash before it, a pattern does not fit the empty name, and has no fault that it
had not before. -/
theorem fits?_dotSlash {pattern : String} {b : Bool} (h : fits? (ofPattern pattern) [] = some b) :
    fits? (ofPattern ("./" ++ pattern)) [] = some false := by
  obtain ⟨ws, hws⟩ := exists_parts_of_fits? h
  have hchars := Path.toList_dotSlash pattern
  have hlength : ("./" ++ pattern).length = pattern.length + 1 + 1 := by
    rw [← String.length_toList, hchars, List.length_cons, List.length_cons, String.length_toList]
  rw [ofPattern, hchars, hlength, ofChars, List.dropWhile_cons_of_neg (by decide), cutStar_dotSlash]
  · dsimp only
    rw [Wildcard.parts?_dotSlash, hws, fits?]
    rfl
  · simp

end PatternSection

theorem hasWildcard_dotSlash (path : String) : hasWildcard ("./" ++ path) = hasWildcard path := by
  simp [hasWildcard]

theorem patternDirectory_append {front : String} (h : Path.IsRelative front) :
    patternDirectory (front ++ "/") = front := by
  obtain ⟨c, cs, hfront, hc⟩ := Path.isRelative_iff.mp h
  have hslash : front ++ "/" ≠ "/" := by
    intro heq
    rw [← String.toList_inj, String.toList_append, hfront] at heq
    exact hc (List.cons.inj heq).1
  rw [patternDirectory, if_neg (by simp), if_neg (by simpa using hslash)]
  simp

namespace Store

variable {pattern : String}

theorem globIn_dotSlash (s : Store) {directory : String} (h : Path.IsRelative directory) :
    s.globIn ("./" ++ directory) pattern = s.globIn directory pattern := by
  unfold globIn
  simp only [s.list_dotSlash h, h.join_dotSlash]

theorem globFrom_dotSlash (s : Store) (hpattern : Path.IsRelative pattern) (hwild : hasWildcard pattern)
    {n m : Nat} (hle : n ≤ m) {found : List String} (h : s.globFrom n pattern = some found) :
    s.globFrom m ("./" ++ pattern) = some found := by
  induction n generalizing m pattern found with
  | zero => simp [globFrom] at h
  | succ n ih =>
    cases m with
    | zero => omega
    | succ m =>
      rw [globFrom] at h ⊢
      obtain ⟨b, hfits, h⟩ := Option.bind_eq_some_iff.mp h
      rw [PatternSection.fits?_dotSlash hfits, hasWildcard_dotSlash, if_pos hwild, Path.split_dotSlash]
      rw [if_pos hwild] at h
      dsimp only at h ⊢
      -- a name alone is looked for in the present directory, with and without the point
      rcases hpattern.split_cases with hempty | ⟨front, hfront, heq⟩
      · rw [hempty] at h ⊢
        exact h
      · rw [heq, patternDirectory_append hfront] at h
        rw [heq, ← String.append_assoc, patternDirectory_append (Path.isRelative_dotSlash front),
          hasWildcard_dotSlash]
        by_cases hup : hasWildcard front = true
        · rw [if_pos hup] at h ⊢
          obtain ⟨directories, hdirectories, h⟩ := Option.bind_eq_some_iff.mp h
          rw [ih hfront hup (Nat.le_of_succ_le_succ hle) hdirectories]
          exact h
        · rw [if_neg hup] at h ⊢
          rw [s.globIn_dotSlash hfront]
          exact h

/-- A point and a slash before a pattern do not change the paths that fit it, if it has a wildcard. -/
theorem glob_dotSlash (s : Store) (hpattern : Path.IsRelative pattern) (hwild : hasWildcard pattern)
    {found : List String} (h : s.glob pattern = some found) : s.glob ("./" ++ pattern) = some found := by
  refine s.globFrom_dotSlash hpattern hwild ?_ h
  rw [String.length_append]
  omega

/-- Without a wildcard, the pattern itself is the only path that can fit it. -/
theorem glob_dotSlash_plain (s : Store) (hpattern : Path.IsRelative pattern)
    (hplain : hasWildcard pattern = false) {found : List String} (h : s.glob pattern = some found)
    (hfound : found ≠ []) : found = [pattern] ∧ s.glob ("./" ++ pattern) = some ["./" ++ pattern] := by
  rw [glob, globFrom] at h ⊢
  obtain ⟨b, hfits, h⟩ := Option.bind_eq_some_iff.mp h
  rw [PatternSection.fits?_dotSlash hfits, hasWildcard_dotSlash, hplain, s.find_dotSlash hpattern]
  rw [hplain] at h
  cases hfind : s.find pattern with
  | ok n =>
    rw [hfind] at h
    cases h
    exact ⟨rfl, rfl⟩
  | error e =>
    rw [hfind] at h
    cases h
    exact absurd rfl hfound

end Store

end Bindery
