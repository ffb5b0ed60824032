import Bindery.Files.Store
import Mathlib.Data.List.Infix
import Mathlib.Tactic.ByContra

/-!
# Paths from the root on

A clean path from the root on is the text of plain names: none of them is empty, has a slash in it, or moves
up or nowhere. Its names, its directory and its last name are read off that list.

## Main definitions

- `Path.IsPlain` — a name that names something
- `Path.IsRooted` — the clean path of plain names

## Main results

- `Path.IsRooted.names_eq` — the names of the path
- `Path.IsRooted.names_directory`, `Path.IsRooted.base_eq` — its directory and its last name
- `Store.isRooted_absolute` — a path that ends in the name of a file leads to that file from the root on
-/

namespace Bindery

namespace Path

/-- A name that names something in a directory. -/
structure IsPlain (name : String) : Prop where
  ne_empty : name ≠ ""
  no_slash : '/' ∉ name.toList
  ne_here : name ≠ "."
  ne_up : name ≠ ".."

/-! ### The names in a text -/

/-- The parts of characters between slashes that are not empty. -/
def parts (cs : List Char) : List (List Char) :=
  (cs.splitOn '/').filter (!·.isEmpty)

theorem names_eq (path : String) : names path = (parts path.toList).map String.ofList :=
  rfl

theorem parts_append (cs ds : List Char) : parts (cs ++ '/' :: ds) = parts cs ++ parts ds := by
  rw [parts, List.splitOn_append_cons_self, List.filter_append]
  rfl

theorem parts_nil : parts [] = [] :=
  rfl

theorem parts_of_not_mem {cs : List Char} (h : '/' ∉ cs) (hne : cs ≠ []) : parts cs = [cs] := by
  rw [parts, List.splitOn_eq_singleton h]
  cases cs with
  | nil => exact absurd rfl hne
  | cons c cs => rfl

theorem not_mem_of_mem_splitOn {cs part : List Char} (h : part ∈ cs.splitOn '/') : '/' ∉ part := by
  induction cs generalizing part with
  | nil =>
    rw [List.splitOn_nil, List.mem_singleton] at h
    simp [h]
  | cons c cs ih =>
    rw [List.splitOn_cons_eq_if_modifyHead] at h
    by_cases hc : (c == '/') = true
    · rw [if_pos hc] at h
      rcases List.mem_cons.mp h with rfl | h
      · simp
      · exact ih h
    · rw [if_neg hc] at h
      cases hparts : cs.splitOn '/' with
      | nil => exact absurd hparts (List.splitOn_ne_nil _ _)
      | cons first more =>
        rw [hparts, List.modifyHead_cons] at h
        rcases List.mem_cons.mp h with rfl | h
        · have hfirst : '/' ∉ first := ih (by rw [hparts]; exact List.mem_cons_self)
          rw [List.mem_cons, not_or]
          exact ⟨fun heq => hc (by simp [← heq]), hfirst⟩
        · exact ih (by rw [hparts]; exact List.mem_cons_of_mem _ h)

theorem names_ne_empty {path name : String} (h : name ∈ names path) : name ≠ "" := by
  obtain ⟨part, hpart, rfl⟩ := List.mem_map.mp h
  have hne := (List.mem_filter.mp hpart).2
  intro heq
  rw [String.ofList_eq_empty_iff] at heq
  simp [heq] at hne

theorem names_no_slash {path name : String} (h : name ∈ names path) : '/' ∉ name.toList := by
  obtain ⟨part, hpart, rfl⟩ := List.mem_map.mp h
  rw [String.toList_ofList]
  exact not_mem_of_mem_splitOn (List.mem_filter.mp hpart).1

/-! ### Clean paths -/

theorem step_of_plain {name : String} (h : IsPlain name) (rooted : Bool) (reversed : List String) :
    step rooted reversed name = name :: reversed := by
  unfold step
  split
  · exact absurd rfl h.ne_here
  · exact absurd rfl h.ne_up
  · exact absurd rfl h.ne_up
  · exact absurd rfl h.ne_up
  · rfl

/-- A name after plain names leaves plain names. -/
theorem plain_step {reversed : List String} (h : ∀ n ∈ reversed, IsPlain n) {name : String}
    (hne : name ≠ "") (hslash : '/' ∉ name.toList) : ∀ n ∈ step true reversed name, IsPlain n := by
  by_cases hhere : name = "."
  · subst hhere
    cases reversed <;> exact h
  · by_cases hup : name = ".."
    · subst hup
      cases reversed with
      | nil => simp [step]
      | cons last before =>
        have hlast : last ≠ ".." := (h last List.mem_cons_self).ne_up
        have hstep : step true (last :: before) ".." = before := by
          unfold step
          split
          · exact absurd ‹_› (by decide)
          · cases ‹last :: before = []›
          · next heq => exact absurd (List.cons.inj heq).1 hlast
          · next heq => exact (List.cons.inj heq).2.symm
          · next hnot => exact absurd rfl (hnot last before rfl)
        rw [hstep]
        exact fun n hn => h n (List.mem_cons_of_mem _ hn)
    · have hplain : IsPlain name := ⟨hne, hslash, hhere, hup⟩
      rw [step_of_plain hplain]
      intro n hn
      rcases List.mem_cons.mp hn with rfl | hn
      · exact hplain
      · exact h n hn

theorem plain_foldl {names reversed : List String}
    (hnames : ∀ n ∈ names, n ≠ "" ∧ '/' ∉ n.toList) (h : ∀ n ∈ reversed, IsPlain n) :
    ∀ n ∈ names.foldl (step true) reversed, IsPlain n := by
  induction names generalizing reversed with
  | nil => exact h
  | cons name names ih =>
    obtain ⟨hne, hslash⟩ := hnames name List.mem_cons_self
    exact ih (fun n hn => hnames n (List.mem_cons_of_mem _ hn)) (plain_step h hne hslash)

theorem foldl_of_plain {names : List String} (h : ∀ n ∈ names, IsPlain n) (rooted : Bool)
    (reversed : List String) : names.foldl (step rooted) reversed = names.reverse ++ reversed := by
  induction names generalizing reversed with
  | nil => rfl
  | cons name names ih =>
    rw [List.foldl_cons, step_of_plain (h name List.mem_cons_self),
      ih fun n hn => h n (List.mem_cons_of_mem _ hn)]
    simp

/-- The characters of names, each after a slash. -/
def chars (names : List String) : List Char :=
  names.flatMap fun n => '/' :: n.toList

theorem chars_concat (names : List String) (name : String) :
    chars (names ++ [name]) = chars names ++ '/' :: name.toList := by
  simp [chars]

theorem toList_text_cons (name : String) (names : List String) :
    (text true (name :: names)).toList = chars (name :: names) := by
  rw [text, if_pos rfl, String.toList_append]
  induction names generalizing name with
  | nil => simp [chars]
  | cons next names ih =>
    have hnext := ih next
    rw [String.intercalate_cons_cons]
    simp only [String.toList_append, chars, List.flatMap_cons] at hnext ⊢
    simpa using hnext

theorem toList_text_concat (names : List String) (name : String) :
    (text true (names ++ [name])).toList = chars names ++ '/' :: name.toList := by
  rw [← chars_concat]
  cases names with
  | nil => exact toList_text_cons name []
  | cons first names => exact toList_text_cons first (names ++ [name])

theorem map_parts_chars {names : List String} (h : ∀ n ∈ names, n ≠ "" ∧ '/' ∉ n.toList) :
    (parts (chars names)).map String.ofList = names := by
  induction names using List.reverseRecOn with
  | nil => rfl
  | append_singleton names name ih =>
    obtain ⟨hne, hslash⟩ := h name (by simp)
    have hname : parts name.toList = [name.toList] :=
      parts_of_not_mem hslash fun hnil => hne (String.toList_eq_nil_iff.mp hnil)
    rw [chars_concat, parts_append, List.map_append, hname,
      ih fun n hn => h n (List.mem_append_left _ hn)]
    simp

/-- The clean path from the root on that has these names. -/
structure IsRooted (path : String) (names : List String) : Prop where
  text_eq : path = text true names
  plain : ∀ n ∈ names, IsPlain n

theorem isAbsolute_text (names : List String) : isAbsolute (text true names) = true := by
  cases names with
  | nil => rfl
  | cons name names =>
    rw [isAbsolute, toList_text_cons]
    rfl

/-- What is put after a path from the root on does not change where it begins. -/
theorem isAbsolute_append {path : String} (h : isAbsolute path = true) (more : String) :
    isAbsolute (path ++ more) = true := by
  rw [isAbsolute] at h ⊢
  cases hchars : path.toList with
  | nil => simp [hchars] at h
  | cons c cs =>
    rw [String.toList_append, hchars]
    rwa [hchars] at h

/-- Cleaning a path from the root on gives a clean path. -/
theorem isRooted_clean {path : String} (h : isAbsolute path = true) :
    IsRooted (clean path) ((names path).foldl (step true) []).reverse where
  text_eq := by rw [clean, h]
  plain := by
    intro n hn
    refine plain_foldl (fun m hm => ⟨names_ne_empty hm, names_no_slash hm⟩) ?_ n
      (List.mem_reverse.mp hn)
    simp

namespace IsRooted

variable {path name : String} {place : List String}

theorem isAbsolute_eq (h : IsRooted path place) : isAbsolute path = true := by
  rw [h.text_eq]
  exact isAbsolute_text place

theorem ne_empty (h : IsRooted path place) : path ≠ "" := by
  rintro rfl
  cases h.isAbsolute_eq

theorem names_eq {place : List String} (h : IsRooted path place) : names path = place := by
  have hnames : ∀ n ∈ place, n ≠ "" ∧ '/' ∉ n.toList := fun n hn =>
    ⟨(h.plain n hn).ne_empty, (h.plain n hn).no_slash⟩
  rw [h.text_eq, Path.names_eq]
  cases place with
  | nil => rfl
  | cons first rest =>
    rw [toList_text_cons]
    exact map_parts_chars hnames

theorem toList_eq (h : IsRooted path (place ++ [name])) :
    path.toList = chars place ++ '/' :: name.toList := by
  rw [h.text_eq, toList_text_concat]

theorem split_eq (h : IsRooted path (place ++ [name])) :
    split path = (String.ofList (chars place ++ ['/']), name) := by
  have hslash : ∀ c ∈ name.toList.reverse, (c != '/') = true := by
    intro c hc
    have hne : c ≠ '/' := by
      rintro rfl
      exact (h.plain name (by simp)).no_slash (List.mem_reverse.mp hc)
    simpa using hne
  have hreverse : path.toList.reverse = name.toList.reverse ++ '/' :: (chars place).reverse := by
    rw [h.toList_eq]
    simp
  rw [split, hreverse, List.dropWhile_append_of_pos hslash, List.takeWhile_append_of_pos hslash]
  simp

theorem directory_eq (h : IsRooted path (place ++ [name])) : directory path = text true place := by
  have hplain : ∀ n ∈ place, IsPlain n := fun n hn => h.plain n (List.mem_append_left _ hn)
  have hnames : names (String.ofList (chars place ++ ['/'])) = place := by
    rw [Path.names_eq, String.toList_ofList, parts_append, parts_nil, List.append_nil]
    exact map_parts_chars fun n hn => ⟨(hplain n hn).ne_empty, (hplain n hn).no_slash⟩
  have habsolute : isAbsolute (String.ofList (chars place ++ ['/'])) = true := by
    rw [isAbsolute, String.toList_ofList]
    cases place <;> rfl
  rw [directory, h.split_eq, clean, habsolute, hnames, foldl_of_plain hplain]
  simp

/-- The directory of a file is named by all of its names but the last. -/
theorem names_directory (h : IsRooted path (place ++ [name])) : names (directory path) = place :=
  names_eq ⟨h.directory_eq, fun n hn => h.plain n (List.mem_append_left _ hn)⟩

theorem getLast?_ne_slash (h : IsRooted path (place ++ [name])) :
    ∃ c front, path.toList = front ++ [c] ∧ c ≠ '/' := by
  have hplain := h.plain name (by simp)
  rcases List.eq_nil_or_concat name.toList with hnil | ⟨front, c, hlast⟩
  · exact absurd (String.toList_eq_nil_iff.mp hnil) hplain.ne_empty
  · refine ⟨c, chars place ++ '/' :: front, ?_, ?_⟩
    · rw [h.toList_eq, hlast]
      simp
    · rintro rfl
      exact hplain.no_slash (by simp [hlast])

/-- The last name of a path is the name of the file. -/
theorem base_eq (h : IsRooted path (place ++ [name])) : base path = name := by
  obtain ⟨c, front, hpath, hc⟩ := h.getLast?_ne_slash
  have hne : path ≠ "" := by
    rintro rfl
    simp at hpath
  have htrimmed : String.ofList (path.toList.reverse.dropWhile (· == '/')).reverse = path := by
    have hkept : path.toList.reverse.dropWhile (· == '/') = path.toList.reverse := by
      rw [hpath, List.reverse_append]
      simp [hc]
    rw [hkept, List.reverse_reverse, String.ofList_toList]
  rw [base, if_neg (by simpa using hne)]
  simp only [htrimmed]
  rw [if_neg (by simpa using hne), h.split_eq]

theorem endsWithSlash_eq (h : IsRooted path (place ++ [name])) :
    Store.endsWithSlash path = false := by
  obtain ⟨c, front, hpath, hc⟩ := h.getLast?_ne_slash
  rw [Store.endsWithSlash, hpath]
  simpa using hc

end IsRooted

/-! ### The path of a file -/

theorem parts_of_suffix {cs tail : List Char} (hsuffix : tail <:+ cs) (hslash : '/' ∉ tail)
    (hne : tail ≠ []) : ∃ front last, parts cs = front ++ [last] ∧ tail <:+ last := by
  obtain ⟨lead, rfl⟩ := hsuffix
  induction lead using List.reverseRecOn generalizing tail with
  | nil => exact ⟨[], tail, parts_of_not_mem hslash hne, List.suffix_rfl⟩
  | append_singleton lead c ih =>
    by_cases hc : c = '/'
    · subst hc
      refine ⟨parts lead, tail, ?_, List.suffix_rfl⟩
      rw [List.append_assoc, List.singleton_append, parts_append, parts_of_not_mem hslash hne]
    · have hmore : '/' ∉ c :: tail := by
        simp [hslash, Ne.symm hc]
      obtain ⟨front, last, hparts, hlast⟩ := ih hmore (by simp)
      refine ⟨front, last, ?_, (List.suffix_cons c tail).trans hlast⟩
      rw [List.append_assoc, List.singleton_append]
      exact hparts

/-- A path that ends with the ending of a file ends with a plain name. -/
theorem exists_plain_of_suffix {path : String} (h : ".go".toList <:+ path.toList) :
    ∃ front last, names path = front ++ [last] ∧ IsPlain last := by
  obtain ⟨front, last, hparts, hlast⟩ := parts_of_suffix h (by decide) (by decide)
  have hnames : names path = front.map String.ofList ++ [String.ofList last] := by
    rw [names_eq, hparts, List.map_append]
    rfl
  have hmem : String.ofList last ∈ names path := by
    simp [hnames]
  have hlength : 3 ≤ (String.ofList last).toList.length := by
    rw [String.toList_ofList]
    exact hlast.length_le
  refine ⟨_, _, hnames, names_ne_empty hmem, names_no_slash hmem, ?_, ?_⟩
  · intro heq
    rw [heq] at hlength
    exact absurd hlength (by decide)
  · intro heq
    rw [heq] at hlength
    exact absurd hlength (by decide)

theorem names_append (path more : String) :
    names (path ++ "/" ++ more) = names path ++ names more := by
  have hchars : (path ++ "/" ++ more).toList = path.toList ++ '/' :: more.toList := by
    simp
  rw [names_eq, hchars, parts_append, List.map_append]
  rfl

theorem join_pair {path more : String} (hpath : path ≠ "") (hmore : more ≠ "") :
    join [path, more] = clean (path ++ "/" ++ more) := by
  have hboth : [path, more].filter (· != "") = [path, more] := by
    simp [hpath, hmore]
  rw [join, hboth]
  simp

/-- Cleaning keeps a plain name at the end of a path. -/
theorem isRooted_clean_concat {path last : String} {front : List String}
    (habsolute : isAbsolute path = true) (hnames : names path = front ++ [last])
    (hlast : IsPlain last) : ∃ place, IsRooted (clean path) (place ++ [last]) := by
  have h := isRooted_clean habsolute
  rw [hnames, List.foldl_append, List.foldl_cons, List.foldl_nil, step_of_plain hlast,
    List.reverse_cons] at h
  exact ⟨_, h⟩

end Path

/-- A path that ends in a plain name leads to something of that name from the root on. -/
theorem Store.isRooted_absolute (s : Store) {path last : String} {front : List String}
    (hnames : Path.names path = front ++ [last]) (hlast : Path.IsPlain last) :
    ∃ place, Path.IsRooted (s.absolute path) (place ++ [last]) := by
  rw [absolute, Path.absolute]
  by_cases habsolute : Path.isAbsolute path = true
  · rw [if_pos habsolute]
    exact Path.isRooted_clean_concat habsolute hnames hlast
  · have hcurrent : s.currentPath ≠ "" := by
      intro hempty
      have habs := Path.isAbsolute_text s.current
      rw [show Path.text true s.current = "" from hempty] at habs
      cases habs
    have hpath : path ≠ "" := by
      rintro rfl
      have hnone : Path.names "" = [] := rfl
      rw [hnone] at hnames
      simp at hnames
    have hlead : Path.isAbsolute (s.currentPath ++ "/" ++ path) = true :=
      Path.isAbsolute_append (Path.isAbsolute_append (Path.isAbsolute_text s.current) _) _
    have hwhole : Path.names (s.currentPath ++ "/" ++ path) =
        Path.names s.currentPath ++ front ++ [last] := by
      rw [Path.names_append, hnames, List.append_assoc]
    rw [if_neg habsolute, Path.join_pair hcurrent hpath]
    exact Path.isRooted_clean_concat hlead hwhole hlast

end Bindery
