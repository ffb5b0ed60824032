import Bindery.Config.SchemaFiles
import Bindery.Proofs.Files.Beginnings
import Bindery.Proofs.Files.Relative

/-!
# A point and a slash before a pattern

A relative pattern and the same pattern with a point and a slash before it mean the same directory. Where
the names on a path are compared one by one they select the same files. With two stars the pattern is
compared with whole paths, and those of the files below a directory are clean: none of them begins with a
point and a slash, so the longer pattern selects nothing there.

## Main definitions

- `Store.AllowsPoint` — the patterns that select files with a point and a slash before them

## Main results

- `Store.schemaFiles_dotSlash` — what is selected with a point and a slash before a pattern
- `Store.schemaFiles_below_point` — a file that the shorter pattern selects and the longer one misses
-/

namespace Bindery

theorem or_of_mem_filterAuxM {α : Type} {f : α → Option Bool} {xs acc ys : List α}
    (h : List.filterAuxM f xs acc = some ys) : ∀ y ∈ ys, y ∈ acc ∨ y ∈ xs ∧ f y = some true := by
  induction xs generalizing acc with
  | nil =>
    cases h
    exact fun y hy => .inl hy
  | cons x xs ih =>
    intro y hy
    rw [List.filterAuxM] at h
    obtain ⟨b, hb, h⟩ := Option.bind_eq_some_iff.mp h
    rcases ih h y hy with hacc | ⟨hxs, hfits⟩
    · cases b with
      | false => exact .inl hacc
      | true =>
        rcases List.mem_cons.mp hacc with rfl | hacc
        · exact .inr ⟨List.mem_cons_self, hb⟩
        · exact .inl hacc
    · exact .inr ⟨List.mem_cons_of_mem _ hxs, hfits⟩

/-- What is left of a list fits. -/
theorem and_of_mem_filterM {α : Type} {f : α → Option Bool} {xs ys : List α}
    (h : xs.filterM f = some ys) {y : α} (hy : y ∈ ys) : y ∈ xs ∧ f y = some true := by
  obtain ⟨reversed, hreversed, heq⟩ := Option.bind_eq_some_iff.mp h
  cases heq
  rcases or_of_mem_filterAuxM hreversed y (List.mem_reverse.mp hy) with hnil | hboth
  · cases hnil
  · exact hboth

theorem filterM_singleton_eq_some_iff {α : Type} {f : α → Option Bool} {x : α} {ys : List α} :
    [x].filterM f = some ys ↔ ∃ b, f x = some b ∧ ys = if b then [x] else [] := by
  cases hx : f x with
  | none => simp [List.filterM, List.filterAuxM, hx]
  | some b => cases b <;> simp [List.filterM, List.filterAuxM, hx, eq_comm]

/-! ### The text before two stars -/

theorem beforeStars?_dotSlash (cs : List Char) :
    beforeStars? ('.' :: '/' :: cs) = (beforeStars? cs).map fun root => '.' :: '/' :: root := by
  simp [beforeStars?]
  rfl

theorem beforeStars?_toList_dotSlash {pattern : String} {root : List Char}
    (h : beforeStars? pattern.toList = some root) :
    beforeStars? ("./" ++ pattern).toList = some ('.' :: '/' :: root) := by
  rw [Path.toList_dotSlash, beforeStars?_dotSlash, h]
  rfl

theorem isPrefix_of_beforeStars? {cs root : List Char} (h : beforeStars? cs = some root) : root <+: cs := by
  induction cs generalizing root with
  | nil => cases h
  | cons c cs ih =>
    rw [beforeStars?] at h
    split at h
    · cases h
      exact List.nil_prefix
    · obtain ⟨rest, hrest, rfl⟩ := Option.map_eq_some_iff.mp h
      exact List.cons_prefix_cons.mpr ⟨rfl, ih hrest⟩

namespace Store

variable {s : Store} {pattern : String} {root : List Char} {found files : List String}

/-! ### What one pattern selects -/

theorem expand_eq_ok_iff_of_stars (h : beforeStars? pattern.toList = some root) :
    s.expand pattern = .ok found ↔ ∃ parsed walked, Pattern.parse pattern = .ok parsed ∧
      s.walk (String.ofList root) = .ok walked ∧ walked.filterM parsed.fits? = some found := by
  unfold expand
  rw [h]
  dsimp only
  cases Pattern.parse pattern with
  | error e => simp [Except.mapError, bind, Except.bind]
  | ok parsed =>
    cases s.walk (String.ofList root) with
    | error e => simp [Except.mapError, bind, Except.bind]
    | ok walked =>
      cases hfiltered : walked.filterM parsed.fits? with
      | none => simp [Except.mapError, bind, Except.bind, hfiltered]
      | some files => simp [Except.mapError, bind, Except.bind, pure, Except.pure, hfiltered]

theorem expand_eq_ok_iff (h : beforeStars? pattern.toList = none) :
    s.expand pattern = .ok found ↔ s.glob pattern = some found := by
  unfold expand
  rw [h]
  cases s.glob pattern with
  | none => simp
  | some files => simp

theorem schemaFiles_singleton_eq_ok_iff :
    s.schemaFiles [pattern] = .ok files ↔
      ∃ found, s.expand pattern = .ok found ∧ addNew [] found = files ∧ files ≠ [] := by
  unfold schemaFiles
  rw [List.mapM_cons, List.mapM_nil]
  cases s.expand pattern with
  | error e => simp [bind, Except.bind]
  | ok found =>
    cases hnew : addNew [] found with
    | nil => simp [bind, Except.bind, pure, Except.pure, hnew]
    | cons file more =>
      simp only [bind, Except.bind, pure, Except.pure, List.flatten_cons, List.flatten_nil, List.append_nil,
        hnew, Except.ok.injEq, exists_eq_left']
      exact ⟨fun h => ⟨h, by simp [← h]⟩, And.left⟩

/-- The patterns that select files with a point and a slash before them: those without two stars, and
those with a file before the two stars that fits. -/
def AllowsPoint (s : Store) (pattern : String) : Prop :=
  ∀ root, beforeStars? pattern.toList = some root →
    (∃ content, s.find (String.ofList root) = .ok (.file content)) ∧
      ∃ parsed, Pattern.parse ("./" ++ pattern) = .ok parsed ∧
        parsed.fits? ("./" ++ String.ofList root) = some true

theorem exists_find_of_stars (hroot : beforeStars? pattern.toList = some root)
    (h : s.schemaFiles [pattern] = .ok files) : ∃ n, s.find (String.ofList root) = .ok n := by
  obtain ⟨found, hfound, -⟩ := schemaFiles_singleton_eq_ok_iff.mp h
  obtain ⟨-, walked, -, hwalked, -⟩ := (expand_eq_ok_iff_of_stars hroot).mp hfound
  unfold walk at hwalked
  cases hfind : s.find (String.ofList root) with
  | error o =>
    rw [hfind] at hwalked
    cases hwalked
  | ok n => exact ⟨n, rfl⟩

/-- What stands before two stars in a relative pattern is a relative path, if it leads somewhere. -/
theorem isRelative_of_stars (hpattern : Path.isAbsolute pattern = false)
    (hroot : beforeStars? pattern.toList = some root) {n : Node}
    (h : s.find (String.ofList root) = .ok n) : Path.IsRelative (String.ofList root) := by
  cases root with
  | nil => cases h
  | cons c cs =>
    obtain ⟨tail, htail⟩ := isPrefix_of_beforeStars? hroot
    rw [Path.isAbsolute, ← htail] at hpattern
    exact Path.isRelative_iff.mpr ⟨c, cs, String.toList_ofList, by simpa using hpattern⟩

/-- Without two stars the same files are selected. -/
theorem exists_of_no_stars (hpattern : Path.isAbsolute pattern = false)
    (hstars : beforeStars? pattern.toList = none) (h : s.schemaFiles [pattern] = .ok files) :
    ∃ selected, s.schemaFiles ["./" ++ pattern] = .ok selected ∧
      selected.map Path.clean = files.map Path.clean := by
  obtain ⟨found, hfound, rfl, hne⟩ := schemaFiles_singleton_eq_ok_iff.mp h
  rw [expand_eq_ok_iff hstars] at hfound
  have hfoundne : found ≠ [] := by
    rintro rfl
    exact hne rfl
  have hrelative : Path.IsRelative pattern := by
    refine ⟨?_, hpattern⟩
    rintro rfl
    exact hfoundne (Option.some.inj hfound).symm
  have hlonger : beforeStars? ("./" ++ pattern).toList = none := by
    rw [Path.toList_dotSlash, beforeStars?_dotSlash, hstars]
    rfl
  by_cases hwild : hasWildcard pattern = true
  · refine ⟨_, schemaFiles_singleton_eq_ok_iff.mpr ⟨found, ?_, rfl, hne⟩, rfl⟩
    exact (expand_eq_ok_iff hlonger).mpr (s.glob_dotSlash hrelative hwild hfound)
  · obtain ⟨rfl, hplain⟩ :=
      s.glob_dotSlash_plain hrelative (Bool.not_eq_true _ ▸ hwild) hfound hfoundne
    refine ⟨["./" ++ pattern], schemaFiles_singleton_eq_ok_iff.mpr ⟨["./" ++ pattern], ?_, rfl, by simp⟩, ?_⟩
    · exact (expand_eq_ok_iff hlonger).mpr hplain
    · show [Path.clean ("./" ++ pattern)] = [Path.clean pattern]
      rw [Path.clean_dotSlash hpattern]

/-- Below a directory nothing is selected. -/
theorem schemaFiles_ne_ok_of_directory (hpattern : Path.isAbsolute pattern = false)
    (hroot : beforeStars? pattern.toList = some root) {es : List (String × Node)}
    (hfind : s.find (String.ofList root) = .ok (.directory es)) (selected : List String) :
    s.schemaFiles ["./" ++ pattern] ≠ .ok selected := by
  have hlonger := beforeStars?_toList_dotSlash hroot
  intro h
  obtain ⟨found, hfound, rfl, hne⟩ := schemaFiles_singleton_eq_ok_iff.mp h
  obtain ⟨parsed, walked, hparsed, hwalked, hfiltered⟩ := (expand_eq_ok_iff_of_stars hlonger).mp hfound
  rw [walk, Path.ofList_dotSlash, s.find_dotSlash (isRelative_of_stars hpattern hroot hfind), hfind] at hwalked
  cases hwalked
  cases found with
  | nil => exact hne rfl
  | cons file more =>
    obtain ⟨hmem, hfits⟩ := and_of_mem_filterM hfiltered List.mem_cons_self
    have htrimmed := Node.isTrimmed_of_mem_directory (Path.isRelative_dotSlash _) hmem
    exact htrimmed.no_point (Pattern.isPrefix_of_fits?_dotSlash hparsed hfits)

/-- A file before two stars is all that can be selected. -/
theorem schemaFiles_eq_ok_iff_of_file (hroot : beforeStars? pattern.toList = some root)
    {content : Octets} (hfind : s.find (String.ofList root) = .ok (.file content)) :
    s.schemaFiles [pattern] = .ok files ↔ files = [String.ofList root] ∧
      ∃ parsed, Pattern.parse pattern = .ok parsed ∧ parsed.fits? (String.ofList root) = some true := by
  have hwalk : s.walk (String.ofList root) = .ok [String.ofList root] := by
    simp [walk, hfind, Node.filesBelow]
  rw [schemaFiles_singleton_eq_ok_iff]
  constructor
  · rintro ⟨found, hfound, rfl, hne⟩
    obtain ⟨parsed, walked, hparsed, hwalked, hfiltered⟩ := (expand_eq_ok_iff_of_stars hroot).mp hfound
    rw [hwalk] at hwalked
    cases hwalked
    obtain ⟨b, hb, hfiltered⟩ := filterM_singleton_eq_some_iff.mp hfiltered
    cases b with
    | false => exact absurd (hfiltered ▸ rfl) hne
    | true => exact ⟨hfiltered ▸ rfl, parsed, hparsed, hb⟩
  · rintro ⟨rfl, parsed, hparsed, hfits⟩
    refine ⟨[String.ofList root], (expand_eq_ok_iff_of_stars hroot).mpr ?_, rfl, by simp⟩
    exact ⟨parsed, _, hparsed, hwalk, filterM_singleton_eq_some_iff.mpr ⟨true, hfits, rfl⟩⟩

theorem schemaFiles_dotSlash_of_file (hroot : beforeStars? pattern.toList = some root)
    (hrelative : Path.IsRelative (String.ofList root)) {content : Octets}
    (hfind : s.find (String.ofList root) = .ok (.file content)) :
    s.schemaFiles ["./" ++ pattern] = .ok files ↔ files = ["./" ++ String.ofList root] ∧
      ∃ parsed, Pattern.parse ("./" ++ pattern) = .ok parsed ∧
        parsed.fits? ("./" ++ String.ofList root) = some true := by
  have hsame : s.find (String.ofList ('.' :: '/' :: root)) = .ok (.file content) := by
    rw [Path.ofList_dotSlash, s.find_dotSlash hrelative, hfind]
  rw [← Path.ofList_dotSlash]
  exact schemaFiles_eq_ok_iff_of_file (beforeStars?_toList_dotSlash hroot) hsame

theorem allowsPoint_of_no_stars (h : beforeStars? pattern.toList = none) : s.AllowsPoint pattern := by
  intro root hroot
  rw [h] at hroot
  cases hroot

theorem allowsPoint_iff_of_stars (h : beforeStars? pattern.toList = some root) : s.AllowsPoint pattern ↔
    (∃ content, s.find (String.ofList root) = .ok (.file content)) ∧
      ∃ parsed, Pattern.parse ("./" ++ pattern) = .ok parsed ∧
        parsed.fits? ("./" ++ String.ofList root) = some true := by
  refine ⟨fun hallows => hallows root h, fun hfile other hother => ?_⟩
  rw [h] at hother
  cases hother
  exact hfile

/-- With a point and a slash before it, a pattern that selects files selects some exactly if it has no two
stars or a file before them that fits, and then the same as without. -/
theorem schemaFiles_dotSlash (hpattern : Path.isAbsolute pattern = false)
    (h : s.schemaFiles [pattern] = .ok files) :
    ((∃ selected, s.schemaFiles ["./" ++ pattern] = .ok selected) ↔ s.AllowsPoint pattern) ∧
      ∀ selected, s.schemaFiles ["./" ++ pattern] = .ok selected →
        selected.map Path.clean = files.map Path.clean := by
  cases hstars : beforeStars? pattern.toList with
  | none =>
    obtain ⟨selected, hselected, hclean⟩ := exists_of_no_stars hpattern hstars h
    refine ⟨iff_of_true ⟨selected, hselected⟩ (allowsPoint_of_no_stars hstars), fun other hother => ?_⟩
    rw [hselected] at hother
    cases hother
    exact hclean
  | some root =>
    -- something was walked through: a directory, whose files are missed, or a single file
    obtain ⟨n, hfind⟩ := exists_find_of_stars hstars h
    have hrelative := isRelative_of_stars hpattern hstars hfind
    rw [allowsPoint_iff_of_stars hstars]
    cases n with
    | directory es =>
      have hnone := schemaFiles_ne_ok_of_directory hpattern hstars hfind
      refine ⟨iff_of_false ?_ ?_, fun selected hselected => absurd hselected (hnone selected)⟩
      · rintro ⟨selected, hselected⟩
        exact hnone selected hselected
      · rintro ⟨⟨content, hcontent⟩, -⟩
        rw [hfind] at hcontent
        cases hcontent
    | file content =>
      have hselects : ∀ selected, s.schemaFiles ["./" ++ pattern] = .ok selected ↔ _ := fun selected =>
        schemaFiles_dotSlash_of_file hstars hrelative hfind
      constructor
      · constructor
        · rintro ⟨selected, hselected⟩
          exact ⟨⟨content, hfind⟩, ((hselects selected).mp hselected).2⟩
        · rintro ⟨-, hfits⟩
          exact ⟨_, (hselects _).mpr ⟨rfl, hfits⟩⟩
      · intro selected hselected
        rw [((hselects selected).mp hselected).1, ((schemaFiles_eq_ok_iff_of_file hstars hfind).mp h).1]
        show [Path.clean ("./" ++ String.ofList root)] = [Path.clean (String.ofList root)]
        rw [Path.clean_dotSlash hrelative.not_absolute]

/-! ### A store with one file -/

/-- A store with one file, two directories down. -/
def singleStore : Store :=
  ⟨.directory [("schema", .directory [("sub", .directory [("a.graphql", .file [])])])], []⟩

theorem list_singleStore : singleStore.list "schema/sub" = ["a.graphql"] := by
  have hfind : singleStore.find "schema/sub" = .ok (.directory [("a.graphql", .file [])]) := rfl
  rw [list, hfind]
  simp [Node.sorted, Node.entries]

theorem glob_singleStore : singleStore.glob "schema/sub/*.graphql" = some ["schema/sub/a.graphql"] := by
  have hin : singleStore.globIn "schema/sub" "*.graphql" = some ["schema/sub/a.graphql"] := by
    rw [globIn, list_singleStore]
    decide +kernel
  exact hin

/-- With a point and a slash before it, a pattern with one star selects the same file. -/
theorem schemaFiles_dotSlash_star :
    singleStore.schemaFiles ["schema/sub/*.graphql"] = .ok ["schema/sub/a.graphql"] ∧
      ∃ selected, singleStore.schemaFiles ["./schema/sub/*.graphql"] = .ok selected ∧
        selected.map Path.clean = ["schema/sub/a.graphql"] := by
  have hstars : beforeStars? "schema/sub/*.graphql".toList = none := by decide
  have hfiles : singleStore.schemaFiles ["schema/sub/*.graphql"] = .ok ["schema/sub/a.graphql"] :=
    schemaFiles_singleton_eq_ok_iff.mpr
      ⟨_, (expand_eq_ok_iff hstars).mpr glob_singleStore, by decide, by simp⟩
  have hboth := schemaFiles_dotSlash (by decide) hfiles
  obtain ⟨selected, hselected⟩ := hboth.1.mpr (allowsPoint_of_no_stars hstars)
  exact ⟨hfiles, selected, hselected, (hboth.2 selected hselected).trans (by decide +kernel)⟩

theorem walk_singleStore {root : String}
    (h : singleStore.find root = .ok (.directory [("sub", .directory [("a.graphql", .file [])])])) :
    singleStore.walk root = .ok [Path.join [Path.join [root, "sub"], "a.graphql"]] := by
  rw [walk, h]
  simp [Node.filesBelow, Node.filesOf, Node.sorted, Node.entries, Node.depth, Node.depthOf]

theorem expand_singleStore : singleStore.expand "schema/**/*.graphql" = .ok ["schema/sub/a.graphql"] :=
  (expand_eq_ok_iff_of_stars rfl).mpr ⟨_, _, rfl, walk_singleStore rfl, by decide +kernel⟩

theorem expand_singleStore_point : singleStore.expand "./schema/**/*.graphql" = .ok [] :=
  (expand_eq_ok_iff_of_stars rfl).mpr ⟨_, _, rfl, walk_singleStore rfl, by decide +kernel⟩

/-- The pattern with a point and a slash before it selects no file below the directory. -/
theorem schemaFiles_below_point :
    singleStore.schemaFiles ["schema/**/*.graphql"] = .ok ["schema/sub/a.graphql"] ∧
      singleStore.schemaFiles ["./schema/**/*.graphql"] =
        .error (.noMatch ["./schema/**/*.graphql"]) := by
  refine ⟨schemaFiles_singleton_eq_ok_iff.mpr ⟨_, expand_singleStore, by decide, by simp⟩, ?_⟩
  rw [schemaFiles, List.mapM_cons, List.mapM_nil, expand_singleStore_point]
  rfl

end Store

end Bindery
