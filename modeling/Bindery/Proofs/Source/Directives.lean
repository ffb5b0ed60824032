import Bindery.Proofs.Source.Words

/-!
# Lines and directives of a source file

A line that begins with `//go:` speaks to the compiler. A file whose names hold no line feed and whose
comments begin with the comment mark has such a line in one case only: a comment in it is a build
constraint, and so the constraints are stated before the package clause.

## Main definitions

- `Source.directives` — the lines of a text that speak to the compiler
- `Source.File.IsLegible` — a file of single lines, with comments that are comments
- `Source.IsConstraintLine` — a comment whose first word is the mark of a build constraint

## Main results

- `Source.Constraint.isSome_ofComment?_iff` — the comments that are build constraints
- `Source.File.IsLegible.codeWords_render` — the words of a legible file are those of its parts
- `Source.File.IsLegible.directives_render_eq_nil_iff` — a legible file has a directive exactly if it has a
  constraint
-/

namespace Bindery.Source

/-! ### Identifiers -/

/-- A line feed cannot be printed, and neither it nor a dot is a letter or a digit. -/
theorem feed_and_dot : isPrintable '\n' = false ∧ (isLetter '\n' || isDigit '\n') = false ∧
    (isLetter '.' || isDigit '.') = false := by
  decide +kernel

/-- No line feed and no dot is in an identifier. -/
theorem not_mem_of_isIdentifier {s : String} (h : isIdentifier s = true) :
    '\n' ∉ s.toList ∧ '.' ∉ s.toList := by
  have hchars : s.toList.all (fun c => isIdentifierStart c || isDigit c) = true := by
    rw [isIdentifier, Bool.and_eq_true] at h
    have hparts := h.2
    split at hparts
    · cases hparts
    · rename_i c rest hs
      rw [Bool.and_eq_true] at hparts
      rw [hs, List.all_cons, hparts.1, hparts.2]
      rfl
  have hnot : ∀ {c : Char}, c ≠ '_' → (isLetter c || isDigit c) = false → c ∉ s.toList := by
    intro c hunderscore hclass hmem
    have hchar := List.all_eq_true.mp hchars c hmem
    rw [isIdentifierStart, beq_eq_false_iff_ne.mpr hunderscore, Bool.false_or, hclass] at hchar
    cases hchar
  exact ⟨hnot (by decide) feed_and_dot.2.1, hnot (by decide) feed_and_dot.2.2⟩

/-! ### Texts without line feeds -/

/-- Whether a text holds no line feed. -/
def isOneLine (s : String) : Bool :=
  s.toList.all (· != '\n')

theorem isOneLine_iff {s : String} : isOneLine s = true ↔ '\n' ∉ s.toList := by
  rw [isOneLine, List.all_eq_true]
  constructor
  · intro h hmem
    exact absurd (h _ hmem) (by decide)
  · rintro h c hc
    exact bne_iff_ne.mpr fun heq => h (heq ▸ hc)

@[simp]
theorem isOneLine_append (s t : String) : isOneLine (s ++ t) = (isOneLine s && isOneLine t) := by
  rw [isOneLine, String.toList_append, List.all_append]
  rfl

theorem isOneLine_join {ls : List String} (h : ∀ l ∈ ls, isOneLine l = true) :
    isOneLine (String.join ls) = true := by
  rw [isOneLine, String.toList_join, List.all_flatMap, List.all_eq_true]
  exact h

theorem isOneLine_intercalate {sep : String} (hsep : isOneLine sep = true) {ls : List String}
    (h : ∀ l ∈ ls, isOneLine l = true) : isOneLine (String.intercalate sep ls) = true := by
  rw [isOneLine, String.toList_intercalate]
  induction ls with
  | nil => rfl
  | cons l ls ih =>
    have hl : l.toList.all (· != '\n') = true := h l List.mem_cons_self
    cases ls with
    | nil => simpa using hl
    | cons next ls =>
      have hrest := ih fun l hl => h l (List.mem_cons_of_mem _ hl)
      have hsep' : sep.toList.all (· != '\n') = true := hsep
      rw [List.map_cons, List.map_cons, List.intercalate_cons_cons, ← List.map_cons, List.all_append,
        List.all_append, hl, hsep', hrest]
      rfl

theorem toDigits_ne_feed {base : Nat} (hbase : 1 < base) (hmost : base ≤ 16) (n : Nat) :
    '\n' ∉ Nat.toDigits base n := by
  have hdigit : ∀ m < 16, Nat.digitChar m ≠ '\n' := by decide
  induction n using Nat.strongRecOn with
  | ind n ih =>
    by_cases hlt : n < base
    · rw [Nat.toDigits_of_lt_base hlt, List.mem_singleton]
      exact (hdigit n (by omega)).symm
    · rw [Nat.toDigits_of_base_le hbase (Nat.le_of_not_lt hlt), List.mem_append, List.mem_singleton]
      have hmod : n % base < base := Nat.mod_lt n (by omega)
      rintro (hmem | heq)
      · exact ih _ (Nat.div_lt_self (by omega) hbase) hmem
      · exact hdigit _ (by omega) heq.symm

theorem isOneLine_quoted (s : String) : isOneLine (quoted s) = true := by
  have hhex : ∀ width n, '\n' ∉ hexDigits width n := by
    intro width n hmem
    rcases List.mem_append.mp hmem with hmem | hmem
    · exact absurd (List.eq_of_mem_replicate hmem) (by decide)
    · exact toDigits_ne_feed (by decide) (by decide) n hmem
  have hchar : ∀ c, '\n' ∉ quoteChar c := by
    intro c
    have hprintable : isPrintable '\n' = false := feed_and_dot.1
    rw [quoteChar]
    split
    · rename_i hquote
      rw [Bool.or_eq_true, beq_iff_eq, beq_iff_eq] at hquote
      rcases hquote with rfl | rfl <;> decide
    · split
      · rename_i hshown
        rw [List.mem_singleton]
        rintro rfl
        rw [hprintable] at hshown
        cases hshown
      · split
        all_goals first | decide | skip
        split
        · simp [hhex]
        · split <;> simp [hhex]
  rw [isOneLine_iff, quoted, String.toList_ofList]
  simp [hchar]

theorem splitWhen_unlines {ls : List String} (h : ∀ l ∈ ls, isOneLine l = true) :
    splitWhen (· == '\n') (unlines ls).toList = ls.map String.toList ++ [[]] := by
  induction ls with
  | nil => rfl
  | cons l ls ih =>
    have hl : ∀ c ∈ l.toList, (c == '\n') = false := by
      intro c hc
      have := List.all_eq_true.mp (h l List.mem_cons_self) c hc
      simpa using this
    have htext : (unlines (l :: ls)).toList = l.toList ++ '\n' :: (unlines ls).toList := by
      simp [unlines, String.toList_join]
    rw [htext, splitWhen_append_cons rfl, splitWhen_of_forall hl,
      ih fun l hl => h l (List.mem_cons_of_mem _ hl)]
    rfl

/-- Written lines have the words of the lines. -/
theorem codeWords_unlines {ls : List String} (h : ∀ l ∈ ls, isOneLine l = true) :
    codeWords (unlines ls) = ls.flatMap lineWords := by
  rw [codeWords, splitWhen_unlines h, List.flatMap_append, List.flatMap_map]
  show _ ++ [] = _
  rw [List.append_nil]
  rfl

/-- Whether a line speaks to the compiler. -/
def isDirective (line : List Char) : Bool :=
  "//go:".toList.isPrefixOf line

/-- The lines of a text that speak to the compiler. -/
def directives (source : String) : List (List Char) :=
  (splitWhen (· == '\n') source.toList).filter isDirective

theorem directives_unlines {ls : List String} (h : ∀ l ∈ ls, isOneLine l = true) :
    directives (unlines ls) = (ls.map String.toList).filter isDirective := by
  rw [directives, splitWhen_unlines h, List.filter_append]
  exact List.append_nil _

/-! ### Build constraints -/

theorem fields_of_forall_isBlank {cs : List Char} (h : ∀ c ∈ cs, isBlank c = true) : fields cs = [] := by
  induction cs with
  | nil => rfl
  | cons c cs ih =>
    rw [fields_cons_of_isBlank (h c List.mem_cons_self)]
    exact ih fun c hc => h c (List.mem_cons_of_mem _ hc)

theorem fields_dropWhile (cs : List Char) : fields (cs.dropWhile isBlank) = fields cs := by
  induction cs with
  | nil => rfl
  | cons c cs ih =>
    by_cases hc : isBlank c = true
    · rw [List.dropWhile_cons_of_pos hc, ih, fields_cons_of_isBlank hc]
    · rw [List.dropWhile_cons_of_neg hc]

theorem fields_trimEnd (cs : List Char) : fields (trimEnd isBlank cs) = fields cs := by
  have hblank : ∀ c ∈ cs.rtakeWhile isBlank, isBlank c = true := fun c hc => List.mem_rtakeWhile_imp hc
  conv_rhs => rw [← List.rdropWhile_append_rtakeWhile (p := isBlank) (l := cs)]
  rw [trimEnd_eq_rdropWhile]
  cases h : cs.rtakeWhile isBlank with
  | nil => rw [List.append_nil]
  | cons b bs =>
    rw [h] at hblank
    rw [fields_append_cons (hblank b List.mem_cons_self),
      fields_of_forall_isBlank fun c hc => hblank c (List.mem_cons_of_mem _ hc), List.append_nil]

theorem fields_trimEnds (cs : List Char) : fields (trimEnds isBlank cs) = fields cs := by
  show fields (trimEnd isBlank (cs.dropWhile isBlank)) = fields cs
  rw [fields_trimEnd, fields_dropWhile]

/-- The first word of a text that does not begin with a blank goes up to the first blank. -/
theorem head?_fields {c : Char} (hc : isBlank c = false) (cs : List Char) :
    (fields (c :: cs)).head? = some (c :: cs.takeWhile fun d => !isBlank d) := by
  induction cs generalizing c with
  | nil => simp [fields, List.splitOnP_cons_eq_if_modifyHead, hc]
  | cons d cs ih =>
    by_cases hd : isBlank d = true
    · have hone : fields [c] = [[c]] := by simp [fields, List.splitOnP_cons_eq_if_modifyHead, hc]
      rw [show c :: d :: cs = [c] ++ d :: cs from rfl, fields_append_cons hd, hone]
      simp [hd]
    · have hd' : isBlank d = false := by simpa using hd
      have hrest := ih hd'
      obtain ⟨word, words, hwords⟩ := List.exists_cons_of_ne_nil (List.splitOnP_ne_nil isBlank cs)
      simp only [fields, List.splitOnP_cons_eq_if_modifyHead, hc, hd', hwords] at hrest ⊢
      simp_all

theorem takeWhile_eq_iff {p : Char → Bool} {word text : List Char} (hword : ∀ c ∈ word, p c = true) :
    text.takeWhile p = word ↔ ∃ rest, text = word ++ rest ∧ ∀ c, rest.head? = some c → p c = false := by
  constructor
  · rintro rfl
    refine ⟨text.dropWhile p, List.takeWhile_append_dropWhile.symm, ?_⟩
    intro c hc
    have hnot := List.head?_dropWhile_not p text
    rw [hc] at hnot
    simpa using hnot
  · rintro ⟨rest, rfl, hrest⟩
    rw [List.takeWhile_append_of_pos hword]
    cases rest with
    | nil => simp
    | cons c rest => simp [hrest c rfl]

theorem isBlank_of_head?_trimEnds {cs : List Char} {c : Char} (h : (trimEnds isBlank cs).head? = some c) :
    isBlank c = false := by
  have hprefix : trimEnds isBlank cs <+: cs.dropWhile isBlank := List.rdropWhile_prefix isBlank _
  have hhead : (cs.dropWhile isBlank).head? = some c := by
    obtain ⟨blanks, hblanks⟩ := hprefix
    rw [← hblanks, List.head?_append, h]
    rfl
  have hnot := List.head?_dropWhile_not isBlank cs
  rw [hhead] at hnot
  simpa using hnot

/-- A comment is a build constraint if its first word is the mark of one. -/
theorem Constraint.isSome_ofComment?_iff (line : String) : (ofComment? line).isSome = true ↔
    (fields (line.toList.drop 2)).head? = some "+build".toList := by
  rw [← fields_trimEnds, ofComment?]
  have hhead : ∀ c, (trimEnds isBlank (line.toList.drop 2)).head? = some c → isBlank c = false :=
    fun c => isBlank_of_head?_trimEnds
  generalize trimEnds isBlank (line.toList.drop 2) = text at hhead ⊢
  have hall : "+build".toList.all (fun c => !isBlank c) = true := by decide
  have hmark : ∀ c ∈ "+build".toList, (!isBlank c) = true := List.all_eq_true.mp hall
  -- both sides say that the text is the mark, or the mark with a blank after it
  have hword : (fields text).head? = some "+build".toList ↔
      ∃ rest, text = "+build".toList ++ rest ∧ ∀ c, rest.head? = some c → (!isBlank c) = false := by
    cases text with
    | nil => simp [fields]
    | cons c cs =>
      have hc : isBlank c = false := hhead c rfl
      rw [head?_fields hc, Option.some_inj, ← takeWhile_eq_iff hmark,
        List.takeWhile_cons_of_pos (by rw [hc]; rfl)]
  rw [hword]
  by_cases hprefix : "+build".toList <+: text
  · obtain ⟨rest, rfl⟩ := hprefix
    have hdrop : ("+build".toList ++ rest).drop "+build".toList.length = rest := List.drop_left
    have hpos : "+build".toList.isPrefixOf ("+build".toList ++ rest) = true :=
      List.isPrefixOf_iff_prefix.mpr (List.prefix_append _ _)
    simp only [hpos, hdrop, List.append_cancel_left_eq]
    cases rest with
    | nil => simp
    | cons c rest => by_cases hc : isBlank c = true <;> simp [hc]
  · have hneg : "+build".toList.isPrefixOf text = false := by
      rw [Bool.eq_false_iff]
      exact fun h => hprefix (List.isPrefixOf_iff_prefix.mp h)
    simp only [hneg]
    refine iff_of_false (by simp) ?_
    rintro ⟨rest, rfl, -⟩
    exact hprefix (List.prefix_append _ _)

/-- The tags of a constraint stand on one line each. -/
theorem Tag.isOneLine_text_ofText (cs : List Char) : isOneLine (ofText cs).text = true := by
  have hfeed : (isLetter '\n' || isDigit '\n' || '\n' == '_' || '\n' == '.') = false := by
    rw [feed_and_dot.2.1]
    rfl
  have hname : ∀ cs : List Char,
      isOneLine (if isTag cs then String.ofList cs else "ignore") = true := by
    intro cs
    split
    · rename_i htag
      rw [isTag, Bool.and_eq_true, List.all_eq_true] at htag
      rw [isOneLine_iff, String.toList_ofList]
      intro hmem
      have := htag.2 _ hmem
      rw [hfeed] at this
      cases this
    · rfl
  unfold ofText
  split
  · rfl
  · rfl
  · rw [text, if_pos rfl, isOneLine_append, hname]
    rfl
  · rw [text, if_neg (by simp), hname]

namespace Constraint

/-- A constraint whose tags stand on one line each. -/
def IsOneLine (c : Constraint) : Prop :=
  ∀ clause ∈ c, ∀ t ∈ clause, isOneLine t.text = true

theorem isOneLine_of_ofComment? {line : String} {c : Constraint} (h : ofComment? line = some c) :
    c.IsOneLine := by
  rw [ofComment?] at h
  simp only at h
  split at h
  · cases h
  · split at h
    · cases h
      simp [IsOneLine]
      rfl
    · split at h
      · cases h
        intro clause hclause t ht
        obtain ⟨text, -, rfl⟩ := List.mem_map.mp hclause
        obtain ⟨tag, -, rfl⟩ := List.mem_map.mp ht
        exact Tag.isOneLine_text_ofText tag
      · cases h

theorem IsOneLine.text {c : Constraint} (h : c.IsOneLine) (among : Bool) :
    isOneLine (c.text among) = true := by
  have hclause : ∀ among, ∀ clause ∈ c, isOneLine (clauseText among clause) = true := by
    intro among clause hclause
    have htext : isOneLine (String.intercalate " && " (clause.map Tag.text)) = true :=
      isOneLine_intercalate rfl (by simpa using h clause hclause)
    rw [clauseText]
    split
    · simp only [isOneLine_append, htext]
      rfl
    · exact htext
  have htext : ∀ among, isOneLine (String.intercalate " || " (c.map (clauseText among))) = true :=
    fun among => isOneLine_intercalate rfl (by simpa using hclause among)
  rw [Constraint.text]
  split
  · simp only [isOneLine_append, htext]
    rfl
  · exact htext _

theorem IsOneLine.oldLine {c : Constraint} (h : c.IsOneLine) : isOneLine c.oldLine = true := by
  rw [Constraint.oldLine, isOneLine_append, isOneLine_join]
  · rfl
  · intro l hl
    obtain ⟨clause, hclause, rfl⟩ := List.mem_map.mp hl
    rw [isOneLine_append, isOneLine_intercalate rfl (by simpa using h clause hclause)]
    rfl

theorem IsOneLine.split {c : Constraint} (h : c.IsOneLine) : ∀ part ∈ c.split, part.IsOneLine := by
  intro part hpart
  rw [Constraint.split.eq_def] at hpart
  split at hpart
  · rename_i clause
    obtain ⟨t, ht, rfl⟩ := List.mem_map.mp hpart
    intro clause' hclause' t' ht'
    rw [List.mem_singleton.mp hclause', List.mem_singleton] at ht'
    rw [ht']
    exact h clause List.mem_cons_self t ht
  · rw [List.mem_singleton.mp hpart]
    exact h

end Constraint

theorem isOneLine_of_mem_constraintLines {cs : List Constraint} (h : ∀ c ∈ cs, c.IsOneLine) {l : String}
    (hl : l ∈ constraintLines cs) : isOneLine l = true := by
  cases cs with
  | nil => cases hl
  | cons c cs =>
    generalize hall : c :: cs = all at h
    have hparts : ∀ part ∈ all.flatMap Constraint.split, part.IsOneLine := by
      intro part hpart
      obtain ⟨c', hc', hpart⟩ := List.mem_flatMap.mp hpart
      exact (h c' hc').split part hpart
    rcases List.mem_cons.mp hl with rfl | hl
    · rw [isOneLine_append, hall, isOneLine_intercalate rfl]
      · rfl
      · intro l hl
        obtain ⟨c', hc', rfl⟩ := List.mem_map.mp hl
        exact (h c' hc').text _
    · obtain ⟨part, hpart, rfl⟩ := List.mem_map.mp hl
      rw [hall] at hpart
      apply Constraint.IsOneLine.oldLine
      split at hpart
      · rw [List.mem_singleton.mp hpart]
        intro clause hclause t ht
        rw [List.mem_singleton.mp hclause] at ht
        obtain ⟨clause', hclause', ht⟩ := List.mem_flatten.mp ht
        obtain ⟨part', hpart', hclause'⟩ := List.mem_flatten.mp hclause'
        exact hparts part' hpart' clause' hclause' t ht
      · exact hparts part hpart

/-! ### Imports -/

/-- Cutting imports into runs keeps them in their order. -/
theorem flatten_cutRuns (starts : List String) (is : Imports) : (cutRuns starts is).flatten = is := by
  induction is generalizing starts with
  | nil => rfl
  | cons i is ih =>
    rw [cutRuns.eq_def]
    simp only
    generalize hnext : cutRuns _ is = runs
    have hruns : runs.flatten = is := by
      rw [← hnext]
      exact ih _
    cases runs with
    | nil =>
      rw [← hruns]
      generalize (Prod.fst _ : Bool) = here
      cases here <;> rfl
    | cons run runs =>
      rw [← hruns]
      generalize (Prod.fst _ : Bool) = here
      cases here <;> rfl

theorem isOneLine_spec {i : Import} (h : isOneLine i.name = true) : isOneLine i.spec = true := by
  rw [Import.spec]
  split
  · simp only [isOneLine_append, h, isOneLine_quoted]
    rfl
  · exact isOneLine_quoted i.path

/-- The lines of imports whose names stand on one line do so too, and none of them begins with a slash. -/
theorem Imports.isOneLine_of_mem_render {is : Imports} (h : ∀ i ∈ is, isOneLine i.name = true) {l : String}
    (hl : l ∈ is.render) : isOneLine l = true ∧ l.toList.head? ≠ some '/' := by
  have hspec : ∀ i ∈ is, isOneLine i.spec = true := fun i hi => isOneLine_spec (h i hi)
  rw [render.eq_def] at hl
  split at hl
  · cases hl
  · rename_i i
    rw [List.mem_singleton.mp hl, isOneLine_append, hspec i List.mem_cons_self]
    exact ⟨rfl, by simp⟩
  · simp only [List.mem_append, List.mem_singleton] at hl
    rcases hl with (rfl | hl) | rfl
    · exact ⟨rfl, by simp⟩
    · obtain ⟨block, hblock, hl⟩ := List.mem_flatten.mp hl
      rcases mem_of_mem_intersperse hblock with rfl | hblock
      · rw [List.mem_singleton.mp hl]
        exact ⟨rfl, by simp⟩
      · obtain ⟨run, hrun, rfl⟩ := List.mem_map.mp hblock
        obtain ⟨i, hi, rfl⟩ := List.mem_map.mp hl
        obtain ⟨run', hrun', rfl⟩ := List.mem_map.mp hrun
        have hsorted : i ∈ sortImports importGroup is := by
          rw [← flatten_cutRuns (groupStarts (sortImports importGroup is)) (sortImports importGroup is)]
          exact List.mem_flatten_of_mem hrun' (List.mem_mergeSort.mp hi)
        rw [isOneLine_append, hspec i (List.mem_mergeSort.mp hsorted)]
        exact ⟨rfl, by simp⟩
    · exact ⟨rfl, by simp⟩

theorem isOneLine_standardName? {path name : String} (h : standardName? path = some name) :
    isOneLine name = true := by
  have hall : standardPackages.all isOneLine = true := by decide +kernel
  rw [standardName?] at h
  split at h
  · cases h
    rfl
  · split at h
    · rename_i hmem
      have hpath := List.all_eq_true.mp hall path (List.contains_iff_mem.mp hmem)
      cases h
      rw [isOneLine_iff] at hpath ⊢
      rw [String.toList_ofList, lastElement, List.mem_reverse]
      exact fun hfeed => hpath (List.mem_reverse.mp ((List.takeWhile_prefix _).subset hfeed))
    · cases h

theorem isOneLine_guessName (path : String) : isOneLine (guessName path) = true := by
  have hfeed : (('a' ≤ '\n' && '\n' ≤ 'z') || '\n'.isDigit) = false := by decide
  unfold guessName
  extract_lets chars path kept
  split
  · rfl
  · rename_i name hname
    rw [isOneLine_iff, String.toList_ofList]
    intro hmem
    have hkept := List.mem_filter.mp ((List.dropWhile_suffix _).subset hmem)
    rw [hfeed] at hkept
    cases hkept.2

theorem isOneLine_toString (n : Nat) : isOneLine (toString n) = true := by
  rw [isOneLine_iff]
  show '\n' ∉ (String.ofList (Nat.toDigits 10 n)).toList
  rw [String.toList_ofList]
  exact toDigits_ne_feed (by decide) (by decide) n

theorem Imports.isOneLine_numbered (is : Imports) {name : String} (h : isOneLine name = true)
    (count n : Nat) : isOneLine (is.numbered name count n) = true := by
  induction count generalizing n with
  | zero => rw [numbered, isOneLine_append, h, isOneLine_toString]; rfl
  | succ count ih =>
    rw [numbered]
    split
    · rw [isOneLine_append, h, isOneLine_toString]
      rfl
    · exact ih (n + 1)

theorem Imports.isOneLine_freeName (is : Imports) {name : String} (h : isOneLine name = true) :
    isOneLine (is.freeName name) = true := by
  rw [freeName]
  split
  · exact h
  · exact is.isOneLine_numbered h _ _

/-- The packages of a file are known by names that stand on one line. -/
theorem Imports.isOneLine_of_mem_ofPaths {known name : String} (hname : isOneLine name = true)
    (paths : List String) : ∀ i ∈ ofPaths (some (known, name)) paths, isOneLine i.name = true := by
  have huse : ∀ (is : Imports) (path : String), (∀ i ∈ is, isOneLine i.name = true) →
      ∀ i ∈ use (some (known, name)) is path, isOneLine i.name = true := by
    intro is path his i hi
    unfold use at hi
    split at hi
    · exact his i hi
    · split at hi
      · rcases List.mem_append.mp hi with hi | hi
        · exact his i hi
        · rw [List.mem_singleton.mp hi]
          show isOneLine "C" = true
          rfl
      · rcases List.mem_append.mp hi with hi | hi
        · exact his i hi
        · rw [List.mem_singleton.mp hi]
          apply is.isOneLine_freeName
          split
          · rename_i known' name' heq
            obtain ⟨rfl, rfl⟩ : known = known' ∧ name = name' := by simpa using heq
            split
            · exact hname
            · cases h : standardName? path with
              | none => exact isOneLine_guessName path
              | some name' => exact isOneLine_standardName? h
          · rename_i heq
            cases heq
  rw [ofPaths]
  exact List.foldlRecOn paths (use (some (known, name))) (by simp) fun is his path _ => huse is path his

theorem Imports.isOneLine_nameOf {is : Imports} (h : ∀ i ∈ is, isOneLine i.name = true) (path : String) :
    isOneLine (is.nameOf path) = true := by
  rw [nameOf]
  cases hfind : is.find path with
  | none => rfl
  | some i => exact h i (List.mem_of_find?_eq_some hfind)

/-! ### Files -/

/-- The texts of a declaration that are no comments. -/
def Body.texts : Body → List String
  | lines texts => texts
  | table opening rows closing => opening :: closing :: (rows.filterMap Row.cells?).flatten

/-- The lines of a declaration that begin at the margin. -/
def Body.margin : Body → List String
  | lines texts => texts
  | table opening _ closing => [opening, closing]

/-- A file of single lines, with comments that are comments. -/
structure File.IsLegible (f : File) : Prop where
  header : isOneLine f.header = true
  package : isOneLine f.package = true
  imports : ∀ i ∈ f.imports, isOneLine i.name = true
  comments : ∀ i ∈ f.items, ∀ l ∈ i.comments, IsCommentLine l ∧ isOneLine l = true
  texts : ∀ i ∈ f.items, ∀ s ∈ i.body.texts, isOneLine s = true
  margin : ∀ i ∈ f.items, ∀ s ∈ i.body.margin, s.toList.head? ≠ some '/'

theorem isOneLine_padRight {s : String} (h : isOneLine s = true) (width : Nat) :
    isOneLine (padRight width s) = true := by
  rw [padRight, isOneLine_append, h, Bool.true_and, isOneLine_iff, String.toList_ofList]
  exact fun hmem => absurd (List.eq_of_mem_replicate hmem) (by decide)

theorem isOneLine_of_mem_alignCells {columns : Nat} {rows : List (List String)}
    (h : ∀ r ∈ rows, ∀ s ∈ r, isOneLine s = true) {l : String} (hl : l ∈ alignCells columns rows) :
    isOneLine l = true := by
  induction columns generalizing rows l with
  | zero =>
    obtain ⟨r, hr, rfl⟩ := List.mem_map.mp hl
    exact isOneLine_join (h r hr)
  | succ columns ih =>
    rw [alignCells] at hl
    obtain ⟨group, hgroup, hl⟩ := List.mem_flatMap.mp hl
    have hrows : ∀ r ∈ group, ∀ s ∈ r, isOneLine s = true := by
      intro r hr
      apply h
      rw [← List.flatten_splitBy (fun a b => decide (1 < a.length) == decide (1 < b.length)) rows]
      exact List.mem_flatten_of_mem hgroup hr
    split at hl
    · rw [← List.map_uncurry_zip_eq_zipWith] at hl
      obtain ⟨⟨r, rest⟩, hzip, rfl⟩ := List.mem_map.mp hl
      obtain ⟨hr, hrest⟩ := List.of_mem_zip hzip
      rw [Function.uncurry_apply_pair, isOneLine_append, Bool.and_eq_true]
      constructor
      · apply isOneLine_padRight
        cases r with
        | nil => rfl
        | cons cell cells => exact hrows _ hr cell List.mem_cons_self
      · refine ih ?_ hrest
        intro t ht s hs
        obtain ⟨r, hr, rfl⟩ := List.mem_map.mp ht
        exact hrows r hr s (List.mem_of_mem_tail hs)
    · obtain ⟨r, hr, rfl⟩ := List.mem_map.mp hl
      exact isOneLine_join (hrows r hr)

theorem isOneLine_of_mem_alignRows {rows : List Row}
    (hcells : ∀ s ∈ (rows.filterMap Row.cells?).flatten, isOneLine s = true)
    (hcomments : ∀ s ∈ rows.filterMap Row.comment?, isOneLine s = true) {l : String}
    (hl : l ∈ alignRows rows) : isOneLine l = true := by
  have hrow : ∀ cs, .cells cs ∈ rows → ∀ s ∈ cs, isOneLine s = true := fun cs hcs s hs =>
    hcells s (List.mem_flatten_of_mem (List.mem_filterMap.mpr ⟨_, hcs, rfl⟩) hs)
  rw [alignRows_eq] at hl
  split at hl
  · obtain ⟨r, hr, rfl⟩ := List.mem_map.mp hl
    cases r with
    | comment l => exact hcomments l (List.mem_filterMap.mpr ⟨_, hr, rfl⟩)
    | cells cs => exact isOneLine_intercalate rfl (hrow cs hr)
  · obtain ⟨group, hgroup, hl⟩ := List.mem_flatMap.mp hl
    have hmem : ∀ r ∈ group, r ∈ rows := by
      intro r hr
      rw [← List.flatten_splitBy (fun a b => a.cells?.isSome == b.cells?.isSome) rows]
      exact List.mem_flatten_of_mem hgroup hr
    rcases List.mem_append.mp hl with hl | hl
    · obtain ⟨r, hr, hrl⟩ := List.mem_filterMap.mp hl
      exact hcomments l (List.mem_filterMap.mpr ⟨r, hmem r hr, hrl⟩)
    · refine isOneLine_of_mem_alignCells ?_ hl
      intro cs hcs s hs
      obtain ⟨r, hr, hrcs⟩ := List.mem_filterMap.mp hcs
      exact hcells s (List.mem_flatten_of_mem (List.mem_filterMap.mpr ⟨r, hmem r hr, hrcs⟩) hs)

theorem isOneLine_cleanComment {l : String} (h : isOneLine l = true) :
    isOneLine (cleanComment l) = true := by
  rw [isOneLine_iff] at h ⊢
  rw [cleanComment, String.toList_ofList]
  exact fun hmem => h (List.mem_of_mem_filter (mem_of_mem_trimEnd hmem))

/-- A line of a declaration has no line feed, and none of them speaks to the compiler. -/
theorem Body.isOneLine_of_mem_render {b : Body} (htexts : ∀ s ∈ b.texts, isOneLine s = true)
    (hmargin : ∀ s ∈ b.margin, s.toList.head? ≠ some '/')
    (hcomments : ∀ s ∈ b.comments, isOneLine s = true) {l : String} (hl : l ∈ b.render) :
    isOneLine l = true ∧ l.toList.head? ≠ some '/' := by
  cases b with
  | lines texts => exact ⟨htexts l hl, hmargin l hl⟩
  | table opening rows closing =>
    rw [render] at hl
    rcases List.mem_append.mp hl with hl | hl
    · rcases List.mem_cons.mp hl with rfl | hl
      · exact ⟨htexts l List.mem_cons_self, hmargin l List.mem_cons_self⟩
      · obtain ⟨l', hl', rfl⟩ := List.mem_map.mp hl
        have hrow : isOneLine l' = true := isOneLine_of_mem_alignRows
          (fun s hs => htexts s (List.mem_cons_of_mem _ (List.mem_cons_of_mem _ hs))) hcomments hl'
        rw [isOneLine_append, hrow]
        exact ⟨rfl, by simp⟩
    · obtain rfl := List.mem_singleton.mp hl
      exact ⟨htexts l (by simp [texts]), hmargin l (by simp [margin])⟩

theorem Item.texts_kept (i : Item) : i.kept.body.texts = i.body.texts := by
  cases h : i.body with
  | lines texts => simp [kept, withoutConstraints, clean, h, Body.texts]
  | table opening rows closing =>
    simp only [kept, withoutConstraints, clean, h, Body.texts]
    rw [filterMap_cells?_filter fun _ => rfl, List.filterMap_map,
      List.filterMap_congr fun r _ => r.cells?_clean]

theorem Item.margin_kept (i : Item) : i.kept.body.margin = i.body.margin := by
  cases h : i.body with
  | lines texts => simp [kept, withoutConstraints, clean, h, Body.margin]
  | table opening rows closing => simp [kept, withoutConstraints, clean, h, Body.margin]

theorem isDirective_of_head? {l : List Char} (h : l.head? ≠ some '/') : isDirective l = false := by
  cases l with
  | nil => rfl
  | cons c l =>
    have hc : ('/' == c) = false := by
      rw [beq_eq_false_iff_ne]
      rintro rfl
      exact h rfl
    rw [isDirective, show "//go:".toList = '/' :: ['/', 'g', 'o', ':'] from rfl,
      List.isPrefixOf_cons_cons, hc, Bool.false_and]

/-- The lines that state the constraints of a file have no line feeds. -/
theorem File.isOneLine_of_mem_constraintLines {f : File} {l : String}
    (hl : l ∈ constraintLines f.constraints) : isOneLine l = true := by
  refine Source.isOneLine_of_mem_constraintLines ?_ hl
  intro c hc
  obtain ⟨line, -, hline⟩ := List.mem_filterMap.mp hc
  exact Constraint.isOneLine_of_ofComment? hline

namespace File.IsLegible

variable {f : File}

theorem item (h : f.IsLegible) {i : Item} (hi : i ∈ f.items) {l : String} (hl : l ∈ i.kept.render) :
    isOneLine l = true ∧ isDirective l.toList = false := by
  rcases List.mem_append.mp hl with hl | hl
  · obtain ⟨text, htext, hfeed, hhead⟩ := exists_of_mem_reflow hl
    rw [isOneLine_iff, htext]
    refine ⟨by simp [hfeed], ?_⟩
    cases text with
    | nil => rfl
    | cons c text => rcases hhead c rfl with rfl | rfl <;> rfl
  · have hcomments : ∀ s ∈ i.kept.body.comments, isOneLine s = true := by
      intro s hs
      have hmem : s ∈ i.kept.comments := by
        rw [Item.comments_eq]
        exact List.mem_append_right _ hs
      obtain ⟨l', hl', rfl, -⟩ := Item.exists_of_mem_comments_kept hmem
      exact isOneLine_cleanComment (h.comments i hi l' hl').2
    have hbody := Body.isOneLine_of_mem_render (by rw [i.texts_kept]; exact h.texts i hi)
      (by rw [i.margin_kept]; exact h.margin i hi) hcomments hl
    exact ⟨hbody.1, isDirective_of_head? hbody.2⟩

/-- A line of a legible file has no line feed, and it speaks to the compiler only if it states a
constraint. -/
theorem line (h : f.IsLegible) {l : String} (hl : l ∈ f.lines) :
    isOneLine l = true ∧ (isDirective l.toList = true → l ∈ constraintLines f.constraints) := by
  -- all lines but those that state constraints are no directives
  have hother : ∀ {l : String}, isOneLine l = true ∧ isDirective l.toList = false →
      isOneLine l = true ∧ (isDirective l.toList = true → l ∈ constraintLines f.constraints) := by
    rintro l ⟨hone, hnone⟩
    refine ⟨hone, fun hdirective => ?_⟩
    rw [hnone] at hdirective
    cases hdirective
  rcases mem_part_of_mem_lines hl with rfl | ⟨part, hpart, hl⟩
  · exact hother ⟨rfl, rfl⟩
  · rw [parts] at hpart
    rcases List.mem_append.mp hpart with hpart | hpart
    · simp only [List.mem_cons, List.not_mem_nil, or_false] at hpart
      rcases hpart with rfl | rfl | rfl | rfl
      · obtain rfl := List.mem_singleton.mp hl
        refine hother ⟨?_, ?_⟩
        · rw [isOneLine_append, h.header]
          rfl
        · rw [isDirective, String.toList_append]
          rfl
      · exact ⟨isOneLine_of_mem_constraintLines hl, fun _ => hl⟩
      · obtain rfl := List.mem_singleton.mp hl
        refine hother ⟨?_, isDirective_of_head? (by simp)⟩
        rw [isOneLine_append, h.package]
        rfl
      · have himport := Imports.isOneLine_of_mem_render h.imports hl
        exact hother ⟨himport.1, isDirective_of_head? himport.2⟩
    · obtain ⟨i, hi, rfl⟩ := List.mem_map.mp hpart
      exact hother (h.item hi hl)

/-- The words of a legible file are those of its package clause, its imports and its declarations. -/
theorem codeWords_render (h : f.IsLegible) :
    codeWords f.render = lineWords ("package " ++ f.package) ++
      f.imports.render.flatMap lineWords ++ f.items.flatMap (·.body.words) := by
  rw [render_eq, codeWords_unlines fun l hl => (h.line hl).1]
  exact flatMap_lines fun i hi l hl => (h.comments i hi l hl).1

/-- A legible file speaks to the compiler exactly if it has a build constraint. -/
theorem directives_render_eq_nil_iff (h : f.IsLegible) :
    directives f.render = [] ↔ f.constraints = [] := by
  rw [render_eq, directives_unlines fun l hl => (h.line hl).1, List.filter_eq_nil_iff]
  constructor
  · intro hnone
    cases hcs : f.constraints with
    | nil => rfl
    | cons c cs =>
      have hlines : constraintLines f.constraints ∈ f.parts := by
        simp [parts]
      obtain ⟨l, hl, hdirective⟩ : ∃ l ∈ constraintLines f.constraints, isDirective l.toList = true := by
        rw [hcs]
        refine ⟨_, List.mem_cons_self, ?_⟩
        rw [isDirective, String.toList_append, List.isPrefixOf_iff_prefix]
        have hmark : "//go:".toList <+: "//go:build ".toList := ⟨_, rfl⟩
        exact hmark.trans (List.prefix_append _ _)
      exact absurd hdirective (hnone _ (List.mem_map_of_mem (mem_lines_of_mem_part hlines hl)))
  · intro hcs l hl hdirective
    obtain ⟨l', hl', rfl⟩ := List.mem_map.mp hl
    have hmem := (h.line hl').2 hdirective
    rw [hcs] at hmem
    cases hmem

end File.IsLegible

/-- A comment whose first word is the mark of a build constraint, carriage returns left out. -/
def IsConstraintLine (line : String) : Prop :=
  (fields ((cleanComment line).toList.drop 2)).head? = some "+build".toList

theorem File.constraints_eq_nil_iff {f : File} :
    f.constraints = [] ↔ ∀ i ∈ f.items, ∀ l ∈ i.comments, ¬ IsConstraintLine l := by
  have hline : ∀ l, Constraint.ofComment? (cleanComment l) = none ↔ ¬ IsConstraintLine l := by
    intro l
    rw [IsConstraintLine, ← Constraint.isSome_ofComment?_iff, Bool.not_eq_true, Option.isSome_eq_false_iff,
      Option.isNone_iff_eq_none]
  rw [constraints, List.filterMap_eq_nil_iff, List.flatMap_map]
  constructor
  · intro hnone i hi l hl
    apply (hline l).mp
    apply hnone
    rw [List.mem_flatMap]
    refine ⟨i, hi, ?_⟩
    rw [i.comments_clean]
    exact List.mem_map_of_mem hl
  · intro hnone l hl
    obtain ⟨i, hi, hl⟩ := List.mem_flatMap.mp hl
    rw [i.comments_clean] at hl
    obtain ⟨l', hl', rfl⟩ := List.mem_map.mp hl
    exact (hline l').mpr (hnone i hi l' hl')

end Bindery.Source
