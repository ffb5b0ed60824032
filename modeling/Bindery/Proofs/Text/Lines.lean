import Mathlib.Data.List.DropRight
import Bindery.Bindings.Doc

/-!
# Texts and their lines

A text is cut into lines in three steps: carriage returns before line feeds are left out, line feeds and
blanks at the end are dropped, and what is left is cut at its line feeds, each piece without the blanks at
its end. The steps drop different characters. A carriage return that stands before no line feed is a blank
for a line but not for the text, so a text can end in a blank line if there is such a carriage return in it.

## Main definitions

- `TellsBlanks` — an alphabet in which line feeds, carriage returns, spaces and tabs differ
- `IsBlankText` — a text of line feeds, carriage returns, spaces and tabs
- `EndsInStrayReturn` — a text whose last lines are blank and hold a carriage return before no line feed

## Main results

- `feed_notMem_of_mem_linesOf`, `trimmed_of_mem_linesOf` — what a line is
- `linesOf_eq_nil_iff` — when a text has no lines
- `getLast?_linesOf_eq_nil_iff` — when the last line of a text is empty
- `linesOf_intercalate` — the lines of lines that are joined
-/

namespace Bindery

/-! ### Pieces and ends of a text -/

section Pieces

variable {α : Type}

theorem trimEnd_eq_rdropWhile (p : α → Bool) (cs : List α) : trimEnd p cs = cs.rdropWhile p :=
  rfl

theorem splitWhen_eq_splitOnP (p : α → Bool) (cs : List α) : splitWhen p cs = cs.splitOnP p := by
  induction cs with
  | nil => rfl
  | cons c rest ih =>
    rw [splitWhen, ih, List.splitOnP_cons_eq_if_modifyHead]
    split
    · rfl
    · cases h : rest.splitOnP p with
      | nil => exact absurd h (List.splitOnP_ne_nil p rest)
      | cons piece pieces => rfl

theorem splitWhen_ne_nil (p : α → Bool) (cs : List α) : splitWhen p cs ≠ [] := by
  rw [splitWhen_eq_splitOnP]
  exact List.splitOnP_ne_nil p cs

theorem splitWhen_of_forall {p : α → Bool} {cs : List α} (h : ∀ c ∈ cs, p c = false) :
    splitWhen p cs = [cs] := by
  rw [splitWhen_eq_splitOnP, List.splitOnP_eq_singleton h]

/-- A text is cut after each separator. -/
theorem splitWhen_append_cons {p : α → Bool} {sep : α} (h : p sep = true) (cs ds : List α) :
    splitWhen p (cs ++ sep :: ds) = splitWhen p cs ++ splitWhen p ds := by
  simp only [splitWhen_eq_splitOnP, List.splitOnP_append_cons cs ds h]

/-- No piece holds a separator. -/
theorem not_of_mem_splitWhen {p : α → Bool} {cs piece : List α} (h : piece ∈ splitWhen p cs) {c : α}
    (hc : c ∈ piece) : p c = false ∧ c ∈ cs := by
  induction cs generalizing piece with
  | nil =>
    rw [List.mem_singleton.mp h] at hc
    cases hc
  | cons d rest ih =>
    rw [splitWhen_eq_splitOnP, List.splitOnP_cons_eq_if_modifyHead, ← splitWhen_eq_splitOnP] at h
    by_cases hd : p d = true
    · rw [if_pos hd] at h
      rcases List.mem_cons.mp h with rfl | h
      · cases hc
      · exact ⟨(ih h hc).1, List.mem_cons_of_mem d (ih h hc).2⟩
    · rw [if_neg hd] at h
      cases hrest : splitWhen p rest with
      | nil => exact absurd hrest (splitWhen_ne_nil p rest)
      | cons first others =>
        rw [hrest] at h
        rcases List.mem_cons.mp h with rfl | h
        · rcases List.mem_cons.mp hc with rfl | hc
          · exact ⟨by simpa using hd, List.mem_cons_self⟩
          · have hfirst : first ∈ splitWhen p rest := by
              rw [hrest]
              exact List.mem_cons_self
            exact ⟨(ih hfirst hc).1, List.mem_cons_of_mem d (ih hfirst hc).2⟩
        · have hother : piece ∈ splitWhen p rest := by
            rw [hrest]
            exact List.mem_cons_of_mem _ h
          exact ⟨(ih hother hc).1, List.mem_cons_of_mem d (ih hother hc).2⟩

/-- The last piece is what stands after the last separator. -/
theorem splitWhen_eq_concat (p : α → Bool) (cs : List α) :
    ∃ pieces, splitWhen p cs = pieces ++ [cs.rtakeWhile fun c => !p c] := by
  have hlast : ∀ c ∈ cs.rtakeWhile (fun c => !p c), p c = false := fun c hc => by
    simpa using List.mem_rtakeWhile_imp hc
  have hsplit : cs.rdropWhile (fun c => !p c) ++ cs.rtakeWhile (fun c => !p c) = cs :=
    List.rdropWhile_append_rtakeWhile
  by_cases hfront : cs.rdropWhile (fun c => !p c) = []
  · refine ⟨[], ?_⟩
    rw [hfront, List.nil_append] at hsplit
    rw [hsplit] at hlast ⊢
    exact splitWhen_of_forall hlast
  · -- the front ends with the last separator
    have hsep : p ((cs.rdropWhile fun c => !p c).getLast hfront) = true := by
      simpa using List.rdropWhile_last_not (fun c => !p c) cs hfront
    refine ⟨splitWhen p (cs.rdropWhile fun c => !p c).dropLast, ?_⟩
    conv_lhs => rw [← hsplit, ← List.dropLast_append_getLast hfront, List.append_assoc,
      List.singleton_append, splitWhen_append_cons hsep, splitWhen_of_forall hlast]

theorem trimEnd_concat {p : α → Bool} {c : α} (h : p c = false) (cs : List α) :
    trimEnd p (cs ++ [c]) = cs ++ [c] :=
  List.rdropWhile_concat_neg p cs c (by simp [h])

theorem trimEnd_of_forall {p : α → Bool} {cs : List α} (h : ∀ c ∈ cs, p c = true) :
    trimEnd p cs = [] :=
  List.rdropWhile_eq_nil_iff.mpr h

theorem mem_of_mem_trimEnd {p : α → Bool} {cs : List α} {c : α} (h : c ∈ trimEnd p cs) : c ∈ cs :=
  (List.rdropWhile_prefix p cs).subset h

/-- A trimmed text does not end with what it is trimmed of. -/
theorem not_of_getLast?_trimEnd {p : α → Bool} {cs : List α} {c : α}
    (h : (trimEnd p cs).getLast? = some c) : p c = false := by
  have hne : trimEnd p cs ≠ [] := by
    intro hnil
    rw [hnil] at h
    cases h
  have hlast := List.rdropWhile_last_not p cs hne
  rw [List.getLast?_eq_some_getLast hne] at h
  rw [← Option.some.inj h]
  exact Bool.eq_false_iff.mpr hlast

theorem trimEnd_of_getLast? {p : α → Bool} {cs : List α} (h : ∀ c, cs.getLast? = some c → p c = false) :
    trimEnd p cs = cs := by
  refine List.rdropWhile_eq_self_iff.mpr fun hne => ?_
  have hlast := h _ (List.getLast?_eq_some_getLast hne)
  simpa using hlast

theorem trimEnd_isEmpty_eq_iff {lines : List (List α)} :
    trimEnd List.isEmpty lines = lines ↔ lines.getLast? ≠ some [] := by
  rw [trimEnd_eq_rdropWhile, List.rdropWhile_eq_self_iff]
  constructor
  · intro h hlast
    have hne : lines ≠ [] := by
      rintro rfl
      cases hlast
    rw [List.getLast?_eq_some_getLast hne] at hlast
    exact h hne (by rw [Option.some.inj hlast, List.isEmpty_nil])
  · intro h hne hempty
    exact h (by rw [List.getLast?_eq_some_getLast hne, List.isEmpty_iff.mp hempty])

theorem mem_of_mem_intersperse {sep a : α} {as : List α} (h : a ∈ as.intersperse sep) :
    a = sep ∨ a ∈ as := by
  induction as with
  | nil => cases h
  | cons b as ih =>
    cases as with
    | nil => exact .inr h
    | cons c as =>
      rw [List.intersperse_cons_cons] at h
      rcases List.mem_cons.mp h with rfl | h
      · exact .inr List.mem_cons_self
      · rcases List.mem_cons.mp h with rfl | h
        · exact .inl rfl
        · exact (ih h).imp_right (List.mem_cons_of_mem b)

theorem mem_intersperse_of_mem {a : α} (sep : α) {as : List α} (h : a ∈ as) :
    a ∈ as.intersperse sep := by
  induction as with
  | nil => cases h
  | cons b as ih =>
    cases as with
    | nil => exact h
    | cons c as =>
      rw [List.intersperse_cons_cons]
      rcases List.mem_cons.mp h with rfl | h
      · exact List.mem_cons_self
      · exact List.mem_cons_of_mem _ (List.mem_cons_of_mem _ (ih h))

theorem intercalate_concat (sep : List α) {init : List (List α)} (h : init ≠ []) (last : List α) :
    sep.intercalate (init ++ [last]) = sep.intercalate init ++ (sep ++ last) := by
  induction init with
  | nil => exact absurd rfl h
  | cons line rest ih =>
    cases rest with
    | nil => simp
    | cons other rest =>
      rw [List.cons_append, List.cons_append, List.intercalate_cons_cons, ← List.cons_append,
        ih (by simp), List.intercalate_cons_cons]
      simp only [List.append_assoc]

end Pieces

/-! ### Line breaks -/

section Breaks

variable {α : Type} [BEq α] [LawfulBEq α] {unit : Char → α}

theorem unixLines_cons {c : α} {rest : List α}
    (h : ¬ (c = unit '\r' ∧ rest.head? = some (unit '\n'))) :
    unixLines unit (c :: rest) = c :: unixLines unit rest := by
  rw [unixLines, if_neg (by simpa using h)]

theorem unixLines_return {rest : List α} (h : rest.head? = some (unit '\n')) :
    unixLines unit (unit '\r' :: rest) = unixLines unit rest := by
  rw [unixLines, if_pos (by simp [h])]

/-- Two texts are treated one by one, unless the cut goes through a line break. -/
theorem unixLines_append {cs ds : List α}
    (h : ¬ (cs.getLast? = some (unit '\r') ∧ ds.head? = some (unit '\n'))) :
    unixLines unit (cs ++ ds) = unixLines unit cs ++ unixLines unit ds := by
  induction cs with
  | nil => rfl
  | cons c rest ih =>
    cases rest with
    | nil =>
      have hc : ¬ (c = unit '\r' ∧ ds.head? = some (unit '\n')) := by simpa using h
      have hnil : unixLines unit [c] = [c] := unixLines_cons (by simp)
      rw [List.singleton_append, unixLines_cons hc, hnil, List.singleton_append]
    | cons d rest =>
      have hrest := ih (by simpa [List.getLast?_cons_cons] using h)
      by_cases hc : c = unit '\r' ∧ d = unit '\n'
      · obtain ⟨rfl, rfl⟩ := hc
        rw [List.cons_append, unixLines_return (by rfl), unixLines_return (by rfl), hrest]
      · rw [List.cons_append, unixLines_cons (by simpa using hc), unixLines_cons (by simpa using hc),
          hrest, List.cons_append]

theorem mem_of_mem_unixLines {cs : List α} {c : α} (h : c ∈ unixLines unit cs) : c ∈ cs := by
  induction cs with
  | nil => cases h
  | cons d rest ih =>
    by_cases hd : d = unit '\r' ∧ rest.head? = some (unit '\n')
    · rw [hd.1, unixLines_return hd.2] at h
      exact List.mem_cons_of_mem d (ih h)
    · rw [unixLines_cons hd] at h
      rcases List.mem_cons.mp h with rfl | h
      · exact List.mem_cons_self
      · exact List.mem_cons_of_mem d (ih h)

/-- Only carriage returns are left out. -/
theorem mem_unixLines_or_eq (unit : Char → α) {cs : List α} {c : α} (h : c ∈ cs) :
    c ∈ unixLines unit cs ∨ c = unit '\r' := by
  induction cs with
  | nil => cases h
  | cons d rest ih =>
    by_cases hd : d = unit '\r' ∧ rest.head? = some (unit '\n')
    · rw [hd.1, unixLines_return hd.2]
      rcases List.mem_cons.mp h with rfl | h
      · exact .inr hd.1
      · exact ih h
    · rw [unixLines_cons hd]
      rcases List.mem_cons.mp h with rfl | h
      · exact .inl List.mem_cons_self
      · exact (ih h).imp_left (List.mem_cons_of_mem d)

/-- A carriage return that is kept stands before no line feed. -/
theorem exists_of_return_mem {cs : List α} (h : unit '\r' ∈ unixLines unit cs) :
    ∃ before after, cs = before ++ unit '\r' :: after ∧ after.head? ≠ some (unit '\n') := by
  induction cs with
  | nil => cases h
  | cons d rest ih =>
    have hlater : unit '\r' ∈ unixLines unit rest → ∃ before after,
        d :: rest = before ++ unit '\r' :: after ∧ after.head? ≠ some (unit '\n') := by
      intro hmem
      obtain ⟨before, after, hrest, hafter⟩ := ih hmem
      exact ⟨d :: before, after, by rw [hrest, List.cons_append], hafter⟩
    by_cases hd : d = unit '\r' ∧ rest.head? = some (unit '\n')
    · rw [hd.1, unixLines_return hd.2] at h
      exact hlater h
    · rw [unixLines_cons hd] at h
      rcases List.mem_cons.mp h with heq | h
      · exact ⟨[], rest, by rw [heq, List.nil_append], fun hhead => hd ⟨heq.symm, hhead⟩⟩
      · exact hlater h

/-- Where a treated text is cut, the text can be cut, too. -/
theorem exists_of_unixLines_eq_append {cs front tail : List α}
    (h : unixLines unit cs = front ++ tail) :
    ∃ before after, cs = before ++ after ∧ unixLines unit after = tail ∧
      before.getLast? = front.getLast? := by
  induction cs generalizing front with
  | nil =>
    obtain ⟨rfl, rfl⟩ := List.append_eq_nil_iff.mp h.symm
    exact ⟨[], [], rfl, rfl, rfl⟩
  | cons c rest ih =>
    cases front with
    | nil => exact ⟨[], c :: rest, rfl, h, rfl⟩
    | cons d front =>
      by_cases hc : c = unit '\r' ∧ rest.head? = some (unit '\n')
      · rw [hc.1, unixLines_return hc.2] at h
        obtain ⟨before, after, hrest, hafter, hlast⟩ := ih h
        have hbefore : before ≠ [] := by
          rintro rfl
          simp [List.getLast?_cons] at hlast
        refine ⟨c :: before, after, by rw [hrest, List.cons_append], hafter, ?_⟩
        rw [← hlast, List.getLast?_cons]
        cases hb : before.getLast? with
        | none => exact absurd (List.getLast?_eq_none_iff.mp hb) hbefore
        | some b => rfl
      · rw [unixLines_cons hc, List.cons_append] at h
        obtain ⟨before, after, hrest, hafter, hlast⟩ := ih (List.cons.inj h).2
        refine ⟨c :: before, after, by rw [hrest, List.cons_append], hafter, ?_⟩
        rw [(List.cons.inj h).1, List.getLast?_cons, List.getLast?_cons, hlast]

theorem unixLines_of_return_notMem {cs : List α} (h : unit '\r' ∉ cs) : unixLines unit cs = cs := by
  induction cs with
  | nil => rfl
  | cons c rest ih =>
    have hc : c ≠ unit '\r' := fun heq => h (heq ▸ List.mem_cons_self)
    rw [unixLines_cons fun hreturn => hc hreturn.1, ih fun hmem => h (List.mem_cons_of_mem c hmem)]

theorem unixLines_of_feed_notMem {cs : List α} (h : unit '\n' ∉ cs) : unixLines unit cs = cs := by
  induction cs with
  | nil => rfl
  | cons c rest ih =>
    have hhead : rest.head? ≠ some (unit '\n') := fun hhead =>
      h (List.mem_cons_of_mem c (List.mem_of_head? hhead))
    rw [unixLines_cons fun hreturn => hhead hreturn.2, ih fun hmem => h (List.mem_cons_of_mem c hmem)]

end Breaks

/-! ### Lines -/

/-- Line feed, carriage return, space and tab. -/
def blankChars : List Char :=
  ['\n', '\r', ' ', '\t']

section Lines

variable {α : Type} (unit : Char → α)

/-- An alphabet in which the blank characters differ. -/
def TellsBlanks : Prop :=
  ∀ c ∈ blankChars, ∀ d ∈ blankChars, unit c = unit d → c = d

/-- A text of blank characters. -/
def IsBlankText (cs : List α) : Prop :=
  ∀ c ∈ cs, c ∈ blankChars.map unit

/-- A text whose last lines are blank and hold a carriage return that stands before no line feed. -/
def EndsInStrayReturn (cs : List α) : Prop :=
  ∃ front blank rest, cs = front ++ (blank ++ unit '\r' :: rest) ∧
    (∀ c, front.getLast? = some c → c = unit '\n') ∧
    IsBlankText unit blank ∧ IsBlankText unit rest ∧ rest.head? ≠ some (unit '\n')

variable {unit}

theorem TellsBlanks.ne (h : TellsBlanks unit) {c d : Char} (hc : c ∈ blankChars)
    (hd : d ∈ blankChars) (hne : c ≠ d) : unit c ≠ unit d :=
  fun heq => hne (h c hc d hd heq)

theorem isBlankText_append {cs ds : List α} :
    IsBlankText unit (cs ++ ds) ↔ IsBlankText unit cs ∧ IsBlankText unit ds :=
  List.forall_mem_append

variable [BEq α]

variable (unit) in
/-- A text with unified line breaks, without line feeds, spaces and tabs at its end. -/
def bareText (text : List α) : List α :=
  trimEnd (isAnyOf unit ['\n', ' ', '\t']) (unixLines unit text)

variable {text : List α}

theorem linesOf_of_nil (h : bareText unit text = []) : linesOf unit text = [] := by
  have hbare : trimEnd (isAnyOf unit ['\n', ' ', '\t']) (unixLines unit text) = [] := h
  rw [linesOf, hbare]

theorem linesOf_of_ne_nil (h : bareText unit text ≠ []) :
    linesOf unit text = (splitWhen (· == unit '\n') (bareText unit text)).map
      (trimEnd (isAnyOf unit [' ', '\t', '\r'])) := by
  have hbare : trimEnd (isAnyOf unit ['\n', ' ', '\t']) (unixLines unit text) ≠ [] := h
  rw [linesOf]
  split
  · next hnil => exact absurd hnil hbare
  · rfl

theorem linesOf_eq_nil_iff_bareText : linesOf unit text = [] ↔ bareText unit text = [] := by
  constructor
  · intro h
    by_contra hne
    rw [linesOf_of_ne_nil hne] at h
    exact splitWhen_ne_nil _ _ (List.map_eq_nil_iff.mp h)
  · exact linesOf_of_nil

/-- A line is a piece of the text without the blanks at its end. -/
theorem exists_of_mem_linesOf {line : List α} (h : line ∈ linesOf unit text) :
    ∃ piece ∈ splitWhen (· == unit '\n') (bareText unit text),
      line = trimEnd (isAnyOf unit [' ', '\t', '\r']) piece := by
  by_cases hbare : bareText unit text = []
  · rw [linesOf_of_nil hbare] at h
    cases h
  · rw [linesOf_of_ne_nil hbare] at h
    obtain ⟨piece, hpiece, rfl⟩ := List.mem_map.mp h
    exact ⟨piece, hpiece, rfl⟩

/-- The last line is what stands after the last line feed, without the blanks at its end. -/
theorem getLast?_linesOf (h : bareText unit text ≠ []) :
    (linesOf unit text).getLast? = some (trimEnd (isAnyOf unit [' ', '\t', '\r'])
      ((bareText unit text).rtakeWhile fun c => !(c == unit '\n'))) := by
  obtain ⟨pieces, hpieces⟩ := splitWhen_eq_concat (· == unit '\n') (bareText unit text)
  rw [linesOf_of_ne_nil h, hpieces, List.map_append, List.map_singleton, List.getLast?_concat]

variable [LawfulBEq α]

theorem isAnyOf_iff {chars : List Char} {c : α} :
    isAnyOf unit chars c = true ↔ c ∈ chars.map unit := by
  simp only [isAnyOf, List.any_eq_true, beq_iff_eq, List.mem_map]
  exact exists_congr fun d => and_congr_right fun _ => eq_comm

theorem feed_notMem_of_mem_linesOf {line : List α} (h : line ∈ linesOf unit text) :
    unit '\n' ∉ line := by
  obtain ⟨piece, hpiece, rfl⟩ := exists_of_mem_linesOf h
  intro hmem
  have hfeed := (not_of_mem_splitWhen hpiece (mem_of_mem_trimEnd hmem)).1
  exact absurd rfl (ne_of_beq_false hfeed)

theorem trimmed_of_mem_linesOf {line : List α} (h : line ∈ linesOf unit text) {c : α}
    (hc : line.getLast? = some c) : c ≠ unit ' ' ∧ c ≠ unit '\t' ∧ c ≠ unit '\r' := by
  obtain ⟨piece, -, rfl⟩ := exists_of_mem_linesOf h
  have hlast := not_of_getLast?_trimEnd hc
  simpa [isAnyOf] using hlast

/-- A text is its bare text with line feeds, spaces and tabs after it. -/
theorem exists_unixLines_eq_append (unit : Char → α) (text : List α) :
    ∃ rest, unixLines unit text = bareText unit text ++ rest ∧
      ∀ c ∈ rest, c ∈ ['\n', ' ', '\t'].map unit := by
  refine ⟨(unixLines unit text).rtakeWhile (isAnyOf unit ['\n', ' ', '\t']), ?_, ?_⟩
  · rw [bareText, trimEnd_eq_rdropWhile, List.rdropWhile_append_rtakeWhile]
  · intro c hc
    exact isAnyOf_iff.mp (List.mem_rtakeWhile_imp hc)

theorem getLast?_unixLines (text : List α) :
    (unixLines unit text).getLast? = text.getLast? := by
  induction text with
  | nil => rfl
  | cons c rest ih =>
    by_cases hc : c = unit '\r' ∧ rest.head? = some (unit '\n')
    · rw [hc.1, unixLines_return hc.2, ih]
      cases rest with
      | nil => simp at hc
      | cons d rest => rw [List.getLast?_cons_cons]
    · rw [unixLines_cons hc, List.getLast?_cons, List.getLast?_cons, ih]

/-- Blank last lines with a stray carriage return are seen in the text with unified line breaks, where
every carriage return is a stray one. -/
theorem endsInStrayReturn_iff (h : TellsBlanks unit) :
    EndsInStrayReturn unit text ↔ ∃ front tail, unixLines unit text = front ++ tail ∧
      (∀ c, front.getLast? = some c → c = unit '\n') ∧ IsBlankText unit tail ∧ unit '\r' ∈ tail := by
  have hne : unit '\n' ≠ unit '\r' := h.ne (by decide) (by decide) (by decide)
  constructor
  · rintro ⟨front, blank, rest, rfl, hfront, hblank, hrest, hhead⟩
    have hcut : unixLines unit (front ++ (blank ++ unit '\r' :: rest)) =
        unixLines unit front ++ unixLines unit (blank ++ unit '\r' :: rest) :=
      unixLines_append fun hlast => hne (hfront _ hlast.1).symm
    have hkept : unixLines unit (blank ++ unit '\r' :: rest) =
        unixLines unit blank ++ unit '\r' :: unixLines unit rest := by
      rw [unixLines_append (by simp [hne.symm]), unixLines_cons fun hreturn => hhead hreturn.2]
    refine ⟨_, _, hcut, ?_, ?_, ?_⟩
    · rwa [getLast?_unixLines]
    · intro c hc
      have htail : IsBlankText unit (blank ++ unit '\r' :: rest) := by
        refine isBlankText_append.mpr ⟨hblank, List.forall_mem_cons.mpr ⟨?_, hrest⟩⟩
        exact List.mem_map_of_mem (by decide)
      exact htail c (mem_of_mem_unixLines hc)
    · rw [hkept]
      simp
  · rintro ⟨front, tail, hunix, hfront, htail, hreturn⟩
    obtain ⟨before, after, rfl, rfl, hlast⟩ := exists_of_unixLines_eq_append hunix
    obtain ⟨blank, rest, rfl, hhead⟩ := exists_of_return_mem hreturn
    -- what is left out of the tail are carriage returns, which are blank, too
    have hblank : IsBlankText unit (blank ++ unit '\r' :: rest) := by
      intro c hc
      rcases mem_unixLines_or_eq unit hc with hmem | rfl
      · exact htail c hmem
      · exact List.mem_map_of_mem (by decide)
    obtain ⟨hbefore, hafter⟩ := isBlankText_append.mp hblank
    refine ⟨before, blank, rest, rfl, ?_, hbefore, (List.forall_mem_cons.mp hafter).2, hhead⟩
    rwa [hlast]

/-- If what stands after the last line feed is blank, it ends with a carriage return. -/
theorem return_mem_of_blank (hbare : bareText unit text ≠ [])
    (h : ∀ c ∈ (bareText unit text).rtakeWhile (fun c => !(c == unit '\n')),
      c ∈ [' ', '\t', '\r'].map unit) :
    unit '\r' ∈ (bareText unit text).rtakeWhile fun c => !(c == unit '\n') := by
  obtain ⟨last, hlast⟩ : ∃ c, (bareText unit text).getLast? = some c :=
    ⟨_, List.getLast?_eq_some_getLast hbare⟩
  have hkept : isAnyOf unit ['\n', ' ', '\t'] last = false := not_of_getLast?_trimEnd hlast
  obtain ⟨init, hinit⟩ := List.getLast?_eq_some_iff.mp hlast
  have hmem : last ∈ (bareText unit text).rtakeWhile fun c => !(c == unit '\n') := by
    rw [hinit, List.rtakeWhile_concat_pos _ _ _ (by simp_all [isAnyOf])]
    exact List.mem_append_right _ List.mem_cons_self
  have hblank := h last hmem
  simp only [List.map_cons, List.map_nil, List.mem_cons, List.not_mem_nil, or_false] at hblank
  rcases hblank with rfl | rfl | rfl
  · simp [isAnyOf] at hkept
  · simp [isAnyOf] at hkept
  · exact hmem

/-- What stands after the last line feed belongs to a part of the text that begins after a line feed. -/
theorem mem_of_mem_rtakeWhile {front tail : List α} (hfront : ∀ c, front.getLast? = some c → c = unit '\n')
    {c : α} (h : c ∈ (front ++ tail).rtakeWhile fun c => !(c == unit '\n')) : c ∈ tail := by
  induction front using List.reverseRecOn with
  | nil => exact (List.rtakeWhile_suffix _ tail).subset h
  | append_singleton front feed _ =>
    have hfeed : feed = unit '\n' := hfront feed List.getLast?_concat
    obtain ⟨pieces, hpieces⟩ := splitWhen_eq_concat (· == unit '\n') (front ++ [feed] ++ tail)
    obtain ⟨rest, hrest⟩ := splitWhen_eq_concat (· == unit '\n') tail
    rw [List.append_assoc, List.singleton_append, splitWhen_append_cons (by simp [hfeed]), hrest,
      ← List.append_assoc] at hpieces
    have hpiece := (List.append_inj' hpieces rfl).2
    rw [List.append_assoc, List.singleton_append, ← (List.cons.inj hpiece).1] at h
    exact (List.rtakeWhile_suffix _ tail).subset h

/-- The last line of a text is empty exactly if its last lines are blank and hold a stray carriage
return. -/
theorem getLast?_linesOf_eq_nil_iff (h : TellsBlanks unit) :
    (linesOf unit text).getLast? = some [] ↔ EndsInStrayReturn unit text := by
  obtain ⟨rest, hunix, hrest⟩ := exists_unixLines_eq_append unit text
  have hreturn : unit '\r' ∉ rest := by
    intro hmem
    have hdropped := hrest _ hmem
    simp only [List.map_cons, List.map_nil, List.mem_cons, List.not_mem_nil, or_false] at hdropped
    rcases hdropped with heq | heq | heq <;>
      exact h.ne (by decide) (by decide) (by decide) heq
  rw [endsInStrayReturn_iff h]
  constructor
  · intro hlast
    have hbare : bareText unit text ≠ [] := by
      intro hnil
      rw [linesOf_of_nil hnil] at hlast
      cases hlast
    rw [getLast?_linesOf hbare] at hlast
    have hblank : ∀ c ∈ (bareText unit text).rtakeWhile (fun c => !(c == unit '\n')),
        c ∈ [' ', '\t', '\r'].map unit := fun c hc =>
      isAnyOf_iff.mp (List.rdropWhile_eq_nil_iff.mp (Option.some.inj hlast) c hc)
    refine ⟨(bareText unit text).rdropWhile fun c => !(c == unit '\n'),
      (bareText unit text).rtakeWhile (fun c => !(c == unit '\n')) ++ rest, ?_, ?_, ?_, ?_⟩
    · rw [← List.append_assoc, List.rdropWhile_append_rtakeWhile, hunix]
    · intro c hc
      simpa using not_of_getLast?_trimEnd hc
    · refine isBlankText_append.mpr ⟨fun c hc => ?_, fun c hc => ?_⟩
      · exact List.map_subset unit (by decide) (hblank c hc)
      · exact List.map_subset unit (by decide) (hrest c hc)
    · exact List.mem_append_left _ (return_mem_of_blank hbare hblank)
  · rintro ⟨front, tail, hcut, hfront, htail, hmem⟩
    rw [hunix] at hcut
    -- the tail reaches beyond what is dropped, since that holds no carriage return
    obtain ⟨middle, hbare, rfl⟩ : ∃ middle, bareText unit text = front ++ middle ∧ tail = middle ++ rest := by
      rcases List.append_eq_append_iff.mp hcut with ⟨more, -, hmore⟩ | ⟨more, hmore, htail'⟩
      · exact absurd (by rw [hmore]; exact List.mem_append_right _ hmem) hreturn
      · exact ⟨more, hmore, htail'⟩
    have hmiddle : unit '\r' ∈ middle := (List.mem_append.mp hmem).resolve_right hreturn
    have hne : bareText unit text ≠ [] := by
      intro hnil
      rw [hbare] at hnil
      rw [(List.append_eq_nil_iff.mp hnil).2] at hmiddle
      cases hmiddle
    rw [getLast?_linesOf hne]
    refine congrArg some (trimEnd_of_forall fun c hc => ?_)
    have hfeed : c ≠ unit '\n' := by simpa using List.mem_rtakeWhile_imp hc
    rw [hbare] at hc
    have hblank := htail c (List.mem_append_left _ (mem_of_mem_rtakeWhile hfront hc))
    refine isAnyOf_iff.mpr ?_
    simp only [blankChars, List.map_cons, List.map_nil, List.mem_cons, List.not_mem_nil, or_false]
      at hblank ⊢
    tauto

/-- A text has no lines exactly if it is blank and has no stray carriage return. -/
theorem linesOf_eq_nil_iff (h : TellsBlanks unit) :
    linesOf unit text = [] ↔ IsBlankText unit text ∧ ¬ EndsInStrayReturn unit text := by
  constructor
  · intro hnil
    constructor
    · obtain ⟨rest, hunix, hrest⟩ := exists_unixLines_eq_append unit text
      rw [linesOf_eq_nil_iff_bareText.mp hnil, List.nil_append] at hunix
      intro c hc
      rcases mem_unixLines_or_eq unit hc with hmem | rfl
      · rw [hunix] at hmem
        exact List.map_subset unit (by decide) (hrest c hmem)
      · exact List.mem_map_of_mem (by decide)
    · rw [← getLast?_linesOf_eq_nil_iff h, hnil]
      simp
  · rintro ⟨hblank, hstray⟩
    by_contra hne
    refine hstray ((getLast?_linesOf_eq_nil_iff h).mp ?_)
    rw [getLast?_linesOf (mt linesOf_eq_nil_iff_bareText.mpr hne)]
    refine congrArg some (trimEnd_of_forall fun c hc => isAnyOf_iff.mpr ?_)
    have hfeed : c ≠ unit '\n' := by simpa using List.mem_rtakeWhile_imp hc
    have hmem : c ∈ text :=
      mem_of_mem_unixLines (mem_of_mem_trimEnd ((List.rtakeWhile_suffix _ _).subset hc))
    have hc' := hblank c hmem
    simp only [blankChars, List.map_cons, List.map_nil, List.mem_cons, List.not_mem_nil, or_false]
      at hc' ⊢
    tauto

/-! ### Joined lines -/

variable (unit) in
/-- A line as texts have them: without a line feed, and without blanks at its end. -/
def IsLine (line : List α) : Prop :=
  unit '\n' ∉ line ∧ ∀ c, line.getLast? = some c → c ≠ unit ' ' ∧ c ≠ unit '\t' ∧ c ≠ unit '\r'

theorem isLine_of_mem_linesOf {line : List α} (h : line ∈ linesOf unit text) : IsLine unit line :=
  ⟨feed_notMem_of_mem_linesOf h, fun _ hc => trimmed_of_mem_linesOf h hc⟩

variable {lines : List (List α)}

/-- Between joined lines there is no carriage return before a line feed. -/
theorem unixLines_intercalate (h : TellsBlanks unit) (hlines : ∀ line ∈ lines, IsLine unit line) :
    unixLines unit ([unit '\n'].intercalate lines) = [unit '\n'].intercalate lines := by
  induction lines with
  | nil => rfl
  | cons line rest ih =>
    have hline := hlines line List.mem_cons_self
    have hrest := ih fun other hother => hlines other (List.mem_cons_of_mem line hother)
    cases rest with
    | nil => rw [List.intercalate_singleton, unixLines_of_feed_notMem hline.1]
    | cons other rest =>
      have hne : unit '\n' ≠ unit '\r' := h.ne (by decide) (by decide) (by decide)
      rw [List.intercalate_cons_cons, List.append_assoc, List.singleton_append,
        unixLines_append fun hlast => (hline.2 _ hlast.1).2.2 rfl, unixLines_of_feed_notMem hline.1,
        unixLines_cons fun hreturn => hne hreturn.1, hrest]

/-- Empty lines at the end of joined lines are dropped. -/
theorem trimEnd_intercalate (hlines : ∀ line ∈ lines, IsLine unit line) :
    trimEnd (isAnyOf unit ['\n', ' ', '\t']) ([unit '\n'].intercalate lines) =
      [unit '\n'].intercalate (trimEnd List.isEmpty lines) := by
  induction lines using List.reverseRecOn with
  | nil => rfl
  | append_singleton init last ih =>
    have hinit := ih fun line hline => hlines line (List.mem_append_left _ hline)
    have hlast := hlines last (List.mem_append_right _ List.mem_cons_self)
    by_cases hempty : last = []
    · have hdrop : trimEnd List.isEmpty (init ++ [last]) = trimEnd List.isEmpty init :=
        List.rdropWhile_concat_pos _ _ _ (by simp [hempty])
      rw [hdrop, ← hinit]
      by_cases hnil : init = []
      · rw [hnil, hempty]
        rfl
      · rw [intercalate_concat _ hnil, hempty, List.append_nil]
        exact List.rdropWhile_concat_pos _ _ _ (by simp [isAnyOf])
    · rw [trimEnd_concat (by simp [hempty])]
      refine trimEnd_of_getLast? fun c hc => ?_
      have hend : last.getLast? = some c := by
        by_cases hnil : init = []
        · rwa [hnil, List.nil_append, List.intercalate_singleton] at hc
        · rw [intercalate_concat _ hnil, List.getLast?_append, List.getLast?_append] at hc
          rw [List.getLast?_eq_some_getLast hempty] at hc ⊢
          exact hc
      have hfeed : c ≠ unit '\n' := by
        rintro rfl
        exact hlast.1 (List.mem_of_getLast? hend)
      simp [isAnyOf, hfeed, (hlast.2 c hend).1, (hlast.2 c hend).2.1]

/-- The lines of joined lines are these lines, without empty ones at the end. -/
theorem linesOf_intercalate (h : TellsBlanks unit) (hlines : ∀ line ∈ lines, IsLine unit line) :
    linesOf unit ([unit '\n'].intercalate lines) = trimEnd List.isEmpty lines := by
  have hbare : bareText unit ([unit '\n'].intercalate lines) =
      [unit '\n'].intercalate (trimEnd List.isEmpty lines) := by
    rw [bareText, unixLines_intercalate h hlines, trimEnd_intercalate hlines]
  have hkept : ∀ line ∈ trimEnd List.isEmpty lines, IsLine unit line := fun line hline =>
    hlines line (mem_of_mem_trimEnd hline)
  by_cases hnil : trimEnd List.isEmpty lines = []
  · rw [linesOf_of_nil (by rw [hbare, hnil]; rfl), hnil]
  · have hne : bareText unit ([unit '\n'].intercalate lines) ≠ [] := by
      obtain ⟨last, hlast⟩ : ∃ line, (trimEnd List.isEmpty lines).getLast? = some line :=
        ⟨_, List.getLast?_eq_some_getLast hnil⟩
      have hfull : last ≠ [] := by simpa using not_of_getLast?_trimEnd hlast
      obtain ⟨init, hinit⟩ := List.getLast?_eq_some_iff.mp hlast
      rw [hbare, hinit]
      by_cases hempty : init = []
      · rwa [hempty, List.nil_append, List.intercalate_singleton]
      · rw [intercalate_concat _ hempty]
        simp
    rw [linesOf_of_ne_nil hne, hbare, splitWhen_eq_splitOnP, ← List.splitOn_eq_splitOnP,
      List.splitOn_intercalate _ (fun line hline => (hkept line hline).1) hnil]
    refine (List.map_congr_left fun line hline => ?_).trans (List.map_id _)
    refine trimEnd_of_getLast? fun c hc => ?_
    obtain ⟨hspace, htab, hreturn⟩ := (hkept line hline).2 c hc
    simp [isAnyOf, hspace, htab, hreturn]

end Lines

end Bindery
