import Bindery.Naming.Identifier
import Bindery.Proofs.Sdl.Name

/-!
# The characters of identifiers

Cutting a name into words drops characters and never adds one, and spelling the words changes the case of
letters only. So the identifier of a name of the schema language consists of characters of names.

## Main results

- `Naming.wordsFrom_step` — how a word ends or goes on
- `Naming.mem_of_mem_marked`, `Naming.mem_of_mem_words` — the words of a name consist of its characters
- `Naming.isNameChar_of_mem_identifier` — the characters of the identifier of a name
-/

namespace Bindery.Naming

/-- The marked characters are the last one that was read, the separator since, and what is left to read. -/
theorem mem_of_mem_markedFrom {last : Char} {gap : Option Char} {cs : List Char} {p : Char × Bool}
    (h : p ∈ markedFrom last gap cs) : p.1 = last ∨ gap = some p.1 ∨ p.1 ∈ cs := by
  induction cs generalizing last gap with
  | nil =>
    rw [markedFrom, List.mem_singleton] at h
    exact .inl (congrArg Prod.fst h)
  | cons c rest ih =>
    have hrest : p ∈ markedFrom c none rest → p.1 ∈ c :: rest := by
      intro hp
      rcases ih hp with rfl | hgap | hmem
      · exact List.mem_cons_self
      · cases hgap
      · exact List.mem_cons_of_mem _ hmem
    by_cases hseparator : isSeparator c = true
    · have hskip : markedFrom last gap (c :: rest) = markedFrom last (some c) rest := by
        cases gap <;> rw [markedFrom, if_pos hseparator]
      rw [hskip] at h
      rcases ih h with hlast | hgap | hmem
      · exact .inl hlast
      · exact .inr (.inr (Option.some.inj hgap ▸ List.mem_cons_self))
      · exact .inr (.inr (List.mem_cons_of_mem _ hmem))
    · cases gap with
      | none =>
        rw [markedFrom, if_neg hseparator] at h
        rcases List.mem_cons.mp h with rfl | h
        · exact .inl rfl
        · exact .inr (.inr (hrest h))
      | some g =>
        rw [markedFrom, if_neg hseparator] at h
        split at h
        · simp only [List.mem_cons] at h
          rcases h with rfl | rfl | h
          · exact .inl rfl
          · exact .inr (.inl rfl)
          · exact .inr (.inr (hrest h))
        · rcases List.mem_cons.mp h with rfl | h
          · exact .inl rfl
          · exact .inr (.inr (hrest h))

theorem mem_of_mem_trimEnds {p : Char → Bool} {cs : List Char} {c : Char}
    (h : c ∈ trimEnds p cs) : c ∈ cs := by
  rw [trimEnds, List.mem_reverse] at h
  have hdropped := (List.dropWhile_sublist p).mem h
  rw [List.mem_reverse] at hdropped
  exact (List.dropWhile_sublist p).mem hdropped

theorem mem_of_mem_marked {name : List Char} {p : Char × Bool} (h : p ∈ marked name) :
    p.1 ∈ name := by
  unfold marked at h
  split at h
  · cases h
  · next c rest htrim =>
    apply mem_of_mem_trimEnds (p := isSeparator)
    rw [htrim]
    rcases mem_of_mem_markedFrom h with hlast | hgap | hmem
    · rw [hlast]
      exact List.mem_cons_self
    · cases hgap
    · exact List.mem_cons_of_mem _ hmem

theorem Word.chars_ofChars (partly : Bool) (cs : List Char) : (Word.ofChars partly cs).chars = cs := by
  unfold ofChars
  split <;> rfl

/-- What becomes of a marked character that is not the last one: it ends the word, with a mark or with something
else than a small letter after it, or the word goes on. An initialism that goes on does so with a small letter. -/
theorem wordsFrom_step (partly : Bool) (word : List Char) (c : Char) (mark : Bool) (next : Char × Bool)
    (rest : List (Char × Bool)) :
    (wordsFrom partly word ((c, mark) :: next :: rest) =
        Word.ofChars partly (word ++ [c]) :: wordsFrom false [] (next :: rest) ∧
      (mark = true ∨ isLower next.1 = false)) ∨
    ∃ partly', wordsFrom partly word ((c, mark) :: next :: rest) =
        wordsFrom partly' (word ++ [c]) (next :: rest) ∧
      (partly' = partly ∨ partly' = true ∧ isLower next.1 = true) := by
  rw [wordsFrom]
  split
  · next hend =>
    refine .inl ⟨rfl, ?_⟩
    simp only [Bool.or_eq_true, Bool.and_eq_true, Bool.not_eq_true'] at hend
    exact hend.imp_right And.right
  · split
    · split
      · next hsmall => exact .inr ⟨true, rfl, .inr ⟨rfl, hsmall⟩⟩
      · next hsmall =>
        split
        · exact .inr ⟨partly, rfl, .inl rfl⟩
        · exact .inl ⟨rfl, .inr (Bool.eq_false_iff.mpr hsmall)⟩
    · exact .inr ⟨partly, rfl, .inl rfl⟩

/-- Cutting into words neither drops nor moves a character. -/
theorem flatMap_chars_wordsFrom (partly : Bool) (word : List Char) {ms : List (Char × Bool)} (h : ms ≠ []) :
    (wordsFrom partly word ms).flatMap Word.chars = word ++ ms.map Prod.fst := by
  induction ms generalizing partly word with
  | nil => exact absurd rfl h
  | cons m rest ih =>
    obtain ⟨c, mark⟩ := m
    cases rest with
    | nil => simp [wordsFrom, Word.chars_ofChars]
    | cons next rest =>
      have hrest : next :: rest ≠ [] := List.cons_ne_nil _ _
      rcases wordsFrom_step partly word c mark next rest with ⟨hends, -⟩ | ⟨partly', hgoes, -⟩
      · rw [hends, List.flatMap_cons, Word.chars_ofChars, ih false [] hrest]
        simp
      · rw [hgoes, ih partly' _ hrest]
        simp

/-- The words of a name hold its characters without the separators, in their order. -/
theorem flatMap_chars_words (name : List Char) :
    (words name).flatMap Word.chars = (marked name).map Prod.fst := by
  rw [words]
  cases hmarked : marked name with
  | nil => rfl
  | cons m ms => exact flatMap_chars_wordsFrom false [] (List.cons_ne_nil _ _)

/-- The words of a name consist of its characters. -/
theorem mem_of_mem_words {name : List Char} {w : Word} (hw : w ∈ words name) {c : Char}
    (hc : c ∈ w.chars) : c ∈ name := by
  have hmarked : c ∈ (words name).flatMap Word.chars := List.mem_flatMap.mpr ⟨w, hw, hc⟩
  rw [flatMap_chars_words] at hmarked
  obtain ⟨p, hp, rfl⟩ := List.mem_map.mp hmarked
  exact mem_of_mem_marked hp

/-- Spelling a word changes the case of its letters only. -/
theorem Word.forall_mem_spelling {P : Char → Prop} (hupper : ∀ c, P c → P (upperChar c))
    (hlower : ∀ c, P c → P (lowerChar c)) {w : Word} (h : ∀ c ∈ w.chars, P c) :
    ∀ c ∈ w.spelling, P c := by
  have hupperCase : ∀ cs : List Char, (∀ c ∈ cs, P c) → ∀ c ∈ upperCase cs, P c := by
    intro cs hcs c hc
    obtain ⟨d, hd, rfl⟩ := List.mem_map.mp hc
    exact hupper d (hcs d hd)
  have hlowerCase : ∀ c ∈ lowerCase w.chars, P c := by
    intro c hc
    obtain ⟨d, hd, rfl⟩ := List.mem_map.mp hc
    exact hlower d (h d hd)
  intro c hc
  unfold spelling at hc
  split at hc
  · exact hupperCase _ h c hc
  · split at hc
    · cases hlow : lowerCase w.chars with
      | nil =>
        rw [hlow] at hc
        cases hc
      | cons d rest =>
        rw [hlow] at hc hlowerCase
        rcases List.mem_cons.mp hc with rfl | hmem
        · exact hupper d (hlowerCase d List.mem_cons_self)
        · exact hlowerCase c (List.mem_cons_of_mem _ hmem)
    · exact h c hc

/-- The tables of all scripts say of the characters of names what is known of ASCII. -/
theorem tables_of_isNameChar {c : Char} (h : Sdl.isNameChar c = true) :
    (upperChar c = c.toUpper ∧ lowerChar c = c.toLower) ∧ (isUpper c = c.isUpper ∧ isLower c = c.isLower) ∧
      isDigit c = c.isDigit ∧ isSeparator c = (c == '_') := by
  refine Sdl.forall_isNameChar
    (P := fun c => (upperChar c = c.toUpper ∧ lowerChar c = c.toLower) ∧
      (isUpper c = c.isUpper ∧ isLower c = c.isLower) ∧ isDigit c = c.isDigit ∧ isSeparator c = (c == '_')) ?_ h
  decide +kernel

section Tables

variable {c : Char} (h : Sdl.isNameChar c = true)
include h

theorem upperChar_eq : upperChar c = c.toUpper :=
  (tables_of_isNameChar h).1.1

theorem lowerChar_eq : lowerChar c = c.toLower :=
  (tables_of_isNameChar h).1.2

theorem isUpper_eq : isUpper c = c.isUpper :=
  (tables_of_isNameChar h).2.1.1

theorem isLower_eq : isLower c = c.isLower :=
  (tables_of_isNameChar h).2.1.2

theorem isDigit_eq : isDigit c = c.isDigit :=
  (tables_of_isNameChar h).2.2.1

theorem isSeparator_eq : isSeparator c = (c == '_') :=
  (tables_of_isNameChar h).2.2.2

/-- What is known of the two cases in ASCII. -/
theorem ascii_of_isNameChar :
    ((c.toUpper = c ↔ c.isLower = false) ∧ (c.toLower = c ↔ c.isUpper = false)) ∧
      ((c.isUpper && c.isLower) = false ∧ (c.isLower = false → c.toLower.toUpper = c)) ∧
      (c.isAlpha = true → c.toUpper.isUpper = true ∧ c.toLower.toUpper.isUpper = true) := by
  refine Sdl.forall_isNameChar
    (P := fun c => ((c.toUpper = c ↔ c.isLower = false) ∧ (c.toLower = c ↔ c.isUpper = false)) ∧
      ((c.isUpper && c.isLower) = false ∧ (c.isLower = false → c.toLower.toUpper = c)) ∧
      (c.isAlpha = true → c.toUpper.isUpper = true ∧ c.toLower.toUpper.isUpper = true)) ?_ h
  decide +kernel

/-- Changing the case in ASCII leaves names, digits and underscores what they are. -/
theorem classes_of_isNameChar :
    (Sdl.isNameChar c.toUpper = true ∧ Sdl.isNameChar c.toLower = true) ∧
      (c.toUpper == '_', c.toUpper.isDigit) = (c == '_', c.isDigit) ∧
      (c.toLower == '_', c.toLower.isDigit) = (c == '_', c.isDigit) := by
  refine Sdl.forall_isNameChar
    (P := fun c => (Sdl.isNameChar c.toUpper = true ∧ Sdl.isNameChar c.toLower = true) ∧
      (c.toUpper == '_', c.toUpper.isDigit) = (c == '_', c.isDigit) ∧
      (c.toLower == '_', c.toLower.isDigit) = (c == '_', c.isDigit)) ?_ h
  decide +kernel

theorem upperChar_eq_self_iff : upperChar c = c ↔ isLower c = false := by
  rw [upperChar_eq h, isLower_eq h]
  exact (ascii_of_isNameChar h).1.1

theorem lowerChar_eq_self_iff : lowerChar c = c ↔ isUpper c = false := by
  rw [lowerChar_eq h, isUpper_eq h]
  exact (ascii_of_isNameChar h).1.2

theorem not_isUpper_and_isLower : (isUpper c && isLower c) = false := by
  rw [isUpper_eq h, isLower_eq h]
  exact (ascii_of_isNameChar h).2.1.1

theorem isNameChar_case : Sdl.isNameChar (upperChar c) = true ∧ Sdl.isNameChar (lowerChar c) = true := by
  rw [upperChar_eq h, lowerChar_eq h]
  exact (classes_of_isNameChar h).1

end Tables

/-- The identifier of a text of such characters consists of characters of names. -/
theorem isNameChar_of_mem_identifier {name : String} (h : ∀ c ∈ name.toList, Sdl.isNameChar c = true)
    {c : Char} (hc : c ∈ (identifier name).toList) : Sdl.isNameChar c = true := by
  unfold identifier at hc
  split at hc
  · rw [List.mem_singleton.mp hc]
    decide
  · rw [String.toList_ofList, List.mem_flatMap] at hc
    obtain ⟨w, hw, hc⟩ := hc
    refine Word.forall_mem_spelling (P := fun d => Sdl.isNameChar d = true)
      (fun _ hd => (isNameChar_case hd).1) (fun _ hd => (isNameChar_case hd).2) ?_ c hc
    exact fun d hd => h d (mem_of_mem_words hw hd)

end Bindery.Naming
