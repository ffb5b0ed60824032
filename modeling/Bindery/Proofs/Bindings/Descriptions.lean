import Bindery.Proofs.Text.Lines

/-!
# The lines of descriptions

A description is any sequence of octets. Its lines hold no line feed and do not end with blanks. Blank lines
at its end are dropped as long as no carriage return in them stands before anything else than a line feed.

## Main results

- `Octets.docLines_exact` — what the lines of a description are, and when the last one is empty
-/

namespace Bindery

theorem tellsBlanks_toUInt8 : TellsBlanks Char.toUInt8 := by
  have hall : (blankChars.all fun c => blankChars.all fun d => c.toUInt8 != d.toUInt8 || c == d) = true := by
    decide
  intro c hc d hd h
  have hpair := List.all_eq_true.mp (List.all_eq_true.mp hall c hc) d hd
  simpa [h] using hpair

namespace Octets

/-- The lines of a description hold no line feed and do not end with a space, a tab or a carriage return.
The last one is not empty, the description has no lines exactly if it is blank, and joined lines have the
same lines again: all this unless the description ends in blank lines with a stray carriage return. -/
theorem docLines_exact (description : Octets) :
    (∀ line ∈ docLines description, '\n'.toUInt8 ∉ line ∧
      ∀ b, line.getLast? = some b → b ≠ ' '.toUInt8 ∧ b ≠ '\t'.toUInt8 ∧ b ≠ '\r'.toUInt8) ∧
    ((∀ line, (docLines description).getLast? = some line → line ≠ []) ↔
      ¬ EndsInStrayReturn Char.toUInt8 description) ∧
    ((docLines description = [] ↔ IsBlankText Char.toUInt8 description) ↔
      ¬ (IsBlankText Char.toUInt8 description ∧ EndsInStrayReturn Char.toUInt8 description)) ∧
    (docLines (['\n'.toUInt8].intercalate (docLines description)) = docLines description ↔
      ¬ EndsInStrayReturn Char.toUInt8 description) := by
  have hlines : ∀ line ∈ docLines description, IsLine Char.toUInt8 line :=
    fun _ hline => isLine_of_mem_linesOf hline
  have hlast : (docLines description).getLast? = some [] ↔
      EndsInStrayReturn Char.toUInt8 description := getLast?_linesOf_eq_nil_iff tellsBlanks_toUInt8
  have hnil : docLines description = [] ↔ IsBlankText Char.toUInt8 description ∧
      ¬ EndsInStrayReturn Char.toUInt8 description := linesOf_eq_nil_iff tellsBlanks_toUInt8
  have hjoined : docLines (['\n'.toUInt8].intercalate (docLines description)) =
      trimEnd List.isEmpty (docLines description) := linesOf_intercalate tellsBlanks_toUInt8 hlines
  refine ⟨hlines, ?_, ?_, ?_⟩
  · rw [← hlast]
    constructor
    · intro hfull hempty
      exact hfull [] hempty rfl
    · rintro hne line hline rfl
      exact hne hline
  · rw [hnil]
    by_cases hblank : IsBlankText Char.toUInt8 description
    · by_cases hstray : EndsInStrayReturn Char.toUInt8 description
      · simp [hblank, hstray]
      · simp [hblank, hstray]
    · simp [hblank]
  · rw [hjoined, ← hlast, trimEnd_isEmpty_eq_iff]

/-- A carriage return alone is a description of blanks with one line, which is empty. -/
theorem docLines_return : docLines ['\r'.toUInt8] = [[]] ∧
    IsBlankText Char.toUInt8 ['\r'.toUInt8] ∧
    docLines (['\n'.toUInt8].intercalate (docLines ['\r'.toUInt8])) ≠ docLines ['\r'.toUInt8] := by
  refine ⟨by decide, ?_, by decide⟩
  intro b hb
  rw [List.mem_singleton.mp hb]
  exact List.mem_map_of_mem (by decide)

end Octets

end Bindery
