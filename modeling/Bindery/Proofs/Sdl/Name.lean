import Bindery.Sdl.Lexer

/-!
# Names of the schema language

A name is a letter of ASCII or an underscore, then letters, digits and underscores. No character that
separates words or parts of a text occurs in one.

## Main definitions

- `Sdl.isName` — whether a text is a name
-/

namespace Bindery.Sdl

/-- Whether a text is a name. -/
def isName (s : String) : Bool :=
  match s.toList with
  | [] => false
  | c :: rest => isNameStart c && rest.all isNameChar

/-- The letters lie in two ranges. -/
theorem isAlpha_iff_toNat {c : Char} :
    c.isAlpha = true ↔ (65 ≤ c.toNat ∧ c.toNat ≤ 90) ∨ (97 ≤ c.toNat ∧ c.toNat ≤ 122) := by
  have hranges : c.isAlpha =
      (decide (65 ≤ c.val ∧ c.val ≤ 90) || (decide (97 ≤ c.val) && decide (c.val ≤ 122))) := rfl
  rw [hranges, ← Bool.decide_and, Bool.or_eq_true, decide_eq_true_iff, decide_eq_true_iff]
  simp only [UInt32.le_iff_toNat_le]
  rfl

theorem isNameStart_iff {c : Char} : isNameStart c = true ↔ c = '_' ∨ c.isAlpha = true := by
  rw [isNameStart, Bool.or_eq_true, beq_iff_eq]

theorem isNameChar_iff {c : Char} :
    isNameChar c = true ↔ c = '_' ∨ c.isAlpha = true ∨ c.isDigit = true := by
  rw [isNameChar, Bool.or_eq_true, beq_iff_eq]
  exact or_congr_right (Bool.or_eq_true _ _).to_iff

theorem isNameChar_of_isNameStart {c : Char} (h : isNameStart c = true) : isNameChar c = true :=
  isNameChar_iff.mpr ((isNameStart_iff.mp h).imp_right .inl)

/-- No name begins with a digit. -/
theorem isNameStart_of_isDigit {c : Char} (h : c.isDigit = true) : isNameStart c = false := by
  have hdigit : 48 ≤ c.toNat ∧ c.toNat ≤ 57 := Char.isDigit_iff_toNat.mp h
  refine Bool.eq_false_iff.mpr fun hstart => ?_
  rcases isNameStart_iff.mp hstart with rfl | halpha
  · cases h
  · have := isAlpha_iff_toNat.mp halpha
    omega

/-- The characters of names are ASCII characters. -/
theorem toNat_lt_of_isNameChar {c : Char} (h : isNameChar c = true) : c.toNat < 128 := by
  rcases isNameChar_iff.mp h with rfl | halpha | hdigit
  · decide
  · have := isAlpha_iff_toNat.mp halpha
    omega
  · have : 48 ≤ c.toNat ∧ c.toNat ≤ 57 := Char.isDigit_iff_toNat.mp hdigit
    omega

/-- What holds of the characters of names below 128 holds of all of them. -/
theorem forall_isNameChar {P : Char → Prop}
    (h : ∀ n < 128, isNameChar (Char.ofNat n) = true → P (Char.ofNat n)) {c : Char}
    (hc : isNameChar c = true) : P c := by
  have hP := h c.toNat (toNat_lt_of_isNameChar hc)
  rw [Char.ofNat_toNat] at hP
  exact hP hc

/-- A name begins with a letter or an underscore and goes on with characters of names. -/
theorem exists_cons_of_isName {s : String} (h : isName s = true) :
    ∃ c rest, s.toList = c :: rest ∧ isNameStart c = true ∧ ∀ d ∈ rest, isNameChar d = true := by
  unfold isName at h
  split at h
  · cases h
  · next c rest hs =>
    simp only [Bool.and_eq_true, List.all_eq_true] at h
    exact ⟨c, rest, hs, h.1, h.2⟩

/-- Every character of a name can stand in a name. -/
theorem isNameChar_of_mem {s : String} (h : isName s = true) {c : Char} (hc : c ∈ s.toList) :
    isNameChar c = true := by
  obtain ⟨d, rest, hs, hd, hrest⟩ := exists_cons_of_isName h
  rw [hs] at hc
  rcases List.mem_cons.mp hc with rfl | hmem
  · exact isNameChar_of_isNameStart hd
  · exact hrest c hmem

/-- A character that cannot stand in a name is in no name. -/
theorem not_mem_of_isName {s : String} (h : isName s = true) {c : Char}
    (hc : isNameChar c = false) : c ∉ s.toList := by
  intro hmem
  rw [isNameChar_of_mem h hmem] at hc
  cases hc

theorem ne_of_isName {s t : String} (h : isName s = true) (ht : isName t = false) : s ≠ t := by
  rintro rfl
  rw [h] at ht
  cases ht

end Bindery.Sdl
