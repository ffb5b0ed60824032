import Bindery.Proofs.Naming.Identifier

/-!
# Exported identifiers

An identifier can be seen from other packages if it begins with a capital letter. The identifier of a name
does so whenever the first character of the name that is no underscore is a letter: the underscores before
it are trimmed, so it begins the first word, and a word either begins with a capital letter already, or
consists of small letters and is capitalized.

`Source.isExported` describes exported identifiers by their characters, `Naming.isLettered` describes the
names that get one, and `Naming.Begun` is the invariant of the word that is being read. The identifiers of
other names begin with a digit or an underscore or are empty, so that `Source.beginsSmall` holds of none.
-/

namespace Bindery

/-- A capital letter, then letters, digits and underscores, all of them of ASCII. -/
def Source.isExported (s : String) : Bool :=
  match s.toList with
  | [] => false
  | c :: rest => c.isUpper && rest.all Sdl.isNameChar

/-- Whether a text begins with a small letter. -/
def Source.beginsSmall (s : String) : Bool :=
  s.toList.head?.any isLower

namespace Naming

/-- A name of the schema language whose first character other than an underscore is a letter. -/
def isLettered (name : String) : Bool :=
  Sdl.isName name &&
    match name.toList.dropWhile (· == '_') with
    | [] => false
    | c :: _ => c.isAlpha

/-! ### Letters -/

/-- What the two cases of a letter of ASCII are, by the tables of all scripts. -/
theorem letter_cases {c : Char} (h : c.isAlpha = true) :
    (upperChar c).isUpper = true ∧ (upperChar (lowerChar c)).isUpper = true ∧
      (isLower c = false → c.isUpper = true) := by
  have hname : Sdl.isNameChar c = true := Sdl.isNameChar_iff.mpr (.inr (.inl h))
  obtain ⟨hupper, hcapital⟩ := (ascii_of_isNameChar hname).2.2 h
  rw [upperChar_eq hname, upperChar_eq (isNameChar_case hname).2, lowerChar_eq hname, isLower_eq hname]
  refine ⟨hupper, hcapital, fun hsmall => ?_⟩
  exact (Bool.or_eq_true_iff.mp h).resolve_right (Bool.eq_false_iff.mp hsmall)

theorem lowerChar_of_isLower {c : Char} (h : Sdl.isNameChar c = true) (hlower : isLower c = true) :
    lowerChar c = c := by
  have hcases := not_isUpper_and_isLower h
  rw [hlower, Bool.and_true] at hcases
  exact (lowerChar_eq_self_iff h).mpr hcases

/-! ### The first character -/

/-- Trimming keeps the first character that does not have to go. -/
theorem exists_trimEnds {p : Char → Bool} {cs rest : List Char} {c : Char}
    (hdrop : cs.dropWhile p = c :: rest) (hc : p c = false) :
    ∃ more, trimEnds p cs = c :: more := by
  have hlast : ∃ more, (rest.reverse ++ [c]).dropWhile p = more ++ [c] := by
    rw [List.dropWhile_append]
    split
    · exact ⟨[], by simp [hc]⟩
    · exact ⟨_, rfl⟩
  obtain ⟨more, hmore⟩ := hlast
  refine ⟨more.reverse, ?_⟩
  rw [trimEnds, hdrop, List.reverse_cons, hmore, List.reverse_append]
  rfl

theorem exists_markedFrom (last : Char) (gap : Option Char) (cs : List Char) :
    ∃ mark more, markedFrom last gap cs = (last, mark) :: more := by
  induction cs generalizing gap with
  | nil => exact ⟨true, [], rfl⟩
  | cons c rest ih =>
    unfold markedFrom
    split
    · exact ih (some c)
    · split
      · exact ⟨false, _, rfl⟩
      · split <;> exact ⟨true, _, rfl⟩

/-- No character of a name but the underscore separates words. -/
theorem dropWhile_isSeparator {cs : List Char} (h : ∀ c ∈ cs, Sdl.isNameChar c = true) :
    cs.dropWhile isSeparator = cs.dropWhile (· == '_') := by
  induction cs with
  | nil => rfl
  | cons c rest ih =>
    have hc : isSeparator c = (c == '_') := isSeparator_eq (h c List.mem_cons_self)
    rw [List.dropWhile_cons, List.dropWhile_cons, hc, ih fun d hd => h d (List.mem_cons_of_mem _ hd)]

/-- A name is marked from its first character that is no underscore on. -/
theorem marked_of_dropWhile {cs rest : List Char} {c : Char} (h : ∀ d ∈ cs, Sdl.isNameChar d = true)
    (hdrop : cs.dropWhile (· == '_') = c :: rest) : ∃ mark more, marked cs = (c, mark) :: more := by
  rw [← dropWhile_isSeparator h] at hdrop
  have hc : isSeparator c = false := by
    have hhead := List.head?_dropWhile_not isSeparator cs
    rwa [hdrop, List.head?_cons] at hhead
  obtain ⟨trimmed, htrim⟩ := exists_trimEnds hdrop hc
  obtain ⟨mark, more, hmarked⟩ := exists_markedFrom c none trimmed
  refine ⟨mark, more, ?_⟩
  rw [marked, htrim]
  exact hmarked

/-- A lettered name is marked from its first letter on. -/
theorem exists_marked {name : String} (h : isLettered name = true) :
    ∃ c mark more, c.isAlpha = true ∧ marked name.toList = (c, mark) :: more := by
  obtain ⟨hname, hletter⟩ := Bool.and_eq_true_iff.mp h
  split at hletter
  · cases hletter
  · next c rest hdrop =>
    obtain ⟨mark, more, hmarked⟩ :=
      marked_of_dropWhile (fun d hd => Sdl.isNameChar_of_mem hname hd) hdrop
    exact ⟨c, mark, more, hletter, hmarked⟩

/-! ### The first word -/

/-- A word that has begun with a letter. If the letter is small then so are all others, because the word
would have ended before anything else, and an initialism in the word begins with a capital letter. -/
structure Begun (partly : Bool) (first : Char) (word : List Char) : Prop where
  head : ∃ rest, word = first :: rest
  letter : first.isAlpha = true
  capital : partly = true → first.isUpper = true
  small : isLower first = true → ∀ d ∈ word, isLower d = true

theorem Begun.single {c : Char} (h : c.isAlpha = true) : Begun false c [c] where
  head := ⟨[], rfl⟩
  letter := h
  capital := nofun
  small hlower d hd := by
    rw [List.mem_singleton.mp hd]
    exact hlower

/-- A word goes on with a character if it did not have to end before it. -/
theorem Begun.append {partly : Bool} {first next : Char} {word : List Char}
    (h : Begun partly first word) (hnext : isLower first = true → isLower next = true) :
    Begun partly first (word ++ [next]) where
  head := by
    obtain ⟨rest, rfl⟩ := h.head
    exact ⟨rest ++ [next], rfl⟩
  letter := h.letter
  capital := h.capital
  small hlower d hd := by
    rcases List.mem_append.mp hd with hd | hd
    · exact h.small hlower d hd
    · rw [List.mem_singleton.mp hd]
      exact hnext hlower

theorem isUpper_of_isInitialism {c : Char} {rest : List Char}
    (h : isInitialism (c :: rest) = true) : c.isUpper = true := by
  have hall : initialisms.all (fun s => s.toList.head?.all Char.isUpper) = true := by decide +kernel
  have hmem : String.ofList (c :: rest) ∈ initialisms := List.contains_iff_mem.mp h
  have hhead := List.all_eq_true.mp hall _ hmem
  rwa [String.toList_ofList] at hhead

theorem Begun.initialism {partly : Bool} {first : Char} {word : List Char}
    (h : Begun partly first word) (hword : isInitialism word = true) : Begun true first word where
  head := h.head
  letter := h.letter
  capital _ := by
    obtain ⟨rest, rfl⟩ := h.head
    exact isUpper_of_isInitialism hword
  small := h.small

/-- The first word is the one that has begun, with what is read until it ends. -/
theorem exists_wordsFrom {partly : Bool} {first c : Char} (mark : Bool) (word : List Char)
    (ms : List (Char × Bool)) (h : Begun partly first (word ++ [c])) :
    ∃ partly' chars more, wordsFrom partly word ((c, mark) :: ms) = Word.ofChars partly' chars :: more ∧
      Begun partly' first chars := by
  induction ms generalizing partly word c mark with
  | nil => exact ⟨partly, word ++ [c], [], rfl, h⟩
  | cons m rest ih =>
    obtain ⟨next, mark'⟩ := m
    have hends : ∃ partly' chars more, Word.ofChars partly (word ++ [c]) ::
        wordsFrom false [] ((next, mark') :: rest) = Word.ofChars partly' chars :: more ∧
        Begun partly' first chars := ⟨partly, word ++ [c], _, rfl, h⟩
    rw [wordsFrom]
    by_cases hend : (mark || (isLower c && !isLower next)) = true
    · rw [if_pos hend]
      exact hends
    · rw [if_neg hend]
      -- the word does not end here, so a small letter is followed by another one
      have hnext : isLower first = true → isLower next = true := by
        intro hlower
        have hc : isLower c = true := h.small hlower c (List.mem_append_right _ List.mem_cons_self)
        rw [hc, Bool.true_and, Bool.or_eq_true, not_or, Bool.not_eq_true', Bool.not_eq_false] at hend
        exact hend.2
      by_cases hinitialism : isInitialism (word ++ [c]) = true
      · rw [if_pos hinitialism]
        split
        · exact ih mark' _ ((h.initialism hinitialism).append hnext)
        · split
          · exact ih mark' _ (h.append hnext)
          · exact hends
      · rw [if_neg hinitialism]
        exact ih mark' _ (h.append hnext)

/-- A word that has begun with a letter is spelled with a capital letter. -/
theorem Begun.spelling {partly : Bool} {first : Char} {chars : List Char}
    (h : Begun partly first chars) (hchars : ∀ c ∈ chars, Sdl.isNameChar c = true) :
    ∃ c rest, (Word.ofChars partly chars).spelling = c :: rest ∧ c.isUpper = true := by
  obtain ⟨hupper, hcapital, hnotLower⟩ := letter_cases h.letter
  obtain ⟨rest, rfl⟩ := h.head
  unfold Word.ofChars Word.spelling
  split
  · exact ⟨upperChar first, upperCase rest, rfl, hupper⟩
  · simp only [Bool.false_eq_true, if_false]
    split
    · exact ⟨upperChar (lowerChar first), lowerCase rest, rfl, hcapital⟩
    · next hmixed =>
      -- the word holds an initialism or letters of both cases, so it does not begin with a small letter
      refine ⟨first, rest, rfl, ?_⟩
      cases hpartly : partly with
      | true => exact h.capital hpartly
      | false =>
        apply hnotLower
        rw [Bool.eq_false_iff]
        intro hlower
        have hsame : lowerCase (first :: rest) = first :: rest := by
          rw [lowerCase]
          refine (List.map_congr_left fun d hd => ?_).trans (List.map_id _)
          exact lowerChar_of_isLower (hchars d hd) (h.small hlower d hd)
        simp [hpartly, hsame] at hmixed

/-! ### Identifiers -/

theorem isExported_of_chars {s : String} {c : Char} {rest : List Char} (hs : s.toList = c :: rest)
    (hc : c.isUpper = true) (hchars : ∀ d ∈ s.toList, Sdl.isNameChar d = true) :
    Source.isExported s = true := by
  rw [hs] at hchars
  simp only [Source.isExported, hs, hc, Bool.true_and, List.all_eq_true]
  exact fun d hd => hchars d (List.mem_cons_of_mem _ hd)

/-- The identifier of a lettered name is exported. -/
theorem isExported_identifier {name : String} (h : isLettered name = true) :
    Source.isExported (identifier name) = true := by
  have hname : Sdl.isName name = true := (Bool.and_eq_true_iff.mp h).1
  have hchars : ∀ d ∈ name.toList, Sdl.isNameChar d = true := fun d hd => Sdl.isNameChar_of_mem hname hd
  obtain ⟨c, mark, more, hletter, hmarked⟩ := exists_marked h
  obtain ⟨partly, chars, words', hwords, hbegun⟩ :=
    exists_wordsFrom mark [] more (Begun.single hletter)
  have hfirst : words name.toList = Word.ofChars partly chars :: words' := by
    rw [words, hmarked, hwords]
  have hwordChars : ∀ d ∈ chars, Sdl.isNameChar d = true := by
    intro d hd
    refine hchars d (mem_of_mem_words (w := Word.ofChars partly chars) ?_ ?_)
    · rw [hfirst]
      exact List.mem_cons_self
    · rwa [Word.chars_ofChars]
  obtain ⟨d, rest, hspelling, hupper⟩ := hbegun.spelling hwordChars
  have hnot : ¬ (name == "_") = true := by
    intro hunderscore
    rw [eq_of_beq hunderscore] at h
    cases h
  have hlist : (identifier name).toList = d :: (rest ++ words'.flatMap Word.spelling) := by
    rw [identifier, if_neg hnot, String.toList_ofList, hfirst, List.flatMap_cons, hspelling]
    rfl
  exact isExported_of_chars hlist hupper fun e he => isNameChar_of_mem_identifier hchars he

/-- What begins with an exported identifier and goes on with characters of names is exported. -/
theorem isExported_append {s t : String} (hs : Source.isExported s = true)
    (ht : ∀ c ∈ t.toList, Sdl.isNameChar c = true) : Source.isExported (s ++ t) = true := by
  unfold Source.isExported at hs ⊢
  rw [String.toList_append]
  split at hs
  · cases hs
  · next c rest hlist =>
    rw [hlist]
    simp only [Bool.and_eq_true, List.all_eq_true, List.cons_append] at hs ⊢
    refine ⟨hs.1, fun d hd => ?_⟩
    rcases List.mem_append.mp hd with hd | hd
    · exact hs.2 d hd
    · exact ht d hd

/-- The constant of an enum value is exported if the identifier of its enum is. -/
theorem isExported_constantIdentifier {enum value : String} (henum : isLettered enum = true)
    (hvalue : Sdl.isName value = true) : Source.isExported (constantIdentifier enum value) = true := by
  refine isExported_append (isExported_identifier henum) ?_
  have hchars : ∀ d ∈ value.toList, Sdl.isNameChar d = true := fun d hd => Sdl.isNameChar_of_mem hvalue hd
  intro c hc
  refine isNameChar_of_mem_identifier ?_ hc
  split
  · intro d hd
    rw [String.toList_ofList] at hd
    obtain ⟨e, he, rfl⟩ := List.mem_map.mp hd
    exact (isNameChar_case (hchars e he)).2
  · exact hchars

/-! ### Small letters -/

theorem beginsSmall_of_isExported {s : String} (h : Source.isExported s = true) :
    Source.beginsSmall s = false := by
  unfold Source.isExported at h
  unfold Source.beginsSmall
  split at h
  · cases h
  · next c rest hlist =>
    rw [hlist]
    have hupper : c.isUpper = true := (Bool.and_eq_true_iff.mp h).1
    have hletter : c.isAlpha = true := Bool.or_eq_true_iff.mpr (.inl hupper)
    have hname : Sdl.isNameChar c = true := Sdl.isNameChar_iff.mpr (.inr (.inl hletter))
    have hcases := not_isUpper_and_isLower hname
    rw [isUpper_eq hname, hupper, Bool.true_and] at hcases
    exact hcases

theorem beginsSmall_append {s t : String} (hs : Source.beginsSmall s = false)
    (ht : Source.beginsSmall t = false) : Source.beginsSmall (s ++ t) = false := by
  unfold Source.beginsSmall at hs ht ⊢
  rw [String.toList_append]
  cases hlist : s.toList with
  | nil => exact ht
  | cons c rest => rwa [hlist] at hs

/-- The first word goes on from what has been read of it. -/
theorem wordsFrom_eq_cons (partly mark : Bool) (c : Char) (word : List Char) (ms : List (Char × Bool)) :
    ∃ partly' chars more,
      wordsFrom partly word ((c, mark) :: ms) = Word.ofChars partly' (word ++ c :: chars) :: more := by
  induction ms generalizing partly mark c word with
  | nil => exact ⟨partly, [], [], rfl⟩
  | cons m rest ih =>
    obtain ⟨next, mark'⟩ := m
    have hgoes : ∀ partly'', ∃ partly' chars more,
        wordsFrom partly'' (word ++ [c]) ((next, mark') :: rest) =
          Word.ofChars partly' (word ++ c :: chars) :: more := by
      intro partly''
      obtain ⟨partly', chars, more, hwords⟩ := ih partly'' mark' next (word ++ [c])
      exact ⟨partly', next :: chars, more, by simpa using hwords⟩
    rw [wordsFrom]
    split
    · exact ⟨partly, [], _, rfl⟩
    · split
      · split
        · exact hgoes true
        · split
          · exact hgoes partly
          · exact ⟨partly, [], _, rfl⟩
      · exact hgoes partly

/-- A word that begins with no letter is spelled with no small letter first. -/
theorem spelling_of_not_isAlpha {c : Char} (hc : Sdl.isNameChar c = true) (hletter : ¬ c.isAlpha = true)
    (partly : Bool) (chars : List Char) :
    ∃ d rest, (Word.ofChars partly (c :: chars)).spelling = d :: rest ∧ isLower d = false := by
  have hcase : upperChar c = c ∧ lowerChar c = c ∧ isLower c = false := by
    rw [upperChar_eq_self_iff hc, lowerChar_eq_self_iff hc, isLower_eq hc, isUpper_eq hc]
    obtain ⟨hnotUpper, hnotLower⟩ := Bool.or_eq_false_iff.mp (Bool.eq_false_iff.mpr hletter)
    exact ⟨hnotLower, hnotUpper, hnotLower⟩
  obtain ⟨hupper, hlower, hsmall⟩ := hcase
  unfold Word.ofChars Word.spelling
  split
  · refine ⟨upperChar c, upperCase chars, rfl, ?_⟩
    rw [hupper, hsmall]
  · simp only [Bool.false_eq_true, if_false]
    split
    · refine ⟨upperChar (lowerChar c), lowerCase chars, rfl, ?_⟩
      rw [hlower, hupper, hsmall]
    · exact ⟨c, chars, rfl, hsmall⟩

/-- No identifier of a name begins with a small letter. -/
theorem beginsSmall_identifier {name : String} (h : Sdl.isName name = true) :
    Source.beginsSmall (identifier name) = false := by
  have hchars : ∀ d ∈ name.toList, Sdl.isNameChar d = true := fun d hd => Sdl.isNameChar_of_mem h hd
  by_cases hlettered : isLettered name = true
  · exact beginsSmall_of_isExported (isExported_identifier hlettered)
  · unfold identifier
    split
    · decide +kernel
    · cases hdrop : name.toList.dropWhile (· == '_') with
      | nil =>
        -- nothing is left of underscores
        have hmarked : marked name.toList = [] := by
          rw [marked, trimEnds, dropWhile_isSeparator hchars, hdrop]
          rfl
        rw [words, hmarked]
        rfl
      | cons c rest =>
        have hletter : ¬ c.isAlpha = true := by simpa [isLettered, h, hdrop] using hlettered
        have hc : Sdl.isNameChar c = true :=
          hchars c ((List.dropWhile_sublist _).mem (hdrop ▸ List.mem_cons_self))
        obtain ⟨mark, more, hmarked⟩ := marked_of_dropWhile hchars hdrop
        obtain ⟨partly, chars, words', hwords⟩ := wordsFrom_eq_cons false mark c [] more
        obtain ⟨d, spelled, hspelling, hsmall⟩ := spelling_of_not_isAlpha hc hletter partly chars
        rw [words, hmarked, hwords, List.flatMap_cons, List.nil_append, hspelling]
        simpa [Source.beginsSmall] using hsmall

end Naming

end Bindery
