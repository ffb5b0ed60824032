import Bindery.Proofs.Naming.Exported
import Mathlib.Data.List.Chain

/-!
# Identifiers of identifiers

An identifier is a name again, and its own identifier need not be the same text: without the underscores the words
run into each other, so the identifier is cut at other places than the name was. No character is lost the second
time, because the only separators in an identifier stand between digits, so it is the spelling of the new words
that decides.

## Main definitions

- `Naming.isRespelled` — whether characters are spelled otherwise when they are a word
- `Naming.IsTight` — characters of which cutting drops none

## Main results

- `Naming.marked_of_isTight` — cutting drops no character of a tight text
- `Naming.isTight_identifier` — identifiers are tight
- `Naming.spelling_eq_chars_iff` — which words are spelled as they stand
- `Naming.identifier_identifier_eq_iff` — which identifiers are their own identifiers
-/

namespace Bindery.Naming

/-- Whether characters are spelled otherwise when they are a word: an initialism if it has a small letter, and
other characters if they have none, but a capital letter after the first character. -/
def isRespelled (cs : List Char) : Bool :=
  if isInitialism (upperCase cs) then cs.any isLower
  else !cs.any isLower && cs.tail.any isUpper

/-! ### Letters -/

/-- Changing the case leaves separators and digits alone, and makes none. -/
theorem case_of_isNameChar {c : Char} (h : Sdl.isNameChar c = true) :
    (isSeparator (upperChar c), isDigit (upperChar c)) = (isSeparator c, isDigit c) ∧
      (isSeparator (lowerChar c), isDigit (lowerChar c)) = (isSeparator c, isDigit c) := by
  obtain ⟨hupper, hlower⟩ := isNameChar_case h
  rw [isSeparator_eq hupper, isDigit_eq hupper, isSeparator_eq hlower, isDigit_eq hlower, isSeparator_eq h,
    isDigit_eq h, upperChar_eq h, lowerChar_eq h]
  exact (classes_of_isNameChar h).2

theorem upperChar_lowerChar {c : Char} (h : Sdl.isNameChar c = true) (hsmall : isLower c = false) :
    upperChar (lowerChar c) = c := by
  rw [isLower_eq h] at hsmall
  rw [upperChar_eq (isNameChar_case h).2, lowerChar_eq h]
  exact (ascii_of_isNameChar h).2.1.2 hsmall

theorem isLower_of_isSeparator {c : Char} (h : Sdl.isNameChar c = true) (hseparator : isSeparator c = true) :
    isLower c = false := by
  rw [isSeparator_eq h, beq_iff_eq] at hseparator
  rw [isLower_eq h, hseparator]
  rfl

section Texts

variable {cs : List Char} (h : ∀ c ∈ cs, Sdl.isNameChar c = true)
include h

theorem upperCase_eq_self_iff : upperCase cs = cs ↔ cs.any isLower = false := by
  rw [upperCase, List.any_eq_false]
  conv_lhs => rhs; rw [← List.map_id cs]
  rw [List.map_inj_left]
  exact forall₂_congr fun c hc => (upperChar_eq_self_iff (h c hc)).trans Bool.eq_false_iff

theorem lowerCase_eq_self_iff : lowerCase cs = cs ↔ cs.any isUpper = false := by
  rw [lowerCase, List.any_eq_false]
  conv_lhs => rhs; rw [← List.map_id cs]
  rw [List.map_inj_left]
  exact forall₂_congr fun c hc => (lowerChar_eq_self_iff (h c hc)).trans Bool.eq_false_iff

end Texts

/-! ### Texts of which cutting drops nothing -/

/-- Characters of which cutting drops none: every separator stands alone between two digits. -/
inductive IsTight : List Char → Prop
  | nil : IsTight []
  | cons {c : Char} {cs : List Char} (plain : isSeparator c = false) (rest : IsTight cs) : IsTight (c :: cs)
  | gap {c g d : Char} {cs : List Char} (plain : isSeparator c = false) (before : isDigit c = true)
      (between : isSeparator g = true) (after : isDigit d = true) (rest : IsTight (d :: cs)) :
      IsTight (c :: g :: d :: cs)

namespace IsTight

theorem head {c : Char} {cs : List Char} (h : IsTight (c :: cs)) : isSeparator c = false := by
  cases h with
  | cons plain | gap plain => exact plain

theorem last {cs : List Char} (h : IsTight cs) (hne : cs ≠ []) :
    ∃ front c, cs = front ++ [c] ∧ isSeparator c = false := by
  induction h with
  | nil => exact absurd rfl hne
  | @cons c cs plain rest ih =>
    cases cs with
    | nil => exact ⟨[], c, rfl, plain⟩
    | cons d cs =>
      obtain ⟨front, e, hcs, he⟩ := ih (List.cons_ne_nil _ _)
      exact ⟨c :: front, e, by rw [hcs]; rfl, he⟩
  | @gap c g d cs _ _ _ _ _ ih =>
    obtain ⟨front, e, hcs, he⟩ := ih (List.cons_ne_nil _ _)
    exact ⟨c :: g :: front, e, by rw [hcs]; rfl, he⟩

/-- Being tight is a matter of separators and digits. -/
theorem of_map {cs ds : List Char} (h : IsTight cs)
    (hmap : ds.map (fun c => (isSeparator c, isDigit c)) = cs.map (fun c => (isSeparator c, isDigit c))) :
    IsTight ds := by
  induction h generalizing ds with
  | nil =>
    rw [List.map_nil, List.map_eq_nil_iff] at hmap
    rw [hmap]
    exact .nil
  | cons plain _ ih =>
    obtain ⟨d, ds, rfl, hd, hds⟩ := List.map_eq_cons_iff.mp hmap
    obtain ⟨hseparator, -⟩ := Prod.mk.inj hd
    exact .cons (hseparator.trans plain) (ih hds)
  | gap plain before between after _ ih =>
    obtain ⟨c, ds, rfl, hc, hrest⟩ := List.map_eq_cons_iff.mp hmap
    obtain ⟨g, ds, rfl, hg, hrest⟩ := List.map_eq_cons_iff.mp hrest
    have htight := ih hrest
    obtain ⟨d, ds, rfl, hd, -⟩ := List.map_eq_cons_iff.mp hrest
    obtain ⟨hcSeparator, hcDigit⟩ := Prod.mk.inj hc
    obtain ⟨hgSeparator, -⟩ := Prod.mk.inj hg
    obtain ⟨-, hdDigit⟩ := Prod.mk.inj hd
    exact .gap (hcSeparator.trans plain) (hcDigit.trans before) (hgSeparator.trans between)
      (hdDigit.trans after) htight

end IsTight

/-- What cutting leaves of a text is tight. -/
theorem isTight_markedFrom {last : Char} {gap : Option Char} (cs : List Char)
    (hlast : isSeparator last = false) (hgap : ∀ g ∈ gap, isSeparator g = true) :
    IsTight ((markedFrom last gap cs).map Prod.fst) := by
  induction cs generalizing last gap with
  | nil => exact .cons hlast .nil
  | cons c rest ih =>
    unfold markedFrom
    split
    · next hseparator => exact ih hlast (by simpa using hseparator)
    · next hplain =>
      have hc : isSeparator c = false := Bool.eq_false_iff.mpr hplain
      have hrest : IsTight ((markedFrom c none rest).map Prod.fst) := ih hc (by simp)
      split
      · exact .cons hlast hrest
      · next g =>
        split
        · next hdigits =>
          obtain ⟨hbefore, hafter⟩ := Bool.and_eq_true_iff.mp hdigits
          obtain ⟨mark, more, hmore⟩ := exists_markedFrom c none rest
          rw [hmore] at hrest ⊢
          exact .gap hlast hbefore (hgap g rfl) hafter hrest
        · exact .cons hlast hrest

/-- What is left after trimming begins with a character that stays. -/
theorem head_of_trimEnds {p : Char → Bool} {cs rest : List Char} {c : Char}
    (h : trimEnds p cs = c :: rest) : p c = false := by
  have hprefix : c :: rest <+: cs.dropWhile p := by
    rw [← h, trimEnds, ← List.reverse_suffix, List.reverse_reverse]
    exact List.dropWhile_suffix p
  obtain ⟨more, hmore⟩ := hprefix
  have hhead := List.head?_dropWhile_not p cs
  rwa [← hmore, List.cons_append, List.head?_cons] at hhead

theorem isTight_marked (name : List Char) : IsTight ((marked name).map Prod.fst) := by
  unfold marked
  split
  · exact .nil
  · next c rest htrim => exact isTight_markedFrom rest (head_of_trimEnds htrim) (by simp)

theorem trimEnds_of_isTight {cs : List Char} (h : IsTight cs) : trimEnds isSeparator cs = cs := by
  cases cs with
  | nil => rfl
  | cons c cs =>
    have hfront : (c :: cs).dropWhile isSeparator = c :: cs := by
      rw [List.dropWhile_cons, h.head, if_neg Bool.false_ne_true]
    obtain ⟨front, d, hcs, hd⟩ := h.last (List.cons_ne_nil _ _)
    rw [trimEnds, hfront, hcs, List.reverse_append, List.reverse_singleton, List.singleton_append,
      List.dropWhile_cons, hd, if_neg Bool.false_ne_true]
    simp

/-- Marks of words that end before no small letter. -/
def EndsBeforeNoSmall (ms : List (Char × Bool)) : Prop :=
  ms.IsChain fun m next => m.2 = true → isLower next.1 = false

/-- Cutting drops no character of a tight text, and marks a character only before a separator or at the end. -/
theorem markedFrom_of_isTight {c : Char} {rest : List Char} (h : IsTight (c :: rest))
    (hchars : ∀ d ∈ c :: rest, Sdl.isNameChar d = true) :
    (markedFrom c none rest).map Prod.fst = c :: rest ∧ EndsBeforeNoSmall (markedFrom c none rest) := by
  generalize hcs : c :: rest = cs at h hchars ⊢
  induction h generalizing c rest with
  | nil => cases hcs
  | @cons _ cs plain hrest ih =>
    obtain ⟨rfl, rfl⟩ := List.cons.inj hcs
    cases rest with
    | nil => exact ⟨rfl, .singleton _⟩
    | cons d rest =>
      obtain ⟨hmap, hmarks⟩ := ih rfl (List.forall_mem_cons.mp hchars).2
      have hmarked : markedFrom c none (d :: rest) = (c, false) :: markedFrom d none rest := by
        rw [markedFrom, hrest.head, if_neg Bool.false_ne_true]
      rw [hmarked]
      refine ⟨by rw [List.map_cons, hmap], ?_⟩
      rw [EndsBeforeNoSmall, List.isChain_cons]
      exact ⟨fun _ _ hmark => absurd hmark Bool.false_ne_true, hmarks⟩
  | @gap _ g d cs plain before between after hrest ih =>
    obtain ⟨rfl, rfl⟩ := List.cons.inj hcs
    obtain ⟨-, hg, hchars⟩ := List.forall_mem_cons.mp hchars |>.imp_right List.forall_mem_cons.mp
    obtain ⟨hmap, hmarks⟩ := ih rfl hchars
    have hmarked : markedFrom c none (g :: d :: cs) =
        (c, true) :: (g, false) :: markedFrom d none cs := by
      rw [markedFrom, between, if_pos rfl, markedFrom, hrest.head, if_neg Bool.false_ne_true, before,
        after]
      rfl
    rw [hmarked]
    refine ⟨by rw [List.map_cons, List.map_cons, hmap], ?_⟩
    rw [EndsBeforeNoSmall, List.isChain_cons_cons, List.isChain_cons]
    exact ⟨fun _ => isLower_of_isSeparator hg between, fun _ _ hmark => absurd hmark Bool.false_ne_true,
      hmarks⟩

theorem marked_of_isTight {cs : List Char} (h : IsTight cs)
    (hchars : ∀ c ∈ cs, Sdl.isNameChar c = true) :
    (marked cs).map Prod.fst = cs ∧ EndsBeforeNoSmall (marked cs) := by
  rw [marked, trimEnds_of_isTight h]
  cases cs with
  | nil => exact ⟨rfl, .nil⟩
  | cons c rest => exact markedFrom_of_isTight h hchars

/-! ### The spelling of words -/

/-- Spelling a word changes nothing that does not depend on the case. -/
theorem Word.map_spelling {α : Type} (f : Char → α) {w : Word}
    (hupper : ∀ c ∈ w.chars, f (upperChar c) = f c) (hlower : ∀ c ∈ w.chars, f (lowerChar c) = f c)
    (hboth : ∀ c ∈ w.chars, f (upperChar (lowerChar c)) = f c) :
    w.spelling.map f = w.chars.map f := by
  unfold spelling
  split
  · rw [upperCase, List.map_map]
    exact List.map_congr_left hupper
  · split
    · cases hchars : w.chars with
      | nil => rfl
      | cons c rest =>
        rw [hchars] at hlower hboth
        show f (upperChar (lowerChar c)) :: (rest.map lowerChar).map f = _
        rw [hboth c List.mem_cons_self, List.map_map, List.map_cons]
        exact congrArg _ (List.map_congr_left fun d hd => hlower d (List.mem_cons_of_mem _ hd))
    · rfl

theorem Word.length_spelling (w : Word) : w.spelling.length = w.chars.length := by
  have h := map_spelling (fun _ => ()) (w := w) (fun _ _ => rfl) (fun _ _ => rfl) fun _ _ => rfl
  simpa using congrArg List.length h

/-- A word is spelled as it stands unless it has to be respelled, if it begins with no small letter and has one
after an initialism in it. -/
theorem spelling_eq_chars_iff {partly : Bool} {c : Char} {cs : List Char}
    (hchars : ∀ d ∈ c :: cs, Sdl.isNameChar d = true) (hfirst : isLower c = false)
    (hpartly : partly = true → (c :: cs).any isLower = true) :
    (Word.ofChars partly (c :: cs)).spelling = c :: cs ↔ isRespelled (c :: cs) = false := by
  obtain ⟨hc, hcs⟩ := List.forall_mem_cons.mp hchars
  unfold Word.ofChars Word.spelling isRespelled
  by_cases hinitialism : isInitialism (upperCase (c :: cs)) = true
  · simp only [hinitialism, if_true]
    exact upperCase_eq_self_iff hchars
  · have hcapitalized : capitalize (lowerCase (c :: cs)) = c :: lowerCase cs := by
      show upperChar (lowerChar c) :: lowerCase cs = _
      rw [upperChar_lowerChar hc hfirst]
    simp only [hinitialism, if_false, Bool.false_eq_true, hcapitalized, List.tail_cons]
    by_cases hsmall : (c :: cs).any isLower = true
    · have hmixed : ¬upperCase (c :: cs) = c :: cs := by
        rw [upperCase_eq_self_iff hchars, hsmall]
        exact Bool.false_ne_true.symm
      simp only [hsmall, Bool.not_true, Bool.false_and, iff_true]
      split
      · next hsame =>
        -- there are small letters, so there are no capital ones
        simp only [Bool.and_eq_true, Bool.or_eq_true, beq_iff_eq, hmixed, false_or] at hsame
        exact congrArg _ (List.cons.inj hsame.2).2
      · rfl
    · have hwhole : partly = false := Bool.eq_false_iff.mpr fun h => hsmall (hpartly h)
      have hcapitals : upperCase (c :: cs) = c :: cs :=
        (upperCase_eq_self_iff hchars).mpr (Bool.eq_false_iff.mpr hsmall)
      simp only [hwhole, hcapitals, hsmall, Bool.not_false, beq_self_eq_true, Bool.true_or, Bool.and_self,
        if_true, Bool.true_and, List.cons.injEq, true_and]
      exact lowerCase_eq_self_iff hcs

/-- Where no mark stands before a small letter, each word begins with no small letter, and an initialism in it
has a small letter after it. -/
theorem of_mem_wordsFrom {partly : Bool} {word : List Char} {ms : List (Char × Bool)} {w : Word}
    (hmarks : EndsBeforeNoSmall ms) (hfirst : ∀ c ∈ (word ++ ms.map Prod.fst).head?, isLower c = false)
    (hpartly : partly = true → (word ++ (ms.map Prod.fst).take 1).any isLower = true)
    (hw : w ∈ wordsFrom partly word ms) :
    ∃ partly' c cs, w = Word.ofChars partly' (c :: cs) ∧ isLower c = false ∧
      (partly' = true → (c :: cs).any isLower = true) := by
  induction ms generalizing partly word with
  | nil => cases hw
  | cons m rest ih =>
    obtain ⟨c, mark⟩ := m
    have hends : w = Word.ofChars partly (word ++ [c]) → ∃ partly' c cs, w = Word.ofChars partly' (c :: cs) ∧
        isLower c = false ∧ (partly' = true → (c :: cs).any isLower = true) := by
      rintro rfl
      cases word with
      | nil => exact ⟨partly, c, [], rfl, hfirst c rfl, hpartly⟩
      | cons d word => exact ⟨partly, d, word ++ [c], rfl, hfirst d rfl, hpartly⟩
    cases rest with
    | nil => exact hends (List.mem_singleton.mp hw)
    | cons next rest =>
      obtain ⟨hnext, hrest⟩ := List.isChain_cons_cons.mp hmarks
      rcases wordsFrom_step partly word c mark next rest with ⟨hstep, hend⟩ | ⟨partly', hstep, hgoes⟩
      · rw [hstep] at hw
        rcases List.mem_cons.mp hw with hw | hw
        · exact hends hw
        · refine ih hrest ?_ (absurd · Bool.false_ne_true) hw
          intro d hd
          obtain rfl : next.1 = d := by simpa using hd
          exact hend.elim hnext id
      · rw [hstep] at hw
        refine ih hrest (by simpa using hfirst) ?_ hw
        intro hpartly'
        rcases hgoes with rfl | ⟨-, hsmall⟩
        · have := hpartly hpartly'
          simp only [List.map_cons, List.take_succ_cons, List.take_zero, List.any_append] at this ⊢
          rw [this, Bool.true_or]
        · simp [hsmall]

/-! ### Identifiers -/

/-- The identifier of a name is tight, unless it is an underscore. -/
theorem isTight_identifier {name : String} (h : Sdl.isName name = true) (hne : name ≠ "_") :
    IsTight (identifier name).toList := by
  have hchars : ∀ w ∈ words name.toList, ∀ c ∈ w.chars, Sdl.isNameChar c = true := fun w hw c hc =>
    Sdl.isNameChar_of_mem h (mem_of_mem_words hw hc)
  rw [identifier, if_neg (by simpa using hne), String.toList_ofList]
  refine (isTight_marked name.toList).of_map ?_
  rw [← flatMap_chars_words, List.map_flatMap, List.map_flatMap]
  refine List.flatMap_congr fun w hw => ?_
  refine Word.map_spelling _ (fun c hc => (case_of_isNameChar (hchars w hw c hc)).1)
    (fun c hc => (case_of_isNameChar (hchars w hw c hc)).2) fun c hc => ?_
  have hlower := (isNameChar_case (hchars w hw c hc)).2
  exact (case_of_isNameChar hlower).1.trans (case_of_isNameChar (hchars w hw c hc)).2

/-- A tight text that begins with no small letter is its own identifier if none of its words is respelled. -/
theorem identifier_eq_self_iff {s : String} (hchars : ∀ c ∈ s.toList, Sdl.isNameChar c = true)
    (htight : IsTight s.toList) (hfirst : Source.beginsSmall s = false) :
    identifier s = s ↔ ∀ w ∈ words s.toList, isRespelled w.chars = false := by
  have hne : ¬(s == "_") = true := by
    intro hs
    rw [eq_of_beq hs] at htight
    exact absurd htight.head (by decide +kernel)
  obtain ⟨hmap, hmarks⟩ := marked_of_isTight htight hchars
  have hcut : (words s.toList).flatMap Word.chars = s.toList := (flatMap_chars_words _).trans hmap
  have hlengths : ((words s.toList).map Word.spelling).map List.length =
      ((words s.toList).map Word.chars).map List.length := by
    rw [List.map_map, List.map_map]
    exact List.map_congr_left fun w _ => w.length_spelling
  have hspelled : identifier s = s ↔ ∀ w ∈ words s.toList, w.spelling = w.chars := by
    rw [identifier, if_neg hne, ← String.toList_inj, String.toList_ofList, ← List.map_inj_left,
      List.eq_iff_flatten_eq, ← List.flatMap_def, ← List.flatMap_def, hcut]
    exact (and_iff_left hlengths).symm
  rw [hspelled]
  refine forall₂_congr fun w hw => ?_
  have hhead : ∀ c ∈ ([] ++ (marked s.toList).map Prod.fst).head?, isLower c = false := by
    intro c hc
    rw [List.nil_append, hmap] at hc
    rw [Source.beginsSmall, hc] at hfirst
    exact hfirst
  obtain ⟨partly, c, cs, rfl, hc, hpartly⟩ := of_mem_wordsFrom hmarks hhead (absurd · Bool.false_ne_true) hw
  have hword : ∀ d ∈ c :: cs, Sdl.isNameChar d = true := by
    intro d hd
    exact hchars d (mem_of_mem_words hw (by rwa [Word.chars_ofChars]))
  rw [Word.chars_ofChars]
  exact spelling_eq_chars_iff hword hc hpartly

/-- The identifier of a name is its own identifier exactly if, cut into words again, none of its words is
respelled: none is an initialism with a small letter, and none has capital letters only, one of them after its
first character, without being an initialism. -/
theorem identifier_identifier_eq_iff {name : String} (h : Sdl.isName name = true) :
    identifier (identifier name) = identifier name ↔
      ∀ w ∈ words (identifier name).toList, isRespelled w.chars = false := by
  by_cases hne : name = "_"
  · subst hne
    have hwords : words (identifier "_").toList = [] := by decide +kernel
    rw [hwords]
    exact iff_of_true rfl (List.forall_mem_nil _)
  · exact identifier_eq_self_iff (fun _ hc => isNameChar_of_mem_identifier
      (fun _ hd => Sdl.isNameChar_of_mem h hd) hc) (isTight_identifier h hne) (beginsSmall_identifier h)

/-- Without its boundary, the initialism in the second word is no initialism any more. -/
theorem identifier_identifier_shortWord : Sdl.isName "aID" = true ∧ identifier "aID" = "AID" ∧
    identifier (identifier "aID") = "Aid" ∧ identifier (identifier "aID") ≠ identifier "aID" := by
  decide +kernel

theorem identifier_identifier_cacheVolumeID : Sdl.isName "cache_volumeId" = true ∧
    identifier (identifier "cache_volumeId") = identifier "cache_volumeId" := by
  have hname : Sdl.isName "cache_volumeId" = true := by decide +kernel
  refine ⟨hname, (identifier_identifier_eq_iff hname).mpr ?_⟩
  have hall : (words (identifier "cache_volumeId").toList).all (fun w => !isRespelled w.chars) = true := by
    decide +kernel
  simpa using hall

end Bindery.Naming
