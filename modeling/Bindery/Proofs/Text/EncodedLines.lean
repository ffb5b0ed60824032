import Bindery.Proofs.Text.Lines
import Bindery.Proofs.Text.Octets

/-!
# Lines of encoded texts

A text can be cut into lines before or after it is encoded. All that is asked of the encoding is that it
writes line feeds, carriage returns, spaces and tabs by one unit each, which stands for nothing else.

## Main definitions

- `KeepsBlanks` — an encoding that keeps the blanks apart from all else

## Main results

- `linesOf_flatMap` — the lines of an encoded text are the encoded lines
- `Octets.docLines_ofString`, `Octets.docComment_ofString` — descriptions in characters and in octets
-/

namespace Bindery

/-- An encoding that writes each blank by the unit of the other alphabet, and nothing else by it. -/
structure KeepsBlanks {α β : Type} (unit : Char → α) (unit' : Char → β) (e : α → List β) : Prop where
  ne_nil : ∀ a, e a ≠ []
  blank : ∀ c ∈ blankChars, e (unit c) = [unit' c]
  mem_iff : ∀ a, ∀ b ∈ e a, ∀ c ∈ blankChars, b = unit' c ↔ a = unit c

section Pieces

variable {α β : Type} {e : α → List β} {p : α → Bool} {q : β → Bool}

theorem trimEnd_append_of_forall {cs ds : List β} (h : ∀ d ∈ ds, q d = true) :
    trimEnd q (cs ++ ds) = trimEnd q cs := by
  rw [trimEnd, List.reverse_append, List.dropWhile_append_of_pos (by simpa using h)]
  rfl

theorem trimEnd_flatMap (hne : ∀ a, e a ≠ []) (hpq : ∀ a, ∀ b ∈ e a, q b = p a) (text : List α) :
    trimEnd q (text.flatMap e) = (trimEnd p text).flatMap e := by
  induction text using List.reverseRecOn with
  | nil => rfl
  | append_singleton text a ih =>
    rw [List.flatMap_append, List.flatMap_singleton]
    by_cases ha : p a = true
    · have hp : ∀ a' ∈ [a], p a' = true := by simpa using ha
      have hq : ∀ b ∈ e a, q b = true := fun b hb => (hpq a b hb).trans ha
      rw [trimEnd_append_of_forall hp, trimEnd_append_of_forall hq, ih]
    · have ha' : p a = false := by simpa using ha
      -- the last unit of the last character stays
      have hlast : q ((e a).getLast (hne a)) = false :=
        (hpq a _ (List.getLast_mem (hne a))).trans ha'
      rw [trimEnd_concat ha', ← List.dropLast_append_getLast (hne a), ← List.append_assoc,
        trimEnd_concat hlast, List.append_assoc, List.dropLast_append_getLast (hne a),
        List.flatMap_append, List.flatMap_singleton]

theorem splitWhen_append_of_forall {cs : List β} (h : ∀ c ∈ cs, q c = false) (ds : List β) :
    splitWhen q (cs ++ ds) = (splitWhen q ds).modifyHead (cs ++ ·) := by
  induction cs with
  | nil => exact (congrFun List.modifyHead_id _).symm
  | cons c cs ih =>
    rw [List.cons_append, splitWhen, if_neg (by simp [h c List.mem_cons_self]),
      ih fun d hd => h d (List.mem_cons_of_mem _ hd)]
    cases hds : splitWhen q ds with
    | nil => exact absurd hds (splitWhen_ne_nil q ds)
    | cons piece pieces => rfl

theorem splitWhen_flatMap (hone : ∀ a, p a = true → ∃ b, e a = [b])
    (hpq : ∀ a, ∀ b ∈ e a, q b = p a) (text : List α) :
    splitWhen q (text.flatMap e) = (splitWhen p text).map (·.flatMap e) := by
  induction text with
  | nil => rfl
  | cons a text ih =>
    rw [List.flatMap_cons, splitWhen]
    by_cases ha : p a = true
    · obtain ⟨b, hb⟩ := hone a ha
      have hq : q b = true := (hpq a b (by simp [hb])).trans ha
      rw [if_pos ha, hb, List.singleton_append, splitWhen, if_pos hq, ih]
      rfl
    · have hq : ∀ b ∈ e a, q b = false := fun b hb => (hpq a b hb).trans (by simpa using ha)
      rw [if_neg ha, splitWhen_append_of_forall hq, ih]
      cases htext : splitWhen p text with
      | nil => exact absurd htext (splitWhen_ne_nil p text)
      | cons piece pieces => rfl

end Pieces

namespace KeepsBlanks

variable {α β : Type} {unit : Char → α} {unit' : Char → β} {e : α → List β}

theorem head?_flatMap (h : KeepsBlanks unit unit' e) {c : Char} (hc : c ∈ blankChars) (text : List α) :
    (text.flatMap e).head? = some (unit' c) ↔ text.head? = some (unit c) := by
  cases text with
  | nil => simp
  | cons a text =>
    obtain ⟨b, bs, hb⟩ := List.exists_cons_of_ne_nil (h.ne_nil a)
    rw [List.flatMap_cons, hb, List.cons_append, List.head?_cons, List.head?_cons, Option.some_inj,
      Option.some_inj]
    exact h.mem_iff a b (by simp [hb]) c hc

variable [BEq α] [LawfulBEq α] [BEq β] [LawfulBEq β]

theorem unixLines_flatMap (h : KeepsBlanks unit unit' e) (text : List α) :
    unixLines unit' (text.flatMap e) = (unixLines unit text).flatMap e := by
  induction text with
  | nil => rfl
  | cons a text ih =>
    have hfeed := h.head?_flatMap (show '\n' ∈ blankChars by decide) text
    rw [List.flatMap_cons]
    by_cases hbreak : a = unit '\r' ∧ text.head? = some (unit '\n')
    · obtain ⟨rfl, hhead⟩ := hbreak
      rw [h.blank _ (by decide), List.singleton_append, unixLines_return (hfeed.mpr hhead), ih,
        unixLines_return hhead]
    · rw [unixLines_cons hbreak, List.flatMap_cons, ← ih]
      have hreturn : ∀ b ∈ e a, b = unit' '\r' ↔ a = unit '\r' :=
        fun b hb => h.mem_iff a b hb '\r' (by decide)
      have hkept : unixLines unit' (e a) = e a := by
        by_cases ha : a = unit '\r'
        · rw [ha, h.blank _ (by decide)]
          exact unixLines_cons (by simp)
        · exact unixLines_of_return_notMem fun hmem => ha ((hreturn _ hmem).mp rfl)
      rw [unixLines_append, hkept]
      rintro ⟨hlast, hhead⟩
      exact hbreak ⟨(hreturn _ (List.mem_of_getLast? hlast)).mp rfl, hfeed.mp hhead⟩

theorem isAnyOf_eq (h : KeepsBlanks unit unit' e) {chars : List Char} (hchars : chars ⊆ blankChars)
    {a : α} {b : β} (hb : b ∈ e a) : isAnyOf unit' chars b = isAnyOf unit chars a := by
  rw [Bool.eq_iff_iff, isAnyOf_iff, isAnyOf_iff, List.mem_map, List.mem_map]
  refine exists_congr fun c => and_congr_right fun hc => ?_
  rw [eq_comm, h.mem_iff a b hb c (hchars hc), eq_comm]

/-- The lines of an encoded text are the encoded lines. -/
theorem linesOf_flatMap (h : KeepsBlanks unit unit' e) (text : List α) :
    linesOf unit' (text.flatMap e) = (linesOf unit text).map (·.flatMap e) := by
  have hbare : bareText unit' (text.flatMap e) = (bareText unit text).flatMap e := by
    rw [bareText, h.unixLines_flatMap,
      trimEnd_flatMap h.ne_nil fun a b => h.isAnyOf_eq (by decide)]
    rfl
  have hfeed : ∀ a, ∀ b ∈ e a, (b == unit' '\n') = (a == unit '\n') := by
    intro a b hb
    rw [Bool.eq_iff_iff, beq_iff_eq, beq_iff_eq]
    exact h.mem_iff a b hb '\n' (by decide)
  have hone : ∀ a, (a == unit '\n') = true → ∃ b, e a = [b] := by
    intro a ha
    rw [beq_iff_eq.mp ha]
    exact ⟨_, h.blank '\n' (by decide)⟩
  by_cases hnil : bareText unit text = []
  · rw [linesOf_of_nil hnil, linesOf_of_nil (by rw [hbare, hnil]; rfl)]
    rfl
  · have hne : bareText unit' (text.flatMap e) ≠ [] := by
      rw [hbare]
      intro hempty
      obtain ⟨a, rest, ha⟩ := List.exists_cons_of_ne_nil hnil
      rw [ha, List.flatMap_cons] at hempty
      exact h.ne_nil a (List.append_eq_nil_iff.mp hempty).1
    rw [linesOf_of_ne_nil hne, linesOf_of_ne_nil hnil, hbare, splitWhen_flatMap hone hfeed,
      List.map_map, List.map_map]
    refine List.map_congr_left fun piece _ => ?_
    exact trimEnd_flatMap h.ne_nil (fun a b => h.isAnyOf_eq (by decide)) piece

end KeepsBlanks

namespace Octets

theorem ofString_eq_flatMap (s : String) : ofString s = s.toList.flatMap String.utf8EncodeChar := by
  rw [ofString_eq, ← String.utf8Encode_toList, List.utf8Encode, List.toList_data_toByteArray]

/-- The octets of a character beyond ASCII are beyond ASCII. -/
theorem le_of_mem_utf8EncodeChar {c : Char} (h : 128 ≤ c.toNat) {b : UInt8}
    (hb : b ∈ String.utf8EncodeChar c) : 128 ≤ b.toNat := by
  have hval : c.val.toNat = c.toNat := rfl
  simp only [String.utf8EncodeChar, hval] at hb
  split at hb
  · omega
  split at hb
  · simp only [List.mem_cons, List.not_mem_nil, or_false] at hb
    rcases hb with rfl | rfl <;> simp only [UInt8.toNat_ofNat'] <;> omega
  split at hb
  · simp only [List.mem_cons, List.not_mem_nil, or_false] at hb
    rcases hb with rfl | rfl | rfl <;> simp only [UInt8.toNat_ofNat'] <;> omega
  · simp only [List.mem_cons, List.not_mem_nil, or_false] at hb
    rcases hb with rfl | rfl | rfl | rfl <;> simp only [UInt8.toNat_ofNat'] <;> omega

theorem keepsBlanks_utf8EncodeChar : KeepsBlanks id Char.toUInt8 String.utf8EncodeChar := by
  have hblank : ∀ c ∈ blankChars, c.toNat < 128 ∧ c.toUInt8 = UInt8.ofNat c.toNat := by
    intro c hc
    simp only [blankChars, List.mem_cons, List.not_mem_nil, or_false] at hc
    rcases hc with rfl | rfl | rfl | rfl <;> exact ⟨by decide, rfl⟩
  refine ⟨?_, ?_, ?_⟩
  · intro a hnil
    have hsize := String.length_utf8EncodeChar a
    rw [hnil] at hsize
    exact absurd hsize.symm (Nat.ne_of_gt a.utf8Size_pos)
  · intro c hc
    obtain ⟨hlt, hunit⟩ := hblank c hc
    rw [id, utf8EncodeChar_of_lt hlt, hunit]
  · intro a b hb c hc
    obtain ⟨hlt, hunit⟩ := hblank c hc
    rw [hunit, id]
    by_cases ha : a.toNat < 128
    · rw [utf8EncodeChar_of_lt ha, List.mem_singleton] at hb
      rw [hb, (ofNat_lt_iff ha hlt).2]
    · have hhigh := le_of_mem_utf8EncodeChar (Nat.le_of_not_lt ha) hb
      refine iff_of_false ?_ ?_
      · rintro rfl
        rw [UInt8.toNat_ofNat'] at hhigh
        omega
      · rintro rfl
        exact ha hlt

/-- The lines of a description are the same in characters and in octets. -/
theorem docLines_ofString (s : String) : docLines (ofString s) = (Bindery.docLines s).map ofString := by
  rw [docLines, ofString_eq_flatMap, keepsBlanks_utf8EncodeChar.linesOf_flatMap, Bindery.docLines,
    List.map_map]
  refine List.map_congr_left fun line _ => ?_
  show _ = ofString (String.ofList line)
  rw [ofString_eq_flatMap, String.toList_ofList]

theorem ofString_empty : ofString "" = [] := by
  rw [ofString_eq_flatMap]
  rfl

theorem commentLine_ofString (s : String) : commentLine (ofString s) = ofString (Comment.line s) := by
  by_cases hs : s = ""
  · rw [hs, ofString_empty]
    rfl
  · have hne : ofString s ≠ [] := fun hnil => hs (ofString_injective (hnil.trans ofString_empty.symm))
    rw [commentLine, if_neg (by simpa using hne), Comment.line, if_neg (by simpa using hs),
      ofString_append]

theorem ofString_join (ls : List String) : ofString (String.join ls) = ls.flatMap ofString := by
  rw [ofString_eq_flatMap, String.toList_join, List.flatMap_assoc]
  exact List.flatMap_congr fun l _ => (ofString_eq_flatMap l).symm

theorem intersperse_map {β γ : Type} (f : β → γ) (sep : β) (bs : List β) :
    (bs.map f).intersperse (f sep) = (bs.intersperse sep).map f := by
  induction bs with
  | nil => rfl
  | cons b bs ih =>
    cases bs with
    | nil => rfl
    | cons c bs =>
      rw [List.map_cons, List.map_cons, List.intersperse_cons_cons, ← List.map_cons, ih,
        List.intersperse_cons_cons, List.map_cons, List.map_cons]

theorem layout_map {β γ : Type} (f : β → γ) {line : β → β} {line' : γ → γ}
    (h : ∀ b, line' (f b) = f (line b)) (empty : β) (blocks : List (List β)) :
    Comment.layout line' (f empty) (blocks.map (·.map f)) = (Comment.layout line empty blocks).map f := by
  have hfilter : (fun block : List γ => !block.isEmpty) ∘ List.map f = fun block => !block.isEmpty := by
    funext block
    simp
  have hlines : List.map line' ∘ List.map f = List.map f ∘ List.map line := by
    funext block
    simp [h]
  rw [Comment.layout, Comment.layout, List.filter_map, hfilter, List.map_map, hlines, ← List.map_map, h]
  show (List.intersperse (List.map f [line empty]) _).flatten = _
  rw [intersperse_map, List.map_flatten]

/-- The comment of a description is the same in characters and in octets. -/
theorem docComment_ofString (description : String) (paragraphs : List String) :
    docComment (ofString description) (paragraphs.map ofString) =
      ofString (Comment.ofBlocks description paragraphs).text := by
  have hblocks : (ofString description :: paragraphs.map ofString).map docLines =
      ((description :: paragraphs).map Bindery.docLines).map (·.map ofString) := by
    rw [← List.map_cons, List.map_map, List.map_map]
    exact List.map_congr_left fun s _ => docLines_ofString s
  rw [docComment, hblocks, ← ofString_empty,
    layout_map ofString commentLine_ofString, Comment.text, ofString_join, List.flatMap_map,
    List.flatMap_map]
  exact List.flatMap_congr fun l _ => (ofString_append l "\n").symm

end Octets

end Bindery
