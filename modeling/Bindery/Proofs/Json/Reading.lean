import Bindery.Proofs.Json.Grammar
import Mathlib.Data.List.Forall2
import Mathlib.Data.List.TakeDrop

/-!
# Reading what is JSON

Every text of a value is read as the value, unless arrays and objects are nested too deep in it; then reading
ends in a fault. The text of a part is kept as it was written.

## Main definitions

- `Json.Stops` — what can follow a value
- `Json.Scan.Tells` — a scanned value with its value and its text
- `Json.Reads` — how a text of a value is read

## Main results

- `Json.Spells.reads` — how every text of a value is read
- `Json.Document.read_object` — how every text of an object is read, member by member
-/

namespace Bindery.Json

open Scan

/-! ### White space -/

theorem isSpace_iff {c : Char} : isSpace c = true ↔ c ∈ [' ', '\t', '\n', '\r'] := by
  simp [isSpace, or_assoc]

theorem skipSpace_append {blank cs : List Char} (h : IsBlank blank) :
    skipSpace (blank ++ cs) = skipSpace cs := by
  unfold skipSpace
  exact List.dropWhile_append_of_pos fun c hc => isSpace_iff.mpr (h c hc)

theorem skipSpace_cons {c : Char} (h : isSpace c = false) (cs : List Char) :
    skipSpace (c :: cs) = c :: cs := by
  simp [skipSpace, h]

/-- What can follow a value: nothing, white space, a comma or a closing delimiter. -/
def Stops (rest : List Char) : Prop :=
  ∀ c ∈ rest.head?, c ∈ [' ', '\t', '\n', '\r', ',', ']', '\x7d']

theorem stops_nil : Stops [] :=
  nofun

theorem stops_blank {blank rest : List Char} (h : IsBlank blank) (hrest : Stops rest) :
    Stops (blank ++ rest) := by
  cases blank with
  | nil => exact hrest
  | cons c cs =>
    intro d hd
    obtain rfl := Option.mem_some.mp hd
    have hc := h c List.mem_cons_self
    simp only [List.mem_cons, List.not_mem_nil, or_false] at hc ⊢
    tauto

/-! ### Strings -/

theorem readString_letter {e x : Char} (h : (e, x) ∈ escapes) (rest : List Char) :
    readString ('\\' :: e :: rest) = before x (readString rest) := by
  simp only [escapes, List.mem_cons, Prod.mk.injEq, List.not_mem_nil, or_false] at h
  rcases h with ⟨rfl, rfl⟩ | ⟨rfl, rfl⟩ | ⟨rfl, rfl⟩ | ⟨rfl, rfl⟩ | ⟨rfl, rfl⟩ | ⟨rfl, rfl⟩ |
    ⟨rfl, rfl⟩ | ⟨rfl, rfl⟩ <;> rfl

theorem not_half (x : Char) : ¬ (0xd800 ≤ x.toNat ∧ x.toNat < 0xe000) := by
  have hvalid : x.toNat.isValidChar := x.valid
  rcases hvalid with h | h <;> omega

theorem readString_code {a b c d x : Char} (h : hex4? a b c d = some x.toNat) (rest : List Char) :
    readString ('\\' :: 'u' :: a :: b :: c :: d :: rest) = before x (readString rest) := by
  have hhalf := not_half x
  have hhigh : (decide (0xd800 ≤ x.toNat) && decide (x.toNat < 0xdc00)) = false := by
    simp only [Bool.and_eq_false_iff, decide_eq_false_iff_not]
    omega
  have hlow : (decide (0xdc00 ≤ x.toNat) && decide (x.toNat < 0xe000)) = false := by
    simp only [Bool.and_eq_false_iff, decide_eq_false_iff_not]
    omega
  have hany : (decide (0xd800 ≤ x.toNat) && decide (x.toNat < 0xe000)) = false := by
    simp only [Bool.and_eq_false_iff, decide_eq_false_iff_not]
    omega
  rw [readString.eq_def]
  -- the escape may be followed by another one, which is looked at but belongs to what is read next
  split
  case h_3 heq =>
    cases heq
    simp only [h, hhigh, hlow, Bool.false_eq_true, if_false, Char.ofNat_toNat]
  case h_4 heq =>
    cases heq
    simp only [h, hany, Bool.false_eq_true, if_false, Char.ofNat_toNat]
  case h_5 hnone heq =>
    cases heq
    exact (hnone a b c d rest rfl rfl).elim
  case h_6 hnone heq =>
    cases heq
    exact (hnone 'u' _ rfl rfl).elim
  all_goals
    next heq => cases heq

theorem readString_halves {a b c d a' b' c' d' x : Char} {high low : Nat}
    (hhex : hex4? a b c d = some high) (hhex' : hex4? a' b' c' d' = some low)
    (hhigh : 0xd800 ≤ high ∧ high < 0xdc00) (hlow : 0xdc00 ≤ low ∧ low < 0xe000)
    (hwhole : x.toNat = 0x10000 + (high - 0xd800) * 0x400 + (low - 0xdc00)) (rest : List Char) :
    readString ('\\' :: 'u' :: a :: b :: c :: d :: '\\' :: 'u' :: a' :: b' :: c' :: d' :: rest) =
      before x (readString rest) := by
  rw [readString]
  simp only [hhex, hhex', hhigh, hlow, decide_true, Bool.and_self, if_true]
  rw [← hwhole, Char.ofNat_toNat]

theorem readString_plain {x : Char} (hvisible : 0x20 ≤ x.toNat) (hquote : x ≠ '"')
    (hbackslash : x ≠ '\\') (rest : List Char) :
    readString (x :: rest) = before x (readString rest) := by
  rw [readString.eq_def]
  split
  case h_6 heq =>
    cases heq
    have hplain : (decide (x.toNat < 0x20) || x == '\\') = false := by
      simp [hbackslash, hvisible]
    simp only [hplain, Bool.false_eq_true, if_false]
  case h_2 heq =>
    cases heq
    exact absurd rfl hquote
  case h_1 heq => cases heq
  all_goals
    next heq =>
      cases heq
      exact absurd rfl hbackslash

theorem readString_char {x : Char} {cs : List Char} (h : SpellsChar x cs) (rest : List Char) :
    readString (cs ++ rest) = before x (readString rest) := by
  cases h with
  | plain hvisible hquote hbackslash => exact readString_plain hvisible hquote hbackslash rest
  | letter hlisted => exact readString_letter hlisted rest
  | code hhex => exact readString_code hhex rest
  | halves hhex hhex' hhigh hlow hwhole => exact readString_halves hhex hhex' hhigh hlow hwhole rest

/-- The content of a string is read as the string. -/
theorem readString_spells {xs cs : List Char} (h : SpellsString xs cs) (rest : List Char) :
    readString (cs ++ '"' :: rest) = some (xs, rest) := by
  induction h with
  | nil => rfl
  | cons first more ih =>
    rw [List.append_assoc, readString_char first, ih]
    rfl

/-! ### Numbers -/

theorem readDigits_append {ds rest : List Char} (h : IsDigits ds)
    (hrest : ∀ c ∈ rest.head?, c.isDigit = false) : readDigits (ds ++ rest) = some (ds, rest) := by
  have hspan : (ds ++ rest).span Char.isDigit = (ds, rest) := by
    rw [List.span_eq_takeWhile_dropWhile, List.takeWhile_append_of_pos h.2,
      List.dropWhile_append_of_pos h.2]
    cases rest with
    | nil => simp
    | cons c cs => simp [hrest c rfl]
  rw [readDigits, hspan]
  cases ds with
  | nil => exact absurd rfl h.1
  | cons d ds => rfl

/-- What follows a number does not go on with it. -/
theorem Stops.ends {rest : List Char} (h : Stops rest) :
    ∀ c ∈ rest.head?, c.isDigit = false ∧ c ≠ '.' ∧ c ≠ 'e' ∧ c ≠ 'E' := by
  intro c hc
  have hmem := h c hc
  simp only [List.mem_cons, List.not_mem_nil, or_false] at hmem
  rcases hmem with rfl | rfl | rfl | rfl | rfl | rfl | rfl <;> decide

theorem readExponent_append {cs rest : List Char} (h : IsExponent cs) (hrest : Stops rest) :
    readExponent (cs ++ rest) = some (cs, rest) := by
  have hends := hrest.ends
  cases h with
  | none =>
    cases rest with
    | nil => rfl
    | cons c rest =>
      obtain ⟨-, -, he, hE⟩ := hends c rfl
      simp [readExponent, he, hE]
  | digits hmark hsigned hdigits =>
    rename_i e sign ds
    have hread := readDigits_append hdigits fun c hc => (hends c hc).1
    have he : (e == 'e' || e == 'E') = true := by simpa using hmark
    simp only [List.mem_cons, List.not_mem_nil, or_false] at hsigned
    rcases hsigned with rfl | rfl | rfl
    · -- without a sign, the exponent begins with a digit
      obtain ⟨d, more, rfl⟩ := List.exists_cons_of_ne_nil hdigits.1
      have hd := hdigits.2 d List.mem_cons_self
      rw [List.append_assoc, List.singleton_append, readExponent, if_pos he, hread]
      · rfl
      · rintro more' ⟨⟩
        cases hd
      · rintro more' ⟨⟩
        cases hd
    · simp [readExponent, he, hread, before]
    · simp [readExponent, he, hread, before]

theorem readFraction_append {cs rest : List Char} (h : IsFraction cs)
    (hrest : ∀ c ∈ rest.head?, c.isDigit = false ∧ c ≠ '.') :
    readFraction (cs ++ rest) = some (cs, rest) := by
  cases h with
  | none =>
    rw [List.nil_append, readFraction.eq_def]
    split
    · next hdot => exact absurd rfl (hrest '.' rfl).2
    · rfl
  | digits hdigits =>
    rw [List.cons_append, readFraction, readDigits_append hdigits fun c hc => (hrest c hc).1]
    rfl

/-- What follows the whole part of a number is no digit, and what follows the fraction is no dot either. -/
theorem exponent_head {cs rest : List Char} (h : IsExponent cs) (hrest : Stops rest) :
    ∀ c ∈ (cs ++ rest).head?, c.isDigit = false ∧ c ≠ '.' := by
  intro c hc
  cases h with
  | none =>
    obtain ⟨hdigit, hdot, -⟩ := hrest.ends c hc
    exact ⟨hdigit, hdot⟩
  | digits hmark hsigned hdigits =>
    obtain rfl := Option.mem_some.mp hc
    simp only [List.mem_cons, List.not_mem_nil, or_false] at hmark
    rcases hmark with rfl | rfl <;> decide

theorem fraction_head {cs rest : List Char} (h : IsFraction cs)
    (hrest : ∀ c ∈ rest.head?, c.isDigit = false ∧ c ≠ '.') :
    ∀ c ∈ (cs ++ rest).head?, c.isDigit = false := by
  intro c hc
  cases h with
  | none => exact (hrest c hc).1
  | digits hdigits =>
    obtain rfl := Option.mem_some.mp hc
    rfl

theorem readUnsigned_append {whole fraction exponent rest : List Char} (hwhole : IsWhole whole)
    (hfraction : IsFraction fraction) (hexponent : IsExponent exponent) (hrest : Stops rest) :
    readUnsigned (whole ++ fraction ++ exponent ++ rest) =
      some (whole ++ fraction ++ exponent, rest) := by
  have hexp := readExponent_append hexponent hrest
  have hexpHead := exponent_head hexponent hrest
  have hfrac := readFraction_append hfraction hexpHead
  have hfracHead := fraction_head hfraction hexpHead
  rw [List.append_assoc, List.append_assoc]
  unfold readUnsigned
  cases hwhole with
  | zero =>
    simp only [List.cons_append, List.nil_append, Option.bind_eq_bind, Option.bind_some, hfrac, hexp]
    rfl
  | digits hdigits hfirst =>
    have hread := readDigits_append hdigits hfracHead
    split
    · next heq =>
      cases heq
      exact absurd rfl hfirst
    · simp only [hread, Option.bind_eq_bind, Option.bind_some, hfrac, hexp]
      rfl

/-- The text of a number is read as the number. -/
theorem readNumber_append {cs rest : List Char} (h : IsNumber cs) (hrest : Stops rest) :
    readNumber (cs ++ rest) = some (cs, rest) := by
  cases h with
  | parts hsigned hwhole hfraction hexponent =>
    rename_i sign whole fraction exponent
    have hread := readUnsigned_append hwhole hfraction hexponent hrest
    simp only [List.mem_cons, List.not_mem_nil, or_false] at hsigned
    rcases hsigned with rfl | rfl
    · rw [List.nil_append, readNumber.eq_def]
      split
      · next heq =>
        -- the whole part begins with a digit
        cases hwhole with
        | zero => cases heq
        | digits hdigits =>
          cases heq
          cases hdigits.2 '-' List.mem_cons_self
      · exact hread
    · simp only [List.cons_append, List.nil_append, readNumber, hread]
      rfl

/-! ### Values -/

/-- A scanned value has the value and was read from the text. -/
structure Scan.Tells (v : Scan) (j : Json) (text : List Char) : Prop where
  /-- The value. -/
  value : v.json? = some j
  /-- The text. -/
  text : v.rawText = text

/-- How a text of a value is read: to its end, or with a fault if it is nested too deep. -/
structure Reads (j : Json) (cs : List Char) : Prop where
  /-- A value that is not nested too deep is read to its end. -/
  whole : ∀ fuel levels rest, cs.length ≤ fuel → Stops rest → j.depth ≤ levels →
    ∃ v, readValue fuel levels (cs ++ rest) = (v, some rest) ∧ v.Tells j cs
  /-- A value that is nested too deep is not. -/
  tooDeep : ∀ fuel levels rest, cs.length ≤ fuel → Stops rest → levels < j.depth →
    ∃ v, readValue fuel levels (cs ++ rest) = (v, none) ∧ v.json? = none

theorem Extent.chars_append (cs rest : List Char) : (Extent.mk (cs ++ rest) rest).chars = cs := by
  simp [Extent.chars]

/-- The first character of a number. -/
theorem IsNumber.head {cs : List Char} (h : IsNumber cs) :
    ∃ c tail, cs = c :: tail ∧ (c = '-' ∨ c.isDigit = true) := by
  cases h with
  | parts hsigned hwhole hfraction hexponent =>
    simp only [List.mem_cons, List.not_mem_nil, or_false] at hsigned
    rcases hsigned with rfl | rfl
    · cases hwhole with
      | zero => exact ⟨'0', _, rfl, .inr rfl⟩
      | digits hdigits => exact ⟨_, _, rfl, .inr (hdigits.2 _ List.mem_cons_self)⟩
    · exact ⟨'-', _, rfl, .inl rfl⟩

/-- A value does not begin with white space, a comma, a colon or a closing delimiter. -/
theorem Spells.head {j : Json} {cs : List Char} (h : Spells j cs) :
    ∃ c tail, cs = c :: tail ∧ isSpace c = false ∧ c ∉ [',', ':', ']', '\x7d'] := by
  cases h with
  | null => exact ⟨'n', _, rfl, by decide, by decide⟩
  | yes => exact ⟨'t', _, rfl, by decide, by decide⟩
  | no => exact ⟨'f', _, rfl, by decide, by decide⟩
  | string => exact ⟨'"', _, rfl, by decide, by decide⟩
  | emptyArray | array => exact ⟨'[', _, rfl, by decide, by decide⟩
  | emptyObject | object => exact ⟨'\x7b', _, rfl, by decide, by decide⟩
  | number hnumber =>
    obtain ⟨c, tail, hcs, hc⟩ := hnumber.head
    refine ⟨c, tail, hcs, ?_, ?_⟩
    · rcases hc with rfl | hc
      · decide
      · by_contra hspace
        have hmem := isSpace_iff.mp (by simpa using hspace)
        simp only [List.mem_cons, List.not_mem_nil, or_false] at hmem
        rcases hmem with rfl | rfl | rfl | rfl <;> cases hc
    · intro hmem
      simp only [List.mem_cons, List.not_mem_nil, or_false] at hmem
      rcases hmem with rfl | rfl | rfl | rfl
      all_goals
        rcases hc with hc | hc <;> cases hc

theorem readValue_number {cs rest : List Char} (h : IsNumber cs) (hrest : Stops rest)
    (fuel levels : Nat) :
    readValue (fuel + 1) levels (cs ++ rest) = (.number (String.ofList cs), some rest) := by
  have hread := readNumber_append h hrest
  obtain ⟨c, tail, rfl, hc⟩ := h.head
  have hne : ∀ d more, c :: tail ++ rest = d :: more → d ∉ ['"', '[', '\x7b', 'n', 't', 'f'] := by
    rintro d more ⟨⟩ hd
    simp only [List.mem_cons, List.not_mem_nil, or_false] at hd
    rcases hd with rfl | rfl | rfl | rfl | rfl | rfl
    all_goals
      rcases hc with hc | hc <;> cases hc
  rw [readValue, hread]
  · exact fun more heq => hne _ _ heq (by decide)
  · exact fun more heq => hne _ _ heq (by decide)
  · exact fun more heq => hne _ _ heq (by decide)
  · exact fun more heq => hne _ _ heq (by decide)
  · exact fun more heq _ => hne _ _ heq (by decide)
  · exact fun more _ heq _ => hne _ _ heq (by decide)
  · exact fun more heq _ => hne _ _ heq (by decide)
  · exact fun more _ heq _ => hne _ _ heq (by decide)

theorem readValue_string {xs cs : List Char} (h : SpellsString xs cs) (fuel levels : Nat)
    (rest : List Char) :
    readValue (fuel + 1) levels ('"' :: cs ++ ['"'] ++ rest) =
      (.string (String.ofList xs) ⟨'"' :: cs ++ ['"'] ++ rest, rest⟩, some rest) := by
  have hread := readString_spells h rest
  simp only [List.cons_append, List.append_assoc, List.nil_append] at hread ⊢
  rw [readValue, hread]

/-! ### Arrays -/

/-- Reads an item and those after it. -/
def readItem (fuel levels : Nat) (cs : List Char) : List Scan × ArrayEnd × Option (List Char) :=
  let (item, rest) := readValue fuel levels cs
  match rest with
  | none => ([item], .cut, none)
  | some rest =>
    let (items, stop, rest) := readItems fuel levels false rest
    (item :: items, stop, rest)

theorem readItems_closed {cs rest : List Char} (h : skipSpace cs = ']' :: rest)
    (fuel levels : Nat) (first : Bool) :
    readItems (fuel + 1) levels first cs = ([], .closed, some rest) := by
  rw [readItems]
  simp only [h]

theorem readItems_first {cs tail : List Char} {c : Char} (h : skipSpace cs = c :: tail)
    (hc : c ∉ [',', ':', ']', '\x7d']) (fuel levels : Nat) :
    readItems (fuel + 1) levels true cs = readItem fuel levels (c :: tail) := by
  simp only [List.mem_cons, List.not_mem_nil, or_false, not_or] at hc
  obtain ⟨hcomma, hcolon, hbracket, -⟩ := hc
  have hplaced : (c == ',' || c == ':') = false := by simp [hcomma, hcolon]
  rw [readItems]
  simp only [h]
  split
  · next heq =>
    cases heq
    exact absurd rfl hbracket
  · simp only [if_true, hplaced, Bool.false_eq_true, if_false]
    rfl

theorem readItems_next {cs more tail : List Char} {c : Char} (h : skipSpace cs = ',' :: more)
    (hmore : skipSpace more = c :: tail) (hc : c ∉ [',', ':', ']', '\x7d']) (fuel levels : Nat) :
    readItems (fuel + 1) levels false cs = readItem fuel levels (c :: tail) := by
  simp only [List.mem_cons, List.not_mem_nil, or_false, not_or] at hc
  obtain ⟨-, -, hbracket, hbrace⟩ := hc
  have hplaced : (c == ']' || c == '\x7d') = false := by simp [hbracket, hbrace]
  rw [readItems]
  simp only [h]
  split
  · next heq => cases heq
  · simp only [hmore, hplaced, Bool.false_eq_true, if_false]
    rfl

/-- What stands after the first of some texts with commas between them. -/
def commaTail : List (List Char) → List Char
  | [] => []
  | text :: more => ',' :: commas (text :: more)

theorem commas_cons (text : List Char) (more : List (List Char)) :
    commas (text :: more) = text ++ commaTail more := by
  cases more with
  | nil => simp [commas, commaTail]
  | cons next more => simp [commas, commaTail, List.intercalate_cons_cons]

/-- How the items of an array are read: to their end, or not if one of them is nested too deep. -/
structure ItemsRead (levels : Nat) (items : List Item) (rest : List Char)
    (result : List Scan × ArrayEnd × Option (List Char)) : Prop where
  /-- Items that are not nested too deep are read to their end. -/
  whole : itemsDepth (items.map Item.value) ≤ levels → ∃ vs, result = (vs, .closed, some rest) ∧
    itemsJson? vs = some (items.map Item.value)
  /-- Items of which one is nested too deep are not. -/
  tooDeep : levels < itemsDepth (items.map Item.value) → ∃ vs stop, result = (vs, stop, none) ∧
    stop ≠ .closed

theorem readItem_read {i : Item} {items : List Item} {fuel levels : Nat} {more rest : List Char}
    (hread : Reads i.value i.text) (hfuel : i.text.length ≤ fuel) (hstops : Stops more)
    (htail : ItemsRead levels items rest (readItems fuel levels false more)) :
    ItemsRead levels (i :: items) rest (readItem fuel levels (i.text ++ more)) := by
  have hdepth : itemsDepth ((i :: items).map Item.value) =
      max i.value.depth (itemsDepth (items.map Item.value)) := rfl
  by_cases hi : i.value.depth ≤ levels
  · obtain ⟨v, hv, htells⟩ := hread.whole fuel levels more hfuel hstops hi
    constructor
    · intro hle
      obtain ⟨vs, hvs, hjson⟩ := htail.whole (by omega)
      refine ⟨v :: vs, ?_, ?_⟩
      · simp only [readItem, hv, hvs]
      · simp [itemsJson?, htells.value, hjson]
    · intro hlt
      obtain ⟨vs, stop, hvs, hstop⟩ := htail.tooDeep (by omega)
      refine ⟨v :: vs, stop, ?_, hstop⟩
      simp only [readItem, hv, hvs]
  · obtain ⟨v, hv, -⟩ := hread.tooDeep fuel levels more hfuel hstops (by omega)
    constructor
    · intro hle
      omega
    · intro _
      refine ⟨[v], .cut, ?_, nofun⟩
      simp only [readItem, hv]

/-- The text of a value is not empty. -/
theorem Spells.length_pos {j : Json} {cs : List Char} (h : Spells j cs) : 0 < cs.length := by
  obtain ⟨c, tail, rfl, -⟩ := h.head
  exact Nat.succ_pos _

theorem skipSpace_spells {j : Json} {cs : List Char} (h : Spells j cs) {blank : List Char}
    (hblank : IsBlank blank) (more : List Char) :
    ∃ c tail, skipSpace (blank ++ (cs ++ more)) = c :: tail ∧ c :: tail = cs ++ more ∧
      c ∉ [',', ':', ']', '\x7d'] := by
  obtain ⟨c, tail, rfl, hspace, hc⟩ := h.head
  refine ⟨c, tail ++ more, ?_, rfl, hc⟩
  rw [skipSpace_append hblank, List.cons_append, skipSpace_cons hspace]

theorem stops_commaTail {after rest : List Char} (hafter : IsBlank after) (texts : List (List Char))
    {closing : Char} (hclosing : closing ∈ [']', '\x7d']) :
    Stops (after ++ (commaTail texts ++ closing :: rest)) := by
  refine stops_blank hafter ?_
  intro c hc
  cases texts with
  | nil =>
    obtain rfl := Option.mem_some.mp hc
    simp only [List.mem_cons, List.not_mem_nil, or_false] at hclosing ⊢
    tauto
  | cons text texts =>
    obtain rfl := Option.mem_some.mp hc
    decide

theorem readItems_blank {blank rest : List Char} {fuel levels : Nat} {first : Bool}
    (hblank : IsBlank blank) (hfuel : blank.length < fuel) :
    ItemsRead levels [] rest (readItems fuel levels first (blank ++ ']' :: rest)) := by
  obtain ⟨fuel, rfl⟩ : ∃ n, fuel = n + 1 := ⟨fuel - 1, by omega⟩
  have hskip : skipSpace (blank ++ ']' :: rest) = ']' :: rest := by
    rw [skipSpace_append hblank]
    rfl
  rw [readItems_closed hskip]
  exact ⟨fun _ => ⟨[], rfl, rfl⟩, fun hlt => absurd hlt (Nat.not_lt_zero _)⟩

/-- The items after an item are read one after the other. -/
theorem readItems_tail {items : List Item} {after rest : List Char} {fuel levels : Nat}
    (hspells : ∀ i ∈ items, Spells i.value i.text) (hreads : ∀ i ∈ items, Reads i.value i.text)
    (hspaced : ∀ i ∈ items, i.Spaced) (hafter : IsBlank after)
    (hfuel : (after ++ commaTail (items.map Item.chars)).length < fuel) :
    ItemsRead levels items rest
      (readItems fuel levels false (after ++ (commaTail (items.map Item.chars) ++ ']' :: rest))) := by
  induction items generalizing after fuel with
  | nil =>
    rw [List.map_nil, commaTail, List.append_nil] at hfuel
    exact readItems_blank hafter hfuel
  | cons i items ih =>
    obtain ⟨hi, hitems⟩ := List.forall_mem_cons.mp hspells
    obtain ⟨hread, hreads⟩ := List.forall_mem_cons.mp hreads
    obtain ⟨hspace, hspaced⟩ := List.forall_mem_cons.mp hspaced
    obtain ⟨fuel, rfl⟩ : ∃ n, fuel = n + 1 := ⟨fuel - 1, by omega⟩
    have htail : commaTail ((i :: items).map Item.chars) =
        ',' :: (i.before ++ (i.text ++ (i.after ++ commaTail (items.map Item.chars)))) := by
      rw [List.map_cons, commaTail, commas_cons]
      simp [Item.chars]
    have hpos := hi.length_pos
    rw [htail] at hfuel ⊢
    simp only [List.length_append, List.length_cons] at hfuel
    have hskip : skipSpace (after ++ (',' ::
        (i.before ++ (i.text ++ (i.after ++ commaTail (items.map Item.chars)))) ++ ']' :: rest)) =
        ',' :: (i.before ++
          (i.text ++ (i.after ++ (commaTail (items.map Item.chars) ++ ']' :: rest)))) := by
      rw [skipSpace_append hafter, List.cons_append, skipSpace_cons rfl]
      simp only [List.append_assoc]
    obtain ⟨c, tail, hnext, htext, hc⟩ := skipSpace_spells hi hspace.1
      (i.after ++ (commaTail (items.map Item.chars) ++ ']' :: rest))
    rw [readItems_next hskip hnext hc, htext]
    refine readItem_read hread (by omega) (stops_commaTail hspace.2 _ (by decide)) ?_
    refine ih hitems hreads hspaced hspace.2 ?_
    simp only [List.length_append]
    omega

theorem readItems_read {items : List Item} {rest : List Char} {fuel levels : Nat}
    (hne : items ≠ []) (hspells : ∀ i ∈ items, Spells i.value i.text)
    (hreads : ∀ i ∈ items, Reads i.value i.text) (hspaced : ∀ i ∈ items, i.Spaced)
    (hfuel : (commas (items.map Item.chars)).length < fuel) :
    ItemsRead levels items rest
      (readItems fuel levels true (commas (items.map Item.chars) ++ ']' :: rest)) := by
  obtain ⟨i, items, rfl⟩ := List.exists_cons_of_ne_nil hne
  obtain ⟨hi, hitems⟩ := List.forall_mem_cons.mp hspells
  obtain ⟨hread, hreads⟩ := List.forall_mem_cons.mp hreads
  obtain ⟨hspace, hspaced⟩ := List.forall_mem_cons.mp hspaced
  obtain ⟨fuel, rfl⟩ : ∃ n, fuel = n + 1 := ⟨fuel - 1, by omega⟩
  have hpos := hi.length_pos
  have htext : commas ((i :: items).map Item.chars) =
      i.before ++ (i.text ++ (i.after ++ commaTail (items.map Item.chars))) := by
    simp [commas_cons, Item.chars]
  rw [htext] at hfuel ⊢
  simp only [List.length_append] at hfuel
  simp only [List.append_assoc]
  obtain ⟨c, tail, hskip, htext, hc⟩ := skipSpace_spells hi hspace.1
    (i.after ++ (commaTail (items.map Item.chars) ++ ']' :: rest))
  rw [readItems_first hskip hc, htext]
  refine readItem_read hread (by omega) (stops_commaTail hspace.2 _ (by decide)) ?_
  refine readItems_tail hitems hreads hspaced hspace.2 ?_
  simp only [List.length_append]
  omega

/-! ### Objects -/

/-- Reads the value of a member and the members after it. -/
def readMember (fuel levels : Nat) (seen : List String) (name : String) (cs : List Char) :
    List (String × Scan) × ObjectEnd × Option (List Char) :=
  let (value, rest) := readValue fuel levels cs
  match rest with
  | none => ([(name, value)], .cut, none)
  | some rest =>
    let (members, stop, rest) := readMembers fuel levels (name :: seen) false rest
    ((name, value) :: members, stop, rest)

theorem readMembers_closed {cs rest : List Char} (h : skipSpace cs = '\x7d' :: rest)
    (fuel levels : Nat) (seen : List String) (first : Bool) :
    readMembers (fuel + 1) levels seen first cs = ([], .closed, some rest) := by
  rw [readMembers]
  simp only [h]

section Named

variable {name : String} {nameText after more : List Char} {seen : List String}
  (hname : SpellsString name.toList nameText) (hafter : IsBlank after) (hseen : name ∉ seen)
include hname hafter hseen

theorem readMembers_first {cs : List Char}
    (h : skipSpace cs = '"' :: (nameText ++ '"' :: (after ++ ':' :: more))) (fuel levels : Nat) :
    readMembers (fuel + 1) levels seen true cs =
      readMember fuel levels seen name (skipSpace more) := by
  have hread := readString_spells hname (after ++ ':' :: more)
  have hcolon : skipSpace (after ++ ':' :: more) = ':' :: more := by
    rw [skipSpace_append hafter, skipSpace_cons rfl]
  have hfresh : seen.contains name = false := by simpa using hseen
  rw [readMembers]
  simp only [h]
  split
  · next heq => cases heq
  · simp only [if_true, hread, String.ofList_toList, hfresh, Bool.false_eq_true, if_false, hcolon]
    rfl

theorem readMembers_next {cs next : List Char} (h : skipSpace cs = ',' :: next)
    (hnext : skipSpace next = '"' :: (nameText ++ '"' :: (after ++ ':' :: more)))
    (fuel levels : Nat) :
    readMembers (fuel + 1) levels seen false cs =
      readMember fuel levels seen name (skipSpace more) := by
  have hread := readString_spells hname (after ++ ':' :: more)
  have hcolon : skipSpace (after ++ ':' :: more) = ':' :: more := by
    rw [skipSpace_append hafter, skipSpace_cons rfl]
  have hfresh : seen.contains name = false := by simpa using hseen
  rw [readMembers]
  simp only [h]
  split
  · next heq => cases heq
  · simp only [hnext, hread, String.ofList_toList, hfresh, Bool.false_eq_true, if_false, hcolon]
    rfl

end Named

/-- A scanned member has the name, the value and the text of a member. -/
def IsMemberScan (e : Entry) (m : String × Scan) : Prop :=
  m.1 = e.name ∧ m.2.Tells e.item.value e.item.text

/-- How the members of an object are read: to their end, or not if one of them is nested too deep. -/
structure MembersRead (levels : Nat) (entries : List Entry) (rest : List Char)
    (result : List (String × Scan) × ObjectEnd × Option (List Char)) : Prop where
  /-- Members that are not nested too deep are read to their end. -/
  whole : membersDepth (entries.map Entry.member) ≤ levels → ∃ ms,
    result = (ms, .closed, some rest) ∧ List.Forall₂ IsMemberScan entries ms
  /-- Members of which one is nested too deep are not. -/
  tooDeep : levels < membersDepth (entries.map Entry.member) → ∃ ms stop,
    result = (ms, stop, none) ∧ stop ≠ .closed

theorem readMember_read {e : Entry} {entries : List Entry} {fuel levels : Nat} {seen : List String}
    {more rest : List Char} (hread : Reads e.item.value e.item.text)
    (hfuel : e.item.text.length ≤ fuel) (hstops : Stops more)
    (htail : MembersRead levels entries rest (readMembers fuel levels (e.name :: seen) false more)) :
    MembersRead levels (e :: entries) rest
      (readMember fuel levels seen e.name (e.item.text ++ more)) := by
  have hdepth : membersDepth ((e :: entries).map Entry.member) =
      max e.item.value.depth (membersDepth (entries.map Entry.member)) := rfl
  by_cases he : e.item.value.depth ≤ levels
  · obtain ⟨v, hv, htells⟩ := hread.whole fuel levels more hfuel hstops he
    constructor
    · intro hle
      obtain ⟨ms, hms, hmembers⟩ := htail.whole (by omega)
      refine ⟨(e.name, v) :: ms, ?_, .cons ⟨rfl, htells⟩ hmembers⟩
      simp only [readMember, hv, hms]
    · intro hlt
      obtain ⟨ms, stop, hms, hstop⟩ := htail.tooDeep (by omega)
      refine ⟨(e.name, v) :: ms, stop, ?_, hstop⟩
      simp only [readMember, hv, hms]
  · obtain ⟨v, hv, -⟩ := hread.tooDeep fuel levels more hfuel hstops (by omega)
    constructor
    · intro hle
      omega
    · intro _
      refine ⟨[(e.name, v)], .cut, ?_, nofun⟩
      simp only [readMember, hv]

/-- The text of a member with what follows it. -/
theorem Entry.chars_append (e : Entry) (more : List Char) : e.chars ++ more =
    e.before ++ '"' :: (e.nameText ++ '"' :: (e.after ++ ':' ::
      (e.item.before ++ (e.item.text ++ (e.item.after ++ more))))) := by
  simp [Entry.chars, Item.chars]

theorem readMembers_blank {blank rest : List Char} {fuel levels : Nat} {seen : List String}
    {first : Bool} (hblank : IsBlank blank) (hfuel : blank.length < fuel) :
    MembersRead levels [] rest (readMembers fuel levels seen first (blank ++ '\x7d' :: rest)) := by
  obtain ⟨fuel, rfl⟩ : ∃ n, fuel = n + 1 := ⟨fuel - 1, by omega⟩
  have hskip : skipSpace (blank ++ '\x7d' :: rest) = '\x7d' :: rest := by
    rw [skipSpace_append hblank]
    rfl
  rw [readMembers_closed hskip]
  exact ⟨fun _ => ⟨[], rfl, .nil⟩, fun hlt => absurd hlt (Nat.not_lt_zero _)⟩

/-- The members after a member are read one after the other. -/
theorem readMembers_tail {entries : List Entry} {after rest : List Char} {fuel levels : Nat}
    {seen : List String} (hspells : ∀ e ∈ entries, Spells e.item.value e.item.text)
    (hreads : ∀ e ∈ entries, Reads e.item.value e.item.text) (hspaced : ∀ e ∈ entries, e.Spaced)
    (hdistinct : (entries.map Entry.name).Nodup) (hfresh : ∀ e ∈ entries, e.name ∉ seen)
    (hafter : IsBlank after)
    (hfuel : (after ++ commaTail (entries.map Entry.chars)).length < fuel) :
    MembersRead levels entries rest (readMembers fuel levels seen false
      (after ++ (commaTail (entries.map Entry.chars) ++ '\x7d' :: rest))) := by
  induction entries generalizing after fuel seen with
  | nil =>
    rw [List.map_nil, commaTail, List.append_nil] at hfuel
    exact readMembers_blank hafter hfuel
  | cons e entries ih =>
    obtain ⟨he, hentries⟩ := List.forall_mem_cons.mp hspells
    obtain ⟨hread, hreads⟩ := List.forall_mem_cons.mp hreads
    obtain ⟨hspace, hspaced⟩ := List.forall_mem_cons.mp hspaced
    obtain ⟨hnew, hfresh⟩ := List.forall_mem_cons.mp hfresh
    obtain ⟨hother, hdistinct⟩ := List.nodup_cons.mp hdistinct
    obtain ⟨fuel, rfl⟩ : ∃ n, fuel = n + 1 := ⟨fuel - 1, by omega⟩
    have htail : commaTail ((e :: entries).map Entry.chars) =
        ',' :: (e.chars ++ commaTail (entries.map Entry.chars)) := by
      rw [List.map_cons, commaTail, commas_cons]
    have hpos := he.length_pos
    rw [htail] at hfuel ⊢
    rw [Entry.chars_append] at hfuel
    simp only [List.length_append, List.length_cons] at hfuel
    have hskip : skipSpace (after ++ (',' :: (e.chars ++ commaTail (entries.map Entry.chars)) ++
        '\x7d' :: rest)) =
        ',' :: (e.chars ++ (commaTail (entries.map Entry.chars) ++ '\x7d' :: rest)) := by
      rw [skipSpace_append hafter, List.cons_append, skipSpace_cons rfl, List.append_assoc]
    have hnext : skipSpace (e.chars ++ (commaTail (entries.map Entry.chars) ++ '\x7d' :: rest)) =
        '"' :: (e.nameText ++ '"' :: (e.after ++ ':' :: (e.item.before ++ (e.item.text ++
          (e.item.after ++ (commaTail (entries.map Entry.chars) ++ '\x7d' :: rest)))))) := by
      rw [Entry.chars_append, skipSpace_append hspace.before, skipSpace_cons rfl]
    obtain ⟨c, tail, hvalue, htext, -⟩ := skipSpace_spells he hspace.item.1
      (e.item.after ++ (commaTail (entries.map Entry.chars) ++ '\x7d' :: rest))
    rw [readMembers_next hspace.name hspace.after hnew hskip hnext, hvalue, htext]
    refine readMember_read hread (by omega) (stops_commaTail hspace.item.2 _ (by decide)) ?_
    refine ih hentries hreads hspaced hdistinct ?_ hspace.item.2 ?_
    · intro k hk hmem
      rcases List.mem_cons.mp hmem with heq | hmem
      · exact hother (heq ▸ List.mem_map_of_mem hk)
      · exact hfresh k hk hmem
    · simp only [List.length_append]
      omega

theorem readMembers_read {entries : List Entry} {rest : List Char} {fuel levels : Nat}
    (hne : entries ≠ []) (hspells : ∀ e ∈ entries, Spells e.item.value e.item.text)
    (hreads : ∀ e ∈ entries, Reads e.item.value e.item.text) (hspaced : ∀ e ∈ entries, e.Spaced)
    (hdistinct : (entries.map Entry.name).Nodup)
    (hfuel : (commas (entries.map Entry.chars)).length < fuel) :
    MembersRead levels entries rest
      (readMembers fuel levels [] true (commas (entries.map Entry.chars) ++ '\x7d' :: rest)) := by
  obtain ⟨e, entries, rfl⟩ := List.exists_cons_of_ne_nil hne
  obtain ⟨he, hentries⟩ := List.forall_mem_cons.mp hspells
  obtain ⟨hread, hreads⟩ := List.forall_mem_cons.mp hreads
  obtain ⟨hspace, hspaced⟩ := List.forall_mem_cons.mp hspaced
  obtain ⟨hother, hdistinct⟩ := List.nodup_cons.mp hdistinct
  obtain ⟨fuel, rfl⟩ : ∃ n, fuel = n + 1 := ⟨fuel - 1, by omega⟩
  have hpos := he.length_pos
  rw [List.map_cons, commas_cons] at hfuel ⊢
  rw [Entry.chars_append] at hfuel
  simp only [List.length_append, List.length_cons] at hfuel
  have hskip : skipSpace (e.chars ++ commaTail (entries.map Entry.chars) ++ '\x7d' :: rest) =
      '"' :: (e.nameText ++ '"' :: (e.after ++ ':' :: (e.item.before ++ (e.item.text ++
        (e.item.after ++ (commaTail (entries.map Entry.chars) ++ '\x7d' :: rest)))))) := by
    rw [List.append_assoc, Entry.chars_append, skipSpace_append hspace.before, skipSpace_cons rfl]
  obtain ⟨c, tail, hvalue, htext, -⟩ := skipSpace_spells he hspace.item.1
    (e.item.after ++ (commaTail (entries.map Entry.chars) ++ '\x7d' :: rest))
  rw [readMembers_first hspace.name hspace.after List.not_mem_nil hskip, hvalue, htext]
  refine readMember_read hread (by omega) (stops_commaTail hspace.item.2 _ (by decide)) ?_
  refine readMembers_tail hentries hreads hspaced hdistinct ?_ hspace.item.2 ?_
  · intro k hk hmem
    exact hother (List.mem_singleton.mp hmem ▸ List.mem_map_of_mem hk)
  · simp only [List.length_append]
    omega

/-! ### Texts of values -/

/-- A value that is neither an array nor an object is read to its end. -/
theorem Reads.of_simple {j : Json} {cs : List Char} (hdepth : j.depth = 0) (hpos : 0 < cs.length)
    (h : ∀ fuel levels rest, Stops rest →
      ∃ v, readValue (fuel + 1) levels (cs ++ rest) = (v, some rest) ∧ v.Tells j cs) : Reads j cs where
  whole := by
    intro fuel levels rest hfuel hstops _
    obtain ⟨fuel, rfl⟩ : ∃ n, fuel = n + 1 := ⟨fuel - 1, by omega⟩
    exact h fuel levels rest hstops
  tooDeep := by
    intro fuel levels rest _ _ hlt
    omega

theorem readValue_array {fuel levels : Nat} {body rest : List Char} {vs : List Scan}
    {stop : ArrayEnd} {rest' : Option (List Char)}
    (h : readItems fuel levels true (body ++ ']' :: rest) = (vs, stop, rest')) :
    readValue (fuel + 1) (levels + 1) ('[' :: body ++ [']'] ++ rest) =
      (.array vs stop ⟨'[' :: body ++ [']'] ++ rest, rest'.getD []⟩, rest') := by
  have hcs : '[' :: body ++ [']'] ++ rest = '[' :: (body ++ ']' :: rest) := by simp
  rw [hcs, readValue]
  simp only [h]

/-- An array is read as its items are. -/
theorem Reads.of_items {items : List Item} {body : List Char}
    (h : ∀ fuel levels rest, body.length < fuel →
      ItemsRead levels items rest (readItems fuel levels true (body ++ ']' :: rest))) :
    Reads (.array (items.map Item.value)) ('[' :: body ++ [']']) := by
  have hdepth : (Json.array (items.map Item.value)).depth =
      itemsDepth (items.map Item.value) + 1 := rfl
  constructor
  · intro fuel levels rest hfuel _ hle
    obtain ⟨fuel, rfl⟩ : ∃ n, fuel = n + 1 := ⟨fuel - 1, by simp at hfuel; omega⟩
    obtain ⟨levels, rfl⟩ : ∃ n, levels = n + 1 := ⟨levels - 1, by omega⟩
    obtain ⟨vs, hvs, hjson⟩ := (h fuel levels rest (by simp at hfuel; omega)).whole (by omega)
    refine ⟨_, readValue_array hvs, ?_, Extent.chars_append _ _⟩
    simp [Scan.json?, hjson]
  · intro fuel levels rest hfuel _ hlt
    obtain ⟨fuel, rfl⟩ : ∃ n, fuel = n + 1 := ⟨fuel - 1, by simp at hfuel; omega⟩
    cases levels with
    | zero => exact ⟨.broken, by rw [List.cons_append, List.cons_append, readValue], rfl⟩
    | succ levels =>
      obtain ⟨vs, stop, hvs, hstop⟩ :=
        (h fuel levels rest (by simp at hfuel; omega)).tooDeep (by omega)
      refine ⟨_, readValue_array hvs, ?_⟩
      cases stop with
      | closed => exact absurd rfl hstop
      | cut | misplaced | brace => rfl

theorem membersJson?_of_forall₂ {entries : List Entry} {ms : List (String × Scan)}
    (h : List.Forall₂ IsMemberScan entries ms) :
    membersJson? ms = some (entries.map Entry.member) := by
  induction h with
  | nil => rfl
  | @cons e m entries ms hmember _ ih =>
    obtain ⟨name, v⟩ := m
    obtain ⟨hname, htells⟩ := hmember
    simp only at hname htells
    simp [membersJson?, htells.value, ih, Entry.member, hname]

theorem readValue_object {fuel levels : Nat} {body rest : List Char} {ms : List (String × Scan)}
    {stop : ObjectEnd} {rest' : Option (List Char)}
    (h : readMembers fuel levels [] true (body ++ '\x7d' :: rest) = (ms, stop, rest')) :
    readValue (fuel + 1) (levels + 1) ('\x7b' :: body ++ ['\x7d'] ++ rest) =
      (.object ms stop ⟨'\x7b' :: body ++ ['\x7d'] ++ rest, rest'.getD []⟩, rest') := by
  have hcs : '\x7b' :: body ++ ['\x7d'] ++ rest = '\x7b' :: (body ++ '\x7d' :: rest) := by simp
  rw [hcs, readValue]
  simp only [h]

/-- An object is read as its members are. -/
theorem Reads.of_members {entries : List Entry} {body : List Char}
    (h : ∀ fuel levels rest, body.length < fuel →
      MembersRead levels entries rest (readMembers fuel levels [] true (body ++ '\x7d' :: rest))) :
    Reads (.object (entries.map Entry.member)) ('\x7b' :: body ++ ['\x7d']) := by
  have hdepth : (Json.object (entries.map Entry.member)).depth =
      membersDepth (entries.map Entry.member) + 1 := rfl
  constructor
  · intro fuel levels rest hfuel _ hle
    obtain ⟨fuel, rfl⟩ : ∃ n, fuel = n + 1 := ⟨fuel - 1, by simp at hfuel; omega⟩
    obtain ⟨levels, rfl⟩ : ∃ n, levels = n + 1 := ⟨levels - 1, by omega⟩
    obtain ⟨ms, hms, hmembers⟩ := (h fuel levels rest (by simp at hfuel; omega)).whole (by omega)
    refine ⟨_, readValue_object hms, ?_, Extent.chars_append _ _⟩
    simp [Scan.json?, membersJson?_of_forall₂ hmembers]
  · intro fuel levels rest hfuel _ hlt
    obtain ⟨fuel, rfl⟩ : ∃ n, fuel = n + 1 := ⟨fuel - 1, by simp at hfuel; omega⟩
    cases levels with
    | zero => exact ⟨.broken, by rw [List.cons_append, List.cons_append, readValue], rfl⟩
    | succ levels =>
      obtain ⟨ms, stop, hms, hstop⟩ :=
        (h fuel levels rest (by simp at hfuel; omega)).tooDeep (by omega)
      refine ⟨_, readValue_object hms, ?_⟩
      cases stop with
      | closed => exact absurd rfl hstop
      | cut | cutAt => rfl

/-- Every text of a value is read as the value, unless it is nested too deep. -/
theorem Spells.reads {j : Json} {cs : List Char} (h : Spells j cs) : Reads j cs := by
  induction h with
  | null =>
    refine .of_simple rfl (Nat.succ_pos _) fun fuel levels rest _ => ⟨.null, ?_, rfl, rfl⟩
    rfl
  | yes =>
    refine .of_simple rfl (Nat.succ_pos _) fun fuel levels rest _ => ⟨.bool true, ?_, rfl, rfl⟩
    rfl
  | no =>
    refine .of_simple rfl (Nat.succ_pos _) fun fuel levels rest _ => ⟨.bool false, ?_, rfl, rfl⟩
    rfl
  | number h =>
    refine .of_simple rfl (Spells.number h).length_pos fun fuel levels rest hstops => ?_
    refine ⟨_, readValue_number h hstops fuel levels, ?_, ?_⟩
    · rw [String.ofList_toList]
      rfl
    · rw [String.ofList_toList]
      rfl
  | string h =>
    refine .of_simple rfl (Spells.string h).length_pos fun fuel levels rest hstops => ?_
    refine ⟨_, readValue_string h fuel levels rest, ?_, ?_⟩
    · rw [String.ofList_toList]
      rfl
    · exact Extent.chars_append _ _
  | @emptyArray blank hblank =>
    have hread : Reads (.array (List.map Item.value [])) ('[' :: blank ++ [']']) :=
      Reads.of_items fun _ _ _ hfuel => readItems_blank hblank hfuel
    exact hread
  | array hne hspaced hspells ih =>
    exact Reads.of_items fun fuel levels rest hfuel =>
      readItems_read hne hspells ih hspaced hfuel
  | @emptyObject blank hblank =>
    have hread : Reads (.object (List.map Entry.member [])) ('\x7b' :: blank ++ ['\x7d']) :=
      Reads.of_members fun _ _ _ hfuel => readMembers_blank hblank hfuel
    exact hread
  | object hne hspaced hdistinct hspells ih =>
    exact Reads.of_members fun fuel levels rest hfuel =>
      readMembers_read hne hspells ih hspaced hdistinct hfuel

/-! ### Whole texts -/

theorem skipSpace_of_isBlank {blank : List Char} (h : IsBlank blank) : skipSpace blank = [] := by
  rw [← List.append_nil blank, skipSpace_append h]
  rfl

theorem stops_of_isBlank {blank : List Char} (h : IsBlank blank) : Stops blank := by
  have hstops := stops_blank h stops_nil
  rwa [List.append_nil] at hstops

/-- A whole text is read as its value is read, and nothing follows. -/
theorem read_eq {blank cs after : List Char} {j : Json} (hblank : IsBlank blank) (h : Spells j cs)
    (hafter : IsBlank after) {v : Scan} {rest : Option (List Char)}
    (hrest : rest = none ∨ rest = some after)
    (hread : readValue ((blank ++ (cs ++ after)).length + 1) levelLimit (cs ++ after) = (v, rest)) :
    Scan.read (blank ++ (cs ++ after)) = (v, false) := by
  obtain ⟨c, tail, hskip, htext, -⟩ := skipSpace_spells h hblank after
  unfold Scan.read
  rw [hskip, htext, hread]
  rcases hrest with rfl | rfl
  · rfl
  · simp [skipSpace_of_isBlank hafter]

theorem length_le_whole (blank cs after : List Char) :
    cs.length ≤ (blank ++ (cs ++ after)).length + 1 := by
  simp only [List.length_append]
  omega

/-- A whole text of a value is read as the value. -/
theorem Document.read {j : Json} {text : List Char} (h : Document j text)
    (hdepth : j.depth ≤ levelLimit) : ∃ v, Scan.read text = (v, false) ∧ v.json? = some j := by
  obtain ⟨hbefore, hspells, hafter⟩ := h
  obtain ⟨v, hv, htells⟩ := hspells.reads.whole _ levelLimit _ (length_le_whole _ _ _)
    (stops_of_isBlank hafter) hdepth
  exact ⟨v, read_eq hbefore hspells hafter (.inr rfl) hv, htells.value⟩

/-- A whole text that is nested too deep is read with a fault. -/
theorem Document.read_tooDeep {j : Json} {text : List Char} (h : Document j text)
    (hdepth : levelLimit < j.depth) : ∃ v, Scan.read text = (v, false) ∧ v.json? = none := by
  obtain ⟨hbefore, hspells, hafter⟩ := h
  obtain ⟨v, hv, hjson⟩ := hspells.reads.tooDeep _ levelLimit _ (length_le_whole _ _ _)
    (stops_of_isBlank hafter) hdepth
  exact ⟨v, read_eq hbefore hspells hafter (.inl rfl) hv, hjson⟩

/-- The text of an object is made of the texts of members, which are read one after the other. -/
theorem Spells.exists_entries {members : List (String × Json)} {cs : List Char}
    (h : Spells (.object members) cs) : ∃ entries body, members = entries.map Entry.member ∧
      cs = '\x7b' :: body ++ ['\x7d'] ∧ (∀ e ∈ entries, Spells e.item.value e.item.text) ∧
      ∀ fuel levels rest, body.length < fuel → MembersRead levels entries rest
        (readMembers fuel levels [] true (body ++ '\x7d' :: rest)) := by
  cases h with
  | emptyObject hblank =>
    exact ⟨[], _, rfl, rfl, nofun, fun _ _ _ hfuel => readMembers_blank hblank hfuel⟩
  | object hne hspaced hdistinct hspells =>
    refine ⟨_, _, rfl, rfl, hspells, fun _ _ _ hfuel => ?_⟩
    exact readMembers_read hne hspells (fun e he => (hspells e he).reads) hspaced hdistinct hfuel

/-- A scanned member of a member's name, value and one of the value's texts. -/
def IsToldMember (m : String × Json) (w : String × Scan) : Prop :=
  w.1 = m.1 ∧ ∃ cs, Spells m.2 cs ∧ w.2.Tells m.2 cs

theorem forall₂_isToldMember {entries : List Entry} {ms : List (String × Scan)}
    (hspells : ∀ e ∈ entries, Spells e.item.value e.item.text)
    (h : List.Forall₂ IsMemberScan entries ms) :
    List.Forall₂ IsToldMember (entries.map Entry.member) ms := by
  induction h with
  | nil => exact .nil
  | @cons e m entries ms hmember _ ih =>
    obtain ⟨he, hentries⟩ := List.forall_mem_cons.mp hspells
    exact .cons ⟨hmember.1, _, he, hmember.2⟩ (ih hentries)

/-- A whole text of an object is read as its members are. -/
theorem Document.membersRead {members : List (String × Json)} {text : List Char}
    (h : Document (.object members) text) : ∃ entries rest result,
      members = entries.map Entry.member ∧ (∀ e ∈ entries, Spells e.item.value e.item.text) ∧
      MembersRead 9999 entries rest result ∧
      ∀ ms stop rest', result = (ms, stop, rest') → rest' = none ∨ rest' = some rest →
        ∃ e, Scan.read text = (.object ms stop e, false) := by
  cases h with
  | @mk before cs after hbefore hspells hafter =>
    obtain ⟨entries, body, rfl, rfl, hentries, hread⟩ := hspells.exists_entries
    have hfuel : body.length < (before ++ ('\x7b' :: body ++ ['\x7d'] ++ after)).length := by
      simp only [List.length_append, List.length_cons]
      omega
    refine ⟨entries, after, _, rfl, hentries, hread _ 9999 after hfuel, ?_⟩
    intro ms stop rest' hresult hrest
    exact ⟨_, read_eq hbefore hspells hafter hrest (readValue_object hresult)⟩

/-- A whole text of an object is read member by member. -/
theorem Document.read_object {members : List (String × Json)} {text : List Char}
    (h : Document (.object members) text) (hdepth : (Json.object members).depth ≤ levelLimit) :
    ∃ ms e, Scan.read text = (.object ms .closed e, false) ∧
      List.Forall₂ IsToldMember members ms := by
  obtain ⟨entries, rest, result, rfl, hentries, hread, hwhole⟩ := h.membersRead
  obtain ⟨ms, hms, hmembers⟩ := hread.whole (Nat.le_of_succ_le_succ hdepth)
  obtain ⟨e, he⟩ := hwhole ms .closed _ hms (.inr rfl)
  exact ⟨ms, e, he, forall₂_isToldMember hentries hmembers⟩

/-- The end of an object is not read if the object is nested too deep. -/
theorem Document.read_object_tooDeep {members : List (String × Json)} {text : List Char}
    (h : Document (.object members) text) (hdepth : levelLimit < (Json.object members).depth) :
    ∃ ms stop e, Scan.read text = (.object ms stop e, false) ∧ stop ≠ .closed := by
  obtain ⟨entries, rest, result, rfl, -, hread, hwhole⟩ := h.membersRead
  obtain ⟨ms, stop, hms, hstop⟩ := hread.tooDeep (Nat.lt_of_succ_lt_succ hdepth)
  obtain ⟨e, he⟩ := hwhole ms stop _ hms (.inl rfl)
  exact ⟨ms, stop, e, he, hstop⟩

end Bindery.Json
