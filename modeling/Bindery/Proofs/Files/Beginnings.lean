import Bindery.Files.PatternMatcher
import Bindery.Proofs.Files.Relative
import Bindery.Proofs.Text.Octets

/-!
# Patterns with a fixed beginning

A pattern that begins with a text takes only paths that begin with this text. The matcher of such a
pattern is put together in steps, and each of them keeps a matcher in front that begins with the text:
neighbours are glued to a row, the list is arranged around its widest part, and the result is simplified.

## Main definitions

- `Matcher.Begins` — a matcher with a text at its beginning

## Main results

- `Matcher.Begins.isPrefix` — what such a matcher takes, and where it is found
- `Pattern.isPrefix_of_fits?` — what a pattern takes that begins with a text
-/

namespace Bindery

theorem Octets.isPrefix_drop_of_indexOf? {part o : Octets} {i : Nat}
    (h : Octets.indexOf? part o = some i) : part <+: o.drop i := by
  induction o generalizing i with
  | nil =>
    rw [indexOf?] at h
    split at h
    · next hempty => simp [List.isEmpty_iff.mp hempty]
    · cases h
  | cons b rest ih =>
    rw [indexOf?] at h
    split at h
    · next hprefix =>
      cases h
      exact List.isPrefixOf_iff_prefix.mp hprefix
    · obtain ⟨j, hj, rfl⟩ := Option.map_eq_some_iff.mp h
      exact ih hj

namespace Matcher

/-- A matcher with a text at its beginning. -/
inductive Begins (lead : Octets) : Matcher → Prop where
  | text {o : Octets} (h : lead <+: o) : Begins lead (.text o)
  | startsWith {o : Octets} (h : lead <+: o) : Begins lead (.startsWith o)
  | startsAndEnds {o stop : Octets} (h : lead <+: o) : Begins lead (.startsAndEnds o stop)
  | startsThenAny {o : Octets} (h : lead <+: o) : Begins lead (.startsThenAny o)
  | row {m : Matcher} {ms : List Matcher} (h : Begins lead m) : Begins lead (.row (m :: ms))
  | value {m : Matcher} {right : Option Matcher} (h : Begins lead m) : Begins lead (.around m none right)
  | left {m value : Matcher} {right : Option Matcher} (h : Begins lead m) :
    Begins lead (.around value (some m) right)

/-! ### What a matcher takes -/

theorem exists_of_fitsRow? {m : Matcher} {ms : List Matcher} {o : Octets}
    (h : fitsRow? (m :: ms) o = some true) : ∃ n, fits? m (o.take n) = some true := by
  rw [fitsRow?] at h
  extract_lets last stop at h
  split at h
  · simp at h
  split at h
  · cases h
  · obtain ⟨taken, htaken, h⟩ := Option.bind_eq_some_iff.mp h
    cases taken with
    | true => exact ⟨stop, htaken⟩
    | false => simp at h

/-- A row is found where it takes the beginning of what is left. -/
theorem fits_of_findRow {fits : Octets → Option Bool} {width : Nat} {o : Octets} {places : List Nat}
    {f : Found} (h : findRow fits width o places = some (some f)) : fits (o.drop f.start) = some true := by
  induction places with
  | nil => simp [findRow] at h
  | cons i rest ih =>
    rw [findRow] at h
    split at h
    · simp at h
    · obtain ⟨taken, htaken, h⟩ := Option.bind_eq_some_iff.mp h
      cases taken with
      | true =>
        cases h
        exact htaken
      | false => exact ih h

/-- A matcher with sides takes a text only if its value is found at a place with the left side before
it. -/
theorem exists_of_fitsAround {find : Octets → Option (Option Found)} {left right : Octets → Option Bool}
    {o : Octets} {limit fuel offset : Nat}
    (h : fitsAround find left right o limit fuel offset = some true) :
    ∃ i f, find ((o.take limit).drop i) = some (some f) ∧ left (o.take (i + f.start)) = some true := by
  induction fuel generalizing offset with
  | zero => simp [fitsAround] at h
  | succ fuel ih =>
    rw [fitsAround] at h
    split at h
    · simp at h
    obtain ⟨found, hfound, h⟩ := Option.bind_eq_some_iff.mp h
    cases found with
    | none => simp at h
    | some f =>
      obtain ⟨before, hbefore, h⟩ := Option.bind_eq_some_iff.mp h
      cases before with
      | true => exact ⟨offset, f, hfound, hbefore⟩
      | false => exact ih h

/-! ### Glued neighbours and the widest part -/

theorem length_of_glue? {ms : List Matcher} {glued : Matcher} (h : glue? ms = some glued) :
    2 ≤ ms.length := by
  unfold glue? at h
  split at h
  · cases h
  · omega

theorem Glued.eq_or_of_better {known : Option Glued} {g k : Glued} (h : Glued.better known g = some k) :
    k = g ∨ known = some k := by
  unfold Glued.better at h
  split at h
  · exact .inl (Option.some.inj h).symm
  · extract_lets wider at h
    split at h
    · exact .inl (Option.some.inj h).symm
    · exact .inr h

/-- The best glued neighbours are some of the list. -/
theorem glue?_of_bestGlued {ms : List Matcher} {g : Glued} (h : bestGlued ms = some g) :
    glue? ((ms.drop g.start).take g.count) = some g.matcher := by
  unfold bestGlued at h
  extract_lets n ranges at h
  refine List.foldlRecOn ranges _ (motive := fun known => ∀ k, known = some k →
    glue? ((ms.drop k.start).take k.count) = some k.matcher) (by simp) ?_ g h
  rintro known hknown ⟨l, count⟩ - k hk
  cases hglued : glue? ((ms.drop l).take count) with
  | none =>
    simp only [hglued] at hk
    exact hknown k hk
  | some m =>
    simp only [hglued] at hk
    rcases Glued.eq_or_of_better hk with rfl | hk
    · exact hglued
    · exact hknown k hk

theorem lt_of_widestPlace? {ms : List Matcher} {i : Nat} (h : widestPlace? ms = some i) :
    i < ms.length := by
  unfold widestPlace? at h
  obtain ⟨best, hbest, rfl⟩ := Option.map_eq_some_iff.mp h
  refine List.foldlRecOn ms.zipIdx _ (motive := fun known => ∀ b, known = some b → b.2 < ms.length)
    (by simp) ?_ best hbest
  rintro known hknown ⟨m, j⟩ hmem b hb
  have hj : j < ms.length := (List.mem_zipIdx' hmem).1
  dsimp only at hb
  split at hb
  · split at hb
    · cases hb
      exact hj
    · exact hknown b hb
  · cases hb
    exact hj
  · exact hknown b hb

/-! ### Matchers with a text at their beginning -/

namespace Begins

variable {lead : Octets} {m : Matcher}

/-- A matcher with a text at its beginning takes only texts that begin with it, and is found only where
it stands. -/
theorem isPrefix (h : Begins lead m) :
    (∀ o, fits? m o = some true → lead <+: o) ∧
      ∀ o f, find? m o = some (some f) → lead <+: o.drop f.start := by
  induction h with
  | text h =>
    refine ⟨fun o ho => ?_, fun o f ho => ?_⟩
    · rw [fits?, Option.some.injEq, beq_iff_eq] at ho
      exact ho ▸ h
    · simp only [find?, Option.some.injEq, Option.map_eq_some_iff] at ho
      obtain ⟨i, hi, rfl⟩ := ho
      exact h.trans (Octets.isPrefix_drop_of_indexOf? hi)
  | startsWith h =>
    refine ⟨fun o ho => ?_, fun o f ho => ?_⟩
    · exact h.trans (by simpa [fits?] using ho)
    · simp only [find?, Option.some.injEq, Option.map_eq_some_iff] at ho
      obtain ⟨i, hi, rfl⟩ := ho
      exact h.trans (Octets.isPrefix_drop_of_indexOf? hi)
  | startsAndEnds h =>
    refine ⟨fun o ho => ?_, fun o f ho => ?_⟩
    · rw [fits?, Option.some.injEq, Bool.and_eq_true, List.isPrefixOf_iff_prefix] at ho
      exact h.trans ho.1
    · simp only [find?, Option.some.injEq, Option.bind_eq_some_iff] at ho
      obtain ⟨i, hi, ho⟩ := ho
      split at ho
      · cases ho
      · cases ho
        exact h.trans (Octets.isPrefix_drop_of_indexOf? hi)
  | startsThenAny h =>
    refine ⟨fun o ho => ?_, fun o f ho => ?_⟩
    · rw [fits?, Option.some.injEq, Bool.and_eq_true, List.isPrefixOf_iff_prefix] at ho
      exact h.trans ho.1
    · simp only [find?, Option.some.injEq, Option.map_eq_some_iff] at ho
      obtain ⟨i, hi, rfl⟩ := ho
      exact h.trans (Octets.isPrefix_drop_of_indexOf? hi)
  | @row m ms h ih =>
    have hrow : ∀ o, fitsRow? (m :: ms) o = some true → lead <+: o := by
      intro o ho
      obtain ⟨n, hn⟩ := exists_of_fitsRow? ho
      exact (ih.1 _ hn).trans (List.take_prefix n o)
    refine ⟨fun o ho => ?_, fun o f ho => ?_⟩
    · rw [fits?] at ho
      split at ho
      · exact hrow o ho
      · simp at ho
    · rw [find?] at ho
      exact hrow _ (fits_of_findRow ho)
  | value h ih =>
    refine ⟨fun o ho => ?_, fun o f ho => by simp [find?] at ho⟩
    rw [fits?] at ho
    extract_lets width at ho
    split at ho
    · simp at ho
    obtain ⟨i, f, hfound, hbefore⟩ := exists_of_fitsAround ho
    have hstart := ih.2 _ f hfound
    rw [fitsSide?, Option.some.injEq, List.isEmpty_iff, List.take_eq_nil_iff] at hbefore
    -- Nothing stands before the place: it is the first one, or the text is empty.
    rcases hbefore with hplace | rfl
    · have hi : i = 0 := by omega
      have hf : f.start = 0 := by omega
      rw [hi, hf, List.drop_zero, List.drop_zero] at hstart
      exact hstart.trans (List.take_prefix _ o)
    · simpa using hstart
  | left h ih =>
    refine ⟨fun o ho => ?_, fun o f ho => by simp [find?] at ho⟩
    rw [fits?] at ho
    extract_lets width at ho
    split at ho
    · simp at ho
    obtain ⟨i, f, -, hbefore⟩ := exists_of_fitsAround ho
    exact (ih.1 _ hbefore).trans (List.take_prefix _ o)

/-! ### How a matcher is put together -/

theorem isPrefix_of_text {o : Octets} (h : Begins lead (.text o)) : lead <+: o := by
  cases h with
  | text h => exact h

/-- Simplifying keeps the beginning. -/
theorem simplify (h : Begins lead m) : Begins lead m.simplify := by
  induction h with
  | text h => exact .text h
  | startsWith h => exact .startsWith h
  | startsAndEnds h => exact .startsAndEnds h
  | startsThenAny h => exact .startsThenAny h
  | row h _ => exact .row h
  | @value m right h ih =>
    rw [Matcher.simplify.eq_def]
    dsimp only [simplify.simplifySide]
    split
    · exact h
    · contradiction
    · contradiction
    · exact .startsWith h.isPrefix_of_text
    · exact .startsAndEnds h.isPrefix_of_text
    · contradiction
    · contradiction
    · exact .startsThenAny h.isPrefix_of_text
    · exact .value h
  | @left m value right h ih =>
    rw [Matcher.simplify.eq_def]
    dsimp only [simplify.simplifySide]
    -- The left side begins with the text and is therefore neither free text nor an end.
    generalize m.simplify = side at ih
    split
    · contradiction
    · next hside _ => cases Option.some.inj hside; cases ih
    · next hside _ => cases Option.some.inj hside; cases ih
    · contradiction
    · contradiction
    · next hside _ =>
      cases Option.some.inj hside
      cases ih with
      | startsWith h => exact .startsAndEnds h
    · next hside _ => cases Option.some.inj hside; cases ih
    · contradiction
    · exact .left ih

theorem runPart?_eq (h : Begins lead m) : runPart? m = none := by
  cases h <;> rfl

/-- What begins with a text is glued to its neighbours as a row only. -/
theorem glue?_eq (h : Begins lead m) {ms : List Matcher} {glued : Matcher}
    (hglued : glue? (m :: ms) = some glued) : glued = .row (m :: ms) := by
  have hrun : glueRun? (m :: ms) = none := by
    simp [glueRun?, h.runPart?_eq]
  unfold glue? at hglued
  split at hglued
  · cases hglued
  · simp only [hrun, Option.ite_none_right_eq_some, Option.some.injEq] at hglued
    exact hglued.2.symm

/-- Gluing neighbours keeps what begins with the text in front, and makes the list no longer. -/
theorem glueAll (h : Begins lead m) (fuel : Nat) (ms : List Matcher) :
    ∃ first rest, Matcher.glueAll fuel (m :: ms) = first :: rest ∧ Begins lead first ∧
      rest.length ≤ ms.length := by
  induction fuel generalizing m ms with
  | zero => exact ⟨m, ms, rfl, h, Nat.le_refl _⟩
  | succ fuel ih =>
    rw [Matcher.glueAll]
    cases hbest : bestGlued (m :: ms) with
    | none => exact ⟨m, ms, rfl, h, Nat.le_refl _⟩
    | some g =>
      have hglued := glue?_of_bestGlued hbest
      have hcount := length_of_glue? hglued
      rw [List.length_take, List.length_drop, List.length_cons] at hcount
      dsimp only
      -- the head of the list is glued itself, or stays as it is
      cases hstart : g.start with
      | zero =>
        obtain ⟨count, hg⟩ : ∃ count, g.count = count + 1 := ⟨g.count - 1, by omega⟩
        rw [hstart, hg, List.drop_zero, List.take_succ_cons] at hglued
        rw [hg, Nat.zero_add, List.take_zero, List.nil_append, List.drop_succ_cons]
        have hrow : Begins lead g.matcher := h.glue?_eq hglued ▸ .row h
        obtain ⟨first, rest, heq, hfirst, hle⟩ := ih hrow (ms.drop count)
        refine ⟨first, rest, heq, hfirst, hle.trans ?_⟩
        rw [List.length_drop]
        omega
      | succ start =>
        rw [List.take_succ_cons, List.cons_append, Nat.add_right_comm, List.drop_succ_cons]
        obtain ⟨first, rest, heq, hfirst, hle⟩ :=
          ih h (ms.take start ++ g.matcher :: ms.drop (start + g.count))
        refine ⟨first, rest, heq, hfirst, hle.trans ?_⟩
        rw [List.length_append, List.length_take, List.length_cons, List.length_drop]
        omega

/-- Arranging a list keeps what begins with the text in front. -/
theorem arrange (h : Begins lead m) {fuel : Nat} {ms : List Matcher} (hfuel : ms.length < fuel) :
    Begins lead (Matcher.arrange fuel (m :: ms)) := by
  induction fuel generalizing ms with
  | zero => omega
  | succ fuel ih =>
    cases ms with
    | nil => exact h
    | cons next rest =>
      rw [Matcher.arrange]
      · cases hglued : glue? (m :: next :: rest) with
        | some glued => exact h.glue?_eq hglued ▸ .row h
        | none =>
          -- the first matcher is the value, or it is the first of those on the left side
          cases hplace : widestPlace? (m :: next :: rest) with
          | none => exact .value h
          | some i =>
            cases i with
            | zero => exact .value h
            | succ i =>
              have hplace := lt_of_widestPlace? hplace
              refine .left (ih ?_)
              rw [List.length_cons] at hfuel
              rw [List.length_take, List.length_cons]
              rw [List.length_cons, List.length_cons] at hplace
              omega
      · simp

end Begins

end Matcher

namespace Pattern

theorem begins_matcherFrom (fuel : Nat) (s : List Char) (ps : List Pattern) :
    Matcher.Begins (Octets.ofString (String.ofList s))
      (matcherFrom (fuel + 2) (sequence (text s :: ps))) := by
  have hfirst : Matcher.Begins (Octets.ofString (String.ofList s))
      (matcherFrom (fuel + 1) (text s)).simplify := .text List.prefix_rfl
  obtain ⟨first, rest, heq, hbegins, hle⟩ :=
    hfirst.glueAll (ps.length + 1) (ps.map fun q => (matcherFrom (fuel + 1) q).simplify)
  rw [List.length_map] at hle
  rw [matcherFrom]
  · simp only [List.map_cons, List.length_cons, List.length_map, heq]
    exact (hbegins.arrange (Nat.lt_succ_of_le hle)).simplify
  · simp

/-- A pattern that begins with a text takes only paths that begin with it. -/
theorem isPrefix_of_fits? {s : List Char} {ps : List Pattern} {path : String}
    (h : (sequence (text s :: ps)).fits? path = some true) :
    Octets.ofString (String.ofList s) <+: Octets.ofString path :=
  (begins_matcherFrom _ s ps).isPrefix.1 _ h

/-! ### A point and a slash before a pattern -/

theorem plainText_dotSlash (cs : List Char) :
    plainText (isSpecial false) ('.' :: '/' :: cs) =
      ('.' :: '/' :: (plainText (isSpecial false) cs).1, (plainText (isSpecial false) cs).2) := by
  have hpoint : isSpecial false '.' = false := by decide
  have hslash : isSpecial false '/' = false := by decide
  simp [plainText, hpoint, hslash]

theorem parseParts_dotSlash (fuel : Nat) (cs : List Char) :
    parseParts (fuel + 1) false ('.' :: '/' :: cs) =
      (parseParts fuel false (plainText (isSpecial false) cs).2).map fun r =>
        (text ('.' :: '/' :: (plainText (isSpecial false) cs).1) :: r.1, r.2) := by
  have hpoint : ¬ ('.' :: '/' :: cs).head?.any (isSpecial false) = true := by
    rw [List.head?_cons]
    decide
  rw [parseParts]
  · rw [if_neg hpoint, plainText_dotSlash]
    dsimp only
    cases parseParts fuel false (plainText (isSpecial false) cs).2 with
    | error e => rfl
    | ok r => rfl
  all_goals simp

theorem exists_of_parse_dotSlash {pattern : String} {parsed : Pattern}
    (h : parse ("./" ++ pattern) = .ok parsed) :
    ∃ s ps, parsed = sequence (text ('.' :: '/' :: s) :: ps) := by
  unfold parse at h
  rw [Path.toList_dotSlash, parseParts_dotSlash] at h
  cases hrest : parseParts (2 * ("./" ++ pattern).length + 1) false
      (plainText (isSpecial false) pattern.toList).2 with
  | error e =>
    rw [hrest] at h
    cases h
  | ok r =>
    rw [hrest] at h
    cases h
    exact ⟨_, _, rfl⟩

/-- A pattern that begins with a point and a slash takes only paths that do. -/
theorem isPrefix_of_fits?_dotSlash {pattern path : String} {parsed : Pattern}
    (h : parse ("./" ++ pattern) = .ok parsed) (hfits : parsed.fits? path = some true) :
    ['.', '/'] <+: path.toList := by
  obtain ⟨s, ps, rfl⟩ := exists_of_parse_dotSlash h
  have hoctets := Octets.isPrefix_of_ofString (isPrefix_of_fits? hfits)
  rw [String.toList_ofList] at hoctets
  exact (List.prefix_append ['.', '/'] s).trans hoctets

end Pattern

end Bindery
