import Bindery.Proofs.Sdl.Lexing
import Bindery.Sdl.Parser

/-!
# Writing and reading values

A value is written without white space and with strings quoted as in JSON. What is written is read back as
the same value: the characters give the tokens of the value, and the tokens give the value.

## Main definitions

- `Sdl.Literal.spelling` — a value as it is written
- `Sdl.Literal.lexemes` — the tokens of a value
- `Sdl.Literal.Readable` — values without variables and fractions, whose names are names
- `Sdl.Reads` — a parser takes these tokens and returns a result
- `Sdl.readLiteral` — the value that a text is

## Main results

- `Sdl.Literal.Readable.yields` — the characters of a value give its tokens
- `Sdl.Literal.Readable.reads` — the tokens of a value are read as the value
- `Sdl.readLiteral_spelling` — what is written is read back
-/

namespace Bindery.Sdl

namespace Literal

mutual

/-- A value as it is written: without white space, and with strings quoted as in JSON. -/
def spelling : Literal → List Char
  | reference name => '$' :: name.toList
  | int digits => digits.toList
  | float digits => digits.toList
  | string value => (Json.quote value).toList
  | boolean name => name.toList
  | null => "null".toList
  | enum name => name.toList
  | list items => '[' :: (commaJoined (itemSpellings items) ++ [']'])
  | object fields => '\x7b' :: (commaJoined (fieldSpellings fields) ++ ['\x7d'])

/-- The items of a list as they are written. -/
def itemSpellings : List Literal → List (List Char)
  | [] => []
  | v :: rest => v.spelling :: itemSpellings rest

/-- The fields of an object as they are written. -/
def fieldSpellings : List (String × Literal) → List (List Char)
  | [] => []
  | (name, v) :: rest => (name.toList ++ ':' :: v.spelling) :: fieldSpellings rest

end

mutual

/-- The tokens of a value. -/
def lexemes : Literal → List (TokenKind × String)
  | reference name => [(.dollar, ""), (.name, name)]
  | int digits => [(.int, digits)]
  | float digits => [(.float, digits)]
  | string value => [(.string, value)]
  | boolean name => [(.name, name)]
  | null => [(.name, "null")]
  | enum name => [(.name, name)]
  | list items => (.bracketL, "") :: (itemLexemes items ++ [(.bracketR, "")])
  | object fields => (.braceL, "") :: (fieldLexemes fields ++ [(.braceR, "")])

/-- The tokens of the items of a list. -/
def itemLexemes : List Literal → List (TokenKind × String)
  | [] => []
  | v :: rest => v.lexemes ++ itemLexemes rest

/-- The tokens of the fields of an object. -/
def fieldLexemes : List (String × Literal) → List (TokenKind × String)
  | [] => []
  | (name, v) :: rest => (.name, name) :: (.colon, "") :: (v.lexemes ++ fieldLexemes rest)

end

/-- A field of an object as it is written. -/
def fieldSpelling (f : String × Literal) : List Char :=
  f.1.toList ++ ([':'] ++ f.2.spelling)

/-- The tokens of a field of an object. -/
def fieldTokens (f : String × Literal) : List (TokenKind × String) :=
  [(.name, f.1)] ++ ([(.colon, "")] ++ f.2.lexemes)

theorem itemSpellings_eq (items : List Literal) : itemSpellings items = items.map spelling := by
  induction items with
  | nil => rfl
  | cons v rest ih => rw [itemSpellings, ih, List.map_cons]

theorem fieldSpellings_eq (fields : List (String × Literal)) :
    fieldSpellings fields = fields.map fieldSpelling := by
  induction fields with
  | nil => rfl
  | cons f rest ih =>
    rw [fieldSpellings, ih, List.map_cons]
    rfl

theorem itemLexemes_eq (items : List Literal) : itemLexemes items = items.flatMap lexemes := by
  induction items with
  | nil => rfl
  | cons v rest ih => rw [itemLexemes, ih, List.flatMap_cons]

theorem fieldLexemes_eq (fields : List (String × Literal)) :
    fieldLexemes fields = fields.flatMap fieldTokens := by
  induction fields with
  | nil => rfl
  | cons f rest ih =>
    rw [fieldLexemes, ih, List.flatMap_cons]
    rfl

/-- The names that are values of their own. -/
def keywords : List String :=
  ["true", "false", "null"]

/-- Values without variables and fractions, whose names are names. -/
inductive Readable : Literal → Prop
  | int (n : Int) : Readable (.int (toString n))
  | string (s : String) : Readable (.string s)
  | boolean (b : Bool) : Readable (.boolean (toString b))
  | null : Readable .null
  | enum {name : String} (named : isName name = true) (free : name ∉ keywords) :
      Readable (.enum name)
  | list {items : List Literal} (readable : ∀ v ∈ items, Readable v) : Readable (.list items)
  | object {fields : List (String × Literal)} (named : ∀ f ∈ fields, isName f.1 = true)
      (readable : ∀ f ∈ fields, Readable f.2) : Readable (.object fields)

/-! ### From characters to tokens -/

theorem lexemes_ne_nil (v : Literal) : v.lexemes ≠ [] := by
  cases v <;> simp [lexemes]

/-- The characters of a bracketed list give the tokens of the list. -/
theorem yields_bracketed {opening closing : Char} {left right : TokenKind} {chunk : List Char}
    {ls : List (TokenKind × String)} (hopening : (opening, left) ∈ marks)
    (hclosing : (closing, right) ∈ marks) (hends : closing ∈ [',', ':', ']', '\x7d'])
    (h : Yields Ends chunk ls) :
    Yields Ends (opening :: (chunk ++ [closing])) ((left, "") :: (ls ++ [(right, "")])) := by
  have hinner : Yields Ends (chunk ++ [closing]) (ls ++ [(right, "")]) := by
    refine h.append (yields_mark hclosing Ends) ?_
    intro rest _ ch hch
    obtain rfl : closing = ch := by simpa using hch
    exact hends
  exact (yields_mark hopening fun _ => True).append hinner fun _ _ => trivial

/-- The characters of a value give its tokens. -/
theorem Readable.yields {v : Literal} (h : v.Readable) : Yields Ends v.spelling v.lexemes := by
  induction h with
  | int n => exact yields_int n
  | string s => exact yields_string s
  | boolean b => cases b <;> exact yields_name (by decide)
  | null => exact yields_name (by decide)
  | enum named _ => exact yields_name named
  | list _ ih =>
    rw [spelling, lexemes, itemSpellings_eq, itemLexemes_eq]
    refine yields_bracketed (by decide) (by decide) (by decide) ?_
    exact .joined ih fun v _ => lexemes_ne_nil v
  | object named _ ih =>
    rw [spelling, lexemes, fieldSpellings_eq, fieldLexemes_eq]
    refine yields_bracketed (by decide) (by decide) (by decide) (.joined ?_ ?_)
    · intro f hf
      have hcolon : (':', TokenKind.colon) ∈ marks := by decide
      have hvalue := (yields_mark hcolon fun _ => True).append (ih f hf) fun _ _ => trivial
      refine (yields_name (named f hf)).append hvalue ?_
      intro rest _ ch hch
      obtain rfl : ':' = ch := by simpa using hch
      decide
    · intro f _
      simp [fieldTokens]

end Literal

/-! ### From tokens to values -/

/-- A parser takes tokens with these lexemes, whatever follows them, and returns the result. -/
def Reads {α : Type} (p : Parser α) (lexemes : List (TokenKind × String)) (a : α) : Prop :=
  ∀ ts rest, ts.map Token.lexeme = lexemes → rest ≠ [] → p.run (ts ++ rest) = .ok (a, rest)

theorem run_bind_ok {α β : Type} {p : Parser α} {f : α → Parser β} {ts ts' : List Token} {a : α}
    (h : p.run ts = .ok (a, ts')) : (p >>= f).run ts = (f a).run ts' := by
  rw [StateT.run_bind, h]
  rfl

/-- Two parsers in a row take the tokens of both. -/
theorem Reads.bind {α β : Type} {p : Parser α} {f : α → Parser β}
    {lexemes lexemes' : List (TokenKind × String)} {a : α} {b : β} (h : Reads p lexemes a)
    (h' : Reads (f a) lexemes' b) : Reads (p >>= f) (lexemes ++ lexemes') b := by
  intro ts rest hts hrest
  obtain ⟨us, vs, rfl, hus, hvs⟩ := List.map_eq_append_iff.mp hts
  rw [List.append_assoc, run_bind_ok (h us (vs ++ rest) hus (by simp [hrest])), h' vs rest hvs hrest]

/-- A result can be changed after it is read. -/
theorem Reads.returns {α β : Type} {p : Parser α} {lexemes : List (TokenKind × String)} {a : α}
    (h : Reads p lexemes a) (f : α → β) : Reads (p >>= fun a => pure (f a)) lexemes (f a) := by
  intro ts rest hts hrest
  rw [run_bind_ok (h ts rest hts hrest)]
  rfl

namespace Parser

theorem run_peek (t : Token) (ts : List Token) : peek.run (t :: ts) = .ok (t, t :: ts) :=
  rfl

/-- A token that is not the last one is taken. -/
theorem run_next {t : Token} {ts : List Token} (hkind : t.kind ≠ .eof) (hts : ts ≠ []) :
    next.run (t :: ts) = .ok (t, ts) := by
  obtain ⟨u, us, rfl⟩ := List.exists_cons_of_ne_nil hts
  have hrun : next.run (t :: u :: us) =
      .ok (t, if t.kind == .eof then t :: u :: us else u :: us) := rfl
  rw [hrun, beq_eq_false_iff_ne.mpr hkind]
  rfl

theorem run_discard {α : Type} {p : Parser α} {ts ts' : List Token} {a : α}
    (h : p.run ts = .ok (a, ts')) : (discard p : Parser Unit).run ts = .ok ((), ts') := by
  have hdiscard : (discard p : Parser Unit) = (fun _ => ()) <$> p := rfl
  rw [hdiscard, StateT.run_map, h]
  rfl

theorem run_skip_of_eq {kind : TokenKind} {t : Token} {ts : List Token} (h : t.kind = kind)
    (hkind : kind ≠ .eof) (hts : ts ≠ []) : (skip kind).run (t :: ts) = .ok (true, ts) := by
  rw [skip, run_bind_ok (run_peek t ts), if_pos (by simp [h]),
    run_bind_ok (run_discard (run_next (h ▸ hkind) hts))]
  rfl

theorem run_skip_of_ne {kind : TokenKind} {t : Token} {ts : List Token} (h : t.kind ≠ kind) :
    (skip kind).run (t :: ts) = .ok (false, t :: ts) := by
  rw [skip, run_bind_ok (run_peek t ts), if_neg (by simp [h])]
  rfl

theorem run_expect {kind : TokenKind} {t : Token} {ts : List Token} (h : t.kind = kind)
    (hkind : kind ≠ .eof) (hts : ts ≠ []) : (expect kind).run (t :: ts) = .ok (t, ts) := by
  rw [expect, run_bind_ok (run_peek t ts), if_pos (by simp [h])]
  exact run_next (h ▸ hkind) hts

end Parser

open Bindery.Sdl.Parser

/-- Tokens with one lexeme are one token. -/
theorem exists_token {ts : List Token} {lexeme : TokenKind × String}
    (h : ts.map Token.lexeme = [lexeme]) : ∃ t, ts = [t] ∧ t.kind = lexeme.1 ∧ t.value = lexeme.2 := by
  obtain ⟨t, rfl, rfl⟩ := List.map_eq_singleton_iff.mp h
  exact ⟨t, rfl, rfl, rfl⟩

/-- A parser that looks at the next token takes what it takes for that token. -/
theorem Reads.peek {α : Type} {f : Token → Parser α} {l : TokenKind × String}
    {ls : List (TokenKind × String)} {a : α} (h : ∀ t, t.kind = l.1 → Reads (f t) (l :: ls) a) :
    Reads (peek >>= f) (l :: ls) a := by
  intro ts rest hts hrest
  obtain ⟨t, us, rfl, ht, -⟩ := List.map_eq_cons_iff.mp hts
  rw [List.cons_append, run_bind_ok (run_peek t (us ++ rest))]
  exact h t (congrArg Prod.fst ht) (t :: us) rest hts hrest

/-- A name is read as its value. -/
theorem reads_name (value : String) : Reads Parser.name [(.name, value)] value := by
  intro ts rest hts hrest
  obtain ⟨t, rfl, hkind, hvalue⟩ := exists_token hts
  rw [List.singleton_append, Parser.name, run_bind_ok (run_expect hkind nofun hrest), hvalue]
  rfl

/-- A mark is read and left out. -/
theorem reads_mark {kind : TokenKind} (hkind : kind ≠ .eof) :
    Reads (discard (expect kind)) [(kind, "")] () := by
  intro ts rest hts hrest
  obtain ⟨t, rfl, ht, -⟩ := exists_token hts
  exact run_discard (run_expect ht hkind hrest)

section Lists

variable {α : Type} {item : Parser α} {lexemes : α → List (TokenKind × String)}
  {opening close : TokenKind}

/-- Items are read up to the closing token. -/
theorem reads_items (hclose : close ≠ .eof) {xs : List α}
    (h : ∀ x ∈ xs, Reads item (lexemes x) x)
    (hfirst : ∀ x ∈ xs, ∃ l ls, lexemes x = l :: ls ∧ l.1 ≠ close) {fuel : Nat}
    (hfuel : xs.length < fuel) :
    Reads (items close item fuel) (xs.flatMap lexemes ++ [(close, "")]) xs := by
  induction xs generalizing fuel with
  | nil =>
    intro ts rest hts hrest
    obtain ⟨fuel, rfl⟩ := Nat.exists_eq_add_one.mpr hfuel
    obtain ⟨t, rfl, hkind, -⟩ := exists_token hts
    rw [List.singleton_append, items, run_bind_ok (run_skip_of_eq hkind hclose hrest)]
    rfl
  | cons x xs ih =>
    intro ts rest hts hrest
    obtain ⟨fuel, rfl⟩ := Nat.exists_eq_add_one.mpr (Nat.zero_lt_of_lt hfuel)
    rw [List.flatMap_cons, List.append_assoc] at hts
    obtain ⟨us, vs, rfl, hus, hvs⟩ := List.map_eq_append_iff.mp hts
    have hx := h x List.mem_cons_self us (vs ++ rest) hus (by simp [hrest])
    have hxs := ih (fun y hy => h y (List.mem_cons_of_mem _ hy))
      (fun y hy => hfirst y (List.mem_cons_of_mem _ hy)) (Nat.lt_of_succ_lt_succ hfuel) vs rest hvs
      hrest
    -- the first token of an item is not the closing one
    obtain ⟨l, ls, hl, hne⟩ := hfirst x List.mem_cons_self
    obtain ⟨t, us', rfl, ht⟩ : ∃ t us', us = t :: us' ∧ t.kind ≠ close := by
      rw [hl] at hus
      obtain ⟨t, us', rfl, rfl, -⟩ := List.map_eq_cons_iff.mp hus
      exact ⟨t, us', rfl, hne⟩
    rw [List.append_assoc, items, List.cons_append, run_bind_ok (run_skip_of_ne ht),
      if_neg (by simp), ← List.cons_append, run_bind_ok hx, run_bind_ok hxs]
    rfl

/-- Items between an opening and a closing token are read. -/
theorem reads_many (hopening : opening ≠ .eof) (hclose : close ≠ .eof) {xs : List α}
    (h : ∀ x ∈ xs, Reads item (lexemes x) x)
    (hfirst : ∀ x ∈ xs, ∃ l ls, lexemes x = l :: ls ∧ l.1 ≠ close) :
    Reads (many opening close item) ((opening, "") :: (xs.flatMap lexemes ++ [(close, "")])) xs := by
  intro ts rest hts hrest
  obtain ⟨t, us, rfl, ht, hus⟩ := List.map_eq_cons_iff.mp hts
  have hne : us ++ rest ≠ [] := by simp [hrest]
  have hfuel : xs.length < (us ++ rest).length + 1 := by
    have hle : xs.length ≤ (xs.flatMap lexemes).length := by
      refine length_le_flatMap fun x hx hnil => ?_
      obtain ⟨l, ls, hl, -⟩ := hfirst x hx
      rw [hnil] at hl
      cases hl
    have hlength := congrArg List.length hus
    simp only [List.length_map, List.length_append] at hlength ⊢
    omega
  have hrun : Parser.fuel.run (us ++ rest) = .ok ((us ++ rest).length + 1, us ++ rest) := rfl
  rw [List.cons_append, many, run_bind_ok (run_skip_of_eq (congrArg Prod.fst ht) hopening hne),
    if_pos rfl, run_bind_ok hrun]
  exact reads_items hclose h hfirst hfuel us rest hus hrest

end Lists

/-! ### Values -/

namespace Literal

/-- The value of a name that stands alone. -/
def ofWord (word : String) : Literal :=
  match word with
  | "true" => .boolean word
  | "false" => .boolean word
  | "null" => .null
  | _ => .enum word

theorem ofWord_of_notMem {word : String} (h : word ∉ keywords) : ofWord word = .enum word := by
  unfold ofWord
  split
  · exact absurd (by decide) h
  · exact absurd (by decide) h
  · exact absurd (by decide) h
  · rfl

/-- A value of one token is read. -/
theorem reads_token {kind : TokenKind} {text : String} {v : Literal}
    (h : kind = .int ∧ v = .int text ∨ kind = .string ∧ v = .string text ∨
      kind = .name ∧ v = ofWord text) (fuel : Nat) :
    Reads (literalWithin true (fuel + 1)) [(kind, text)] v := by
  intro ts rest hts hrest
  obtain ⟨t, rfl, hkind, rfl⟩ := exists_token hts
  rw [List.singleton_append, literalWithin, run_bind_ok (run_peek t rest)]
  have hnext : ∀ k, t.kind = k → k ≠ .eof →
      (discard next : Parser Unit).run (t :: rest) = .ok ((), rest) :=
    fun k hk hne => run_discard (run_next (hk ▸ hne) hrest)
  rcases h with ⟨rfl, rfl⟩ | ⟨rfl, rfl⟩ | ⟨rfl, rfl⟩
  all_goals
    simp only [hkind]
    rw [run_bind_ok (hnext _ hkind nofun)]
    rfl

/-- The first token of a value closes nothing. -/
theorem lexemes_eq_cons (v : Literal) : ∃ l ls, v.lexemes = l :: ls ∧ l.1 ≠ .bracketR := by
  cases v <;> exact ⟨_, _, rfl, nofun⟩

/-- A list is read if its items are. -/
theorem reads_list {items : List Literal} {fuel : Nat}
    (h : ∀ v ∈ items, Reads (literalWithin true fuel) v.lexemes v) :
    Reads (literalWithin true (fuel + 1)) (lexemes (.list items)) (.list items) := by
  have hmany : Reads (many .bracketL .bracketR (literalWithin true fuel)) _ items :=
    reads_many (by decide) (by decide) h fun v _ => v.lexemes_eq_cons
  rw [lexemes, itemLexemes_eq]
  refine .peek fun t ht => ?_
  simp only [ht]
  exact hmany.returns Literal.list

/-- An object is read if the values of its fields are. -/
theorem reads_object {fields : List (String × Literal)} {fuel : Nat}
    (h : ∀ f ∈ fields, Reads (literalWithin true fuel) f.2.lexemes f.2) :
    Reads (literalWithin true (fuel + 1)) (lexemes (.object fields)) (.object fields) := by
  have hfield : ∀ f ∈ fields, Reads (do
      let name ← Parser.name
      discard (expect .colon)
      let value ← literalWithin true fuel
      return (name, value)) (fieldTokens f) f := by
    intro f hf
    exact (reads_name f.1).bind
      ((reads_mark (by decide)).bind ((h f hf).returns fun v => (f.1, v)))
  have hmany : Reads (many .braceL .braceR _) _ fields :=
    reads_many (by decide) (by decide) hfield fun f _ => ⟨_, _, rfl, by simp⟩
  rw [lexemes, fieldLexemes_eq]
  refine .peek fun t ht => ?_
  simp only [ht]
  exact hmany.returns Literal.object

/-- The tokens of a value are read as the value. -/
theorem Readable.reads {v : Literal} (h : v.Readable) {fuel : Nat}
    (hfuel : v.lexemes.length ≤ fuel) : Reads (literalWithin true fuel) v.lexemes v := by
  -- every value has a token, and the values inside another one have fewer tokens than it
  induction h generalizing fuel with
  | int n =>
    obtain ⟨fuel, rfl⟩ := Nat.exists_eq_add_one.mpr hfuel
    exact reads_token (.inl ⟨rfl, rfl⟩) fuel
  | string s =>
    obtain ⟨fuel, rfl⟩ := Nat.exists_eq_add_one.mpr hfuel
    exact reads_token (.inr (.inl ⟨rfl, rfl⟩)) fuel
  | boolean b =>
    obtain ⟨fuel, rfl⟩ := Nat.exists_eq_add_one.mpr hfuel
    cases b <;> exact reads_token (.inr (.inr ⟨rfl, rfl⟩)) fuel
  | null =>
    obtain ⟨fuel, rfl⟩ := Nat.exists_eq_add_one.mpr hfuel
    exact reads_token (.inr (.inr ⟨rfl, rfl⟩)) fuel
  | enum named free =>
    obtain ⟨fuel, rfl⟩ := Nat.exists_eq_add_one.mpr hfuel
    exact reads_token (.inr (.inr ⟨rfl, (ofWord_of_notMem free).symm⟩)) fuel
  | @list items _ ih =>
    rw [lexemes, itemLexemes_eq] at hfuel
    obtain ⟨fuel, rfl⟩ := Nat.exists_eq_add_one.mpr (Nat.lt_of_lt_of_le (Nat.succ_pos _) hfuel)
    refine reads_list fun v hv => ih v hv ?_
    have hle := length_le_flatMap_of_mem lexemes hv
    simp only [List.length_cons, List.length_append] at hfuel
    omega
  | @object fields _ _ ih =>
    rw [lexemes, fieldLexemes_eq] at hfuel
    obtain ⟨fuel, rfl⟩ := Nat.exists_eq_add_one.mpr (Nat.lt_of_lt_of_le (Nat.succ_pos _) hfuel)
    refine reads_object fun f hf => ih f hf ?_
    have hle := length_le_flatMap_of_mem fieldTokens hf
    simp only [fieldTokens, List.length_cons, List.length_append] at hle hfuel
    omega

end Literal

/-- The value that a text is, with nothing after it. -/
def readLiteral (text : String) : Except SyntaxError Literal :=
  let parser : Parser Literal := do
    let v ← literal true
    discard (expect .eof)
    return v
  parser.run' (tokens "" text)

/-- What is written is read back. -/
theorem readLiteral_spelling {v : Literal} (h : v.Readable) :
    readLiteral (String.ofList v.spelling) = .ok v := by
  have hyields : Yields Ends (String.ofList v.spelling).toList v.lexemes := by
    rw [String.toList_ofList]
    exact h.yields
  obtain ⟨ts, eof, htokens, hts, heof⟩ := lexemes_of_yields hyields ""
  have hfuel : Parser.fuel.run (ts ++ [eof]) = .ok ((ts ++ [eof]).length + 1, ts ++ [eof]) := rfl
  have hread : (literalWithin true ((ts ++ [eof]).length + 1)).run (ts ++ [eof]) = .ok (v, [eof]) := by
    refine h.reads ?_ ts [eof] hts (by simp)
    rw [← hts, List.length_map, List.length_append]
    omega
  have hlast : (expect .eof).run [eof] = .ok (eof, [eof]) := by
    rw [expect, run_bind_ok (run_peek eof []), if_pos (by simp [heof])]
    rfl
  have hrun : (do
      let v ← literal true
      discard (expect .eof)
      return v : Parser Literal).run (ts ++ [eof]) = .ok (v, [eof]) := by
    rw [literal, bind_assoc, run_bind_ok hfuel, run_bind_ok hread, run_bind_ok (run_discard hlast)]
    rfl
  rw [readLiteral, StateT.run'_eq, htokens, hrun]
  rfl

end Bindery.Sdl
