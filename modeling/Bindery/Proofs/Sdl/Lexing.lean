import Bindery.Json.Basic
import Bindery.Proofs.Sdl.Name

/-!
# Reading tokens chunk by chunk

A text is read one token after the other. If a text is put together from chunks, each of which gives its
tokens wherever it stands, the whole text gives the tokens of its chunks. Where a name or a number ends is
seen from the character after it, so chunks say what has to follow them.

## Main definitions

- `Sdl.Token.lexeme` — a token without its place
- `Sdl.Lexes` — the tokens between two places of a text
- `Sdl.Yields` — a chunk gives its tokens wherever it stands before a suitable rest
- `Sdl.Ends` — a rest that begins with a separator, a closing bracket or nothing
- `Sdl.commaJoined` — chunks with commas between them

## Main results

- `Sdl.Yields.append`, `Sdl.Yields.comma`, `Sdl.Yields.joined` — the tokens of chunks in a row
- `Sdl.yields_name`, `Sdl.yields_int`, `Sdl.yields_string` — names, whole numbers and quoted strings
- `Sdl.lexemes_of_yields` — the tokens of a whole text
-/

namespace Bindery.Sdl

/-! ### Tokens of a chunk -/

/-- The kind and the value of a token, without its place. -/
def Token.lexeme (t : Token) : TokenKind × String :=
  (t.kind, t.value)

/-- The tokens between two places of a text. -/
inductive Lexes : Cursor → List Token → Cursor → Prop
  | nil {c : Cursor} : Lexes c [] c
  | cons {c c₁ c₂ : Cursor} {t : Token} {ts : List Token}
      (read : readToken (skipBlank c c.rest.length) = (some t, c₁))
      (kind : t.kind ≠ .eof ∧ t.kind ≠ .invalid) (rest : Lexes c₁ ts c₂) : Lexes c (t :: ts) c₂

/-- A chunk of characters gives the lexemes wherever it stands before a rest with the property. -/
def Yields (P : List Char → Prop) (chunk : List Char) (lexemes : List (TokenKind × String)) : Prop :=
  lexemes.length ≤ chunk.length ∧
    ∀ (c : Cursor) (rest : List Char), c.rest = chunk ++ rest → P rest →
      ∃ ts c', Lexes c ts c' ∧ ts.map Token.lexeme = lexemes ∧ c'.rest = rest

/-- What may follow a name or a number: nothing, a separator or a closing bracket. -/
def Ends (rest : List Char) : Prop :=
  ∀ c ∈ rest.head?, c ∈ [',', ':', ']', '\x7d']

/-- Chunks with a comma between each two of them. -/
def commaJoined : List (List Char) → List Char
  | [] => []
  | [chunk] => chunk
  | chunk :: rest => chunk ++ ',' :: commaJoined rest

theorem length_le_flatMap {α β : Type} {f : α → List β} {as : List α} (h : ∀ a ∈ as, f a ≠ []) :
    as.length ≤ (as.flatMap f).length := by
  induction as with
  | nil => exact Nat.le_refl _
  | cons a as ih =>
    have ha := List.length_pos_iff.mpr (h a List.mem_cons_self)
    have has := ih fun b hb => h b (List.mem_cons_of_mem _ hb)
    simp only [List.flatMap_cons, List.length_append, List.length_cons]
    omega

theorem length_le_flatMap_of_mem {α β : Type} (f : α → List β) {as : List α} {a : α} (h : a ∈ as) :
    (f a).length ≤ (as.flatMap f).length := by
  rw [List.flatMap_def]
  exact (List.sublist_flatten_of_mem (List.mem_map_of_mem h)).length_le

theorem Lexes.append {c c₁ c₂ : Cursor} {ts us : List Token} (h : Lexes c ts c₁)
    (h' : Lexes c₁ us c₂) : Lexes c (ts ++ us) c₂ := by
  induction h with
  | nil => exact h'
  | cons read kind _ ih => exact .cons read kind (ih h')

/-- The tokens from a place on are those up to another place and those from there on. -/
theorem Lexes.tokensFrom {c c' : Cursor} {ts : List Token} (h : Lexes c ts c') (fuel : Nat) :
    tokensFrom c (ts.length + fuel) = ts ++ tokensFrom c' fuel := by
  induction h with
  | nil => simp
  | @cons c c₁ c₂ t ts read kind _ ih =>
    have hfuel : (t :: ts).length + fuel = ts.length + fuel + 1 := by
      rw [List.length_cons]
      omega
    rw [hfuel, Sdl.tokensFrom, read]
    simp [kind.1, kind.2, ih]

theorem Yields.nil (P : List Char → Prop) : Yields P [] [] :=
  ⟨Nat.le_refl _, fun c _ hrest _ => ⟨[], c, .nil, rfl, hrest⟩⟩

/-- Two chunks in a row give the tokens of both, if the second one may follow the first one. -/
theorem Yields.append {P Q : List Char → Prop} {chunk chunk' : List Char}
    {lexemes lexemes' : List (TokenKind × String)} (h : Yields P chunk lexemes)
    (h' : Yields Q chunk' lexemes') (hnext : ∀ rest, Q rest → P (chunk' ++ rest)) :
    Yields Q (chunk ++ chunk') (lexemes ++ lexemes') := by
  refine ⟨by simpa using Nat.add_le_add h.1 h'.1, fun c rest hrest hQ => ?_⟩
  obtain ⟨ts, c₁, hlex, hts, hc₁⟩ :=
    h.2 c (chunk' ++ rest) (by rw [hrest, List.append_assoc]) (hnext rest hQ)
  obtain ⟨us, c₂, hlex', hus, hc₂⟩ := h'.2 c₁ rest hc₁ hQ
  exact ⟨ts ++ us, c₂, hlex.append hlex', by rw [List.map_append, hts, hus], hc₂⟩

/-- A comma before a chunk with tokens is passed over. -/
theorem Yields.comma {P : List Char → Prop} {chunk : List Char}
    {lexemes : List (TokenKind × String)} (h : Yields P chunk lexemes) (hne : lexemes ≠ []) :
    Yields P (',' :: chunk) lexemes := by
  refine ⟨Nat.le_succ_of_le h.1, fun c rest hrest hP => ?_⟩
  have hskip : (c.skip 1).rest = chunk ++ rest := by simp [Cursor.skip, hrest]
  obtain ⟨ts, c', hlex, hts, hc'⟩ := h.2 (c.skip 1) rest hskip hP
  refine ⟨ts, c', ?_, hts, hc'⟩
  cases hlex with
  | nil => exact absurd hts.symm hne
  | cons read kind hlex =>
    refine .cons ?_ kind hlex
    rw [← read, hskip, hrest]
    simp [skipBlank, hrest]

/-- Chunks with commas between them give the tokens of all chunks. -/
theorem Yields.joined {α : Type} {chunk : α → List Char} {lexemes : α → List (TokenKind × String)}
    {items : List α} (h : ∀ a ∈ items, Yields Ends (chunk a) (lexemes a))
    (hne : ∀ a ∈ items, lexemes a ≠ []) :
    Yields Ends (commaJoined (items.map chunk)) (items.flatMap lexemes) := by
  induction items with
  | nil => exact .nil Ends
  | cons a items ih =>
    have hitems := ih (fun b hb => h b (List.mem_cons_of_mem _ hb))
      (fun b hb => hne b (List.mem_cons_of_mem _ hb))
    cases items with
    | nil => simpa [commaJoined] using h a List.mem_cons_self
    | cons b items =>
      have hb : (b :: items).flatMap lexemes ≠ [] := by
        simpa using fun hnil => absurd hnil (hne b (by simp))
      rw [List.flatMap_cons]
      refine (h a List.mem_cons_self).append (hitems.comma hb) ?_
      intro rest _ ch hch
      obtain rfl : ',' = ch := by simpa using hch
      decide

/-! ### Single tokens -/

/-- Whether a character is passed over between tokens. -/
def isSkipped (ch : Char) : Bool :=
  ch == '\n' || ch == '\r' || ch == ' ' || ch == '\t' || ch == ',' || ch.toNat == 0xfeff

theorem skipBlank_of_not_isSkipped {c : Cursor} {ch : Char} {more : List Char}
    (h : c.rest = ch :: more) (hch : isSkipped ch = false) (fuel : Nat) : skipBlank c fuel = c := by
  simp only [isSkipped, Bool.or_eq_false_iff, beq_eq_false_iff_ne] at hch
  obtain ⟨⟨⟨⟨⟨hlf, hcr⟩, hblank⟩, htab⟩, hcomma⟩, hbom⟩ := hch
  cases fuel with
  | zero => rfl
  | succ fuel => simp [skipBlank, h, hcr, hblank, htab, hcomma, hbom]

/-- A chunk that is read as one token gives this token. -/
theorem Yields.token {P : List Char → Prop} {ch : Char} {more : List Char}
    {lexeme : TokenKind × String} (hch : isSkipped ch = false)
    (hkind : lexeme.1 ≠ .eof ∧ lexeme.1 ≠ .invalid)
    (h : ∀ (c : Cursor) (rest : List Char), c.rest = ch :: more ++ rest → P rest →
      ∃ t c', readToken c = (some t, c') ∧ t.lexeme = lexeme ∧ c'.rest = rest) :
    Yields P (ch :: more) [lexeme] := by
  refine ⟨by simp, fun c rest hrest hP => ?_⟩
  obtain ⟨t, c', hread, rfl, hc'⟩ := h c rest hrest hP
  refine ⟨[t], c', .cons ?_ hkind .nil, rfl, hc'⟩
  rw [skipBlank_of_not_isSkipped hrest hch, hread]

/-- The marks between the parts of a value. -/
def marks : List (Char × TokenKind) :=
  [(':', .colon), ('[', .bracketL), (']', .bracketR), ('\x7b', .braceL), ('\x7d', .braceR)]

theorem readToken_mark {ch : Char} {kind : TokenKind} (h : (ch, kind) ∈ marks) {c : Cursor}
    {rest : List Char} (hrest : c.rest = ch :: rest) :
    readToken c = (some (bareToken kind c 1).1, (bareToken kind c 1).2) := by
  simp only [marks, List.mem_cons, Prod.mk.injEq, List.not_mem_nil, or_false] at h
  rcases h with ⟨rfl, rfl⟩ | ⟨rfl, rfl⟩ | ⟨rfl, rfl⟩ | ⟨rfl, rfl⟩ | ⟨rfl, rfl⟩
  all_goals
    rw [readToken, hrest]
    rfl

/-- A mark gives its token, whatever follows. -/
theorem yields_mark {ch : Char} {kind : TokenKind} (h : (ch, kind) ∈ marks)
    (P : List Char → Prop) : Yields P [ch] [(kind, "")] := by
  have hplain : ∀ m ∈ marks, isSkipped m.1 = false ∧ m.2 ≠ .eof ∧ m.2 ≠ .invalid := by decide
  refine .token (hplain _ h).1 (hplain _ h).2 fun c rest hrest _ => ?_
  exact ⟨_, _, readToken_mark h hrest, rfl, by simp [bareToken, Cursor.skip, hrest]⟩

/-- A character with which neither a mark nor a string nor a comment begins. -/
def isWordStart (ch : Char) : Bool :=
  isNameStart ch || ch == '-' || ch.isDigit

theorem isSkipped_of_isWordStart {ch : Char} (h : isWordStart ch = true) : isSkipped ch = false := by
  cases hskip : isSkipped ch with
  | false => rfl
  | true =>
    simp only [isSkipped, Bool.or_eq_true, beq_iff_eq] at hskip
    rcases hskip with hplain | hbom
    · rcases hplain with (((rfl | rfl) | rfl) | rfl) | rfl <;> exact absurd h (by decide)
    · obtain rfl : ch = Char.ofNat 0xfeff := by rw [← hbom, Char.ofNat_toNat]
      exact absurd h (by decide)

/-- A word is a name or a number. -/
theorem readToken_of_isWordStart {c : Cursor} {ch : Char} {more : List Char}
    (h : c.rest = ch :: more) (hch : isWordStart ch = true) :
    readToken c =
      if isNameStart ch then
        (some (takeToken .name c (c.rest.takeWhile isNameChar).length).1,
          (takeToken .name c (c.rest.takeWhile isNameChar).length).2)
      else (some (readNumber c).1, (readNumber c).2) := by
  unfold readToken
  rw [h]
  split <;> rename_i heq
  case h_19 =>
    obtain ⟨rfl, rfl⟩ := List.cons.inj heq
    cases hname : isNameStart ch with
    | true => rfl
    | false =>
      have hnumber : (ch == '-' || ch.isDigit) = true := by
        simpa [isWordStart, hname] using hch
      simp [hnumber]
  all_goals cases heq <;> exact absurd hch (by decide)

/-- The characters after a word are no part of a name and no part of a number. -/
theorem Ends.head {rest : List Char} (h : Ends rest) {ch : Char} (hch : rest.head? = some ch) :
    isNameChar ch = false ∧ ch.isDigit = false ∧ ch ≠ '.' ∧ ch ≠ 'e' ∧ ch ≠ 'E' ∧ ch ≠ '"' := by
  have hmem := h ch hch
  simp only [List.mem_cons, List.not_mem_nil, or_false] at hmem
  rcases hmem with rfl | rfl | rfl | rfl <;> decide

/-- A run of characters ends before a rest that begins with another one. -/
theorem takeWhile_append_of_head {p : Char → Bool} {chunk rest : List Char}
    (hchunk : ∀ ch ∈ chunk, p ch = true) (hrest : ∀ ch ∈ rest.head?, p ch = false) :
    (chunk ++ rest).takeWhile p = chunk := by
  rw [List.takeWhile_append_of_pos hchunk]
  cases rest with
  | nil => simp
  | cons ch rest => simp [hrest ch rfl]

/-- A token that takes as many characters as a chunk has. -/
theorem takeToken_chunk (kind : TokenKind) {c : Cursor} {chunk rest : List Char}
    (h : c.rest = chunk ++ rest) :
    (takeToken kind c chunk.length).1.lexeme = (kind, String.ofList chunk) ∧
      (takeToken kind c chunk.length).2.rest = rest := by
  simp [takeToken, Token.lexeme, Cursor.skip, h]

/-- A name gives its token. -/
theorem yields_name {name : String} (h : isName name = true) :
    Yields Ends name.toList [(.name, name)] := by
  obtain ⟨ch, more, hname, hstart, -⟩ := exists_cons_of_isName h
  have hchars : ∀ d ∈ name.toList, isNameChar d = true := fun d hd => isNameChar_of_mem h hd
  have hvalue : String.ofList (ch :: more) = name := by rw [← hname, String.ofList_toList]
  have hword : isWordStart ch = true := by simp [isWordStart, hstart]
  rw [hname] at hchars ⊢
  refine .token (isSkipped_of_isWordStart hword) ⟨nofun, nofun⟩ fun c rest hrest hends => ?_
  have hrun : c.rest.takeWhile isNameChar = ch :: more := by
    rw [hrest]
    exact takeWhile_append_of_head hchars fun d hd => (hends.head hd).1
  obtain ⟨hlexeme, hafter⟩ := takeToken_chunk .name hrest
  refine ⟨_, _, ?_, hlexeme.trans (by rw [hvalue]), hafter⟩
  rw [readToken_of_isWordStart hrest hword, if_pos hstart, hrun]

/-! ### Whole numbers -/

/-- The digits of a number do not begin with a zero, except for zero itself. -/
theorem length_toDigits_of_head {n : Nat} (h : (Nat.toDigits 10 n).head? = some '0') :
    (Nat.toDigits 10 n).length = 1 := by
  induction n using Nat.strongRecOn with
  | ind n ih =>
    by_cases hlt : n < 10
    · rw [Nat.toDigits_of_lt_base hlt]
      rfl
    · -- without its last digit the number would be zero
      obtain ⟨d, more, hmore⟩ := List.exists_cons_of_ne_nil (Nat.toDigits_ne_nil (n := n / 10) (b := 10))
      rw [Nat.toDigits_of_base_le (by decide) (Nat.le_of_not_lt hlt), hmore] at h
      have hone := ih (n / 10) (by omega) (by rw [hmore]; exact h)
      have hsmall := (Nat.length_toDigits_le_iff (by decide) (by decide)).mp (Nat.le_of_eq hone)
      rw [Nat.toDigits_of_lt_base (by omega)] at hmore
      have hzero : (n / 10).digitChar = '0' := by
        rw [(List.cons.inj hmore).1]
        simpa using h
      have := Nat.digitChar_eq_zero.mp hzero
      omega

/-- A whole number is read up to its last digit. -/
theorem readNumber_digits {c : Cursor} {sign digits rest : List Char}
    (hsign : sign = [] ∨ sign = ['-']) (hrest : c.rest = sign ++ digits ++ rest)
    (hdigits : ∀ d ∈ digits, d.isDigit = true) (hne : digits ≠ [])
    (hzero : digits.head? = some '0' → digits.length = 1) (hends : Ends rest) :
    readNumber c = takeToken .int c (sign ++ digits).length := by
  obtain ⟨d, more, rfl⟩ := List.exists_cons_of_ne_nil hne
  have hd : d.isDigit = true := hdigits d List.mem_cons_self
  have hdne : d ≠ '-' := by
    rintro rfl
    cases hd
  have hlength : (if c.rest.head? == some '-' then 1 else 0) = sign.length := by
    rcases hsign with rfl | rfl <;> simp [hrest, hdne]
  have hafter : c.rest.drop sign.length = d :: more ++ rest := by simp [hrest]
  have hwhole : digitCount (d :: more ++ rest) = (d :: more).length := by
    rw [digitCount, takeWhile_append_of_head hdigits fun ch hch => (hends.head hch).2.1]
  have hlast : c.rest.drop (sign.length + (d :: more).length) = rest := by
    rw [← List.drop_drop, hafter, List.drop_left]
  have hcount : ((d :: more).length == 0) = false := rfl
  have hleading : ((d :: more ++ rest).head? == some '0' && decide (1 < (d :: more).length)) = false := by
    cases hhead : (d :: more ++ rest).head? == some '0' with
    | false => rfl
    | true => simp [hzero (by simpa using hhead)]
  have hnext : ∀ ch ∈ ['.', 'e', 'E'], (rest.head? == some ch) = false := by
    intro ch hch
    refine beq_eq_false_iff_ne.mpr fun hhead => ?_
    have hother := hends.head hhead
    simp only [List.mem_cons, List.not_mem_nil, or_false] at hch
    rcases hch with rfl | rfl | rfl <;> simp at hother
  simp only [readNumber, List.drop_zero, hlength, hafter, hwhole, hcount, hleading, hlast,
    hnext '.' (by simp), hnext 'e' (by simp), hnext 'E' (by simp), Bool.false_and, Bool.or_self,
    Bool.not_false, Bool.false_eq_true, if_false, if_true, List.length_append]

/-- The text of a whole number is an optional sign and decimal digits. -/
theorem toList_toString_int (n : Int) :
    ∃ sign m, (sign = [] ∨ sign = ['-']) ∧ (toString n).toList = sign ++ Nat.toDigits 10 m := by
  rw [Int.toString_eq_repr, Int.repr_eq_if]
  split
  · exact ⟨[], n.toNat, .inl rfl, by rw [Nat.toList_repr, List.nil_append]⟩
  · exact ⟨['-'], (-n).toNat, .inr rfl, by rw [String.toList_append, Nat.toList_repr]; rfl⟩

/-- A whole number gives its token. -/
theorem yields_int (n : Int) : Yields Ends (toString n).toList [(.int, toString n)] := by
  obtain ⟨sign, m, hsign, hn⟩ := toList_toString_int n
  have hdigits : ∀ d ∈ Nat.toDigits 10 m, d.isDigit = true := fun d hd =>
    Nat.isDigit_of_mem_toDigits (by decide) (by decide) hd
  have hvalue : String.ofList (sign ++ Nat.toDigits 10 m) = toString n := by
    rw [← hn, String.ofList_toList]
  obtain ⟨ch, more, hchunk⟩ : ∃ ch more, sign ++ Nat.toDigits 10 m = ch :: more :=
    List.exists_cons_of_ne_nil (by simp [Nat.toDigits_ne_nil])
  have hstart : ch = '-' ∨ ch.isDigit = true := by
    rcases hsign with rfl | rfl
    · exact .inr (hdigits ch (by rw [List.nil_append] at hchunk; rw [hchunk]; simp))
    · exact .inl (List.cons.inj hchunk).1.symm
  have hword : isWordStart ch = true := by
    rcases hstart with rfl | hdigit
    · rfl
    · simp [isWordStart, hdigit]
  have hname : isNameStart ch = false := by
    rcases hstart with rfl | hdigit
    · rfl
    · exact isNameStart_of_isDigit hdigit
  rw [hn, hchunk]
  refine .token (isSkipped_of_isWordStart hword) ⟨nofun, nofun⟩ fun c rest hrest hends => ?_
  rw [← hchunk] at hrest
  obtain ⟨hlexeme, hafter⟩ := takeToken_chunk .int hrest
  refine ⟨_, _, ?_, hlexeme.trans (by rw [hvalue]), hafter⟩
  rw [hchunk, List.cons_append] at hrest
  rw [readToken_of_isWordStart hrest hword, hname, if_neg (by simp), readNumber_digits hsign
    (by rw [hrest, ← List.cons_append, ← hchunk]) hdigits Nat.toDigits_ne_nil
    length_toDigits_of_head hends]

/-! ### Quoted strings -/

/-- The code points that JSON writes in hexadecimal are read back. -/
theorem hexCode?_hexDigits :
    ∀ n < 0x20, (hexDigits 4 n).length = 4 ∧ hexCode? (hexDigits 4 n) = some n := by
  decide

/-- How a character is quoted: by a letter after a backslash, by its code point, or as itself. -/
theorem quoteChar_cases (ch : Char) :
    (∃ e, Json.quoteChar ch = ['\\', e] ∧ e ≠ 'u' ∧ escape? e = some ch) ∨
    (∃ digits, Json.quoteChar ch = '\\' :: 'u' :: digits ∧ digits.length = 4 ∧
      hexCode? digits = some ch.toNat) ∨
    (Json.quoteChar ch = [ch] ∧ ch ≠ '"' ∧ ch ≠ '\\' ∧ 0x20 ≤ ch.toNat) := by
  have hch : ∀ n, ch.toNat = n → ch = Char.ofNat n := fun n hn => by rw [← hn, Char.ofNat_toNat]
  unfold Json.quoteChar
  split
  case h_8 hquote hslash _ _ _ _ _ =>
    split
    · next hlow =>
      obtain ⟨hlength, hcode⟩ := hexCode?_hexDigits ch.toNat hlow
      exact .inr (.inl ⟨_, rfl, hlength, hcode⟩)
    · next hhigh =>
      refine .inr (.inr ⟨rfl, ?_, ?_, Nat.le_of_not_lt hhigh⟩)
      · rintro rfl
        exact hquote rfl
      · rintro rfl
        exact hslash rfl
  all_goals
    next hn => exact .inl ⟨_, rfl, by decide, by rw [hch _ hn]; rfl⟩

theorem charOfCode_toNat (ch : Char) : charOfCode ch.toNat = ch := by
  have hvalid : ch.toNat.isValidChar := ch.valid
  rw [charOfCode, if_pos hvalid, Char.ofNat_toNat]

/-- A quoted character is read as the character. -/
theorem readString_quoteChar {start c : Cursor} {value more : List Char} {ch : Char}
    (h : c.rest = Json.quoteChar ch ++ more) (hmore : more ≠ []) (fuel : Nat) :
    readString start value c (fuel + 1) =
      readString start (ch :: value) (c.skip (Json.quoteChar ch).length) fuel := by
  rcases quoteChar_cases ch with ⟨e, hquote, hu, he⟩ | ⟨digits, hquote, hlength, hcode⟩ |
    ⟨hquote, hne, hne', hhigh⟩
  · rw [hquote] at h ⊢
    rw [readString, h]
    simp [he]
  · -- the character after the four digits is there, since the closing quote still follows
    have hlong : ¬ (digits ++ more).length < 5 := by
      have := List.length_pos_iff.mpr hmore
      simp [hlength]
      omega
    have htake : (digits ++ more).take 4 = digits := by rw [← hlength, List.take_left]
    rw [hquote] at h ⊢
    rw [readString, h]
    simp only [List.cons_append, if_neg hlong, htake, hcode, charOfCode_toNat, List.length_cons,
      hlength]
  · have hlf : ch ≠ '\n' := by
      rintro rfl
      exact absurd hhigh (by decide)
    have hcr : ch ≠ '\r' := by
      rintro rfl
      exact absurd hhigh (by decide)
    rw [hquote] at h ⊢
    rw [readString, h]
    simp [hne', hlf, hcr, Nat.not_lt.mpr hhigh]

/-- The contents of a quoted string are read up to the closing quote. -/
theorem readString_quoted (start : Cursor) (value : List Char) {c : Cursor} {chars rest : List Char}
    (h : c.rest = chars.flatMap Json.quoteChar ++ '"' :: rest) {fuel : Nat}
    (hfuel : chars.length < fuel) :
    ∃ t c', readString start value c fuel = (t, c') ∧
      t.lexeme = (.string, String.ofList (value.reverse ++ chars)) ∧ c'.rest = rest := by
  induction chars generalizing c value fuel with
  | nil =>
    cases fuel with
    | zero => cases hfuel
    | succ fuel =>
      rw [readString, h]
      exact ⟨_, _, rfl, by simp [Token.lexeme], by simp [Cursor.skip, h]⟩
  | cons ch chars ih =>
    cases fuel with
    | zero => cases hfuel
    | succ fuel =>
      rw [List.flatMap_cons, List.append_assoc] at h
      rw [readString_quoteChar h (by simp)]
      have hskip : (c.skip (Json.quoteChar ch).length).rest =
          chars.flatMap Json.quoteChar ++ '"' :: rest := by
        simp [Cursor.skip, h]
      obtain ⟨t, c', hread, hlexeme, hrest⟩ :=
        ih (ch :: value) hskip (Nat.lt_of_succ_lt_succ hfuel)
      exact ⟨t, c', hread, by simpa using hlexeme, hrest⟩

/-- No quoted character begins with a quote. -/
theorem quoteChar_ne_quote (ch : Char) : ∃ d more, Json.quoteChar ch = d :: more ∧ d ≠ '"' := by
  rcases quoteChar_cases ch with ⟨e, hquote, -⟩ | ⟨digits, hquote, -⟩ | ⟨hquote, hne, -⟩
  · exact ⟨_, _, hquote, by decide⟩
  · exact ⟨_, _, hquote, by decide⟩
  · exact ⟨_, _, hquote, hne⟩

/-- Quotes that are not three in a row begin a string on one line. -/
theorem readToken_quote {c : Cursor} {more : List Char} (h : c.rest = '"' :: more)
    (hmore : ∀ rest, more = '"' :: '"' :: rest → False) :
    readToken c =
      (some (readString (c.skip 1) [] (c.skip 1) (more.length + 1)).1,
        (readString (c.skip 1) [] (c.skip 1) (more.length + 1)).2) := by
  rw [readToken, h]
  simp

/-- A quoted string gives its token. -/
theorem yields_string (s : String) : Yields Ends (Json.quote s).toList [(.string, s)] := by
  have hchunk : (Json.quote s).toList = '"' :: (s.toList.flatMap Json.quoteChar ++ ['"']) := by
    simp [Json.quote]
  rw [hchunk]
  refine .token (by decide) ⟨nofun, nofun⟩ fun c rest hrest hends => ?_
  have hmore : ∀ r, s.toList.flatMap Json.quoteChar ++ ['"'] ++ rest = '"' :: '"' :: r → False := by
    intro r hr
    -- what follows the opening quote is the closing one or a quoted character
    cases hs : s.toList with
    | nil =>
      rw [hs] at hr
      exact (hends.head (congrArg List.head? (List.cons.inj hr).2)).2.2.2.2.2 rfl
    | cons ch chars =>
      obtain ⟨d, ds, hquote, hd⟩ := quoteChar_ne_quote ch
      rw [hs, List.flatMap_cons, hquote] at hr
      exact hd (List.cons.inj hr).1
  have hskip : (c.skip 1).rest = s.toList.flatMap Json.quoteChar ++ '"' :: rest := by
    simp [Cursor.skip, hrest]
  have hfuel : s.toList.length < (s.toList.flatMap Json.quoteChar ++ ['"'] ++ rest).length + 1 := by
    -- every character gives at least one, so the characters that are left are enough
    have hle : s.toList.length ≤ (s.toList.flatMap Json.quoteChar).length := by
      refine length_le_flatMap fun ch _ hnil => ?_
      obtain ⟨d, ds, hquote, -⟩ := quoteChar_ne_quote ch
      rw [hnil] at hquote
      cases hquote
    simp only [List.length_append]
    omega
  obtain ⟨t, c', hread, hlexeme, hafter⟩ := readString_quoted (c.skip 1) [] hskip hfuel
  refine ⟨t, c', ?_, ?_, hafter⟩
  · rw [readToken_quote (by rw [hrest, List.cons_append]) hmore, hread]
  · simpa using hlexeme

/-! ### Whole texts -/

/-- A text that gives lexemes has tokens for them and ends with the end of the text. -/
theorem lexemes_of_yields {text : String} {lexemes : List (TokenKind × String)}
    (h : Yields Ends text.toList lexemes) (source : String) :
    ∃ ts eof, tokens source text = ts ++ [eof] ∧ ts.map Token.lexeme = lexemes ∧
      eof.kind = .eof := by
  obtain ⟨hlength, hyields⟩ := h
  obtain ⟨ts, c', hlex, hts, hrest⟩ :=
    hyields (Cursor.ofText source text) [] (by simp [Cursor.ofText]) (by simp [Ends])
  have hcount : ts.length ≤ text.length := by
    rw [← String.length_toList]
    rw [← hts, List.length_map] at hlength
    exact hlength
  have hfuel : text.length + 1 = ts.length + (text.length - ts.length + 1) := by omega
  refine ⟨ts, ⟨.eof, "", c'.position⟩, ?_, hts, rfl⟩
  rw [tokens, hfuel, hlex.tokensFrom, tokensFrom, hrest]
  simp [skipBlank, readToken, hrest, bareToken]

end Bindery.Sdl
