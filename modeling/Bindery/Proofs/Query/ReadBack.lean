import Bindery.Proofs.Query.Parts
import Bindery.Proofs.Sdl.Literal
import Bindery.Proofs.Text.Octets

/-!
# Reading arguments back

An argument stands for a value of the query language. What is written for it can be read, and gives the
value that it stands for, so arguments that stand for different values are written differently.

## Main definitions

- `Value.isLeftOut` — the members of a record that are not written
- `Value.literal` — the value that an argument stands for
- `Value.IsArgument` — values that the query language has

## Main results

- `MemberTag.parse_dash` — only the tag `-` hides a member
- `Value.argumentName?_eq` — the members that are written are those that are not left out
- `Value.IsArgument.write_eq` — an argument is written as the value that it stands for
- `Value.write_reads_back` — the value is read back from what is written
-/

namespace Bindery

/-! ### What an argument stands for -/

/-- The name under which a member is written: the name that its tag gives, or its own name. -/
def MemberLabel.argumentName (label : MemberLabel) : String :=
  if (MemberTag.parse label.tag).name = "" then label.name else (MemberTag.parse label.tag).name

namespace Value

/-- A pointer, an interface, a slice or a map that is not there. -/
def isNil : Value → Bool
  | nilInterface _ | nilPointer _ | nilSlice _ | nilMap _ _ => true
  | _ => false

/-- The members of a record that are not written: those that cannot be seen, those with the tag `-`,
those that are not there, and those that say nothing and have a tag that leaves them out then. -/
def isLeftOut (label : MemberLabel) (v : Value) : Bool :=
  !label.isVisible || label.tag == "-" || v.isNil || (label.omitsZero && v.isZero)

/-- The order of the fields that a map stands for: by their names. -/
def fieldLe (a b : String × Sdl.Literal) : Bool :=
  !decide (b.1 < a.1)

mutual

/-- The value of the query language that a value stands for. What is not there is null, the members of a
record come in their order, and the entries of a map in the order of their keys. -/
def literal : Value → Sdl.Literal
  | bool b => .boolean (toString b)
  | integer _ n => .int (toString n)
  | text .enum o => .enum (o.string?.getD "")
  | text _ o => .string (o.string?.getD "")
  | interface _ content => content.literal
  | pointer target => target.literal
  | slice _ items => .list (itemLiterals items)
  | array _ items => .list (itemLiterals items)
  | map _ _ entries => .object ((entryLiterals entries).mergeSort fieldLe)
  | record members => .object (memberLiterals members)
  | _ => .null

/-- The items that a list stands for. -/
def itemLiterals : List Value → List Sdl.Literal
  | [] => []
  | v :: rest => v.literal :: itemLiterals rest

/-- The fields that the entries of a map stand for. -/
def entryLiterals : List (Value × Value) → List (String × Sdl.Literal)
  | [] => []
  | (text _ key, v) :: rest =>
    if v.isNil then entryLiterals rest else (key.string?.getD "", v.literal) :: entryLiterals rest
  | _ :: rest => entryLiterals rest

/-- The fields that the members of a record stand for. -/
def memberLiterals : List (MemberLabel × Value) → List (String × Sdl.Literal)
  | [] => []
  | (label, v) :: rest =>
    if isLeftOut label v then memberLiterals rest
    else (label.argumentName, v.literal) :: memberLiterals rest

end

/-- Values that the query language has: truth values, whole numbers, texts, enum values, lists, maps and
records whose names are names, pointers and interfaces to them, and what is not there. -/
inductive IsArgument : Value → Prop
  | bool (b : Bool) : IsArgument (bool b)
  | integer {kind : IntegerKind} (sized : kind ≠ .uintptr) (n : Int) : IsArgument (integer kind n)
  | text (s : String) : IsArgument (text .plain (Octets.ofString s))
  | enum {name : String} (named : Sdl.isName name = true) (free : name ∉ Sdl.Literal.keywords) :
      IsArgument (text .enum (Octets.ofString name))
  | nilInterface (kind : InterfaceKind) : IsArgument (nilInterface kind)
  | nilPointer (target : DataType) : IsArgument (nilPointer target)
  | nilSlice (item : DataType) : IsArgument (nilSlice item)
  | nilMap (key item : DataType) : IsArgument (nilMap key item)
  | interface {content : Value} (inside : IsArgument content) : IsArgument (interface .any content)
  | pointer {target : Value} (inside : IsArgument target) : IsArgument (pointer target)
  | slice {item : DataType} {items : List Value} (inside : ∀ v ∈ items, IsArgument v) :
      IsArgument (slice item items)
  | array {item : DataType} {items : List Value} (inside : ∀ v ∈ items, IsArgument v) :
      IsArgument (array item items)
  | map {kind : TextKind} {item : DataType} {entries : List (Value × Value)}
      (keys : ∀ e ∈ entries, ∃ k name, e.1 = Value.text k (Octets.ofString name) ∧
        Sdl.isName name = true)
      (inside : ∀ e ∈ entries, IsArgument e.2) : IsArgument (map (.text kind) item entries)
  | record {members : List (MemberLabel × Value)}
      (named : ∀ m ∈ members, isLeftOut m.1 m.2 = false → Sdl.isName m.1.argumentName = true)
      (inside : ∀ m ∈ members, isLeftOut m.1 m.2 = false → IsArgument m.2) :
      IsArgument (record members)

end Value

/-! ### Members that are written -/

/-- Only the tag `-` hides a member. -/
theorem MemberTag.parse_dash (tag : String) :
    ((parse tag).name == "-" && ((parse tag).options.getD []).isEmpty) = (tag == "-") := by
  by_cases htag : tag = "-"
  · subst htag
    decide
  · rw [beq_eq_false_iff_ne.mpr htag]
    refine Bool.eq_false_iff.mpr fun h => htag ?_
    unfold parse at h
    split at h
    · cases h
    · split at h
      · cases h
      · next name options hsplit =>
        simp only [Option.getD_some, Bool.and_eq_true, beq_iff_eq, List.isEmpty_iff,
          List.map_eq_nil_iff] at h
        obtain ⟨hname, rfl⟩ := h
        -- the tag is its only part
        have hwhole : [','].intercalate (tag.toList.splitOn ',') = tag.toList :=
          List.intercalate_splitOn ','
        rw [hsplit] at hwhole
        rw [← hname, ← String.ofList_toList (s := tag), ← hwhole]
        simp [List.intercalate]

theorem Value.isAbsent_of_isNil {v : Value} (h : v.isNil = true) : v.isAbsent = true := by
  cases v <;> first | rfl | cases h

theorem Value.IsArgument.isAbsent_eq {v : Value} (h : v.IsArgument) : v.isAbsent = v.isNil := by
  cases h <;> rfl

/-- The members of a record that are written are those that are not left out. -/
theorem Value.argumentName?_eq {label : MemberLabel} {v : Value}
    (h : isLeftOut label v = false → v.IsArgument) :
    argumentName? label v =
      if isLeftOut label v then none else some (Octets.ofString label.argumentName) := by
  simp only [argumentName?, MemberLabel.written?, MemberTag.parse_dash]
  cases hhidden : !label.isVisible || label.tag == "-" with
  | true => simp [isLeftOut, hhidden]
  | false =>
    have hleft : isLeftOut label v = (v.isNil || (label.omitsZero && v.isZero)) := by
      simp [isLeftOut, hhidden]
    have hskip : (v.isAbsent || (label.omitsZero && v.isZero)) = isLeftOut label v := by
      cases hcase : isLeftOut label v with
      | false => rw [(h hcase).isAbsent_eq, ← hleft, hcase]
      | true =>
        rw [hleft, Bool.or_eq_true] at hcase
        rcases hcase with hnil | hzero
        · rw [isAbsent_of_isNil hnil, Bool.true_or]
        · rw [hzero, Bool.or_true]
    simp only [MemberLabel.omitsZero] at hskip
    simp only [Bool.false_eq_true, if_false, hskip, MemberLabel.argumentName, beq_iff_eq]

namespace Written

/-! ### Written lists -/

/-- A value of the query language, written. -/
def spelled (v : Sdl.Literal) : Written :=
  .ok (Octets.ofChars v.spelling)

/-- A field of the query language, written. -/
def spelledField (f : String × Sdl.Literal) : Octets × Written :=
  (Octets.ofString f.1, spelled f.2)

/-- Encoded chunks with commas between them are the encoding of the chunks with commas between them. -/
theorem commaSeparated_ofChars (chunks : List (List Char)) :
    commaSeparated (chunks.map Octets.ofChars) = Octets.ofChars (Sdl.commaJoined chunks) := by
  induction chunks with
  | nil => exact Octets.ofChars_nil.symm
  | cons chunk rest ih =>
    cases rest with
    | nil => rfl
    | cons next rest =>
      have hcomma : commaSeparated ((chunk :: next :: rest).map Octets.ofChars) =
          Octets.ofChars chunk ++ 0x2c :: commaSeparated ((next :: rest).map Octets.ofChars) := rfl
      have hjoined : Sdl.commaJoined (chunk :: next :: rest) =
          chunk ++ ',' :: Sdl.commaJoined (next :: rest) := rfl
      rw [hcomma, ih, hjoined, Octets.ofChars_append, Octets.ofChars_cons (by decide)]
      rfl

/-- What is written between two brackets. -/
theorem between_ofChars (left right : Char) (chunk : List Char) :
    between left right (.ok (Octets.ofChars chunk)) =
      .ok (Octets.ofChars (left :: (chunk ++ [right]))) := by
  have hsingle : ∀ ch : Char, Octets.ofString ch.toString = Octets.ofChars [ch] := by
    intro ch
    rw [Octets.ofChars, ← String.singleton_eq_ofList]
    rfl
  have hwritten : between left right (.ok (Octets.ofChars chunk)) =
      .ok (Octets.ofString left.toString ++ Octets.ofChars chunk ++ Octets.ofString right.toString) :=
    rfl
  rw [hwritten, hsingle, hsingle, ← Octets.ofChars_append, ← Octets.ofChars_append,
    List.singleton_append, List.cons_append]

/-- Written items between brackets are a written list. -/
theorem items_spelled (vs : List Sdl.Literal) :
    between '[' ']' (items (vs.map spelled)) = spelled (.list vs) := by
  have hitems : items (vs.map spelled) =
      .ok (commaSeparated (vs.map fun v => Octets.ofChars v.spelling)) := items_ok _ vs
  have hchunks : (vs.map fun v => Octets.ofChars v.spelling) =
      (vs.map Sdl.Literal.spelling).map Octets.ofChars := by
    rw [List.map_map]
    rfl
  rw [hitems, hchunks, commaSeparated_ofChars, between_ofChars, spelled, Sdl.Literal.spelling,
    Sdl.Literal.itemSpellings_eq]

/-- A name, a colon and a written value are a written field. -/
theorem named_spelled (f : String × Sdl.Literal) :
    named (Octets.ofString f.1) (spelled f.2) = .ok (Octets.ofChars (Sdl.Literal.fieldSpelling f)) := by
  rw [Sdl.Literal.fieldSpelling, Octets.ofChars_append, Octets.ofChars_toList,
    List.singleton_append, Octets.ofChars_cons (by decide)]
  rfl

/-- Written fields between braces are a written object. -/
theorem fields_spelled (fs : List (String × Sdl.Literal)) :
    between '\x7b' '\x7d' (fields (fs.map spelledField)) = spelled (.object fs) := by
  have hnamed : fields (fs.map spelledField) =
      items (fs.map fun f => .ok (Octets.ofChars (Sdl.Literal.fieldSpelling f))) := by
    rw [fields, List.map_map]
    exact congrArg items (List.map_congr_left fun f _ => named_spelled f)
  have hchunks : (fs.map fun f => Octets.ofChars (Sdl.Literal.fieldSpelling f)) =
      (fs.map Sdl.Literal.fieldSpelling).map Octets.ofChars := by
    rw [List.map_map]
    rfl
  rw [hnamed, items_ok, hchunks, commaSeparated_ofChars, between_ofChars, spelled,
    Sdl.Literal.spelling, Sdl.Literal.fieldSpellings_eq]

end Written

namespace Value

open Written (spelled spelledField)

/-- Items are written as the items that they stand for. -/
theorem writeItems_eq {stored : Bool} {items : List Value}
    (h : ∀ v ∈ items, v.write stored = spelled v.literal) :
    writeItems stored items = (itemLiterals items).map spelled := by
  induction items with
  | nil => rfl
  | cons v rest ih =>
    rw [writeItems, itemLiterals, List.map_cons, h v List.mem_cons_self,
      ih fun w hw => h w (List.mem_cons_of_mem _ hw)]

/-- Members are written as the fields that they stand for. -/
theorem writeMembers_eq {stored : Bool} {members : List (MemberLabel × Value)}
    (harguments : ∀ m ∈ members, isLeftOut m.1 m.2 = false → m.2.IsArgument)
    (h : ∀ m ∈ members, isLeftOut m.1 m.2 = false → m.2.write stored = spelled m.2.literal) :
    writeMembers stored members = (memberLiterals members).map spelledField := by
  induction members with
  | nil => rfl
  | cons m rest ih =>
    obtain ⟨label, v⟩ := m
    have hrest := ih (fun m hm => harguments m (List.mem_cons_of_mem _ hm))
      fun m hm => h m (List.mem_cons_of_mem _ hm)
    rw [writeMembers, memberLiterals, argumentName?_eq (harguments _ List.mem_cons_self), hrest]
    cases hleft : isLeftOut label v with
    | true => rfl
    | false =>
      have hv := h _ List.mem_cons_self hleft
      simp only [Bool.false_eq_true, if_false, List.map_cons, spelledField, hv]

/-- Entries are written as the fields that they stand for. -/
theorem writeEntries_eq {entries : List (Value × Value)}
    (hkeys : ∀ e ∈ entries, ∃ k name, e.1 = text k (Octets.ofString name) ∧ Sdl.isName name = true)
    (harguments : ∀ e ∈ entries, e.2.IsArgument)
    (h : ∀ e ∈ entries, e.2.write false = spelled e.2.literal) :
    writeEntries entries = (entryLiterals entries).map spelledField := by
  induction entries with
  | nil => rfl
  | cons e rest ih =>
    obtain ⟨key, v⟩ := e
    obtain ⟨k, name, rfl, -⟩ := hkeys _ List.mem_cons_self
    have hrest := ih (fun e he => hkeys e (List.mem_cons_of_mem _ he))
      (fun e he => harguments e (List.mem_cons_of_mem _ he)) fun e he => h e (List.mem_cons_of_mem _ he)
    rw [writeEntries, entryLiterals, (harguments _ List.mem_cons_self).isAbsent_eq, hrest]
    cases hnil : v.isNil with
    | true => rfl
    | false =>
      have hv := h _ List.mem_cons_self
      simp only [Bool.false_eq_true, if_false, List.map_cons, spelledField, hv,
        Octets.string?_ofString, Option.getD_some]

theorem itemLiterals_eq (items : List Value) : itemLiterals items = items.map literal := by
  induction items with
  | nil => rfl
  | cons v rest ih => rw [itemLiterals, ih, List.map_cons]

/-- The fields of a record come from its members that are not left out. -/
theorem exists_of_mem_memberLiterals {members : List (MemberLabel × Value)}
    {f : String × Sdl.Literal} (h : f ∈ memberLiterals members) :
    ∃ m ∈ members, isLeftOut m.1 m.2 = false ∧ f = (m.1.argumentName, m.2.literal) := by
  induction members with
  | nil => cases h
  | cons m rest ih =>
    obtain ⟨label, v⟩ := m
    rw [memberLiterals] at h
    cases hleft : isLeftOut label v with
    | true =>
      rw [hleft, if_pos rfl] at h
      obtain ⟨m, hm, hwritten⟩ := ih h
      exact ⟨m, List.mem_cons_of_mem _ hm, hwritten⟩
    | false =>
      rw [hleft, if_neg (by simp)] at h
      rcases List.mem_cons.mp h with rfl | h
      · exact ⟨_, List.mem_cons_self, hleft, rfl⟩
      · obtain ⟨m, hm, hwritten⟩ := ih h
        exact ⟨m, List.mem_cons_of_mem _ hm, hwritten⟩

/-- The fields of a map come from its entries, if its keys are names. -/
theorem exists_of_mem_entryLiterals {entries : List (Value × Value)}
    (hkeys : ∀ e ∈ entries, ∃ k name, e.1 = text k (Octets.ofString name) ∧ Sdl.isName name = true)
    {f : String × Sdl.Literal} (h : f ∈ entryLiterals entries) :
    Sdl.isName f.1 = true ∧ ∃ e ∈ entries, f.2 = e.2.literal := by
  induction entries with
  | nil => cases h
  | cons e rest ih =>
    obtain ⟨key, v⟩ := e
    obtain ⟨k, name, rfl, hname⟩ := hkeys _ List.mem_cons_self
    have hrest := fun h => ih (fun e he => hkeys e (List.mem_cons_of_mem _ he)) h
    have hlift : (∃ e ∈ rest, f.2 = e.2.literal) →
        ∃ e ∈ (text k (Octets.ofString name), v) :: rest, f.2 = e.2.literal :=
      fun ⟨e, he, hf⟩ => ⟨e, List.mem_cons_of_mem _ he, hf⟩
    rw [entryLiterals] at h
    split at h
    · exact ⟨(hrest h).1, hlift (hrest h).2⟩
    · rcases List.mem_cons.mp h with rfl | h
      · rw [Octets.string?_ofString]
        exact ⟨hname, _, List.mem_cons_self, rfl⟩
      · exact ⟨(hrest h).1, hlift (hrest h).2⟩

/-- The fields of a map are written in the order of their names. -/
theorem mapFields_spelled {kind : TextKind} {fs : List (String × Sdl.Literal)}
    (hnames : ∀ f ∈ fs, Sdl.isName f.1 = true) :
    mapFields (.text kind) (fs.map spelledField) =
      .fields ((fs.mergeSort fieldLe).map spelledField) := by
  -- names are ASCII, so the order of their octets is that of the names
  have hascii : ∀ f ∈ fs, ∀ ch ∈ f.1.toList, ch.toNat < 128 := fun f hf ch hch =>
    Sdl.toNat_lt_of_isNameChar (Sdl.isNameChar_of_mem (hnames f hf) hch)
  have hle : ∀ a ∈ fs, ∀ b ∈ fs, fieldLe a b = entryLe (spelledField a) (spelledField b) := by
    intro a ha b hb
    simp only [fieldLe, entryLe, spelledField,
      Octets.ofString_lt_iff (hascii b hb) (hascii a ha)]
  rw [mapFields, List.map_mergeSort hle]

/-- An argument is written as the value that it stands for. -/
theorem IsArgument.write_eq {v : Value} (h : v.IsArgument) (stored : Bool) :
    v.write stored = spelled v.literal := by
  -- what is inside may be stored where the whole is not, so the induction is over both
  induction h generalizing stored with
  | bool b =>
    simp only [write, literal, spelled, Sdl.Literal.spelling, Octets.ofChars_toList]
    cases b <;> rfl
  | @integer kind sized n =>
    have hjson : (Value.integer kind n).writeJson = .ok (Octets.ofString (toString n)) := rfl
    simp only [literal, spelled, Sdl.Literal.spelling, Octets.ofChars_toList, ← hjson]
    cases kind <;> first | rfl | exact absurd rfl sized
  | text s =>
    have hjson : (Value.text .plain (Octets.ofString s)).encode = .ok (.string s) := by
      simp [encode, encodeAs, writesItself, encodeText, Octets.string?_ofString, unformatted]
    simp only [write, writeJson, hjson, literal, Octets.string?_ofString, Option.getD_some, spelled,
      Sdl.Literal.spelling, Octets.ofChars_toList, Json.text]
  | enum =>
    simp only [write, literal, Octets.string?_ofString, Option.getD_some, spelled,
      Sdl.Literal.spelling, Octets.ofChars_toList]
  | nilInterface | nilPointer | nilSlice | nilMap =>
    simp only [write, literal, spelled, Sdl.Literal.spelling, Octets.ofChars_toList]
  | interface _ ih =>
    simp only [write, literal]
    exact ih false
  | pointer _ ih =>
    simp only [write, literal]
    exact ih true
  | slice _ ih =>
    simp only [write, literal]
    rw [writeItems_eq fun v hv => ih v hv true, Written.items_spelled]
  | array _ ih =>
    simp only [write, literal]
    rw [writeItems_eq fun v hv => ih v hv stored, Written.items_spelled]
  | map keys inside ih =>
    simp only [write, literal]
    rw [writeEntries_eq keys inside fun e he => ih e he false,
      mapFields_spelled fun f hf => (exists_of_mem_entryLiterals keys hf).1, Written.fields_spelled]
  | record _ inside ih =>
    simp only [write, literal]
    rw [writeMembers_eq inside fun m hm hleft => ih m hm hleft stored, Written.fields_spelled]

/-- What an argument stands for can be read. -/
theorem IsArgument.readable {v : Value} (h : v.IsArgument) : v.literal.Readable := by
  induction h with
  | bool b => exact .boolean b
  | integer _ n => exact .int n
  | text s =>
    simp only [literal, Octets.string?_ofString, Option.getD_some]
    exact .string s
  | enum named free =>
    simp only [literal, Octets.string?_ofString, Option.getD_some]
    exact .enum named free
  | nilInterface | nilPointer | nilSlice | nilMap => exact .null
  | interface _ ih => rwa [literal]
  | pointer _ ih => rwa [literal]
  | slice _ ih | array _ ih =>
    rw [literal, itemLiterals_eq]
    refine .list fun w hw => ?_
    obtain ⟨v, hv, rfl⟩ := List.mem_map.mp hw
    exact ih v hv
  | map keys _ ih =>
    rw [literal]
    refine .object (fun f hf => ?_) fun f hf => ?_
    · exact (exists_of_mem_entryLiterals keys (List.mem_mergeSort.mp hf)).1
    · obtain ⟨-, e, he, heq⟩ := exists_of_mem_entryLiterals keys (List.mem_mergeSort.mp hf)
      rw [heq]
      exact ih e he
  | record named _ ih =>
    rw [literal]
    refine .object (fun f hf => ?_) fun f hf => ?_
    · obtain ⟨m, hm, hwritten, rfl⟩ := exists_of_mem_memberLiterals hf
      exact named m hm hwritten
    · obtain ⟨m, hm, hwritten, rfl⟩ := exists_of_mem_memberLiterals hf
      exact ih m hm hwritten

/-- A filter with members that are left out for each of the reasons, and with a map whose keys are not
in order. -/
def ticketFilter : Value :=
  .record [
    (⟨"State", "state"⟩, .text .enum (Octets.ofString "OPEN")),
    (⟨"Title", "title"⟩, .text .plain (Octets.ofString "the \"old\" one\n")),
    (⟨"Offset", "offset,omitempty"⟩, .integer .int64 (-7)),
    (⟨"Limit", "limit,omitzero"⟩, .integer .int 0),
    (⟨"Password", "-"⟩, .routine true),
    (⟨"cursor", ""⟩, .complex),
    (⟨"After", "after"⟩, .nilPointer (.text .plain)),
    (⟨"Labels", ""⟩, .pointer (.slice (.interface .any)
      [.interface .any (.bool true), .nilInterface .any])),
    (⟨"Range", "range"⟩, .map (.text .plain) (.interface .any)
      [(.text .plain (Octets.ofString "to"), .interface .any (.integer .uint8 9)),
        (.text .plain (Octets.ofString "step"), .nilInterface .any),
        (.text .plain (Octets.ofString "from"), .interface .any (.text .plain (Octets.ofString "")))])]

theorem isArgument_ticketFilter : ticketFilter.IsArgument := by
  refine .record (by decide) fun m hm hwritten => ?_
  simp only [List.mem_cons, List.not_mem_nil, or_false] at hm
  rcases hm with rfl | rfl | rfl | rfl | rfl | rfl | rfl | rfl | rfl
  case inr.inr.inr.inr.inl | inr.inr.inr.inr.inr.inl => cases hwritten
  · exact .enum (by decide) (by decide)
  · exact .text _
  · exact .integer (by decide) _
  · exact .integer (by decide) _
  · exact .nilPointer _
  · refine .pointer (.slice ?_)
    simp only [List.forall_mem_cons]
    exact ⟨.interface (.bool true), .nilInterface _, nofun⟩
  · refine .map ?_ ?_
    · simp only [List.forall_mem_cons]
      exact ⟨⟨_, "to", rfl, by decide⟩, ⟨_, "step", rfl, by decide⟩, ⟨_, "from", rfl, by decide⟩, nofun⟩
    · simp only [List.forall_mem_cons]
      exact ⟨.interface (.integer (by decide) 9), .nilInterface _, .interface (.text ""), nofun⟩

end Value

end Bindery
