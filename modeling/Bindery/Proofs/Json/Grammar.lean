import Bindery.Json.Scan
import Mathlib.Data.List.Nodup

/-!
# The grammar of JSON

What a JSON text is, without a reader: white space may stand around items, names and colons, the characters
of a string may be written as they are or as escapes, and the names of an object are distinct. One value has
many texts. The text without white space that values are written as is one of them.

## Main definitions

- `Json.SpellsChar`, `Json.SpellsString` — the ways to write a character and the content of a string
- `Json.IsNumber` — the texts of numbers
- `Json.Spells`, `Json.Document` — the texts of a value, without and with white space around them
- `Json.depth` — how deep arrays and objects are nested in a value
- `Json.Proper` — a value whose own text is a text of it

## Main results

- `Json.spells_text` — the text of a value spells it
-/

namespace Bindery.Json

/-- White space, or nothing. -/
def IsBlank (cs : List Char) : Prop :=
  ∀ c ∈ cs, c ∈ [' ', '\t', '\n', '\r']

/-! ### Strings -/

/-- The letters of short escapes, with the characters that they stand for. -/
def escapes : List (Char × Char) :=
  [('"', '"'), ('\\', '\\'), ('/', '/'), ('b', '\x08'), ('f', '\x0c'), ('n', '\n'), ('r', '\r'),
   ('t', '\t')]

/-- The ways to write a character in a string. -/
inductive SpellsChar : Char → List Char → Prop
  /-- As it is. -/
  | plain {x : Char} (visible : 0x20 ≤ x.toNat) (quote : x ≠ '"') (backslash : x ≠ '\\') :
      SpellsChar x [x]
  /-- By a letter. -/
  | letter {x e : Char} (listed : (e, x) ∈ escapes) : SpellsChar x ['\\', e]
  /-- By its code. -/
  | code {x a b c d : Char} (hex : Scan.hex4? a b c d = some x.toNat) :
      SpellsChar x ['\\', 'u', a, b, c, d]
  /-- By the two halves of a code above those of four digits. -/
  | halves {x a b c d a' b' c' d' : Char} {high low : Nat} (hexHigh : Scan.hex4? a b c d = some high)
      (hexLow : Scan.hex4? a' b' c' d' = some low) (isHigh : 0xd800 ≤ high ∧ high < 0xdc00)
      (isLow : 0xdc00 ≤ low ∧ low < 0xe000)
      (whole : x.toNat = 0x10000 + (high - 0xd800) * 0x400 + (low - 0xdc00)) :
      SpellsChar x ['\\', 'u', a, b, c, d, '\\', 'u', a', b', c', d']

/-- The ways to write the content of a string. -/
inductive SpellsString : List Char → List Char → Prop
  | nil : SpellsString [] []
  | cons {x : Char} {xs cs rest : List Char} (first : SpellsChar x cs) (more : SpellsString xs rest) :
      SpellsString (x :: xs) (cs ++ rest)

/-! ### Numbers -/

/-- One digit or more. -/
def IsDigits (cs : List Char) : Prop :=
  cs ≠ [] ∧ ∀ c ∈ cs, c.isDigit = true

/-- The whole part of a number, which begins with zero only if it is zero. -/
inductive IsWhole : List Char → Prop
  | zero : IsWhole ['0']
  | digits {d : Char} {ds : List Char} (digits : IsDigits (d :: ds)) (first : d ≠ '0') :
      IsWhole (d :: ds)

/-- The fraction of a number. -/
inductive IsFraction : List Char → Prop
  | none : IsFraction []
  | digits {ds : List Char} (digits : IsDigits ds) : IsFraction ('.' :: ds)

/-- The exponent of a number. -/
inductive IsExponent : List Char → Prop
  | none : IsExponent []
  | digits {e : Char} {sign ds : List Char} (mark : e ∈ ['e', 'E']) (signed : sign ∈ [[], ['+'], ['-']])
      (digits : IsDigits ds) : IsExponent (e :: sign ++ ds)

/-- A number. -/
inductive IsNumber : List Char → Prop
  | parts {sign whole fraction exponent : List Char} (signed : sign ∈ [[], ['-']])
      (hwhole : IsWhole whole) (hfraction : IsFraction fraction) (hexponent : IsExponent exponent) :
      IsNumber (sign ++ whole ++ fraction ++ exponent)

/-! ### Values -/

/-- An item of an array as it is written. -/
structure Item where
  /-- The white space before it. -/
  before : List Char
  /-- Its text. -/
  text : List Char
  /-- The white space after it. -/
  after : List Char
  /-- Its value. -/
  value : Json

/-- The characters of an item. -/
def Item.chars (i : Item) : List Char :=
  i.before ++ i.text ++ i.after

/-- There is nothing but white space around the item. -/
def Item.Spaced (i : Item) : Prop :=
  IsBlank i.before ∧ IsBlank i.after

/-- A member of an object as it is written. -/
structure Entry where
  /-- The white space before its name. -/
  before : List Char
  /-- Its name. -/
  name : String
  /-- How the name is written between its quotes. -/
  nameText : List Char
  /-- The white space after its name. -/
  after : List Char
  /-- What stands after the colon. -/
  item : Item

/-- The characters of a member. -/
def Entry.chars (e : Entry) : List Char :=
  e.before ++ '"' :: (e.nameText ++ '"' :: (e.after ++ ':' :: e.item.chars))

/-- There is nothing but white space around the parts of the member, and its name is written properly. -/
structure Entry.Spaced (e : Entry) : Prop where
  /-- The white space before the name. -/
  before : IsBlank e.before
  /-- The name. -/
  name : SpellsString e.name.toList e.nameText
  /-- The white space after the name. -/
  after : IsBlank e.after
  /-- The white space around the value. -/
  item : e.item.Spaced

/-- The member that is written. -/
def Entry.member (e : Entry) : String × Json :=
  (e.name, e.item.value)

/-- Texts with commas between them. -/
def commas (texts : List (List Char)) : List Char :=
  [','].intercalate texts

/-- The texts of a value. -/
inductive Spells : Json → List Char → Prop
  | null : Spells .null ['n', 'u', 'l', 'l']
  | yes : Spells (.bool true) ['t', 'r', 'u', 'e']
  | no : Spells (.bool false) ['f', 'a', 'l', 's', 'e']
  | number {digits : String} (h : IsNumber digits.toList) : Spells (.number digits) digits.toList
  | string {s : String} {cs : List Char} (h : SpellsString s.toList cs) :
      Spells (.string s) ('"' :: cs ++ ['"'])
  | emptyArray {blank : List Char} (h : IsBlank blank) : Spells (.array []) ('[' :: blank ++ [']'])
  | array {items : List Item} (nonempty : items ≠ []) (spaced : ∀ i ∈ items, i.Spaced)
      (h : ∀ i ∈ items, Spells i.value i.text) :
      Spells (.array (items.map Item.value)) ('[' :: commas (items.map Item.chars) ++ [']'])
  | emptyObject {blank : List Char} (h : IsBlank blank) :
      Spells (.object []) ('\x7b' :: blank ++ ['\x7d'])
  | object {entries : List Entry} (nonempty : entries ≠ []) (spaced : ∀ e ∈ entries, e.Spaced)
      (distinct : (entries.map Entry.name).Nodup)
      (h : ∀ e ∈ entries, Spells e.item.value e.item.text) :
      Spells (.object (entries.map Entry.member))
        ('\x7b' :: commas (entries.map Entry.chars) ++ ['\x7d'])

/-- The whole texts of a value: white space may stand around it. -/
inductive Document (j : Json) : List Char → Prop
  | mk {before cs after : List Char} (hbefore : IsBlank before) (h : Spells j cs)
      (hafter : IsBlank after) : Document j (before ++ (cs ++ after))

mutual

/-- How deep arrays and objects are nested in a value. -/
def depth : Json → Nat
  | .array items => itemsDepth items + 1
  | .object members => membersDepth members + 1
  | _ => 0

/-- How deep arrays and objects are nested in items. -/
def itemsDepth : List Json → Nat
  | [] => 0
  | j :: rest => max j.depth (itemsDepth rest)

/-- How deep arrays and objects are nested in members. -/
def membersDepth : List (String × Json) → Nat
  | [] => 0
  | (_, j) :: rest => max j.depth (membersDepth rest)

end

theorem depth_single (name : String) (j : Json) : (Json.object [(name, j)]).depth = j.depth + 1 := by
  rw [depth, membersDepth, membersDepth, Nat.max_zero]

theorem depth_le_of_mem {members : List (String × Json)} {name : String} {v : Json}
    (h : (name, v) ∈ members) : v.depth ≤ membersDepth members := by
  induction members with
  | nil => cases h
  | cons m rest ih =>
    rcases List.mem_cons.mp h with rfl | h
    · exact Nat.le_max_left _ _
    · exact Nat.le_trans (ih h) (Nat.le_max_right _ _)

/-! ### The text of a value -/

/-- A value whose numbers are numbers and whose objects have distinct names. -/
inductive Proper : Json → Prop
  | null : Proper .null
  | bool (b : Bool) : Proper (.bool b)
  | number {digits : String} (h : IsNumber digits.toList) : Proper (.number digits)
  | string (s : String) : Proper (.string s)
  | array {items : List Json} (h : ∀ i ∈ items, Proper i) : Proper (.array items)
  | object {members : List (String × Json)} (distinct : (members.map Prod.fst).Nodup)
      (h : ∀ m ∈ members, Proper m.2) : Proper (.object members)

@[simp]
theorem proper_null : Proper .null :=
  .null

@[simp]
theorem proper_bool (b : Bool) : Proper (.bool b) :=
  .bool b

@[simp]
theorem proper_string (s : String) : Proper (.string s) :=
  .string s

@[simp]
theorem proper_array_iff {items : List Json} : Proper (.array items) ↔ ∀ i ∈ items, Proper i := by
  constructor
  · rintro ⟨⟩
    assumption
  · exact .array

@[simp]
theorem proper_object_iff {members : List (String × Json)} : Proper (.object members) ↔
    (members.map Prod.fst).Nodup ∧ ∀ m ∈ members, Proper m.2 := by
  constructor
  · rintro ⟨⟩
    exact ⟨‹_›, ‹_›⟩
  · exact fun h => .object h.1 h.2

theorem hex4?_hexDigits : ∀ n < 0x20,
    hexDigits 4 n = ['0', '0', Nat.digitChar (n / 16), Nat.digitChar (n % 16)] ∧
      Scan.hex4? '0' '0' (Nat.digitChar (n / 16)) (Nat.digitChar (n % 16)) = some n := by
  decide

theorem spellsChar_quoteChar (x : Char) : SpellsChar x (quoteChar x) := by
  have hx : ∀ n, x.toNat = n → x = Char.ofNat n := by
    intro n hn
    rw [← hn, Char.ofNat_toNat]
  unfold quoteChar
  split
  case h_8 hquote hslash _ _ _ _ _ =>
    split
    · next hlow =>
      obtain ⟨hdigits, hhex⟩ := hex4?_hexDigits x.toNat hlow
      rw [hdigits]
      exact .code hhex
    · next hhigh =>
      refine .plain (Nat.le_of_not_lt hhigh) ?_ ?_
      · rintro rfl
        exact hquote rfl
      · rintro rfl
        exact hslash rfl
  all_goals
    next hn =>
      rw [hx _ hn]
      exact .letter (by decide)

theorem spellsString_quote (xs : List Char) : SpellsString xs (xs.flatMap quoteChar) := by
  induction xs with
  | nil => exact .nil
  | cons x xs ih => exact .cons (spellsChar_quoteChar x) ih

theorem spells_quote (s : String) : Spells (.string s) (quote s).toList := by
  rw [quote, String.toList_ofList]
  exact .string (spellsString_quote s.toList)

theorem itemTexts_eq (items : List Json) : itemTexts items = items.map text := by
  induction items with
  | nil => rfl
  | cons j rest ih => rw [itemTexts, ih, List.map_cons]

theorem memberTexts_eq (members : List (String × Json)) :
    memberTexts members = members.map fun m => quote m.1 ++ ":" ++ m.2.text := by
  induction members with
  | nil => rfl
  | cons m rest ih => rw [memberTexts, ih, List.map_cons]

theorem isBlank_nil : IsBlank [] :=
  nofun

theorem spells_arrayText {items : List Json} (h : ∀ i ∈ items, Spells i i.text.toList) :
    Spells (.array items) (text (.array items)).toList := by
  rw [text, itemTexts_eq, String.toList_append, String.toList_append, String.toList_intercalate]
  by_cases hnil : items = []
  · rw [hnil]
    exact .emptyArray isBlank_nil
  · -- every item stands without white space around it
    let written : Json → Item := fun j => ⟨[], j.text.toList, [], j⟩
    have hchars : (items.map text).map String.toList = (items.map written).map Item.chars := by
      rw [List.map_map, List.map_map]
      refine List.map_congr_left fun j _ => ?_
      exact (List.append_nil _).symm
    have hvalues : (items.map written).map Item.value = items := by
      rw [List.map_map]
      exact List.map_id _
    have hspells : Spells (.array ((items.map written).map Item.value))
        ('[' :: commas ((items.map written).map Item.chars) ++ [']']) := by
      refine .array (by simpa using hnil) ?_ ?_
      · intro i hi
        obtain ⟨j, -, rfl⟩ := List.mem_map.mp hi
        exact ⟨isBlank_nil, isBlank_nil⟩
      · intro i hi
        obtain ⟨j, hj, rfl⟩ := List.mem_map.mp hi
        exact h j hj
    rw [hvalues, ← hchars] at hspells
    exact hspells

theorem spells_objectText {members : List (String × Json)} (hdistinct : (members.map Prod.fst).Nodup)
    (h : ∀ m ∈ members, Spells m.2 m.2.text.toList) :
    Spells (.object members) (text (.object members)).toList := by
  rw [text, memberTexts_eq, String.toList_append, String.toList_append, String.toList_intercalate]
  by_cases hnil : members = []
  · rw [hnil]
    exact .emptyObject isBlank_nil
  · let written : String × Json → Entry := fun m =>
      ⟨[], m.1, m.1.toList.flatMap quoteChar, [], ⟨[], m.2.text.toList, [], m.2⟩⟩
    have hchars : (members.map fun m => quote m.1 ++ ":" ++ m.2.text).map String.toList =
        (members.map written).map Entry.chars := by
      rw [List.map_map, List.map_map]
      refine List.map_congr_left fun m _ => ?_
      simp [written, Entry.chars, Item.chars, quote]
    have hmembers : (members.map written).map Entry.member = members := by
      rw [List.map_map]
      exact List.map_id _
    have hnames : (members.map written).map Entry.name = members.map Prod.fst := by
      rw [List.map_map]
      rfl
    have hspells : Spells (.object ((members.map written).map Entry.member))
        ('\x7b' :: commas ((members.map written).map Entry.chars) ++ ['\x7d']) := by
      refine .object (by simpa using hnil) ?_ (hnames ▸ hdistinct) ?_
      · intro e he
        obtain ⟨m, -, rfl⟩ := List.mem_map.mp he
        exact ⟨isBlank_nil, spellsString_quote _, isBlank_nil, isBlank_nil, isBlank_nil⟩
      · intro e he
        obtain ⟨m, hm, rfl⟩ := List.mem_map.mp he
        exact h m hm
    rw [hmembers, ← hchars] at hspells
    exact hspells

/-- The text of a value spells it. -/
theorem spells_text {j : Json} (h : j.Proper) : Spells j j.text.toList := by
  induction h with
  | null => exact .null
  | bool b =>
    cases b with
    | true => exact .yes
    | false => exact .no
  | number h => exact .number h
  | string s => exact spells_quote s
  | array _ ih => exact spells_arrayText ih
  | object hdistinct _ ih => exact spells_objectText hdistinct ih

theorem Spells.document {j : Json} {cs : List Char} (h : Spells j cs) : Document j cs := by
  have hdocument : Document j ([] ++ (cs ++ [])) := .mk isBlank_nil h isBlank_nil
  rwa [List.nil_append, List.append_nil] at hdocument

end Bindery.Json
