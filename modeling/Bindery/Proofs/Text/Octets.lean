import Bindery.Text.Octets

/-!
# Encoded strings

The encoding of a string goes piece by piece and can be undone.

## Main definitions

- `Octets.ofChars` — the encoding of characters

## Main results

- `Octets.ofString_append` — the encoding of two strings in a row
- `Octets.string?_ofString`, `Octets.decode_ofString` — a string is read back from its encoding
- `Octets.ofString_injective` — different strings have different encodings
- `Octets.ofString_lt_iff` — the encodings of ASCII strings are ordered as the strings are
-/

namespace Bindery.Octets

/-- The octets of an array, from the first that is not yet taken on. -/
theorem loop_eq (bs : ByteArray) (i : Nat) (taken : List UInt8) :
    ByteArray.toList.loop bs i taken = taken.reverse ++ bs.data.toList.drop i := by
  fun_induction ByteArray.toList.loop bs i taken with
  | case1 i taken hi ih =>
    have hlt : i < bs.data.toList.length := hi
    have hget : bs.get! i = bs.data.toList.get ⟨i, hlt⟩ := getElem!_pos bs.data i hi
    rw [ih, hget, List.drop_eq_getElem_cons hlt]
    simp
  | case2 i taken hi =>
    have hle : bs.data.toList.length ≤ i := Nat.le_of_not_lt hi
    rw [List.drop_eq_nil_of_le hle, List.append_nil]

/-- The octets of a string are those of its encoding. -/
theorem ofString_eq (s : String) : ofString s = s.toByteArray.data.toList := by
  rw [ofString, ByteArray.toList, loop_eq]
  rfl

theorem ofString_append (s t : String) : ofString (s ++ t) = ofString s ++ ofString t := by
  simp only [ofString_eq, String.toByteArray_append, ByteArray.toList_data_append]

/-- A string is read back from its encoding. -/
theorem string?_ofString (s : String) : (ofString s).string? = some s := by
  have hbytes : ByteArray.mk (ofString s).toArray = s.toByteArray := by
    rw [ofString_eq]
  rw [string?, String.fromUTF8?, hbytes, dif_pos s.isValidUTF8]
  rfl

/-- Different strings have different encodings. -/
theorem ofString_injective {s t : String} (h : ofString s = ofString t) : s = t := by
  have hread := congrArg string? h
  rw [string?_ofString, string?_ofString] at hread
  exact Option.some.inj hread

/-- The encoding of characters. -/
def ofChars (cs : List Char) : Octets :=
  ofString (String.ofList cs)

theorem ofChars_toList (s : String) : ofChars s.toList = ofString s := by
  rw [ofChars, String.ofList_toList]

theorem ofChars_append (cs ds : List Char) : ofChars (cs ++ ds) = ofChars cs ++ ofChars ds := by
  rw [ofChars, String.ofList_append, ofString_append]
  rfl

/-! ### ASCII strings -/

/-- A character of ASCII is encoded by one octet. -/
theorem utf8EncodeChar_of_lt {c : Char} (h : c.toNat < 128) :
    String.utf8EncodeChar c = [UInt8.ofNat c.toNat] :=
  if_pos (Nat.le_of_lt_succ h)

/-- An ASCII string is encoded character by character. -/
theorem ofString_of_ascii {s : String} (h : ∀ c ∈ s.toList, c.toNat < 128) :
    ofString s = s.toList.map fun c => UInt8.ofNat c.toNat := by
  rw [ofString_eq, ← String.utf8Encode_toList, List.utf8Encode, List.toList_data_toByteArray]
  generalize s.toList = cs at h
  induction cs with
  | nil => rfl
  | cons c cs ih =>
    rw [List.flatMap_cons, utf8EncodeChar_of_lt (h c List.mem_cons_self),
      ih fun d hd => h d (List.mem_cons_of_mem _ hd), List.map_cons, List.singleton_append]

theorem ofChars_nil : ofChars [] = [] :=
  ofString_of_ascii (by simp)

/-- A character of ASCII before others is its octet before theirs. -/
theorem ofChars_cons {c : Char} (h : c.toNat < 128) (cs : List Char) :
    ofChars (c :: cs) = UInt8.ofNat c.toNat :: ofChars cs := by
  have hc : ofChars [c] = [UInt8.ofNat c.toNat] := by
    rw [ofChars, ofString_of_ascii (by simpa using h)]
    simp
  rw [← List.singleton_append, ofChars_append, hc, List.singleton_append]

/-- Octets below 128 are ordered as their characters are. -/
theorem ofNat_lt_iff {c d : Char} (hc : c.toNat < 128) (hd : d.toNat < 128) :
    (UInt8.ofNat c.toNat < UInt8.ofNat d.toNat ↔ c < d) ∧
      (UInt8.ofNat c.toNat = UInt8.ofNat d.toNat ↔ c = d) := by
  have hlt : c < d ↔ c.toNat < d.toNat := by
    rw [Char.lt_def, UInt32.lt_iff_toNat_lt]
    rfl
  have hof : ∀ n < 128, (UInt8.ofNat n).toNat = n := fun n hn => Nat.mod_eq_of_lt (by omega)
  constructor
  · rw [UInt8.lt_iff_toNat_lt, hlt, hof _ hc, hof _ hd]
  · rw [← UInt8.toNat_inj, hof _ hc, hof _ hd]
    exact Char.toNat_inj

/-- The encodings of ASCII strings are ordered as the strings are. -/
theorem ofString_lt_iff {s t : String} (hs : ∀ c ∈ s.toList, c.toNat < 128)
    (ht : ∀ c ∈ t.toList, c.toNat < 128) : ofString s < ofString t ↔ s < t := by
  rw [ofString_of_ascii hs, ofString_of_ascii ht, String.lt_iff]
  generalize s.toList = cs at hs
  generalize t.toList = ds at ht
  induction cs generalizing ds with
  | nil => cases ds <;> simp
  | cons c cs ih =>
    cases ds with
    | nil => simp
    | cons d ds =>
      obtain ⟨hlt, heq⟩ := ofNat_lt_iff (hs c List.mem_cons_self) (ht d List.mem_cons_self)
      rw [List.map_cons, List.map_cons, List.cons_lt_cons_iff, List.cons_lt_cons_iff, hlt, heq,
        ih (fun x hx => hs x (List.mem_cons_of_mem _ hx)) ds
          fun x hx => ht x (List.mem_cons_of_mem _ hx)]

/-! ### Reading characters back -/

theorem tail_octet : ∀ k < 64, isTail (UInt8.ofNat (k + 128)) = true ∧
    (UInt8.ofNat (k + 128) &&& 0x3f).toNat = k := by
  decide

/-- What the first of several octets says: how many follow, the least code point, and its own bits. -/
def lead (a : UInt8) : Nat × Nat × Nat :=
  if a &&& 0xe0 == 0xc0 then (1, 0x80, (a &&& 0x1f).toNat)
  else if a &&& 0xf0 == 0xe0 then (2, 0x800, (a &&& 0x0f).toNat)
  else if a &&& 0xf8 == 0xf0 then (3, 0x10000, (a &&& 0x07).toNat)
  else (0, 1, 0)

theorem lead_of_two : ∀ k < 32,
    ¬ UInt8.ofNat (k + 192) < 0x80 ∧ lead (UInt8.ofNat (k + 192)) = (1, 0x80, k) := by
  decide

theorem lead_of_three : ∀ k < 16,
    ¬ UInt8.ofNat (k + 224) < 0x80 ∧ lead (UInt8.ofNat (k + 224)) = (2, 0x800, k) := by
  decide

theorem lead_of_four : ∀ k < 8,
    ¬ UInt8.ofNat (k + 240) < 0x80 ∧ lead (UInt8.ofNat (k + 240)) = (3, 0x10000, k) := by
  decide

/-- The tails of a character give six bits each. -/
theorem tails_octets {ks : List Nat} (h : ∀ k ∈ ks, k < 64) (start : Nat) (rest : Octets) :
    (((ks.map fun k => UInt8.ofNat (k + 128)) ++ rest).take ks.length).takeWhile isTail =
        (ks.map fun k => UInt8.ofNat (k + 128)) ∧
      (ks.map fun k => UInt8.ofNat (k + 128)).foldl addTail start =
        ks.foldl (fun n k => n * 64 + k) start := by
  induction ks generalizing start with
  | nil => simp
  | cons k ks ih =>
    obtain ⟨hk, hks⟩ := List.forall_mem_cons.mp h
    obtain ⟨htail, hbits⟩ := tail_octet k hk
    obtain ⟨htake, hfold⟩ := ih hks (start * 64 + k)
    constructor
    · rw [List.map_cons, List.cons_append, List.length_cons, List.take_succ_cons,
        List.takeWhile_cons_of_pos htail, htake]
    · rw [List.map_cons, List.foldl_cons, List.foldl_cons, addTail, hbits, hfold]

/-- A character that is encoded by several octets is read back. -/
theorem first?_of_lead {c : Char} {a : UInt8} {least start : Nat} {rest : Octets} (ks : List Nat)
    (ha : ¬ a < 0x80) (hlead : lead a = (ks.length, least, start)) (hne : ks.length ≠ 0)
    (hks : ∀ k ∈ ks, k < 64) (hc : ks.foldl (fun n k => n * 64 + k) start = c.toNat)
    (hleast : least ≤ c.toNat) :
    first? (a :: ((ks.map fun k => UInt8.ofNat (k + 128)) ++ rest)) = some (c, ks.length + 1) := by
  obtain ⟨htake, hfold⟩ := tails_octets hks start rest
  have hvalid : c.toNat.isValidChar := c.valid
  rw [lead] at hlead
  rw [first?, if_neg ha]
  simp only [hlead, htake, hfold, hc, List.length_map]
  rw [if_pos (by simp [hleast, hvalid, hne]), Char.ofNat_toNat]

/-- A character is read back from its encoding. -/
theorem first?_utf8EncodeChar (c : Char) (rest : Octets) :
    first? (String.utf8EncodeChar c ++ rest) = some (c, (String.utf8EncodeChar c).length) := by
  have hmax : c.toNat < 0x110000 := by
    rcases c.valid with h | h
    · exact Nat.lt_trans h (by decide)
    · exact h.2
  -- one case for each number of octets; the bits of the code point are put together again
  generalize ho : String.utf8EncodeChar c = o
  have hval : c.val.toNat = c.toNat := rfl
  simp only [String.utf8EncodeChar, hval] at ho
  split at ho
  · next h =>
    subst ho
    have hn : (UInt8.ofNat c.toNat).toNat = c.toNat := Nat.mod_eq_of_lt (by omega)
    have hlt : UInt8.ofNat c.toNat < 0x80 := by
      rw [UInt8.lt_iff_toNat_lt, hn]
      exact Nat.lt_succ_of_le h
    rw [List.singleton_append, first?, if_pos hlt, hn, Char.ofNat_toNat]
    rfl
  split at ho
  · subst ho
    obtain ⟨hhigh, hlead⟩ := lead_of_two (c.toNat / 64 % 32) (by omega)
    refine first?_of_lead [c.toNat % 64] hhigh hlead (Nat.succ_ne_zero _) ?_ ?_ (by omega)
    · simp; omega
    · simp; omega
  split at ho
  · subst ho
    obtain ⟨hhigh, hlead⟩ := lead_of_three (c.toNat / 4096 % 16) (by omega)
    refine first?_of_lead [c.toNat / 64 % 64, c.toNat % 64] hhigh hlead (Nat.succ_ne_zero _) ?_ ?_ (by omega)
    · simp; omega
    · simp; omega
  · subst ho
    obtain ⟨hhigh, hlead⟩ := lead_of_four (c.toNat / 262144 % 8) (by omega)
    refine first?_of_lead [c.toNat / 4096 % 64, c.toNat / 64 % 64, c.toNat % 64] hhigh hlead
      (Nat.succ_ne_zero _) ?_ ?_ (by omega)
    · simp; omega
    · simp; omega

theorem decodeSteps_encoded (stray : UInt8 → List Char) (cs : List Char) (fuel : Nat)
    (h : (cs.flatMap String.utf8EncodeChar).length ≤ fuel) :
    decodeSteps stray fuel (cs.flatMap String.utf8EncodeChar) = cs := by
  induction cs generalizing fuel with
  | nil => cases fuel <;> rfl
  | cons c cs ih =>
    have hfirst := first?_utf8EncodeChar c (cs.flatMap String.utf8EncodeChar)
    have hc : String.utf8EncodeChar c ≠ [] := by
      apply List.ne_nil_of_length_pos
      rw [String.length_utf8EncodeChar]
      exact c.utf8Size_pos
    obtain ⟨a, tail, ho⟩ := List.exists_cons_of_ne_nil hc
    rw [List.flatMap_cons, ho, List.cons_append] at h ⊢
    rw [ho, List.cons_append] at hfirst
    cases fuel with
    | zero => exact absurd h (Nat.not_succ_le_zero _)
    | succ fuel =>
      have hdrop : (tail ++ cs.flatMap String.utf8EncodeChar).drop ((a :: tail).length - 1) =
          cs.flatMap String.utf8EncodeChar := List.drop_left' rfl
      rw [decodeSteps, hfirst]
      simp only [hdrop]
      rw [ih]
      rw [List.length_cons, List.length_append] at h
      omega

theorem isPrefix_of_encoded {cs ds : List Char}
    (h : cs.flatMap String.utf8EncodeChar <+: ds.flatMap String.utf8EncodeChar) : cs <+: ds := by
  induction cs generalizing ds with
  | nil => exact List.nil_prefix
  | cons c cs ih =>
    obtain ⟨tail, htail⟩ := h
    have hc := first?_utf8EncodeChar c (cs.flatMap String.utf8EncodeChar ++ tail)
    rw [List.flatMap_cons, List.append_assoc] at htail
    rw [htail] at hc
    cases ds with
    | nil => cases hc
    | cons d ds =>
      -- Both texts are the same octets, so they have the same first character.
      have hd := first?_utf8EncodeChar d (ds.flatMap String.utf8EncodeChar)
      rw [← List.flatMap_cons, hc] at hd
      obtain ⟨rfl, -⟩ := Prod.mk.inj (Option.some.inj hd)
      rw [List.flatMap_cons, List.append_cancel_left_eq] at htail
      exact List.cons_prefix_cons.mpr ⟨rfl, ih ⟨tail, htail⟩⟩

/-- A text whose encoding begins with that of another begins with the other. -/
theorem isPrefix_of_ofString {s t : String} (h : ofString s <+: ofString t) : s.toList <+: t.toList := by
  rw [ofString_eq, ofString_eq, ← String.utf8Encode_toList, ← String.utf8Encode_toList, List.utf8Encode,
    List.utf8Encode, List.toList_data_toByteArray, List.toList_data_toByteArray] at h
  exact isPrefix_of_encoded h

/-- The characters of a string are read back from its encoding. -/
theorem decode_ofString (stray : UInt8 → List Char) (s : String) :
    (ofString s).decode stray = s.toList := by
  rw [decode, ofString_eq, ← String.utf8Encode_toList, List.utf8Encode, List.toList_data_toByteArray]
  exact decodeSteps_encoded stray s.toList _ (Nat.le_refl _)

end Bindery.Octets
