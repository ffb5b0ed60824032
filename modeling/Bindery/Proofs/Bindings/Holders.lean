import Bindery.Proofs.Bindings.TypeOrder

/-!
# Which holders are named for their object types

The holder of a field's arguments is named for the field alone, unless another object type has a field with
the same identifier that takes arguments too. Which identifiers these are is found by counting, over all
entries of the list of types: an entry counts once, however many of its fields have the identifier, and
entries that are empty, of another kind or of introspection itself do not count.

## Main definitions

- `HasHolder` — a field that takes arguments, of an object type at a place of the list
- `Settings.qualifies` — whether the holder of a field is named for its object type

## Main results

- `one_lt_count_flatMap_iff` — what is counted twice comes from two places
- `mem_sharedArgs_iff_entries` — an identifier is shared exactly if two entries have a field with it
- `holders_qualified_when_shared` — which holders are named for their object types
-/

namespace Bindery

/-- The entry at the place `i` is an object type that does not belong to introspection itself, and `f` is
one of its fields and takes arguments. -/
structure HasHolder (types : List (Option FullType)) (i : Nat) (t : FullType) (f : FieldValue) : Prop where
  /-- The type is at its place. -/
  entry : types[i]? = some (some t)
  /-- The type is an object. -/
  kind : t.kind = .object
  /-- The type has bindings. -/
  own : isReserved t.name = false
  /-- The field takes arguments. -/
  field : f ∈ t.argumentFields

/-- Whether the holder of a field's arguments is named for the object type as well. -/
def Settings.qualifies (s : Settings) (field : String) : Bool :=
  s.qualifyArgs || s.shared.contains (Naming.identifier field)

theorem Settings.holderName_eq (s : Settings) (owner field : String) :
    s.holderName owner field = (if s.qualifies field then Naming.identifier owner else "") ++
      Naming.identifier field ++ "Args" := by
  have hname : s.holderName owner field =
      if s.qualifies field then Naming.identifier owner ++ Naming.identifier field ++ "Args"
      else Naming.identifier field ++ "Args" := rfl
  rw [hname]
  cases s.qualifies field <;> simp

/-! ### Counting identifiers -/

theorem nodup_eraseDups {α : Type} [BEq α] [LawfulBEq α] (l : List α) : l.eraseDups.Nodup := by
  cases l with
  | nil => simp
  | cons a rest =>
    rw [List.eraseDups_cons, List.nodup_cons]
    exact ⟨by simp [List.mem_eraseDups], nodup_eraseDups _⟩
termination_by l.length
decreasing_by exact Nat.lt_succ_of_le (List.length_filter_le _ _)

/-- An element is counted twice exactly if it comes from two places, where no place has it twice. -/
theorem one_lt_count_flatMap_iff {α β : Type} [BEq β] [LawfulBEq β] {f : α → List β}
    (hf : ∀ a, (f a).Nodup) {l : List α} {b : β} :
    1 < (l.flatMap f).count b ↔
      ∃ (i j : Nat) (x y : α), i < j ∧ l[i]? = some x ∧ l[j]? = some y ∧ b ∈ f x ∧ b ∈ f y := by
  induction l with
  | nil => simp
  | cons a rest ih =>
    -- the first place counts at most once, so two counts are one there and one later, or two later
    have hcount : ((a :: rest).flatMap f).count b =
        (if b ∈ f a then 1 else 0) + (rest.flatMap f).count b := by
      rw [List.flatMap_cons, List.count_append, (hf a).count]
    have hmem : 0 < (rest.flatMap f).count b ↔ ∃ (j : Nat) (y : α), rest[j]? = some y ∧ b ∈ f y := by
      rw [List.count_pos_iff, List.mem_flatMap]
      constructor
      · rintro ⟨y, hy, hb⟩
        obtain ⟨j, hj⟩ := List.mem_iff_getElem?.mp hy
        exact ⟨j, y, hj, hb⟩
      · rintro ⟨j, y, hj, hb⟩
        exact ⟨y, List.mem_of_getElem? hj, hb⟩
    rw [hcount]
    constructor
    · intro h
      by_cases ha : b ∈ f a
      · rw [if_pos ha] at h
        obtain ⟨j, y, hj, hy⟩ := hmem.mp (by omega)
        exact ⟨0, j + 1, a, y, by omega, rfl, hj, ha, hy⟩
      · rw [if_neg ha, Nat.zero_add] at h
        obtain ⟨i, j, x, y, hlt, hi, hj, hx, hy⟩ := ih.mp h
        exact ⟨i + 1, j + 1, x, y, by omega, hi, hj, hx, hy⟩
    · rintro ⟨i, j, x, y, hlt, hi, hj, hx, hy⟩
      obtain ⟨j, rfl⟩ : ∃ k, j = k + 1 := ⟨j - 1, by omega⟩
      cases i with
      | zero =>
        obtain rfl : a = x := Option.some.inj hi
        have hrest := hmem.mpr ⟨j, y, hj, hy⟩
        rw [if_pos hx]
        omega
      | succ i =>
        have hrest := ih.mpr ⟨i, j, x, y, by omega, hi, hj, hx, hy⟩
        omega

theorem nodup_argIdentifiers (t : FullType) : t.argIdentifiers.Nodup := by
  unfold FullType.argIdentifiers
  split
  · exact List.nodup_nil
  · exact nodup_eraseDups _

theorem mem_argIdentifiers_iff {t : FullType} {ident : String} :
    ident ∈ t.argIdentifiers ↔ t.kind = .object ∧ isReserved t.name = false ∧
      ∃ f ∈ t.argumentFields, Naming.identifier f.name = ident := by
  unfold FullType.argIdentifiers
  split
  · next hnone =>
    refine iff_of_false (by simp) ?_
    rintro ⟨hkind, hown, -⟩
    simp [hkind, hown] at hnone
  · next hobject =>
    simp only [Bool.or_eq_true, bne_iff_ne, ne_eq, not_or, not_not, Bool.not_eq_true] at hobject
    rw [List.mem_eraseDups, List.mem_map]
    simp only [hobject, true_and]
    rfl

theorem argIdents_eq_flatMap (types : List (Option FullType)) :
    argIdents types = types.flatMap fun entry => entry.elim [] FullType.argIdentifiers := by
  induction types with
  | nil => rfl
  | cons entry rest ih =>
    rw [List.flatMap_cons, ← ih]
    cases entry <;> rfl

/-- An identifier is shared exactly if two different entries of the list have a field with it that takes
arguments. -/
theorem mem_sharedArgs_iff_entries {types : List (Option FullType)} {ident : String} :
    ident ∈ sharedArgs types ↔
      ∃ i j t u f g, i ≠ j ∧ HasHolder types i t f ∧ HasHolder types j u g ∧
        Naming.identifier f.name = ident ∧ Naming.identifier g.name = ident := by
  have hnodup : ∀ entry : Option FullType, (entry.elim [] FullType.argIdentifiers).Nodup := by
    intro entry
    cases entry with
    | none => exact List.nodup_nil
    | some t => exact nodup_argIdentifiers t
  have hentry : ∀ {i : Nat} {entry : Option FullType}, types[i]? = some entry →
      ident ∈ entry.elim [] FullType.argIdentifiers →
        ∃ t f, HasHolder types i t f ∧ Naming.identifier f.name = ident := by
    intro i entry hi hident
    cases entry with
    | none => cases hident
    | some t =>
      obtain ⟨hkind, hown, f, hf, rfl⟩ := mem_argIdentifiers_iff.mp hident
      exact ⟨t, f, ⟨hi, hkind, hown, hf⟩, rfl⟩
  rw [mem_sharedArgs_iff, argIdents_eq_flatMap, one_lt_count_flatMap_iff hnodup]
  constructor
  · rintro ⟨i, j, x, y, hlt, hi, hj, hx, hy⟩
    obtain ⟨t, f, ht, hf⟩ := hentry hi hx
    obtain ⟨u, g, hu, hg⟩ := hentry hj hy
    exact ⟨i, j, t, u, f, g, Nat.ne_of_lt hlt, ht, hu, hf, hg⟩
  · rintro ⟨i, j, t, u, f, g, hne, ht, hu, rfl, hg⟩
    have hft := mem_argIdentifiers_iff.mpr ⟨ht.kind, ht.own, f, ht.field, rfl⟩
    have hgu := mem_argIdentifiers_iff.mpr ⟨hu.kind, hu.own, g, hu.field, hg⟩
    rcases Nat.lt_or_gt_of_ne hne with hlt | hgt
    · exact ⟨i, j, some t, some u, hlt, ht.entry, hu.entry, hft, hgu⟩
    · exact ⟨j, i, some u, some t, hgt, hu.entry, ht.entry, hgu, hft⟩

/-! ### Names of holders -/

/-- Without the setting that names all holders for their object types, a holder is named for its type exactly
if the field of another entry has the same identifier and takes arguments. -/
theorem qualifies_iff_entry {resolver : Resolver} {schema : Schema} {i : Nat} {t : FullType}
    {f : FieldValue} (h : HasHolder schema.types.toList i t f) :
    (settingsOf resolver false schema).qualifies f.name = true ↔
      ∃ j u g, j ≠ i ∧ HasHolder schema.types.toList j u g ∧
        Naming.identifier g.name = Naming.identifier f.name := by
  have hshared : (settingsOf resolver false schema).qualifies f.name = true ↔
      Naming.identifier f.name ∈ sharedArgs schema.types.toList := by
    simp [Settings.qualifies, settingsOf]
  rw [hshared, mem_sharedArgs_iff_entries]
  constructor
  · -- of two entries that have the identifier, one is another one than this
    rintro ⟨j, k, u, v, g, g', hne, hu, hv, hg, hg'⟩
    by_cases hj : j = i
    · exact ⟨k, v, g', fun hk => hne (hj.trans hk.symm), hv, hg'⟩
    · exact ⟨j, u, g, hj, hu, hg⟩
  · rintro ⟨j, u, g, hne, hu, hg⟩
    exact ⟨j, i, u, t, g, f, hne, hu, h, hg, rfl⟩

/-- In a rendered schema the fragment of an object declares the holder of each field that takes arguments. -/
theorem exists_holder_of_render {resolver : Resolver} {qualifyArgs : Bool} {package : String}
    {schema : Schema} {fragments : List Fragment}
    (h : render resolver qualifyArgs package schema = .ok fragments) {i : Nat} {t : FullType}
    {f : FieldValue} (hf : HasHolder schema.types.toList i t f) :
    ∃ fragment ∈ fragments, fragment.name = t.name ∧ ∃ doc members,
      .inputs doc ((settingsOf resolver qualifyArgs schema).holderName t.name f.name) members ∈
        fragment.decls := by
  have hvalue : t ∈ schema.types.values := by
    simpa [Entries.values] using List.mem_of_getElem? hf.entry
  have ht : t ∈ schema.ownTypes := Schema.mem_ownTypes.mpr ⟨hvalue, hf.own⟩
  obtain ⟨⟨name, decls⟩, hfragment, hname, hrenders⟩ :=
    exists_of_mem_left (fragments_of_render h) ht
  refine ⟨_, hfragment, hname, ?_⟩
  have hkind := hf.kind
  cases hrenders with
  | object _ hholders _ =>
    obtain ⟨d, hd, members, -, rfl⟩ := exists_of_mem_left hholders hf.field
    exact ⟨_, members, List.mem_append_left _ (List.mem_append_left _ hd)⟩
  | inputObject hother | enum hother | boundScalar hother | scalar hother =>
    rw [hother] at hkind
    cases hkind

/-- Holders are named for their object types exactly where it is needed. An identifier is shared if two
different entries of the list of types have a field with it that takes arguments. So, unless all holders are
named for their types, one is if and only if another entry has a field with the same identifier that takes
arguments, no two holders of different entries that are named for their fields alone have one name, and these
are the names under which rendering declares the holders. -/
theorem holders_qualified_when_shared (resolver : Resolver) (schema : Schema) :
    (∀ (types : List (Option FullType)) (ident : String), ident ∈ sharedArgs types ↔
      ∃ i j t u f g, i ≠ j ∧ HasHolder types i t f ∧ HasHolder types j u g ∧
        Naming.identifier f.name = ident ∧ Naming.identifier g.name = ident) ∧
    ∀ i t f, HasHolder schema.types.toList i t f →
      (settingsOf resolver false schema).holderName t.name f.name =
        (if (settingsOf resolver false schema).qualifies f.name then Naming.identifier t.name else "") ++
          Naming.identifier f.name ++ "Args" ∧
      ((settingsOf resolver false schema).qualifies f.name = true ↔
        ∃ j u g, j ≠ i ∧ HasHolder schema.types.toList j u g ∧
          Naming.identifier g.name = Naming.identifier f.name) ∧
      (∀ j u g, j ≠ i → HasHolder schema.types.toList j u g →
        (settingsOf resolver false schema).qualifies f.name = false →
        (settingsOf resolver false schema).qualifies g.name = false →
          (settingsOf resolver false schema).holderName t.name f.name ≠
            (settingsOf resolver false schema).holderName u.name g.name) ∧
      ∀ package fragments, render resolver false package schema = .ok fragments →
        ∃ fragment ∈ fragments, fragment.name = t.name ∧ ∃ doc members,
          .inputs doc ((settingsOf resolver false schema).holderName t.name f.name) members ∈
            fragment.decls := by
  refine ⟨fun _ _ => mem_sharedArgs_iff_entries, ?_⟩
  intro i t f hf
  refine ⟨Settings.holderName_eq _ _ _, qualifies_iff_entry hf, ?_, ?_⟩
  · intro j u g hne hg hplain hplain' heq
    rw [Settings.holderName_eq, Settings.holderName_eq, hplain, hplain'] at heq
    have hident : Naming.identifier g.name = Naming.identifier f.name := by
      simpa using heq.symm
    rw [(qualifies_iff_entry hf).mpr ⟨j, u, g, hne, hg, hident⟩] at hplain
    cases hplain
  · exact fun package fragments h => exists_holder_of_render h hf

/-- A field of strings that takes one argument. -/
def stringField (name arg : String) : FieldValue :=
  { (default : FieldValue) with
    name := name
    type := .plain .scalar (some "String")
    args := some [some { (default : InputValue) with
      name := arg
      type := .plain .scalar (some "String") }] }

/-- An object type with fields of strings that take one argument each. -/
def stringObject (name : String) (fields : List (String × String)) : FullType :=
  { (default : FullType) with
    kind := .object
    name? := some name
    fields := some (fields.map fun f => some (stringField f.1 f.2)) }

/-- The container of an image, which lists a field twice. -/
def containerType : FullType :=
  stringObject "Container" [("file", "path"), ("exec", "args"), ("exec", "args")]

/-- A directory in an image, with a field whose name differs from one of the container in a capital letter. -/
def directoryType : FullType :=
  stringObject "Directory" [("File", "path")]

/-- Containers and directories, with a type of introspection between them. -/
def imageSchema : Schema :=
  { (default : Schema) with
    types := some [some containerType, some (stringObject "__Type" [("exec", "args")]),
      some directoryType] }

/-- The settings for images. -/
def imageSettings : Settings :=
  settingsOf ⟨Resolver.builtin⟩ false imageSchema

/-- The holders of the field that both types have are named for their types, and that of the other field is
not, although it is listed twice. -/
theorem imageSchema_holders :
    HasHolder imageSchema.types.toList 0 containerType (stringField "file" "path") ∧
      HasHolder imageSchema.types.toList 2 directoryType (stringField "File" "path") ∧
      imageSettings.qualifies "file" = true ∧
      imageSettings.holderName "Container" "file" = "ContainerFileArgs" ∧
      imageSettings.qualifies "exec" = false ∧
      imageSettings.holderName "Container" "exec" = "ExecArgs" ∧
      ∃ fragments, render ⟨Resolver.builtin⟩ false "gen" imageSchema = .ok fragments ∧
        ∃ fragment ∈ fragments, fragment.name = "Container" ∧ ∃ doc members,
          .inputs doc "ContainerFileArgs" members ∈ fragment.decls := by
  have hfile : HasHolder imageSchema.types.toList 0 containerType (stringField "file" "path") :=
    ⟨rfl, rfl, by decide, by decide⟩
  have hother : HasHolder imageSchema.types.toList 2 directoryType (stringField "File" "path") :=
    ⟨rfl, rfl, by decide, by decide⟩
  have hexec : HasHolder imageSchema.types.toList 0 containerType (stringField "exec" "args") :=
    ⟨rfl, rfl, by decide, by decide⟩
  have hresult := (holders_qualified_when_shared ⟨Resolver.builtin⟩ imageSchema).2
  obtain ⟨hname, hiff, -, hrendered⟩ := hresult _ _ _ hfile
  have hqualifies := hiff.mpr ⟨2, _, _, by decide, hother, by decide +kernel⟩
  have hholder : imageSettings.holderName "Container" "file" = "ContainerFileArgs" := by
    rw [if_pos hqualifies] at hname
    exact hname.trans (by decide +kernel)
  have hplain : imageSettings.qualifies "exec" = false := by decide +kernel
  have hplainHolder : imageSettings.holderName "Container" "exec" = "ExecArgs" := by
    refine (hresult _ _ _ hexec).1.trans ?_
    show (if imageSettings.qualifies "exec" = true then _ else _) ++ _ ++ _ = _
    rw [hplain]
    decide +kernel
  have hsome : (render ⟨Resolver.builtin⟩ false "gen" imageSchema).toOption.map List.length =
      some 2 := by
    decide +kernel
  obtain ⟨fragments, hrender, -⟩ := exists_ok_of_toOption hsome
  obtain ⟨fragment, hfragment, hfname, doc, members, hdecl⟩ := hrendered "gen" fragments hrender
  refine ⟨hfile, hother, hqualifies, hholder, hplain, hplainHolder, fragments, hrender, fragment,
    hfragment, hfname, doc, members, ?_⟩
  rw [← hholder]
  exact hdecl

end Bindery
