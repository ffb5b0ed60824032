import Bindery.Proofs.Json.Decoding

/-!
# Values written as JSON

A value can be written as JSON in many ways: the members of an object may stand in any order, and members
that mean nothing may stand among them. A form says which JSON values write a value. A decoder undoes a form if
it gets back the value from each of them, whatever was there before.

## Main definitions

- `Json.IsString`, `Json.IsBool`, `Json.IsOption`, `Json.IsList`, `Json.IsRecord` — forms
- `Json.Undoes` — a decoder gets back what was written in a form
- `Json.Describes` — the parts of a record, each with its form and with what its decoder does to the record

## Main results

- `Json.Undoes.option`, `Json.Undoes.list` — options and lists are got back if their contents are
- `Json.undoes_decodeRecord` — records are got back if their parts are
-/

namespace Bindery.Json

/-! ### Forms -/

/-- A text is written as a string. -/
def IsString (s : String) (j : Json) : Prop :=
  j = .string s

/-- A truth value is written as one. -/
def IsBool (b : Bool) (j : Json) : Prop :=
  j = .bool b

/-- What is missing is written as null. -/
def IsOption {α : Type} (form : α → Json → Prop) : Option α → Json → Prop
  | none, j => j = .null
  | some a, j => form a j

/-- A list is written as an array of its entries, and a list that is missing as null. -/
def IsList {α : Type} (form : α → Json → Prop) : Option (List α) → Json → Prop
  | none, j => j = .null
  | some as, j => ∃ items, j = .array items ∧ List.Forall₂ form as items

/-- A record is written as an object with a member for each of its parts. The members stand in any order,
have distinct names, and members with other names may stand among them. -/
def IsRecord (parts : List (String × (Json → Prop))) (j : Json) : Prop :=
  ∃ members, j = .object members ∧ (members.map Prod.fst).Nodup ∧
    ∀ part ∈ parts, ∃ v, (part.1, v) ∈ members ∧ part.2 v

theorem IsRecord.ne_null {parts : List (String × (Json → Prop))} {j : Json} (h : IsRecord parts j) :
    j ≠ .null := by
  obtain ⟨members, rfl, -⟩ := h
  exact nofun

/-- An object that has the members of a record writes it. -/
theorem IsRecord.superset {parts : List (String × (Json → Prop))}
    {members more : List (String × Json)} (h : IsRecord parts (.object members))
    (hsubset : members ⊆ more) (hdistinct : (more.map Prod.fst).Nodup) :
    IsRecord parts (.object more) := by
  obtain ⟨_, hmembers, -, hparts⟩ := h
  cases hmembers
  refine ⟨more, rfl, hdistinct, fun part hpart => ?_⟩
  obtain ⟨v, hv, hform⟩ := hparts part hpart
  exact ⟨v, hsubset hv, hform⟩

/-- An object that has exactly the members of a record, in their order, writes it. -/
theorem isRecord_of_forall₂ {parts : List (String × (Json → Prop))} {members : List (String × Json)}
    (h : List.Forall₂ (fun part m => part.1 = m.1 ∧ part.2 m.2) parts members)
    (hdistinct : (members.map Prod.fst).Nodup) : IsRecord parts (.object members) := by
  refine ⟨members, rfl, hdistinct, fun part hpart => ?_⟩
  clear hdistinct
  induction h with
  | nil => cases hpart
  | cons hm _ ih =>
    rcases List.mem_cons.mp hpart with rfl | hpart
    · exact ⟨_, hm.1 ▸ List.mem_cons_self, hm.2⟩
    · obtain ⟨v, hv, hform⟩ := ih hpart
      exact ⟨v, List.mem_cons_of_mem _ hv, hform⟩

/-! ### Decoders that undo a form -/

/-- The decoder gets back what was written in the form. -/
structure Undoes {α : Type} (d : Decoder α) (form : α → Json → Prop) : Prop where
  faithful : Faithful d
  gives : ∀ a j, form a j → ∀ former, onJson d former j = some a

theorem undoes_decodeString : Undoes decodeString IsString where
  faithful := faithful_decodeString
  gives := by
    rintro s _ rfl former
    exact congrFun (onJson_of_meaning (g := fun _ => stringOn) toOption_decodeString former) _

theorem undoes_decodeBool : Undoes decodeBool IsBool where
  faithful := faithful_decodeBool
  gives := by
    rintro b _ rfl former
    exact congrFun (onJson_of_meaning (g := fun _ => boolOn) toOption_decodeBool former) _

theorem optionOn_of_ne_null {α : Type} {f : Json → Option α} {j : Json} (h : j ≠ .null) :
    optionOn f j = (f j).map some := by
  cases j with
  | null => exact absurd rfl h
  | _ => rfl

section Contents

variable {α : Type} [Inhabited α] {d : Decoder α} {form : α → Json → Prop} (h : Undoes d form)
include h

theorem Undoes.option (hnull : ∀ a, ¬ form a .null) : Undoes (decodeOption d) (IsOption form) where
  faithful := faithful_decodeOption h.faithful
  gives := by
    intro o j hform former
    rw [onJson_decodeOption h.faithful]
    cases o with
    | none =>
      obtain rfl : j = .null := hform
      rfl
    | some a =>
      have hj : j ≠ .null := by
        rintro rfl
        exact hnull a hform
      rw [optionOn_of_ne_null hj, h.gives a j hform]
      rfl

theorem mapM_onJson {as : List α} {items : List Json} (hforms : List.Forall₂ form as items) :
    items.mapM (onJson d default) = some as := by
  induction hforms with
  | nil => rfl
  | cons hform _ ih =>
    rw [List.mapM_cons, h.gives _ _ hform, ih]
    rfl

theorem Undoes.list : Undoes (decodeList d) (IsList form) where
  faithful := faithful_decodeList h.faithful
  gives := by
    intro o j hform former
    rw [onJson_decodeList h.faithful]
    cases o with
    | none =>
      obtain rfl : j = .null := hform
      rfl
    | some as =>
      obtain ⟨items, rfl, hforms⟩ := hform
      rw [listOn, mapM_onJson h hforms]
      rfl

end Contents

/-! ### Records -/

/-- What decoding one part of a record does: it makes the part the same as in another record. -/
structure Effect (α : Type) where
  /-- The name of the part. -/
  name : String
  /-- Takes over the part. -/
  put : α → α
  /-- The part is the same. -/
  Same : α → Prop

/-- The parts of the record `a`, each with its decoder, with its form and with what decoding it does. -/
inductive Describes {α : Type} (a : α) :
    List (Member α) → List (String × (Json → Prop)) → List (Effect α) → Prop
  | nil : Describes a [] [] []
  | cons {β : Type} {name : String} {get : α → β} {set : β → α → α} {d : Decoder β}
      {form : β → Json → Prop} {known : List (Member α)} {parts : List (String × (Json → Prop))}
      {effects : List (Effect α)} (hd : Undoes d form) (hset : ∀ b x, get (set b x) = b)
      (rest : Describes a known parts effects) :
      Describes a (.of name get set d :: known) ((name, form (get a)) :: parts)
        (⟨name, set (get a), fun x => get x = get a⟩ :: effects)

/-- Taking over one part of a record leaves alone the other parts that have been taken over. -/
def Independent {α : Type} (effects : List (Effect α)) : Prop :=
  ∀ e ∈ effects, ∀ e' ∈ effects, ∀ x, e'.Same x → e'.Same (e.put x)

section Describes

variable {α : Type} {a : α} {known : List (Member α)} {parts : List (String × (Json → Prop))}
  {effects : List (Effect α)} (h : Describes a known parts effects)
include h

theorem Describes.faithful : ∀ k ∈ known, Faithful k.decode := by
  induction h with
  | nil => exact nofun
  | cons hd _ _ ih => exact List.forall_mem_cons.mpr ⟨faithful_member hd.faithful _ _ _, ih⟩

theorem Describes.names : effects.map Effect.name = parts.map Prod.fst := by
  induction h with
  | nil => rfl
  | cons _ _ _ ih => rw [List.map_cons, List.map_cons, ih]

/-- A member takes over the part of its name, and changes nothing if there is none. -/
theorem Describes.memberOn (hdistinct : (parts.map Prod.fst).Nodup) {name : String} {v : Json}
    (hform : ∀ part ∈ parts, part.1 = name → part.2 v) (former : α) :
    ∃ next, memberOn known former (name, v) = some next ∧
      (next = former ∨ ∃ e ∈ effects, next = e.put former) ∧
      ∀ e ∈ effects, e.name = name → e.Same next := by
  induction h with
  | nil => exact ⟨former, rfl, .inl rfl, nofun⟩
  | @cons β first get set d form known parts effects hd hset rest ih =>
    obtain ⟨hfirst, hothers⟩ := List.nodup_cons.mp hdistinct
    by_cases hname : first = name
    · subst hname
      refine ⟨set (get a) former, ?_, .inr ⟨_, List.mem_cons_self, rfl⟩, ?_⟩
      · -- the member is the first that is known by this name
        have hfind : (Member.of first get set d :: known).find? (·.name == first) =
            some (Member.of first get set d) := List.find?_cons_of_pos (beq_self_eq_true first)
        have hv : form (get a) v := hform _ List.mem_cons_self rfl
        rw [Json.memberOn, hfind]
        exact (onJson_member hd.faithful _ _ _ _ _).trans (by rw [hd.gives _ _ hv]; rfl)
      · intro e he hsame
        rcases List.mem_cons.mp he with rfl | he
        · exact hset _ _
        · -- no other part has this name
          refine absurd ?_ hfirst
          rw [← rest.names, ← hsame]
          exact List.mem_map_of_mem he
    · obtain ⟨next, hnext, hput, hsame⟩ :=
        ih hothers fun part hpart => hform part (List.mem_cons_of_mem _ hpart)
      refine ⟨next, ?_, ?_, ?_⟩
      · have hfind : (Member.of first get set d :: known).find? (·.name == name) =
            known.find? (·.name == name) := List.find?_cons_of_neg (by simpa [Member.of] using hname)
        rw [← hnext, Json.memberOn, Json.memberOn, hfind]
      · rcases hput with rfl | ⟨e, he, rfl⟩
        · exact .inl rfl
        · exact .inr ⟨e, List.mem_cons_of_mem _ he, rfl⟩
      · intro e he hsame'
        rcases List.mem_cons.mp he with rfl | he
        · exact absurd hsame' hname
        · exact hsame e he hsame'

/-- The members of an object take over the parts of their names, and keep those that have been taken
over. -/
theorem Describes.foldlM_memberOn (hdistinct : (parts.map Prod.fst).Nodup)
    (hindependent : Independent effects) {members : List (String × Json)}
    (hforms : ∀ m ∈ members, ∀ part ∈ parts, part.1 = m.1 → part.2 m.2) (former : α) :
    ∃ x, members.foldlM (Json.memberOn known) former = some x ∧
      ∀ e ∈ effects, e.Same former ∨ e.name ∈ members.map Prod.fst → e.Same x := by
  induction members generalizing former with
  | nil => exact ⟨former, rfl, fun e _ hsame => hsame.resolve_right List.not_mem_nil⟩
  | cons m rest ih =>
    obtain ⟨hm, hrest⟩ := List.forall_mem_cons.mp hforms
    obtain ⟨next, hnext, hput, htaken⟩ := h.memberOn hdistinct hm former
    obtain ⟨x, hx, hsame⟩ := ih hrest next
    refine ⟨x, ?_, ?_⟩
    · rw [List.foldlM_cons, hnext]
      exact hx
    · intro e he hformer
      apply hsame e he
      rcases hformer with hformer | hname
      · -- a part that has been taken over stays
        left
        rcases hput with rfl | ⟨e', he', rfl⟩
        · exact hformer
        · exact hindependent e' he' e he former hformer
      · rcases List.mem_cons.mp hname with hname | hname
        · exact .inl (htaken e he hname)
        · exact .inr hname

end Describes

/-- The value of a member is determined by its name. -/
theorem eq_of_mem_members {members : List (String × Json)} (h : (members.map Prod.fst).Nodup)
    {name : String} {v w : Json} (hv : (name, v) ∈ members) (hw : (name, w) ∈ members) : v = w :=
  congrArg Prod.snd (List.inj_on_of_nodup_map h hv hw rfl)

/-- A decoder of records gets back a record if the decoders of its parts do. -/
theorem undoes_decodeRecord {α : Type} [Inhabited α] {known : List (Member α)}
    {parts : α → List (String × (Json → Prop))} {effects : α → List (Effect α)}
    (h : ∀ a, Describes a known (parts a) (effects a))
    (hdistinct : ∀ a, ((parts a).map Prod.fst).Nodup) (hindependent : ∀ a, Independent (effects a))
    (hsame : ∀ a x, (∀ e ∈ effects a, e.Same x) → x = a) :
    Undoes (decodeRecord known) fun a => IsRecord (parts a) where
  faithful := faithful_decodeRecord (h default).faithful
  gives := by
    rintro a _ ⟨members, rfl, hnames, hparts⟩ former
    have hforms : ∀ m ∈ members, ∀ part ∈ parts a, part.1 = m.1 → part.2 m.2 := by
      rintro ⟨name, v⟩ hm part hpart rfl
      obtain ⟨w, hw, hform⟩ := hparts part hpart
      rwa [eq_of_mem_members hnames hm hw]
    obtain ⟨x, hx, htaken⟩ := (h a).foldlM_memberOn (hdistinct a) (hindependent a) hforms former
    have hxa : x = a := by
      refine hsame a x fun e he => htaken e he (.inr ?_)
      have hname : e.name ∈ (parts a).map Prod.fst := by
        rw [← (h a).names]
        exact List.mem_map_of_mem he
      obtain ⟨part, hpart, hpartname⟩ := List.mem_map.mp hname
      obtain ⟨v, hv, -⟩ := hparts part hpart
      rw [← hpartname]
      exact List.mem_map_of_mem hv
    rw [onJson_decodeRecord (h default).faithful, recordOn, hx, hxa]

/-- Members that no part is named after change nothing. -/
theorem foldlM_memberOn_unknown {α : Type} {known : List (Member α)} {members : List (String × Json)}
    (h : ∀ m ∈ members, ∀ k ∈ known, k.name ≠ m.1) (former : α) :
    members.foldlM (memberOn known) former = some former := by
  induction members with
  | nil => rfl
  | cons m rest ih =>
    obtain ⟨hm, hrest⟩ := List.forall_mem_cons.mp h
    have hfind : known.find? (·.name == m.1) = none := by
      rw [List.find?_eq_none]
      intro k hk
      simpa using hm k hk
    have hfirst : memberOn known former m = some former := by rw [memberOn, hfind]
    rw [List.foldlM_cons, hfirst]
    exact ih hrest

end Bindery.Json
