import Bindery.Naming.Scope
import Mathlib.Data.List.Nodup

/-!
# Runs of declarations in a scope

A scope takes declarations one after the other and refuses the first one whose identifier belongs to
another name. A run of declarations that begins in an empty scope succeeds exactly if every identifier
in it stands for one name, and a run that fails reports two declarations of the run.

## Main definitions

- `Scope.declareAll` — a run of declarations, up to the first collision
- `Scope.check` — the run of all declarations of a scope, beginning with none
- `Scope.Agrees` — every identifier of the scope stands for one name
- `Scope.Distinct` — no two declarations of the scope have one identifier

## Main results

- `Scope.check_ok_iff` — the declarations of a scope can be made exactly if they agree
- `Scope.check_error` — a collision is one of two declarations of the scope
- `Scope.agrees_iff_distinct` — agreement is distinctness where no name is declared twice
-/

namespace Bindery.Scope

/-- Claims identifiers one after the other, each for its name, up to the first collision. -/
def declareAll (s : Scope) : List (String × String) → Except Collision Scope
  | [] => .ok s
  | (ident, name) :: rest =>
    match s.declare ident name with
    | .ok s => s.declareAll rest
    | .error c => .error c

/-- Makes all declarations of a scope anew. -/
def check (s : Scope) : Except Collision Scope :=
  (empty s.label).declareAll s.names

/-- Every identifier of the scope stands for one name. -/
def Agrees (s : Scope) : Prop :=
  ∀ d ∈ s.names, ∀ e ∈ s.names, d.1 = e.1 → d.2 = e.2

/-- No two declarations of the scope have one identifier. -/
def Distinct (s : Scope) : Prop :=
  (s.names.map Prod.fst).Nodup

instance (s : Scope) : Decidable s.Agrees :=
  inferInstanceAs (Decidable (∀ d ∈ s.names, ∀ e ∈ s.names, d.1 = e.1 → d.2 = e.2))

instance (s : Scope) : Decidable s.Distinct :=
  inferInstanceAs (Decidable (List.Nodup _))

/-! ### One declaration -/

/-- After a declaration its identifier belongs to its name, and the others to whom they belonged. -/
theorem owner?_of_declare {s s' : Scope} {ident name : String}
    (h : s.declare ident name = .ok s') (i : String) :
    s'.owner? i = if i = ident then some name else s.owner? i := by
  unfold declare at h
  split at h
  · next hnone =>
    obtain rfl := Except.ok.inj h
    have hlookup : s.names.lookup ident = none := hnone
    by_cases hi : i = ident
    · subst hi
      simp [owner?, List.lookup_append, hlookup]
    · have hne : (i == ident) = false := by simpa using hi
      simp [owner?, List.lookup_append, List.lookup_cons, hne, hi]
  · next first hsome =>
    split at h
    · next heq =>
      obtain rfl := Except.ok.inj h
      by_cases hi : i = ident
      · subst hi
        simpa [hsome] using heq
      · simp [hi]
    · cases h

/-- A declaration keeps the label of the scope. -/
theorem label_of_declare {s s' : Scope} {ident name : String}
    (h : s.declare ident name = .ok s') : s'.label = s.label := by
  unfold declare at h
  split at h
  · obtain rfl := Except.ok.inj h
    rfl
  · split at h
    · obtain rfl := Except.ok.inj h
      rfl
    · cases h

/-- A refused declaration names the scope, its identifier, the owner and itself. -/
theorem declare_error {s : Scope} {ident name : String} {c : Collision}
    (h : s.declare ident name = .error c) :
    c.scope = s.label ∧ c.identifier = ident ∧ c.second = name ∧
      s.owner? ident = some c.first ∧ c.first ≠ c.second := by
  unfold declare at h
  split at h
  · cases h
  · next first hsome =>
    split at h
    · cases h
    · next hne =>
      obtain rfl := Except.error.inj h
      exact ⟨rfl, rfl, rfl, hsome, by simpa using hne⟩

/-! ### Runs of declarations -/

@[simp]
theorem declareAll_nil (s : Scope) : s.declareAll [] = .ok s :=
  rfl

theorem declareAll_cons_ok {s s' : Scope} {ident name : String}
    (h : s.declare ident name = .ok s') (rest : List (String × String)) :
    s.declareAll ((ident, name) :: rest) = s'.declareAll rest := by
  simp [declareAll, h]

theorem declareAll_cons_error {s : Scope} {ident name : String} {c : Collision}
    (h : s.declare ident name = .error c) (rest : List (String × String)) :
    s.declareAll ((ident, name) :: rest) = .error c := by
  simp [declareAll, h]

/-- A run goes on where its first part ended. -/
theorem declareAll_append_ok {s s' : Scope} {first : List (String × String)}
    (h : s.declareAll first = .ok s') (rest : List (String × String)) :
    s.declareAll (first ++ rest) = s'.declareAll rest := by
  induction first generalizing s with
  | nil =>
    obtain rfl := Except.ok.inj h
    rfl
  | cons d first ih =>
    simp only [declareAll, List.cons_append] at h ⊢
    split at h
    · next s₁ hd => exact ih h
    · cases h

/-- A run whose first part is refused is refused. -/
theorem declareAll_append_error {s : Scope} {first : List (String × String)} {c : Collision}
    (h : s.declareAll first = .error c) (rest : List (String × String)) :
    s.declareAll (first ++ rest) = .error c := by
  induction first generalizing s with
  | nil => cases h
  | cons d first ih =>
    simp only [declareAll, List.cons_append] at h ⊢
    split at h
    · next s₁ hd => exact ih h
    · next c' hd => exact h

/-- A run keeps the owners that the scope had. -/
theorem owner?_of_declareAll {s s' : Scope} {names : List (String × String)}
    (h : s.declareAll names = .ok s') {i n : String} (hi : s.owner? i = some n) :
    s'.owner? i = some n := by
  induction names generalizing s with
  | nil =>
    obtain rfl := Except.ok.inj h
    exact hi
  | cons d names ih =>
    obtain ⟨ident, name⟩ := d
    simp only [declareAll] at h
    split at h
    · next s₁ hd =>
      refine ih h ?_
      rw [owner?_of_declare hd]
      split
      · -- the declared identifier had an owner already, and it can only be the same one
        next heq =>
        subst heq
        simp only [declare, hi] at hd
        split at hd
        · next hn => simpa using (beq_iff_eq.mp hn).symm
        · cases hd
      · exact hi
    · cases h

/-- After a run every declaration of it owns its identifier. -/
theorem owner?_of_mem_declareAll {s s' : Scope} {names : List (String × String)}
    (h : s.declareAll names = .ok s') {d : String × String} (hd : d ∈ names) :
    s'.owner? d.1 = some d.2 := by
  induction names generalizing s with
  | nil => cases hd
  | cons e names ih =>
    obtain ⟨ident, name⟩ := e
    simp only [declareAll] at h
    split at h
    · next s₁ he =>
      rcases List.mem_cons.mp hd with rfl | hmem
      · refine owner?_of_declareAll h ?_
        rw [owner?_of_declare he, if_pos rfl]
      · exact ih h hmem
    · cases h

/-- A refused run names the scope and two owners of one identifier: the second one is declared in the
run, the first one is declared in it or owned the identifier before. -/
theorem declareAll_error {s : Scope} {names : List (String × String)} {c : Collision}
    (h : s.declareAll names = .error c) :
    c.scope = s.label ∧ c.first ≠ c.second ∧ (c.identifier, c.second) ∈ names ∧
      (s.owner? c.identifier = some c.first ∨ (c.identifier, c.first) ∈ names) := by
  induction names generalizing s with
  | nil => cases h
  | cons d names ih =>
    obtain ⟨ident, name⟩ := d
    simp only [declareAll] at h
    split at h
    · next s₁ hd =>
      obtain ⟨hscope, hne, hsecond, hfirst⟩ := ih h
      refine ⟨hscope.trans (label_of_declare hd), hne, List.mem_cons_of_mem _ hsecond, ?_⟩
      rcases hfirst with howner | hmem
      · rw [owner?_of_declare hd] at howner
        split at howner
        · next heq =>
          obtain rfl := Option.some.inj howner
          exact .inr (by rw [heq]; exact List.mem_cons_self)
        · exact .inl howner
      · exact .inr (List.mem_cons_of_mem _ hmem)
    · next c' hd =>
      obtain rfl := Except.error.inj h
      obtain ⟨hscope, hident, hsecond, howner, hne⟩ := declare_error hd
      refine ⟨hscope, hne, ?_, .inl ?_⟩
      · rw [hident, hsecond]
        exact List.mem_cons_self
      · rw [hident]
        exact howner

/-! ### All declarations of a scope -/

/-- A collision between the declarations of a scope is one of two of them. -/
theorem check_error {s : Scope} {c : Collision} (h : s.check = .error c) :
    c.scope = s.label ∧ c.first ≠ c.second ∧
      (c.identifier, c.first) ∈ s.names ∧ (c.identifier, c.second) ∈ s.names := by
  obtain ⟨hscope, hne, hsecond, hfirst⟩ := declareAll_error h
  rcases hfirst with howner | hmem
  · cases howner
  · exact ⟨hscope, hne, hmem, hsecond⟩

/-- The declarations of a scope can be made exactly if they agree. -/
theorem check_ok_iff (s : Scope) : (∃ s', s.check = .ok s') ↔ s.Agrees := by
  constructor
  · rintro ⟨s', h⟩ d hd e he heq
    have hdo := owner?_of_mem_declareAll h hd
    have heo := owner?_of_mem_declareAll h he
    rw [heq, heo] at hdo
    exact (Option.some.inj hdo).symm
  · intro hagrees
    cases h : s.check with
    | ok s' => exact ⟨s', rfl⟩
    | error c =>
      obtain ⟨-, hne, hfirst, hsecond⟩ := check_error h
      exact absurd (hagrees _ hfirst _ hsecond rfl) hne

/-- Where no name is declared twice, agreement is distinctness: two declarations with one identifier
would have to be one. -/
theorem agrees_iff_distinct {s : Scope} (h : (s.names.map Prod.snd).Nodup) :
    s.Agrees ↔ s.Distinct := by
  constructor
  · intro hagrees
    refine (List.nodup_map_iff_inj_on h.of_map).mpr ?_
    intro d hd e he heq
    exact Prod.ext heq (hagrees d hd e he heq)
  · intro hdistinct d hd e he heq
    exact congrArg Prod.snd (List.inj_on_of_nodup_map hdistinct hd he heq)

end Bindery.Scope
