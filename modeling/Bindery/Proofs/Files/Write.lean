import Bindery.Files.Write
import Bindery.Proofs.Files.Path
import Bindery.Proofs.Files.Tree

/-!
# What writing a file changes

Writing makes directories on the way to the file, and then a draft that either becomes the file or is gone
again. Whatever goes wrong, all files stay as they are; if nothing goes wrong, the one file has its new
content and all others stay as they are.

## Main definitions

- `Node.Leads` — a tree with some more directories on the way to a place

## Main results

- `Store.leads_makeDirectories` — making directories makes nothing else
- `Store.write_cases` — what a tree shows after writing a file
- `Store.read_of_look?` — a file that is seen at a place can be read
-/

namespace Bindery

/-- The tree `after` is the tree `before` with at most some more directories on the way to a place. -/
def Node.Leads (before after : Node) (place : List String) : Prop :=
  ∀ q, after.look? q = before.look? q ∨
    before.look? q = none ∧ after.look? q = some .directory ∧ q <+: place

namespace Node

theorem Leads.refl (n : Node) (place : List String) : n.Leads n place :=
  fun _ => .inl rfl

theorem Leads.trans {a b c : Node} {place : List String} (hab : a.Leads b place)
    (hbc : b.Leads c place) : a.Leads c place := by
  intro q
  rcases hab q with hsame | ⟨hnone, hdir, hpre⟩
  · rcases hbc q with hsame' | ⟨hnone', hdir', hpre'⟩
    · exact .inl (hsame'.trans hsame)
    · exact .inr ⟨hsame ▸ hnone', hdir', hpre'⟩
  · rcases hbc q with hsame' | ⟨hnone', -, -⟩
    · exact .inr ⟨hnone, hsame'.trans hdir, hpre⟩
    · rw [hdir] at hnone'
      cases hnone'

/-- What looks the same has the same new directories. -/
theorem Leads.congr {a b c : Node} {place : List String} (hab : a.Leads b place)
    (hbc : ∀ q, c.look? q = b.look? q) : a.Leads c place := by
  intro q
  rw [hbc q]
  exact hab q

/-- The files stay as they are. -/
theorem Leads.file_iff {a b : Node} {place : List String} (h : a.Leads b place) (q : List String)
    (content : Octets) : b.look? q = some (.file content) ↔ a.look? q = some (.file content) := by
  rcases h q with hsame | ⟨hnone, hdir, -⟩
  · rw [hsame]
  · simp [hnone, hdir]

/-! ### Entries of a directory -/

theorem child?_eq_none_iff {es : List (String × Node)} {name : String} :
    (directory es).child? name = none ↔ ¬ es.any (·.1 == name) = true := by
  rw [child?, Option.map_eq_none_iff, List.find?_eq_none, List.any_eq_true, not_exists]
  exact forall_congr' fun e => by rw [not_and]; rfl

/-- A new entry is put under a free name of a directory. -/
theorem add_eq_ok {root root' new : Node} {place : List String} {name : String}
    (h : root.add place name new = .ok root') :
    root.look? place = some .directory ∧ root.look? (place ++ [name]) = none ∧
      name.utf8ByteSize ≤ Store.longestName ∧ root' = root.insert (place ++ [name]) new := by
  unfold add at h
  split at h
  · cases h
  · cases h
  · next es hplace =>
    split at h
    · cases h
    · next hlong =>
      split at h
      · cases h
      · next hfree =>
        have hchild : (directory es).child? name = none := child?_eq_none_iff.mpr hfree
        refine ⟨by rw [look?, hplace]; rfl, ?_, Nat.le_of_not_lt hlong, (Except.ok.inj h).symm⟩
        rw [look?_append, hplace]
        show (directory es).look? [name] = none
        rw [look?_cons, hchild]
        rfl

/-- What is renamed takes its new place, at which there is no directory. -/
theorem rename_eq_ok {root root' n : Node} {place : List String} {source target : String}
    (hsource : root.at? (place ++ [source]) = some n)
    (h : root.rename place source target = .ok root') :
    root.look? (place ++ [target]) ≠ some .directory ∧
      root' = (root.remove (place ++ [source])).insert (place ++ [target]) n := by
  rw [rename, hsource] at h
  cases htarget : root.at? (place ++ [target]) with
  | none =>
    rw [htarget] at h
    exact ⟨by simp [look?, htarget], (Except.ok.inj h).symm⟩
  | some old =>
    rw [htarget] at h
    cases old with
    | directory es => cases h
    | file content => exact ⟨by simp [look?, htarget, sight], (Except.ok.inj h).symm⟩

/-- There is nothing below a place at which there is nothing. -/
theorem look?_of_prefix_none {n : Node} {p q : List String} (h : n.look? p = none) (hpre : p <+: q) :
    n.look? q = none := by
  obtain ⟨r, rfl⟩ := hpre
  cases r with
  | nil => rwa [List.append_nil]
  | cons name r => exact look?_below (by simp [h]) name r

/-- What is seen after a new directory was made. -/
theorem leads_add {root root' : Node} {place : List String} {name : String}
    (h : root.add place name (.directory []) = .ok root') (rest : List String) :
    root.Leads root' (place ++ name :: rest) := by
  obtain ⟨hplace, hfree, -, rfl⟩ := add_eq_ok h
  intro q
  rw [look?_insert hplace]
  by_cases hpre : place ++ [name] <+: q
  · rw [if_pos hpre, look?_of_prefix_none hfree hpre]
    obtain ⟨r, rfl⟩ := hpre
    cases r with
    | nil =>
      refine .inr ⟨rfl, ?_, ⟨rest, by simp⟩⟩
      simp
      rfl
    | cons first r =>
      refine .inl ?_
      rw [drop_below]
      rfl
  · rw [if_neg hpre]
    exact .inl rfl

section File

variable {n : Node} {place : List String} {name : String}

/-- What is seen after a file was put where there is no directory. -/
theorem look?_insert_file (hplace : n.look? place = some .directory)
    (hnot : n.look? (place ++ [name]) ≠ some .directory) (content : Octets) (q : List String) :
    (n.insert (place ++ [name]) (.file content)).look? q =
      if q = place ++ [name] then some (.file content) else n.look? q := by
  rw [look?_insert hplace]
  by_cases hpre : place ++ [name] <+: q
  · obtain ⟨r, rfl⟩ := hpre
    rw [if_pos (List.prefix_append _ _), drop_below]
    cases r with
    | nil => simp [look?, at?, sight]
    | cons first r =>
      rw [if_neg (by simp), look?_below hnot]
      rfl
  · have hne : q ≠ place ++ [name] := by
      rintro rfl
      exact hpre List.prefix_rfl
    rw [if_neg hpre, if_neg hne]

/-- What is seen after something that is no directory was removed. -/
theorem look?_remove_file (hplace : n.look? place = some .directory)
    (hnot : n.look? (place ++ [name]) ≠ some .directory) (q : List String) :
    (n.remove (place ++ [name])).look? q =
      if q = place ++ [name] then none else n.look? q := by
  rw [look?_remove hplace]
  by_cases hpre : place ++ [name] <+: q
  · obtain ⟨r, rfl⟩ := hpre
    rw [if_pos (List.prefix_append _ _)]
    cases r with
    | nil => simp
    | cons first r => rw [if_neg (by simp), look?_below hnot]
  · have hne : q ≠ place ++ [name] := by
      rintro rfl
      exact hpre List.prefix_rfl
    rw [if_neg hpre, if_neg hne]

end File

end Node

namespace Store

/-- Making directories makes nothing else. -/
theorem leads_makeDirectories (root : Node) (place names : List String) :
    root.Leads (makeDirectories root place names).1 (place ++ names) := by
  fun_induction makeDirectories root place names with
  | case1 => exact .refl _ _
  | case2 root place name rest here hlong => exact .refl root _
  | case3 root place name rest here hlong es hdir ih =>
    simpa [here] using ih
  | case4 root place name rest here hlong content hfile => exact .refl root _
  | case5 root place name rest here hlong hnone o hadd => exact .refl root _
  | case6 root place name rest here hlong hnone root' hadd ih =>
    refine (Node.leads_add hadd rest).trans ?_
    simpa [here] using ih

/-- The names on the way to a directory that could be made are not too long. -/
theorem length_le_of_makeDirectories {root : Node} {place names : List String}
    (h : (makeDirectories root place names).2 = .ok ()) :
    ∀ name ∈ names, name.utf8ByteSize ≤ longestName := by
  fun_induction makeDirectories root place names with
  | case1 => simp
  | case2 root place name rest here hlong => cases h
  | case3 root place name rest here hlong es hdir ih =>
    exact List.forall_mem_cons.mpr ⟨Nat.le_of_not_lt hlong, ih h⟩
  | case4 root place name rest here hlong content hfile => cases h
  | case5 root place name rest here hlong hnone o hadd => cases h
  | case6 root place name rest here hlong hnone root' hadd ih =>
    exact List.forall_mem_cons.mpr ⟨Nat.le_of_not_lt hlong, ih h⟩

/-- A draft is a new empty file. -/
theorem createDraft_eq_ok {root root' : Node} {place : List String} {name draft : String}
    {numbers : List UInt32} (h : createDraft root place name numbers = .ok (draft, root')) :
    root.add place draft (.file []) = .ok root' ∧ ∃ digits, draft = draftName name digits := by
  fun_induction createDraft root place name numbers with
  | case1 => cases h
  | case2 number rest draft' made hadd =>
    obtain ⟨hdraft, hmade⟩ := Prod.mk.inj (Except.ok.inj h)
    rw [← hdraft, ← hmade]
    exact ⟨hadd, _, rfl⟩
  | case3 number rest draft' hadd ih => exact ih h
  | case4 number rest draft' o hadd hother => cases h

theorem draftName_ne (name digits : String) : draftName name digits ≠ name := by
  intro h
  have hlength := congrArg (fun s : String => s.toList.length) h
  simp [draftName] at hlength
  omega

theorem utf8ByteSize_le_draftName (name digits : String) :
    name.utf8ByteSize ≤ (draftName name digits).utf8ByteSize := by
  simp only [draftName, String.utf8ByteSize_append]
  omega

/-- What a tree shows while there is a draft. -/
theorem look?_drafted {root root' : Node} {place : List String} {draft : String}
    (h : root.add place draft (.file []) = .ok root') (content : Octets) (q : List String) :
    (root'.insert (place ++ [draft]) (.file content)).look? q =
      if q = place ++ [draft] then some (.file content) else root.look? q := by
  obtain ⟨hplace, hfree, -, rfl⟩ := Node.add_eq_ok h
  have hempty : ∀ q, (root.insert (place ++ [draft]) (.file [])).look? q =
      if q = place ++ [draft] then some (.file []) else root.look? q :=
    Node.look?_insert_file hplace (by simp [hfree]) []
  have hplace' : (root.insert (place ++ [draft]) (.file [])).look? place = some .directory := by
    rw [hempty, if_neg (by simp), hplace]
  rw [Node.look?_insert_file hplace' (by simp [hempty]), hempty]
  by_cases hq : q = place ++ [draft]
  · rw [if_pos hq, if_pos hq]
  · rw [if_neg hq, if_neg hq, if_neg hq]

section Rename

variable {root drafted : Node} {place : List String} {draft name : String} {content : Octets}

/-- If the draft cannot take the name of the file, it is removed, and nothing has changed. -/
theorem look?_of_rename_error (hplace : root.look? place = some .directory)
    (hfree : root.look? (place ++ [draft]) = none)
    (hdrafted : ∀ q, drafted.look? q =
      if q = place ++ [draft] then some (.file content) else root.look? q) (q : List String) :
    (drafted.remove (place ++ [draft])).look? q = root.look? q := by
  have hplace' : drafted.look? place = some .directory := by
    rw [hdrafted, if_neg (by simp), hplace]
  rw [Node.look?_remove_file hplace' (by simp [hdrafted]), hdrafted]
  by_cases hq : q = place ++ [draft]
  · rw [if_pos hq, hq, hfree]
  · rw [if_neg hq, if_neg hq]

/-- If the draft takes the name of the file, the file has the content of the draft, and nothing else has
changed. -/
theorem look?_of_rename_ok {root' : Node} (hplace : root.look? place = some .directory)
    (hfree : root.look? (place ++ [draft]) = none) (hne : draft ≠ name)
    (hdrafted : ∀ q, drafted.look? q =
      if q = place ++ [draft] then some (.file content) else root.look? q)
    (hrename : drafted.rename place draft name = .ok root') (q : List String) :
    (root'.remove (place ++ [draft])).look? q =
      if q = place ++ [name] then some (.file content) else root.look? q := by
  have hdraft : drafted.at? (place ++ [draft]) = some (.file content) := by
    have hlook := hdrafted (place ++ [draft])
    rw [if_pos rfl, Node.look?, Option.map_eq_some_iff] at hlook
    obtain ⟨n, hn, hsight⟩ := hlook
    rw [hn]
    cases n with
    | directory es => cases hsight
    | file old =>
      cases hsight
      rfl
  have hplaces : ∀ {a b : String}, place ++ [a] = place ++ [b] → a = b := by
    intro a b hab
    simpa using hab
  obtain ⟨hnot, rfl⟩ := Node.rename_eq_ok hdraft hrename
  have hremoved := look?_of_rename_error hplace hfree hdrafted
  have hname : root.look? (place ++ [name]) ≠ some .directory := by
    rwa [hdrafted, if_neg fun heq => hne (hplaces heq).symm] at hnot
  have hrenamed : ∀ q, ((drafted.remove (place ++ [draft])).insert (place ++ [name])
      (.file content)).look? q =
        if q = place ++ [name] then some (.file content) else root.look? q := by
    intro q
    rw [Node.look?_insert_file (by rw [hremoved, hplace]) (by rwa [hremoved]), hremoved]
  have hplace' : ((drafted.remove (place ++ [draft])).insert (place ++ [name])
      (.file content)).look? place = some .directory := by
    rw [hrenamed, if_neg (by simp), hplace]
  have hgone : ((drafted.remove (place ++ [draft])).insert (place ++ [name])
      (.file content)).look? (place ++ [draft]) = none := by
    rw [hrenamed, if_neg fun heq => hne (hplaces heq), hfree]
  rw [Node.look?_remove_file hplace' (by simp [hgone]), hrenamed]
  by_cases hq : q = place ++ [draft]
  · rw [if_pos hq, if_neg, hq, hfree]
    rw [hq]
    exact fun heq => hne (hplaces heq)
  · rw [if_neg hq]

end Rename

/-- Writing a file either fails, with all files as they were and at most some more directories, or gives the
file its new content. -/
theorem write_cases (s : Store) (draws : Draws) (path : String) (content : Octets) :
    ∃ made, s.root.Leads made (Path.names (Path.directory path)) ∧
      ((∃ root e, s.write draws path content = ({ s with root }, .error e) ∧
          ∀ q, root.look? q = made.look? q) ∨
        ∃ root, s.write draws path content = ({ s with root }, .ok ()) ∧
          (∀ name ∈ Path.names (Path.directory path) ++ [Path.base path],
            name.utf8ByteSize ≤ longestName) ∧
          ∀ q, root.look? q =
            if q = Path.names (Path.directory path) ++ [Path.base path] then some (.file content)
            else made.look? q) := by
  generalize hplace : Path.names (Path.directory path) = place
  generalize hname : Path.base path = name
  have hleads := leads_makeDirectories s.root [] place
  cases hmake : makeDirectories s.root [] place with
  | mk made result =>
    rw [hmake] at hleads
    refine ⟨made, hleads, ?_⟩
    unfold write
    -- the numbers are as good as any, and their list is better not computed
    generalize (List.range draftTries).map draws = numbers
    simp only [hplace, hname, hmake]
    cases result with
    | error e => exact .inl ⟨made, _, rfl, fun _ => rfl⟩
    | ok done =>
      cases done
      cases hcreate : createDraft made place name numbers with
      | error e =>
        simp only [hcreate]
        exact .inl ⟨made, _, rfl, fun _ => rfl⟩
      | ok created =>
        obtain ⟨draft, root⟩ := created
        simp only [hcreate]
        obtain ⟨hadd, digits, hdraft⟩ := createDraft_eq_ok hcreate
        obtain ⟨hdir, hfree, hshort, -⟩ := Node.add_eq_ok hadd
        have hdrafted := look?_drafted hadd content
        cases hrename : (root.insert (place ++ [draft]) (.file content)).rename place draft name with
        | error o =>
          refine .inl ⟨_, _, rfl, ?_⟩
          exact look?_of_rename_error hdir hfree hdrafted
        | ok renamed =>
          have hne : draft ≠ name := by
            rw [hdraft]
            exact draftName_ne name digits
          refine .inr ⟨_, rfl, ?_, ?_⟩
          · have hlong : name.utf8ByteSize ≤ longestName := by
              rw [hdraft] at hshort
              exact (utf8ByteSize_le_draftName name digits).trans hshort
            have hplaceShort := length_le_of_makeDirectories (by rw [hmake])
            intro n hn
            rcases List.mem_append.mp hn with hn | hn
            · exact hplaceShort n hn
            · rw [List.mem_singleton.mp hn]
              exact hlong
          · exact look?_of_rename_ok hdir hfree hne hdrafted hrename

/-! ### Reading a file back -/

/-- Plain names that are not too long are followed to what is at their place. -/
theorem follow_of_plain {root n : Node} {place names : List String}
    (h : root.at? (place ++ names) = some n) (hplain : ∀ name ∈ names, Path.IsPlain name)
    (hshort : ∀ name ∈ names, name.utf8ByteSize ≤ longestName) :
    follow root place names = .ok (place ++ names, n) := by
  induction names generalizing place with
  | nil =>
    rw [List.append_nil] at h
    rw [follow, h, List.append_nil]
  | cons name rest ih =>
    obtain ⟨hname, hrest⟩ := List.forall_mem_cons.mp hplain
    obtain ⟨hnameShort, hrestShort⟩ := List.forall_mem_cons.mp hshort
    have hat := h
    rw [Node.at?_append] at hat
    cases hplace : root.at? place with
    | none =>
      rw [hplace] at hat
      cases hat
    | some inner =>
      rw [hplace] at hat
      cases inner with
      | file content => cases hat
      | directory es =>
        have hentry : es.any (·.1 == name) = true := by
          by_contra hnone
          have hchild : (Node.directory es).child? name = none := Node.child?_eq_none_iff.mpr hnone
          rw [Option.bind_some, Node.at?, hchild] at hat
          cases hat
        have hnext : follow root (place ++ [name]) rest = .ok (place ++ [name] ++ rest, n) :=
          ih (by simpa using h) hrest hrestShort
        rw [follow, hplace]
        simp only [hentry, beq_iff_eq, hname.ne_here, hname.ne_up, if_false, if_true,
          Nat.not_lt.mpr hnameShort]
        rw [hnext, List.append_assoc, List.singleton_append]

/-- A clean path is followed from the root on. -/
theorem find_eq {s : Store} {path : String} {place : List String} (h : Path.IsRooted path place) :
    s.find path = (follow s.root [] place).bind fun r =>
      if endsWithSlash path && !r.2.isDirectory then .error .notDirectory else .ok r.2 := by
  have hne : ¬(path == "") = true := by simpa using h.ne_empty
  rw [find, if_neg hne, h.isAbsolute_eq, if_pos rfl, h.names_eq]
  rfl

/-- A file that is seen at a place is found by its path. -/
theorem find_of_look? {s : Store} {path name : String} {place : List String} {content : Octets}
    (hpath : Path.IsRooted path (place ++ [name]))
    (hshort : ∀ n ∈ place ++ [name], n.utf8ByteSize ≤ longestName)
    (h : s.root.look? (place ++ [name]) = some (.file content)) :
    s.find path = .ok (.file content) := by
  have hat : s.root.at? (place ++ [name]) = some (.file content) := by
    rw [Node.look?, Option.map_eq_some_iff] at h
    obtain ⟨n, hn, hsight⟩ := h
    cases n with
    | directory es => cases hsight
    | file old =>
      cases hsight
      exact hn
  have hfollow : follow s.root [] (place ++ [name]) = .ok (place ++ [name], .file content) := by
    rw [← List.nil_append (place ++ [name])] at hat
    exact follow_of_plain hat hpath.plain hshort
  rw [find_eq hpath, hfollow, hpath.endsWithSlash_eq]
  rfl

/-- A file that is seen at a place is read by its path. -/
theorem read_of_look? {s : Store} {path name : String} {place : List String} {content : Octets}
    (hpath : Path.IsRooted path (place ++ [name]))
    (hshort : ∀ n ∈ place ++ [name], n.utf8ByteSize ≤ longestName)
    (h : s.root.look? (place ++ [name]) = some (.file content)) : s.read path = .ok content := by
  rw [read, find_of_look? hpath hshort h]

end Store

end Bindery
