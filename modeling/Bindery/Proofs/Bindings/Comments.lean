import Bindery.Proofs.Text.Lines

/-!
# The lines of comments

A sentence is a text that ends with a full stop. It has lines, and if it holds no line break it is its own
only line. So a comment of sentences shows each of them.

## Main results

- `docLines_sentence` — a sentence without line breaks is one line
- `Comment.ofBlocks_sentence` — a paragraph of one line after a description with lines
-/

namespace Bindery

/-- The lines of a sentence. -/
theorem docLines_concat (s : String) :
    docLines (s ++ ".") = (splitWhen (· == '\n') (unixLines id s.toList ++ ['.'])).map fun line =>
      String.ofList (trimEnd (isAnyOf id [' ', '\t', '\r']) line) := by
  have hunix : unixLines id (s ++ ".").toList = unixLines id s.toList ++ ['.'] := by
    rw [String.toList_append, show ".".toList = ['.'] from rfl, unixLines_append (by simp)]
    rfl
  have hbare : bareText id (s ++ ".").toList = unixLines id s.toList ++ ['.'] := by
    rw [bareText, hunix, trimEnd_concat (by decide)]
  rw [docLines, linesOf_of_ne_nil (by rw [hbare]; simp), hbare, List.map_map]
  rfl

/-- A sentence has lines. -/
theorem docLines_concat_ne_nil (s : String) : docLines (s ++ ".") ≠ [] := by
  rw [docLines_concat]
  intro h
  exact splitWhen_ne_nil _ _ (List.map_eq_nil_iff.mp h)

/-- A sentence without line breaks is its own only line. -/
theorem docLines_sentence {s : String} (h : ∀ c ∈ s.toList, c ≠ '\n' ∧ c ≠ '\r') :
    docLines (s ++ ".") = [s ++ "."] := by
  have hreturn : '\r' ∉ s.toList := fun hmem => (h _ hmem).2 rfl
  have hfeed : ∀ c ∈ s.toList ++ ['.'], (c == '\n') = false := by
    intro c hc
    rcases List.mem_append.mp hc with hc | hc
    · exact beq_eq_false_iff_ne.mpr (h c hc).1
    · rw [List.mem_singleton.mp hc]
      decide
  rw [docLines_concat, unixLines_of_return_notMem hreturn, splitWhen_of_forall hfeed,
    List.map_singleton, trimEnd_concat (by decide), String.ofList_append, String.ofList_toList]

namespace Comment

@[simp]
theorem line_empty : line "" = "//" :=
  rfl

theorem line_sentence (s : String) : line (s ++ ".") = "// " ++ (s ++ ".") := by
  rw [line, if_neg (by simp)]

/-- A line of a comment belongs to a block, or stands between two blocks. -/
theorem exists_of_mem_layout {β : Type} {line : β → β} {empty l : β} {blocks : List (List β)}
    (h : l ∈ layout line empty blocks) : l = line empty ∨ ∃ block ∈ blocks, ∃ text ∈ block, l = line text := by
  obtain ⟨part, hpart, hl⟩ := List.mem_flatten.mp h
  rcases mem_of_mem_intersperse hpart with rfl | hpart
  · exact .inl (List.mem_singleton.mp hl)
  · obtain ⟨block, hblock, rfl⟩ := List.mem_map.mp hpart
    obtain ⟨text, htext, rfl⟩ := List.mem_map.mp hl
    exact .inr ⟨block, List.mem_of_mem_filter hblock, text, htext, rfl⟩

/-- A comment is empty if no block has a line. -/
theorem layout_eq_nil_iff {β : Type} {line : β → β} {empty : β} {blocks : List (List β)} :
    layout line empty blocks = [] ↔ ∀ block ∈ blocks, block = [] := by
  constructor
  · intro h block hblock
    cases block with
    | nil => rfl
    | cons text block =>
      have hmem : (text :: block).map line ∈
          (((blocks.filter (!·.isEmpty)).map (·.map line)).intersperse [line empty]) :=
        mem_intersperse_of_mem _ (List.mem_map_of_mem (List.mem_filter.mpr ⟨hblock, rfl⟩))
      have hnil := List.flatten_eq_nil_iff.mp h _ hmem
      cases hnil
  · intro h
    have hfilter : blocks.filter (!·.isEmpty) = [] := by
      rw [List.filter_eq_nil_iff]
      intro block hblock
      simp [h block hblock]
    rw [layout, hfilter]
    rfl

@[simp]
theorem ofBlocks_empty : ofBlocks "" [] = [] := by
  decide

@[simp]
theorem ofBlocks_empty_empty : ofBlocks "" [""] = [] := by
  decide

theorem ofBlocks_nil {description : String} (h : docLines description ≠ []) :
    ofBlocks description [] = (docLines description).map line := by
  have hfilter : [docLines description].filter (!·.isEmpty) = [docLines description] := by
    simp [h]
  rw [ofBlocks, layout, List.map_singleton, hfilter]
  simp

/-- A paragraph without lines leaves no trace. -/
theorem ofBlocks_of_docLines_nil {description paragraph : String} (h : docLines paragraph = []) :
    ofBlocks description [paragraph] = ofBlocks description [] := by
  simp [ofBlocks, layout, h, List.filter_cons]

/-- A paragraph of one line follows the description after an empty line. -/
theorem ofBlocks_sentence {description paragraph : String} (h : docLines description ≠ [])
    (hparagraph : docLines paragraph = [paragraph]) :
    ofBlocks description [paragraph] = ofBlocks description [] ++ ["//", line paragraph] := by
  have hfilter : [docLines description, [paragraph]].filter (!·.isEmpty) =
      [docLines description, [paragraph]] := by
    simp [h]
  rw [ofBlocks_nil h, ofBlocks, layout, List.map_cons, List.map_singleton, hparagraph, hfilter]
  simp

end Comment

end Bindery
