import Bindery.Proofs.Bindings.Notation
import Bindery.Proofs.Source.Directives

/-!
# Two ways to write a type

The text of a type expression is written from the left to the right. Its code is a type of the generated program,
which is built from the named type outwards and printed afterwards. Both begin with the same pointers and slices and
end with the same name, so they differ in the name of the package before the dot or not at all.

## Main definitions

- `TypeExpr.leading` — the pointers and slices before the named type of an expression

## Main results

- `TypeExpr.text_eq_append`, `TypeExpr.text_shape` — the text and the printed shape of an expression
- `TypeExpr.standalone?_of_isIdentifier` — an expression with a legal name can stand alone
- `TypeExpr.code_agrees_with_text` — the code and the text of an expression
-/

namespace Bindery

/-- A single identifier names a type. -/
theorem Source.isTypeName_of_isIdentifier {s : String} (h : isIdentifier s = true) : isTypeName s = true := by
  rw [isTypeName, List.splitOn_eq_singleton (not_mem_of_isIdentifier h).2]
  simpa using h

namespace TypeExpr

/-- The pointers and slices before the named type of an expression. -/
def leading (e : TypeExpr) : String :=
  String.ofList (marks e.levels)

theorem leading_named (kind : TypeKind) (package name : String) (nullable : Bool) :
    (named kind package name nullable).leading = mark nullable := by
  cases nullable <;> rfl

theorem leading_list (elem : TypeExpr) (nullable : Bool) :
    (list elem nullable).leading = mark nullable ++ "[]" ++ elem.leading := by
  rw [← String.toList_inj, leading, leading, String.toList_ofList, marks_levels_list]
  simp

/-! ### The text and the code -/

theorem text_eq_append (e : TypeExpr) : e.text = e.leading ++ e.leafText := by
  rw [← String.toList_inj, toList_text, leading, String.toList_append, String.toList_ofList]

theorem text_ite_pointer (package : String → String) (nullable : Bool) (shape : TypeShape) :
    (if nullable then TypeShape.pointer shape else shape).text package = mark nullable ++ shape.text package := by
  cases nullable with
  | false => exact String.empty_append.symm
  | true => rfl

/-- The shape of an expression is printed as the pointers and slices with the named type after them. -/
theorem text_shape (package : String → String) (e : TypeExpr) :
    e.shape.text package = e.leading ++ (TypeShape.name e.leaf.2.1 e.leaf.2.2).text package := by
  induction e with
  | named kind p n nullable => rw [shape, text_ite_pointer, leading_named, leaf]
  | list elem nullable ih =>
    -- the pointer stands outside of the slice, and the slice outside of all that is printed for its elements
    calc (list elem nullable).shape.text package
        = mark nullable ++ (TypeShape.slice elem.shape).text package :=
          text_ite_pointer package nullable (.slice elem.shape)
      _ = mark nullable ++ ("[]" ++ elem.shape.text package) := rfl
      _ = (list elem nullable).leading ++ (TypeShape.name elem.leaf.2.1 elem.leaf.2.2).text package := by
        rw [ih, leading_list, String.append_assoc, String.append_assoc]

section Leaf

variable {e : TypeExpr} {kind : TypeKind} {package name : String} (hleaf : e.leaf = (kind, package, name))
include hleaf

theorem text_eq_of_leaf :
    e.text = e.leading ++ if package == "" then name else baseName package ++ "." ++ name := by
  rw [text_eq_append, leafText_eq, hleaf]

theorem code_eq_of_leaf (imports : Source.Imports) :
    e.code imports = e.leading ++ if package == "" then name else imports.nameOf package ++ "." ++ name := by
  rw [code, text_shape, hleaf, TypeShape.text]

/-! ### Expressions that stand alone -/

theorem packages_of_leaf : e.packages = if package == "" then [] else [package] := by
  induction e with
  | named kind' p n nullable =>
    cases hleaf
    rfl
  | list elem nullable ih => exact ih hleaf

theorem isLegal_of_leaf :
    e.isLegal = if package == "" then Source.isTypeName name else Source.isIdentifier name := by
  induction e with
  | named kind' p n nullable =>
    cases hleaf
    rfl
  | list elem nullable ih => exact ih hleaf

theorem standalone?_of_isIdentifier (hname : Source.isIdentifier name = true) :
    e.standalone? = some (e.code (Source.Imports.ofPaths none e.packages)) := by
  have hlegal : e.isLegal = true := by
    rw [isLegal_of_leaf hleaf, Source.isTypeName_of_isIdentifier hname, hname, ite_self]
  have halone : e.standsAlone = true := by
    cases e with
    | named kind' p n nullable => rw [standsAlone, hlegal, Bool.true_or]
    | list elem nullable => exact hlegal
  rw [standalone?, if_pos halone]

/-- The code and the text of an expression agree. Without a package they are the same, in every file, and if the
name is an identifier this is what stands alone. With a package they differ in what stands for it before the dot
and in nothing else, and so does what stands alone. -/
theorem code_agrees_with_text :
    (package = "" → (∀ imports, e.code imports = e.text) ∧
      (Source.isIdentifier name = true → e.standalone? = some e.text)) ∧
    (package ≠ "" → e.text = e.leading ++ baseName package ++ "." ++ name ∧
      (∀ imports : Source.Imports, e.code imports = e.leading ++ imports.nameOf package ++ "." ++ name) ∧
      (Source.isIdentifier name = true → e.standalone? =
        some (e.leading ++ (Source.Imports.ofPaths none [package]).nameOf package ++ "." ++ name))) := by
  have htext := text_eq_of_leaf hleaf
  have hcode := code_eq_of_leaf hleaf
  have halone := standalone?_of_isIdentifier hleaf
  constructor
  · rintro rfl
    have hsame : ∀ imports, e.code imports = e.text := fun imports => by rw [hcode, htext]; rfl
    exact ⟨hsame, fun hname => by rw [halone hname, hsame]⟩
  · intro hpackage
    have hpackages := packages_of_leaf hleaf
    have hempty : (package == "") = false := beq_eq_false_iff_ne.mpr hpackage
    simp only [hempty, Bool.false_eq_true, if_false, ← String.append_assoc] at htext hcode hpackages
    exact ⟨htext, hcode, fun hname => by rw [halone hname, hcode, hpackages]⟩

end Leaf

/-- Lists of lists of texts, and amounts from a package whose name in a file is not the end of its path. -/
theorem code_agrees_with_text_nested :
    let texts : TypeExpr := .list (.list (.named .scalar "" "string" true) false) true
    let amounts : TypeExpr := .list (.named .scalar "go-decimal" "Decimal" true) false
    texts.standalone? = some "*[][]*string" ∧
      amounts.text = "[]*go-decimal.Decimal" ∧ amounts.standalone? = some "[]*godecimal.Decimal" := by
  have hpackage : (Source.Imports.ofPaths none ["go-decimal"]).nameOf "go-decimal" = "godecimal" := rfl
  intro texts amounts
  have htexts := (code_agrees_with_text (e := texts) rfl).1 rfl
  have hamounts := (code_agrees_with_text (e := amounts) rfl).2 (by decide)
  refine ⟨htexts.2 rfl, hamounts.1, ?_⟩
  rw [hamounts.2.2 rfl, hpackage]
  rfl

end TypeExpr

end Bindery
