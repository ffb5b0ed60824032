/-!
# Kinds of types

A type of the schema has one of eight kinds. An introspection result may hold any other text where
a kind is expected, and such a text is kept as it is.

## Main definitions

- `TypeKind` — the eight kinds, and a text that is none of them
- `TypeKind.text` and `TypeKind.ofText` — the name of a kind and the kind of a name
- `TypeKind.isKnown`, `TypeKind.isWrapper` — the kinds of the type system, and those that wrap a type
-/

namespace Bindery

/-- The names of the eight kinds. -/
def kindNames : List String :=
  ["SCALAR", "OBJECT", "INTERFACE", "UNION", "ENUM", "INPUT_OBJECT", "LIST", "NON_NULL"]

/-- The kind of a type. -/
inductive TypeKind where
  | scalar
  | object
  | interface
  | union
  | enum
  | inputObject
  | list
  | nonNull
  | unknown (text : String) (notKind : text ∉ kindNames)
  deriving DecidableEq, Repr

namespace TypeKind

/-- The name of a kind. -/
def text : TypeKind → String
  | scalar => "SCALAR"
  | object => "OBJECT"
  | interface => "INTERFACE"
  | union => "UNION"
  | enum => "ENUM"
  | inputObject => "INPUT_OBJECT"
  | list => "LIST"
  | nonNull => "NON_NULL"
  | unknown text _ => text

/-- The kind of a name. -/
def ofText (s : String) : TypeKind :=
  if h : s ∈ kindNames then
    if s = "SCALAR" then scalar
    else if s = "OBJECT" then object
    else if s = "INTERFACE" then interface
    else if s = "UNION" then union
    else if s = "ENUM" then enum
    else if s = "INPUT_OBJECT" then inputObject
    else if s = "LIST" then list
    else nonNull
  else unknown s h

/-- The kind that stands where none is given. -/
def absent : TypeKind :=
  unknown "" (by decide)

instance : Inhabited TypeKind :=
  ⟨absent⟩

/-- Whether the kind is one of the type system. -/
def isKnown : TypeKind → Bool
  | unknown _ _ => false
  | _ => true

/-- Whether types of the kind wrap another type. -/
def isWrapper : TypeKind → Bool
  | list => true
  | nonNull => true
  | _ => false

/-- The kind of a kind's name is the kind. -/
@[simp]
theorem ofText_text (k : TypeKind) : ofText k.text = k := by
  cases k with
  | unknown text h => simp [ofText, TypeKind.text, h]
  | _ => rfl

/-- The name of a name's kind is the name. -/
@[simp]
theorem text_ofText (s : String) : (ofText s).text = s := by
  unfold ofText
  split
  · next h =>
    simp only [kindNames, List.mem_cons, List.not_mem_nil, or_false] at h
    rcases h with rfl | rfl | rfl | rfl | rfl | rfl | rfl | rfl <;> rfl
  · rfl

end TypeKind

end Bindery
