/-!
# Variables of the environment

A dollar sign in a text stands for the value of the variable whose name follows, in braces or not.

## Main definitions

- `Environment` — the variables
- `Environment.expand` — puts in the values of variables
- `variableName` — the name after a dollar sign
- `variablesIn` — the names of the variables in a text
-/

namespace Bindery

/-- The variables of the environment and their values. -/
abbrev Environment := List (String × String)

/-- Whether a character is a name on its own. -/
def isSpecialVariable (c : Char) : Bool :=
  "*#$@!?-".toList.contains c || c.isDigit

/-- Whether a character belongs to a name. -/
def isVariableChar (c : Char) : Bool :=
  c == '_' || c.isAlphanum

/-- What follows a dollar sign. -/
inductive Reference where
  /-- A name. -/
  | name (text : String)
  /-- Braces without a name, which vanish. -/
  | malformed
  /-- No name: the dollar sign stays. -/
  | none
  deriving DecidableEq, Repr

/-- The name after a dollar sign, and how many characters it takes. -/
def variableName : List Char → Reference × Nat
  | '\x7b' :: rest =>
    match rest.span (· != '\x7d') with
    | (_, []) => (.malformed, 1)
    | ([], _) => (.malformed, 2)
    | (name, _) => (.name (String.ofList name), name.length + 2)
  | c :: rest =>
    if isSpecialVariable c then (.name c.toString, 1)
    else
      match (c :: rest).takeWhile isVariableChar with
      | [] => (.none, 0)
      | name => (.name (String.ofList name), name.length)
  | [] => (.none, 0)

/-- The value of a variable, empty if it has none. -/
def Environment.value (e : Environment) (name : String) : String :=
  ((e.find? (·.1 == name)).map (·.2)).getD ""

/-- Puts in the values of variables, skipping the characters that belong to a name. -/
def Environment.expandFrom (e : Environment) : (skip : Nat) → List Char → List Char
  | _, [] => []
  | skip + 1, _ :: rest => e.expandFrom skip rest
  | 0, '$' :: rest =>
    match variableName rest with
    | (.name n, count) => (e.value n).toList ++ e.expandFrom count rest
    | (.malformed, count) => e.expandFrom count rest
    | (.none, _) => '$' :: e.expandFrom 0 rest
  | 0, c :: rest => c :: e.expandFrom 0 rest

/-- Puts in the values of variables. -/
def Environment.expand (e : Environment) (text : String) : String :=
  String.ofList (e.expandFrom 0 text.toList)

/-- The names of the variables in a text, skipping the characters that belong to a name. -/
def variablesFrom : (skip : Nat) → List Char → List String
  | _, [] => []
  | skip + 1, _ :: rest => variablesFrom skip rest
  | 0, '$' :: rest =>
    match variableName rest with
    | (.name n, count) => n :: variablesFrom count rest
    | (_, count) => variablesFrom count rest
  | 0, _ :: rest => variablesFrom 0 rest

/-- The names of the variables in a text. -/
def variablesIn (text : String) : List String :=
  variablesFrom 0 text.toList

end Bindery
