import Bindery.Sdl.Document
import Bindery.Sdl.Lexer

/-!
# Reading documents

Documents of the schema language are read from their tokens, with one token of lookahead. The first
token that does not fit is reported.

## Main definitions

- `Sdl.Parser` — reads tokens and may fail
- `Sdl.literal`, `Sdl.typeExpr`, `Sdl.definition` — parts of a document
- `Sdl.parseDocument` — the document of a source text
-/

namespace Bindery.Sdl

/-- Reads tokens and may fail. -/
abbrev Parser (α : Type) := StateT (List Token) (Except SyntaxError) α

namespace Parser

/-- The next token, which is not taken. -/
def peek : Parser Token := do
  return (← get).headD default

/-- Takes the next token. The last token stays. -/
def next : Parser Token := do
  let t ← peek
  modify fun ts => match ts with
    | a :: b :: rest => if a.kind == .eof then a :: b :: rest else b :: rest
    | ts => ts
  return t

/-- Fails at a token. -/
def fail {α : Type} (t : Token) (text : String) : Parser α :=
  throw ⟨t.position, text⟩

/-- Fails at a token that does not fit. -/
def unexpected {α : Type} (t : Token) : Parser α :=
  fail t ("Unexpected " ++ t.text)

/-- Takes a token of the kind, or fails. -/
def expect (kind : TokenKind) : Parser Token := do
  let t ← peek
  if t.kind == kind then next
  else fail t ("Expected " ++ kind.text ++ ", found " ++ t.kind.text)

/-- Takes the keyword, or fails. -/
def keyword (word : String) : Parser Unit := do
  let t ← peek
  if t.kind == .name && t.value == word then discard next
  else fail t ("Expected " ++ quoted word ++ ", found " ++ t.text)

/-- Takes the next token if it is of the kind. -/
def skip (kind : TokenKind) : Parser Bool := do
  if (← peek).kind == kind then
    discard next
    return true
  else return false

/-- The value of a name. -/
def name : Parser String := do
  return (← expect .name).value

/-- Items up to a closing token, which is taken. -/
def items {α : Type} (close : TokenKind) (item : Parser α) : (fuel : Nat) → Parser (List α)
  | 0 => do unexpected (← peek)
  | fuel + 1 => do
    if ← skip close then return []
    else
      let first ← item
      let rest ← items close item fuel
      return first :: rest

/-- As much fuel as there are tokens. -/
def fuel : Parser Nat := do
  return (← get).length + 1

/-- Items between an opening and a closing token, none if the opening token is missing. -/
def many {α : Type} (opening close : TokenKind) (item : Parser α) : Parser (List α) := do
  if ← skip opening then items close item (← fuel) else return []

/-- At least one item between an opening and a closing token, none if the opening token is
missing. -/
def some {α : Type} (opening close : TokenKind) (item : Parser α) : Parser (List α) := do
  if ← skip opening then
    let t ← peek
    if t.kind == close then
      fail t ("expected at least one definition, found " ++ t.kind.text)
    else items close item (← fuel)
  else return []

/-- Further names, each after a separator. -/
def moreNames (separator : TokenKind) (item : Parser String) : (fuel : Nat) → Parser (List String)
  | 0 => return []
  | fuel + 1 => do
    if ← skip separator then
      let first ← item
      let rest ← moreNames separator item fuel
      return first :: rest
    else return []

/-- Names with a separator between them and possibly before the first. -/
def separated (separator : TokenKind) (item : Parser String) : Parser (List String) := do
  discard (skip separator)
  let first ← item
  let rest ← moreNames separator item (← fuel)
  return first :: rest

end Parser

open Bindery.Sdl.Parser

/-- A value, which holds no variables if it is constant. -/
def literalWithin (constant : Bool) : (fuel : Nat) → Parser Literal
  | 0 => do unexpected (← peek)
  | fuel + 1 => do
    let t ← peek
    match t.kind with
    | .bracketL => return .list (← many .bracketL .bracketR (literalWithin constant fuel))
    | .braceL =>
      let field := do
        let name ← name
        discard (expect .colon)
        let value ← literalWithin constant fuel
        return (name, value)
      return .object (← many .braceL .braceR field)
    | .dollar =>
      if constant then unexpected t
      else
        discard next
        return .reference (← name)
    | .int =>
      discard next
      return .int t.value
    | .float =>
      discard next
      return .float t.value
    | .string =>
      discard next
      return .string t.value
    | .blockString =>
      discard next
      return .string t.value
    | .name =>
      discard next
      return match t.value with
        | "true" => .boolean t.value
        | "false" => .boolean t.value
        | "null" => .null
        | _ => .enum t.value
    | _ => unexpected t

/-- A value, which holds no variables if it is constant. -/
def literal (constant : Bool) : Parser Literal := do
  literalWithin constant (← fuel)

/-- A type, with the place of its name or of what stands inside its brackets. -/
def typeWithin : (fuel : Nat) → Parser TypeExpr
  | 0 => do unexpected (← peek)
  | fuel + 1 => do
    if ← skip .bracketL then
      let position := (← peek).position
      let elem ← typeWithin fuel
      discard (expect .bracketR)
      return .list position elem (← skip .bang)
    else
      let position := (← peek).position
      let name ← name
      return .named position name (← skip .bang)

/-- A type. -/
def typeExpr : Parser TypeExpr := do
  typeWithin (← fuel)

/-- An argument that is given to a directive. -/
def argument (constant : Bool) : Parser Argument := do
  let position := (← peek).position
  let name ← name
  discard (expect .colon)
  return ⟨position, name, ← literal constant⟩

/-- The directives that follow. -/
def directivesWithin (constant : Bool) : (fuel : Nat) → Parser (List DirectiveUse)
  | 0 => return []
  | fuel + 1 => do
    if ← skip .atSign then
      let position := (← peek).position
      let name ← name
      let args ← many .parenL .parenR (argument constant)
      let rest ← directivesWithin constant fuel
      return ⟨position, name, args⟩ :: rest
    else return []

/-- The directives that follow. -/
def directives (constant : Bool) : Parser (List DirectiveUse) := do
  directivesWithin constant (← fuel)

/-- The contents of a description, empty if there is none. -/
def description : Parser String := do
  let t ← peek
  if t.kind == .string || t.kind == .blockString then
    discard next
    return t.value
  else return ""

/-- The declaration of an argument. -/
def inputDefinition : Parser InputDefinition := do
  let position := (← peek).position
  let description ← description
  let name ← name
  discard (expect .colon)
  let type ← typeExpr
  let default? ← if ← skip .equals then pure (Option.some (← literal true)) else pure none
  return ⟨position, description, name, type, default?, ← directives true⟩

/-- The declaration of a field of an object or an interface. -/
def fieldDefinition : Parser FieldDefinition := do
  let position := (← peek).position
  let description ← description
  let name ← name
  let args ← Parser.some .parenL .parenR inputDefinition
  discard (expect .colon)
  let type ← typeExpr
  return ⟨position, description, name, args, type, none, ← directives true⟩

/-- The declaration of a field of an input object. -/
def inputFieldDefinition : Parser FieldDefinition := do
  let d ← inputDefinition
  return ⟨d.position, d.description, d.name, [], d.type, d.default?, d.directives⟩

/-- The declaration of an enum value. -/
def enumValueDefinition : Parser EnumValueDefinition := do
  let position := (← peek).position
  let description ← description
  let name ← name
  return ⟨position, description, name, ← directives true⟩

/-- The interfaces that a type implements. -/
def implements : Parser (List String) := do
  if (← peek).value == "implements" then
    discard next
    separated .amp name
  else return []

/-- The members of a union. -/
def unionMembers : Parser (List String) := do
  if ← skip .equals then separated .pipe name else return []

/-- The keyword of a kind. -/
def DefinitionKind.keyword : DefinitionKind → String
  | scalar => "scalar"
  | object => "type"
  | interface => "interface"
  | union => "union"
  | enum => "enum"
  | inputObject => "input"

/-- The kind of a keyword. -/
def DefinitionKind.ofKeyword? : String → Option DefinitionKind
  | "scalar" => Option.some scalar
  | "type" => Option.some object
  | "interface" => Option.some interface
  | "union" => Option.some union
  | "enum" => Option.some enum
  | "input" => Option.some inputObject
  | _ => none

/-- A declaration of the kind after its keyword, or the extension of one. -/
def definitionBody (kind : DefinitionKind) (extending : Bool) (description : String) :
    Parser Definition := do
  let position := (← peek).position
  let name ← name
  let interfaces ←
    if kind == .object || (kind == .interface && !extending) then implements else pure []
  let directives ← directives (!(extending && kind == .inputObject))
  let fields ← match kind with
    | .object => Parser.some .braceL .braceR fieldDefinition
    | .interface => Parser.some .braceL .braceR fieldDefinition
    | .inputObject => Parser.some .braceL .braceR inputFieldDefinition
    | _ => pure []
  let types ← if kind == .union then unionMembers else pure []
  let values ← if kind == .enum then Parser.some .braceL .braceR enumValueDefinition else pure []
  return ⟨kind, position, description, name, interfaces, directives, fields, types, values, false⟩

/-- Whether an extension adds something. -/
def Definition.adds (d : Definition) : Bool :=
  !d.interfaces.isEmpty || !d.directives.isEmpty || !d.fields.isEmpty || !d.types.isEmpty ||
    !d.enumValues.isEmpty

/-- The root of an operation. An invalid token in place of the operation is reported for itself. -/
def entrypoint : Parser Entrypoint := do
  let t ← next
  let operation ← match t.value with
    | "query" => pure Operation.query
    | "mutation" => pure .mutation
    | "subscription" => pure .subscription
    | text => if t.kind == .invalid then fail t text else unexpected t
  discard (expect .colon)
  return ⟨t.position, operation, ← name⟩

/-- The declaration of the roots of the schema, after its keyword. -/
def rootDefinition : Parser RootDefinition := do
  let position := (← peek).position
  let directives ← directives true
  return ⟨position, directives, ← Parser.some .braceL .braceR entrypoint⟩

/-- The places where a directive may be used. -/
def directiveLocations : List String :=
  ["QUERY", "MUTATION", "SUBSCRIPTION", "FIELD", "FRAGMENT_DEFINITION", "FRAGMENT_SPREAD",
   "INLINE_FRAGMENT", "SCHEMA", "SCALAR", "OBJECT", "FIELD_DEFINITION", "ARGUMENT_DEFINITION",
   "INTERFACE", "UNION", "ENUM", "ENUM_VALUE", "INPUT_OBJECT", "INPUT_FIELD_DEFINITION",
   "VARIABLE_DEFINITION"]

/-- A place where a directive may be used. -/
def directiveLocation : Parser String := do
  let t ← expect .name
  if directiveLocations.contains t.value then return t.value else unexpected t

/-- The declaration of a directive, after its keyword. -/
def directiveDefinition (description : String) : Parser DirectiveDefinition := do
  discard (expect .atSign)
  let position := (← peek).position
  let name ← name
  let args ← Parser.some .parenL .parenR inputDefinition
  let t ← peek
  if t.kind == .name && t.value == "repeatable" then discard next
  keyword "on"
  return ⟨position, description, name, args, ← separated .pipe directiveLocation⟩

/-- An extension, after its keyword. -/
def extension : Parser Document := do
  let t ← peek
  if t.value == "schema" then
    keyword "schema"
    let roots ← rootDefinition
    if roots.directives.isEmpty && roots.entrypoints.isEmpty then unexpected (← peek)
    else return { rootExtensions := [roots] }
  else match DefinitionKind.ofKeyword? t.value with
    | none => unexpected t
    | Option.some kind =>
      keyword kind.keyword
      let d ← definitionBody kind true ""
      if d.adds then return { extensions := [d] } else unexpected (← peek)

/-- A declaration with its description. -/
def declaration : Parser Document := do
  let before ← peek
  let description ← description
  let t ← peek
  if t.kind != .name then unexpected t
  else match t.value, DefinitionKind.ofKeyword? t.value with
    | _, Option.some kind =>
      discard next
      return { definitions := [← definitionBody kind false description] }
    | "schema", _ =>
      discard next
      return { roots := [← rootDefinition] }
    | "directive", _ =>
      discard next
      return { directives := [← directiveDefinition description] }
    | "extend", _ =>
      if description != "" then unexpected before
      else
        discard next
        extension
    | _, _ => unexpected t

/-- The declarations up to the end of the text. -/
def document : (fuel : Nat) → Parser Document
  | 0 => return {}
  | fuel + 1 => do
    if (← peek).kind == .eof then return {}
    else
      let first ← declaration
      return first.append (← document fuel)

/-- The document of a source text, whose types are built in or not. -/
def parseDocument (builtIn : Bool) (source text : String) : Except SyntaxError Document := do
  let tokens := tokens source text
  let (d, _) ← (document (tokens.length + 1)).run tokens
  return { d with
    definitions := d.definitions.map fun t => { t with builtIn }
    extensions := d.extensions.map fun t => { t with builtIn } }

end Bindery.Sdl
