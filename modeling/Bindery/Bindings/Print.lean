import Bindery.Bindings.Declaration
import Bindery.Source.Layout

/-!
# Source text of declarations

How each declaration of the generated package is written, which packages it uses and in which order,
and which names in it have to be legal.

## Main definitions

- `Declaration.packages` — the packages that a declaration uses, in the order of use
- `Declaration.isLegal` — whether the names of a declaration are legal where they stand
- `Declaration.item` — the source text of a declaration
-/

namespace Bindery

/-- The text of a tag as a literal, between back quotes if it can be. -/
def tagLiteral (text : String) : String :=
  let raw := text.toList.all fun c =>
    c == '\t' || !(c.toNat < 0x20 || c == '\x60' || c.toNat == 0x7f || c.toNat == 0xfeff)
  if raw then "\x60" ++ text ++ "\x60" else quoted text

/-- The cells of a member: its identifier and its type, as far as they are not empty, and its tag. -/
def Member.cells (imports : Source.Imports) (m : Member) : List String :=
  [m.ident, m.type.code imports].filter (· != "") ++ [tagLiteral ("json:\"" ++ m.tag ++ "\"")]

/-- Whether a member is legal. Without an identifier it embeds its type, which then cannot be a
list, and without a type it embeds the type that its identifier names. -/
def Member.isLegal (m : Member) : Bool :=
  match m.ident, m.type with
  | "", .list _ _ => false
  | "", type => type.isLegal
  | ident, .named _ "" "" false => Source.isIdentifier ident
  | ident, type => Source.isIdentifier ident && type.isLegal

/-- The rows of a comment. -/
def Comment.rows (c : Comment) : List Source.Row :=
  c.map .comment

namespace Declaration

/-- The packages that a declaration uses, in the order of use, where `runtime` is the package of
connections, selections and leaves. -/
def packages (runtime : String) : Declaration → List String
  | inputs _ _ members => members.flatMap (·.type.packages)
  | handle _ _ => [runtime, "os", runtime]
  | start _ _ _ _ => [runtime, "os", runtime]
  | accessor _ _ _ _ _ (.object _) => []
  | accessor _ _ _ _ _ (.leaf type) => runtime :: type.packages
  | newtype _ _ => []
  | constants _ _ => []
  | literal _ => ["io"]

/-- Whether the names of a declaration are legal where they stand. -/
def isLegal : Declaration → Bool
  | inputs _ ident members => Source.isIdentifier ident && members.all Member.isLegal
  | handle _ ident => Source.isIdentifier ident
  | start _ ident result _ => Source.isIdentifier ident && Source.isIdentifier result
  | accessor _ receiver method _ holder result =>
    Source.isIdentifier receiver && Source.isIdentifier method && holder.all Source.isIdentifier &&
      match result with
      | .object ident => Source.isTypeName ident
      | .leaf type => type.isLegal
  | newtype _ ident => Source.isIdentifier ident
  | constants type values => Source.isIdentifier type && values.all (Source.isIdentifier ·.ident)
  | literal type => Source.isIdentifier type

/-- The lines that return a new value with these members. -/
def returnLines (type : String) (members : List (String × String)) : List String :=
  ["\treturn &" ++ type ++ "\x7b"] ++
    (Source.alignCells 2 (members.map fun (name, value) => [name ++ ":", value ++ ","])).map ("\t\t" ++ ·) ++
    ["\t\x7d"]

/-- The source text of a declaration, where `runtime` is the package of connections, selections and
leaves. -/
def item (imports : Source.Imports) (runtime : String) : Declaration → Source.Item
  | inputs doc ident [] => ⟨doc, .lines ["type " ++ ident ++ " struct\x7b\x7d"]⟩
  | inputs doc ident members =>
    let rows := members.flatMap fun m => m.doc.rows ++ [.cells (m.cells imports)]
    ⟨doc, .table ("type " ++ ident ++ " struct \x7b") rows "\x7d"⟩
  | handle doc ident =>
    let name := imports.nameOf runtime
    let rows : List Source.Row :=
      [.cells ["conn", name ++ ".ConnectParams"], .cells ["proc", "*" ++ imports.nameOf "os" ++ ".Process"],
       .cells ["selection", "*" ++ name ++ ".Selection"]]
    ⟨doc, .table ("type " ++ ident ++ " struct \x7b") rows "\x7d"⟩
  | start doc ident result operation =>
    let name := imports.nameOf runtime
    let params := "(conn " ++ name ++ ".ConnectParams, proc *" ++ imports.nameOf "os" ++ ".Process)"
    let root := name ++ ".Root(" ++ quoted operation.keyword ++ ")"
    ⟨doc, .lines (["func " ++ ident ++ params ++ " *" ++ result ++ " \x7b"] ++
      returnLines result [("conn", "conn"), ("proc", "proc"), ("selection", root)] ++ ["\x7d"])⟩
  | accessor doc receiver method field holder result =>
    let params := holder.elim "()" fun h => "(args *" ++ h ++ ")"
    let args := holder.elim [] fun _ => ["\tq.Args(args)"]
    let (type, value) := match result with
      | .object ident =>
        (ident, returnLines ident [("conn", "r.conn"), ("proc", "r.proc"), ("selection", "q")])
      | .leaf type =>
        let leaf := imports.nameOf runtime ++ ".Leaf[" ++ type.code imports ++ "]"
        (leaf, returnLines leaf [("Conn", "r.conn"), ("Proc", "r.proc"), ("Selection", "q")])
    ⟨doc, .lines (
      ["func (r *" ++ receiver ++ ") " ++ method ++ params ++ " *" ++ type ++ " \x7b",
       "\tq := r.selection.Select(" ++ quoted field ++ ")"] ++ args ++ value ++ ["\x7d"])⟩
  | newtype doc ident => ⟨doc, .lines ["type " ++ ident ++ " string"]⟩
  | constants type values =>
    let rows := values.flatMap fun c =>
      c.doc.rows ++ [.cells [c.ident, type, "= " ++ quoted c.value]]
    ⟨[], .table "const (" rows ")"⟩
  | literal type =>
    let name := imports.nameOf "io"
    ⟨[], .lines
      ["func (e " ++ type ++ ") MarshalGQL(w " ++ name ++ ".Writer) \x7b",
       "\t" ++ name ++ ".WriteString(w, string(e))", "\x7d"]⟩

end Declaration

end Bindery
