import Bindery.Data.Decode

/-!
# Errors in responses

The errors that a server reports in its response, and how they are told to a person.

## Main definitions

- `PathStep`, `ServerError` — an error, with the place in the query and in the answer
- `ServerError.decode` — decodes an error
- `ServerError.text`, `errorsText` — the texts of an error and of a list of errors
-/

namespace Bindery

open Json (Scan Fault Pointer Decoder misfit checkForm decodeString decodeList decodeOption decodeRecord)

/-- A step of the way to the part of the answer that has an error. -/
inductive PathStep where
  | name (text : String)
  | index (n : Int)
  deriving DecidableEq, Repr, Inhabited

/-- A place in a query. -/
structure QueryPlace where
  /-- The line, from one on. -/
  line : Int
  /-- The column, from one on. -/
  column : Int
  deriving DecidableEq, Repr, Inhabited

/-- An error that a server reports. -/
structure ServerError where
  /-- What went wrong. -/
  message : String
  /-- The way to the part of the answer that has the error. -/
  path : List PathStep
  /-- The places in the query. -/
  places : List QueryPlace
  /-- What else the server tells. -/
  extensions : List (String × Value)
  deriving Inhabited

/-- The whole part of a floating point number, as a number of 64 bits. -/
def Binary.truncate : Binary → Int
  | finite negative m k =>
    let n : Int := if 0 ≤ k then m * Nat.pow 2 k.toNat else m / Nat.pow 2 (-k).toNat
    let n := if negative then -n else n
    if IntegerKind.int64.holds n then n else -(Nat.pow 2 63 : Int)
  | _ => -(Nat.pow 2 63 : Int)

/-- The steps of a path: names and numbers, the whole parts of which count. -/
def PathStep.ofItems (p : Pointer) : List Scan → Except Fault (List PathStep)
  | [] => .ok []
  | .string s _ :: rest => (ofItems p rest).map (.name s :: ·)
  | .number digits :: rest =>
    match Binary.read? .double digits.toList with
    | some x => if x.isFinite then (ofItems p rest).map (.index x.truncate :: ·) else misfit p
    | none => misfit p
  | _ => misfit p

/-- Decodes a path. The value is read to its end before it is looked at. -/
def PathStep.decodePath : Decoder (List PathStep) := fun p _ v => do
  checkForm true p v
  match v with
  | .null => return []
  | .array items _ _ => PathStep.ofItems p items
  | _ => misfit p

/-- Decodes a whole number. -/
def decodeInt : Decoder Int := fun p _ v => do
  match ← Value.decodeInteger .int {} p v with
  | .integer _ n => return n
  | _ => return 0

/-- Decodes a place in a query. -/
def QueryPlace.decode : Decoder QueryPlace :=
  decodeRecord
    [.of "line" QueryPlace.line (fun x q => { q with line := x }) decodeInt,
      .of "column" QueryPlace.column (fun x q => { q with column := x }) decodeInt]

/-- Decodes members of any type. -/
def decodeExtensions : Decoder (List (String × Value)) := fun p _ v =>
  match v with
  | .null => .ok []
  | .object members stop _ =>
    (Value.decodeAnyMembers p stop members).map fun es =>
      (members.map (·.1)).zip (es.map (·.2))
  | v => Json.unfit p v

/-- Decodes an error. -/
def ServerError.decode : Decoder ServerError :=
  decodeRecord
    [.of "message" ServerError.message (fun x e => { e with message := x }) decodeString,
      .of "path" ServerError.path (fun x e => { e with path := x }) PathStep.decodePath,
      .of "locations" (fun e => some e.places) (fun x e => { e with places := x.getD [] })
        (decodeList QueryPlace.decode),
      .of "extensions" ServerError.extensions (fun x e => { e with extensions := x })
        decodeExtensions]

/-- The text of a path from one of its steps on. -/
def PathStep.textFrom : (first : Bool) → List PathStep → String
  | _, [] => ""
  | first, .name s :: rest => (if first then s else "." ++ s) ++ textFrom false rest
  | _, .index n :: rest => "[" ++ toString n ++ "]" ++ textFrom false rest

/-- The file that an error is about, which the server may tell. -/
def ServerError.file (e : ServerError) : String :=
  match e.extensions.find? (·.1 == "file") with
  | some (_, .interface _ (.text _ o)) => if o.isEmpty then "input" else o.lossy
  | _ => "input"

/-- The text of an error: the file with the first place, the path and the message. -/
def ServerError.text (e : ServerError) : String :=
  let place := match e.places with
    | [] => ""
    | q :: _ => ":" ++ toString q.line ++ ":" ++ toString q.column
  let path := PathStep.textFrom true e.path
  e.file ++ place ++ ": " ++ (if path == "" then "" else path ++ " ") ++ e.message

/-- The texts of errors, each on a line. An empty entry is an empty line. -/
def errorsText (es : List (Option ServerError)) : String :=
  String.join (es.map fun e => (e.elim "" ServerError.text) ++ "\n")

end Bindery
