import Bindery.Yaml.Phrase

/-!
# Documents of YAML

The phrases of a text are read as documents: scalars, sequences and mappings, each with the token where
it begins. Outside of brackets the columns say what belongs together.

## Main definitions

- `Yaml.Node` — a part of a document
- `Yaml.Reading` — what has been read of the document so far
- `Yaml.parse` — reads the documents of a text
-/

namespace Bindery.Yaml

/-- A part of a document, with the token where it begins. -/
inductive Node where
  | scalar (start : Token) (value : Plain)
  /-- A block scalar. -/
  | block (start : Token) (text : String)
  | mergeKey (start : Token)
  | sequence (start : Token) (items : List Node)
  /-- Keys and values. -/
  | mapping (start : Token) (entries : List (Node × Node))
  /-- A part with a name. -/
  | anchor (start : Token) (name : String) (value : Node)
  /-- The part that has a name. -/
  | reference (start : Token) (name : Token)
  /-- A part with a tag. With a directive for such tags the value is taken as a text. -/
  | tagged (start : Token) (asText : Bool) (value : Node)
  /-- A key after a question mark. -/
  | question (start : Token) (key : Node)
  | directive (start : Token)
  deriving Inhabited

namespace Node

/-- The token where a part begins. -/
def start : Node → Token
  | scalar t _ => t
  | block t _ => t
  | mergeKey t => t
  | sequence t _ => t
  | mapping t _ => t
  | anchor t _ _ => t
  | reference t _ => t
  | tagged t _ _ => t
  | question t _ => t
  | directive t => t

/-- The place where a part begins. -/
def place (n : Node) : Place :=
  n.start.place

/-- A null that is not written, right after a token. -/
def nullAfter (t : Token) : Node :=
  scalar t.implicitNull .null

/-- The text of a key. -/
def keyText : Node → String
  | question _ key => key.keyText
  | tagged _ _ value => value.keyText
  | anchor _ _ value => value.keyText
  | reference _ name => name.text
  | n => n.start.text

/-- Whether a key takes over the entries of another mapping. -/
def isMergeKey : Node → Bool
  | mergeKey _ => true
  | tagged _ _ value => value.isMergeKey
  | _ => false

/-- Whether a part is null. -/
def isNull : Node → Bool
  | scalar _ .null => true
  | _ => false

/-- Whether a part has no parts of its own. -/
def isScalar : Node → Bool
  | sequence _ _ => false
  | mapping _ _ => false
  | directive _ => false
  | _ => true

end Node

/-- A step on the way from a document to one of its parts. -/
inductive DocumentStep where
  | key (name : String)
  | index (position : Nat)
  deriving DecidableEq, Repr

/-- Where something is read: whether it stands inside of brackets, and the way to it. -/
structure Surroundings where
  inFlow : Bool := false
  path : List DocumentStep := []

/-- The surroundings one step further. -/
def Surroundings.add (c : Surroundings) (step : DocumentStep) : Surroundings :=
  { c with path := step :: c.path }

/-- The surroundings inside of brackets. -/
def Surroundings.flow (c : Surroundings) : Surroundings :=
  { c with inFlow := true }

/-- A key that has been read. -/
structure KnownKey where
  /-- The number of steps to it. -/
  depth : Nat
  /-- The way to it. -/
  path : List DocumentStep
  /-- The token where it begins. -/
  start : Token

/-- What has been read so far: the keys, and what the directives say. -/
structure Reading where
  keys : List KnownKey := []
  hasVersion : Bool := false
  hasTagDirective : Bool := false

/-- Reading that may fail. -/
abbrev Reader := StateT Reading (Except Error)

/-- An error at a phrase. -/
def failAt {α : Type} (p : Phrase) (text : String) : Reader α :=
  StateT.lift (fail p.place text)

/-- Checks that a key is on one line and that it is new, and notes it. -/
def noteKey (c : Surroundings) (key : Node) (colon : Token) : Reader Unit := do
  let t := key.start
  let path := .key key.keyText :: c.path
  let depth := path.length
  match (← get).keys.find? fun k => k.depth == depth && k.path == path with
  | some known =>
    StateT.lift (fail t.place ("mapping key " ++ quoted t.text ++ " already defined at [" ++
      toString known.start.place.line ++ ":" ++ toString known.start.place.column ++ "]"))
  | none =>
    let isBlank := fun (c : Char) => c == ' ' || isBreak c
    let left := t.source.dropWhile isBlank
    let source := if c.inFlow && t.isText then BlockScalar.dropEnd isBlank left else left
    if source.any isBreak then StateT.lift (fail t.place "unexpected key name")
    else if !c.inFlow && t.kind != .question && t.place.line < colon.place.line then
      StateT.lift (fail t.place "map key definition includes an implicit line break")
    else modify fun r => { r with keys := ⟨depth, path, t⟩ :: r.keys }

/-- The value that a tag of a scalar has if nothing follows it. -/
def defaultScalar (tag : Token) : Node :=
  let value : Plain × String := match tag.text with
    | "!!int" => (.integer false 0, "0")
    | "!!float" => (.float .zero, "0")
    | "!!bool" => (.bool false, "false")
    | "!!null" => (.null, "null")
    | _ => (.text "", "")
  .scalar ⟨.scalar value.1, value.2, value.2.toList, tag.place.shift 1⟩ value.1

/-- Whether a phrase belongs to a mapping. -/
def Phrase.isMapping (p : Phrase) : Bool :=
  match p with
  | .token t => t.kind == .mappingStart || t.kind == .mappingEnd
  | p => p.isKey

/-- Whether a phrase ends an entry in braces. -/
def Phrase.endsEntry (p : Phrase) : Bool :=
  p.kind == .mappingEnd || p.kind == .comma

/-- Checks a tag on a line below its anchor: it has to be deeper than the key or the hyphen. -/
def checkAnchored (column : Nat) : Node → Reader Unit
  | .anchor start _ (.tagged tag _ _) =>
    if start.place.line != tag.place.line && tag.place.column ≤ column then
      StateT.lift (fail tag.place "tag is not allowed in this context")
    else return
  | _ => return

/-- Checks what follows an entry: nothing may be deeper than its key. -/
def checkAfterEntry (c : Surroundings) (key : Phrase) : List Phrase → Reader Unit
  | [] => return
  | p :: _ =>
    if p.column ≤ key.column || c.inFlow && (p.kind == .comma || p.kind == .sequenceEnd) then return
    else failAt p "value is not allowed in this context. map key-value is pre-defined"

/-- The versions that can be asked for. -/
def versions : List String :=
  ["1.0", "1.1", "1.2", "1.3"]

/-- Takes in a directive. -/
def readDirective (start : Token) (name : String) (values : List Token) : Reader Node := do
  let reject := fun {α : Type} (t : Token) (text : String) => (StateT.lift (fail t.place text) : Reader α)
  if name == "YAML" then
    match values with
    | [version] =>
      if !versions.contains version.text then reject version ("unknown YAML version " ++ quoted version.text)
      else if (← get).hasVersion then reject version "YAML version has already been specified"
      else
        modify fun r => { r with hasVersion := true }
        return .directive start
    | _ => reject start "unexpected format YAML directive"
  else if name == "TAG" then
    match values with
    | [handle, _] =>
      if handle.text == "!!" then modify fun r => { r with hasTagDirective := true }
      return .directive start
    | _ => reject start "unexpected format TAG directive"
  else return .directive start

mutual

/-- Reads a part of a document, and returns the phrases after it. -/
def readNode : (fuel : Nat) → Surroundings → List Phrase → Reader (Node × List Phrase)
  | 0, _, _ => StateT.lift (.error .empty)
  | _ + 1, _, [] => StateT.lift (.error .empty)
  | fuel + 1, c, p :: rest => do
    match p with
    | .group .key _ _ | .group .entry _ _ => readMapping fuel c (p :: rest)
    | .group .directive first values =>
      return (← readDirectiveOf fuel c first (values.map (·.head)), rest)
    | .group .directiveName _ _ => return (← readDirectiveOf fuel c p [], rest)
    | .group .anchorName _ _ =>
      let (anchor, rest) ← readNamed fuel c p rest
      return (anchor, rest)
    | .group _ _ _ =>
      let (node, _) ← readScalar fuel c (p :: rest)
      return (node, rest)
    | .token t =>
      match t.kind with
      | .tag => readTag fuel c t rest
      | .mappingStart => readFlowMapping fuel c.flow t true [] rest
      | .sequenceStart => readFlowSequence fuel c.flow t true [] rest
      | .entry => readSequence fuel c t [] (p :: rest)
      | .sequenceEnd => failAt p "could not find '[' character corresponding to ']'"
      | .mappingEnd => failAt p "could not find '\x7b' character corresponding to '\x7d'"
      | .colon => failAt p "found an invalid key for this map"
      | _ =>
        let (node, _) ← readScalar fuel c (p :: rest)
        return (node, rest)

/-- Reads a directive after its name. -/
def readDirectiveOf : (fuel : Nat) → Surroundings → Phrase → List Token → Reader Node
  | 0, _, _, _ => StateT.lift (.error .empty)
  | fuel + 1, c, p, values => do
    match p with
    | .group _ first (name :: _) =>
      let (node, _) ← readScalar fuel c [name]
      if values.isEmpty then return .directive first.head
      else readDirective first.head node.start.text values
    | p => failAt p "could not find directive value"

/-- Reads a part after the anchor that gives it a name. -/
def readNamed : (fuel : Nat) → Surroundings → Phrase → List Phrase → Reader (Node × List Phrase)
  | 0, _, _, _ => StateT.lift (.error .empty)
  | fuel + 1, c, p, rest => do
    match p with
    | .group _ first (name :: _) =>
      let (node, _) ← readScalar fuel c [name]
      match rest with
      | [] => failAt p "could not find anchor value"
      | rest =>
        let (value, rest) ← readNode fuel c rest
        match value with
        | .anchor t _ _ => StateT.lift (fail t.place "anchors cannot be used consecutively")
        | value => return (.anchor first.head node.start.text value, rest)
    | p => failAt p "could not find anchor value"

/-- Reads a scalar. The phrases that are returned begin with the scalar, unless it took more than one of
them. -/
def readScalar : (fuel : Nat) → Surroundings → List Phrase → Reader (Node × List Phrase)
  | 0, _, _ => StateT.lift (.error .empty)
  | _ + 1, _, [] => StateT.lift (.error .empty)
  | fuel + 1, c, p :: rest => do
    match p with
    | .group .anchor name values =>
      let (node, _) ← readNamed fuel c name values
      return (node, p :: rest)
    | .group .anchorName _ _ => readNamed fuel c p rest
    | .group .reference first others =>
      match others with
      | [] => failAt first "could not find alias value"
      | name :: _ =>
        let (node, _) ← readScalar fuel c [name]
        return (.reference first.head node.start, p :: rest)
    | .group .block first others =>
      match others with
      | [] => return (.block first.head "", p :: rest)
      | text :: _ =>
        if text.head.isText || text.kind == .quoted then
          return (.block first.head text.head.text, p :: rest)
        else failAt text "unexpected token. required string token"
    | .group .tagged first others =>
      let (node, _) ← readTag fuel c first.head others
      match node with
      | .tagged _ _ value =>
        if value.isScalar then return (node, p :: rest) else failAt p "specified not scalar tag"
      | node => return (node, p :: rest)
    | .group _ _ _ => failAt p "unexpected scalar value"
    | .token t =>
      match t.kind with
      | .mergeKey => return (.mergeKey t, p :: rest)
      | .scalar v => return (.scalar t v, p :: rest)
      | .quoted => return (.scalar t (.text t.text), p :: rest)
      | .tag => readTag fuel c t rest
      | _ => failAt p "unexpected scalar value type"

/-- Reads a part after its tag. -/
def readTag : (fuel : Nat) → Surroundings → (tag : Token) → List Phrase → Reader (Node × List Phrase)
  | 0, _, _, _ => StateT.lift (.error .empty)
  | fuel + 1, c, tag, phrases => do
    match phrases with
    | [] => return (.tagged tag false (.nullAfter tag), [])
    | p :: rest =>
      let close := fun (found : Node × List Phrase) => (Node.tagged tag false found.1, found.2)
      if (← get).hasTagDirective then
        return (.tagged tag true (.scalar p.head (.text p.head.text)), phrases)
      else if tag.text == "!!map" || tag.text == "!!set" then
        if !p.isMapping then failAt p "could not find map"
        else if p.kind == .mappingStart then
          return close (← readFlowMapping fuel c.flow p.head true [] rest)
        else return close (← readMapping fuel c phrases)
      else if tag.text == "!!seq" || tag.text == "!!omap" then
        if p.kind == .sequenceStart then
          return close (← readFlowSequence fuel c.flow p.head true [] rest)
        else return close (← readSequence fuel c p.head [] phrases)
      else if scalarTags.contains tag.text || tag.text == "!!merge" then
        if p.groupKind == some .block then
          let (node, _) ← readScalar fuel c phrases
          return close (node, phrases)
        else if p.kind == .comma || p.kind == .colon then return close (defaultScalar tag, phrases)
        else
          let (node, phrases) ← readScalar fuel c phrases
          return close (node, phrases.drop 1)
      else if tag.text.startsWith "!!" then
        StateT.lift (fail tag.place
          ("unknown secondary tag name " ++ quoted tag.text ++ " specified"))
      else return close (← readNode fuel c phrases)

/-- Reads a key. -/
def readKey : (fuel : Nat) → Surroundings → (first : Phrase) → (others : List Phrase) → Reader Node
  | 0, _, _, _ => StateT.lift (.error .empty)
  | fuel + 1, c, first, others => do
    let last := others.getLast?.getD first
    if first.kind == .question then
      let keys := match first with
        | .group _ _ keys => keys
        | _ => others
      match keys with
      | [] => failAt first "could not find value for mapping key"
      | keys =>
        let (value, _) ← readScalar fuel c keys
        let key := Node.question first.head value
        noteKey c key last.head
        return key
    else if last.kind != .colon then failAt last "expected map key-value delimiter ':'"
    else
      let (key, _) ← readScalar fuel c (first :: others)
      noteKey c key last.head
      return key

/-- Reads a mapping whose keys begin in the column of its first one. -/
def readMapping : (fuel : Nat) → Surroundings → List Phrase → Reader (Node × List Phrase)
  | 0, _, _ => StateT.lift (.error .empty)
  | _ + 1, _, [] => StateT.lift (.error .empty)
  | fuel + 1, c, p :: rest => do
    let (colon, entry, rest) ← match p with
      | .group .entry (.group _ first others) values =>
        let key ← readKey fuel c first others
        let (value, _) ← readNode fuel (c.add (.key key.keyText)) values
        checkAfterEntry c p rest
        pure ((others.getLast?.getD first).head, (key, value), rest)
      | .group _ first others =>
        let key ← readKey fuel c first others
        let last := (others.getLast?.getD first).head
        match rest with
        | next :: _ =>
          if p.line == next.line && next.kind == .entry then
            failAt next "block sequence entries are not allowed in this context"
        | [] => pure ()
        let (value, rest) ← readValue fuel (c.add (.key key.keyText)) key last rest
        pure (last, (key, value), rest)
      | p => failAt p "unexpected map key"
    match rest with
    | [] => return (.mapping colon [entry], [])
    | next :: after =>
      if next.column != p.column || c.inFlow && next.kind == .sequenceEnd then
        return (.mapping colon [entry], rest)
      else if !next.isMapping then failAt next "non-map value is specified"
      else if next.kind == .mappingEnd then return (.mapping colon [entry], after)
      else match ← readMapping fuel c rest with
        | (.mapping _ entries, rest) => return (.mapping colon (entry :: entries), rest)
        | (_, rest) => return (.mapping colon [entry], rest)

/-- Reads the value of a key. A key without a value has none if what follows is not deeper. -/
def readValue : (fuel : Nat) → Surroundings → (key : Node) → (colon : Token) → List Phrase →
    Reader (Node × List Phrase)
  | 0, _, _, _, _ => StateT.lift (.error .empty)
  | _ + 1, _, _, colon, [] => return (.nullAfter colon, [])
  | fuel + 1, c, key, colon, p :: rest => do
    let column := key.place.column
    let sameLine := p.line == key.place.line
    let isName := p.groupKind == some .anchorName
    let named := readNamed fuel c p [.token p.head.implicitNull]
    let endsName := fun (next : Option Phrase) =>
      next.any fun q => q.column == column && q.isMapping
    if p.column != column && sameLine && p.isKey then
      failAt p "mapping value is not allowed in this context"
    else if p.column == column && p.isMapping then return (.nullAfter colon, p :: rest)
    else if sameLine && isName && endsName rest.head? then return ((← named).1, rest)
    else if p.column ≤ column && isName then failAt p "anchor is not allowed in this context"
    else if p.column ≤ column && p.kind == .tag then failAt p "tag is not allowed in this context"
    else if p.column < column then return (.nullAfter colon, p :: rest)
    else if sameLine && isName && rest.head?.all (·.column < column) then return ((← named).1, rest)
    else
      let (value, rest) ← readNode fuel c (p :: rest)
      checkAnchored column value
      return (value, rest)

/-- Reads a sequence whose hyphens stand in the column of its first one. -/
def readSequence : (fuel : Nat) → Surroundings → (start : Token) → (done : List Node) → List Phrase →
    Reader (Node × List Phrase)
  | 0, _, _, _, _ => StateT.lift (.error .empty)
  | fuel + 1, c, start, done, phrases => do
    match phrases with
    | [] => return (.sequence start done, [])
    | p :: rest =>
      if p.kind != .entry || p.column != start.place.column then return (.sequence start done, phrases)
      else
        let (value, rest) ← readItem fuel (c.add (.index done.length)) start rest
        readSequence fuel c start (done ++ [value]) rest

/-- Reads an item of a sequence. A hyphen without an item has none if what follows is not deeper. -/
def readItem : (fuel : Nat) → Surroundings → (start : Token) → List Phrase → Reader (Node × List Phrase)
  | 0, _, _, _ => StateT.lift (.error .empty)
  | _ + 1, _, start, [] => return (.nullAfter start, [])
  | fuel + 1, c, start, p :: rest => do
    let column := start.place.column
    let sameLine := p.line == start.place.line
    let isName := p.groupKind == some .anchorName
    let named := readNamed fuel c p [.token p.head.implicitNull]
    let endsName := fun (next : Option Phrase) =>
      next.any fun q => q.column == column && q.kind == .entry
    if p.column == column && p.kind == .entry then return (.nullAfter start, p :: rest)
    else if sameLine && isName && endsName rest.head? then return ((← named).1, rest)
    else if p.column ≤ column && isName then
      failAt p "anchor is not allowed in this sequence context"
    else if p.column ≤ column && p.kind == .tag then
      failAt p "tag is not allowed in this sequence context"
    else if p.column < column then return (.nullAfter start, p :: rest)
    else if sameLine && isName && rest.head?.all (·.column < column) then return ((← named).1, rest)
    else
      let (value, rest) ← readNode fuel c (p :: rest)
      checkAnchored column value
      return (value, rest)

/-- Reads the items of a sequence in brackets. -/
def readFlowSequence : (fuel : Nat) → Surroundings → (start : Token) → (isFirst : Bool) →
    (done : List Node) → List Phrase → Reader (Node × List Phrase)
  | 0, _, _, _, _, _ => StateT.lift (.error .empty)
  | fuel + 1, c, start, isFirst, done, phrases => do
    let unclosed : Reader (Node × List Phrase) :=
      StateT.lift (fail start.place "sequence end token ']' not found")
    match phrases with
    | [] => unclosed
    | p :: rest =>
      if p.kind == .sequenceEnd then return (.sequence start done, rest)
      else if p.kind == .comma && isFirst then failAt p "expected sequence element, but found ','"
      else if p.kind != .comma && !isFirst then failAt p "',' or ']' must be specified"
      else
        match if p.kind == .comma then rest else phrases with
        | [] => unclosed
        | q :: more =>
          if q.kind == .sequenceEnd then return (.sequence start done, more)
          else
            let (value, rest) ← readNode fuel (c.add (.index done.length)) (q :: more)
            readFlowSequence fuel c start false (done ++ [value]) rest

/-- Reads the entries of a mapping in braces. -/
def readFlowMapping : (fuel : Nat) → Surroundings → (start : Token) → (isFirst : Bool) →
    (done : List (Node × Node)) → List Phrase → Reader (Node × List Phrase)
  | 0, _, _, _, _, _ => StateT.lift (.error .empty)
  | fuel + 1, c, start, isFirst, done, phrases => do
    match phrases with
    | [] => StateT.lift (fail start.place "could not find flow mapping end token '\x7d'")
    | p :: rest =>
      if p.kind == .mappingEnd then return (.mapping start done, rest)
      else if p.kind != .comma && !isFirst then failAt p "',' or '\x7d' must be specified"
      else
        match if p.kind == .comma then rest else phrases with
        | [] => failAt p "could not find flow map content"
        | q :: more =>
          if q.kind == .mappingEnd then return (.mapping start done, more)
          else match q with
            | .group .entry (.group _ first others) values =>
              let key ← readKey fuel c first others
              let (value, _) ← readNode fuel (c.add (.key key.keyText)) values
              readFlowMapping fuel c start false (done ++ [(key, value)]) more
            | .group .key first others =>
              let key ← readKey fuel c first others
              let last := (others.getLast?.getD first).head
              match more with
              | [] => StateT.lift (fail last.place "could not find map value")
              | next :: _ =>
                if next.endsEntry then
                  readFlowMapping fuel c start false (done ++ [(key, .nullAfter last)]) more
                else
                  let (value, rest) ← readNode fuel (c.add (.key key.keyText)) more
                  readFlowMapping fuel c start false (done ++ [(key, value)]) rest
            | q =>
              if more.head?.any (·.endsEntry) then
                let (key, phrases) ← readScalar fuel c (q :: more)
                readFlowMapping fuel c start false (done ++ [(key, .nullAfter q.head)]) (phrases.drop 1)
              else failAt q "could not find flow map content"

end

/-- Reads a document, none if it has no content. -/
def readDocument (phrases : List Phrase) : Reader (Option Node) := do
  let body := if phrases.head?.any (·.kind == .documentStart) then phrases.drop 1 else phrases
  let isEnded := body.getLast?.any (·.kind == .documentEnd)
  let body := if isEnded then body.dropLast else body
  if body.isEmpty then return none
  else
    modify fun r => { r with keys := [] }
    let (node, rest) ← readNode (64 * body.length + 64) {} body
    match rest with
    | [] =>
      if isEnded then modify fun r => { r with hasVersion := false }
      return some node
    | p :: _ => failAt p "value is not allowed in this context"

/-- Reads the documents of a text. -/
def parse (text : String) : Except Error (List Node) := do
  let parts ← documents (← phrases (← scan text))
  let (nodes, _) ← (parts.mapM readDocument).run {}
  return nodes.filterMap id

end Bindery.Yaml
