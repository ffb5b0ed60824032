import Bindery.Text.Quoted
import Bindery.Yaml.Scan

/-!
# Phrases

Tokens that belong together are taken together before a document is read: an anchor with its name, a tag
with its scalar, a key with its colon and, if it stands on the same line, with its scalar.

## Main definitions

- `Yaml.Phrase` — a token, or phrases that belong together
- `Yaml.phrases` — the phrases of tokens
- `Yaml.documents` — the phrases of each document
-/

namespace Bindery.Yaml

/-- What phrases make up together. -/
inductive PhraseKind where
  /-- An anchor and its name. -/
  | anchorName
  /-- An anchor with its name, and a scalar. -/
  | anchor
  /-- The mark of a reference, and a name. -/
  | reference
  /-- The mark of a block scalar, and its text. -/
  | block
  /-- A tag and a scalar. -/
  | tagged
  /-- A key and its colon, or a question mark and a key. -/
  | key
  /-- A key and a scalar. -/
  | entry
  /-- A directive and its name. -/
  | directiveName
  /-- A directive with its name, and its values. -/
  | directive
  deriving DecidableEq, Repr, Inhabited

/-- A token, or phrases that belong together. -/
inductive Phrase where
  | token (value : Token)
  | group (kind : PhraseKind) (first : Phrase) (others : List Phrase)
  deriving Inhabited

namespace Phrase

/-- The first token. -/
def head : Phrase → Token
  | token t => t
  | group _ first _ => first.head

/-- What the first token is. -/
def kind (p : Phrase) : TokenKind :=
  p.head.kind

/-- What the phrases of a group make up. -/
def groupKind : Phrase → Option PhraseKind
  | token _ => none
  | group kind _ _ => some kind

/-- The place of the first token. -/
def place (p : Phrase) : Place :=
  p.head.place

/-- The line of the first token. -/
def line (p : Phrase) : Nat :=
  p.place.line

/-- The column of the first token. -/
def column (p : Phrase) : Nat :=
  p.place.column

/-- Whether a phrase has a key. -/
def isKey (p : Phrase) : Bool :=
  p.groupKind == some .key || p.groupKind == some .entry

/-- Whether a phrase is a scalar or begins one. -/
def isScalar (p : Phrase) : Bool :=
  !p.isKey && match p.kind with
    | .scalar _ | .quoted | .anchor | .reference | .block => true
    | _ => false

/-- Whether a phrase can be a key before a colon. -/
def canBeKey (p : Phrase) : Bool :=
  match p.kind with
  | .directive | .documentStart | .documentEnd | .comma | .mappingStart | .mappingEnd | .colon
  | .sequenceStart | .sequenceEnd | .entry => false
  | _ => true

/-- Whether a phrase begins a collection. -/
def isCollection (p : Phrase) : Bool :=
  match p.kind with
  | .mappingStart | .mappingEnd | .sequenceStart | .entry => true
  | _ => false

/-- Whether a phrase separates documents. -/
def isSeparator (p : Phrase) : Bool :=
  p.kind == .documentStart || p.kind == .documentEnd

end Phrase

/-- Takes the marks of block scalars and their texts together. -/
def joinBlocks : List Phrase → List Phrase
  | [] => []
  | p :: rest =>
    if p.kind != .block then p :: joinBlocks rest
    else match rest with
      | [] => [.group .block p []]
      | text :: rest => .group .block p [text] :: joinBlocks rest

/-- Takes anchors and references and their names together, and anchors with the scalars after them on
the line. -/
def joinNames : List Phrase → Except Error (List Phrase)
  | [] => .ok []
  | p :: rest =>
    if p.kind == .anchor then
      match rest with
      | [] => fail p.place "undefined anchor name"
      | [_] => fail p.place "undefined anchor value"
      | name :: value :: rest =>
        let named := Phrase.group .anchorName p [name]
        if p.line == value.line && value.kind == .entry then
          fail value.place "sequence entries are not allowed after anchor on the same line"
        else if p.line == value.line && value.isScalar then
          (joinNames rest).map (.group .anchor named [value] :: ·)
        else (joinNames (value :: rest)).map (named :: ·)
    else if p.kind == .reference then
      match rest with
      | [] => fail p.place "undefined alias name"
      | name :: rest => (joinNames rest).map (.group .reference p [name] :: ·)
    else (joinNames rest).map (p :: ·)

/-- The tags of scalars. -/
def scalarTags : List String :=
  ["!!int", "!!float", "!!str", "!!binary", "!!timestamp", "!!bool", "!!null"]

/-- Whether a tag is taken together with what follows it: with a scalar on its line. -/
def takesNext (p next : Phrase) : Except Error Bool :=
  let tag := p.head.text
  if p.kind != .tag || p.line != next.line || next.groupKind == some .anchorName then .ok false
  else if tag == "!!merge" then
    if next.kind == .mergeKey then .ok true else fail next.place "could not find merge key"
  else if scalarTags.contains tag then .ok next.isScalar
  else .ok (!tag.startsWith "!!" && !next.isCollection)

/-- Takes tags and the scalars after them on the line together. -/
def joinTags : List Phrase → Except Error (List Phrase)
  | p :: next :: rest => do
    if ← takesNext p next then return .group .tagged p [next] :: (← joinTags rest)
    else return p :: (← joinTags (next :: rest))
  | rest => .ok rest

/-- Takes anchors and the tagged scalars after them on the line together. -/
def joinTaggedAnchors : List Phrase → List Phrase
  | p :: next :: rest =>
    if p.groupKind == some .anchorName && p.line == next.line && next.groupKind == some .tagged then
      .group .anchor p [next] :: joinTaggedAnchors rest
    else p :: joinTaggedAnchors (next :: rest)
  | rest => rest

/-- Takes question marks and the keys after them together. -/
def joinQuestions : List Phrase → Except Error (List Phrase)
  | [] => .ok []
  | p :: rest =>
    if p.kind != .question then (joinQuestions rest).map (p :: ·)
    else match rest with
      | [] => fail p.place "undefined map key"
      | key :: rest => (joinQuestions rest).map (.group .key p [key] :: ·)

/-- Takes keys and the colons after them together. The phrases before are given, the last one first. -/
def joinColons : (before : List Phrase) → (afterColon : Bool) → List Phrase → Except Error (List Phrase)
  | before, _, [] => .ok before.reverse
  | before, afterColon, p :: rest =>
    if p.kind != .colon then joinColons (p :: before) false rest
    else match before with
      | [] => fail p.place "unexpected key name"
      | key :: others =>
        if afterColon || !key.canBeKey then fail p.place "found an invalid key for this map"
        else joinColons (.group .key key [p] :: others) true rest

/-- Takes keys and the scalars after them on the line together. -/
def joinEntries : List Phrase → List Phrase
  | p :: next :: rest =>
    if p.groupKind == some .key && p.line == next.line && next.groupKind != some .anchorName &&
        (next.isScalar || next.groupKind == some .tagged) then
      .group .entry p [next] :: joinEntries rest
    else p :: joinEntries (next :: rest)
  | rest => rest

/-- Takes directives and what stands after them on the line together. A document has to follow. -/
def joinDirectives : List Phrase → Except Error (List Phrase)
  | [] => .ok []
  | p :: rest =>
    if p.kind != .directive then (joinDirectives rest).map (p :: ·)
    else match rest with
      | [] => fail p.place "undefined directive value"
      | name :: rest =>
        let values := rest.takeWhile (·.line == p.line)
        let after := rest.drop values.length
        let named := Phrase.group .directiveName p [name]
        if after.head?.any (·.kind == .documentStart) then
          (joinDirectives after).map
            ((if values.isEmpty then named else .group .directive named values) :: ·)
        else fail p.place "unexpected directive value. document not started"
  termination_by phrases => phrases.length
  decreasing_by all_goals simp_all <;> omega

/-- The phrases of each document. Nothing is read after two lines that begin documents one after the
other. -/
def documents (phrases : List Phrase) : Except Error (List (List Phrase)) := do
  let before := phrases.takeWhile (!·.isSeparator)
  match h : phrases.drop before.length with
  | [] => return [phrases]
  | p :: after =>
    if p.kind == .documentStart then
      let done := if before.isEmpty then [] else [before]
      match after with
      | [] => return done ++ [[p]]
      | next :: _ =>
        if next.kind == .documentStart then return done ++ [[p]]
        else if p.line == next.line && (next.isKey || next.kind == .entry) then
          fail next.place "value cannot be placed after document separator"
        else match ← documents after with
          | [] => return done ++ [[p]]
          | first :: others => return done ++ (p :: first) :: others
    else
      let done := if before.isEmpty then [] else [before ++ [p]]
      match after with
      | [] => return done
      | next :: _ =>
        if next.isScalar then fail next.place "unexpected end content"
        else return done ++ (← documents after)
  termination_by phrases.length
  decreasing_by
    all_goals
      have := congrArg List.length h
      simp at this
      omega

/-- The phrases of tokens. -/
def phrases (tokens : List Token) : Except Error (List Phrase) := do
  let named ← joinNames (joinBlocks (tokens.map .token))
  let tagged ← joinTags named
  let keys ← joinColons [] false (← joinQuestions (joinTaggedAnchors tagged))
  joinDirectives (joinEntries keys)

end Bindery.Yaml
