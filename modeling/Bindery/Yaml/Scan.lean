import Bindery.Yaml.Quoted

/-!
# Cutting a text into tokens

The text is read character by character. A character that has a meaning of its own where it stands makes a
token, and every other one is added to the scalar that is collected.

## Main definitions

- `Yaml.Scanner.blockStep` — a character of a block scalar
- `Yaml.Scanner.mark?` — a character with a meaning of its own
- `Yaml.Scanner.step` — one step
- `Yaml.scan` — the tokens of a text
-/

namespace Bindery.Yaml

namespace Scanner

/-- Makes a token of the block scalar that is collected. -/
def endBlock (s : Scanner) : Scanner :=
  let text := String.ofList s.collected
  (s.emit ⟨.scalar (.text text), text, s.source.all, s.place⟩).clear

/-- Passes a character of a block scalar. -/
def blockStep (s : Scanner) (b : BlockScalar) (c : Char) : Except Error Scanner :=
  let s := s.addSource c
  let isPair := c == '\r' && s.following == some '\n'
  let s := if isPair then (s.addSource '\n').skip 1 else s
  let c := if isPair then '\n' else c
  let column := s.place.column
  let misplaced := fun {α : Type} (text : String) => (fail s.place text : Except Error α)
  let wrongDepth := "invalid number of indent is specified in the multi-line header"
  if s.isLast then
    let (b, text) :=
      if s.atLineStart && c == ' ' then b.addIndentation s.text column else (b, s.text.add c)
    let b := b.beginLine column
    if b.breaksOptions then misplaced wrongDepth
    else .ok ({ s with block := some b, text }.endBlock.advance 1)
  else if isBreak c then
    let s := { s.addText c with block := some (b.endLine column) }.newLine
    .ok (if startsWithSeparator s.rest then s.endBlock else s)
  else if s.atLineStart && c == ' ' then
    let (b, text) := b.addIndentation s.text column
    .ok ({ s with block := some b, text }.advance 1)
  else if s.atLineStart && c == '\t' && b.isIndentation column then
    misplaced "found a tab character where an indentation space is expected"
  else if c == '\t' && !b.isIndentation column then
    .ok ({ s with text := s.text.addWithTab c }.advance 1)
  else if b.isTooShallow column then
    misplaced "invalid number of indent is specified after space only"
  else
    let b := b.beginLine column
    if b.breaksOptions then misplaced wrongDepth
    else
      let delimiter := if 1 < b.first then b.first - 1 else s.delimiter
      let (b, text) := b.fold s.text column
      .ok ({ s with block := some b, text := text.addWithTab c, delimiter }.advance 1)

/-- Reads a scalar in quotes. -/
def quote (s : Scanner) (c : Char) : Except Error Scanner := do
  let start := s.place
  let opened := (s.addSource c).advance 1
  let fuel := opened.rest.length + 1
  let (value, s) ← if c == '\'' then readSingle start fuel false [] opened
    else readDouble start fuel false [] opened
  return (s.emit ⟨.quoted, String.ofList value, s.source.all, start⟩).clear

/-- Passes a line break outside of quotes and of block scalars. It is a blank, and an empty line after others
of the scalar is a line break, but either counts only if more of the scalar follows. -/
def lineBreak (s : Scanner) (c : Char) : Scanner :=
  let s :=
    if 0 < s.text.length && s.saved.isNone then
      { s with saved := some { s.place with column := s.place.column - s.collected.length } }
    else s
  let s :=
    if s.source.kept < s.source.length then { s with source := s.source.trim, text := s.text.trim } else s
  let isPair := c == '\r' && s.following == some '\n'
  let s := if isPair then (s.addSource '\r').skip 1 else s
  let c := if isPair then '\n' else c
  let s := if s.isLast || s.inName || s.inDirective then s.flush else s
  let s :=
    if s.isCollecting && s.atLineStart then
      let base := if s.text.characters.head? == some ' ' then
          { s.text with characters := s.text.characters.drop 1 }
        else s.text
      { s with text := { base with characters := '\n' :: base.characters } }
    else s.addText ' '
  (s.addSource c).newLine

/-- Passes a comment. -/
def comment (s : Scanner) : Scanner :=
  let s := s.flush
  let body := (s.rest.drop 1).takeWhile (!isBreak ·)
  let s := s.emit ⟨.comment, String.ofList body, [], s.place⟩
  ((s.skip (1 + body.length)).newLine).clear

/-- Whether a colon with a blank or a line break after it comes next. -/
def startsWithColon : List Char → Bool
  | ':' :: c :: rest => c == ' ' || isBreak c || startsWithColon (c :: rest)
  | ' ' :: rest => startsWithColon rest
  | _ => false

/-- Whether a merge key stands here: two less-than signs before a colon. -/
def isMergeKey (s : Scanner) : Bool :=
  (s.rest.takeWhile (· == '<')).length == 2 && startsWithColon (s.rest.drop 2)

/-- Reads a tag. It ends at a blank, at the end of its line and, inside of brackets, at a comma. -/
def tag (s : Scanner) : Except Error Scanner :=
  let ends := fun (c : Char) =>
    c == ' ' || isBreak c || c == '\x7b' || c == '\x7d' || c == ',' && s.inFlow
  let name := (s.rest.drop 1).takeWhile (!ends ·)
  let after := s.rest.drop (1 + name.length)
  let text := '!' :: name
  let tagged := (s.emit ⟨.tag, String.ofList text, s.source.all ++ text, s.place⟩).clear
  match after with
  | [] => .ok (s.advance text.length).clear
  | c :: _ =>
    if c == '\x7b' || c == '\x7d' then
      fail (s.place.shift text.length) ("found invalid tag character " ++ quotedCharacter c)
    else
      let passed := if c == ' ' then text.length + 1 else text.length
      let columns := if c == ' ' then text.length else text.length - 1
      .ok { tagged.skip passed with place := s.place.shift columns }

/-- Begins a block scalar. Its options stand on the line of the mark. -/
def blockHeader (s : Scanner) (style : BlockStyle) (mark : Char) : Except Error Scanner :=
  let body := s.rest.drop 1
  let line := body.takeWhile (!isBreak ·)
  let after := body.drop line.length
  let isPair := after.take 2 == ['\r', '\n']
  -- without a line break after it the last character does not count
  let header := if after.isEmpty then line.dropLast else line
  let shown := BlockScalar.dropEnd (· == ' ') header
  let noted := 0 < (shown.takeWhile (· != '#')).length && shown.contains '#'
  let options := BlockScalar.dropEnd (fun c => c == ' ' || c == '\t')
    (if noted then shown.takeWhile (· != '#') else shown)
  if !BlockScalar.optionsFit options then
    fail s.place ("invalid header option: " ++ quoted (String.ofList options))
  else
    let delimiter := if s.place.column == 1 then 1 else s.delimiter
    let t : Token := ⟨.block, String.ofList (mark :: options), s.source.all, s.place⟩
    let s := { s with delimiter }.emit t
    let s := if shown.contains '#' then s.emit ⟨.comment, "", [], s.place⟩ else s
    let passed := 1 + header.length + (if isPair then 1 else 0)
    .ok { (s.skip passed).newLine with
      indentation := .same
      text := {}
      source := {}
      block := some (.start style delimiter options) }

/-- Whether the colon that stands here follows a key. -/
def isKeyColon (s : Scanner) : Bool :=
  let next := s.following
  if s.inDirective || s.inName then false
  else if 0 < s.mappings then
    next != some '/' && !s.tokens.head?.any (·.kind == .colon)
  else next.all fun c => c == ' ' || c == '\t' || isBreak c

/-- Whether a tab stands before the first character of what is collected. -/
def followsTab (s : Scanner) : Bool :=
  let source := s.source.all
  (if source.head? == some ' ' then source.drop 1 else source).head? == some '\t'

/-- Makes tokens of a key and its colon. -/
def keyColon (s : Scanner) : Except Error Scanner :=
  if s.followsTab && s.text.all.head? != some '\t' then
    fail s.place "tab character cannot use as a map key directly"
  else
    let flushed := s.flush
    let isQuoted := flushed.tokens.head?.any (·.kind == .quoted)
    let delimiter := match flushed.tokens.head? with
      | some t => if s.isCollecting || isQuoted then t.place.column else s.delimiter
      | none => s.delimiter
    .ok ({ flushed with delimiter }.mark .colon ":")

/-- Passes a hyphen, if it has a meaning of its own. -/
def hyphen? (s : Scanner) : Except Error (Option Scanner) :=
  let atStart := s.indent == 0 && s.place.column == 1
  let after := s.rest.drop 3
  if atStart && (s.rest.takeWhile (· == '-')).length == 3 &&
      after.head?.all fun c => c == ' ' || c == '\t' || isBreak c then
    .ok (some { s.flush.mark .documentStart "---" with delimiter := 0, indent := 0 })
  else if s.isCollecting && s.indentation == .deeper then
    let block := (BlockScalar.start .continued 0 []).beginLine s.place.column
    .ok (some (({ s with block := some block }.addText '-').addSource '-' |>.advance 1))
  else if s.isCollecting || !s.following.all fun c => c == ' ' || c == '\t' || isBreak c then .ok none
  else if s.followsTab then fail s.place "tab character cannot use as a sequence delimiter"
  else .ok (some { s.mark .entry "-" with delimiter := s.place.column })

/-- Passes a blank, if it has a meaning of its own. -/
def blank? (s : Scanner) : Option Scanner :=
  if s.atLineStart then some ((s.addSource ' ').advance 1)
  else if s.inDirective then some ((s.flush.addSource ' ').advance 1)
  else if s.inName then some { s.flush with inName := false }
  else none

/-- Passes a tab, if it has a meaning of its own. -/
def tab? (s : Scanner) : Except Error (Option Scanner) :=
  if s.isCollecting && s.delimiter == 0 || s.delimiter < s.place.column then
    .ok (some { (s.addSource '\t').skip 1 with indent := s.indent + 1 })
  else if s.inFlow || !s.atLineStart then .ok none
  else fail s.place "found character '\t' that cannot start any token"

/-- Passes a character that has a meaning of its own, none if it has not. -/
def mark? (s : Scanner) (c : Char) : Except Error (Option Scanner) :=
  let collecting := s.isCollecting
  let only := fun (b : Bool) (s : Scanner) => (.ok (if b then some s else none) : Except Error (Option Scanner))
  match c with
  | '\x7b' =>
    only (!collecting || s.inFlow) { s.flush.mark .mappingStart "\x7b" with mappings := s.mappings + 1 }
  | '\x7d' =>
    only (0 < s.mappings) { s.flush.mark .mappingEnd "\x7d" with mappings := s.mappings - 1 }
  | '.' =>
    only (s.indent == 0 && s.place.column == 1 && (s.rest.takeWhile (· == '.')).length == 3)
      (s.flush.mark .documentEnd "...")
  | '<' => only s.isMergeKey { s.mark .mergeKey "<<" with delimiter := s.place.column }
  | '-' => s.hyphen?
  | '[' => only (!collecting || s.inFlow) { s.flush.mark .sequenceStart "[" with sequences := s.sequences + 1 }
  | ']' =>
    only (!collecting || 0 < s.sequences) { s.flush.mark .sequenceEnd "]" with sequences := s.sequences - 1 }
  | ',' => only s.inFlow (s.flush.mark .comma ",")
  | ':' => if s.isKeyColon then s.keyColon.map some else .ok none
  | '|' => if collecting then .ok none else (s.blockHeader .literal c).map some
  | '>' => if collecting then .ok none else (s.blockHeader .folded c).map some
  | '!' => if collecting || s.inDirective then .ok none else s.tag.map some
  | '%' => only (!collecting && s.indent == 0) { s.mark .directive "%" with inDirective := true }
  | '?' =>
    only (!collecting && s.following.any fun c => c == ' ' || c == '\t')
      { s.mark .question "?" with delimiter := s.place.column }
  | '&' => only (!collecting) { s.mark .anchor "&" with inName := true }
  | '*' => only (!collecting) { s.mark .reference "*" with inName := true }
  | '#' =>
    let separated := s.previous.all fun c => c == ' ' || c == '\t' || isBreak c
    only (!collecting || separated) s.comment
  | '\'' => if collecting then .ok none else (s.quote c).map some
  | '"' => if collecting then .ok none else (s.quote c).map some
  | '\r' => .ok (some (s.lineBreak c))
  | '\n' => .ok (some (s.lineBreak c))
  | ' ' => .ok s.blank?
  | '@' => if collecting then .ok none else fail s.place (quotedCharacter c ++ " is a reserved character")
  | '\x60' => if collecting then .ok none else fail s.place (quotedCharacter c ++ " is a reserved character")
  | '\t' => s.tab?
  | _ => .ok none

/-- Passes a character outside of block scalars. -/
def plainStep (s : Scanner) (c : Char) : Except Error Scanner := do
  match ← s.mark? c with
  | some s => return s
  | none => return ((s.addText c).addSource c).advance 1

/-- One step. A line that is not indented deeper than the last key or hyphen ends the scalar, and a block
scalar without lines is empty. -/
def step (s : Scanner) (c : Char) : Except Error Scanner :=
  let s := s.beginCharacter c
  let s := if s.indentation == .notDeeper then s.flush else s
  match s.block with
  | none => s.plainStep c
  | some b =>
    if s.indentation != .notDeeper then s.blockStep b c
    else match s.tokens.head? with
      | none => { s with block := none }.plainStep c
      | some t =>
        if t.place.column == 1 then fail s.place "could not find multi-line content"
        else
          let s := if t.isText then s else s.emit ⟨.scalar (.text ""), "", [], s.place⟩
          { s with block := none }.plainStep c

/-- Reads the text to its end. -/
def run : (fuel : Nat) → Scanner → Except Error Scanner
  | 0, s => .ok s
  | fuel + 1, s =>
    match s.rest with
    | [] => .ok s.flush
    | c :: _ => do run fuel (← s.step c)

end Scanner

/-- The tokens of a text, without its comments. -/
def scan (text : String) : Except Error (List Token) := do
  let s ← Scanner.run (2 * text.length + 2) { rest := text.toList }
  return s.tokens.reverse.filter (·.kind != .comment)

end Bindery.Yaml
