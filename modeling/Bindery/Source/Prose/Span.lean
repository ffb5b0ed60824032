import Bindery.Source.Prose.Line

/-!
# Spans of a documentation comment

The lines of a comment fall into spans: paragraphs, headings, lists and code. Indented lines are
code or lists. Some lines that are not indented are taken as if they were, since they belong to the
indented lines that follow.

## Main definitions

- `Prose.SpanKind` and `Prose.Span` — some lines of a comment and what they are
- `Prose.spans` — the spans of the lines of a comment
-/

namespace Bindery.Prose

/-- What the lines of a span are. -/
inductive SpanKind where
  | code
  | list
  | heading
  | plainHeading
  | paragraph
  deriving DecidableEq, Repr

/-- Some neighbouring lines of a comment. -/
structure Span where
  /-- What the lines are. -/
  kind : SpanKind
  /-- The lines. -/
  lines : List Line
  /-- Whether blank lines stand before the span. -/
  spaced : Bool
  deriving DecidableEq, Repr

/-- The line with the given number, empty beyond the last one. -/
def lineAt (ls : List Line) (i : Nat) : Line :=
  ls.getD i []

/-- The first of the `count` numbers from `i` on that fails `p`, or the one after them. -/
def advance (p : Nat → Bool) : (count i : Nat) → Nat
  | 0, i => i
  | n + 1, i => if p i then advance p n (i + 1) else i

/-- Where the indented lines end that go on at `i`. Lines before `force` count as indented. Items
that are not indented are taken while `items` holds, which ends at a blank line. -/
def indentedEnd (ls : List Line) (force : Nat) : (count : Nat) → (items : Bool) → (i : Nat) → Nat
  | 0, _, i => i
  | n + 1, items, i =>
    let l := lineAt ls i
    if l.isEmpty then indentedEnd ls force n false (i + 1)
    else if i < force || isIndented l || (items && isItem l) then
      indentedEnd ls force n items (i + 1)
    else i

/-- The end of the lines before `stop` without blank ones, but after `start`. -/
def dropBlankEnd (ls : List Line) (start : Nat) : (stop : Nat) → Nat
  | 0 => 0
  | n + 1 => if start < n + 1 && (lineAt ls n).isEmpty then dropBlankEnd ls start n else n + 1

/-- The start of the items that end before `stop`, but not before `start`. -/
def itemsStart (ls : List Line) (start : Nat) : (stop : Nat) → Nat
  | 0 => 0
  | n + 1 => if start < n + 1 && isItem (lineAt ls n) then itemsStart ls start n else n + 1

/-- The kind and the end of the indented span that begins at `start`. A closing brace at the margin
right after it belongs to it. -/
def indentedSpan (ls : List Line) (force start : Nat) : SpanKind × Nat :=
  let first := lineAt ls start
  let stop := indentedEnd ls force (ls.length - (start + 1)) (isItem first && start < force) (start + 1)
  let stop := dropBlankEnd ls start stop
  let stop := if stop < ls.length && ['\x7d'].isPrefixOf (lineAt ls stop) then stop + 1 else stop
  (if isItem first then .list else .code, stop)

/-- Whether the line at `i` stands alone as a heading without a mark: blank lines around it, and
text at the margin after that. -/
def standsAlone (ls : List Line) (i : Nat) : Bool :=
  0 < i && (lineAt ls (i - 1)).isEmpty && i + 2 < ls.length && (lineAt ls (i + 1)).isEmpty &&
    !isIndented (lineAt ls (i + 2))

/-- The kind, the end and the new bound of forced indentation of the span that begins with the
unindented line at `start`. -/
def unindentedSpan (ls : List Line) (force start : Nat) : SpanKind × Nat × Nat :=
  let stop := advance (fun i => !(lineAt ls i).isEmpty && !isIndented (lineAt ls i))
    (ls.length - (start + 1)) (start + 1)
  let next := lineAt ls stop
  let last := lineAt ls (stop - 1)
  let (stop', force) :=
    if stop < ls.length && !next.isEmpty && !isItem next then
      if isItem last then (itemsStart ls start (stop - 1), stop)
      else if last.getLast? == some '\x7b' || last.getLast? == some '\\' then (stop - 1, stop)
      else (stop, force)
    else (stop, force)
  if stop' == start then
    let (kind, stop') := indentedSpan ls force start
    (kind, stop', force)
  else if stop' == start + 1 && isHeading (lineAt ls start) then (.heading, stop', force)
  else if stop' == start + 1 && standsAlone ls start && isPlainHeading (lineAt ls start) then
    (.plainHeading, stop', force)
  else (.paragraph, stop', force)

/-- The spans from line `i` on, at most `fuel` of them. The last span ended at `prev`, and lines
before `force` count as indented. -/
def spansFrom (ls : List Line) : (fuel prev force i : Nat) → List Span
  | 0, _, _, _ => []
  | fuel + 1, prev, force, i =>
    let start := advance (fun i => (lineAt ls i).isEmpty) (ls.length - i) i
    if ls.length ≤ start then []
    else
      let (kind, stop, force) :=
        if start < force || isIndented (lineAt ls start) then
          let (kind, stop) := indentedSpan ls force start
          (kind, stop, force)
        else unindentedSpan ls force start
      ⟨kind, (ls.drop start).take (stop - start), prev < start⟩ :: spansFrom ls fuel stop force stop

/-- The spans of the lines of a comment. -/
def spans (ls : List Line) : List Span :=
  spansFrom ls (ls.length + 1) 0 0 0

end Bindery.Prose
