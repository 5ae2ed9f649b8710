import GrammarWorkbench.Highlight
import GrammarWorkbench.Source.LineIndex
import GrammarWorkbench.Symbol

/-!
# Documents and editor positions

An editor counts lines and columns from zero, and its columns are UTF-16 code units. A document is a
text with its line index, and turns positions of one kind into positions of the other.

The **content** of a line is the line without its terminator. A column past the content is taken
back to its end. A byte column inside a character is taken back to the start of the character; an
editor column inside a character is taken forward to its end.
-/

namespace GrammarWorkbench

/-- A position as an editor counts it. -/
structure EditorPosition where
  line : Nat
  character : Nat
deriving DecidableEq, Repr

/-- A stretch of text between two positions. -/
structure EditorRange where
  start : EditorPosition
  stop : EditorPosition
deriving DecidableEq, Repr

/-- A part of a line: the line, and where the part starts and how long it is, in UTF-16 units. -/
structure LineSegment where
  line : Nat
  start : Nat
  length : Nat
deriving DecidableEq, Repr

/-- A text with its line index. -/
structure Document where
  text : Text
  index : LineIndex
deriving DecidableEq, Repr

namespace Document

/-- The document with a given text. -/
def ofText (t : Text) : Document :=
  ⟨t, .ofText t⟩

/-- A line without its terminator. -/
def dropTerminator (line : Text) : Text :=
  (line.reverse.dropWhile fun c => c == '\r' || c == '\n').reverse

/-- The offset at which a line starts, and its content. -/
def content? (d : Document) (line : Nat) : Option (Nat × Text) :=
  (d.index.lineStart? line).map fun start =>
    let stop := (d.index.lineStart? (line + 1)).getD d.text.size
    (start, dropTerminator (d.text.slice start stop))

/-- The content of a line. There is nothing past the last line. -/
def lineText (d : Document) (line : Nat) : Text :=
  ((d.content? line).map Prod.snd).getD []

/-- A position of the source as an editor counts it. -/
def toEditor (d : Document) (p : Position) : EditorPosition :=
  let line := p.line - 1
  ⟨line, Text.units ((d.lineText line).takeBytes (p.column - 1))⟩

/-- A position of an editor as the source counts it. -/
def toSource (d : Document) (p : EditorPosition) : Position :=
  ⟨p.line + 1, Text.size ((d.lineText p.line).takeUnits p.character) + 1⟩

/-- The stretch between two positions of the source. -/
def range (d : Document) (start stop : Position) : EditorRange :=
  ⟨d.toEditor start, d.toEditor stop⟩

/-- The stretch of a symbol. -/
def symbolRange (d : Document) (s : Symbol) : EditorRange :=
  d.range s.position s.stop

/-- The part of a line that lies between two offsets, if there is any. -/
def segment? (d : Document) (start stop line : Nat) : Option LineSegment :=
  match d.content? line with
  | none => none
  | some (lineStart, content) =>
    let first := max start lineStart
    let last := min stop (lineStart + Text.size content)
    if first < last then
      some ⟨line, Text.units (d.text.slice lineStart first), Text.units (d.text.slice first last)⟩
    else none

/-- **The parts of the lines** between two offsets, without their terminators. -/
def segments (d : Document) (start stop : Nat) : List LineSegment :=
  let first := (d.index.locate start).1
  ((List.range d.index.lineCount).filter (first ≤ ·)).filterMap (d.segment? start stop)

end Document

/-- A highlighted part of a line, by its distance from the one before: lines, columns within one
line, length, and the number of its kind. -/
structure HighlightDelta where
  line : Nat
  start : Nat
  length : Nat
  kind : Nat
deriving DecidableEq, Repr

namespace HighlightDelta

/-- The segments of all highlighted stretches, with the numbers of their kinds. -/
def segmentsOf (d : Document) (hs : List Highlight) : List (LineSegment × Nat) :=
  hs.flatMap fun h =>
    (d.segments h.start h.stop).map fun s => (s, HighlightKind.all.idxOf h.kind)

/-- The distances between segments, starting from a line and a column. -/
def encode (line start : Nat) : List (LineSegment × Nat) → List HighlightDelta
  | [] => []
  | (s, kind) :: rest =>
    ⟨s.line - line, if s.line = line then s.start - start else s.start, s.length, kind⟩ ::
      encode s.line s.start rest

/-- **The highlighting of a text** as an editor wants it. -/
def ofText (t : Text) : List HighlightDelta :=
  encode 0 0 (segmentsOf (.ofText t) (Highlight.ofSource t))

end HighlightDelta

end GrammarWorkbench
