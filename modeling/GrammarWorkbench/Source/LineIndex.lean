import GrammarWorkbench.Source.Buffer
import GrammarWorkbench.Source.Position

/-!
# The lines of a source

A line ends with a line feed, with a carriage return, or with both in that order; the pair is one
terminator. A line index holds the byte offset at which each line starts and the size of the whole
text, and turns offsets into lines and columns and back.

* `GrammarWorkbench.LineIndex.ofText` is the index of a text;
* `GrammarWorkbench.LineIndex.locate` gives the zero-based line and column of an offset;
* `GrammarWorkbench.LineIndex.position` gives them counted from one;
* `GrammarWorkbench.LineIndex.offset?` is the way back. A column may lie on the terminator of its
  line, but not past it.
-/

namespace GrammarWorkbench

/-- The starts of the lines of a text, and the size of the text. -/
structure LineIndex where
  starts : List Nat
  size : Nat
deriving DecidableEq, Repr

namespace LineIndex

/-- Whether a line ends after the character `c` that is followed by `rest`. -/
def endsLine (c : Char) (rest : Text) : Bool :=
  c == '\n' || (c == '\r' && rest.head? != some '\n')

/-- The starts of the lines that begin inside the text `t`, which itself begins at `offset`. -/
def startsFrom (offset : Nat) : Text → List Nat
  | [] => []
  | c :: t =>
    let next := offset + c.utf8Size
    if endsLine c t then next :: startsFrom next t else startsFrom next t

/-- The line index of a text. -/
def ofText (t : Text) : LineIndex where
  starts := 0 :: startsFrom 0 t
  size := t.size

/-- The line index of the text of a buffer, whose cursor stays where it is. -/
def scan (b : Buffer) : LineIndex × Buffer :=
  b.preserving fun b => (ofText (b.seek 0).rest, b.seek b.size)

/-- The number of lines. A text without a terminator is one line. -/
def lineCount (index : LineIndex) : Nat :=
  index.starts.length

/-- The offset at which a line starts. -/
def lineStart? (index : LineIndex) (line : Nat) : Option Nat :=
  index.starts[line]?

/-- The zero-based line and column of an offset: the last line that starts at or before it. -/
def locate (index : LineIndex) (offset : Nat) : Nat × Nat :=
  let line := (index.starts.takeWhile (· ≤ offset)).length - 1
  (line, offset - index.starts.getD line 0)

/-- The position of an offset, counted from one. -/
def position (index : LineIndex) (offset : Nat) : Position :=
  let (line, column) := index.locate offset
  ⟨line + 1, column + 1⟩

/-- The offset of a zero-based line and column, if the line has such a column. -/
def offset? (index : LineIndex) (line column : Nat) : Option Nat :=
  match index.starts[line]? with
  | none => none
  | some start =>
    match index.starts[line + 1]? with
    | some next => if start + column < next then some (start + column) else none
    | none => if start + column ≤ index.size then some (start + column) else none

end LineIndex

end GrammarWorkbench
