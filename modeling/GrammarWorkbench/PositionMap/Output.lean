import GrammarWorkbench.PositionMap.Basic

/-!
# Output that knows its place

Text is written piece by piece, and the output always knows the line and the column, counted from
zero, at which the next byte will stand. Pieces of a grammar are written together with their place
in the grammar, and every non-empty line of such a piece is recorded as a run.

A line feed directly after a carriage return belongs to the same line break, also when the two are
written separately.
-/

namespace GrammarWorkbench

/-- The text written so far, and the place of the next byte. -/
structure TrackedOutput where
  text : Text := []
  line : Nat := 0
  column : Nat := 0
  /-- Whether the last character was a carriage return that ended a line. -/
  afterReturn : Bool := false
deriving DecidableEq, Repr

namespace TrackedOutput

/-- Write one character. -/
def writeChar (o : TrackedOutput) (c : Char) : TrackedOutput :=
  let o := { o with text := o.text ++ [c] }
  if c = '\n' then
    if o.afterReturn then { o with afterReturn := false }
    else { o with line := o.line + 1, column := 0 }
  else if c = '\r' then { o with line := o.line + 1, column := 0, afterReturn := true }
  else { o with column := o.column + c.utf8Size, afterReturn := false }

/-- Write a text. -/
def write (o : TrackedOutput) (t : Text) : TrackedOutput :=
  t.foldl writeChar o

/-- Write a text and a line feed. -/
def writeLine (o : TrackedOutput) (t : Text) : TrackedOutput :=
  (o.write t).write ['\n']

/-- The lines of a text with their terminators. The last one has none. -/
def splitLines : Text → List (Text × Text)
  | [] => [([], [])]
  | '\r' :: '\n' :: t => ([], ['\r', '\n']) :: splitLines t
  | c :: t =>
    if c = '\r' ∨ c = '\n' then ([], [c]) :: splitLines t
    else
      match splitLines t with
      | [] => [([c], [])]
      | (line, stop) :: rest => (c :: line, stop) :: rest

/-- Write the lines of a piece of a grammar that stands at the given place, and record them. -/
def writeLinesMapped (o : TrackedOutput) (m : PositionMap) (line column : Nat) :
    List (Text × Text) → TrackedOutput × PositionMap
  | [] => (o, m)
  | (part, stop) :: rest =>
    let m := if part.isEmpty then m else m.record ⟨o.line, o.column, line, column, part.size⟩
    let o := o.write part
    if stop.isEmpty then writeLinesMapped o m line column rest
    else writeLinesMapped (o.write stop) m (line + 1) 0 rest

/-- **Write a piece of a grammar** that stands at the given place, and record its lines. -/
def writeMapped (o : TrackedOutput) (m : PositionMap) (t : Text) (line column : Nat) :
    TrackedOutput × PositionMap :=
  o.writeLinesMapped m line column (splitLines t)

end TrackedOutput

end GrammarWorkbench
