import GrammarWorkbench.Text.Basic

/-!
# Position maps

A generated file contains pieces that were copied from a grammar. A position map lists them as
**runs**: a stretch of one line of the generated file, and the place of the grammar where it comes
from. Lines and columns count from zero here, columns in bytes.

A run that continues the last one in both files is merged with it. A position of the generated file
is looked up in the first run that covers it.
-/

namespace GrammarWorkbench

/-- A stretch of a line that was copied from a grammar. -/
structure MapRun where
  line : Nat
  column : Nat
  /-- The line of the grammar. -/
  targetLine : Nat
  /-- The column of the grammar. -/
  targetColumn : Nat
  length : Nat
deriving DecidableEq, Repr

namespace MapRun

/-- Whether the second run starts where the first one stops, in both files. -/
def continuedBy (r next : MapRun) : Bool :=
  r.line == next.line && r.column + r.length == next.column && r.targetLine == next.targetLine &&
    r.targetColumn + r.length == next.targetColumn

/-- Whether a position of the generated file lies in a run. -/
def covers (r : MapRun) (line column : Nat) : Bool :=
  r.line == line && decide (r.column ≤ column) && decide (column < r.column + r.length)

/-- The place of the grammar from which a covered position comes. -/
def origin (r : MapRun) (column : Nat) : Nat × Nat :=
  (r.targetLine, r.targetColumn + (column - r.column))

end MapRun

/-- The runs of a generated file, and the grammar that they come from. -/
structure PositionMap where
  grammar : Text
  runs : List MapRun := []
deriving DecidableEq, Repr

namespace PositionMap

/-- Runs with one more, merged with the last one if it continues it. -/
def extend : List MapRun → MapRun → List MapRun
  | [], r => [r]
  | [last], r =>
    if last.continuedBy r then [{ last with length := last.length + r.length }] else [last, r]
  | first :: second :: rest, r => first :: extend (second :: rest) r

/-- Record a run. -/
def record (m : PositionMap) (r : MapRun) : PositionMap :=
  { m with runs := extend m.runs r }

/-- The place of the grammar from which a position of the generated file comes. -/
def lookup (m : PositionMap) (line column : Nat) : Option (Nat × Nat) :=
  (m.runs.find? (·.covers line column)).map (·.origin column)

end PositionMap

end GrammarWorkbench
