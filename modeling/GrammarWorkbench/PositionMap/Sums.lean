import GrammarWorkbench.PositionMap.Basic
import GrammarWorkbench.Text.Numeral

/-!
# Looking up with sums of 64 bits

The numbers of a map that is read from a file are any numbers of 64 bits, so that the end of a run
and the column of its grammar may be too great for 64 bits. What becomes of such a sum depends on how
the program is built: either it is **cut** to 64 bits, or the program **stops**.

So looking up is written down once for any way of adding, `GrammarWorkbench.PositionMap.lookupBy`. A
way of adding gives its sum in a monad: `GrammarWorkbench.Sum64.wrapping` always has one, and
`GrammarWorkbench.Sum64.checked` has none where the program stops.
-/

namespace GrammarWorkbench

namespace Sum64

/-- A sum that is cut to 64 bits. -/
def wrapping (a b : Nat) : Id Nat :=
  (a + b) % Text.numeralLimit

/-- A sum of 64 bits. There is none if the program stops. -/
def checked (a b : Nat) : Option Nat :=
  if a + b < Text.numeralLimit then some (a + b) else none

end Sum64

variable {μ : Type → Type} [Monad μ] (add : Nat → Nat → μ Nat)

/-- Whether a position of the generated file lies in a run. The end of the run is computed only if
the position does not come before it. -/
def MapRun.coversBy (r : MapRun) (line column : Nat) : μ Bool :=
  if r.line = line ∧ r.column ≤ column then do
    let stop ← add r.column r.length
    pure (decide (column < stop))
  else pure false

/-- The place of the grammar from which a covered position comes. -/
def MapRun.originBy (r : MapRun) (column : Nat) : μ (Nat × Nat) := do
  let targetColumn ← add r.targetColumn (column - r.column)
  pure (r.targetLine, targetColumn)

namespace PositionMap

/-- The place of the grammar from which a position of the generated file comes, by the first of some
runs that covers it. -/
def lookupRunsBy (line column : Nat) : List MapRun → μ (Option (Nat × Nat))
  | [] => pure none
  | r :: runs => do
    if ← r.coversBy add line column then
      let origin ← r.originBy add column
      pure (some origin)
    else lookupRunsBy line column runs

/-- **The place of the grammar from which a position of the generated file comes**, for any way of
adding. -/
def lookupBy (m : PositionMap) (line column : Nat) : μ (Option (Nat × Nat)) :=
  lookupRunsBy add line column m.runs

end PositionMap

end GrammarWorkbench
