import GrammarWorkbench.Text.Basic

/-!
# Character classes given by ranges

A class of characters is listed as its ranges of code points, both ends included.
-/

namespace GrammarWorkbench.Text

/-- The classes of characters that are given as ranges of code points. -/
abbrev Ranges := List (Nat × Nat)

/-- Whether a character lies in one of the ranges. -/
def Ranges.contains (table : Ranges) (c : Char) : Bool :=
  table.any fun (first, last) => first ≤ c.toNat && c.toNat ≤ last

end GrammarWorkbench.Text
