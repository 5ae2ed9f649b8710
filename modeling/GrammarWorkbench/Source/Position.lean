import GrammarWorkbench.Text.Basic

/-!
# Positions in a source

A position is a line and a column, both counted from one, the column in bytes. Positions are ordered
by line and then by column.
-/

namespace GrammarWorkbench

/-- A place in a source: a line and a column in it. -/
structure Position where
  line : Nat
  column : Nat
deriving DecidableEq, Repr

namespace Position

/-- Lines first, columns second. -/
instance : LT Position where
  lt p q := p.line < q.line ∨ (p.line = q.line ∧ p.column < q.column)

theorem lt_iff {p q : Position} :
    p < q ↔ p.line < q.line ∨ (p.line = q.line ∧ p.column < q.column) := Iff.rfl

instance (p q : Position) : Decidable (p < q) :=
  inferInstanceAs (Decidable (p.line < q.line ∨ (p.line = q.line ∧ p.column < q.column)))

/-- Whether a position lies strictly before another one. -/
def isBefore (p q : Position) : Bool :=
  decide (p < q)

/-- The usual way to write a position: line, colon, column. -/
def display (p : Position) : Text :=
  Text.ofNat p.line ++ ':' :: Text.ofNat p.column

end Position

end GrammarWorkbench
