import GrammarWorkbench.Lexeme.Basic
import GrammarWorkbench.Parse.Checkpoint

/-!
# Notifications

When parsing passes a checkpoint it gives notice of it, together with what is known at that moment:
the next lexeme, the position of the last one that was consumed, and the errors so far.
-/

namespace GrammarWorkbench

/-- Notice that parsing has passed a checkpoint. -/
structure Notification where
  checkpoint : Checkpoint
  /-- The next lexeme, absent at the end of the source. -/
  lookahead : Option Lexeme
  /-- The position of the last consumed lexeme, or line and column zero before the first one. -/
  current : Position
  errorCount : Nat := 0
  firstError : Option Position := none
deriving DecidableEq, Repr

/-- The name that the next lexeme gives to a symbol, or nothing. -/
def Notification.name (n : Notification) : Text :=
  (n.lookahead.map Lexeme.symbolName).getD []

end GrammarWorkbench
