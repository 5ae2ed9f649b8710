import GrammarWorkbench.Text.Basic

/-!
# The order of texts

Texts are ordered by their first different character, and a text comes before the texts that it is a
beginning of. This is also the order of their UTF-8 forms, byte by byte.
-/

namespace GrammarWorkbench.Text

/-- Whether a text comes before another one or is the same. -/
def le : Text → Text → Bool
  | [], _ => true
  | _ :: _, [] => false
  | a :: s, b :: t => if a = b then le s t else a.toNat < b.toNat

end GrammarWorkbench.Text
