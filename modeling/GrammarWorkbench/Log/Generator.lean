import GrammarWorkbench.Log.Basic
import GrammarWorkbench.Parse.Diagnostic
import GrammarWorkbench.Text.Lines

/-!
# What the parser generator prints

The generator prints an error of a grammar on a line of its own: two dashes, the word *line* and a
number, the word *col* and a number, a colon, and the message. Blanks are free, but there is at
least one before and after the number of the line, and before that of the column. All other lines
are of no interest.
-/

namespace GrammarWorkbench.Log

/-- The digits of the line and the column, and the message. -/
def generatorParts? (t : Text) : Option (Text × Text × Text) := do
  let t ← Text.after? "--".toList (skipBlanks t)
  let t ← Text.after? "line".toList (skipBlanks t)
  let (line, t) ← digits? (← skipSomeBlanks? t)
  let t ← Text.after? "col".toList (← skipSomeBlanks? t)
  let (column, t) ← digits? (← skipSomeBlanks? t)
  return (line, column, ← colonMessage? t)

/-- **The error on a line.** Numbers that are not written in ASCII digits, or are too great, do not
count. -/
def generatorLine? (t : Text) : Option Diagnostic := do
  let (line, column, message) ← generatorParts? t
  return ⟨⟨← Text.digits? line, ← Text.digits? column⟩, message⟩

/-- The errors of a log. -/
def generatorLog (t : Text) : List Diagnostic :=
  t.lines.filterMap generatorLine?

end GrammarWorkbench.Log
