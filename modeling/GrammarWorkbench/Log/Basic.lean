import GrammarWorkbench.Text.Basic
import GrammarWorkbench.Text.Blank
import GrammarWorkbench.Text.DecimalDigit
import GrammarWorkbench.Text.Numeral

/-!
# The parts of a line of a log

Lines of logs are read from left to right. A part of a line is recognised by its beginning, and
reading goes on with what is left. The last part of every line is its **message**: what is left
without the blanks around it, provided that no line break is left inside.
-/

namespace GrammarWorkbench.Log

/-- What is left after the blanks at the beginning. -/
def skipBlanks (t : Text) : Text :=
  t.dropWhile Text.isBlank

/-- What is left after one or more blanks. -/
def skipSomeBlanks? (t : Text) : Option Text :=
  match t with
  | [] => none
  | c :: _ => if Text.isBlank c then some (skipBlanks t) else none

/-- One or more decimal digits, and what is left after them. -/
def digits? (t : Text) : Option (Text × Text) :=
  let digits := t.takeWhile Text.isDecimalDigit
  if digits.isEmpty then none else some (digits, t.dropWhile Text.isDecimalDigit)

/-- The message at the end of a line: blanks, the message, blanks. -/
def message? (t : Text) : Option Text :=
  let message := Text.trim t
  if message.contains '\n' then none else some message

/-- A colon with blanks before it, and the message after it. -/
def colonMessage? (t : Text) : Option Text :=
  (Text.after? [':'] (skipBlanks t)).bind message?

end GrammarWorkbench.Log
