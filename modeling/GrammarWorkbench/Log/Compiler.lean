import GrammarWorkbench.Log.Basic
import GrammarWorkbench.Source.Position
import GrammarWorkbench.Text.Lines

/-!
# What a compiler prints

A compiler prints an error of a generated file as the name of the file, the line and the column in
parentheses, a colon, and the message. A build tool may have put a number and an angle bracket in
front. The name of the file may contain anything but a line break, parentheses too: it ends before
the **first** group of parentheses that is followed by a colon and by a message.

Where the beginning of a line can be read in several ways, as many blanks as possible are left out
of the name, and a number with an angle bracket is left out rather than not.
-/

namespace GrammarWorkbench

/-- An error in a generated file. -/
structure CompilerError where
  file : Text
  position : Position
  message : Text
deriving DecidableEq, Repr

namespace Log

/-- The digits of a position in parentheses, and the message after it. -/
def positionAndMessage? (t : Text) : Option (Text × Text × Text) := do
  let (line, t) ← digits? (← Text.after? ['('] t)
  let (column, t) ← digits? (← Text.after? [','] t)
  let message ← colonMessage? (← Text.after? [')'] t)
  return (line, column, message)

/-- The shortest name of at least one character that a position and a message follow: the name, the
digits of the position, and the message. -/
def shortestFile? : Text → Option (Text × Text × Text × Text)
  | [] => none
  | c :: t =>
    if c = '\n' then none
    else
      match positionAndMessage? t with
      | some rest => some ([c], rest)
      | none => (shortestFile? t).map fun (file, rest) => (c :: file, rest)

/-- What is left after the number that a build tool puts in front. -/
def skipBuildNumber? (t : Text) : Option Text :=
  (digits? t).bind fun (_, t) => Text.after? ['>'] t

/-- Where the name of the file may start if the blanks before `t` are left out, the preferred place
first. -/
def fileStarts (t : Text) : List Text :=
  (skipBuildNumber? t).toList ++ [t]

/-- Where the name of the file may start, the preferred place first. -/
def compilerStarts (t : Text) : List Text :=
  match t with
  | [] => fileStarts []
  | c :: rest => if Text.isBlank c then compilerStarts rest ++ fileStarts t else fileStarts t

/-- **The error on a line.** Numbers that are not written in ASCII digits, or are too great, do not
count. -/
def compilerLine? (t : Text) : Option CompilerError := do
  let (file, line, column, message) ← (compilerStarts t).findSome? shortestFile?
  return ⟨Text.trim file, ⟨← Text.digits? line, ← Text.digits? column⟩, message⟩

/-- The errors of a log. -/
def compilerLog (t : Text) : List CompilerError :=
  t.lines.filterMap compilerLine?

end Log

end GrammarWorkbench
