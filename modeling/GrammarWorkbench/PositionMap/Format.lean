import GrammarWorkbench.PositionMap.Basic
import GrammarWorkbench.Text.Blank
import GrammarWorkbench.Text.Lines
import GrammarWorkbench.Text.Numeral
import GrammarWorkbench.Text.Quoted
import GrammarWorkbench.Text.Split

/-!
# The text form of a position map

The first line names the grammar, and every further line is a run: five numbers with commas between
them. Blank lines are of no account. The first line that is wrong makes the whole text wrong.
-/

namespace GrammarWorkbench

/-- What is wrong with a line of a map. -/
inductive MapLineError where
  /-- The line has another number of fields than five. -/
  | fieldCount (n : Nat)
  /-- A field is no number. -/
  | badNumber (field : Text)
deriving DecidableEq, Repr

/-- The wording of an error of a line. -/
def MapLineError.message : MapLineError → Text
  | fieldCount n => "expected 5 fields, found ".toList ++ Text.ofNat n
  | badNumber field => "invalid number ".toList ++ field.quoted

/-- Why a text is no map. -/
inductive MapFormatError where
  /-- There is no line that names the grammar. -/
  | missingHeader
  /-- A line, counted from one, is wrong. -/
  | badLine (line : Nat) (reason : MapLineError)
deriving DecidableEq, Repr

/-- The wording of an error of a map. -/
def MapFormatError.message : MapFormatError → Text
  | missingHeader => "map file has no grammar identifier line".toList
  | badLine line reason =>
    "malformed map entry on line ".toList ++ Text.ofNat line ++ ": ".toList ++ reason.message

/-- The line of a run. -/
def MapRun.render (r : MapRun) : Text :=
  [','].intercalate
    [Text.ofNat r.line, Text.ofNat r.column, Text.ofNat r.targetLine, Text.ofNat r.targetColumn,
     Text.ofNat r.length]

/-- The value of a field of a run. -/
def MapRun.readField (field : Text) : Except MapLineError Nat :=
  match field.numeral? with
  | some n => .ok n
  | none => .error (.badNumber field)

/-- The run of a line without blanks around it. -/
def MapRun.parse (line : Text) : Except MapLineError MapRun :=
  match line.splitAt ',' with
  | [a, b, c, d, e] => do
    return ⟨← readField a, ← readField b, ← readField c, ← readField d, ← readField e⟩
  | fields => .error (.fieldCount fields.length)

namespace PositionMap

/-- **The text form of a map.** -/
def render (m : PositionMap) : Text :=
  m.grammar ++ '\n' :: m.runs.flatMap fun r => r.render ++ ['\n']

/-- The runs of the lines from the given number on. -/
def parseRuns (number : Nat) : List Text → Except MapFormatError (List MapRun)
  | [] => .ok []
  | line :: lines =>
    if line.isAllBlank then parseRuns (number + 1) lines
    else
      match MapRun.parse line.trim with
      | .error reason => .error (.badLine number reason)
      | .ok r => (parseRuns (number + 1) lines).map (r :: ·)

/-- **The map of a text.** Runs are kept as they are written. -/
def parse (t : Text) : Except MapFormatError PositionMap :=
  match t.lines with
  | [] => .error .missingHeader
  | grammar :: lines => (parseRuns 2 lines).map (⟨grammar, ·⟩)

end PositionMap

end GrammarWorkbench
