import GrammarWorkbench.Text.Basic

/-!
# The lines of a log or a map file

Such a text is split at line feeds. A carriage return directly before a line feed belongs to the
terminator, a lone one belongs to its line, and a terminator at the very end starts no further line.
-/

namespace GrammarWorkbench.Text

/-- The text up to the first line feed, and what follows that line feed if there is one. -/
def cutLine : Text → Text × Option Text
  | [] => ([], none)
  | c :: t =>
    if c = '\n' then ([], some t)
    else ((c :: (cutLine t).1), (cutLine t).2)

theorem cutLine_length {t r : Text} (h : (cutLine t).2 = some r) : r.length < t.length := by
  induction t with
  | nil => simp [cutLine] at h
  | cons c t ih =>
    by_cases hc : c = '\n'
    · simp [cutLine, hc] at h
      simp [h]
    · simp [cutLine, hc] at h
      have := ih h
      simp only [List.length_cons]
      omega

/-- A line whose terminator was a line feed loses one carriage return at its end. -/
def dropReturn (line : Text) : Text :=
  if line.getLast? = some '\r' then line.dropLast else line

/-- The lines of a text, without their terminators. -/
def lines (t : Text) : List Text :=
  if t = [] then []
  else
    match h : (cutLine t).2 with
    | none => [(cutLine t).1]
    | some rest =>
      have : rest.length < t.length := cutLine_length h
      dropReturn (cutLine t).1 :: lines rest
termination_by t.length

end GrammarWorkbench.Text
