import GrammarWorkbench.Proofs.PositionMap.Rows

/-!
# Which texts are map files

A text is read as a map, or it is refused for one reason. The reasons are told apart by the text
alone (`GrammarWorkbench.PositionMap.parse_iff`):

* an empty text has no line that names the grammar;
* any other text has such a line, its first one, and it is a map exactly if each of the other lines
  is blank or a row. The runs of the map are those of the rows, as they are written;
* otherwise the first line that is neither blank nor a row is blamed, with its number and its fault.
-/

namespace GrammarWorkbench.PositionMap

variable {t : Text} {m : PositionMap} {number : Nat} {reason : MapLineError}

/-- **A text is read by its lines**: the first one, and then the others. -/
theorem parse_cases (t : Text) :
    (t = [] ∧ t.lines = [] ∧ parse t = .error .missingHeader) ∨
      ∃ grammar lines, t ≠ [] ∧ t.lines = grammar :: lines ∧
        parse t = (parseRuns 2 lines).map (⟨grammar, ·⟩) := by
  rcases hlines : t.lines with _ | ⟨grammar, lines⟩
  · exact Or.inl ⟨Text.lines_eq_nil_iff.mp hlines, rfl, by rw [parse, hlines]⟩
  · refine Or.inr ⟨grammar, lines, ?_, rfl, by rw [parse, hlines]⟩
    rw [Ne, ← Text.lines_eq_nil_iff, hlines]
    simp

/-- No line is blamed for a missing first line. -/
theorem parseRuns_ne_missingHeader (number : Nat) (lines : List Text) :
    parseRuns number lines ≠ .error .missingHeader := by
  rw [Ne, parseRuns_eq_error_iff]
  rintro ⟨before, line, after, -, -, -, reason, -, h⟩
  exact MapFormatError.noConfusion h

theorem parse_eq_missingHeader_iff : parse t = .error .missingHeader ↔ t = [] := by
  rcases parse_cases t with ⟨ht, -, hparse⟩ | ⟨grammar, lines, ht, -, hparse⟩
  · exact iff_of_true hparse ht
  · rw [hparse, map_eq_error_iff]
    exact iff_of_false (parseRuns_ne_missingHeader 2 lines) ht

/-- **The maps that are read**: the first line, and the runs of the other ones. -/
theorem parse_eq_ok_iff : parse t = .ok m ↔ ∃ rows, t.lines = m.grammar :: rows ∧
    List.Forall₂ MapRun.IsRow (rows.filter (·.trim ≠ [])) m.runs := by
  rcases parse_cases t with ⟨-, hlines, hparse⟩ | ⟨grammar, lines, -, hlines, hparse⟩
  · rw [hparse, hlines]
    simp
  · rw [hparse, hlines, map_eq_ok_iff]
    constructor
    · rintro ⟨runs, hruns, rfl⟩
      exact ⟨lines, rfl, (parseRuns_eq_ok_iff 2).mp hruns⟩
    · rintro ⟨rows, heq, hrows⟩
      obtain ⟨rfl, rfl⟩ := List.cons.inj heq
      exact ⟨m.runs, (parseRuns_eq_ok_iff 2).mpr hrows, rfl⟩

theorem exists_parse_eq_ok_iff :
    (∃ m, parse t = .ok m) ↔ t ≠ [] ∧ ∀ line ∈ t.lines.tail, IsFine line := by
  rcases parse_cases t with ⟨ht, -, hparse⟩ | ⟨grammar, lines, ht, hlines, hparse⟩
  · exact iff_of_false (by simp [hparse]) (fun h => h.1 ht)
  · rw [hparse, hlines, List.tail_cons, and_iff_right ht,
      ← exists_parseRuns_eq_ok_iff 2]
    simp only [map_eq_ok_iff]
    constructor
    · rintro ⟨m, runs, hruns, -⟩
      exact ⟨runs, hruns⟩
    · rintro ⟨runs, hruns⟩
      exact ⟨⟨grammar, runs⟩, runs, hruns, rfl⟩

/-- **The line that is blamed.** The line that names the grammar has number one. -/
theorem parse_eq_badLine_iff : parse t = .error (.badLine number reason) ↔
    ∃ grammar before line after, t.lines = grammar :: (before ++ line :: after) ∧
      (∀ l ∈ before, IsFine l) ∧ line.trim ≠ [] ∧ MapRun.Fault line reason ∧
      number = before.length + 2 := by
  rcases parse_cases t with ⟨-, hlines, hparse⟩ | ⟨grammar, lines, -, hlines, hparse⟩
  · rw [hparse, hlines]
    exact iff_of_false (by simp) (by simp)
  · rw [hparse, hlines, map_eq_error_iff, parseRuns_eq_error_iff]
    constructor
    · rintro ⟨before, line, after, rfl, hbefore, hne, reason', hfault, he⟩
      obtain ⟨rfl, rfl⟩ := MapFormatError.badLine.inj he
      exact ⟨grammar, before, line, after, rfl, hbefore, hne, hfault, Nat.add_comm _ _⟩
    · rintro ⟨_, before, line, after, heq, hbefore, hne, hfault, rfl⟩
      obtain ⟨-, rfl⟩ := List.cons.inj heq
      exact ⟨before, line, after, rfl, hbefore, hne, reason, hfault, by rw [Nat.add_comm]⟩

/-- **Exactly the map files are read, and the first bad line is blamed.** A text is refused for its
missing first line exactly if it is empty. It is read exactly if it is not empty and every line
after the first one is blank or a row; the map has the first line as its grammar and the runs of the
rows, in order. It is refused for a line exactly if that line is at fault and all lines between the
first one and it are blank or rows. -/
theorem parse_iff (t : Text) :
    (parse t = .error .missingHeader ↔ t = []) ∧
      ((∃ m, parse t = .ok m) ↔ t ≠ [] ∧ ∀ line ∈ t.lines.tail, IsFine line) ∧
      (∀ m, parse t = .ok m ↔ ∃ rows, t.lines = m.grammar :: rows ∧
        List.Forall₂ MapRun.IsRow (rows.filter (·.trim ≠ [])) m.runs) ∧
      ∀ number reason, parse t = .error (.badLine number reason) ↔
        ∃ grammar before line after, t.lines = grammar :: (before ++ line :: after) ∧
          (∀ l ∈ before, IsFine l) ∧ line.trim ≠ [] ∧ MapRun.Fault line reason ∧
          number = before.length + 2 :=
  ⟨parse_eq_missingHeader_iff, exists_parse_eq_ok_iff, fun _ => parse_eq_ok_iff,
    fun _ _ => parse_eq_badLine_iff⟩

/-- A blank line counts, and of two bad fields the left one is blamed. -/
example : parse "g\r\n \r\n1,+2,03,4,5\n1,,3,y,5\n1".toList =
    .error (.badLine 4 (.badNumber [])) := by decide +kernel

end GrammarWorkbench.PositionMap
