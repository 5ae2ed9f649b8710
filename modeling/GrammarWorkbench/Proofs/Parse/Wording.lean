import GrammarWorkbench.Proofs.Parse.Spacing
import GrammarWorkbench.Proofs.Source.Offsets
import GrammarWorkbench.Proofs.Text.Blanks

/-!
# What diagnostics say

A diagnostic of a parse has the wording of a syntax error
(`GrammarWorkbench.ParseResult.exists_message_of_mem`), and there are few of these: each of them is
in one line and has no blanks around it. The numbers of its position are no greater than the text is
long (`GrammarWorkbench.ParseResult.position_le_of_mem`).
-/

namespace GrammarWorkbench

namespace SyntaxError

/-- **A syntax error is worded in one line**, without blanks around it. -/
theorem isTrimmed_message (e : SyntaxError) : '\n' ∉ e.message ∧ e.message.IsTrimmed := by
  rw [← Text.trim_eq_self_iff]
  cases e with
  | expected kind => cases kind <;> decide
  | _ => decide

end SyntaxError

namespace Parsing

variable {s s' : Parsing} {g : Goal} {gs : List Goal}

/-- **All diagnostics are worded** like syntax errors. -/
def Worded (s : Parsing) : Prop :=
  ∀ d ∈ s.diagnostics, ∃ e : SyntaxError, d.message = e.message

theorem Worded.report (h : s.Worded) (e : SyntaxError) : (s.report e).Worded := by
  intro d hd
  rcases report_diagnostics s e with heq | heq
  · exact h d (heq ▸ hd)
  · rw [heq] at hd
    rcases List.mem_append.mp hd with hd | hd
    · exact h d hd
    · obtain rfl := List.mem_singleton.mp hd
      exact ⟨e, rfl⟩

theorem Worded.dropInvalid {rest : List Lexeme} (h : s.Worded) : (s.dropInvalid rest).Worded := by
  induction rest generalizing s with
  | nil => exact h
  | cons x rest ih =>
    unfold Parsing.dropInvalid
    split
    · exact h
    · have hreport := Worded.report (s := { s with rest := x :: rest }) h .invalidSymbol
      exact ih (s := (Parsing.report _ _).consume x rest) hreport

/-- **Every turn finds its words among those of the syntax errors.** -/
theorem Worded.turn {n : Option Notification} (h : s.Worded) (ht : Turn s g gs n s') :
    s'.Worded := by
  cases ht with
  | pass => exact h
  | tell => exact h
  | note e => exact h.report e
  | fail e => exact h.report e
  | take x rest => exact Worded.dropInvalid (s := s.consume x rest) h
  | skip => exact h
  | spoil before e => exact h.report e

end Parsing

namespace ParseResult

variable {source : Text} {d : Diagnostic}

/-- **A diagnostic says what a syntax error says.** -/
theorem exists_message_of_mem (h : d ∈ (ofSource source).diagnostics) :
    ∃ e : SyntaxError, d.message = e.message := by
  have hrun := Parsing.reaches_run (.start (Lexeme.scan source)
    ((LineIndex.ofText source).position source.size))
  have hstart : (Parsing.start (Lexeme.scan source)
      ((LineIndex.ofText source).position source.size)).Worded := by
    intro d hd
    cases hd
  exact hrun.invariant (fun _ _ _ _ hs _ _ ht => hs.turn ht) hstart d h

/-- **A diagnostic stands inside its text**, whose size bounds the line and the column. -/
theorem position_le_of_mem (h : d ∈ (ofSource source).diagnostics) :
    d.position.line ≤ source.size + 1 ∧ d.position.column ≤ source.size + 1 := by
  obtain ⟨offset, hle, heq⟩ : ∃ offset, offset ≤ source.size ∧
      d.position = (LineIndex.ofText source).position offset := by
    rcases exists_lexeme_of_mem h with heq | ⟨x, hx, heq⟩
    · exact ⟨source.size, Nat.le_refl _, heq⟩
    · obtain ⟨hplace, -⟩ := Lexeme.scanFrom_spec (.ofText source) 0 source
      obtain ⟨-, hlt, hposition⟩ := hplace x (List.mem_filter.mp hx).1
      exact ⟨x.start, by omega, heq.symm.trans hposition⟩
  obtain ⟨hline, hcolumn⟩ := LineIndex.position_le source offset
  rw [heq]
  exact ⟨by omega, by omega⟩

end ParseResult

end GrammarWorkbench
