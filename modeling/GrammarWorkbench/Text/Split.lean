import GrammarWorkbench.Text.Basic

/-!
# Splitting at a character
-/

namespace GrammarWorkbench.Text

/-- The parts of a text between the occurrences of a character. There is always at least one. -/
def splitAt (sep : Char) : Text → List Text
  | [] => [[]]
  | c :: t =>
    if c = sep then [] :: splitAt sep t
    else
      match splitAt sep t with
      | [] => [[c]]
      | part :: parts => (c :: part) :: parts

theorem splitAt_ne_nil (sep : Char) (t : Text) : splitAt sep t ≠ [] := by
  cases t with
  | nil => simp [splitAt]
  | cons c t =>
    unfold splitAt
    split
    · simp
    · split <;> simp

/-- The parts, put together with the character between them, are the text. -/
theorem intercalate_splitAt (sep : Char) (t : Text) : [sep].intercalate (splitAt sep t) = t := by
  induction t with
  | nil => rfl
  | cons c t ih =>
    by_cases h : c = sep
    · cases hs : splitAt sep t with
      | nil => exact absurd hs (splitAt_ne_nil sep t)
      | cons part parts =>
        rw [hs] at ih
        simp [splitAt, h, hs, List.intercalate] at ih ⊢
        exact ih
    · cases hs : splitAt sep t with
      | nil => exact absurd hs (splitAt_ne_nil sep t)
      | cons part parts =>
        rw [hs] at ih
        cases parts <;> simp [splitAt, h, hs, List.intercalate, List.intersperse] at ih ⊢ <;>
          exact ih

end GrammarWorkbench.Text
