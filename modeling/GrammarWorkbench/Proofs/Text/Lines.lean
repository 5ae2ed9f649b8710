import GrammarWorkbench.Text.Lines
import Mathlib.Data.List.Basic

/-!
# Texts made of lines

How the lines of a text follow from what the text is made of. A text without a line feed is one
line, unless it is empty. A line feed ends a line, which may lose a carriage return, and the lines
of what follows come next (`GrammarWorkbench.Text.lines_cases`). So a text whose lines were written
with a line feed after each of them has these lines again, as long as **no carriage return is lost**
(`GrammarWorkbench.Text.lines_flatMap`).
-/

namespace GrammarWorkbench.Text

variable {l t line : Text} {ls rest : List Text}

/-! ### Carriage returns -/

theorem dropReturn_eq_self_iff : dropReturn l = l ↔ l.getLast? ≠ some '\r' := by
  rw [dropReturn]
  split
  next h =>
    have hne : l ≠ [] := by
      rintro rfl
      exact absurd h (by simp)
    refine iff_of_false (fun heq => ?_) (not_not_intro h)
    have hlen := congrArg List.length heq
    have := List.length_pos_iff.mpr hne
    rw [List.length_dropLast] at hlen
    omega
  next h => exact iff_of_true rfl h

theorem mem_of_mem_dropReturn {c : Char} (h : c ∈ dropReturn l) : c ∈ l := by
  rw [dropReturn] at h
  split at h
  · exact List.dropLast_subset l h
  · exact h

/-! ### Lines -/

theorem cutLine_of_notMem (h : '\n' ∉ l) : cutLine l = (l, none) := by
  induction l with
  | nil => rfl
  | cons c l ih =>
    obtain ⟨hc, hl⟩ := not_or.mp (mt List.mem_cons.mpr h)
    rw [cutLine, if_neg (Ne.symm hc), ih hl]

theorem cutLine_append (h : '\n' ∉ l) (t : Text) : cutLine (l ++ '\n' :: t) = (l, some t) := by
  induction l with
  | nil => rfl
  | cons c l ih =>
    obtain ⟨hc, hl⟩ := not_or.mp (mt List.mem_cons.mpr h)
    rw [List.cons_append, cutLine, if_neg (Ne.symm hc), ih hl]

@[simp]
theorem lines_nil : lines [] = [] := by
  rw [lines, if_pos rfl]

/-- A text without a line feed is one line. -/
theorem lines_of_notMem (h : '\n' ∉ l) (hne : l ≠ []) : lines l = [l] := by
  have hcut := cutLine_of_notMem h
  rw [lines, if_neg hne]
  split
  next => rw [hcut]
  next heq => simp [hcut] at heq

/-- **A line feed ends a line.** -/
theorem lines_append (h : '\n' ∉ l) (t : Text) :
    lines (l ++ '\n' :: t) = dropReturn l :: lines t := by
  have hcut := cutLine_append h t
  rw [lines, if_neg (by simp)]
  split
  next heq => simp [hcut] at heq
  next heq =>
    obtain rfl := Option.some.inj ((congrArg Prod.snd hcut).symm.trans heq)
    rw [congrArg Prod.fst hcut]

/-- **The lines of a text, by what the text is made of.** -/
theorem lines_cases (t : Text) :
    t = [] ∨ (t ≠ [] ∧ '\n' ∉ t ∧ lines t = [t]) ∨
      ∃ l rest, t = l ++ '\n' :: rest ∧ '\n' ∉ l ∧ lines t = dropReturn l :: lines rest := by
  by_cases hmem : '\n' ∈ t
  · obtain ⟨l, rest, rfl, hl⟩ := List.eq_append_cons_of_mem hmem
    exact Or.inr (Or.inr ⟨l, rest, rfl, hl, lines_append hl rest⟩)
  · by_cases hne : t = []
    · exact Or.inl hne
    · exact Or.inr (Or.inl ⟨hne, hmem, lines_of_notMem hmem hne⟩)

theorem lines_eq_nil_iff : lines t = [] ↔ t = [] := by
  refine ⟨fun h => ?_, by rintro rfl; exact lines_nil⟩
  rcases lines_cases t with ht | ⟨-, -, ht⟩ | ⟨l, rest, -, -, ht⟩
  · exact ht
  · rw [h] at ht
    exact absurd ht (by simp)
  · rw [h] at ht
    exact absurd ht (by simp)

/-- There is no line feed in a line. -/
theorem notMem_of_lines_eq_cons (h : lines t = line :: rest) : '\n' ∉ line := by
  rcases lines_cases t with rfl | ⟨-, hmem, ht⟩ | ⟨l, rest', -, hl, ht⟩
  · rw [lines_nil] at h
    exact absurd h (by simp)
  · obtain ⟨rfl, -⟩ := List.cons.inj (ht.symm.trans h)
    exact hmem
  · obtain ⟨rfl, -⟩ := List.cons.inj (ht.symm.trans h)
    exact mt mem_of_mem_dropReturn hl

/-- **Lines that were written with a line feed after each of them** are read again. -/
theorem lines_flatMap (h : ∀ l ∈ ls, '\n' ∉ l ∧ l.getLast? ≠ some '\r') :
    lines (ls.flatMap (· ++ ['\n'])) = ls := by
  induction ls with
  | nil => exact lines_nil
  | cons l ls ih =>
    obtain ⟨⟨hmem, hreturn⟩, hls⟩ := List.forall_mem_cons.mp h
    rw [List.flatMap_cons, List.append_assoc, List.singleton_append, lines_append hmem, ih hls,
      dropReturn_eq_self_iff.mpr hreturn]

/-- **Lines that were joined by line feeds** are read again. An empty last line would be none. -/
theorem lines_intercalate (h : ∀ l ∈ ls, '\n' ∉ l ∧ l.getLast? ≠ some '\r' ∧ l ≠ []) :
    lines (['\n'].intercalate ls) = ls := by
  induction ls with
  | nil => exact lines_nil
  | cons l ls ih =>
    obtain ⟨⟨hmem, hreturn, hne⟩, hls⟩ := List.forall_mem_cons.mp h
    cases ls with
    | nil => simpa using lines_of_notMem hmem hne
    | cons l' ls =>
      rw [List.intercalate_cons_cons, List.append_assoc, List.singleton_append, lines_append hmem,
        ih hls, dropReturn_eq_self_iff.mpr hreturn]

end GrammarWorkbench.Text
