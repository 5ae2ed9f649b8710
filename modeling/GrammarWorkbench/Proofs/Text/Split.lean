import GrammarWorkbench.Text.Split
import Mathlib.Data.List.Basic

/-!
# The parts of a text

A text is split at every occurrence of a character. The parts hold all other characters
(`GrammarWorkbench.Text.mem_splitAt_iff`), and a separator between two texts separates their parts
(`GrammarWorkbench.Text.splitAt_append`).

There is only one way to split (`GrammarWorkbench.Text.splitAt_eq_iff`): the parts of a text are the
texts without the separator that make up the text when they are joined by it.
-/

namespace GrammarWorkbench.Text

variable {sep c : Char} {s t part : Text} {parts : List Text}

theorem splitAt_cons_self (sep : Char) (t : Text) :
    splitAt sep (sep :: t) = [] :: splitAt sep t := by
  rw [splitAt, if_pos rfl]

/-- A character that does not separate belongs to the first part. -/
theorem splitAt_cons_of_ne (h : c ≠ sep) (t : Text) :
    ∃ part parts, splitAt sep t = part :: parts ∧ splitAt sep (c :: t) = (c :: part) :: parts := by
  obtain ⟨part, parts, hparts⟩ := List.exists_cons_of_ne_nil (splitAt_ne_nil sep t)
  exact ⟨part, parts, hparts, by rw [splitAt, if_neg h, hparts]⟩

/-- **The parts on both sides of a separator.** -/
theorem splitAt_append (s t : Text) :
    splitAt sep (s ++ sep :: t) = splitAt sep s ++ splitAt sep t := by
  induction s with
  | nil => exact splitAt_cons_self sep t
  | cons d s ih =>
    by_cases h : d = sep
    · subst h
      rw [List.cons_append, splitAt_cons_self, splitAt_cons_self, ih, List.cons_append]
    · obtain ⟨part, parts, hs, hds⟩ := splitAt_cons_of_ne h s
      obtain ⟨part', parts', hst, hdst⟩ := splitAt_cons_of_ne h (s ++ sep :: t)
      rw [ih, hs, List.cons_append, List.cons.injEq] at hst
      rw [List.cons_append, hdst, hds, ← hst.1, ← hst.2, List.cons_append]

theorem splitAt_of_notMem (h : sep ∉ t) : splitAt sep t = [t] := by
  induction t with
  | nil => rfl
  | cons d t ih =>
    obtain ⟨hd, ht⟩ := not_or.mp (mt List.mem_cons.mpr h)
    rw [splitAt, if_neg (Ne.symm hd), ih ht]

/-- The parts hold all characters but the separators. -/
theorem mem_splitAt_iff (h : c ≠ sep) : (∃ part ∈ splitAt sep t, c ∈ part) ↔ c ∈ t := by
  induction t with
  | nil => simp [splitAt]
  | cons d t ih =>
    by_cases hd : d = sep
    · subst hd
      rw [splitAt_cons_self, List.mem_cons, ← ih]
      simp [h]
    · obtain ⟨part, parts, ht, hdt⟩ := splitAt_cons_of_ne hd t
      rw [hdt, List.mem_cons, ← ih, ht, List.exists_mem_cons_iff, List.exists_mem_cons_iff,
        List.mem_cons, or_assoc]

theorem notMem_of_mem_splitAt (h : part ∈ splitAt sep t) : sep ∉ part := by
  induction t generalizing part with
  | nil =>
    rw [splitAt, List.mem_singleton] at h
    exact h ▸ List.not_mem_nil
  | cons d t ih =>
    by_cases hd : d = sep
    · subst hd
      rw [splitAt_cons_self, List.mem_cons] at h
      rcases h with rfl | h
      · exact List.not_mem_nil
      · exact ih h
    · obtain ⟨first, parts, ht, hdt⟩ := splitAt_cons_of_ne hd t
      rw [ht] at ih
      rw [hdt, List.mem_cons] at h
      rcases h with rfl | h
      · rw [List.mem_cons, not_or]
        exact ⟨Ne.symm hd, ih List.mem_cons_self⟩
      · exact ih (List.mem_cons_of_mem _ h)

/-! ### The way to split is unique -/

/-- **The texts between the separators** of a text. -/
structure IsSplit (sep : Char) (t : Text) (parts : List Text) : Prop where
  ne_nil : parts ≠ []
  notMem : ∀ part ∈ parts, sep ∉ part
  /-- The parts make up the text, with a separator between any two of them. -/
  joined : [sep].intercalate parts = t

theorem splitAt_eq_splitOn (sep : Char) (t : Text) : splitAt sep t = t.splitOn sep := by
  induction t with
  | nil => rfl
  | cons d t ih =>
    rw [List.splitOn] at ih ⊢
    rw [List.splitOnP_cons_eq_if_modifyHead, ← ih]
    by_cases hd : d = sep
    · rw [hd, splitAt_cons_self, if_pos (beq_self_eq_true sep)]
    · obtain ⟨first, parts, ht, hdt⟩ := splitAt_cons_of_ne hd t
      rw [hdt, ht, if_neg (by simpa using hd), List.modifyHead_cons]

theorem splitAt_eq_iff : splitAt sep t = parts ↔ IsSplit sep t parts := by
  constructor
  · rintro rfl
    exact ⟨splitAt_ne_nil sep t, fun _ => notMem_of_mem_splitAt, intercalate_splitAt sep t⟩
  · rintro ⟨hne, hmem, rfl⟩
    rw [splitAt_eq_splitOn]
    exact List.splitOn_intercalate sep hmem hne

end GrammarWorkbench.Text
