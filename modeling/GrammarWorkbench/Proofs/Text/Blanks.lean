import GrammarWorkbench.Proofs.Text.Bytes
import GrammarWorkbench.Text.Blank
import GrammarWorkbench.Text.DecimalDigit
import Mathlib.Data.List.DropRight

/-!
# Blanks around a text

What is left of a text without the blanks at its ends. A text has none there exactly if it stays as
it is (`GrammarWorkbench.Text.trim_eq_self_iff`), and has nothing else exactly if nothing is left
(`GrammarWorkbench.Text.trim_eq_nil_iff`).

No blank is a digit of any script (`GrammarWorkbench.Text.isDecimalDigit_of_isBlank`), and both
classes are given by ranges, which lie apart.
-/

namespace GrammarWorkbench.Text

variable {t : Text} {c : Char}

/-- **Without blanks at the ends.** -/
structure IsTrimmed (t : Text) : Prop where
  first : ∀ c ∈ t.head?, isBlank c = false
  last : ∀ c ∈ t.getLast?, isBlank c = false

theorem trim_eq_rdropWhile (t : Text) : trim t = (t.dropWhile isBlank).rdropWhile isBlank := rfl

theorem trim_eq_nil_iff : trim t = [] ↔ isAllBlank t = true := by
  rw [trim_eq_rdropWhile, List.rdropWhile_eq_nil_iff, ← List.dropWhile_eq_nil_iff,
    List.dropWhile_idempotent, List.dropWhile_eq_nil_iff, isAllBlank, List.all_eq_true]

theorem trimLeft_eq_self_iff : trimLeft t = t ↔ ∀ c ∈ t.head?, isBlank c = false := by
  rw [trimLeft, List.dropWhile_eq_self_iff]
  cases t <;> simp

theorem trimRight_eq_self_iff : trimRight t = t ↔ ∀ c ∈ t.getLast?, isBlank c = false := by
  refine List.rdropWhile_eq_self_iff.trans ?_
  rcases List.eq_nil_or_concat t with rfl | ⟨init, c, rfl⟩ <;> simp

/-- **A text stays as it is** exactly if there are no blanks at its ends. -/
theorem trim_eq_self_iff : trim t = t ↔ t.IsTrimmed := by
  constructor
  · intro h
    -- A text that gets no shorter loses nothing at either end.
    have hlength := congrArg List.length h
    have hright : (trim t).length ≤ (trimLeft t).length :=
      (List.rdropWhile_prefix isBlank _).length_le
    have hsuffix : trimLeft t <:+ t := List.dropWhile_suffix isBlank
    have hleft : trimLeft t = t := hsuffix.eq_of_length_le (by omega)
    rw [trim, hleft] at h
    exact ⟨trimLeft_eq_self_iff.mp hleft, trimRight_eq_self_iff.mp h⟩
  · rintro ⟨hfirst, hlast⟩
    rw [trim, trimLeft_eq_self_iff.mpr hfirst, trimRight_eq_self_iff.mpr hlast]

/-- A text without blanks stays as it is. -/
theorem trim_of_forall_not (h : ∀ c ∈ t, isBlank c = false) : trim t = t :=
  trim_eq_self_iff.mpr
    ⟨fun c hc => h c (List.mem_of_head? hc), fun c hc => h c (List.mem_of_getLast? hc)⟩

/-- One more character at the beginning, which stays unless it is a blank and nothing else stays. -/
theorem trimRight_cons (c : Char) (t : Text) :
    trimRight (c :: t) = if (c :: t).all isBlank then [] else c :: trimRight t := by
  rw [trimRight, List.reverse_cons, List.dropWhile_append]
  by_cases ht : t.all isBlank = true
  · have hnil : t.reverse.dropWhile isBlank = [] := by simpa using ht
    cases hc : isBlank c <;> simp [hnil, hc, ht, trimRight]
  · have hne : t.reverse.dropWhile isBlank ≠ [] := by simpa using ht
    simp [hne, ht, trimRight]

/-- What stays does so with more characters at the beginning. -/
theorem mem_trimRight_append {s : Text} (h : c ∈ trimRight t) : c ∈ trimRight (s ++ t) := by
  rw [trimRight, List.mem_reverse] at h ⊢
  have hne : (t.reverse.dropWhile isBlank).isEmpty = false := by
    simpa [List.isEmpty_eq_false_iff] using List.ne_nil_of_mem h
  rw [List.reverse_append, List.dropWhile_append, if_neg (by simp [hne])]
  exact List.mem_append_left _ h

/-! ### Blanks and digits -/

theorem contains_eq_false {table : Ranges} {first last : Nat}
    (h : ∀ r ∈ table, r.2 < first ∨ last < r.1) (hfirst : first ≤ c.toNat)
    (hlast : c.toNat ≤ last) : table.contains c = false := by
  rw [Ranges.contains, List.any_eq_false]
  intro r hr
  have := h r hr
  simp only [Bool.and_eq_true, decide_eq_true_eq]
  omega

theorem isDecimalDigit_of_isBlank (h : isBlank c = true) : isDecimalDigit c = false := by
  have hat (n : Nat) (hn : ∀ r ∈ decimalDigits, r.2 < n ∨ n < r.1) (hc : c.toNat = n) :
      isDecimalDigit c = false := contains_eq_false hn hc.ge hc.le
  simp only [isBlank, Bool.or_eq_true, Bool.and_eq_true, decide_eq_true_eq, beq_iff_eq] at h
  rcases h with (((((((((h | h) | h) | h) | h) | h) | h) | h) | h) | h) | h
  all_goals first
    | exact hat _ (by decide) h
    | exact contains_eq_false (by decide) h.1 h.2

theorem isBlank_of_isDecimalDigit (h : isDecimalDigit c = true) : isBlank c = false := by
  by_contra hblank
  rw [isDecimalDigit_of_isBlank (eq_true_of_ne_false hblank)] at h
  cases h

theorem isDecimalDigit_of_isDigit (h : isDigit c = true) : isDecimalDigit c = true := by
  obtain ⟨hfirst, hlast⟩ := isDigit_iff.mp h
  refine List.any_eq_true.mpr ⟨(0x30, 0x39), List.mem_cons_self, ?_⟩
  simp [hfirst, hlast]

end GrammarWorkbench.Text
