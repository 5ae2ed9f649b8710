import GrammarWorkbench.Proofs.Text.Bytes
import GrammarWorkbench.Text.Numeral
import Mathlib.Data.List.Basic

/-!
# Which texts are numerals

`GrammarWorkbench.Text.IsNumeral` says what a numeral is and what its value is, and a numeral is
read with this value (`GrammarWorkbench.Text.numeral?_eq_some_iff`). A number is written in digits
that are read as the same number, if it is small enough (`GrammarWorkbench.Text.isNumeral_ofNat`).
-/

namespace GrammarWorkbench.Text

variable {t field : Text} {n : Nat} {c : Char}

/-- **A numeral and its value**: one or more ASCII digits after an optional plus sign. The value
fits into 64 bits. -/
def IsNumeral (field : Text) (n : Nat) : Prop :=
  ∃ sign digits : Text, field = sign ++ digits ∧ (sign = [] ∨ sign = ['+']) ∧ digits ≠ [] ∧
    (∀ d ∈ digits, isDigit d = true) ∧ n = Nat.ofDigitChars 10 digits 0 ∧ n < numeralLimit

theorem digits?_eq_some_iff : digits? t = some n ↔
    t ≠ [] ∧ (∀ d ∈ t, isDigit d = true) ∧ n = Nat.ofDigitChars 10 t 0 ∧ n < numeralLimit := by
  rw [digits?]
  by_cases ht : t ≠ [] ∧ ∀ d ∈ t, isDigit d = true
  · rw [if_pos (by simpa using ht)]
    simp only [Option.ite_none_right_eq_some, Option.some.injEq]
    constructor
    · rintro ⟨hlt, rfl⟩
      exact ⟨ht.1, ht.2, rfl, hlt⟩
    · rintro ⟨-, -, rfl, hlt⟩
      exact ⟨hlt, rfl⟩
  · rw [if_neg (by simpa using ht)]
    refine iff_of_false (by simp) ?_
    rintro ⟨hne, hdigits, -⟩
    exact ht ⟨hne, hdigits⟩

/-- **Exactly the numerals are read**, and with their values. -/
theorem numeral?_eq_some_iff : field.numeral? = some n ↔ IsNumeral field n := by
  unfold numeral?
  split
  next t =>
    rw [digits?_eq_some_iff]
    constructor
    · rintro ⟨hne, hdigits, hvalue⟩
      exact ⟨['+'], t, rfl, Or.inr rfl, hne, hdigits, hvalue⟩
    · rintro ⟨sign, digits, heq, rfl | rfl, hne, hdigits, hvalue⟩
      · -- The plus sign is no digit.
        rw [List.nil_append] at heq
        exact absurd (hdigits '+' (heq ▸ List.mem_cons_self)) (by decide)
      · obtain rfl : t = digits := by simpa using heq
        exact ⟨hne, hdigits, hvalue⟩
  next hplus =>
    rw [digits?_eq_some_iff]
    constructor
    · rintro ⟨hne, hdigits, hvalue⟩
      exact ⟨[], field, rfl, Or.inl rfl, hne, hdigits, hvalue⟩
    · rintro ⟨sign, digits, rfl, rfl | rfl, hne, hdigits, hvalue⟩
      · exact ⟨hne, hdigits, hvalue⟩
      · exact absurd rfl (hplus digits)

/-! ### Numbers that were written -/

theorem ofNat_ne_nil (n : Nat) : ofNat n ≠ [] :=
  Nat.toDigits_ne_nil

theorem isDigit_of_mem_ofNat (h : c ∈ ofNat n) : isDigit c = true := by
  have hdigit := Nat.isDigit_of_mem_toDigits (by decide) (Nat.le_refl 10) h
  rw [isDigit_iff]
  simpa [Char.isDigit, UInt32.le_iff_toNat_le] using hdigit

/-- A number in decimal digits is read as this number. -/
theorem digits?_ofNat (h : n < numeralLimit) : digits? (ofNat n) = some n :=
  digits?_eq_some_iff.mpr ⟨ofNat_ne_nil n, fun _ => isDigit_of_mem_ofNat,
    Nat.ofDigitChars_ten_toDigits.symm, h⟩

/-- A number in decimal digits is a numeral with the value of the number. -/
theorem isNumeral_ofNat (h : n < numeralLimit) : IsNumeral (ofNat n) n :=
  ⟨[], ofNat n, rfl, Or.inl rfl, ofNat_ne_nil n, fun _ => isDigit_of_mem_ofNat,
    Nat.ofDigitChars_ten_toDigits.symm, h⟩

end GrammarWorkbench.Text
