import GrammarWorkbench.Log.Basic
import GrammarWorkbench.Proofs.Text.Blanks
import GrammarWorkbench.Proofs.Text.Numerals

/-!
# The parts of a line that was written

What is read where a number, a blank or a message was written. Digits are read to their end
(`GrammarWorkbench.Log.digits?_append`), so that something else has to come next. A message comes
back exactly if it is in one line and has no blanks around it
(`GrammarWorkbench.Log.message?_eq_some_self_iff`).
-/

namespace GrammarWorkbench.Log

variable {t m digits rest : Text}

/-- One or more decimal digits of any script. -/
structure IsDigits (t : Text) : Prop where
  ne_nil : t ≠ []
  isDecimalDigit : ∀ d ∈ t, Text.isDecimalDigit d = true

theorem IsDigits.of_isDigit (hne : t ≠ []) (h : ∀ d ∈ t, Text.isDigit d = true) : IsDigits t :=
  ⟨hne, fun d hd => Text.isDecimalDigit_of_isDigit (h d hd)⟩

/-- What is read as digits. -/
theorem isDigits_of_digits? (h : digits? t = some (digits, rest)) :
    IsDigits digits ∧ t = digits ++ rest := by
  obtain ⟨hne, heq⟩ := Option.ite_none_left_eq_some.mp h
  obtain ⟨rfl, rfl⟩ := Prod.mk.inj (Option.some.inj heq)
  exact ⟨⟨by simpa using hne, fun d => List.mem_takeWhile_imp⟩,
    List.takeWhile_append_dropWhile.symm⟩

/-- **Digits are read up to what is no digit.** -/
theorem digits?_append (h : IsDigits digits)
    (hend : ∀ c ∈ t.head?, Text.isDecimalDigit c = false) :
    digits? (digits ++ t) = some (digits, t) := by
  have htake : t.takeWhile Text.isDecimalDigit = [] := by
    cases t with
    | nil => rfl
    | cons c t => exact List.takeWhile_cons_of_neg (by simpa using hend c rfl)
  have hdrop : t.dropWhile Text.isDecimalDigit = t := by
    cases t with
    | nil => rfl
    | cons c t => exact List.dropWhile_cons_of_neg (by simpa using hend c rfl)
  rw [digits?, List.takeWhile_append_of_pos h.isDecimalDigit,
    List.dropWhile_append_of_pos h.isDecimalDigit, htake, hdrop, List.append_nil,
    if_neg (by simpa using h.ne_nil)]

/-- A number that was written is read in its digits. -/
theorem digits?_ofNat (n : Nat) (hend : ∀ c ∈ t.head?, Text.isDecimalDigit c = false) :
    digits? (Text.ofNat n ++ t) = some (Text.ofNat n, t) :=
  digits?_append (.of_isDigit (Text.ofNat_ne_nil n) fun _ => Text.isDigit_of_mem_ofNat) hend

theorem skipBlanks_eq_self (h : ∀ c ∈ t.head?, Text.isBlank c = false) : skipBlanks t = t :=
  Text.trimLeft_eq_self_iff.mpr h

/-- A blank before a number is skipped. -/
theorem skipSomeBlanks?_ofNat (n : Nat) (t : Text) :
    skipSomeBlanks? (' ' :: (Text.ofNat n ++ t)) = some (Text.ofNat n ++ t) := by
  refine congrArg some (skipBlanks_eq_self (t := Text.ofNat n ++ t) fun c hc => ?_)
  rw [List.head?_append_of_ne_nil _ (Text.ofNat_ne_nil n)] at hc
  exact Text.isBlank_of_isDecimalDigit
    (Text.isDecimalDigit_of_isDigit (Text.isDigit_of_mem_ofNat (List.mem_of_head? hc)))

/-- Blanks before a message are no part of it. -/
theorem message?_cons {c : Char} (h : Text.isBlank c = true) (t : Text) :
    message? (c :: t) = message? t := by
  rw [message?, Text.trim, Text.trimLeft, List.dropWhile_cons_of_pos h]
  rfl

/-- A colon and a blank before a message. -/
theorem colonMessage?_append (m : Text) : colonMessage? (": ".toList ++ m) = message? m :=
  message?_cons rfl m

/-- **A message comes back** exactly if it is in one line and has no blanks around it. -/
theorem message?_eq_some_self_iff : message? m = some m ↔ '\n' ∉ m ∧ m.IsTrimmed := by
  rw [← Text.trim_eq_self_iff, message?]
  constructor
  · intro h
    obtain ⟨hline, htrim⟩ := Option.ite_none_left_eq_some.mp h
    rw [Option.some.inj htrim] at hline
    exact ⟨by simpa using hline, Option.some.inj htrim⟩
  · rintro ⟨hline, htrim⟩
    rw [htrim, if_neg (by simpa using hline)]

end GrammarWorkbench.Log
