import GrammarWorkbench.Proofs.Source.Cuts

/-!
# Bytes and UTF-16 code units as cuts of a text

An editor counts UTF-16 code units, and a source is counted in bytes. Both are counts of what stands
before a **cut** of a text, and a number that belongs to no cut is brought to a cut near by. The two
kinds of numbers are not brought to the same side:

* a number of bytes leads to the **last cut** that is not behind it
  (`GrammarWorkbench.Text.lastCut_takeBytes`);
* a number of units leads to the **first cut** that is not before it, or to the end of the text
  (`GrammarWorkbench.Text.exists_firstCut`).

A cut has two numbers, and each of them leads to the cut again. A number of units that belongs to no
cut lies between the two halves of a pair (`GrammarWorkbench.Text.SplitsPair`), since no character
has more than two units.
-/

namespace GrammarWorkbench.Text

variable {a b t x : Text} {c : Char} {m n : Nat}

/-! ### Code units -/

/-- The UTF-16 form of a character: one unit in the basic plane, and a pair of surrogates above
it. -/
def charCodes (c : Char) : List UInt16 :=
  if c.toNat < 0x10000 then [.ofNat c.toNat]
  else
    [.ofNat (0xD800 + (c.toNat - 0x10000) / 0x400), .ofNat (0xDC00 + (c.toNat - 0x10000) % 0x400)]

/-- **The UTF-16 form of a text.** -/
def codes (t : Text) : List UInt16 :=
  t.flatMap charCodes

example : codes "é😀".toList = [0x00E9, 0xD83D, 0xDE00] := by decide

@[simp]
theorem codes_append (a b : Text) : codes (a ++ b) = codes a ++ codes b :=
  List.flatMap_append

theorem length_charCodes (c : Char) : (charCodes c).length = charUnits c := by
  rw [charCodes, charUnits]
  split <;> rfl

@[simp]
theorem length_codes (t : Text) : (codes t).length = t.units := by
  induction t with
  | nil => rfl
  | cons c t ih =>
    rw [codes, List.flatMap_cons, List.length_append, length_charCodes, units_cons, ← ih, codes]

/-- **The code units between two cuts** are those of the text between them. -/
theorem codes_between (a x b : Text) :
    ((codes (a ++ (x ++ b))).drop a.units).take x.units = codes x := by
  rw [codes_append, codes_append, ← length_codes a, List.drop_left, ← length_codes x,
    List.take_left]

theorem charUnits_pos (c : Char) : 0 < charUnits c := by
  rw [charUnits]
  split <;> omega

theorem charUnits_le_two (c : Char) : charUnits c ≤ 2 := by
  rw [charUnits]
  split <;> omega

theorem charUnits_eq_two_iff : charUnits c = 2 ↔ 0x10000 ≤ c.toNat := by
  rw [charUnits]
  split <;> omega

/-! ### The last cut that is not behind a number of bytes -/

/-- **The last cut** of a text that has at most `n` bytes before it. -/
structure LastCut (t : Text) (n : Nat) (a b : Text) : Prop where
  text : t = a ++ b
  le : a.size ≤ n
  lt : ∀ c ∈ b.head?, n < a.size + c.utf8Size

/-- **Taking bytes goes back to the last cut.** -/
theorem lastCut_takeBytes (n : Nat) (t : Text) : LastCut t n (takeBytes n t) (dropBytes n t) := by
  refine ⟨(takeBytes_append_dropBytes n t).symm, size_takeBytes_le n t, ?_⟩
  induction t generalizing n with
  | nil => simp [dropBytes]
  | cons d t ih =>
    by_cases hd : d.utf8Size ≤ n
    · rw [takeBytes, dropBytes, if_pos hd, if_pos hd, size_cons]
      intro c hc
      have hlt := ih (n - d.utf8Size) c hc
      omega
    · rw [takeBytes, dropBytes, if_neg hd, if_neg hd]
      intro c hc
      obtain rfl : d = c := Option.some.inj hc
      simpa using hd

/-! ### The first cut that is not before a number of units -/

/-- **The first cut** of a text that has at least `n` units before it, or the end of the text if it
has fewer units. -/
structure FirstCut (t : Text) (n : Nat) (a b : Text) : Prop where
  text : t = a ++ b
  le : n ≤ a.units ∨ b = []
  lt : ∀ (a' : Text) (c : Char), a = a' ++ [c] → a'.units < n

@[simp]
theorem takeUnits_zero (t : Text) : takeUnits 0 t = [] := by
  cases t <;> rfl

/-- **Taking units goes on to the first cut.** -/
theorem exists_firstCut (n : Nat) (t : Text) : ∃ b, FirstCut t n (takeUnits n t) b := by
  induction t generalizing n with
  | nil => exact ⟨[], rfl, Or.inr rfl, by simp [takeUnits]⟩
  | cons d t ih =>
    rcases Nat.eq_zero_or_pos n with rfl | hpos
    · exact ⟨d :: t, by simp, Or.inl (Nat.zero_le _), by simp⟩
    · obtain ⟨b, htext, hle, hlt⟩ := ih (n - charUnits d)
      rw [takeUnits, if_neg (by omega)]
      refine ⟨b, by rw [List.cons_append, ← htext], ?_, ?_⟩
      · rw [units_cons]
        exact hle.imp_left fun hle => by omega
      · rintro (_ | ⟨d', a'⟩) c ha
        · exact hpos
        · obtain ⟨rfl, hrest⟩ := List.cons.inj ha
          have hbefore := hlt a' c hrest
          rw [units_cons]
          omega

theorem takeUnits_append (a b : Text) (n : Nat) :
    takeUnits (a.units + n) (a ++ b) = a ++ takeUnits n b := by
  induction a with
  | nil => simp
  | cons c a ih =>
    have hpos := charUnits_pos c
    rw [List.cons_append, takeUnits, units_cons, if_neg (by omega), Nat.add_assoc,
      Nat.add_sub_cancel_left, ih, List.cons_append]

/-- The units of a cut lead to the cut. -/
theorem takeUnits_units (a b : Text) : takeUnits a.units (a ++ b) = a := by
  simpa using takeUnits_append a b 0

theorem takeUnits_of_units_le (h : t.units ≤ n) : takeUnits n t = t := by
  obtain ⟨k, rfl⟩ := Nat.exists_eq_add_of_le h
  simpa [takeUnits] using takeUnits_append t [] k

/-! ### Between the halves of a pair -/

/-- **A number of units splits a pair** if it lies between the two surrogates of a character. -/
def SplitsPair (t : Text) (n : Nat) : Prop :=
  ∃ (a : Text) (c : Char) (b : Text), t = a ++ c :: b ∧ 0x10000 ≤ c.toNat ∧ n = a.units + 1

/-- **Every number of units of a text belongs to a cut, or splits a pair.** -/
theorem exists_cut_units (h : n ≤ t.units) :
    (∃ a b : Text, t = a ++ b ∧ a.units = n) ∨ t.SplitsPair n := by
  induction t generalizing n with
  | nil => exact Or.inl ⟨[], [], rfl, (Nat.le_zero.mp h).symm⟩
  | cons c t ih =>
    rw [units_cons] at h
    rcases Nat.lt_or_ge n (charUnits c) with hlt | hge
    · rcases Nat.eq_zero_or_pos n with rfl | hpos
      · exact Or.inl ⟨[], c :: t, rfl, rfl⟩
      · have htwo := charUnits_le_two c
        exact Or.inr ⟨[], c, t, rfl, charUnits_eq_two_iff.mp (by omega), by simp; omega⟩
    · rcases ih (n := n - charUnits c) (by omega) with
        ⟨a, b, rfl, ha⟩ | ⟨a, d, b, rfl, hd, ha⟩
      · exact Or.inl ⟨c :: a, b, rfl, by rw [units_cons]; omega⟩
      · exact Or.inr ⟨c :: a, d, b, rfl, hd, by rw [units_cons]; omega⟩

/-- What splits a pair leads to the end of the pair, one unit further on. -/
theorem SplitsPair.units_takeUnits (h : t.SplitsPair n) : (takeUnits n t).units = n + 1 := by
  obtain ⟨a, c, b, rfl, hc, rfl⟩ := h
  have hone : takeUnits 1 (c :: b) = [c] := by
    rw [takeUnits, if_neg Nat.one_ne_zero, charUnits_eq_two_iff.mpr hc, takeUnits_zero]
  rw [takeUnits_append, hone, units_append, units_cons, units_nil, charUnits_eq_two_iff.mpr hc]

/-- **Only the halves of a pair are passed over**: taking units stops at the number, unless that
splits a pair, or at the end of the text. -/
theorem units_takeUnits_cases (n : Nat) (t : Text) :
    (takeUnits n t).units ≤ n ∧ ¬t.SplitsPair n ∨
      (takeUnits n t).units = n + 1 ∧ t.SplitsPair n := by
  by_cases hsplits : t.SplitsPair n
  · exact Or.inr ⟨hsplits.units_takeUnits, hsplits⟩
  · refine Or.inl ⟨?_, hsplits⟩
    rcases Nat.le_total n t.units with hle | hle
    · obtain ⟨a, b, rfl, rfl⟩ := (exists_cut_units hle).resolve_right hsplits
      rw [takeUnits_units]
    · rwa [takeUnits_of_units_le hle]

end GrammarWorkbench.Text
