import GrammarWorkbench.Text.Basic

/-!
# The bytes of a text

A text is a list of characters, and its UTF-8 form is a list of bytes. **A byte below 128 is the
character that it belongs to** (`GrammarWorkbench.Text.ofUInt8_of_mem_utf8EncodeChar`): an ASCII
character is its only byte, and no byte of any other character is so small. So what is decided by
ASCII characters can be decided byte by byte.
-/

namespace GrammarWorkbench.Text

variable {c : Char} {b : UInt8}

/-- The UTF-8 form of a text. -/
def bytes (t : Text) : List UInt8 :=
  t.flatMap String.utf8EncodeChar

@[simp]
theorem bytes_cons (c : Char) (t : Text) : bytes (c :: t) = String.utf8EncodeChar c ++ bytes t :=
  rfl

@[simp]
theorem bytes_append (s t : Text) : bytes (s ++ t) = bytes s ++ bytes t :=
  List.flatMap_append

@[simp]
theorem length_bytes (t : Text) : (bytes t).length = t.size := by
  induction t with
  | nil => rfl
  | cons c t ih => rw [bytes_cons, List.length_append, String.length_utf8EncodeChar, ih, size_cons]

/-- The bytes of a character, at the place of the character. -/
theorem getElem?_bytes (a : Text) (c : Char) (b : Text) {k : Nat} (h : k < c.utf8Size) :
    (a ++ c :: b).bytes[a.size + k]? = (String.utf8EncodeChar c)[k]? := by
  have hlength : k < (String.utf8EncodeChar c).length := by rwa [String.length_utf8EncodeChar]
  rw [bytes_append, bytes_cons, ← length_bytes a, List.getElem?_append_right (Nat.le_add_right _ _),
    Nat.add_sub_cancel_left, List.getElem?_append_left hlength]

theorem toNat_ofUInt8 (b : UInt8) : (Char.ofUInt8 b).toNat = b.toNat := rfl

/-- The bytes of a character beyond ASCII are beyond ASCII. -/
theorem le_of_mem_utf8EncodeChar (hc : 128 ≤ c.toNat) (h : b ∈ String.utf8EncodeChar c) :
    128 ≤ b.toNat := by
  have hc : 128 ≤ c.val.toNat := hc
  simp only [String.utf8EncodeChar] at h
  rw [if_neg (by omega)] at h
  split at h
  · simp only [List.mem_cons, List.not_mem_nil, or_false] at h
    rcases h with rfl | rfl <;> rw [UInt8.toNat_ofNat'] <;> omega
  split at h
  · simp only [List.mem_cons, List.not_mem_nil, or_false] at h
    rcases h with rfl | rfl | rfl <;> rw [UInt8.toNat_ofNat'] <;> omega
  · simp only [List.mem_cons, List.not_mem_nil, or_false] at h
    rcases h with rfl | rfl | rfl | rfl <;> rw [UInt8.toNat_ofNat'] <;> omega

/-- An ASCII character is its only byte. -/
theorem utf8EncodeChar_of_lt (hc : c.toNat < 128) :
    ∃ b, String.utf8EncodeChar c = [b] ∧ Char.ofUInt8 b = c := by
  have hval : c.val.toNat < 128 := hc
  refine ⟨UInt8.ofNat c.val.toNat, ?_, ?_⟩
  · simp only [String.utf8EncodeChar]
    rw [if_pos (by omega)]
  · apply Char.toNat_inj.mp
    rw [toNat_ofUInt8, UInt8.toNat_ofNat', Nat.mod_eq_of_lt (by omega)]
    rfl

/-- **A byte below 128 is the character that it belongs to.** -/
theorem ofUInt8_of_mem_utf8EncodeChar (h : b ∈ String.utf8EncodeChar c) (hb : b.toNat < 128) :
    Char.ofUInt8 b = c := by
  rcases Nat.lt_or_ge c.toNat 128 with hc | hc
  · obtain ⟨d, hd, rfl⟩ := utf8EncodeChar_of_lt hc
    rw [hd, List.mem_singleton] at h
    rw [h]
  · have := le_of_mem_utf8EncodeChar hc h
    omega

theorem isLetter_iff : isLetter c = true ↔
    97 ≤ c.toNat ∧ c.toNat ≤ 122 ∨ 65 ≤ c.toNat ∧ c.toNat ≤ 90 := by
  simp only [isLetter, Bool.or_eq_true, Bool.and_eq_true, decide_eq_true_eq]
  exact Iff.rfl

theorem isDigit_iff : isDigit c = true ↔ 48 ≤ c.toNat ∧ c.toNat ≤ 57 := by
  simp only [isDigit, Bool.and_eq_true, decide_eq_true_eq]
  exact Iff.rfl

end GrammarWorkbench.Text
