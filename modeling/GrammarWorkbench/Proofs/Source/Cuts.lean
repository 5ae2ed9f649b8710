import GrammarWorkbench.Proofs.Source.Lines

/-!
# Byte offsets as cuts of a text

A byte offset of a text either cuts it into two texts or falls inside one character
(`GrammarWorkbench.Text.exists_cut`). What is done with offsets is said here in terms of cuts:
taking and dropping bytes, going back to a boundary (`GrammarWorkbench.Text.backOff_eq`), the starts
of lines, and the way from a line and a column to an offset, which is the inverse of the way back
(`GrammarWorkbench.LineIndex.offset?_locate`). A piece of a text without terminators has all its
columns in one line (`GrammarWorkbench.LineIndex.exists_line_of_isPlain`).
-/

namespace GrammarWorkbench

namespace Text

variable {a b t : Text} {c : Char} {m n : Nat}

theorem size_eq_zero_iff : t.size = 0 ↔ t = [] := by
  cases t with
  | nil => simp
  | cons c t =>
    have := c.utf8Size_pos
    simp only [size_cons, reduceCtorEq, iff_false]
    omega

/-- **Every offset of a text is a cut, or lies inside a character.** -/
theorem exists_cut (h : n ≤ t.size) :
    (∃ a b : Text, t = a ++ b ∧ a.size = n) ∨
      ∃ (a : Text) (c : Char) (b : Text),
        t = a ++ c :: b ∧ a.size < n ∧ n < a.size + c.utf8Size := by
  induction t generalizing n with
  | nil =>
    have hn : n = 0 := by simpa using h
    exact Or.inl ⟨[], [], rfl, hn.symm⟩
  | cons c t ih =>
    rw [size_cons] at h
    rcases Nat.lt_or_ge n c.utf8Size with hlt | hge
    · rcases Nat.eq_zero_or_pos n with rfl | hpos
      · exact Or.inl ⟨[], c :: t, rfl, rfl⟩
      · exact Or.inr ⟨[], c, t, rfl, hpos, by simpa using hlt⟩
    · rcases ih (n := n - c.utf8Size) (by omega) with ⟨a, b, rfl, ha⟩ | ⟨a, d, b, rfl, hlo, hhi⟩
      · exact Or.inl ⟨c :: a, b, rfl, by rw [size_cons]; omega⟩
      · exact Or.inr ⟨c :: a, d, b, rfl, by rw [size_cons]; omega, by rw [size_cons]; omega⟩

/-- Of two cuts of a text, the later one begins with the earlier one. -/
theorem exists_between {a' b' : Text} (h : a ++ b = a' ++ b') (hle : a.size ≤ a'.size) :
    ∃ part, a' = a ++ part ∧ b = part ++ b' := by
  rcases List.append_eq_append_iff.mp h with hlater | ⟨part, rfl, rfl⟩
  · exact hlater
  · have hpart : part = [] := by
      rw [size_append] at hle
      exact size_eq_zero_iff.mp (by omega)
    exact ⟨[], by simp [hpart], by simp [hpart]⟩

theorem takeBytes_append (a b : Text) (n : Nat) :
    takeBytes (a.size + n) (a ++ b) = a ++ takeBytes n b := by
  induction a with
  | nil => simp
  | cons c a ih =>
    rw [List.cons_append, takeBytes, size_cons, if_pos (by omega), Nat.add_assoc,
      Nat.add_sub_cancel_left, ih, List.cons_append]

theorem dropBytes_append (a b : Text) (n : Nat) :
    dropBytes (a.size + n) (a ++ b) = dropBytes n b := by
  induction a with
  | nil => simp
  | cons c a ih =>
    rw [List.cons_append, dropBytes, size_cons, if_pos (by omega), Nat.add_assoc,
      Nat.add_sub_cancel_left, ih]

theorem takeBytes_of_lt (h : n < c.utf8Size) (t : Text) : takeBytes n (c :: t) = [] := by
  rw [takeBytes, if_neg (by omega)]

@[simp]
theorem takeBytes_zero (t : Text) : takeBytes 0 t = [] := by
  cases t with
  | nil => rfl
  | cons c t => exact takeBytes_of_lt c.utf8Size_pos t

@[simp]
theorem dropBytes_zero (t : Text) : dropBytes 0 t = t := by
  have h := takeBytes_append_dropBytes 0 t
  rwa [takeBytes_zero] at h

theorem takeBytes_size (a b : Text) : takeBytes a.size (a ++ b) = a := by
  simpa using takeBytes_append a b 0

theorem dropBytes_size (a b : Text) : dropBytes a.size (a ++ b) = b := by
  simpa using dropBytes_append a b 0

theorem takeBytes_of_size_le (h : t.size ≤ n) : takeBytes n t = t := by
  obtain ⟨k, rfl⟩ := Nat.exists_eq_add_of_le h
  simpa [takeBytes] using takeBytes_append t [] k

theorem dropBytes_of_size_le (h : t.size ≤ n) : dropBytes n t = [] := by
  obtain ⟨k, rfl⟩ := Nat.exists_eq_add_of_le h
  simpa [dropBytes] using dropBytes_append t [] k

theorem takeBytes_takeBytes (h : m ≤ n) (t : Text) :
    takeBytes m (takeBytes n t) = takeBytes m t := by
  induction t generalizing m n with
  | nil => rfl
  | cons c t ih =>
    by_cases hc : c.utf8Size ≤ m
    · simp only [takeBytes, hc, Nat.le_trans hc h, if_true, ih (Nat.sub_le_sub_right h _)]
    · rw [takeBytes_of_lt (Nat.lt_of_not_le hc) t, takeBytes]
      split
      · exact takeBytes_of_lt (Nat.lt_of_not_le hc) _
      · rfl

theorem size_takeBytes_le_size (n : Nat) (t : Text) : (takeBytes n t).size ≤ t.size := by
  have h := congrArg size (takeBytes_append_dropBytes n t)
  rw [size_append] at h
  omega

theorem takeBytes_min_size (n : Nat) (t : Text) : takeBytes (min n t.size) t = takeBytes n t := by
  rcases Nat.le_total n t.size with hle | hle
  · rw [Nat.min_eq_left hle]
  · rw [Nat.min_eq_right hle, takeBytes_of_size_le hle, takeBytes_of_size_le (Nat.le_refl _)]

/-- A cut is a boundary. -/
theorem isBoundary_append (a b : Text) : isBoundary (a ++ b) a.size = true := by
  rw [isBoundary, takeBytes_size]
  exact beq_self_eq_true _

/-- What lies inside a character is no boundary. -/
theorem isBoundary_of_lt (hlo : a.size < n) (hhi : n < a.size + c.utf8Size) :
    isBoundary (a ++ c :: b) n = false := by
  obtain ⟨k, rfl⟩ := Nat.exists_eq_add_of_lt hlo
  rw [isBoundary, Nat.add_assoc, takeBytes_append, takeBytes_of_lt (by omega), List.append_nil]
  exact beq_eq_false_iff_ne.mpr (by omega)

theorem isBoundary_iff : t.isBoundary n = true ↔ (takeBytes n t).size = n :=
  beq_iff_eq

/-- Go back, one byte after the other, until there is a boundary. -/
def backOff (t : Text) : Nat → Nat
  | 0 => 0
  | n + 1 => if t.isBoundary (n + 1) then n + 1 else backOff t n

/-- **Going back from byte to byte leads to the last cut.** -/
theorem backOff_eq (t : Text) (n : Nat) : t.backOff n = (takeBytes n t).size := by
  induction n with
  | zero => rw [backOff, takeBytes_zero, size_nil]
  | succ n ih =>
    rw [backOff]
    split
    next hboundary => exact (isBoundary_iff.mp hboundary).symm
    next hboundary =>
      -- What has fewer bytes than it may have is taken from fewer bytes as well.
      have hle := size_takeBytes_le (n + 1) t
      have hne := mt isBoundary_iff.mpr hboundary
      rw [ih, ← takeBytes_takeBytes (Nat.le_add_right n 1), takeBytes_of_size_le (by omega)]

/-- Between two cuts. -/
theorem slice_append (a part b : Text) :
    slice (a ++ (part ++ b)) a.size (a.size + part.size) = part := by
  rw [slice, Nat.add_sub_cancel_left, dropBytes_size, takeBytes_size]

end Text

namespace LineIndex

variable {t : Text} {line column start offset x : Nat}

theorem exists_cut_of_mem_startsFrom (h : x ∈ startsFrom offset t) :
    ∃ a b : Text, t = a ++ b ∧ x = offset + a.size := by
  induction t generalizing offset with
  | nil => simp [startsFrom] at h
  | cons c t ih =>
    have hlater : x ∈ startsFrom (offset + c.utf8Size) t →
        ∃ a b : Text, c :: t = a ++ b ∧ x = offset + a.size := by
      intro h
      obtain ⟨a, b, rfl, hx⟩ := ih h
      exact ⟨c :: a, b, rfl, by rw [hx, Text.size_cons, Nat.add_assoc]⟩
    rw [startsFrom] at h
    split at h
    · rcases List.mem_cons.mp h with rfl | h
      · exact ⟨[c], t, rfl, rfl⟩
      · exact hlater h
    · exact hlater h

/-- **A line starts at a cut.** -/
theorem exists_cut_of_mem_starts (h : x ∈ (ofText t).starts) :
    ∃ a b : Text, t = a ++ b ∧ a.size = x := by
  rcases List.mem_cons.mp h with rfl | h
  · exact ⟨[], t, rfl, rfl⟩
  · obtain ⟨a, b, ht, hx⟩ := exists_cut_of_mem_startsFrom h
    exact ⟨a, b, ht, by rw [hx, Nat.zero_add]⟩

/-- **A column of a line** lies behind its start, and not behind the end of the text. -/
theorem cut_of_offset? (hstart : (ofText t).lineStart? line = some start)
    (hoffset : (ofText t).offset? line column = some offset) :
    ∃ pre rest : Text, t = pre ++ rest ∧ start = pre.size ∧ offset = pre.size + column ∧
      column ≤ rest.size := by
  obtain ⟨pre, rest, rfl, rfl⟩ := exists_cut_of_mem_starts (List.mem_of_getElem? hstart)
  have hstart : (ofText (pre ++ rest)).starts[line]? = some pre.size := hstart
  refine ⟨pre, rest, rfl, rfl, ?_⟩
  rw [offset?, hstart] at hoffset
  have hsize : (ofText (pre ++ rest)).size = pre.size + rest.size := Text.size_append pre rest
  cases hnext : (ofText (pre ++ rest)).starts[line + 1]? with
  | none =>
    simp only [hnext, Option.ite_none_right_eq_some, Option.some.injEq] at hoffset
    omega
  | some next =>
    obtain ⟨a, b, hcut, ha⟩ := exists_cut_of_mem_starts (List.mem_of_getElem? hnext)
    have htotal := congrArg Text.size hcut
    simp only [Text.size_append] at htotal
    simp only [hnext, Option.ite_none_right_eq_some, Option.some.injEq] at hoffset
    omega

/-- The lines up to an offset do not start after it. -/
theorem exists_start_le {index : LineIndex} {k : Nat} (h : k < index.linesUpTo offset) :
    ∃ start, index.lineStart? k = some start ∧ start ≤ offset := by
  have htake := List.takeWhile_prefix (l := index.starts) (· ≤ offset)
  have hmem := List.mem_takeWhile_imp (List.getElem_mem h)
  refine ⟨_, ?_, of_decide_eq_true hmem⟩
  rw [htake.getElem h]
  exact List.getElem?_eq_getElem _

/-- The lines that do not start at or before an offset start after it. -/
theorem lt_of_getElem?_linesUpTo {index : LineIndex} {next : Nat}
    (h : index.starts[index.linesUpTo offset]? = some next) : offset < next := by
  rw [linesUpTo] at h
  generalize index.starts = starts at h
  induction starts with
  | nil => cases h
  | cons start starts ih =>
    by_cases hstart : start ≤ offset
    · simp only [List.takeWhile_cons, hstart, decide_true, if_true, List.length_cons,
        List.getElem?_cons_succ] at h
      exact ih h
    · simp only [List.takeWhile_cons, hstart, decide_false, Bool.false_eq_true, if_false,
        List.length_nil, List.getElem?_cons_zero, Option.some.injEq] at h
      omega

/-- **The way back from a line and a column.** -/
theorem offset?_locate (h : offset ≤ t.size) :
    ∃ start, (ofText t).lineStart? ((ofText t).locate offset).1 = some start ∧
      start + ((ofText t).locate offset).2 = offset ∧
      (ofText t).offset? ((ofText t).locate offset).1 ((ofText t).locate offset).2 =
        some offset := by
  have hpos := linesUpTo_pos t offset
  have hle := start_le t offset
  -- The line is the last one that starts at or before the offset, and the next one starts later.
  have hline : ((ofText t).locate offset).1 = (ofText t).linesUpTo offset - 1 := rfl
  have hcolumn : ((ofText t).locate offset).2 =
      offset - (ofText t).starts.getD ((ofText t).linesUpTo offset - 1) 0 := rfl
  have hlength : (ofText t).linesUpTo offset ≤ (ofText t).starts.length :=
    (List.takeWhile_prefix _).length_le
  have hstart : (ofText t).starts[(ofText t).linesUpTo offset - 1]? =
      some ((ofText t).starts.getD ((ofText t).linesUpTo offset - 1) 0) := by
    rw [List.getD_eq_getElem _ _ (by omega), List.getElem?_eq_getElem (by omega)]
  refine ⟨_, hstart, by omega, ?_⟩
  have hback : (ofText t).starts.getD ((ofText t).linesUpTo offset - 1) 0 +
      ((ofText t).locate offset).2 = offset := by omega
  have hsucc : (ofText t).linesUpTo offset - 1 + 1 = (ofText t).linesUpTo offset := by omega
  rw [offset?, hline, hstart]
  simp only [hback, hsucc]
  cases hlast : (ofText t).starts[(ofText t).linesUpTo offset]? with
  | none => exact if_pos h
  | some next => exact if_pos (lt_of_getElem?_linesUpTo hlast)

/-- **A piece of a text without terminators stands in one line**: its columns are columns of the
line in which it begins. -/
theorem exists_line_of_isPlain {w : Text} (hw : w.IsPlain) (pre rest : Text) :
    ∃ start before line, pre = start ++ before ∧
      (ofText (pre ++ (w ++ rest))).position pre.size = ⟨line + 1, before.size + 1⟩ ∧
      (ofText (pre ++ (w ++ rest))).lineStart? line = some start.size ∧
      (ofText (pre ++ (w ++ rest))).offset? line (Text.size (before ++ w)) =
        some (start.size + Text.size (before ++ w)) := by
  have hsize : (pre ++ (w ++ rest)).size = pre.size + w.size + rest.size := by
    simp [Nat.add_assoc]
  obtain ⟨first, hfirst, hback, -⟩ :=
    offset?_locate (t := pre ++ (w ++ rest)) (by omega : pre.size ≤ _)
  obtain ⟨-, -, -, hoffset⟩ :=
    offset?_locate (t := pre ++ (w ++ rest)) (by omega : pre.size + w.size ≤ _)
  obtain ⟨start, tail, hcut, rfl⟩ := exists_cut_of_mem_starts (List.mem_of_getElem? hfirst)
  obtain ⟨before, rfl, -⟩ := Text.exists_between hcut.symm (by omega)
  have hcolumn : ((ofText (start ++ before ++ (w ++ rest))).locate
      (Text.size (start ++ before))).2 = before.size := by
    rw [Text.size_append] at hback ⊢
    omega
  refine ⟨start, before, _, rfl, ?_, hfirst, ?_⟩
  · rw [position, ← hcolumn]
  · rw [locate_of_isPlain hw, hcolumn] at hoffset
    have hlast : Text.size (start ++ before) + w.size = start.size + Text.size (before ++ w) := by
      simp [Nat.add_assoc]
    rw [← hlast, Text.size_append before w]
    exact hoffset

end LineIndex

end GrammarWorkbench
