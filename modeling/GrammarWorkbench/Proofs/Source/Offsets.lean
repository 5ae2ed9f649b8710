import GrammarWorkbench.Proofs.Source.Cuts
import Mathlib.Data.List.Perm.Subperm

/-!
# Offsets correspond to lines and columns

Every offset of a text has a line and a column, and different offsets have different ones. This file
says which lines and columns there are, and what the line of an offset is without the table that it
is looked up in.

* **The line of an offset is the number of terminators that end at or before it**
  (`GrammarWorkbench.Text.terminatorsUpTo`). The terminators are read off the text from left to
  right, with a carriage return and a line feed taken together. The table is made by looking one
  character ahead instead, and lists the same offsets
  (`GrammarWorkbench.LineIndex.startsFrom_eq_terminatorEnds`).
* **The table is what reading a buffer notes** (`GrammarWorkbench.LineIndex.reads_scan`). The cursor
  is moved to the start, read to the end and put back (`GrammarWorkbench.LineIndex.scan_eq`).
* **A line and a column belong to at most one offset**, and the way from the one to the other is an
  exact inverse of the way back (`GrammarWorkbench.LineIndex.offset?_eq_some_iff`). What makes it so
  is that the starts of lines increase, so that no line starts at or before an offset but those that
  the search counts (`GrammarWorkbench.LineIndex.lt_linesUpTo_iff`).
-/

namespace GrammarWorkbench

/-! ### Terminators -/

namespace Text

/-- **The offsets at which line terminators end** in a text that begins at `offset`. A line feed
after a carriage return belongs to the same terminator. -/
def terminatorEnds (offset : Nat) : Text → List Nat
  | [] => []
  | '\r' :: '\n' :: t => (offset + 2) :: terminatorEnds (offset + 2) t
  | '\r' :: t => (offset + 1) :: terminatorEnds (offset + 1) t
  | '\n' :: t => (offset + 1) :: terminatorEnds (offset + 1) t
  | c :: t => terminatorEnds (offset + c.utf8Size) t

example : terminatorEnds 0 "a\r\nb\r\rc\n".toList = [3, 5, 6, 8] := by decide

/-- **The number of line terminators** that end at or before an offset of a text. -/
def terminatorsUpTo (t : Text) (offset : Nat) : Nat :=
  (t.terminatorEnds 0).countP (· ≤ offset)

end Text

namespace LineIndex

variable {index : LineIndex} {t : Text} {offset start line column x k : Nat}

/-- **Lines start where terminators end.** -/
theorem startsFrom_eq_terminatorEnds (offset : Nat) (t : Text) :
    startsFrom offset t = t.terminatorEnds offset := by
  fun_induction Text.terminatorEnds offset t with
  | case1 => rfl
  | case2 offset t ih =>
    -- The carriage return of a pair ends no line, and the line feed does.
    have hreturn : endsLine '\r' ('\n' :: t) = false := rfl
    have hfeed : endsLine '\n' t = true := rfl
    have hsize : offset + '\r'.utf8Size + '\n'.utf8Size = offset + 2 := rfl
    rw [startsFrom, hreturn, if_neg Bool.false_ne_true, startsFrom, hfeed, if_pos rfl, hsize, ih]
  | case3 offset t hnext ih =>
    have hreturn : endsLine '\r' t = true := by
      cases t with
      | nil => rfl
      | cons d t =>
        have hd : d ≠ '\n' := fun hd => hnext t (hd ▸ rfl)
        simp [endsLine, hd]
    have hsize : offset + '\r'.utf8Size = offset + 1 := rfl
    rw [startsFrom, hreturn, if_pos rfl, hsize, ih]
  | case4 offset t ih =>
    have hfeed : endsLine '\n' t = true := rfl
    have hsize : offset + '\n'.utf8Size = offset + 1 := rfl
    rw [startsFrom, hfeed, if_pos rfl, hsize, ih]
  | case5 offset c t _ hreturn hfeed ih =>
    have hends : endsLine c t = false := by
      have hr : c ≠ '\r' := hreturn
      have hn : c ≠ '\n' := hfeed
      simp [endsLine, hr, hn]
    rw [startsFrom, hends, if_neg Bool.false_ne_true, ih]

/-! ### The starts of lines increase -/

theorem lt_of_mem_startsFrom (h : x ∈ startsFrom offset t) : offset < x := by
  cases t with
  | nil => simp [startsFrom] at h
  | cons c t =>
    have hle := le_of_mem_startsFrom h
    have hpos := c.utf8Size_pos
    omega

theorem pairwise_startsFrom (offset : Nat) (t : Text) :
    (startsFrom offset t).Pairwise (· < ·) := by
  induction t generalizing offset with
  | nil => exact List.Pairwise.nil
  | cons c t ih =>
    rw [startsFrom]
    split
    · exact List.pairwise_cons.mpr ⟨fun x hx => lt_of_mem_startsFrom hx, ih _⟩
    · exact ih _

/-- **The starts of lines increase**, from zero on. -/
theorem pairwise_starts (t : Text) : (ofText t).starts.Pairwise (· < ·) :=
  List.pairwise_cons.mpr ⟨fun _ hx => lt_of_mem_startsFrom hx, pairwise_startsFrom 0 t⟩

/-- **The search counts the lines** that start at or before an offset: where it stops, all further
lines start later. -/
theorem linesUpTo_eq_countP (h : index.starts.Pairwise (· < ·)) (offset : Nat) :
    index.linesUpTo offset = index.starts.countP (· ≤ offset) := by
  rw [linesUpTo]
  generalize index.starts = starts at h ⊢
  induction starts with
  | nil => rfl
  | cons start starts ih =>
    obtain ⟨hfirst, hrest⟩ := List.pairwise_cons.mp h
    by_cases hstart : start ≤ offset
    · rw [List.takeWhile_cons_of_pos (by simpa using hstart), List.length_cons, ih hrest,
        List.countP_cons_of_pos (by simpa using hstart)]
    · have hlater : (start :: starts).countP (· ≤ offset) = 0 := by
        refine List.countP_eq_zero.mpr fun x hx => ?_
        rcases List.mem_cons.mp hx with rfl | hx
        · simpa using hstart
        · have hlt := hfirst x hx
          simp only [decide_eq_true_eq]
          omega
      rw [List.takeWhile_cons_of_neg (by simpa using hstart), hlater, List.length_nil]

/-- **The line of an offset** is the number of terminators up to there. -/
theorem fst_locate (t : Text) (offset : Nat) :
    ((ofText t).locate offset).1 = t.terminatorsUpTo offset := by
  have hline : ((ofText t).locate offset).1 = (ofText t).linesUpTo offset - 1 := rfl
  rw [hline, linesUpTo_eq_countP (pairwise_starts t), ofText,
    List.countP_cons_of_pos (by simp), startsFrom_eq_terminatorEnds, Nat.add_sub_cancel]
  rfl

/-- **Offsets bound lines**: a line that starts at or before an offset has at most as many lines
before it as there are bytes. -/
theorem linesUpTo_le (h : index.starts.Pairwise (· < ·)) (offset : Nat) :
    index.linesUpTo offset ≤ offset + 1 := by
  rw [linesUpTo_eq_countP h, List.countP_eq_length_filter, ← List.length_range (n := offset + 1)]
  have hnodup : (index.starts.filter (· ≤ offset)).Nodup := (h.imp Nat.ne_of_lt).filter _
  refine (List.Nodup.subperm hnodup ?_).length_le
  intro start hstart
  have hle := of_decide_eq_true (List.mem_filter.mp hstart).2
  exact List.mem_range.mpr (Nat.lt_succ_of_le hle)

/-- **Offsets bound positions.** -/
theorem position_le (t : Text) (offset : Nat) :
    ((ofText t).position offset).line ≤ offset + 1 ∧
      ((ofText t).position offset).column ≤ offset + 1 := by
  have hlines := linesUpTo_le (pairwise_starts t) offset
  have hpos := linesUpTo_pos t offset
  have hline : ((ofText t).position offset).line = (ofText t).linesUpTo offset - 1 + 1 := rfl
  exact ⟨by omega, Nat.succ_le_succ (Nat.sub_le _ _)⟩

/-- A line is counted by the search exactly if it starts at or before the offset. -/
theorem lt_linesUpTo_iff (h : index.starts.Pairwise (· < ·)) (hk : index.starts[k]? = some start) :
    k < index.linesUpTo offset ↔ start ≤ offset := by
  constructor
  · intro hlt
    obtain ⟨start', hstart', hle⟩ := exists_start_le hlt
    obtain rfl := Option.some.inj (hk.symm.trans hstart')
    exact hle
  · intro hle
    by_contra hge
    -- The first line that is not counted starts after the offset, and not after the line `k`.
    obtain ⟨hklt, hkget⟩ := List.getElem?_eq_some_iff.mp hk
    have hfirst : index.linesUpTo offset < index.starts.length := by omega
    have hlater := lt_of_getElem?_linesUpTo (List.getElem?_eq_getElem hfirst)
    rcases Nat.eq_or_lt_of_le (Nat.le_of_not_lt hge) with heq | hlt
    · have hstart : index.starts[index.linesUpTo offset] = start := by
        simp only [heq, hkget]
      omega
    · have hstart := List.pairwise_iff_getElem.mp h _ _ hfirst hklt hlt
      rw [hkget] at hstart
      omega

/-! ### From lines and columns to offsets and back -/

/-- A line does not start behind the end of its text. -/
theorem start_le_size (h : (ofText t).starts[k]? = some start) : start ≤ t.size := by
  obtain ⟨a, b, rfl, rfl⟩ := exists_cut_of_mem_starts (List.mem_of_getElem? h)
  rw [Text.size_append]
  exact Nat.le_add_right _ _

/-- **A line and a column are an offset** only if they are the line and the column of the offset. -/
theorem locate_of_offset? (h : (ofText t).offset? line column = some offset) :
    offset ≤ t.size ∧ (ofText t).locate offset = (line, column) := by
  have hsorted := pairwise_starts t
  rw [offset?] at h
  split at h
  next => cases h
  next start hstart =>
    -- The line starts at or before the offset, and the next one does not, if there is one.
    obtain ⟨rfl, hsize, hcount⟩ : start + column = offset ∧ start + column ≤ t.size ∧
        (ofText t).linesUpTo (start + column) = line + 1 := by
      have hlt : line < (ofText t).linesUpTo (start + column) :=
        (lt_linesUpTo_iff hsorted hstart).mpr (Nat.le_add_right _ _)
      split at h
      next next hnext =>
        obtain ⟨hbefore, heq⟩ := Option.ite_none_right_eq_some.mp h
        have hle := start_le_size hnext
        have hnot : ¬line + 1 < (ofText t).linesUpTo (start + column) := by
          rw [lt_linesUpTo_iff hsorted hnext]
          omega
        exact ⟨Option.some.inj heq, by omega, by omega⟩
      next hlast =>
        obtain ⟨hle, heq⟩ := Option.ite_none_right_eq_some.mp h
        have hlines : (ofText t).linesUpTo (start + column) ≤ (ofText t).starts.length :=
          (List.takeWhile_prefix _).length_le
        have hlength := List.getElem?_eq_none_iff.mp hlast
        exact ⟨Option.some.inj heq, hle, by omega⟩
    refine ⟨hsize, ?_⟩
    have hline : (ofText t).linesUpTo (start + column) - 1 = line := by omega
    have hlocate : (ofText t).locate (start + column) =
        ((ofText t).linesUpTo (start + column) - 1,
          start + column - (ofText t).starts.getD ((ofText t).linesUpTo (start + column) - 1) 0) :=
      rfl
    rw [hlocate, hline, List.getD_eq_getElem?_getD, hstart, Option.getD_some,
      Nat.add_sub_cancel_left]

/-- **Lines and columns correspond to offsets.** -/
theorem offset?_eq_some_iff : (ofText t).offset? line column = some offset ↔
    offset ≤ t.size ∧ (ofText t).locate offset = (line, column) := by
  constructor
  · exact locate_of_offset?
  · rintro ⟨hle, hlocate⟩
    obtain ⟨start, -, -, hoffset⟩ := offset?_locate hle
    rwa [hlocate] at hoffset

/-! ### Reading a buffer -/

/-- **Reading a buffer to its end.** The cursor goes from character to character, and the place
behind a character at which a line ends is noted. After a carriage return this needs the character
under the cursor, which is not read for it. -/
inductive Reads : Buffer → List Nat → Buffer → Prop
  | done {b : Buffer} (hread : b.read.1 = none) : Reads b [] b
  | within {b b' last : Buffer} {c : Char} {starts : List Nat} (hread : b.read = (some c, b'))
      (hends : endsLine c b'.rest = false) (h : Reads b' starts last) : Reads b starts last
  | line {b b' last : Buffer} {c : Char} {starts : List Nat} (hread : b.read = (some c, b'))
      (hends : endsLine c b'.rest = true) (h : Reads b' starts last) :
      Reads b (b'.cursor :: starts) last

/-- From a place between two characters on, reading notes the lines that start later. -/
theorem reads_startsFrom (a t : Text) :
    Reads ⟨a ++ t, a.size⟩ (startsFrom a.size t) ⟨a ++ t, (a ++ t).size⟩ := by
  induction t generalizing a with
  | nil =>
    have hrest : Buffer.rest ⟨a ++ [], a.size⟩ = [] := Text.dropBytes_size a []
    rw [List.append_nil] at hrest ⊢
    exact .done (by rw [Buffer.read, Buffer.peek, hrest]; rfl)
  | cons c t ih =>
    have hrest : Buffer.rest ⟨a ++ c :: t, a.size⟩ = c :: t := Text.dropBytes_size a (c :: t)
    have hread : Buffer.read ⟨a ++ c :: t, a.size⟩ =
        (some c, ⟨a ++ c :: t, a.size + c.utf8Size⟩) := by
      rw [Buffer.read, Buffer.peek, hrest]
      rfl
    have hsize : (a ++ [c]).size = a.size + c.utf8Size := Text.size_append a [c]
    have hnext : Buffer.rest ⟨a ++ c :: t, a.size + c.utf8Size⟩ = t := by
      rw [Buffer.rest, ← hsize, List.append_cons]
      exact Text.dropBytes_size (a ++ [c]) t
    have ih := ih (a ++ [c])
    rw [← List.append_cons, hsize] at ih
    rw [startsFrom]
    split
    next hends => exact .line hread (by rw [hnext, hends]) ih
    next hends => exact .within hread (by rw [hnext, eq_false_of_ne_true hends]) ih

/-- **Reading a buffer from its start notes the starts of its lines**, the first one apart. -/
theorem reads_scan (b : Buffer) : Reads (b.seek 0) (startsFrom 0 b.text) (b.seek b.size) := by
  have hfirst : b.seek 0 = ⟨b.text, 0⟩ := by
    rw [Buffer.seek, Text.takeBytes_zero]
    rfl
  have hlast : b.seek b.size = ⟨b.text, b.text.size⟩ := by
    have htake := Text.takeBytes_size b.text []
    rw [List.append_nil] at htake
    rw [Buffer.seek, Buffer.size, htake]
  rw [hfirst, hlast]
  exact reads_startsFrom [] b.text

/-- **The line index of a buffer is that of its text**, wherever the cursor stands, and the cursor
stays there. -/
theorem scan_eq (b : Buffer) : scan b = (ofText b.text, b) := by
  have hrest : (b.seek 0).rest = b.text := by
    rw [Buffer.rest, Buffer.seek, Text.takeBytes_zero]
    exact Text.dropBytes_zero b.text
  rw [scan, Buffer.preserving, hrest]
  rfl

/-- **The line index is a bijection between the offsets of a text and its lines and columns.** The
starts of the lines increase from zero. The line of an offset is the number of terminators that end
at or before it, where a carriage return and a line feed count once; the column is the distance from
the start of that line, and the two lead back to the offset. No other line and column lead to it,
and a line and a column that belong to no offset lead nowhere. -/
theorem bijective_scan (b : Buffer) :
    let t := b.text
    let index := (scan b).1
    index.lineStart? 0 = some 0 ∧ index.starts.Pairwise (· < ·) ∧
      (∀ offset ≤ t.size, ∃ start, index.lineStart? (t.terminatorsUpTo offset) = some start ∧
        start ≤ offset ∧ index.locate offset = (t.terminatorsUpTo offset, offset - start) ∧
        index.offset? (t.terminatorsUpTo offset) (offset - start) = some offset) ∧
      ∀ line column offset, index.offset? line column = some offset ↔
        offset ≤ t.size ∧ index.locate offset = (line, column) := by
  intro t index
  have hindex : index = ofText t := congrArg Prod.fst (scan_eq b)
  rw [hindex]
  refine ⟨rfl, pairwise_starts t, ?_, fun line column offset => offset?_eq_some_iff⟩
  intro offset hle
  obtain ⟨start, hstart, hsum, hback⟩ := offset?_locate hle
  rw [fst_locate] at hstart hback
  have hcolumn : ((ofText t).locate offset).2 = offset - start := by omega
  rw [hcolumn] at hback
  exact ⟨start, hstart, by omega, Prod.ext (fst_locate t offset) hcolumn, hback⟩

end LineIndex

end GrammarWorkbench
