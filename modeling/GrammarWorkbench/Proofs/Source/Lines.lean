import GrammarWorkbench.Source.LineIndex
import Mathlib.Data.List.GetD
import Mathlib.Data.List.TakeWhile

/-!
# Lines and columns along a text

The line and the column of an offset are found by a search among the starts of the lines. Two things
are wanted of them, and neither is about searching.

* **The order of positions is the order of offsets**: `GrammarWorkbench.LineIndex.position_lt`.
* **Lines and columns can be counted along the text**, one character after the other:
  `GrammarWorkbench.LineIndex.locate_add_utf8Size` says how a character moves the place after it,
  and `GrammarWorkbench.LineIndex.locate_add` that the bytes of a character stand side by side in
  one line.

For the second, a text is cut into what stands before an offset and what stands after it. The starts
of the lines are then cut in the same way (`GrammarWorkbench.LineIndex.startsFrom_append`), although
whether a carriage return ends a line is decided by the character after the cut.
-/

namespace GrammarWorkbench

/-- A text inside one line. -/
def Text.IsPlain (t : Text) : Prop :=
  ∀ c ∈ t, c ≠ '\r' ∧ c ≠ '\n'

namespace LineIndex

variable {a b n x offset : Nat} {c : Char} {pre rest : Text}

/-! ### The order of positions -/

/-- The number of lines that start at or before an offset. -/
def linesUpTo (index : LineIndex) (offset : Nat) : Nat :=
  (index.starts.takeWhile (· ≤ offset)).length

theorem linesUpTo_mono (index : LineIndex) (h : a ≤ b) :
    index.linesUpTo a ≤ index.linesUpTo b := by
  have heq : index.starts.takeWhile (· ≤ a) =
      (index.starts.takeWhile (· ≤ b)).takeWhile (· ≤ a) := by
    rw [List.takeWhile_takeWhile]
    congr 1
    funext x
    simp only [Bool.decide_and, Bool.decide_eq_true]
    grind
  rw [linesUpTo, heq]
  exact (List.takeWhile_prefix _).length_le

theorem linesUpTo_pos (t : Text) (offset : Nat) : 0 < (ofText t).linesUpTo offset := by
  simp [linesUpTo, ofText]

/-- The line of an offset does not start after it. -/
theorem start_le (t : Text) (offset : Nat) :
    (ofText t).starts.getD ((ofText t).linesUpTo offset - 1) 0 ≤ offset := by
  have hpos := linesUpTo_pos t offset
  have hlt : (ofText t).linesUpTo offset - 1 <
      ((ofText t).starts.takeWhile (· ≤ offset)).length := by
    have : (ofText t).linesUpTo offset =
      ((ofText t).starts.takeWhile (· ≤ offset)).length := rfl
    omega
  have hget := (List.takeWhile_prefix (l := (ofText t).starts) (· ≤ offset)).getElem hlt
  have hmem := List.mem_takeWhile_imp (List.getElem_mem hlt)
  rw [List.getD_eq_getElem _ _ (Nat.lt_of_lt_of_le hlt (List.takeWhile_prefix _).length_le), ← hget]
  simpa using hmem

/-- **Positions are ordered like offsets.** -/
theorem position_lt (t : Text) (h : a < b) : (ofText t).position a < (ofText t).position b := by
  have hmono := linesUpTo_mono (ofText t) (Nat.le_of_lt h)
  have hpos := linesUpTo_pos t a
  have hstart := start_le t a
  rw [Position.lt_iff]
  simp only [position, locate]
  change (ofText t).linesUpTo a - 1 + 1 < (ofText t).linesUpTo b - 1 + 1 ∨
    (ofText t).linesUpTo a - 1 + 1 = (ofText t).linesUpTo b - 1 + 1 ∧
      a - (ofText t).starts.getD ((ofText t).linesUpTo a - 1) 0 + 1 <
        b - (ofText t).starts.getD ((ofText t).linesUpTo b - 1) 0 + 1
  rcases Nat.lt_or_ge ((ofText t).linesUpTo a) ((ofText t).linesUpTo b) with hlt | hge
  · left
    omega
  · right
    have heq : (ofText t).linesUpTo b = (ofText t).linesUpTo a := by omega
    rw [heq]
    omega

/-! ### A cut of a text cuts its lines -/

/-- The starts of the lines that begin in `pre` or right after it, where `rest` follows. -/
def startsBefore (offset : Nat) : Text → Text → List Nat
  | [], _ => []
  | c :: pre, rest =>
    let next := offset + c.utf8Size
    if endsLine c (pre ++ rest) then next :: startsBefore next pre rest
    else startsBefore next pre rest

/-- **The lines of a text in two pieces.** -/
theorem startsFrom_append (offset : Nat) (pre rest : Text) :
    startsFrom offset (pre ++ rest) =
      startsBefore offset pre rest ++ startsFrom (offset + pre.size) rest := by
  induction pre generalizing offset with
  | nil => rfl
  | cons c pre ih =>
    rw [List.cons_append, startsFrom, startsBefore, ih, Text.size_cons, ← Nat.add_assoc]
    split <;> rfl

theorem startsBefore_concat (offset : Nat) (pre : Text) (c : Char) (rest : Text) :
    startsBefore offset (pre ++ [c]) rest = startsBefore offset pre (c :: rest) ++
      if endsLine c rest then [offset + pre.size + c.utf8Size] else [] := by
  induction pre generalizing offset with
  | nil => simp [startsBefore]
  | cons d pre ih =>
    rw [List.cons_append, startsBefore, startsBefore, ih, Text.size_cons, ← Nat.add_assoc]
    simp only [List.append_assoc, List.singleton_append]
    split <;> rfl

theorem le_of_mem_startsBefore (h : x ∈ startsBefore offset pre rest) :
    x ≤ offset + pre.size := by
  induction pre generalizing offset with
  | nil => simp [startsBefore] at h
  | cons c pre ih =>
    rw [Text.size_cons]
    rw [startsBefore] at h
    split at h
    · rcases List.mem_cons.mp h with rfl | h
      · omega
      · have := ih h
        omega
    · have := ih h
      omega

theorem le_of_mem_startsFrom (h : x ∈ startsFrom offset (c :: rest)) :
    offset + c.utf8Size ≤ x := by
  have hlater : ∀ (rest : Text) (o : Nat), x ∈ startsFrom o rest → o ≤ x := by
    intro rest
    induction rest with
    | nil => simp [startsFrom]
    | cons d rest ih =>
      intro o h
      rw [startsFrom] at h
      split at h
      · rcases List.mem_cons.mp h with rfl | h
        · omega
        · have := ih _ h
          omega
      · have := ih _ h
        omega
  rw [startsFrom] at h
  split at h
  · rcases List.mem_cons.mp h with rfl | h
    · exact Nat.le_refl _
    · exact hlater _ _ h
  · exact hlater _ _ h

/-- The start of the line at the end of `pre`, where `rest` follows. -/
def lineStart (pre rest : Text) : Nat :=
  (startsBefore 0 pre rest).getLastD 0

theorem lineStart_le (pre rest : Text) : lineStart pre rest ≤ pre.size := by
  rw [lineStart, List.getLastD_eq_getLast?]
  cases h : (startsBefore 0 pre rest).getLast? with
  | none => simp
  | some x =>
    have := le_of_mem_startsBefore (List.mem_of_getLast? h)
    simpa using this

/-- **The place of an offset by a cut of the text**, for an offset at the cut or inside the
character after it. -/
theorem locate_of_cut (pre rest : Text)
    (h : ∀ x ∈ startsFrom pre.size rest, pre.size + n < x) :
    (ofText (pre ++ rest)).locate (pre.size + n) =
      ((startsBefore 0 pre rest).length, pre.size + n - lineStart pre rest) := by
  have hstarts : (ofText (pre ++ rest)).starts =
      (0 :: startsBefore 0 pre rest) ++ startsFrom pre.size rest := by
    simp [ofText, startsFrom_append]
  have htake : (ofText (pre ++ rest)).starts.takeWhile (· ≤ pre.size + n) =
      0 :: startsBefore 0 pre rest := by
    rw [hstarts, List.takeWhile_append_of_pos]
    · have hrest : (startsFrom pre.size rest).takeWhile (· ≤ pre.size + n) = [] := by
        rw [List.takeWhile_eq_nil_iff]
        intro hlen hle
        have := h _ (List.get_mem _ ⟨0, hlen⟩)
        have := of_decide_eq_true hle
        omega
      rw [hrest, List.append_nil]
    · intro x hx
      rcases List.mem_cons.mp hx with rfl | hx
      · simp
      · have := le_of_mem_startsBefore hx
        simp only [Nat.zero_add] at this
        simp only [decide_eq_true_eq]
        omega
  rw [locate, htake, hstarts]
  simp only [List.length_cons, Nat.add_sub_cancel, Prod.mk.injEq, true_and]
  congr 1
  rw [lineStart, List.getLastD_eq_getLast?, List.getLast?_eq_getElem?,
    List.getD_append _ _ _ _ (by simp), List.getD_eq_getElem?_getD]
  cases startsBefore 0 pre rest <;> simp

/-! ### Counting along a text -/

theorem locate_zero (t : Text) : (ofText t).locate 0 = (0, 0) := by
  cases t with
  | nil => rfl
  | cons c t =>
    have h := locate_of_cut (n := 0) [] (c :: t) (fun x hx => by
      have := le_of_mem_startsFrom hx
      have := c.utf8Size_pos
      simp only [Text.size_nil] at *
      omega)
    simpa [startsBefore, lineStart] using h

/-- The place of a character. -/
theorem locate_cut (pre : Text) (c : Char) (rest : Text) (hn : n < c.utf8Size) :
    (ofText (pre ++ c :: rest)).locate (pre.size + n) =
      ((startsBefore 0 pre (c :: rest)).length, pre.size + n - lineStart pre (c :: rest)) := by
  refine locate_of_cut pre (c :: rest) ?_
  intro x hx
  have := le_of_mem_startsFrom hx
  omega

/-- **The bytes of a character stand side by side.** -/
theorem locate_add (pre : Text) (c : Char) (rest : Text) (hn : n < c.utf8Size) :
    (ofText (pre ++ c :: rest)).locate (pre.size + n) =
      (((ofText (pre ++ c :: rest)).locate pre.size).1,
        ((ofText (pre ++ c :: rest)).locate pre.size).2 + n) := by
  have hcut := locate_cut pre c rest hn
  have hzero := locate_cut (n := 0) pre c rest c.utf8Size_pos
  have hle := lineStart_le pre (c :: rest)
  rw [Nat.add_zero] at hzero
  rw [hcut, hzero, Prod.mk.injEq]
  exact ⟨rfl, by omega⟩

/-- **The place after a character**: the start of the next line if the character ends its line, and
further to the right otherwise. -/
theorem locate_add_utf8Size (pre : Text) (c : Char) (rest : Text) :
    (ofText (pre ++ c :: rest)).locate (pre.size + c.utf8Size) =
      if endsLine c rest then (((ofText (pre ++ c :: rest)).locate pre.size).1 + 1, 0)
      else (((ofText (pre ++ c :: rest)).locate pre.size).1,
        ((ofText (pre ++ c :: rest)).locate pre.size).2 + c.utf8Size) := by
  have hzero := locate_cut (n := 0) pre c rest c.utf8Size_pos
  have hle := lineStart_le pre (c :: rest)
  have hnext : (ofText (pre ++ c :: rest)).locate (pre.size + c.utf8Size) =
      ((startsBefore 0 (pre ++ [c]) rest).length,
        pre.size + c.utf8Size - lineStart (pre ++ [c]) rest) := by
    have h := locate_of_cut (n := 0) (pre ++ [c]) rest (fun x hx => by
      cases rest with
      | nil => simp [startsFrom] at hx
      | cons d rest =>
        have := le_of_mem_startsFrom hx
        have := d.utf8Size_pos
        omega)
    simpa using h
  rw [Nat.add_zero] at hzero
  rw [hnext, hzero, lineStart, startsBefore_concat]
  split
  · simp
  · simp only [List.append_nil, Prod.mk.injEq, true_and]
    change _ = pre.size - lineStart pre (c :: rest) + _
    have : (startsBefore 0 pre (c :: rest)).getLastD 0 = lineStart pre (c :: rest) := rfl
    omega

/-- Text inside a line moves the place to the right. -/
theorem locate_of_isPlain {part : Text} (hpart : part.IsPlain) (pre rest : Text) :
    (ofText (pre ++ (part ++ rest))).locate (pre.size + part.size) =
      (((ofText (pre ++ (part ++ rest))).locate pre.size).1,
        ((ofText (pre ++ (part ++ rest))).locate pre.size).2 + part.size) := by
  induction part generalizing pre with
  | nil => rfl
  | cons c part ih =>
    obtain ⟨hc, hpart⟩ := List.forall_mem_cons.mp hpart
    have hends : endsLine c (part ++ rest) = false := by simp [endsLine, hc]
    have hnext := locate_add_utf8Size pre c (part ++ rest)
    rw [hends, if_neg Bool.false_ne_true] at hnext
    have hpre : Text.size (pre ++ [c]) = pre.size + c.utf8Size := by simp
    have htext : pre ++ (c :: part ++ rest) = pre ++ [c] ++ (part ++ rest) := by simp
    have hih := ih hpart (pre ++ [c])
    rw [hpre, ← htext] at hih
    rw [Text.size_cons, ← Nat.add_assoc, hih]
    simp only [List.cons_append] at hnext ⊢
    rw [hnext, Nat.add_assoc]

/-- The terminators of lines, before what may follow them. -/
def Terminates (stop rest : Text) : Prop :=
  stop = ['\r', '\n'] ∨ stop = ['\n'] ∨ (stop = ['\r'] ∧ rest.head? ≠ some '\n')

/-- **A terminator leads to the start of the next line.** -/
theorem locate_of_terminates {stop : Text} (pre : Text) (h : Terminates stop rest) :
    (ofText (pre ++ (stop ++ rest))).locate (pre.size + stop.size) =
      (((ofText (pre ++ (stop ++ rest))).locate pre.size).1 + 1, 0) := by
  rcases h with rfl | rfl | ⟨rfl, h⟩
  · have hreturn := locate_add_utf8Size pre '\r' ('\n' :: rest)
    have hfeed := locate_add_utf8Size (pre ++ ['\r']) '\n' rest
    have hends : endsLine '\r' ('\n' :: rest) = false := rfl
    have hends' : endsLine '\n' rest = true := rfl
    rw [hends, if_neg Bool.false_ne_true] at hreturn
    rw [hends', if_pos rfl] at hfeed
    simp only [Text.size_append, Text.size_cons, Text.size_nil, List.append_assoc,
      List.cons_append, List.nil_append, Nat.add_zero, ← Nat.add_assoc] at hreturn hfeed ⊢
    rw [hfeed, hreturn]
  · have hfeed := locate_add_utf8Size pre '\n' rest
    have hends : endsLine '\n' rest = true := rfl
    rw [hends, if_pos rfl] at hfeed
    exact hfeed
  · have hreturn := locate_add_utf8Size pre '\r' rest
    have hends : endsLine '\r' rest = true := by simpa [endsLine] using h
    rw [hends, if_pos rfl] at hreturn
    exact hreturn

end LineIndex

end GrammarWorkbench
