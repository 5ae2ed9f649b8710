import GrammarWorkbench.PositionMap.Output
import GrammarWorkbench.Proofs.Source.Lines

/-!
# The place of the output

Whatever is recorded about a piece of a grammar, it is written as it is
(`GrammarWorkbench.TrackedOutput.writeMapped_fst`), so the output is a text that grows character by
character.

The output counts lines while it is written, and a line index counts them in the finished text. The
two counts are compared here, at every point of the output and for **everything that may still be
written**: `GrammarWorkbench.TrackedOutput.Placed`.

They differ at one point only. A carriage return ends a line at once in the output, whereas the
index waits for the next character. If that is a line feed, the output is one line ahead of the
index until it is written, and it is the reason why the output remembers the carriage return.
-/

namespace GrammarWorkbench

namespace TrackedOutput

variable {o : TrackedOutput} {c : Char} {t : Text}

/-! ### What is written -/

/-- A line feed is the second half of a line break after a carriage return. -/
theorem writeChar_feed_of_afterReturn (h : o.afterReturn = true) :
    o.writeChar '\n' = { o with text := o.text ++ ['\n'], afterReturn := false } := by
  simp [writeChar, h]

theorem writeChar_feed (h : o.afterReturn = false) :
    o.writeChar '\n' =
      { o with text := o.text ++ ['\n'], line := o.line + 1, column := 0 } := by
  simp [writeChar, h]

theorem writeChar_return (o : TrackedOutput) :
    o.writeChar '\r' =
      { o with text := o.text ++ ['\r'], line := o.line + 1, column := 0, afterReturn := true } :=
  rfl

theorem writeChar_of_ne (hn : c ≠ '\n') (hr : c ≠ '\r') :
    o.writeChar c = { o with
      text := o.text ++ [c], column := o.column + c.utf8Size, afterReturn := false } := by
  simp [writeChar, hn, hr]

@[simp]
theorem text_writeChar (o : TrackedOutput) (c : Char) : (o.writeChar c).text = o.text ++ [c] := by
  by_cases hn : c = '\n'
  · subst hn
    cases h : o.afterReturn
    · rw [writeChar_feed h]
    · rw [writeChar_feed_of_afterReturn h]
  · by_cases hr : c = '\r'
    · subst hr
      rfl
    · rw [writeChar_of_ne hn hr]

@[simp]
theorem write_nil (o : TrackedOutput) : o.write [] = o := rfl

theorem write_cons (o : TrackedOutput) (c : Char) (t : Text) :
    o.write (c :: t) = (o.writeChar c).write t := rfl

theorem write_append (o : TrackedOutput) (t u : Text) : o.write (t ++ u) = (o.write t).write u :=
  List.foldl_append

@[simp]
theorem text_write (o : TrackedOutput) (t : Text) : (o.write t).text = o.text ++ t := by
  induction t generalizing o with
  | nil => simp
  | cons c t ih => rw [write_cons, ih, text_writeChar, List.append_assoc, List.singleton_append]

/-! ### Pieces of a grammar -/

/-- **How a text is split into lines**: it is one line, or a line and a terminator come first. -/
theorem splitLines_cases (t : Text) :
    (splitLines t = [(t, [])] ∧ t.IsPlain) ∨
      ∃ part stop rest, t = part ++ (stop ++ rest) ∧
        splitLines t = (part, stop) :: splitLines rest ∧
        part.IsPlain ∧ LineIndex.Terminates stop rest := by
  have hplain : Text.IsPlain [] := fun c hc => by simp at hc
  fun_induction splitLines t with
  | case1 => exact Or.inl ⟨rfl, hplain⟩
  | case2 t => exact Or.inr ⟨[], ['\r', '\n'], t, rfl, rfl, hplain, Or.inl rfl⟩
  | case3 c t hne hc =>
    refine Or.inr ⟨[], [c], t, rfl, rfl, hplain, ?_⟩
    rcases hc with rfl | rfl
    · refine Or.inr (Or.inr ⟨rfl, fun hhead => ?_⟩)
      obtain ⟨t', rfl⟩ := List.head?_eq_some_iff.mp hhead
      exact hne t' rfl rfl
    · exact Or.inr (Or.inl rfl)
  | case4 c t hne hc hnil ih =>
    rcases ih with ⟨heq, -⟩ | ⟨part, stop, rest, -, heq, -⟩
    · simp [hnil] at heq
    · simp [hnil] at heq
  | case5 c t hne hc line stop rest heq ih =>
    rw [not_or] at hc
    rcases ih with ⟨ht, hplain'⟩ | ⟨part, stop', rest', rfl, ht, hpart, hstop⟩
    · obtain ⟨⟨rfl, rfl⟩, rfl⟩ : (line = t ∧ stop = []) ∧ rest = [] := by
        simpa using heq.symm.trans ht
      exact Or.inl ⟨rfl, List.forall_mem_cons.mpr ⟨hc, hplain'⟩⟩
    · obtain ⟨⟨rfl, rfl⟩, rfl⟩ : (line = part ∧ stop = stop') ∧ rest = splitLines rest' := by
        simpa using heq.symm.trans ht
      exact Or.inr ⟨c :: line, stop, rest', rfl, rfl, List.forall_mem_cons.mpr ⟨hc, hpart⟩, hstop⟩

/-- The lines of a text with their terminators are the text. -/
theorem flatMap_splitLines (t : Text) : (splitLines t).flatMap (fun p => p.1 ++ p.2) = t := by
  fun_induction splitLines t with
  | case1 => rfl
  | case2 t ih => simp [ih]
  | case3 c t _ _ ih => simp [ih]
  | case4 c t _ _ hnil ih => simp_all
  | case5 c t _ _ line stop rest heq ih => simpa [heq] using ih

theorem writeLinesMapped_fst (o : TrackedOutput) (m : PositionMap) (line column : Nat)
    (parts : List (Text × Text)) :
    (o.writeLinesMapped m line column parts).1 = o.write (parts.flatMap fun p => p.1 ++ p.2) := by
  induction parts generalizing o m line column with
  | nil => rfl
  | cons p parts ih =>
    obtain ⟨part, stop⟩ := p
    rw [writeLinesMapped, List.flatMap_cons, write_append, write_append]
    cases stop with
    | nil => exact ih _ _ _ _
    | cons c stop => exact ih _ _ _ _

/-- **A piece of a grammar is written as it is**, whatever is recorded about it. -/
theorem writeMapped_fst (o : TrackedOutput) (m : PositionMap) (t : Text) (line column : Nat) :
    (o.writeMapped m t line column).1 = o.write t := by
  rw [writeMapped, writeLinesMapped_fst, flatMap_splitLines]

/-! ### The two ways to count lines -/

/-- **The output stands where the line index says**, whatever is written next; after a carriage
return it is one line ahead of a line feed. -/
structure Placed (o : TrackedOutput) : Prop where
  place : ∀ rest : Text, (o.afterReturn = true → rest.head? ≠ some '\n') →
    (LineIndex.ofText (o.text ++ rest)).locate o.text.size = (o.line, o.column)
  ahead : o.afterReturn = true → o.column = 0 ∧ ∀ rest : Text,
    ((LineIndex.ofText (o.text ++ '\n' :: rest)).locate o.text.size).1 + 1 = o.line

theorem placed_empty : Placed {} :=
  ⟨fun rest _ => LineIndex.locate_zero rest, nofun⟩

/-- The place after one more character, by the line index. -/
theorem locate_writeChar (o : TrackedOutput) (c : Char) (rest : Text) :
    (LineIndex.ofText ((o.writeChar c).text ++ rest)).locate (o.writeChar c).text.size =
      if LineIndex.endsLine c rest then
        (((LineIndex.ofText (o.text ++ c :: rest)).locate o.text.size).1 + 1, 0)
      else (((LineIndex.ofText (o.text ++ c :: rest)).locate o.text.size).1,
        ((LineIndex.ofText (o.text ++ c :: rest)).locate o.text.size).2 + c.utf8Size) := by
  have h := LineIndex.locate_add_utf8Size o.text c rest
  simpa using h

/-- **One character keeps the two counts together.** -/
theorem Placed.writeChar (h : o.Placed) (c : Char) : (o.writeChar c).Placed := by
  by_cases hn : c = '\n'
  · subst hn
    have hends : ∀ rest, LineIndex.endsLine '\n' rest = true := fun rest => rfl
    cases hr : o.afterReturn with
    | true =>
      -- The second half of a line break: the output has counted the line already.
      obtain ⟨hzero, hahead⟩ := h.ahead hr
      refine ⟨fun rest _ => ?_, by simp [writeChar_feed_of_afterReturn hr]⟩
      rw [locate_writeChar, hends, if_pos rfl, hahead, writeChar_feed_of_afterReturn hr, hzero]
    | false =>
      refine ⟨fun rest _ => ?_, by simp [writeChar_feed hr, hr]⟩
      rw [locate_writeChar, hends, if_pos rfl, h.place _ (by simp [hr]), writeChar_feed hr]
  · have hplace : ∀ rest, (LineIndex.ofText (o.text ++ c :: rest)).locate o.text.size =
        (o.line, o.column) := fun rest => h.place (c :: rest) (fun _ => by simpa using hn)
    by_cases hr : c = '\r'
    · subst hr
      refine ⟨fun rest hrest => ?_, fun _ => ⟨rfl, fun rest => ?_⟩⟩
      · have hends : LineIndex.endsLine '\r' rest = true := by
          simpa [LineIndex.endsLine] using hrest rfl
        rw [locate_writeChar, hends, if_pos rfl, hplace, writeChar_return]
      · have hends : LineIndex.endsLine '\r' ('\n' :: rest) = false := rfl
        rw [locate_writeChar, hends, if_neg Bool.false_ne_true, hplace, writeChar_return]
    · have hends : ∀ rest, LineIndex.endsLine c rest = false := by
        intro rest
        simp [LineIndex.endsLine, hn, hr]
      refine ⟨fun rest _ => ?_, by simp [writeChar_of_ne hn hr]⟩
      rw [locate_writeChar, hends, if_neg Bool.false_ne_true, hplace, writeChar_of_ne hn hr]

/-- **The output always stands where the line index says.** -/
theorem Placed.write (h : o.Placed) (t : Text) : (o.write t).Placed := by
  induction t generalizing o with
  | nil => exact h
  | cons c t ih => exact ih (h.writeChar c)

end TrackedOutput

end GrammarWorkbench
