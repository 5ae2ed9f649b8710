import GrammarWorkbench.Proofs.PositionMap.Coalescing
import GrammarWorkbench.Proofs.PositionMap.Place

/-!
# Copied text can be traced back

A generated file is written piece by piece, some pieces copied from a grammar and some not. The
position map that is made on the way answers for every byte of the file: a copied byte leads to the
place of the grammar where it was copied from, and any other byte leads nowhere. Bytes of line
terminators are left aside.

What the map has to know is kept as a ghost: the **ink** of the output is its text with the offset
in the grammar from which each character was copied. `GrammarWorkbench.PositionMap.Traces` says that
a map is right about some ink. It holds of nothing written, and every call keeps it:

* uncopied text and line terminators leave the map alone, and its runs are behind them;
* a copied line adds a run in front of all others, which may be merged with the last one.

`GrammarWorkbench.WriteCall.lookup_writeAll` puts the calls together.
-/

namespace GrammarWorkbench

/-! ### Runs behind a place -/

namespace PositionMap

variable {m : PositionMap} {runs : List MapRun} {r : MapRun} {line column n : Nat}

/-- **The runs are behind a place** of the generated file: each of them ends at or before it. -/
def Behind (runs : List MapRun) (line column : Nat) : Prop :=
  ∀ r ∈ runs, r.line < line ∨ (r.line = line ∧ r.column + r.length ≤ column)

/-- No run behind a place covers anything from there on. -/
theorem find?_of_behind (h : Behind runs line column) :
    runs.find? (·.covers line (column + n)) = none := by
  rw [List.find?_eq_none]
  intro r hr hcovers
  obtain ⟨hline, -, hlt⟩ := covers_iff.mp hcovers
  have := h r hr
  omega

theorem Behind.extend (h : Behind runs r.line r.column) :
    Behind (extend runs r) r.line (r.column + r.length) := by
  intro q hq
  rcases extend_cases runs r with ⟨heq, -⟩ | ⟨init, last, rfl, hlast, heq⟩
  · rw [heq] at hq
    rcases List.mem_append.mp hq with hq | hq
    · have := h q hq
      omega
    · obtain rfl := List.mem_singleton.mp hq
      exact Or.inr ⟨rfl, Nat.le_refl _⟩
  · rw [heq] at hq
    rcases List.mem_append.mp hq with hq | hq
    · have := h q (List.mem_append_left _ hq)
      omega
    · obtain rfl := List.mem_singleton.mp hq
      obtain ⟨hline, hcolumn, -, -⟩ := continuedBy_iff.mp hlast
      refine Or.inr ⟨hline, ?_⟩
      simp only
      omega

/-- **Before a new run, nothing changes.** -/
theorem lookup_record_of_lt (m : PositionMap)
    (h : line < r.line ∨ (line = r.line ∧ column < r.column)) :
    (m.record r).lookup line column = m.lookup line column := by
  rw [lookup_record, answer, if_neg (by omega), answer, Option.or_none]

/-- **In a new run, the map leads to the place that the run comes from.** -/
theorem lookup_record_self (h : Behind m.runs r.line r.column) (hn : n < r.length) :
    (m.record r).lookup r.line (r.column + n) = some (r.targetLine, r.targetColumn + n) := by
  have hnew : r.line = r.line ∧ r.column ≤ r.column + n ∧ r.column + n < r.column + r.length := by
    omega
  rw [lookup_record, lookup, find?_of_behind h, Option.map_none, Option.none_or, answer,
    if_pos hnew, Nat.add_sub_cancel_left]

end PositionMap

/-! ### Moving on -/

namespace TrackedOutput

variable {o : TrackedOutput} {line column : Nat}

/-- Writing never moves back. -/
theorem le_writeChar (o : TrackedOutput) (c : Char) :
    o.line < (o.writeChar c).line ∨
      (o.line = (o.writeChar c).line ∧ o.column ≤ (o.writeChar c).column) := by
  by_cases hn : c = '\n'
  · subst hn
    cases h : o.afterReturn
    · simp [writeChar_feed h]
    · simp [writeChar_feed_of_afterReturn h]
  · by_cases hr : c = '\r'
    · subst hr
      simp [writeChar_return]
    · simp [writeChar_of_ne hn hr]

theorem le_write (o : TrackedOutput) (t : Text) :
    o.line < (o.write t).line ∨ (o.line = (o.write t).line ∧ o.column ≤ (o.write t).column) := by
  induction t generalizing o with
  | nil => exact Or.inr ⟨rfl, Nat.le_refl _⟩
  | cons c t ih =>
    have hc := le_writeChar o c
    have ht := ih (o.writeChar c)
    rw [write_cons]
    omega

/-- Text inside a line moves to the right. -/
theorem write_of_isPlain {t : Text} (ht : t.IsPlain) :
    (o.write t).line = o.line ∧ (o.write t).column = o.column + t.size := by
  induction t generalizing o with
  | nil => exact ⟨rfl, rfl⟩
  | cons c t ih =>
    obtain ⟨hc, ht⟩ := List.forall_mem_cons.mp ht
    obtain ⟨hline, hcolumn⟩ := ih (o := o.writeChar c) ht
    rw [write_cons, hline, hcolumn, writeChar_of_ne hc.2 hc.1, Text.size_cons]
    exact ⟨rfl, by simp only; omega⟩

end TrackedOutput

/-! ### Ink -/

/-- The characters of a piece of a grammar that starts at the given offset, with their offsets. -/
def inkFrom (offset : Nat) : Text → List (Char × Option Nat)
  | [] => []
  | c :: t => (c, some offset) :: inkFrom (offset + c.utf8Size) t

theorem inkFrom_append (offset : Nat) (t u : Text) :
    inkFrom offset (t ++ u) = inkFrom offset t ++ inkFrom (offset + t.size) u := by
  induction t generalizing offset with
  | nil => rfl
  | cons c t ih => simp [inkFrom, ih, Nat.add_assoc]

@[simp]
theorem map_fst_inkFrom (offset : Nat) (t : Text) : (inkFrom offset t).map Prod.fst = t := by
  induction t generalizing offset with
  | nil => rfl
  | cons c t ih => simp [inkFrom, ih]

theorem inkFrom_eq_append {offset : Nat} {t : Text} {before after : List (Char × Option Nat)}
    {c : Char} {origin : Option Nat} (h : inkFrom offset t = before ++ (c, origin) :: after) :
    ∃ post, t = before.map Prod.fst ++ c :: post ∧
      origin = some (offset + Text.size (before.map Prod.fst)) := by
  induction t generalizing offset before with
  | nil => simp [inkFrom] at h
  | cons d t ih =>
    cases before with
    | nil =>
      obtain ⟨⟨rfl, rfl⟩, -⟩ : (d = c ∧ some offset = origin) ∧ _ := by simpa [inkFrom] using h
      exact ⟨t, rfl, rfl⟩
    | cons b before =>
      obtain ⟨rfl, htail⟩ := List.cons_eq_cons.mp h
      obtain ⟨post, rfl, rfl⟩ := ih htail
      exact ⟨post, rfl, by simp [Nat.add_assoc]⟩

/-- A character of two pieces of ink belongs to one of them. -/
theorem cut_append {ink more before after : List (Char × Option Nat)} {x : Char × Option Nat}
    (h : ink ++ more = before ++ x :: after) :
    (∃ b, before = ink ++ b ∧ more = b ++ x :: after) ∨ ∃ b, ink = before ++ x :: b := by
  rcases List.append_eq_append_iff.mp h with ⟨b, hb, hmore⟩ | ⟨b, hb, hafter⟩
  · exact Or.inl ⟨b, hb, hmore⟩
  · cases b with
    | nil => exact Or.inl ⟨[], by simpa using hb.symm, by simpa using hafter.symm⟩
    | cons y b =>
      obtain ⟨rfl, -⟩ := List.cons_eq_cons.mp hafter
      exact Or.inr ⟨b, hb⟩

/-- The output that has written some ink and nothing else. -/
def outputOf (ink : List (Char × Option Nat)) : TrackedOutput :=
  ({} : TrackedOutput).write (ink.map Prod.fst)

theorem outputOf_append (ink more : List (Char × Option Nat)) :
    outputOf (ink ++ more) = (outputOf ink).write (more.map Prod.fst) := by
  rw [outputOf, List.map_append, TrackedOutput.write_append]
  rfl

/-- **A map is right about some ink**: its runs are behind what comes next, and every character
inside a line leads to the place that it was copied from, or nowhere. -/
structure PositionMap.Traces (grammar : Text) (ink : List (Char × Option Nat)) (m : PositionMap) :
    Prop where
  behind : Behind m.runs (outputOf ink).line (outputOf ink).column
  lookup : ∀ before c origin after, ink = before ++ (c, origin) :: after → c ≠ '\r' → c ≠ '\n' →
    ∀ j < c.utf8Size, m.lookup (outputOf before).line ((outputOf before).column + j) =
      origin.map fun g => (LineIndex.ofText grammar).locate (g + j)

namespace PositionMap

variable {m : PositionMap} {grammar : Text} {ink more : List (Char × Option Nat)}

theorem traces_empty (name grammar : Text) : Traces grammar [] { grammar := name } :=
  ⟨by simp [Behind], by simp⟩

/-- **What is not copied, and what ends a line**, leaves the map alone. -/
theorem Traces.append (h : Traces grammar ink m)
    (hmore : ∀ x ∈ more, x.2 = none ∨ x.1 = '\r' ∨ x.1 = '\n') :
    Traces grammar (ink ++ more) m := by
  have hle := TrackedOutput.le_write (outputOf ink) (more.map Prod.fst)
  refine ⟨fun r hr => ?_, fun before c origin after heq hcr hcn j hj => ?_⟩
  · have := h.behind r hr
    rw [outputOf_append]
    omega
  · rcases cut_append heq with ⟨b, rfl, hb⟩ | ⟨b, hb⟩
    · -- The character is a new one, and all runs are behind it.
      have hmem : (c, origin) ∈ more := by simp [hb]
      obtain rfl : origin = none := by simpa [hcr, hcn] using hmore _ hmem
      have hle := TrackedOutput.le_write (outputOf ink) (b.map Prod.fst)
      have hbehind : Behind m.runs (outputOf (ink ++ b)).line (outputOf (ink ++ b)).column := by
        intro r hr
        have := h.behind r hr
        rw [outputOf_append]
        omega
      rw [PositionMap.lookup, find?_of_behind hbehind]
      rfl
    · exact h.lookup before c origin b hb hcr hcn j hj

/-- **A copied line** is recorded as a run. Its bytes stand side by side in the grammar, and so do
they in the output. -/
theorem Traces.record {part : Text} {offset line column : Nat} (h : Traces grammar ink m)
    (hpart : part.IsPlain)
    (hplace : ∀ pre c post, part = pre ++ c :: post → ∀ j < c.utf8Size,
      (LineIndex.ofText grammar).locate (offset + Text.size pre + j) =
        (line, column + Text.size pre + j)) :
    Traces grammar (ink ++ inkFrom offset part)
      (m.record ⟨(outputOf ink).line, (outputOf ink).column, line, column, part.size⟩) := by
  have hwrite := TrackedOutput.write_of_isPlain (o := outputOf ink) hpart
  refine ⟨?_, fun before c origin after heq hcr hcn j hj => ?_⟩
  · rw [outputOf_append, map_fst_inkFrom, hwrite.1, hwrite.2]
    exact Behind.extend (r := ⟨_, _, line, column, part.size⟩) h.behind
  · rcases cut_append heq with ⟨b, rfl, hb⟩ | ⟨b, rfl⟩
    · obtain ⟨post, rfl, rfl⟩ := inkFrom_eq_append hb
      have hpre : Text.IsPlain (b.map Prod.fst) := fun d hd => hpart d (List.mem_append_left _ hd)
      obtain ⟨hline, hcolumn⟩ := TrackedOutput.write_of_isPlain (o := outputOf ink) hpre
      have hlen : Text.size (b.map Prod.fst) + j < Text.size (b.map Prod.fst ++ c :: post) := by
        simp only [Text.size_append, Text.size_cons]
        omega
      have hself := lookup_record_self (r := ⟨_, _, line, column, _⟩) h.behind hlen
      rw [outputOf_append, hline, hcolumn, Nat.add_assoc, hself, Option.map_some,
        hplace _ c post rfl j hj, Nat.add_assoc]
    · -- The character is an old one, and the new run starts after it.
      have hold := h.lookup before c origin b rfl hcr hcn j hj
      rw [← hold]
      refine lookup_record_of_lt m ?_
      have hle := TrackedOutput.le_write ((outputOf before).writeChar c) (b.map Prod.fst)
      rw [outputOf_append, List.map_cons, TrackedOutput.write_cons]
      simp only [TrackedOutput.writeChar_of_ne hcn hcr] at hle ⊢
      omega

end PositionMap

/-! ### The calls -/

namespace TrackedOutput

variable {o : TrackedOutput} {m : PositionMap} {grammar : Text} {ink : List (Char × Option Nat)}

theorem isEmpty_of_terminates {stop rest : Text} (h : LineIndex.Terminates stop rest) :
    stop.isEmpty = false := by
  rcases h with rfl | rfl | ⟨rfl, -⟩ <;> rfl

/-- What is inside a line of the grammar, written at the place where it stands. -/
theorem traces_line {pre part post : Text} {line column : Nat} (hpart : part.IsPlain)
    (hgrammar : grammar = pre ++ (part ++ post))
    (hplace : part ≠ [] → (LineIndex.ofText grammar).locate pre.size = (line, column))
    (htraces : PositionMap.Traces grammar ink m) :
    PositionMap.Traces grammar (ink ++ inkFrom pre.size part)
      (if part.isEmpty then m
        else m.record ⟨(outputOf ink).line, (outputOf ink).column, line, column, part.size⟩) := by
  by_cases hempty : part = []
  · subst hempty
    simpa [inkFrom] using htraces
  · rw [if_neg (by simpa using hempty)]
    refine htraces.record hpart ?_
    intro p c q hpq j hj
    have hp : p.IsPlain := fun d hd => hpart d (hpq ▸ List.mem_append_left _ hd)
    have hmoved := LineIndex.locate_of_isPlain hp pre (c :: (q ++ post))
    have hinside := LineIndex.locate_add (pre ++ p) c (q ++ post) hj
    have htext : grammar = pre ++ (p ++ c :: (q ++ post)) := by
      rw [hgrammar, hpq]
      simp
    rw [List.append_assoc, ← htext, Text.size_append] at hinside
    rw [← htext] at hmoved
    rw [hinside, hmoved, hplace hempty]

/-- The place of the line after a terminator, if anything of the piece is left there. -/
theorem locate_next {pre part stop rest post : Text} {line column : Nat} (hpart : part.IsPlain)
    (hgrammar : grammar = pre ++ (part ++ (stop ++ (rest ++ post))))
    (hplace : (LineIndex.ofText grammar).locate pre.size = (line, column))
    (hstop : LineIndex.Terminates stop rest) (hrest : rest ≠ []) :
    (LineIndex.ofText grammar).locate (Text.size (pre ++ (part ++ stop))) = (line + 1, 0) := by
  have hstop' : LineIndex.Terminates stop (rest ++ post) := by
    rcases hstop with h | h | ⟨h, hhead⟩
    · exact Or.inl h
    · exact Or.inr (Or.inl h)
    · obtain ⟨c, rest, rfl⟩ := List.exists_cons_of_ne_nil hrest
      exact Or.inr (Or.inr ⟨h, hhead⟩)
  have hmoved := LineIndex.locate_of_isPlain hpart pre (stop ++ (rest ++ post))
  have hnext := LineIndex.locate_of_terminates (pre ++ part) hstop'
  rw [List.append_assoc, ← hgrammar, Text.size_append] at hnext
  rw [← hgrammar, hplace] at hmoved
  rw [Text.size_append, Text.size_append, ← Nat.add_assoc, hnext, hmoved]

/-- **A piece of a grammar is traced line by line.** The induction is on the length of
the piece. The place is the one of the piece in the grammar; where nothing is left of the piece it
does not matter, since the piece may end between the two halves of a line break. -/
theorem traces_writeLinesMapped (n : Nat) :
    ∀ (pre t post : Text) (ink : List (Char × Option Nat)) (m : PositionMap) (line column : Nat),
      t.length ≤ n → grammar = pre ++ (t ++ post) →
      (t ≠ [] → (LineIndex.ofText grammar).locate pre.size = (line, column)) →
      PositionMap.Traces grammar ink m →
      PositionMap.Traces grammar (ink ++ inkFrom pre.size t)
        ((outputOf ink).writeLinesMapped m line column (splitLines t)).2 := by
  induction n with
  | zero =>
    intro pre t post ink m line column hn _ _ htraces
    obtain rfl : t = [] := List.length_eq_zero_iff.mp (Nat.le_zero.mp hn)
    simpa [splitLines, writeLinesMapped, inkFrom] using htraces
  | succ n ih =>
    intro pre t post ink m line column hn hgrammar hplace htraces
    rcases splitLines_cases t with ⟨heq, hplain⟩ | ⟨part, stop, rest, rfl, heq, hpart, hstop⟩
    · have hline := traces_line hplain hgrammar hplace htraces
      rw [heq]
      exact hline
    · have hempty := isEmpty_of_terminates hstop
      have hne : part ++ (stop ++ rest) ≠ [] := by
        intro h
        simp_all
      have hgrammar' : grammar = pre ++ (part ++ (stop ++ (rest ++ post))) := by simp [hgrammar]
      have hline := traces_line hpart hgrammar' (fun _ => hplace hne) htraces
      -- The terminator is written after the line, and adds nothing to the map.
      have hbreak : ∀ x ∈ inkFrom (pre.size + part.size) stop,
          x.2 = none ∨ x.1 = '\r' ∨ x.1 = '\n' := by
        rcases hstop with rfl | rfl | ⟨rfl, -⟩ <;> simp [inkFrom]
      have hended := hline.append hbreak
      have hlen : rest.length ≤ n := by
        have : 0 < stop.length := List.length_pos_iff.mpr (by simpa using hempty)
        simp only [List.length_append] at hn
        omega
      have hnext := ih (pre ++ (part ++ stop)) rest post _ _ (line + 1) 0 hlen
        (by simp [hgrammar']) (locate_next hpart hgrammar' (hplace hne) hstop) hended
      have hink : ink ++ inkFrom pre.size (part ++ (stop ++ rest)) =
          ink ++ inkFrom pre.size part ++ inkFrom (pre.size + part.size) stop ++
            inkFrom (Text.size (pre ++ (part ++ stop))) rest := by
        simp [inkFrom_append, Nat.add_assoc]
      have hout : outputOf (ink ++ inkFrom pre.size part ++ inkFrom (pre.size + part.size) stop) =
          ((outputOf ink).write part).write stop := by
        simp [outputOf_append, write_append]
      rw [hink, heq, writeLinesMapped]
      simp only [hempty, Bool.false_eq_true, if_false]
      rw [hout] at hnext
      exact hnext

end TrackedOutput

/-- **A call** that writes to the output. What is copied is a slice of the grammar, cut at
boundaries of characters. -/
inductive WriteCall (grammar : Text) where
  | str (t : Text)
  | line (t : Text)
  | mapped (start stop : Nat) (hstart : grammar.isBoundary start = true)
      (hstop : grammar.isBoundary stop = true) (hle : start ≤ stop)

namespace WriteCall

variable {grammar : Text}

/-- Carry out a call. A slice is written with its place in the grammar. -/
def apply (out : TrackedOutput × PositionMap) : WriteCall grammar → TrackedOutput × PositionMap
  | str t => (out.1.write t, out.2)
  | line t => (out.1.writeLine t, out.2)
  | mapped start stop _ _ _ =>
    let place := (LineIndex.ofText grammar).locate start
    out.1.writeMapped out.2 (grammar.slice start stop) place.1 place.2

/-- Carry out all calls, with a fresh output and a fresh map for the grammar of that name. -/
def writeAll (name : Text) (calls : List (WriteCall grammar)) : TrackedOutput × PositionMap :=
  calls.foldl apply ({}, { grammar := name })

/-- The ink of a call: what it writes, and from where. -/
def ink : WriteCall grammar → List (Char × Option Nat)
  | str t => t.map (·, none)
  | line t => (t ++ ['\n']).map (·, none)
  | mapped start stop _ _ _ => inkFrom start (grammar.slice start stop)

/-- A slice of the grammar between what stands before it and after it. -/
theorem slice_spec {start : Nat} (stop : Nat) (h : grammar.isBoundary start = true) :
    grammar = grammar.takeBytes start ++ (grammar.slice start stop ++
        (grammar.dropBytes start).dropBytes (stop - start)) ∧
      (grammar.takeBytes start).size = start := by
  refine ⟨?_, by simpa [Text.isBoundary] using h⟩
  rw [Text.slice, Text.takeBytes_append_dropBytes, Text.takeBytes_append_dropBytes]

/-- **One call writes its ink and keeps the map right.** -/
theorem traces_apply {ink : List (Char × Option Nat)} {m : PositionMap} (call : WriteCall grammar)
    (h : PositionMap.Traces grammar ink m) :
    (call.apply (outputOf ink, m)).1 = outputOf (ink ++ call.ink) ∧
      PositionMap.Traces grammar (ink ++ call.ink) (call.apply (outputOf ink, m)).2 := by
  have huncopied : ∀ (t : Text), ∀ x ∈ t.map (fun c => (c, (none : Option Nat))),
      x.2 = none ∨ x.1 = '\r' ∨ x.1 = '\n' := by
    intro t x hx
    obtain ⟨c, -, rfl⟩ := List.mem_map.mp hx
    exact Or.inl rfl
  cases call with
  | str t =>
    refine ⟨?_, h.append (huncopied t)⟩
    simp [apply, WriteCall.ink, outputOf_append, Function.comp_def]
  | line t =>
    refine ⟨?_, h.append (huncopied (t ++ ['\n']))⟩
    simp [apply, WriteCall.ink, outputOf_append, Function.comp_def, TrackedOutput.writeLine,
      TrackedOutput.write_append]
  | mapped start stop hstart hstop hle =>
    obtain ⟨hgrammar, hsize⟩ := slice_spec stop hstart
    have htraces := TrackedOutput.traces_writeLinesMapped _ (grammar.takeBytes start)
      (grammar.slice start stop) _ ink m
      ((LineIndex.ofText grammar).locate start).1 ((LineIndex.ofText grammar).locate start).2
      (Nat.le_refl _) hgrammar (fun _ => by rw [hsize]) h
    rw [hsize] at htraces
    refine ⟨?_, htraces⟩
    rw [WriteCall.ink, outputOf_append, map_fst_inkFrom]
    exact TrackedOutput.writeMapped_fst _ _ _ _ _

/-- **All calls together write their ink, and the map is right about it.** -/
theorem traces_writeAll (name : Text) (calls : List (WriteCall grammar)) :
    (writeAll name calls).1 = outputOf (calls.flatMap ink) ∧
      PositionMap.Traces grammar (calls.flatMap ink) (writeAll name calls).2 := by
  have hcalls : ∀ (calls : List (WriteCall grammar)) (before : List (Char × Option Nat))
      (m : PositionMap), PositionMap.Traces grammar before m →
      (calls.foldl apply (outputOf before, m)).1 = outputOf (before ++ calls.flatMap ink) ∧
        PositionMap.Traces grammar (before ++ calls.flatMap ink)
          (calls.foldl apply (outputOf before, m)).2 := by
    intro calls
    induction calls with
    | nil =>
      intro before m h
      simpa using h
    | cons call calls ih =>
      intro before m h
      obtain ⟨hout, htraces⟩ := traces_apply call h
      have hnext := ih (before ++ call.ink) _ htraces
      have hpair : call.apply (outputOf before, m) =
          (outputOf (before ++ call.ink), (call.apply (outputOf before, m)).2) := by
        rw [← hout]
      rw [List.foldl_cons, hpair, List.flatMap_cons, ← List.append_assoc]
      exact hnext
  exact hcalls calls [] _ (PositionMap.traces_empty name grammar)

/-- **Every byte of the output can be traced back.** The output is what the calls write. A byte that
was copied from the grammar leads to its place there, and a byte that was not copied leads nowhere;
the bytes of line terminators are left aside. -/
theorem lookup_writeAll (name : Text) (calls : List (WriteCall grammar)) :
    (writeAll name calls).1.text = (calls.flatMap ink).map Prod.fst ∧
      ∀ (before after : List (Char × Option Nat)) (c : Char) (origin : Option Nat) (j : Nat),
        calls.flatMap ink = before ++ (c, origin) :: after → c ≠ '\r' → c ≠ '\n' →
        j < c.utf8Size →
        let place := (LineIndex.ofText (writeAll name calls).1.text).locate
          (Text.size (before.map Prod.fst) + j)
        (writeAll name calls).2.lookup place.1 place.2 =
          origin.map fun g => (LineIndex.ofText grammar).locate (g + j) := by
  obtain ⟨hout, htraces⟩ := traces_writeAll name calls
  have htext : (writeAll name calls).1.text = (calls.flatMap ink).map Prod.fst := by
    simp [hout, outputOf]
  refine ⟨htext, fun before after c origin j hink hr hn hj => ?_⟩
  -- The place of the byte in the finished text is the place of the output when it was written.
  have hplaced := TrackedOutput.placed_empty.write (before.map Prod.fst)
  have hplace := hplaced.place (c :: after.map Prod.fst) (fun _ => by simpa using hn)
  have hinside := LineIndex.locate_add (before.map Prod.fst) c (after.map Prod.fst) hj
  have hwhole : (writeAll name calls).1.text = before.map Prod.fst ++ c :: after.map Prod.fst := by
    simp [htext, hink]
  have hempty : (({} : TrackedOutput).write (before.map Prod.fst)).text = before.map Prod.fst := by
    simp
  rw [hempty] at hplace
  rw [hplace] at hinside
  rw [hwhole, hinside]
  exact htraces.lookup before c origin after hink hr hn j hj

/-- A line break whose two halves are written by different calls, the second one copied. -/
theorem lookup_writeAll_halved_break :
    PositionMap.lookup (writeAll [] ([str "x\r".toList, mapped 2 4 rfl rfl (by decide)] :
      List (WriteCall "a\r\nb".toList))).2 1 0 = some (1, 0) :=
  (lookup_writeAll [] [str "x\r".toList, mapped 2 4 rfl rfl (by decide)]).2
    [('x', none), ('\r', none), ('\n', some 2)] [] 'b' (some 3) 0 rfl (by decide) (by decide)
    (by decide)

end WriteCall

end GrammarWorkbench
