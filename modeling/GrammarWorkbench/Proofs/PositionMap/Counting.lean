import Mathlib.Data.List.Infix
import GrammarWorkbench.Proofs.PositionMap.Place
import GrammarWorkbench.Proofs.Text.Bytes

/-!
# The calls do not matter to the count of lines

Text reaches the output in calls, and the calls may cut it anywhere, also between the two halves of
a line break. **The text alone decides where the output stands**: whatever the calls are, and
whatever they record in which maps, it is the output of a single call with all their text
(`GrammarWorkbench.TrackedOutput.writeAll_eq_write`), and that one stands where the line index of
the text says (`GrammarWorkbench.TrackedOutput.locate_size_write`).

The same count is made of the bytes of the text, one by one (`GrammarWorkbench.LineCount.advance`).
A byte of a line terminator is a whole character, and every other byte moves the column by one, so
a character that has several bytes needs no care (`GrammarWorkbench.TrackedOutput.count_write`).

`GrammarWorkbench.TrackedOutput.places_outputs` puts the three counts together, after every call.
-/

namespace GrammarWorkbench

/-! ### Counting bytes -/

/-- Where a text that is read byte by byte has come to. -/
structure LineCount where
  line : Nat := 0
  column : Nat := 0
  /-- Whether the last byte was a carriage return. -/
  afterReturn : Bool := false
deriving DecidableEq, Repr

namespace LineCount

variable {b : UInt8} {bs : List UInt8} {c : Char}

/-- Count one byte: a line feed is 10, and a carriage return is 13. -/
def advance (s : LineCount) (b : UInt8) : LineCount :=
  if b = 10 then
    if s.afterReturn then { s with afterReturn := false }
    else { s with line := s.line + 1, column := 0 }
  else if b = 13 then ⟨s.line + 1, 0, true⟩
  else ⟨s.line, s.column + 1, false⟩

/-- Bytes that end no line move the column. -/
theorem foldl_advance_of_forall_ne (h : ∀ x ∈ b :: bs, x ≠ 10 ∧ x ≠ 13) (s : LineCount) :
    (b :: bs).foldl advance s = ⟨s.line, s.column + (b :: bs).length, false⟩ := by
  induction bs generalizing b s with
  | nil => simp [advance, h b]
  | cons d bs ih =>
    obtain ⟨hb, hbs⟩ := List.forall_mem_cons.mp h
    rw [List.foldl_cons, ih hbs, advance, if_neg hb.1, if_neg hb.2]
    simp only [List.length_cons, LineCount.mk.injEq, true_and, and_true]
    omega

/-- The bytes of line terminators are those characters, and no parts of others. -/
theorem ne_of_mem_utf8EncodeChar (hn : c ≠ '\n') (hr : c ≠ '\r')
    (hb : b ∈ String.utf8EncodeChar c) : b ≠ 10 ∧ b ≠ 13 := by
  constructor
  · rintro rfl
    exact hn (Text.ofUInt8_of_mem_utf8EncodeChar hb (by decide)).symm
  · rintro rfl
    exact hr (Text.ofUInt8_of_mem_utf8EncodeChar hb (by decide)).symm

end LineCount

namespace TrackedOutput

/-- The part of the output that counts. -/
def count (o : TrackedOutput) : LineCount :=
  ⟨o.line, o.column, o.afterReturn⟩

/-- **One character is counted byte by byte.** -/
theorem count_writeChar (o : TrackedOutput) (c : Char) :
    (o.writeChar c).count = (String.utf8EncodeChar c).foldl LineCount.advance o.count := by
  by_cases hn : c = '\n'
  · subst hn
    have hbytes : String.utf8EncodeChar '\n' = [10] := rfl
    rw [hbytes]
    cases hr : o.afterReturn
    · simp [writeChar_feed hr, count, LineCount.advance, hr]
    · simp [writeChar_feed_of_afterReturn hr, count, LineCount.advance, hr]
  · by_cases hr : c = '\r'
    · subst hr
      rfl
    · have hlength := String.length_utf8EncodeChar c
      cases hbytes : String.utf8EncodeChar c with
      | nil =>
        have := c.utf8Size_pos
        simp [hbytes] at hlength
        omega
      | cons b bs =>
        have hne : ∀ x ∈ b :: bs, x ≠ 10 ∧ x ≠ 13 := fun x hx =>
          LineCount.ne_of_mem_utf8EncodeChar hn hr (hbytes ▸ hx)
        rw [LineCount.foldl_advance_of_forall_ne hne, ← hbytes, hlength, writeChar_of_ne hn hr]
        rfl

/-- **A text is counted byte by byte.** -/
theorem count_write (o : TrackedOutput) (t : Text) :
    (o.write t).count = t.bytes.foldl LineCount.advance o.count := by
  induction t generalizing o with
  | nil => rfl
  | cons c t ih => rw [write_cons, ih, count_writeChar, Text.bytes_cons, List.foldl_append]

/-! ### The calls -/

/-- **A call** that writes to the output: a text, a text with a line feed after it, or a piece of a
grammar with its place there and the map that records it. -/
inductive Call where
  | str (t : Text)
  | line (t : Text)
  | mapped (t : Text) (targetLine targetColumn : Nat) (m : PositionMap)

namespace Call

/-- Carry out a call. -/
def apply (o : TrackedOutput) : Call → TrackedOutput
  | str t => o.write t
  | line t => o.writeLine t
  | mapped t targetLine targetColumn m => (o.writeMapped m t targetLine targetColumn).1

/-- What a call writes. -/
def text : Call → Text
  | str t => t
  | line t => t ++ ['\n']
  | mapped t _ _ _ => t

theorem apply_eq_write (o : TrackedOutput) (call : Call) : call.apply o = o.write call.text := by
  cases call with
  | str t => rfl
  | line t => exact (write_append o t ['\n']).symm
  | mapped t targetLine targetColumn m => exact writeMapped_fst o m t targetLine targetColumn

end Call

/-- What some calls write. -/
def textOf (calls : List Call) : Text :=
  calls.flatMap Call.text

/-- Carry out some calls with a fresh output. -/
def writeAll (calls : List Call) : TrackedOutput :=
  calls.foldl Call.apply {}

/-- The fresh output, and the outputs after every call. -/
def outputs (calls : List Call) : List TrackedOutput :=
  calls.scanl Call.apply {}

/-- **Calls write what a single call would.** -/
theorem writeAll_eq_write (calls : List Call) :
    writeAll calls = ({} : TrackedOutput).write (textOf calls) := by
  have hcalls : ∀ o : TrackedOutput, calls.foldl Call.apply o = o.write (textOf calls) := by
    induction calls with
    | nil => exact fun o => rfl
    | cons call calls ih =>
      intro o
      rw [List.foldl_cons, ih, Call.apply_eq_write, ← write_append]
      rfl
  exact hcalls {}

/-- After every call the output is the one of the calls so far. -/
theorem outputs_eq_map_inits (calls : List Call) : outputs calls = calls.inits.map writeAll := by
  have hcalls : ∀ o : TrackedOutput, calls.scanl Call.apply o =
      calls.inits.map fun before => before.foldl Call.apply o := by
    induction calls with
    | nil => exact fun o => rfl
    | cons call calls ih =>
      intro o
      rw [List.scanl_cons, ih, List.inits_cons, List.map_cons, List.map_map]
      rfl
  exact hcalls {}

/-- **A fresh output stands where the line index says**, at the end of what it has written. -/
theorem locate_size_write (t : Text) :
    (LineIndex.ofText t).locate t.size =
      ((({} : TrackedOutput).write t).line, (({} : TrackedOutput).write t).column) := by
  have h := (placed_empty.write t).place [] (by simp)
  simpa using h

/-- **The place of the output is the end of its text.** After every call the output has written the
texts of the calls so far, and it stands where their line index puts the end of that text. Its count
is the one of the bytes of the text, so any other calls with the same text leave it the same. -/
theorem places_outputs (calls : List Call) :
    (outputs calls).map (fun o => (o.text, o.line, o.column)) =
        calls.inits.map (fun before =>
          (textOf before, (LineIndex.ofText (textOf before)).locate (textOf before).size)) ∧
      (writeAll calls).count = (textOf calls).bytes.foldl LineCount.advance {} ∧
      ∀ others : List Call, textOf others = textOf calls → writeAll others = writeAll calls := by
  refine ⟨?_, ?_, fun others h => ?_⟩
  · rw [outputs_eq_map_inits, List.map_map]
    refine List.map_congr_left fun before _ => ?_
    simp [writeAll_eq_write, locate_size_write]
  · rw [writeAll_eq_write, count_write]
    rfl
  · rw [writeAll_eq_write, writeAll_eq_write, h]

/-- A line break whose two halves are written by different calls. -/
example : (outputs [.str "a\r".toList, .mapped "\nb".toList 7 0 { grammar := [] }]).map
    (fun o => (o.line, o.column)) = [(0, 0), (1, 0), (1, 1)] := by
  decide

end TrackedOutput

end GrammarWorkbench
