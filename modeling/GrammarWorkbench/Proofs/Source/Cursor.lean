import GrammarWorkbench.Proofs.Source.Offsets
import GrammarWorkbench.Proofs.Text.Bytes
import Mathlib.Order.Bounds.Basic

/-!
# The cursor of a buffer

A buffer is read at a byte offset, and a text cannot be cut at every byte: **where an offset lies
inside a character, there is no text behind it** (`GrammarWorkbench.Text.sliceFrom?`), and a program
that asks for one stops. This file shows that no program over a buffer does.

A program over a buffer (`GrammarWorkbench.Buffer.Calls`) moves the cursor to any number at all,
reads, peeks, makes line indexes, and runs other programs whose moves are taken back. It is run as
it is written (`GrammarWorkbench.Buffer.Calls.run?`), with slices that may fail, going back byte by
byte to a boundary, and going through the whole text for a line index; and it is run as the buffer
is defined (`GrammarWorkbench.Buffer.Calls.run`). The invariant is that the cursor is **valid**
(`GrammarWorkbench.Buffer.Valid`). As long as it is, the two runs agree
(`GrammarWorkbench.Buffer.Calls.run?_eq`), and every call keeps it so.

Boundaries are found by the bytes of a text: an offset is one if a character begins with the byte
there, or if the text ends (`GrammarWorkbench.Text.isBoundary_iff_startsAt`).
-/

namespace GrammarWorkbench

/-! ### Boundaries and bytes -/

namespace Text

variable {t : Text} {n : Nat}

/-- **A character starts at an offset**, or the text ends there: the byte at the offset is the first
one of a character. -/
def StartsAt (t : Text) (n : Nat) : Prop :=
  n = t.size ∨ ∃ b, t.bytes[n]? = some b ∧ b.IsUTF8FirstByte

/-- The first byte of a character is told from its other ones. -/
theorem startsAt_add_iff (a : Text) (c : Char) (b : Text) {k : Nat} (hk : k < c.utf8Size) :
    StartsAt (a ++ c :: b) (a.size + k) ↔ k = 0 := by
  have hlength : k < (String.utf8EncodeChar c).length := by rwa [String.length_utf8EncodeChar]
  have hend : a.size + k ≠ (a ++ c :: b).size := by
    rw [size_append, size_cons]
    omega
  rw [StartsAt, or_iff_right hend, getElem?_bytes a c b hk, List.getElem?_eq_getElem hlength,
    ← UInt8.isUTF8FirstByte_getElem_utf8EncodeChar]
  constructor
  · rintro ⟨_, ⟨⟩, hfirst⟩
    exact hfirst
  · intro hfirst
    exact ⟨_, rfl, hfirst⟩

/-- **A boundary is where a character starts**, or the end of the text. -/
theorem isBoundary_iff_startsAt : t.isBoundary n = true ↔ t.StartsAt n := by
  rcases Nat.lt_or_ge t.size n with hlt | hle
  · have htake := size_takeBytes_le_size n t
    have hbyte : t.bytes[n]? = none := List.getElem?_eq_none (by rw [length_bytes]; omega)
    refine iff_of_false (by rw [isBoundary_iff]; omega) ?_
    rintro (rfl | ⟨b, hb, -⟩)
    · exact Nat.lt_irrefl _ hlt
    · cases hbyte.symm.trans hb
  rcases exists_cut hle with ⟨a, b, rfl, rfl⟩ | ⟨a, c, b, rfl, hlo, hhi⟩
  · refine iff_of_true (isBoundary_append a b) ?_
    cases b with
    | nil => exact Or.inl (by rw [List.append_nil])
    | cons c b => exact (startsAt_add_iff a c b c.utf8Size_pos).mpr rfl
  · refine iff_of_false (by rw [isBoundary_of_lt hlo hhi]; exact Bool.false_ne_true) ?_
    obtain ⟨k, rfl⟩ := Nat.exists_eq_add_of_le (Nat.le_of_lt hlo)
    rw [startsAt_add_iff a c b (by omega)]
    omega

/-- The text behind an offset. There is none behind an offset that is no boundary. -/
def sliceFrom? (t : Text) (n : Nat) : Option Text :=
  if t.isBoundary n then some (t.dropBytes n) else none

end Text

namespace Buffer

variable {b : Buffer}

/-! ### Valid cursors -/

/-- **A valid cursor** does not lie behind the text, nor inside a character. -/
structure Valid (b : Buffer) : Prop where
  le_size : b.cursor ≤ b.size
  isBoundary : b.text.isBoundary b.cursor = true

/-- The buffer whose cursor stands between two texts. -/
def cut (before rest : Text) : Buffer :=
  ⟨before ++ rest, before.size⟩

@[simp]
theorem rest_cut (before rest : Text) : (cut before rest).rest = rest :=
  Text.dropBytes_size before rest

/-- **A valid cursor stands between two texts.** -/
theorem valid_iff : b.Valid ↔ ∃ before rest, b = cut before rest := by
  constructor
  · intro h
    refine ⟨b.text.takeBytes b.cursor, b.rest, ?_⟩
    rw [cut, rest, Text.takeBytes_append_dropBytes, Text.isBoundary_iff.mp h.isBoundary]
  · rintro ⟨before, rest, rfl⟩
    refine ⟨?_, Text.isBoundary_append before rest⟩
    rw [size, cut, Text.size_append]
    exact Nat.le_add_right _ _

theorem valid_cut (before rest : Text) : (cut before rest).Valid :=
  valid_iff.mpr ⟨before, rest, rfl⟩

/-- At the end of the text, nothing is read. -/
theorem read_cut_nil (before : Text) : (cut before []).read = (none, cut before []) := by
  rw [read, peek, rest_cut]
  rfl

/-- **Reading moves a character to the other side of the cursor.** -/
theorem read_cut_cons (before : Text) (c : Char) (rest : Text) :
    (cut before (c :: rest)).read = (some c, cut (before ++ [c]) rest) := by
  rw [read, peek, rest_cut, cut, cut, ← List.append_cons, Text.size_append]
  rfl

theorem Valid.read (h : b.Valid) : b.read.2.Valid := by
  obtain ⟨before, rest, rfl⟩ := valid_iff.mp h
  cases rest with
  | nil => exact (read_cut_nil before).symm ▸ h
  | cons c rest =>
    rw [read_cut_cons]
    exact valid_cut _ _

/-- **A cursor that has been moved is valid**, wherever it should have gone. -/
theorem valid_seek (b : Buffer) (n : Nat) : (b.seek n).Valid := by
  refine valid_iff.mpr ⟨b.text.takeBytes n, b.text.dropBytes n, ?_⟩
  rw [cut, Text.takeBytes_append_dropBytes, seek]

/-- **A cursor moves to the last boundary** that lies neither behind the target nor behind the
text. -/
theorem isGreatest_seek (b : Buffer) (n : Nat) :
    IsGreatest {k | k ≤ min n b.size ∧ b.text.StartsAt k} (b.seek n).cursor := by
  have hvalid := valid_seek b n
  have hle := Text.size_takeBytes_le n b.text
  refine ⟨⟨le_min hle hvalid.le_size, Text.isBoundary_iff_startsAt.mp hvalid.isBoundary⟩, ?_⟩
  rintro k ⟨hk, hstarts⟩
  -- What comes before an earlier boundary is a part of what comes before the cursor.
  have hboundary := Text.isBoundary_iff.mp (Text.isBoundary_iff_startsAt.mpr hstarts)
  rw [← Text.takeBytes_takeBytes (hk.trans (min_le_left _ _))] at hboundary
  rw [← hboundary]
  exact Text.size_takeBytes_le_size k _

/-! ### Reading on and on -/

/-- The results of `k` reads in a row, and the buffer after them. -/
def readMany : Nat → Buffer → List (Option Char) × Buffer
  | 0, b => ([], b)
  | k + 1, b => (b.read.1 :: (readMany k b.read.2).1, (readMany k b.read.2).2)

/-- **Reading on and on** gives the characters behind the cursor, and nothing after them. -/
theorem readMany_cut (k : Nat) (before rest : Text) : (cut before rest).readMany k =
    ((rest.take k).map some ++ List.replicate (k - rest.length) none,
      cut (before ++ rest.take k) (rest.drop k)) := by
  induction k generalizing before rest with
  | zero => simp [readMany]
  | succ k ih =>
    cases rest with
    | nil =>
      rw [readMany, read_cut_nil, ih]
      simp [List.replicate_succ]
    | cons c rest =>
      rw [readMany, read_cut_cons, ih]
      simp

/-! ### Calls with their faults -/

/-- The character under the cursor, if there is a text behind the cursor. -/
def peek? (b : Buffer) : Option (Option Char) :=
  (b.text.sliceFrom? b.cursor).map List.head?

/-- Read the character under the cursor, if there is a text behind the cursor. -/
def read? (b : Buffer) : Option (Option Char × Buffer) := do
  match ← b.peek? with
  | none => return (none, b)
  | some c => return (some c, { b with cursor := b.cursor + c.utf8Size })

/-- Move the cursor to the target, but not past the end, and then back to a boundary. -/
def seekBack (b : Buffer) (target : Nat) : Buffer :=
  { b with cursor := b.text.backOff (min target b.size) }

theorem Valid.peek?_eq (h : b.Valid) : b.peek? = some b.peek := by
  rw [peek?, Text.sliceFrom?, if_pos h.isBoundary]
  rfl

theorem Valid.read?_eq (h : b.Valid) : b.read? = some b.read := by
  rw [read?, h.peek?_eq, Buffer.read]
  cases b.peek <;> rfl

/-- What is read is read at a valid cursor. -/
theorem valid_of_read? {result : Option Char × Buffer} (h : b.read? = some result) : b.Valid := by
  by_cases hboundary : b.text.isBoundary b.cursor = true
  · refine ⟨?_, hboundary⟩
    rw [← Text.isBoundary_iff.mp hboundary]
    exact Text.size_takeBytes_le_size b.cursor b.text
  · rw [read?, peek?, Text.sliceFrom?, if_neg hboundary] at h
    cases h

/-- **Reading a character leaves less of the text to read.** -/
theorem lt_of_read? {b' : Buffer} {c : Char} (h : b.read? = some (some c, b')) :
    b'.size - b'.cursor < b.size - b.cursor := by
  have hb := valid_of_read? h
  rw [hb.read?_eq] at h
  obtain ⟨before, rest, rfl⟩ := valid_iff.mp hb
  cases rest with
  | nil =>
    rw [read_cut_nil] at h
    cases h
  | cons c rest =>
    rw [read_cut_cons] at h
    cases h
    have hpos := c.utf8Size_pos
    simp only [size, cut, Text.size_append, Text.size_cons, Text.size_nil]
    omega

theorem seekBack_eq (b : Buffer) (n : Nat) : b.seekBack n = b.seek n := by
  rw [seekBack, size, Text.backOff_eq, Text.takeBytes_min_size, seek]

end Buffer

namespace LineIndex

open Buffer

variable {b b' last : Buffer} {c : Char} {starts : List Nat}

/-- Whether a line ends behind a character that has just been read. Behind a carriage return, this
depends on the character under the cursor. -/
def endsLine? (c : Char) (b : Buffer) : Option Bool :=
  if c = '\n' then some true
  else if c = '\r' then b.peek?.map (· != some '\n')
  else some false

/-- **Read a buffer to its end**, and note where lines start. The loop ends because every character
read brings the cursor closer to the end of the text. -/
def readLines? (starts : List Nat) (b : Buffer) : Option (List Nat × Buffer) :=
  match _hread : b.read? with
  | none => none
  | some (none, last) => some (starts, last)
  | some (some c, b') => do
    let ends ← endsLine? c b'
    readLines? (if ends then starts ++ [b'.cursor] else starts) b'
termination_by b.size - b.cursor
decreasing_by exact lt_of_read? _hread

/-- The line index of a buffer, made from its start, and the buffer with its cursor put back. -/
def scan? (b : Buffer) : Option (LineIndex × Buffer) := do
  let (starts, last) ← readLines? [0] (b.seekBack 0)
  return (⟨starts, last.cursor⟩, { last with cursor := b.cursor })

theorem endsLine?_eq (h : b.Valid) (c : Char) : endsLine? c b = some (endsLine c b.rest) := by
  rw [endsLine?, h.peek?_eq, endsLine]
  split
  next hfeed => rw [hfeed]; rfl
  next hfeed =>
    split
    next hreturn => rw [hreturn]; rfl
    next hreturn => simp [hfeed, hreturn]

/-- The last turn of the loop. -/
theorem readLines?_of_end (hb : b.Valid) (hread : b.read = (none, b)) (noted : List Nat) :
    readLines? noted b = some (noted, b) := by
  have hread? := hb.read?_eq.trans (congrArg some hread)
  rw [readLines?]
  split
  next hfault => cases hread?.symm.trans hfault
  next hend =>
    cases hread?.symm.trans hend
    rfl
  next hmore => cases hread?.symm.trans hmore

/-- A turn of the loop that reads a character. -/
theorem readLines?_of_read (hb : b.Valid) (hb' : b'.Valid) (hread : b.read = (some c, b'))
    (noted : List Nat) : readLines? noted b =
      readLines? (if endsLine c b'.rest then noted ++ [b'.cursor] else noted) b' := by
  have hread? := hb.read?_eq.trans (congrArg some hread)
  rw [readLines?]
  split
  next hfault => cases hread?.symm.trans hfault
  next hend => cases hread?.symm.trans hend
  next hmore =>
    cases hread?.symm.trans hmore
    rw [endsLine?_eq hb']
    rfl

/-- **From a valid cursor, a buffer is read to its end.** -/
theorem Reads.readLines?_eq (h : Reads b starts last) (hb : b.Valid) (noted : List Nat) :
    readLines? noted b = some (noted ++ starts, last) := by
  induction h generalizing noted with
  | @done b hread =>
    have hstay : b.read = (none, b) := by
      rw [Buffer.read] at hread ⊢
      cases hpeek : b.peek with
      | none => rfl
      | some c =>
        rw [hpeek] at hread
        cases hread
    rw [readLines?_of_end hb hstay, List.append_nil]
  | @within b b' last c starts hread hends _ ih =>
    have hb' : b'.Valid := by simpa [hread] using hb.read
    rw [readLines?_of_read hb hb' hread, hends]
    exact ih hb' noted
  | @line b b' last c starts hread hends _ ih =>
    have hb' : b'.Valid := by simpa [hread] using hb.read
    rw [readLines?_of_read hb hb' hread, hends, List.append_cons noted b'.cursor starts]
    exact ih hb' (noted ++ [b'.cursor])

/-- **A line index is made without a fault**, wherever the cursor stands. -/
theorem scan?_eq (b : Buffer) : scan? b = some (scan b) := by
  have hread := (reads_scan b).readLines?_eq (b.valid_seek 0) [0]
  rw [← seekBack_eq] at hread
  rw [scan?, hread, scan_eq]
  have hsize : (b.seek b.size).cursor = b.text.size :=
    congrArg Text.size (Text.takeBytes_of_size_le (Nat.le_refl _))
  change some (LineIndex.mk (0 :: startsFrom 0 b.text) (b.seek b.size).cursor, b) = _
  rw [hsize]
  rfl

end LineIndex

namespace Buffer

variable {b : Buffer}

/-! ### Programs -/

/-- **A program over a buffer**: its calls, one after the other. The calls inside `preserving` are a
program of their own, behind which the cursor is put back. -/
inductive Calls where
  | done
  | seek (target : Nat) (next : Calls)
  | read (next : Calls)
  | peek (next : Calls)
  | scan (next : Calls)
  | preserving (inside next : Calls)

namespace Calls

/-- The buffer after a program. -/
def run : Calls → Buffer → Buffer
  | done, b => b
  | seek target next, b => next.run (b.seek target)
  | read next, b => next.run b.read.2
  | peek next, b => next.run b
  | scan next, b => next.run (LineIndex.scan b).2
  | preserving inside next, b => next.run (b.preserving fun b => ((), inside.run b)).2

/-- The buffer after a program, if no call in it has a fault. -/
def run? : Calls → Buffer → Option Buffer
  | done, b => some b
  | seek target next, b => next.run? (b.seekBack target)
  | read next, b => do
    let (_, b) ← b.read?
    next.run? b
  | peek next, b => do
    let _ ← b.peek?
    next.run? b
  | scan next, b => do
    let (_, b) ← LineIndex.scan? b
    next.run? b
  | preserving inside next, b => do
    let b' ← inside.run? b
    next.run? { b' with cursor := b.cursor }

theorem text_run (calls : Calls) (b : Buffer) : (calls.run b).text = b.text := by
  induction calls generalizing b with
  | done => rfl
  | seek target next ih => exact ih _
  | read next ih =>
    rw [run, ih, Buffer.read]
    cases b.peek <;> rfl
  | peek next ih => exact ih _
  | scan next ih => rw [run, ih, LineIndex.scan_eq]
  | preserving inside next ihinside ih =>
    rw [run, ih]
    exact ihinside b

/-- **A program whose moves are taken back** leaves the buffer as it was. -/
theorem preserving_run (inside : Calls) (b : Buffer) :
    (b.preserving fun b => ((), inside.run b)).2 = b := by
  have htext := inside.text_run b
  have hback : (b.preserving fun b => ((), inside.run b)).2 = ⟨(inside.run b).text, b.cursor⟩ := rfl
  rw [hback, htext]

/-- **Every program keeps the cursor valid.** -/
theorem valid_run (calls : Calls) (hb : b.Valid) : (calls.run b).Valid := by
  induction calls generalizing b with
  | done => exact hb
  | seek target next ih => exact ih (b.valid_seek target)
  | read next ih => exact ih hb.read
  | peek next ih => exact ih hb
  | scan next ih => exact ih (by rwa [LineIndex.scan_eq])
  | preserving inside next _ ih => exact ih (by rwa [preserving_run])

/-- **No program has a fault.** -/
theorem run?_eq (calls : Calls) (hb : b.Valid) : calls.run? b = some (calls.run b) := by
  induction calls generalizing b with
  | done => rfl
  | seek target next ih =>
    rw [run?, run, seekBack_eq]
    exact ih (b.valid_seek target)
  | read next ih =>
    rw [run?, run, hb.read?_eq]
    exact ih hb.read
  | peek next ih =>
    rw [run?, run, hb.peek?_eq]
    exact ih hb
  | scan next ih =>
    rw [run?, run, LineIndex.scan?_eq, LineIndex.scan_eq]
    exact ih hb
  | preserving inside next ihinside ih =>
    have hback : { inside.run b with cursor := b.cursor } = b := inside.preserving_run b
    rw [run?, run, ihinside hb, preserving_run]
    change next.run? { inside.run b with cursor := b.cursor } = _
    rw [hback]
    exact ih hb

/-- **The cursor is always valid.** Whatever a program has done to a buffer, none of its calls has
had a fault, the text is the same, and the cursor is the end of the text or the start of a
character, so that there is a text behind it. From there it moves to the last such place that lies
neither behind the target nor behind the text. Reading gives the characters behind it in order, and
then nothing, from the end of the text. Line indexes, and calls that are taken back, leave it where
it was. -/
theorem valid_cursor (t : Text) (calls : Calls) :
    let b := calls.run (ofText t)
    calls.run? (ofText t) = some b ∧ b.text = t ∧ b.cursor ≤ t.size ∧ t.StartsAt b.cursor ∧
      b.peek? = some b.peek ∧
      (∀ n, IsGreatest {k | k ≤ min n t.size ∧ t.StartsAt k} (b.seek n).cursor) ∧
      (∃ before, t = before ++ b.rest ∧ before.size = b.cursor) ∧
      (∀ k, (b.readMany k).1 =
          (b.rest.take k).map some ++ List.replicate (k - b.rest.length) none ∧
        (b.rest.length ≤ k → (b.readMany k).2.cursor = t.size)) ∧
      (LineIndex.scan b).2 = b ∧
      (∀ inside : Calls, (b.preserving fun b => ((), inside.run b)).2 = b) ∧
      ∀ (α : Type) (act : Buffer → α × Buffer), (b.preserving act).2.cursor = b.cursor := by
  intro b
  have hstart : (ofText t).Valid := valid_cut [] t
  have hvalid : b.Valid := calls.valid_run hstart
  have htext : b.text = t := calls.text_run (ofText t)
  have hsize : b.size = t.size := congrArg Text.size htext
  have hgreatest := b.isGreatest_seek
  rw [hsize, htext] at hgreatest
  have hstarts := Text.isBoundary_iff_startsAt.mp hvalid.isBoundary
  obtain ⟨before, rest, hb⟩ := valid_iff.mp hvalid
  have hcut : t = before ++ rest := by rw [← htext, hb, cut]
  refine ⟨calls.run?_eq hstart, htext, hsize ▸ hvalid.le_size, htext ▸ hstarts, hvalid.peek?_eq,
    hgreatest, ?_, fun k => ?_, ?_, fun inside => inside.preserving_run b, fun α act => rfl⟩
  · rw [hb, rest_cut]
    exact ⟨before, hcut, rfl⟩
  · rw [hb, rest_cut, readMany_cut]
    refine ⟨rfl, fun hle => ?_⟩
    rw [List.take_of_length_le hle, cut, ← hcut]
  · rw [LineIndex.scan_eq]

/-- From inside a character, the cursor goes back to its start, and the character is read whole. -/
example : (Calls.seek 2 (.preserving (.seek (2 ^ 64 - 1) .done) (.read .done))).run?
    (ofText "aé\n".toList) = some ⟨"aé\n".toList, 3⟩ := by decide

end Calls

end Buffer

end GrammarWorkbench
