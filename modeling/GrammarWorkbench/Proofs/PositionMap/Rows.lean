import GrammarWorkbench.PositionMap.Format
import GrammarWorkbench.Proofs.Text.Blanks
import GrammarWorkbench.Proofs.Text.Lines
import GrammarWorkbench.Proofs.Text.Numerals
import GrammarWorkbench.Proofs.Text.Split
import Mathlib.Data.List.Forall2

/-!
# The rows of a map file

What a row of a map file is, and what is wrong with a line that is none, is said here without the
reader: `GrammarWorkbench.MapRun.IsRow` and `GrammarWorkbench.MapRun.Fault`. The reader accepts
exactly the rows (`GrammarWorkbench.MapRun.parse_eq_ok_iff`) and blames every other line for exactly
its fault (`GrammarWorkbench.MapRun.parse_eq_error_iff`).

The five fields of a row are read one after the other, and the first one that is no numeral decides.
So a line is read as a list of numbers, by a traversal that stops at the first failure
(`GrammarWorkbench.MapRun.map_numbers_parse`).

The rows of a file are read in the same way, but blank lines are passed over; they count in the
numbers of the lines all the same (`GrammarWorkbench.PositionMap.parseRuns_eq_error_iff`).
-/

namespace GrammarWorkbench

/-! ### Traversals that stop at the first failure -/

section Traversal

variable {α β ε : Type} {f : α → Except ε β} {l : List α} {out : List β} {e : ε}

theorem map_eq_ok_iff {x : Except ε α} {g : α → β} {y : β} :
    x.map g = .ok y ↔ ∃ a, x = .ok a ∧ g a = y := by
  rcases x with e | a <;> simp [Except.map]

theorem map_eq_error_iff {x : Except ε α} {g : α → β} : x.map g = .error e ↔ x = .error e := by
  rcases x with e | a <;> simp [Except.map]

theorem mapM_eq_ok_iff : l.mapM f = .ok out ↔ List.Forall₂ (fun x y => f x = .ok y) l out := by
  induction l generalizing out with
  | nil => simp [pure, Except.pure, eq_comm]
  | cons x l ih =>
    rw [List.mapM_cons, List.forall₂_cons_left_iff]
    simp only [← ih]
    rcases f x with e | y
    · simp [bind, Except.bind]
    · rcases l.mapM f with e | ys
      · simp [bind, Except.bind]
      · simp [bind, Except.bind, pure, Except.pure, eq_comm]

theorem exists_forall₂_iff {R : α → β → Prop} :
    (∃ out, List.Forall₂ R l out) ↔ ∀ x ∈ l, ∃ y, R x y := by
  induction l with
  | nil => simp
  | cons x l ih =>
    rw [List.forall_mem_cons, ← ih]
    constructor
    · rintro ⟨_, hx | ⟨hx, hl⟩⟩
      exact ⟨⟨_, hx⟩, _, hl⟩
    · rintro ⟨⟨y, hx⟩, ys, hl⟩
      exact ⟨y :: ys, .cons hx hl⟩

/-- **The first element that has a property `Q`**, after elements that have `P`, is the first one of
all or comes later. The property may depend on how many elements come before. -/
theorem exists_first_cons_iff {P : α → Prop} {Q : Nat → α → Prop} {a : α} :
    (∃ before x after, a :: l = before ++ x :: after ∧ (∀ b ∈ before, P b) ∧ Q before.length x) ↔
      Q 0 a ∨ P a ∧ ∃ before x after, l = before ++ x :: after ∧ (∀ b ∈ before, P b) ∧
        Q (before.length + 1) x := by
  constructor
  · rintro ⟨before, x, after, heq, hbefore, hx⟩
    rcases before with _ | ⟨b, before⟩
    · obtain ⟨rfl, -⟩ := List.cons.inj heq
      exact Or.inl hx
    · obtain ⟨rfl, rfl⟩ := List.cons.inj heq
      obtain ⟨ha, hbefore⟩ := List.forall_mem_cons.mp hbefore
      exact Or.inr ⟨ha, before, x, after, rfl, hbefore, hx⟩
  · rintro (ha | ⟨ha, before, x, after, rfl, hbefore, hx⟩)
    · exact ⟨[], a, l, rfl, by simp, ha⟩
    · exact ⟨a :: before, x, after, rfl, List.forall_mem_cons.mpr ⟨ha, hbefore⟩, hx⟩

/-- **A traversal fails at the first element that fails.** -/
theorem mapM_eq_error_iff : l.mapM f = .error e ↔ ∃ before x after, l = before ++ x :: after ∧
    (∀ b ∈ before, ∃ y, f b = .ok y) ∧ f x = .error e := by
  induction l with
  | nil => simp [pure, Except.pure]
  | cons x l ih =>
    rw [List.mapM_cons, exists_first_cons_iff (P := fun b => ∃ y, f b = .ok y)
      (Q := fun _ x => f x = .error e), ← ih]
    rcases f x with e' | y
    · simp [bind, Except.bind]
    · rcases l.mapM f with e' | ys <;> simp [bind, Except.bind, pure, Except.pure]

end Traversal

/-! ### One row -/

namespace MapRun

variable {r : MapRun} {line field : Text} {n : Nat} {reason : MapLineError}

/-- The numbers of a run, in the order in which they are written. -/
def numbers (r : MapRun) : List Nat :=
  [r.line, r.column, r.targetLine, r.targetColumn, r.length]

theorem numbers_injective : Function.Injective numbers := by
  rintro ⟨a, b, c, d, e⟩ ⟨a', b', c', d', e'⟩ h
  simpa [numbers] using h

/-- **A row of a map**: without the blanks around it, it is the numerals of the numbers of a run,
with commas between them. -/
def IsRow (line : Text) (r : MapRun) : Prop :=
  ∃ fields, Text.IsSplit ',' line.trim fields ∧ List.Forall₂ Text.IsNumeral fields r.numbers

/-- **What is wrong with a line.** -/
inductive Fault (line : Text) : MapLineError → Prop
  /-- The line has another number of fields than five. -/
  | fieldCount (fields : List Text) : Text.IsSplit ',' line.trim fields → fields.length ≠ 5 →
      Fault line (.fieldCount fields.length)
  /-- Of five fields, this is the leftmost one that is no numeral. -/
  | badNumber (before : List Text) (field : Text) (after : List Text) :
      Text.IsSplit ',' line.trim (before ++ field :: after) →
      (before ++ field :: after).length = 5 → (∀ f ∈ before, ∃ n, Text.IsNumeral f n) →
      (¬∃ n, Text.IsNumeral field n) → Fault line (.badNumber field)

theorem readField_eq_ok_iff : readField field = .ok n ↔ Text.IsNumeral field n := by
  rw [← Text.numeral?_eq_some_iff, readField]
  rcases field.numeral? with _ | m <;> simp

theorem readField_eq_error_iff : readField field = .error reason ↔
    (¬∃ n, Text.IsNumeral field n) ∧ reason = .badNumber field := by
  simp only [← Text.numeral?_eq_some_iff, readField]
  rcases field.numeral? with _ | m <;> simp [eq_comm]

/-- A line with another number of fields is refused. -/
theorem parse_of_length_ne (h : (line.splitAt ',').length ≠ 5) :
    parse line = .error (.fieldCount (line.splitAt ',').length) := by
  rw [parse]
  split
  next heq => simp [heq] at h
  next => rfl

/-- **A line with five fields is read as a list of numbers.** -/
theorem map_numbers_parse (h : (line.splitAt ',').length = 5) :
    (parse line).map numbers = (line.splitAt ',').mapM readField := by
  rw [parse]
  split
  next a b c d e heq =>
    rw [heq]
    simp only [List.mapM_cons, List.mapM_nil]
    rcases readField a with _ | a
    · rfl
    rcases readField b with _ | b
    · rfl
    rcases readField c with _ | c
    · rfl
    rcases readField d with _ | d
    · rfl
    rcases readField e with _ | e <;> rfl
  next hne =>
    match heq : line.splitAt ',', h with
    | [a, b, c, d, e], _ => exact absurd heq (hne a b c d e)

/-- **Exactly the rows are read.** -/
theorem parse_eq_ok_iff : parse line.trim = .ok r ↔ IsRow line r := by
  constructor
  · intro h
    have hlen : (line.trim.splitAt ',').length = 5 := by
      by_contra hlen
      rw [parse_of_length_ne hlen] at h
      exact absurd h (by simp)
    have hfields := map_numbers_parse hlen
    rw [h, Except.map, eq_comm, mapM_eq_ok_iff] at hfields
    simp only [readField_eq_ok_iff] at hfields
    exact ⟨_, Text.splitAt_eq_iff.mp rfl, hfields⟩
  · rintro ⟨fields, hsplit, hfields⟩
    obtain rfl := Text.splitAt_eq_iff.mpr hsplit
    have hread := map_numbers_parse hfields.length_eq
    rw [mapM_eq_ok_iff.mpr (by simpa only [readField_eq_ok_iff] using hfields)] at hread
    obtain ⟨q, hparse, hq⟩ := map_eq_ok_iff.mp hread
    rw [hparse, numbers_injective hq]

/-- **Every other line is refused for its fault.** -/
theorem parse_eq_error_iff : parse line.trim = .error reason ↔ Fault line reason := by
  have hsplit : Text.IsSplit ',' line.trim (line.trim.splitAt ',') := Text.splitAt_eq_iff.mp rfl
  by_cases hlen : (line.trim.splitAt ',').length = 5
  · have hread : parse line.trim = .error reason ↔
        (line.trim.splitAt ',').mapM readField = .error reason := by
      rw [← map_numbers_parse hlen, map_eq_error_iff]
    simp only [hread, mapM_eq_error_iff, readField_eq_ok_iff, readField_eq_error_iff]
    constructor
    · rintro ⟨before, field, after, heq, hbefore, hfield, rfl⟩
      rw [heq] at hsplit hlen
      exact .badNumber before field after hsplit hlen hbefore hfield
    · rintro (⟨fields, hfields, hne⟩ | ⟨before, field, after, hfields, -, hbefore, hfield⟩)
      · rw [← Text.splitAt_eq_iff.mpr hfields] at hne
        exact absurd hlen hne
      · exact ⟨before, field, after, Text.splitAt_eq_iff.mpr hfields, hbefore, hfield, rfl⟩
  · rw [parse_of_length_ne hlen, Except.error.injEq]
    constructor
    · rintro rfl
      exact .fieldCount _ hsplit hlen
    · rintro (⟨fields, hfields, -⟩ | ⟨before, field, after, hfields, hlen', -, -⟩)
      · rw [Text.splitAt_eq_iff.mpr hfields]
      · rw [← Text.splitAt_eq_iff.mpr hfields] at hlen'
        exact absurd hlen' hlen

/-- A line is the row of one run only. -/
theorem IsRow.unique (h : IsRow line r) {q : MapRun} (hq : IsRow line q) : q = r := by
  rw [← parse_eq_ok_iff] at h hq
  exact Except.ok.inj (hq.symm.trans h)

/-- A line has one fault only. -/
theorem Fault.unique (h : Fault line reason) {other : MapLineError} (h' : Fault line other) :
    reason = other := by
  rw [← parse_eq_error_iff] at h h'
  exact Except.error.inj (h.symm.trans h')

/-- A row is not at fault. -/
theorem IsRow.not_fault (h : IsRow line r) : ¬Fault line reason := by
  rw [← parse_eq_error_iff, parse_eq_ok_iff.mpr h]
  simp

/-- A row is not blank. -/
theorem IsRow.trim_ne_nil (h : IsRow line r) : line.trim ≠ [] := by
  obtain ⟨fields, hsplit, hfields⟩ := h
  intro hnil
  rw [hnil, ← Text.splitAt_eq_iff] at hsplit
  rw [← hsplit] at hfields
  exact absurd hfields.length_eq (by simp [Text.splitAt, numbers])

/-- A line that is no row is at fault. -/
theorem exists_isRow_or_fault (line : Text) :
    (∃ r, IsRow line r) ∨ ∃ reason, Fault line reason := by
  rcases h : parse line.trim with reason | r
  · exact Or.inr ⟨reason, parse_eq_error_iff.mp h⟩
  · exact Or.inl ⟨r, parse_eq_ok_iff.mp h⟩

end MapRun

/-! ### The rows of a file -/

namespace PositionMap

variable {line : Text} {lines : List Text} {runs : List MapRun} {r : MapRun} {number : Nat}
  {e : MapFormatError} {reason : MapLineError}

/-- **A line that is no reason to refuse a file**: a blank line, or a row. -/
def IsFine (line : Text) : Prop :=
  line.trim = [] ∨ ∃ r, MapRun.IsRow line r

/-- **Each line is blank, or a row, or at fault.** -/
theorem line_cases (line : Text) :
    line.trim = [] ∨ (∃ r, MapRun.IsRow line r) ∨
      (line.trim ≠ [] ∧ ∃ reason, MapRun.Fault line reason) := by
  by_cases hne : line.trim = []
  · exact Or.inl hne
  rcases MapRun.exists_isRow_or_fault line with h | h
  · exact Or.inr (Or.inl h)
  · exact Or.inr (Or.inr ⟨hne, h⟩)

theorem parseRuns_of_blank (h : line.trim = []) (number : Nat) (lines : List Text) :
    parseRuns number (line :: lines) = parseRuns (number + 1) lines := by
  rw [parseRuns, if_pos (Text.trim_eq_nil_iff.mp h)]

theorem parseRuns_of_isRow (h : MapRun.IsRow line r) (number : Nat) (lines : List Text) :
    parseRuns number (line :: lines) = (parseRuns (number + 1) lines).map (r :: ·) := by
  rw [parseRuns, if_neg (mt Text.trim_eq_nil_iff.mpr h.trim_ne_nil), MapRun.parse_eq_ok_iff.mpr h]

theorem parseRuns_of_fault (hne : line.trim ≠ []) (h : MapRun.Fault line reason) (number : Nat)
    (lines : List Text) :
    parseRuns number (line :: lines) = .error (.badLine number reason) := by
  rw [parseRuns, if_neg (mt Text.trim_eq_nil_iff.mpr hne), MapRun.parse_eq_error_iff.mpr h]

/-- **The runs of a file are those of its lines that are not blank**, and all of these are rows. -/
theorem parseRuns_eq_ok_iff (number : Nat) : parseRuns number lines = .ok runs ↔
    List.Forall₂ MapRun.IsRow (lines.filter (·.trim ≠ [])) runs := by
  induction lines generalizing number runs with
  | nil => rw [parseRuns, List.filter_nil, List.forall₂_nil_left_iff, Except.ok.injEq, eq_comm]
  | cons line lines ih =>
    rcases line_cases line with h | ⟨r, h⟩ | ⟨hne, reason, h⟩
    · rw [parseRuns_of_blank h, List.filter_cons_of_neg (by simpa using h), ih]
    · rw [parseRuns_of_isRow h, List.filter_cons_of_pos (by simpa using h.trim_ne_nil),
        List.forall₂_cons_left_iff]
      simp only [map_eq_ok_iff, ← ih (number + 1)]
      constructor
      · rintro ⟨rest, hrest, rfl⟩
        exact ⟨r, rest, h, hrest, rfl⟩
      · rintro ⟨q, rest, hq, hrest, rfl⟩
        exact ⟨rest, hrest, by rw [h.unique hq]⟩
    · rw [parseRuns_of_fault hne h, List.filter_cons_of_pos (by simpa using hne),
        List.forall₂_cons_left_iff]
      refine iff_of_false (by simp) ?_
      rintro ⟨r, rest, hr, -, -⟩
      exact hr.not_fault h

/-- Lines are accepted exactly if all of them are fine. -/
theorem exists_parseRuns_eq_ok_iff (number : Nat) :
    (∃ runs, parseRuns number lines = .ok runs) ↔ ∀ line ∈ lines, IsFine line := by
  simp only [parseRuns_eq_ok_iff, exists_forall₂_iff, List.mem_filter, IsFine,
    or_iff_not_imp_left, decide_eq_true_eq, and_imp, ne_eq]

/-- **A file is refused for its first line that is at fault.** Blank lines count. -/
theorem parseRuns_eq_error_iff : parseRuns number lines = .error e ↔
    ∃ before line after, lines = before ++ line :: after ∧ (∀ l ∈ before, IsFine l) ∧
      line.trim ≠ [] ∧ ∃ reason, MapRun.Fault line reason ∧
        e = .badLine (number + before.length) reason := by
  induction lines generalizing number with
  | nil => simp [parseRuns]
  | cons line lines ih =>
    have hnumber : ∀ before : List Text,
        number + (before.length + 1) = number + 1 + before.length := by omega
    rw [exists_first_cons_iff (P := IsFine) (Q := fun i line => line.trim ≠ [] ∧
      ∃ reason, MapRun.Fault line reason ∧ e = .badLine (number + i) reason)]
    simp only [hnumber]
    rw [← ih]
    rcases line_cases line with h | ⟨r, h⟩ | ⟨hne, reason, h⟩
    · have hfine : IsFine line := Or.inl h
      rw [parseRuns_of_blank h, or_iff_right (fun hbad => hbad.1 h), and_iff_right hfine]
    · have hfine : IsFine line := Or.inr ⟨r, h⟩
      rw [parseRuns_of_isRow h, map_eq_error_iff,
        or_iff_right (fun ⟨_, _, hbad, _⟩ => h.not_fault hbad), and_iff_right hfine]
    · rw [parseRuns_of_fault hne h, Except.error.injEq]
      have hfine : ¬IsFine line := by
        rintro (hblank | ⟨r, hr⟩)
        · exact hne hblank
        · exact hr.not_fault h
      constructor
      · rintro rfl
        exact Or.inl ⟨hne, reason, h, rfl⟩
      · rintro (⟨-, reason', h', rfl⟩ | ⟨hline, -⟩)
        · rw [h.unique h', Nat.add_zero]
        · exact absurd hline hfine

end PositionMap

end GrammarWorkbench
